import Compaction.Pattern.Mode
import Compaction.Text.Digits

/-!
# Escapes in a pattern

* `Atom` : what an escape stands for;
* `Atom.isAllowed` : it may stand in a pattern of some mode;
* `escape?` : the escape at the start of a text, behind its backslash.

A pattern is the value of a field in braces, so no closing brace is in it, and an escape that needs one
has no end.
-/

namespace Compaction.Pattern

inductive Atom where
  /-- A character; `byte` says that its code was written with two digits, so that it can be a byte. -/
  | literal (c : Char) (byte : Bool)
  | family (negated : Bool)
  | property
  | place (word : Bool)
  deriving DecidableEq

/-- A character from the first half of the codes of a byte. -/
def isLow (c : Char) : Bool := decide (c.toNat < 0x80)

/-- An atom may stand in a pattern. One of bytes may match nothing that is half a character, and words of
all scripts have no places that a single pass could find. -/
def Atom.isAllowed (mode : Mode) : Atom → Bool
  | .literal c byte => mode.unicode || !byte || isLow c
  | .family negated => mode.unicode || !negated
  | .property => mode.unicode
  | .place word => !(word && mode.unicode)

/-- The number in so many hexadecimal digits, among which blanks may stand, and the text behind them;
`value` is the number in the digits so far. -/
def hexNumber? (mode : Mode) (value : Nat) : Nat → List Char → Option (Nat × List Char)
  | 0, cs => some (value, cs)
  | digits + 1, cs =>
    match mode.skipBlank cs with
    | [] => none
    | c :: rest => (Text.hexValue? c).bind fun digit => hexNumber? mode (value * 16 + digit) digits rest

def coded? (mode : Mode) (digits : Nat) (cs : List Char) : Option (Atom × List Char) :=
  (hexNumber? mode 0 digits cs).bind fun (code, rest) =>
    if code.isValidChar then some (.literal (Char.ofNat code) (digits == 2), rest) else none

/-- The characters of a general category, which has a name of one letter in either case. -/
def property? (mode : Mode) (cs : List Char) : Option (Atom × List Char) :=
  match mode.skipBlank cs with
  | [] => none
  | c :: rest =>
    if ['c', 'l', 'm', 'n', 'p', 's', 'z'].contains c.toLower then some (.property, rest) else none

def control? : Char → Option Char
  | 'a' => some '\x07'
  | 'f' => some '\x0c'
  | 'n' => some '\n'
  | 'r' => some '\r'
  | 't' => some '\t'
  | 'v' => some '\x0b'
  | _ => none

/-- A character that stands for itself behind a backslash: a mark of the first half of the codes, or a
control character. -/
def isMark (c : Char) : Bool := isLow c && !c.isAlphanum && c != '<' && c != '>'

def escape? (mode : Mode) : List Char → Option (Atom × List Char)
  | [] => none
  | c :: cs =>
    if c == 'x' then coded? mode 2 cs
    else if c == 'u' then coded? mode 4 cs
    else if c == 'U' then coded? mode 8 cs
    else if c == 'p' || c == 'P' then property? mode cs
    else if ['d', 's', 'w'].contains c then some (.family false, cs)
    else if ['D', 'S', 'W'].contains c then some (.family true, cs)
    else if ['A', 'z'].contains c then some (.place false, cs)
    else if ['b', 'B', '<', '>'].contains c then some (.place true, cs)
    else if isMark c then some (.literal c false, cs)
    else (control? c).map fun c => (.literal c false, cs)

end Compaction.Pattern
