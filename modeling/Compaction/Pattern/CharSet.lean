import Compaction.Pattern.Escape

/-!
# Sets of characters in a pattern

* `deepest`, `listDepth` : how deep some parts are nested, alone or in a list;
* `OpenSet` : a set whose closing bracket is still to come;
* `behindItem?` : a text in brackets behind a range or a single item;
* `charSet?` : the depth of the set behind an opening bracket.

In a pattern of bytes each set, and each set inside it, must be one of characters from the first half of
the codes, so nothing in brackets can be negated there.
-/

namespace Compaction.Pattern

/-- The greatest of some depths, or 0 if there is none. -/
def deepest (depths : List Nat) : Nat := depths.foldl max 0

/-- The depth of a list of parts: at least two of them nest deeper than one does. -/
def listDepth (depths : List Nat) : Nat := deepest depths + if depths.length ≤ 1 then 0 else 1

/-! ## Open sets -/

structure OpenSet where
  negated : Bool := false
  /-- The depth of what is in front of the last operation between two sets, if there is one. -/
  left : Option Nat := none
  items : List Nat := []
  /-- Nothing but hyphens stands in the brackets so far. -/
  fresh : Bool := true

namespace OpenSet

def add (set : OpenSet) (depth : Nat) : OpenSet :=
  { set with items := depth :: set.items, fresh := false }

def depth (set : OpenSet) : Nat :=
  match set.left with
  | none => listDepth set.items
  | some left => max left (listDepth set.items) + 1

def operate (set : OpenSet) : OpenSet :=
  { set with left := some set.depth, items := [], fresh := false }

/-- The depth of the set at its closing bracket. In a pattern of bytes it may not be negated. -/
def close? (set : OpenSet) (mode : Mode) : Option Nat :=
  if mode.unicode || !set.negated then some (set.depth + 1) else none

/-- The set behind an opening bracket, perhaps of all that is not in the brackets. -/
def start (mode : Mode) (cs : List Char) : OpenSet × List Char :=
  match mode.skipBlank cs with
  | '^' :: rest => ({ negated := true }, rest)
  | rest => ({}, rest)

end OpenSet

/-! ## Items -/

def classNames : List String := [
  "alnum", "alpha", "ascii", "blank", "cntrl", "digit", "graph", "lower", "print", "punct", "space",
  "upper", "word", "xdigit"]

/-- The class between colons behind an opening bracket, up to its closing one: whether it is negated, and
the text behind it. -/
def namedClass? : List Char → Option (Bool × List Char)
  | ':' :: cs =>
    let negated := cs.head? == some '^'
    let name := if negated then cs.drop 1 else cs
    match name.dropWhile (· != ':') with
    | ':' :: ']' :: rest =>
      if classNames.contains (String.ofList (name.takeWhile (· != ':'))) then some (negated, rest)
      else none
    | _ => none
  | _ => none

def Atom.isItem (mode : Mode) : Atom → Bool
  | .literal c _ => mode.unicode || isLow c
  | .place _ => false
  | a => a.isAllowed mode

def Atom.bound? (mode : Mode) : Atom → Option Char
  | .literal c _ => if mode.unicode || isLow c then some c else none
  | _ => none

def atom? (mode : Mode) : List Char → Option (Atom × List Char)
  | [] => none
  | '\\' :: cs => escape? mode cs
  | c :: cs => some (.literal c false, cs)

/-- The character that tells a range from a hyphen that stands for itself. Among blanks, it is looked for
behind one number sign at most. -/
def glance (mode : Mode) (cs : List Char) : Option Char :=
  if mode.spaced then
    match cs.dropWhile Text.isWhiteSpace with
    | '#' :: rest => (rest.dropWhile Text.isWhiteSpace).head?
    | rest => rest.head?
  else cs.head?

/-- The text behind the range or the single item at the start of a text in brackets. -/
def behindItem? (mode : Mode) (cs : List Char) : Option (List Char) := do
  let (first, rest) ← atom? mode cs
  match mode.skipBlank rest with
  | '-' :: more =>
    if glance mode more == some ']' || glance mode more == some '-' then
      if first.isItem mode then some ('-' :: more) else none
    else
      let (last, rest) ← atom? mode (mode.skipBlank more)
      if (← first.bound? mode) ≤ (← last.bound? mode) then some rest else none
  | rest => if first.isItem mode then some rest else none

/-! ## Sets -/

/-- A character that, if it is written twice, is an operation between two sets: what is in both of them,
what is in the first alone, and what is in one of them alone. -/
def isOperation (c : Char) : Bool := c == '&' || c == '-' || c == '~'

/-- The depth of the set that the open ones become, and the text behind its closing bracket; the
innermost one is apart from those around it. It takes a step for each item and each bracket at most. -/
def closing? (mode : Mode) : Nat → OpenSet → List OpenSet → List Char → Option (Nat × List Char)
  | 0, _, _, _ => none
  | steps + 1, set, around, cs =>
    match mode.skipBlank cs with
    | [] => none
    | c :: rest =>
      if set.fresh && (c == '-' || c == ']' && set.items.isEmpty) then
        closing? mode steps { set.add 0 with fresh := c == '-' } around rest
      else if c == ']' then
        match set.close? mode, around with
        | none, _ => none
        | some depth, [] => some (depth, rest)
        | some depth, parent :: around => closing? mode steps (parent.add depth) around rest
      else if c == '[' then
        match namedClass? rest with
        | some (negated, rest) =>
          if mode.unicode || !negated then closing? mode steps (set.add 0) around rest else none
        | none =>
          let (inner, rest) := OpenSet.start mode rest
          closing? mode steps inner (set :: around) rest
      else if isOperation c && rest.head? == some c then
        closing? mode steps set.operate around (rest.drop 1)
      else
        match behindItem? mode (c :: rest) with
        | some rest => closing? mode steps (set.add 0) around rest
        | none => none

/-- The depth of the set behind an opening bracket, and the text behind its closing one. -/
def charSet? (mode : Mode) (cs : List Char) : Option (Nat × List Char) :=
  let (set, rest) := OpenSet.start mode cs
  closing? mode (rest.length + 1) set [] rest

end Compaction.Pattern
