import Compaction.Text.CharClass

/-!
# Modes of a pattern

* `Mode` : how a part of a pattern is read;
* `Mode.skipBlank` : a pattern behind what stands for nothing;
* `isFlag`, `flags?` : the flags that change a mode, as they stand in a group;
* `Mode.change` : the mode behind some flags.
-/

namespace Compaction.Pattern

structure Mode where
  /-- White space stands for nothing, and so does a comment from a number sign to the end of its line. -/
  spaced : Bool := false
  unicode : Bool := true
  deriving DecidableEq

/-! ## Blanks -/

/-- The text behind white space and comments; `comment` says that it starts inside a comment. -/
def behindBlank (comment : Bool) : List Char → List Char
  | [] => []
  | c :: cs =>
    if comment then behindBlank (c != '\n') cs
    else if Text.isWhiteSpace c then behindBlank false cs
    else if c == '#' then behindBlank true cs
    else c :: cs

/-- A pattern behind what stands for nothing in the mode. -/
def Mode.skipBlank (mode : Mode) (cs : List Char) : List Char :=
  if mode.spaced then behindBlank false cs else cs

/-! ## Flags -/

/-- A flag, or the hyphen in front of the flags that are taken away. -/
def isFlag (c : Char) : Bool := ['i', 'm', 's', 'U', 'u', 'R', 'x', '-'].contains c

/-- The flags at the start of a group, up to a colon or to the end of the group. None may be repeated,
and some have to stand behind a hyphen. -/
def flags? (cs : List Char) : Option (List Char × List Char) :=
  let flags := cs.takeWhile fun c => c != ':' && c != ')'
  if flags.all isFlag && decide flags.Nodup && flags.getLast? != some '-' then
    some (flags, cs.dropWhile fun c => c != ':' && c != ')')
  else none

/-- Whether a flag holds, if some flags are given and it held before or not. -/
def holds (flag : Char) (flags : List Char) (before : Bool) : Bool :=
  if (flags.takeWhile (· != '-')).contains flag then true
  else if flags.contains flag then false
  else before

def Mode.change (mode : Mode) (flags : List Char) : Mode where
  spaced := holds 'x' flags mode.spaced
  unicode := holds 'u' flags mode.unicode

end Compaction.Pattern
