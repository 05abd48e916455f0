import Compaction.Pattern.CharSet
import Compaction.Text.CharClass

/-!
# Well-formed patterns

* `Group` : a group whose end is still to come, with the parts of its last branch;
* `Scan` : the open groups of a pattern, and the names that groups have;
* `Scan.next?` : the scan behind the next part of a pattern;
* `isWellFormed` : a text is a pattern.

A pattern is the value of a field in braces, so no closing brace is in it, and a count behind an opening
one has no end.
-/

namespace Compaction.Pattern

def maxDepth : Nat := 250

/-- A group whose end is still to come. -/
structure Group where
  mode : Mode := {}
  branches : List Nat := []
  /-- The depths of the parts behind that bar, last first; flags have none, as they cannot be repeated. -/
  parts : List (Option Nat) := []

namespace Group

def add (group : Group) (depth : Nat) : Group := { group with parts := some depth :: group.parts }

/-- The depth of the last branch: a list of at least two parts nests deeper than they do. -/
def branchDepth (group : Group) : Nat := listDepth (group.parts.map fun part => part.getD 0)

def branch (group : Group) : Group :=
  { group with branches := group.branchDepth :: group.branches, parts := [] }

/-- The depth of what is in the group: a choice between branches nests deeper than they do. -/
def depth (group : Group) : Nat := listDepth (group.branchDepth :: group.branches)

/-- The group with its last part repeated, if that is one that can be repeated. -/
def repeatLast? (group : Group) : Option Group :=
  match group.parts with
  | some depth :: parts => some { group with parts := some (depth + 1) :: parts }
  | _ => none

/-- The group with flags as another part, which hold for the rest of it. -/
def change (group : Group) (flags : List Char) : Group :=
  { group with mode := group.mode.change flags, parts := none :: group.parts }

end Group

/-! ## Names -/

/-- The name of a group, and the text behind the bracket that ends it. A letter or a low line comes
first. -/
def groupName? (cs : List Char) : Option (List Char × List Char) :=
  match cs.takeWhile (· != '>'), cs.dropWhile (· != '>') with
  | first :: more, _ :: rest =>
    if (first == '_' || Text.isLetter first)
        && more.all fun c => ['_', '.', '[', ']'].contains c || Text.isAlphanumeric c then
      some (first :: more, rest)
    else none
  | _, _ => none

/-! ## Scans -/

structure Scan where
  group : Group := {}
  around : List Group := []
  names : List (List Char) := []

namespace Scan

def enter (scan : Scan) (mode : Mode) : Scan :=
  { scan with group := { mode }, around := scan.group :: scan.around }

def leave? (scan : Scan) : Option Scan :=
  match scan.around with
  | [] => none
  | parent :: around => some { scan with group := parent.add (scan.group.depth + 1), around }

def add (scan : Scan) (depth : Nat) : Scan := { scan with group := scan.group.add depth }

/-- The scan inside a group with a name, which no other group may have. -/
def enterNamed? (scan : Scan) (cs : List Char) : Option (Scan × List Char) :=
  (groupName? cs).bind fun (name, rest) =>
    if scan.names.contains name then none
    else some ({ scan.enter scan.group.mode with names := name :: scan.names }, rest)

/-- The scan behind flags, which hold inside a new group, or up to the end of the one they are in. -/
def changed? (scan : Scan) (cs : List Char) : Option (Scan × List Char) :=
  (flags? cs).bind fun
    | (flags, ':' :: rest) => some (scan.enter (scan.group.mode.change flags), rest)
    | (flags, ')' :: rest) =>
      if flags.isEmpty then none else some ({ scan with group := scan.group.change flags }, rest)
    | _ => none

/-- The scan behind the start of a group, whose parenthesis is in front of the text. -/
def enter? (scan : Scan) (cs : List Char) : Option (Scan × List Char) :=
  match scan.group.mode.skipBlank cs with
  | '?' :: 'P' :: '<' :: rest => scan.enterNamed? rest
  | '?' :: '<' :: rest => scan.enterNamed? rest
  | '?' :: rest => scan.changed? rest
  | rest => some (scan.enter scan.group.mode, rest)

/-- The scan behind a sign of repetition, and behind the question mark that may follow it. -/
def repeated? (scan : Scan) (cs : List Char) : Option (Scan × List Char) :=
  scan.group.repeatLast?.map fun group =>
    ({ scan with group }, if cs.head? == some '?' then cs.drop 1 else cs)

/-- The scan behind the next part of a pattern that starts with the character `c`. -/
def next? (scan : Scan) (c : Char) (cs : List Char) : Option (Scan × List Char) :=
  match c with
  | '(' => scan.enter? cs
  | ')' => scan.leave?.map fun scan => (scan, cs)
  | '|' => some ({ scan with group := scan.group.branch }, cs)
  | '[' => (charSet? scan.group.mode cs).map fun (depth, rest) => (scan.add depth, rest)
  | '*' => scan.repeated? cs
  | '+' => scan.repeated? cs
  | '?' => scan.repeated? cs
  | '{' => none
  | '.' => if scan.group.mode.unicode then some (scan.add 0, cs) else none
  | '\\' => (escape? scan.group.mode cs).bind fun (a, rest) =>
    if a.isAllowed scan.group.mode then some (scan.add 0, rest) else none
  | _ => some (scan.add 0, cs)

/-- The scan behind a whole pattern, which takes a step for each of its parts and one for its end. -/
def finish? : Nat → Scan → List Char → Option Scan
  | 0, _, _ => none
  | steps + 1, scan, cs =>
    match scan.group.mode.skipBlank cs with
    | [] => some scan
    | c :: rest => (scan.next? c rest).bind fun (scan, rest) => finish? steps scan rest

end Scan

/-- A text is a pattern: every group has its end, and no part is nested too deep. -/
def isWellFormed (cs : List Char) : Bool :=
  (Scan.finish? (cs.length + 1) {} cs).any fun scan =>
    scan.around.isEmpty && decide (scan.group.depth ≤ maxDepth)

end Compaction.Pattern
