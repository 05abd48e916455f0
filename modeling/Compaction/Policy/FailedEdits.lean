import Compaction.Policy.Revision
import Compaction.Text.Scan

/-!
# Failed edits

When the edit tool rejects a change it prints the whole rejected window. Once the agent has moved on,
such a report is dead weight, and a notice takes its place. The final entry can be exempt, because the
agent may not have reacted to it yet.

* `Notice` : the two notices;
* `isFailedEdit` : an observation that holds the tool's error text;
* `FailedEdits.revisions` : the decision for each entry;
* `FailedEdits.process` : the policy.
-/

namespace Compaction

inductive Notice where
  | output
  | short
  deriving DecidableEq

namespace Notice

def text : Notice → String
  | output => "Output of failed edit omitted."
  | short => "Failed edit omitted."

def label : Notice → String
  | output => "output"
  | short => "short"

/-- All notices, in the order in which messages list them. -/
def all : List Notice := [output, short]

end Notice

/-- What the edit tool prints when a proposed edit fails its check. -/
def failedEditMarker : String := "Your proposed edit has introduced new syntax error"

/-- An observation that holds the edit tool's error text. -/
def isFailedEdit (e : Entry) : Bool :=
  e.isObservation && Text.occursIn failedEditMarker.toList e.content.toList

structure FailedEdits where
  keepLast : Bool := true
  notice : Notice := .output
  deriving DecidableEq

namespace FailedEdits

/-- The task statement is never replaced, and the final entry only if the policy says so. -/
def isExempt (p : FailedEdits) (h : History) (index : Nat) : Bool :=
  some index == h.taskIndex? || p.keepLast && index + 1 == h.length

def revisions (p : FailedEdits) (h : History) : List (Option Revision) :=
  h.mapIdx fun index e =>
    if p.isExempt h index || !isFailedEdit e then none
    else some ⟨p.notice.text, .failedEditStripped index⟩

def process (p : FailedEdits) (h : History) : Outcome :=
  let decisions := p.revisions h
  .ofRevisions h decisions (.failedEditsSummary (decisions.countP Option.isSome))

end FailedEdits

end Compaction
