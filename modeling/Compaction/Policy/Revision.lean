import Compaction.Event

/-!
# Revisions

* `Revision` : what a policy does to one entry that it does not keep;
* `History.revise` : a transcript with a decision applied at each position;
* `Outcome` : the new transcript and the events reported on the way;
* `Outcome.ofRevisions` : the outcome of a list of decisions, reported in order of position;
* `omittedNotice` : the notice that stands for an output which is too old to keep.
-/

namespace Compaction

/-- What a policy does to one entry that it does not keep: new content, and the event that reports it. -/
structure Revision where
  content : String
  event : Event

def Entry.revise (e : Entry) : Option Revision → Entry
  | none => e
  | some r => e.withContent r.content

def History.revise (h : History) (decisions : List (Option Revision)) : History :=
  h.zipWith Entry.revise decisions

/-- The events of the decisions that are revisions, in order of position. -/
def revisionEvents (decisions : List (Option Revision)) : List Event :=
  decisions.filterMap fun decision => decision.map Revision.event

/-- What a policy returns: the new transcript and the events reported on the way, first to last. -/
structure Outcome where
  history : History
  events : List Event

/-- The outcome of one decision for each entry, reported in order of position and then summed up. -/
def Outcome.ofRevisions (h : History) (decisions : List (Option Revision)) (summary : Event) :
    Outcome where
  history := h.revise decisions
  events := revisionEvents decisions ++ [summary]

/-- The notice that stands for an output which is too old to keep. -/
def omittedNotice (e : Entry) : String :=
  "Old output omitted (" ++ toString e.lineCount ++ " lines)"

@[simp] theorem History.length_revise (h : History) (decisions : List (Option Revision)) :
    (h.revise decisions).length = min h.length decisions.length := by
  simp [History.revise]

end Compaction
