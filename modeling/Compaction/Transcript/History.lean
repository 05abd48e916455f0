import Compaction.Transcript.Entry

/-!
# Histories

* `History` : a transcript, oldest entry first;
* `History.taskIndex?` : the position of the task statement, which is the first observation;
* `History.observationCount` : the number of observations, the task statement included;
* `History.charTotal` : the characters of all contents together;
* `History.numbering` : for each entry, its rank among the observations;
* `Stats.between` : the account of the step from one transcript to another, position by position;
* `Stats.charsFreed` : the characters saved, zero when the transcript grew;
* `Stats.summary` : the account as one line of text.
-/

namespace Compaction

/-- A transcript, oldest entry first. -/
abbrev History := List Entry

namespace History

/-- The position of the task statement: the first observation. -/
def taskIndex? (h : History) : Option Nat := h.findIdx? Entry.isObservation

def observationCount (h : History) : Nat := h.countP Entry.isObservation

def charTotal (h : History) : Nat := h.foldr (fun e total => e.charLen + total) 0

/-- The ranks of the entries of `h` among the observations, of which `before` came before `h`: the
first observation of `h` has rank `before + 1`, and other entries have none. -/
def numberingFrom (before : Nat) : History → List (Option Nat)
  | [] => []
  | e :: h =>
    if e.isObservation then some (before + 1) :: numberingFrom (before + 1) h
    else none :: numberingFrom before h

/-- The ranks of the entries among the observations, the task statement having rank 1. -/
def numbering (h : History) : List (Option Nat) := numberingFrom 0 h

end History

/-! ## Accounts -/

structure Stats where
  entries : Nat
  replaced : Nat
  charsBefore : Nat
  charsAfter : Nat
  deriving DecidableEq

namespace Stats

/-- Compares two transcripts position by position; positions that only one of them has count towards
its size and are not replaced. -/
def between (before after : History) : Stats where
  entries := before.length
  replaced := (before.zip after).countP fun pair => pair.1.content != pair.2.content
  charsBefore := before.charTotal
  charsAfter := after.charTotal

def charsFreed (s : Stats) : Nat := s.charsBefore - s.charsAfter

def summary (s : Stats) : String :=
  toString s.replaced ++ "/" ++ toString s.entries ++ " entries replaced, "
    ++ toString s.charsBefore ++ " -> " ++ toString s.charsAfter ++ " chars ("
    ++ toString s.charsFreed ++ " freed)"

end Stats

end Compaction
