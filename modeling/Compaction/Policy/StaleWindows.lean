import Compaction.FileView.Window
import Compaction.Policy.Revision

/-!
# Stale windows

Each time the agent scrolls or reopens a file, a new window is printed, and the older windows of that
file become stale. The newest window of each file stays, and the numbered lines of the others collapse
into one line.

* `StaleWindows.windowAt` : the window of an entry that may be collapsed;
* `StaleWindows.step`, `StaleWindows.scan` : the walk from the newest entry to the oldest, with the
  files seen so far;
* `StaleWindows.process` : the policy.
-/

namespace Compaction.StaleWindows

/-- The window that an entry shows, unless the entry is the task statement, which stands at `task`, or
no observation at all. -/
def windowAt (task : Option Nat) (e : Entry) (index : Nat) : Option FileView.Window :=
  if !e.isObservation || some index == task then none else FileView.findWindow e.content

structure Scan where
  seen : List String
  collapsed : Nat
  decisions : List (Option Revision)

/-- One step: a window collapses if a newer window of its file has been passed. -/
def step (task : Option Nat) (pair : Entry × Nat) (s : Scan) : Scan :=
  match windowAt task pair.1 pair.2 with
  | none => { s with decisions := none :: s.decisions }
  | some w =>
    if s.seen.contains w.file then
      { s with
        collapsed := s.collapsed + 1
        decisions := some ⟨FileView.collapse pair.1.content w, .windowCollapsed w.file pair.2 w.lines⟩
          :: s.decisions }
    else { s with seen := w.file :: s.seen, decisions := none :: s.decisions }

/-- The walk over the last entries of a transcript, as far back as `pairs` goes. -/
def scan (task : Option Nat) (pairs : List (Entry × Nat)) : Scan :=
  pairs.foldr (step task) ⟨[], 0, []⟩

/-- Collapses the stale windows of a transcript, and reports them from the newest to the oldest. -/
def process (h : History) : Outcome :=
  let s := scan h.taskIndex? h.zipIdx
  { history := h.revise s.decisions
    events := (revisionEvents s.decisions).reverse ++ [.windowsSummary s.collapsed s.seen.length] }

end Compaction.StaleWindows
