import Compaction.Proofs.Policy.Decisions
import Compaction.Proofs.Policy.LongOutputs
import Compaction.Proofs.Policy.StaleWindows
import Compaction.Proofs.Processor.Stages

/-!
# What no compaction changes

* `Processor.preserves_run` : every processor leaves the protected entries of a transcript alone;
* `Move`, `replay`, `recorded` : the life of a transcript, which is appended to and compacted in turn,
  and the entries that came in;
* `preserves_replay` : after every such life the transcript is what came in, up to the content of
  observations other than the first one;
* `protected_entries_survive` : all this together.
-/

namespace Compaction

theorem Processor.preserves_run (p : Processor) (h : History) : Preserves h (p.run h) :=
  Processor.run_rel Preserves.refl Preserves.trans FailedEdits.preserves_process
    LastOutputs.preserves_process LongOutputs.preserves_process StaleWindows.preserves_process p h

/-! ## Runs -/

inductive Move where
  | append (entries : History)
  | compact (p : Processor)

def Move.apply (h : History) : Move → History
  | append entries => h ++ entries
  | compact p => p.run h

def Move.entries : Move → History
  | append entries => entries
  | compact _ => []

/-- The transcript after some moves, empty at first. -/
def replay (moves : List Move) : History := moves.foldl Move.apply []

/-- All entries that some moves bring in. -/
def recorded (moves : List Move) : History := moves.flatMap Move.entries

theorem replay_append (moves more : List Move) :
    replay (moves ++ more) = more.foldl Move.apply (replay moves) := by
  rw [replay, List.foldl_append, replay]

theorem Preserves.apply {h h' : History} (hp : Preserves h h') (move : Move) :
    Preserves (h ++ move.entries) (move.apply h') := by
  cases move with
  | append entries => exact hp.append entries
  | compact p =>
    rw [Move.entries, List.append_nil]
    exact hp.trans (p.preserves_run h')

theorem Preserves.foldl_apply {h h' : History} (hp : Preserves h h') (moves : List Move) :
    Preserves (h ++ recorded moves) (moves.foldl Move.apply h') := by
  induction moves generalizing h h' with
  | nil =>
    rw [recorded, List.flatMap_nil, List.append_nil]
    exact hp
  | cons move moves ih =>
    rw [recorded, List.flatMap_cons, ← List.append_assoc]
    exact ih (hp.apply move)

theorem preserves_replay (moves : List Move) : Preserves (recorded moves) (replay moves) :=
  (Preserves.refl []).foldl_apply moves

/-- **Protected entries survive.** No processor touches them, so that along every run the entries that
are no observations and the first observation ever appended stay where and what they are, and no
compaction changes which observation is the task statement, or how many observations there are. -/
theorem protected_entries_survive :
    (∀ (p : Processor) (h : History), Preserves h (p.run h)) ∧
    (∀ moves : List Move, Preserves (recorded moves) (replay moves)) ∧
    (∀ (moves more : List Move) (i : Nat), i < (replay moves).length →
      ¬ (replay moves).Replaceable i → (replay (moves ++ more))[i]? = (replay moves)[i]?) ∧
    (∀ (moves : List Move) (p : Processor),
      (replay (moves ++ [.compact p])).taskIndex? = (replay moves).taskIndex? ∧
      (replay (moves ++ [.compact p])).observationCount = (replay moves).observationCount) := by
  refine ⟨Processor.preserves_run, preserves_replay, ?_, ?_⟩
  · intro moves more i hi hprotected
    have hlater : Preserves (replay moves ++ recorded more) (replay (moves ++ more)) := by
      rw [replay_append]
      exact (Preserves.refl (replay moves)).foldl_apply more
    rw [hlater.getElem?_eq i fun hr => hprotected ((History.replaceable_append_iff hi _).mp hr),
      List.getElem?_append_left hi]
  · intro moves p
    have hstep : Preserves (replay moves) (replay (moves ++ [.compact p])) := by
      rw [replay_append]
      exact p.preserves_run (replay moves)
    exact ⟨hstep.taskIndex?_eq, hstep.observationCount_eq⟩

end Compaction
