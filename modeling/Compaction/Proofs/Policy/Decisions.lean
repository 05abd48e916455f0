import Compaction.Policy.FailedEdits
import Compaction.Policy.LastOutputs
import Compaction.Proofs.Transcript.Protected

/-!
# Decisions position by position

The policies on failed edits and on the last outputs decide about each entry by itself.

* `History.rankAt` : the rank of an observation is the number of observations up to it
  (`History.getElem?_numbering`);
* `FailedEdits.getElem?_revisions`, `LastOutputs.getElem?_revisions` : the decision at a position;
* `FailedEdits.preserves_process`, `LastOutputs.preserves_process` : both policies leave protected
  entries alone.
-/

namespace Compaction

/-! ## Ranks -/

namespace History

/-- The rank that an observation at position `i` has among all observations. -/
def rankAt (h : History) (i : Nat) : Nat := observationCount (h.take i) + 1

theorem rankAt_of_taskIndex? {h : History} {i : Nat} (htask : h.taskIndex? = some i) :
    h.rankAt i = 1 := by
  rw [rankAt, (taskIndex?_eq_some_iff.mp htask).2]

theorem numberingFrom_cons (before : Nat) (e : Entry) (h : History) :
    numberingFrom before (e :: h) =
      (if e.isObservation then some (before + 1) else none) ::
        numberingFrom (before + observationCount [e]) h := by
  cases hobs : e.isObservation <;> simp [numberingFrom, observationCount, hobs]

@[simp] theorem length_numberingFrom (before : Nat) (h : History) :
    (numberingFrom before h).length = h.length := by
  induction h generalizing before with
  | nil => rfl
  | cons e h ih => rw [numberingFrom_cons, List.length_cons, List.length_cons, ih]

theorem getElem?_numberingFrom (before : Nat) (h : History) (i : Nat) :
    (numberingFrom before h)[i]? = h[i]?.map fun e =>
      if e.isObservation then some (before + h.rankAt i) else none := by
  induction h generalizing before i with
  | nil => rfl
  | cons e h ih =>
    rw [numberingFrom_cons]
    cases i with
    | zero => rfl
    | succ i =>
      have hrank : rankAt (e :: h) (i + 1) = observationCount [e] + rankAt h i := by
        rw [rankAt, rankAt, List.take_succ_cons, ← List.singleton_append, observationCount,
          List.countP_append, Nat.add_assoc]
        rfl
      rw [List.getElem?_cons_succ, List.getElem?_cons_succ, ih, hrank, Nat.add_assoc]

theorem getElem?_numbering (h : History) (i : Nat) :
    h.numbering[i]? = h[i]?.map fun e => if e.isObservation then some (h.rankAt i) else none := by
  rw [numbering, getElem?_numberingFrom, Nat.zero_add]

end History

/-! ## Failed edits -/

namespace FailedEdits

theorem getElem?_revisions (p : FailedEdits) (h : History) (i : Nat) :
    (p.revisions h)[i]? = h[i]?.map fun e =>
      if p.isExempt h i || !isFailedEdit e then none
      else some ⟨p.notice.text, .failedEditStripped i⟩ := by
  rw [revisions, List.getElem?_mapIdx]

theorem replaceable_of_revisions {p : FailedEdits} {h : History} {i : Nat} {r : Revision}
    (hr : (p.revisions h)[i]? = some (some r)) : h.Replaceable i := by
  rw [getElem?_revisions, Option.map_eq_some_iff] at hr
  obtain ⟨e, he, hr⟩ := hr
  split at hr
  · simp at hr
  · rename_i hkeep
    simp only [isExempt, isFailedEdit, Bool.or_eq_true, Bool.not_eq_true', not_or,
      Bool.not_eq_false, Bool.and_eq_true, beq_iff_eq] at hkeep
    exact ⟨e, he, hkeep.2.1, fun htask => hkeep.1.1 htask.symm⟩

theorem preserves_process (p : FailedEdits) (h : History) : Preserves h (p.process h).history :=
  Preserves.revise (List.length_mapIdx) fun _ _ hr => replaceable_of_revisions hr

end FailedEdits

/-! ## Last outputs -/

namespace LastOutputs

theorem getElem?_revisions (p : LastOutputs) (h : History) (i : Nat) :
    (p.revisions h)[i]? = h[i]?.map fun e =>
      if e.isObservation && !p.keeps h.observationCount (h.rankAt i) then
        some ⟨omittedNotice e, .outputOmitted (h.rankAt i) i⟩
      else none := by
  rw [revisions, List.getElem?_mapIdx, List.zip, List.getElem?_zipWith, History.getElem?_numbering]
  cases h[i]? with
  | none => rfl
  | some e =>
    simp only [Option.map_some]
    cases e.isObservation <;> cases hkeep : p.keeps h.observationCount (h.rankAt i) <;>
      simp [revision, hkeep]

/-- Only the task statement has rank 1, and the policy keeps that rank. -/
theorem replaceable_of_revisions {p : LastOutputs} {h : History} {i : Nat} {r : Revision}
    (hr : (p.revisions h)[i]? = some (some r)) : h.Replaceable i := by
  rw [getElem?_revisions, Option.map_eq_some_iff] at hr
  obtain ⟨e, he, hr⟩ := hr
  split at hr
  · rename_i homit
    simp only [keeps, Bool.and_eq_true, Bool.not_eq_true', Bool.or_eq_false_iff,
      beq_eq_false_iff_ne] at homit
    exact ⟨e, he, homit.1, fun htask => homit.2.1 (History.rankAt_of_taskIndex? htask)⟩
  · simp at hr

theorem length_revisions (p : LastOutputs) (h : History) : (p.revisions h).length = h.length := by
  rw [revisions, List.length_mapIdx, List.length_zip, History.numbering,
    History.length_numberingFrom, Nat.min_self]

theorem preserves_process (p : LastOutputs) (h : History) : Preserves h (p.process h).history :=
  Preserves.revise (p.length_revisions h) fun _ _ hr => replaceable_of_revisions hr

end LastOutputs

end Compaction
