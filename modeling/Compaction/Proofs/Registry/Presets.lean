import Compaction.Proofs.Policy.Bounds
import Compaction.Proofs.Policy.FailedEdits
import Compaction.Proofs.Processor.Size
import Compaction.Proofs.Registry.Builtin

/-!
# What a preset guarantees

* `LongOutputs.getElem?_eq_of_isFailedEdit_run` : a pass over long outputs brings no failed edit back;
* `Builtin.fiveLongNoFailedEdits_guarantees` : what the preset of both policies leaves of a transcript.

The second policy counts what the first one has left. A long failed edit is not long any more when it is counted, so
that an output may stay behind which five long ones stood at first.
-/

namespace Compaction

/-! ## Failed edits -/

variable {h : History} {i : Nat} {e : Entry}

theorem LongOutputs.getElem?_eq_of_isFailedEdit_run {p : LongOutputs}
    (he : ((Processor.longOutputs p).run h)[i]? = some e) (hf : isFailedEdit e = true) : h[i]? = some e := by
  rw [getElem?_run, Option.map_eq_some_iff] at he
  obtain ⟨e₀, he₀, rfl⟩ := he
  split at hf
  · exact absurd (isFailedEdit_iff.mp hf).2 (not_infix_omittedNotice e₀)
  · rename_i hkept
    rw [he₀, if_neg hkept]

/-! ## Five long outputs -/

namespace Builtin

/-- The bounds of the preset: an output is long from 201 characters on. -/
def fiveLong : LongOutputs := { n := 5, maxAge := 10, threshold := 200 }

theorem fiveLongNoFailedEdits_mem : ("max_5_observations_no_fe", fiveLongNoFailedEdits) ∈ all := by
  simp [all]

/-- **What the preset of both policies leaves.** At most five observations other than the task statement have more
than 200 characters, and at most ten observations stand behind each of these. No observation other than the task
statement mentions a failed edit, except perhaps the final entry, which the arguments can rule out as well. No entry
is longer than it was. -/
theorem fiveLongNoFailedEdits_guarantees (args : StageArgs) (h : History) (hsize : ∀ e ∈ h, e.charLen < 2 ^ 64) :
    ∃ p, Registry.builtin.get "max_5_observations_no_fe" args = .ok p ∧
      fiveLong.longFrom (p.run h) 0 ≤ 5 ∧
      (∀ i, fiveLong.IsLongAt (p.run h) i → History.observationsBehind (p.run h) i ≤ 10) ∧
      (∀ i e, (p.run h)[i]? = some e → History.Replaceable (p.run h) i →
        failedEditMarker.toList <:+: e.content.toList →
          i + 1 = (p.run h).length ∧ args.keepLast ≠ some false) ∧
      NoLonger h (p.run h) := by
  have hedits : NoLonger h ((Processor.failedEdits (failedEditsOf args)).run h) :=
    (Processor.Shrinking.failedEdits _).noLonger_run h
  -- What the policy on long outputs is given has no more lines than characters, and a notice of that is short.
  have hshort : ∀ e ∈ (Processor.failedEdits (failedEditsOf args)).run h,
      e.isObservation = true → (omittedNotice e).length ≤ 200 := by
    intro e he _
    have hlines : e.lineCount < 2 ^ 64 :=
      Nat.lt_of_le_of_lt e.lineCount_le_charLen (hedits.charLen_lt hsize e he)
    exact Nat.le_trans (length_omittedNotice_le hlines) (by decide)
  have hpreserves := (Processor.longOutputs fiveLong).preserves_run ((Processor.failedEdits (failedEditsOf args)).run h)
  have hboth := ((Processor.failedEdits (failedEditsOf args)).preserves_run h).trans hpreserves
  refine ⟨_, Registry.builtin_get_of_mem fiveLongNoFailedEdits_mem args, ?_⟩
  rw [Processor.run_pipeline, List.foldl_cons, List.foldl_cons, List.foldl_nil]
  refine ⟨LongOutputs.longFrom_run_le hshort 0, ?_, ?_, ?_⟩
  · intro i hlong
    have hage := (hlong.of_run hshort).2.2
    rwa [← hpreserves.observationsBehind_eq] at hage
  · intro i e he hr hmarker
    have hf : isFailedEdit e = true :=
      isFailedEdit_iff.mpr ⟨((History.replaceable_iff_before he).mp hr).1, hmarker⟩
    obtain ⟨hkeep, hfinal⟩ := FailedEdits.exempt_of_isFailedEdit_run
      (LongOutputs.getElem?_eq_of_isFailedEdit_run he hf) ((hboth.replaceable_iff i).mp hr) hf
    refine ⟨hfinal.trans hboth.length_eq.symm, ?_⟩
    intro hnot
    simp [failedEditsOf, hnot] at hkeep
  · exact hedits.trans ((Processor.Shrinking.longOutputs (by decide)).noLonger_run _)

def longOutput : Entry := { role := .user, content := String.ofList (List.replicate 201 'x') }

theorem charLen_longOutput : longOutput.charLen = 201 := by
  unfold longOutput Entry.charLen
  rw [String.length_ofList, List.length_replicate]

def sixLong : History :=
  [{ role := .user, content := "task" },
    { role := .user, content := "Your proposed edit has introduced new syntax error(s)." }] ++
  List.replicate 6 longOutput ++
  [{ role := .user, content := "Your proposed edit has introduced new syntax error(s)." }]

/-- One of the six is omitted, and so is the failed edit that is not final. -/
theorem fiveLongNoFailedEdits_guarantees_sixLong :
    (∀ e ∈ sixLong, e.charLen < 2 ^ 64) ∧ sixLong.countP fiveLong.isLong = 6 ∧
    ∃ p, Registry.builtin.get "max_5_observations_no_fe" {} = .ok p ∧
      fiveLong.longFrom (p.run sixLong) 0 ≤ 5 ∧
      ∀ i e, (p.run sixLong)[i]? = some e → History.Replaceable (p.run sixLong) i →
        failedEditMarker.toList <:+: e.content.toList → i + 1 = (p.run sixLong).length := by
  have hsize : ∀ e ∈ sixLong, e.charLen < 2 ^ 64 := by
    intro e he
    simp only [sixLong, List.mem_append, List.mem_cons, List.not_mem_nil, or_false, List.mem_replicate] at he
    rcases he with ((rfl | rfl) | ⟨-, rfl⟩) | rfl
    · decide
    · decide
    · rw [charLen_longOutput]
      decide
    · decide
  have hsix : sixLong.countP fiveLong.isLong = 6 := by
    unfold sixLong
    rw [List.countP_append, List.countP_append, List.countP_replicate, LongOutputs.isLong, charLen_longOutput]
    decide
  obtain ⟨p, hget, hlong, -, hmarker, -⟩ := fiveLongNoFailedEdits_guarantees {} sixLong hsize
  refine ⟨hsize, hsix, p, hget, hlong, ?_⟩
  intro i e he hr hinfix
  exact (hmarker i e he hr hinfix).1

end Builtin

end Compaction
