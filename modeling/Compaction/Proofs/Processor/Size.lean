import Compaction.Proofs.Policy.Notices
import Compaction.Proofs.Policy.Replacement
import Mathlib.Data.List.Forall2

/-!
# Processors that only shorten

* `NoLonger h h'` : position by position, `h'` has no more characters than `h` (`NoLonger.refl`,
  `NoLonger.trans`, `NoLonger.charTotal_le`, `NoLonger.charLen_lt`);
* `Processor.Shrinking` : the processors in which every notice is short enough for what it replaces;
* `FailedEdits.length_le_of_replacement?`, `LongOutputs.length_le_of_replacement?` : what a policy of such a
  processor writes is no longer than what was there;
* `Processor.Shrinking.noLonger_run` : so no entry gets longer on the way through the stages;
* `shrinking_processors_free_characters` : and what has been freed is the whole difference.
-/

namespace Compaction

/-! ## Transcripts -/

/-- Position by position, no content of `h'` has more characters than that of `h`. -/
def NoLonger (h h' : History) : Prop := List.Forall₂ (fun e e' => e'.charLen ≤ e.charLen) h h'

namespace NoLonger

theorem refl (h : History) : NoLonger h h := List.forall₂_same.mpr fun _ _ => Nat.le_refl _

theorem trans {h₁ h₂ h₃ : History} (h₁₂ : NoLonger h₁ h₂) (h₂₃ : NoLonger h₂ h₃) : NoLonger h₁ h₃ := by
  induction h₁₂ generalizing h₃ with
  | nil => exact h₂₃
  | cons hle _ ih =>
    cases h₂₃ with
    | cons hle' hrest => exact .cons (Nat.le_trans hle' hle) (ih hrest)

theorem charTotal_le {h h' : History} (hle : NoLonger h h') : h'.charTotal ≤ h.charTotal := by
  induction hle with
  | nil => exact Nat.le_refl 0
  | cons he _ ih => exact Nat.add_le_add he ih

theorem charLen_lt {h h' : History} (hle : NoLonger h h') {bound : Nat} (hsize : ∀ e ∈ h, e.charLen < bound) :
    ∀ e ∈ h', e.charLen < bound := by
  induction hle with
  | nil => exact hsize
  | cons he _ ih =>
    rw [List.forall_mem_cons] at hsize ⊢
    exact ⟨Nat.lt_of_le_of_lt he hsize.1, ih hsize.2⟩

end NoLonger

/-! ## Policies -/

variable {s : Standing} {e : Entry} {content : String}

theorem FailedEdits.length_le_of_replacement? {p : FailedEdits} (hc : p.replacement? s e = some content) :
    content.length ≤ e.charLen := by
  unfold replacement? at hc
  split at hc
  · cases hc
  · rename_i hkeep
    simp only [Bool.or_eq_true, Bool.not_eq_true', not_or, Bool.not_eq_false] at hkeep
    obtain rfl := Option.some.inj hc
    exact length_notice_le hkeep.2 p.notice

theorem LongOutputs.length_le_of_replacement? {p : LongOutputs} (hthreshold : 28 ≤ p.threshold)
    (hc : p.replacement? s e = some content) : content.length ≤ e.charLen := by
  unfold replacement? at hc
  split at hc
  · rename_i hdrop
    rw [Bool.and_eq_true, isLong, decide_eq_true_eq] at hdrop
    obtain rfl := Option.some.inj hc
    apply length_omittedNotice_le_charLen
    omega
  · cases hc

/-! ## Processors -/

namespace Processor

theorem noLonger_run {p : Processor} (hp : ∀ name stages, p ≠ .pipeline name stages)
    (hreplace : ∀ s e content, p.replacement? s e = some content → content.length ≤ e.charLen)
    (h : History) : NoLonger h (p.run h) := by
  have hfate : ∀ s e, (p.fate s e).charLen ≤ e.charLen := by
    intro s e
    unfold fate
    split
    · cases hc : p.replacement? s e with
      | none => exact Nat.le_refl _
      | some content => exact hreplace s e content hc
    · exact Nat.le_refl _
  apply List.forall₂_iff_get.mpr
  refine ⟨(p.preserves_run h).length_eq.symm, ?_⟩
  intro i hi hi'
  have hrun := p.getElem?_run hp h i
  rw [List.getElem?_eq_getElem hi, List.getElem?_eq_getElem hi', Option.map_some, Option.some.injEq] at hrun
  rw [List.get_eq_getElem, List.get_eq_getElem, hrun]
  exact hfate _ _

/-- The processors that are built from no change, from policies on failed edits, and from policies on long
outputs with a threshold of at least 28 characters, in pipelines that may nest. -/
inductive Shrinking : Processor → Prop
  | identity : Shrinking .identity
  | failedEdits (policy : FailedEdits) : Shrinking (.failedEdits policy)
  | longOutputs {policy : LongOutputs} (hthreshold : 28 ≤ policy.threshold) : Shrinking (.longOutputs policy)
  | pipeline {name : String} {stages : List Processor} (hstages : ∀ stage ∈ stages, Shrinking stage) :
    Shrinking (.pipeline name stages)

theorem Shrinking.noLonger_run {p : Processor} (hp : p.Shrinking) (h : History) : NoLonger h (p.run h) := by
  induction hp generalizing h with
  | identity => exact NoLonger.refl h
  | failedEdits policy =>
    refine Processor.noLonger_run (fun _ _ => Processor.noConfusion) (fun s e content hc => ?_) h
    exact FailedEdits.length_le_of_replacement? (p := policy) hc
  | longOutputs hthreshold =>
    refine Processor.noLonger_run (fun _ _ => Processor.noConfusion) (fun s e content hc => ?_) h
    exact LongOutputs.length_le_of_replacement? hthreshold hc
  | pipeline _ ih => exact run_pipeline_rel NoLonger.refl NoLonger.trans ih _ h

end Processor

/-- **A shrinking processor never lengthens an entry.** The characters that it frees and those that it leaves
are together those that the transcript had. -/
theorem shrinking_processors_free_characters {p : Processor} (hp : p.Shrinking) (h : History) :
    NoLonger h (p.run h) ∧
    (Stats.between h (p.run h)).charsAfter ≤ (Stats.between h (p.run h)).charsBefore ∧
    (Stats.between h (p.run h)).charsFreed + (Stats.between h (p.run h)).charsAfter =
      (Stats.between h (p.run h)).charsBefore := by
  have hle : NoLonger h (p.run h) := hp.noLonger_run h
  refine ⟨hle, hle.charTotal_le, ?_⟩
  exact Nat.sub_add_cancel hle.charTotal_le

def lineFeeds (n : Nat) : History := [
  { role := .user, content := "task" },
  { role := .user, content := "Your proposed edit has introduced new syntax error(s)." },
  { role := .user, content := String.ofList (List.replicate n '\n') }]

def nestedShrinking : Processor :=
  .pipeline "outer" [.identity, .pipeline "inner"
    [.failedEdits { notice := .short }, .longOutputs { n := 0, maxAge := 0, threshold := 28 }]]

/-- The notice for 29 line feeds is as long as they are, so that only the failed edit gets shorter. -/
theorem shrinking_processors_free_characters_lineFeeds :
    nestedShrinking.Shrinking ∧
    (nestedShrinking.run (lineFeeds 29)).map Entry.charLen = [4, 20, 29] ∧
    (Stats.between (lineFeeds 29) (nestedShrinking.run (lineFeeds 29))).charsFreed +
      (Stats.between (lineFeeds 29) (nestedShrinking.run (lineFeeds 29))).charsAfter = 87 := by
  have hshrinking : nestedShrinking.Shrinking := by
    refine .pipeline ?_
    simp only [List.forall_mem_cons, List.not_mem_nil, false_imp_iff, implies_true, and_true]
    refine ⟨.identity, .pipeline ?_⟩
    simp only [List.forall_mem_cons, List.not_mem_nil, false_imp_iff, implies_true, and_true]
    exact ⟨.failedEdits _, .longOutputs (by decide)⟩
  refine ⟨hshrinking, ?_, ?_⟩
  · simp only [nestedShrinking, Processor.run_pipeline, List.foldl]
    decide
  · rw [(shrinking_processors_free_characters hshrinking (lineFeeds 29)).2.2]
    decide

/-- With a threshold of 27, an output of 28 line feeds is long, and its notice has 29 characters. -/
example : ((Processor.longOutputs { n := 0, maxAge := 0, threshold := 27 }).run (lineFeeds 28)).map
    Entry.charLen = [4, 28, 29] := by
  decide

end Compaction
