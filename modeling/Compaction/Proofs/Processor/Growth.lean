import Compaction.Proofs.Policy.Replacement

/-!
# Replacements while a transcript grows

* `Processor.replacement?_append` : what a policy writes in place of an observation stays when entries are
  appended;
* `Processor.fate_append` : so an entry that is rewritten keeps its fate;
* `replacements_never_flip` : an entry that a policy has replaced never comes back, and its notice stays
  as it is.

This is no property of pipelines: a later stage may replace the notice of an earlier one once the
transcript has grown.
-/

namespace Compaction

variable {s : Standing} {e : Entry} {content : String}

/-! ## One policy at a time -/

/-- Only the final entry is ever exempt, and an entry that is not the final one never becomes it. -/
theorem FailedEdits.replacement?_append {p : FailedEdits} (hc : p.replacement? s e = some content)
    (more : History) : p.replacement? (s.append more) e = some content := by
  rw [replacement?] at hc ⊢
  by_cases hkept : (p.keepLast && s.final || !isFailedEdit e) = true
  · rw [if_pos hkept] at hc
    cases hc
  · have hkept' : ¬ (p.keepLast && (s.append more).final || !isFailedEdit e) = true := by
      simp only [Standing.append, Bool.or_eq_true, Bool.and_eq_true, not_or, not_and] at hkept ⊢
      exact ⟨fun hkeep hfinal => absurd hfinal (hkept.1 hkeep), hkept.2⟩
    rw [if_neg hkept] at hc
    rw [if_neg hkept', hc]

theorem LastOutputs.replacement?_append {p : LastOutputs} (hc : p.replacement? s e = some content)
    (more : History) : p.replacement? (s.append more) e = some content := by
  rw [replacement?] at hc ⊢
  by_cases hkept : s.behind.length < p.n
  · rw [if_pos hkept] at hc
    cases hc
  · have hkept' : ¬ (s.append more).behind.length < p.n := by
      rw [Standing.append, List.length_append]
      omega
    rw [if_neg hkept] at hc
    rw [if_neg hkept', hc]

/-- Both counts only grow. -/
theorem LongOutputs.replacement?_append {p : LongOutputs} (hc : p.replacement? s e = some content)
    (more : History) : p.replacement? (s.append more) e = some content := by
  rw [replacement?] at hc ⊢
  have hlong : s.behind.countP p.isLong ≤ (s.append more).behind.countP p.isLong := by
    rw [Standing.append, List.countP_append]
    exact Nat.le_add_right _ _
  have hall : s.behind.length ≤ (s.append more).behind.length := by
    rw [Standing.append, List.length_append]
    exact Nat.le_add_right _ _
  split at hc
  · rename_i hdrop
    simp only [Bool.and_eq_true, Bool.or_eq_true, decide_eq_true_eq] at hdrop
    rw [if_pos, hc]
    simp only [Bool.and_eq_true, Bool.or_eq_true, decide_eq_true_eq]
    exact ⟨hdrop.1, hdrop.2.imp (Nat.le_trans · hlong) (Nat.lt_of_lt_of_le · hall)⟩
  · cases hc

theorem StaleWindows.replacement?_append (hc : replacement? s e = some content) (more : History) :
    replacement? (s.append more) e = some content := by
  obtain ⟨w, hw, hc⟩ := Option.bind_eq_some_iff.mp hc
  split at hc
  · rename_i hmem
    rw [replacement?, hw, Option.bind_some, if_pos, hc]
    rw [Standing.append, List.map_append]
    exact List.mem_append_left _ hmem
  · cases hc

/-! ## Processors -/

theorem Processor.replacement?_append {p : Processor} (hc : p.replacement? s e = some content)
    (more : History) : p.replacement? (s.append more) e = some content := by
  cases p with
  | identity => cases hc
  | failedEdits policy => exact FailedEdits.replacement?_append hc more
  | lastOutputs policy => exact LastOutputs.replacement?_append hc more
  | longOutputs policy => exact LongOutputs.replacement?_append hc more
  | staleWindows => exact StaleWindows.replacement?_append hc more
  | pipeline name stages => cases hc

/-- An entry that is rewritten keeps its fate. -/
theorem Processor.fate_append {p : Processor} (hne : p.fate s e ≠ e) (more : History) :
    p.fate (s.append more) e = p.fate s e := by
  have hbefore : (s.append more).before = s.before := rfl
  rw [fate, fate, hbefore]
  rw [fate] at hne
  split at hne
  · rename_i hsubject
    cases hc : p.replacement? s e with
    | none =>
      rw [hc] at hne
      exact absurd rfl hne
    | some content => rw [if_pos hsubject, if_pos hsubject, replacement?_append hc more]
  · exact absurd rfl hne

/-- **A replacement never flips.** What a policy has written in place of an entry stands there however
far the transcript grows. -/
theorem replacements_never_flip {p : Processor} (hp : ∀ name stages, p ≠ .pipeline name stages)
    (h more : History) {i : Nat} (hreplaced : (p.run h)[i]? ≠ h[i]?) :
    (p.run (h ++ more))[i]? = (p.run h)[i]? := by
  rw [p.getElem?_run hp] at hreplaced ⊢
  rw [p.getElem?_run hp]
  cases he : h[i]? with
  | none =>
    rw [he] at hreplaced
    exact absurd rfl hreplaced
  | some e =>
    have hi : i < h.length := (List.getElem?_eq_some_iff.mp he).1
    have hne : p.fate (h.standingAt i) e ≠ e := by
      intro heq
      rw [he, Option.map_some, heq] at hreplaced
      exact hreplaced rfl
    rw [List.getElem?_append_left hi, he, Option.map_some, Option.map_some, History.standingAt_append hi,
      Processor.fate_append hne]

def failedOnce : History := [
  { role := .user, content := "task" },
  { role := .user, content := "Your proposed edit has introduced new syntax error(s)." },
  { role := .assistant, content := "edit 1:1" }]

theorem replacements_never_flip_failedOnce :
    (∀ name stages, Processor.failedEdits {} ≠ .pipeline name stages) ∧
    ((Processor.failedEdits {}).run failedOnce)[1]? ≠ failedOnce[1]? ∧
    ((Processor.failedEdits {}).run (failedOnce ++ [{ role := .user, content := "done" }]))[1]? =
      some { role := .user, content := "Output of failed edit omitted." } := by
  have hp : ∀ name stages, Processor.failedEdits {} ≠ .pipeline name stages := by
    intro name stages h
    cases h
  have hreplaced : ((Processor.failedEdits {}).run failedOnce)[1]? ≠ failedOnce[1]? := by decide
  refine ⟨hp, hreplaced, ?_⟩
  rw [replacements_never_flip hp failedOnce _ hreplaced]
  decide

example (name : String) :
    (((Processor.pipeline name [.failedEdits {}, .lastOutputs { n := 1, pos := by decide }]).run
        failedOnce)[1]?.map Entry.content = some "Output of failed edit omitted.") ∧
    (((Processor.pipeline name [.failedEdits {}, .lastOutputs { n := 1, pos := by decide }]).run
        (failedOnce ++ [{ role := .user, content := "done" }]))[1]?.map Entry.content =
      some "Old output omitted (1 lines)") := by
  simp only [Processor.run_pipeline, List.foldl]
  decide

end Compaction
