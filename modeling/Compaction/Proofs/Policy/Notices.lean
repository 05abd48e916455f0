import Compaction.Policy.FailedEdits
import Compaction.Proofs.Text.Lines

/-!
# What notices look like

* `length_omittedNotice` : the notice of an omitted output has 27 characters and the digits of its number of
  lines, hence at most 47 (`length_omittedNotice_le`);
* `length_omittedNotice_le_charLen` : it is no longer than an output of more than 28 characters;
* `omittedNotice_eq_iff` : it tells the number of lines;
* `omittedNotice_of_omitted` : it is one line, and so is the notice that stands for it;
* `omittedNotice_eq_content_iff` : no other output is its own notice;
* `length_notice_le` : no notice of a failed edit is longer than the edit;
* `not_infix_omittedNotice`, `not_infix_notice` : no notice mentions a failed edit.

An output of 28 characters may have 28 lines, and then its notice has 29 characters.
-/

namespace Compaction

/-! ## Omitted outputs -/

theorem length_omittedNotice (e : Entry) :
    (omittedNotice e).length = 27 + (toString e.lineCount).length := by
  have hopening : "Old output omitted (".length = 20 := by decide
  have hclosing : " lines)".length = 7 := by decide
  unfold omittedNotice
  rw [String.length_append, String.length_append, hopening, hclosing]
  omega

/-- The notice has at most 47 characters as long as the number of lines fits into 64 bits. -/
theorem length_omittedNotice_le {e : Entry} (hlines : e.lineCount < UInt64.size) :
    (omittedNotice e).length ≤ 47 := by
  have hdigits : (toString e.lineCount).length ≤ 20 :=
    (Nat.length_repr_le_iff (by decide)).mpr (Nat.lt_trans hlines (by decide))
  rw [length_omittedNotice]
  exact Nat.add_le_add_left hdigits 27

theorem length_omittedNotice_le_charLen {e : Entry} (hlong : 28 < e.charLen) :
    (omittedNotice e).length ≤ e.charLen := by
  obtain ⟨k, hk⟩ : ∃ k, e.charLen = k + 29 := ⟨e.charLen - 29, by omega⟩
  have hpow : e.charLen < 10 ^ (k + 2) := by
    have hself : k < 10 ^ k := Nat.lt_pow_self (by decide)
    rw [Nat.pow_add]
    omega
  have hdigits : (toString e.lineCount).length ≤ k + 2 :=
    (Nat.length_repr_le_iff (by omega)).mpr (Nat.lt_of_le_of_lt e.lineCount_le_charLen hpow)
  rw [length_omittedNotice]
  omega

theorem toList_omittedNotice (e : Entry) : (omittedNotice e).toList =
    "Old output omitted (".toList ++ Nat.toDigits 10 e.lineCount ++ " lines)".toList := by
  have hdigits : (toString e.lineCount).toList = Nat.toDigits 10 e.lineCount := by simp
  unfold omittedNotice
  rw [String.toList_append, String.toList_append, hdigits]

theorem omittedNotice_eq_iff {e e' : Entry} : omittedNotice e = omittedNotice e' ↔ e.lineCount = e'.lineCount := by
  constructor
  · intro hnotice
    have htext := congrArg String.toList hnotice
    rw [toList_omittedNotice, toList_omittedNotice, List.append_cancel_right_eq, List.append_cancel_left_eq] at htext
    -- The digits of a number determine it.
    rw [← Nat.ofDigitChars_ten_toDigits (n := e.lineCount), htext, Nat.ofDigitChars_ten_toDigits]
  · intro hlines
    unfold omittedNotice
    rw [hlines]

theorem mem_omittedNotice {e : Entry} {c : Char} (hc : c ∈ (omittedNotice e).toList) :
    c.isDigit = true ∨ c ∈ "Old output omitted (".toList ∨ c ∈ " lines)".toList := by
  rw [toList_omittedNotice, List.mem_append, List.mem_append] at hc
  rcases hc with (hc | hc) | hc
  · exact Or.inr (Or.inl hc)
  · exact Or.inl (Nat.isDigit_of_mem_toDigits (by decide) (by decide) hc)
  · exact Or.inr (Or.inr hc)

theorem lineCount_omittedNotice (e e' : Entry) : (e.withContent (omittedNotice e')).lineCount = 1 := by
  have hbreak : ∀ c ∈ (omittedNotice e').toList, c ∉ Text.lineBreaks := by
    have hopening : ∀ c ∈ "Old output omitted (".toList, c ∉ Text.lineBreaks := by simp [Text.lineBreaks]
    have hclosing : ∀ c ∈ " lines)".toList, c ∉ Text.lineBreaks := by simp [Text.lineBreaks]
    intro c hc
    rcases mem_omittedNotice hc with hdigit | hc | hc
    · exact Text.notMem_lineBreaks_of_isDigit hdigit
    · exact hopening c hc
    · exact hclosing c hc
  have hne : (omittedNotice e').toList ≠ [] := by simp [toList_omittedNotice]
  exact Text.countLines_of_noBreak hbreak hne

/-- Whatever an output was, the notice that stands for its notice is the same. -/
theorem omittedNotice_of_omitted (e e' : Entry) :
    omittedNotice (e.withContent (omittedNotice e')) = "Old output omitted (1 lines)" := by
  apply String.toList_injective
  rw [toList_omittedNotice, lineCount_omittedNotice]
  decide

/-- The notice of an output is what the output says already only if that is the notice of one line. -/
theorem omittedNotice_eq_content_iff {e : Entry} :
    omittedNotice e = e.content ↔ e.content = "Old output omitted (1 lines)" := by
  constructor
  · intro hnotice
    have hself : e.withContent (omittedNotice e) = e := by rw [hnotice]; rfl
    have homitted := omittedNotice_of_omitted e e
    rwa [hself, hnotice] at homitted
  · intro hcontent
    -- The content is the notice of some entry, namely of the notice that stands for this one.
    have honeLine := omittedNotice_of_omitted e e
    have hself : e.withContent (omittedNotice (e.withContent (omittedNotice e))) = e := by
      rw [honeLine, ← hcontent]
      rfl
    have homitted := omittedNotice_of_omitted e (e.withContent (omittedNotice e))
    rw [hself] at homitted
    rw [homitted, hcontent]

/-! ## Failed edits -/

theorem length_notice_le {e : Entry} (hf : isFailedEdit e = true) (notice : Notice) :
    notice.text.length ≤ e.charLen := by
  rw [isFailedEdit, Bool.and_eq_true, Text.occursIn_iff] at hf
  have hmarker : failedEditMarker.length ≤ e.charLen := by
    have hinfix := hf.2.length_le
    rwa [String.length_toList, String.length_toList] at hinfix
  have hnotice : notice.text.length ≤ failedEditMarker.length := by
    cases notice <;> decide
  exact Nat.le_trans hnotice hmarker

-- The marker starts with a letter that occurs in no notice.

theorem not_infix_omittedNotice (e : Entry) : ¬ failedEditMarker.toList <:+: (omittedNotice e).toList := by
  intro hinfix
  have hmem : 'Y' ∈ (omittedNotice e).toList := hinfix.subset (by decide)
  rcases mem_omittedNotice hmem with h | h | h
  · cases h
  · revert h; decide
  · revert h; decide

theorem not_infix_notice (notice : Notice) : ¬ failedEditMarker.toList <:+: notice.text.toList := by
  intro hinfix
  have hmem : 'Y' ∈ notice.text.toList := hinfix.subset (by decide)
  cases notice <;> revert hmem <;> decide

end Compaction
