import Compaction.Text.CharClass

/-!
# Classes of characters

* `within`, `apart` : how the ranges of two tables lie to each other, and what follows for the characters in them;
* `isAlphanumeric_of_isDecimalDigit`, `isLetter_eq_false_of_isDecimalDigit`, `isAlphanumeric_eq_false_of_isWhiteSpace` : how
  the classes lie to each other;
* `isAlphanumeric_eq_isAlphanum`, `isLetter_eq_isAlpha` : what they are among the first 128 characters.
-/

namespace Compaction.Text

variable {c : Char}

/-! ## Tables of ranges -/

theorem inRanges_iff {ranges : List (Nat × Nat)} :
    inRanges ranges c = true ↔ ∃ range ∈ ranges, range.1 ≤ c.toNat ∧ c.toNat ≤ range.2 := by
  simp [inRanges]

/-- Each range of the first table is within one of the second. -/
def within (ranges wider : List (Nat × Nat)) : Bool :=
  ranges.all fun range => wider.any fun wide => range.2.ble wide.2 && wide.1.ble range.1

/-- No range of the first table meets one of the second. -/
def apart (ranges others : List (Nat × Nat)) : Bool :=
  ranges.all fun range => others.all fun other => range.2.blt other.1 || other.2.blt range.1

theorem inRanges_of_within {ranges wider : List (Nat × Nat)} (h : within ranges wider = true)
    (hc : inRanges ranges c = true) : inRanges wider c = true := by
  obtain ⟨range, hrange, hlow, hhigh⟩ := inRanges_iff.mp hc
  obtain ⟨wide, hwide, hends⟩ := List.any_eq_true.mp (List.all_eq_true.mp h range hrange)
  rw [Bool.and_eq_true, Nat.ble_eq, Nat.ble_eq] at hends
  exact inRanges_iff.mpr ⟨wide, hwide, Nat.le_trans hends.2 hlow, Nat.le_trans hhigh hends.1⟩

theorem inRanges_eq_false_of_apart {ranges others : List (Nat × Nat)} (h : apart ranges others = true)
    (hc : inRanges ranges c = true) : inRanges others c = false := by
  rw [← Bool.not_eq_true, inRanges_iff]
  rintro ⟨other, hother, hfirst, hlast⟩
  obtain ⟨range, hrange, hlow, hhigh⟩ := inRanges_iff.mp hc
  have hends := List.all_eq_true.mp (List.all_eq_true.mp h range hrange) other hother
  rw [Bool.or_eq_true, Nat.blt_eq, Nat.blt_eq] at hends
  omega

/-! ## Digits, letters and white space -/

def decimalRanges : List (Nat × Nat) := decimalZeros.map fun first => (first, first + 9)

theorem isDecimalDigit_eq_inRanges : isDecimalDigit c = inRanges decimalRanges c := by
  rw [isDecimalDigit, inRanges, decimalRanges, List.any_map]
  exact congrArg decimalZeros.any (funext fun first => by simp [Nat.lt_succ_iff])

theorem isAlphanumeric_of_isDecimalDigit (h : isDecimalDigit c = true) : isAlphanumeric c = true := by
  have hwithin : within decimalRanges alphanumericRanges = true := by decide +kernel
  exact inRanges_of_within hwithin (isDecimalDigit_eq_inRanges ▸ h)

theorem isLetter_eq_false_of_isDecimalDigit (h : isDecimalDigit c = true) : isLetter c = false := by
  have hwithin : within decimalRanges numeralRanges = true := by decide +kernel
  rw [isLetter, inRanges_of_within hwithin (isDecimalDigit_eq_inRanges ▸ h), Bool.not_true, Bool.and_false]

theorem isAlphanumeric_eq_false_of_isWhiteSpace (h : isWhiteSpace c = true) : isAlphanumeric c = false := by
  have hapart : apart whiteSpaceRanges alphanumericRanges = true := by decide +kernel
  exact inRanges_eq_false_of_apart hapart h

/-- Only the ranges at the start of a table are about the first 128 characters. -/
theorem inRanges_take {ranges : List (Nat × Nat)} {n : Nat}
    (h : (ranges.drop n).all (fun range => Nat.ble 128 range.1) = true) (hc : c.toNat < 128) :
    inRanges ranges c = inRanges (ranges.take n) c := by
  have hlater : inRanges (ranges.drop n) c = false := by
    rw [← Bool.not_eq_true, inRanges_iff]
    rintro ⟨range, hrange, hlow, -⟩
    have hfirst := Nat.ble_eq.mp (List.all_eq_true.mp h range hrange)
    omega
  calc inRanges ranges c
      = (inRanges (ranges.take n) c || inRanges (ranges.drop n) c) := by
        rw [inRanges, inRanges, inRanges, ← List.any_append, List.take_append_drop]
    _ = inRanges (ranges.take n) c := by rw [hlater, Bool.or_false]

theorem isAlphanumeric_eq_isAlphanum (h : c.toNat < 128) : isAlphanumeric c = c.isAlphanum := by
  have hfirst : ∀ n < 128, inRanges (alphanumericRanges.take 3) (Char.ofNat n) = (Char.ofNat n).isAlphanum := by
    decide +kernel
  rw [isAlphanumeric, inRanges_take (n := 3) (by decide +kernel) h]
  simpa using hfirst c.toNat h

theorem isLetter_eq_isAlpha (h : c.toNat < 128) : isLetter c = c.isAlpha := by
  have hfirst : ∀ n < 128,
      ((Char.ofNat n).isAlphanum && !inRanges (numeralRanges.take 1) (Char.ofNat n)) = (Char.ofNat n).isAlpha := by
    decide +kernel
  rw [isLetter, isAlphanumeric_eq_isAlphanum h, inRanges_take (n := 1) (by decide +kernel) h]
  simpa using hfirst c.toNat h

end Compaction.Text
