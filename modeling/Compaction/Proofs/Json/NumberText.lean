import Compaction.Json.NumberText

/-!
# Numbers as they are written

* `IsNumberText` : the texts of the parts of a number, of which the fraction and the exponent may be left out;
* `EndsNumber` : a text that does not go on with the number in front of it;
* `IsNumberText.scanNumber?` : the text of a number is scanned up to the text behind it, and comes back as its parts;
* `Number.IsWhole` : a whole number of 64 bits, of which no digit is lost;
* `absorbDigits_eq` : digits are collected completely as long as their value is within the limit;
* `Number.IsWhole.exists_isNumberText` : so a written whole number stands for itself.
-/

namespace Compaction.Json

variable {rest : List Char}

/-! ## Texts of numbers -/

/-- The digits of a fraction behind a point, or nothing. -/
inductive IsFractionText : List Char → List Char → Prop where
  | none : IsFractionText [] []
  | some {digits : List Char} (h : Text.IsRun Char.isDigit digits) : IsFractionText digits ('.' :: digits)

/-- An exponent behind its letter, or nothing. The sign plus may be left out. -/
inductive IsExponentText : Option (Bool × List Char) → List Char → Prop where
  | none : IsExponentText none []
  | unsigned {letter : Char} {digits : List Char} (hletter : letter = 'e' ∨ letter = 'E')
      (h : Text.IsRun Char.isDigit digits) : IsExponentText (some (false, digits)) (letter :: digits)
  | plus {letter : Char} {digits : List Char} (hletter : letter = 'e' ∨ letter = 'E')
      (h : Text.IsRun Char.isDigit digits) : IsExponentText (some (false, digits)) (letter :: '+' :: digits)
  | minus {letter : Char} {digits : List Char} (hletter : letter = 'e' ∨ letter = 'E')
      (h : Text.IsRun Char.isDigit digits) : IsExponentText (some (true, digits)) (letter :: '-' :: digits)

/-- A number: a sign, if it is negative, the digits before the point, of which a zero at the start is the only one, the
fraction and the exponent. -/
inductive IsNumberText : NumberText → List Char → Prop where
  | mk {negative : Bool} {whole fraction fractionText exponentText : List Char} {exponent : Option (Bool × List Char)}
      (hwhole : Text.IsRun Char.isDigit whole) (hzero : whole.head? = some '0' → whole.length = 1)
      (hfraction : IsFractionText fraction fractionText) (hexponent : IsExponentText exponent exponentText) :
      IsNumberText ⟨negative, whole, fraction, exponent⟩
        ((if negative then ['-'] else []) ++ (whole ++ (fractionText ++ exponentText)))

/-- A character that may stand inside a number behind its first digit, signs apart. -/
def continuesNumber (c : Char) : Bool := c.isDigit || c == '.' || c == 'e' || c == 'E'

/-- A text that does not go on with the number in front of it. -/
def EndsNumber (rest : List Char) : Prop := ∀ c ∈ rest.head?, continuesNumber c = false

theorem endsNumber_cons {c : Char} (cs : List Char) (h : continuesNumber c = false) :
    EndsNumber (c :: cs) := by
  intro d hd
  obtain rfl := Option.some.inj hd
  exact h

theorem EndsNumber.isDigit {rest : List Char} (h : EndsNumber rest) : ∀ c ∈ rest.head?, c.isDigit = false := by
  intro c hc
  have hends := h c hc
  simp only [continuesNumber, Bool.or_eq_false_iff] at hends
  exact hends.1.1.1

/-! ## Scans -/

theorem EndsNumber.scanExponent? (h : EndsNumber rest) :
    Json.scanExponent? rest = some (none, rest) := by
  unfold Json.scanExponent?
  split
  · rename_i c cs
    have hc := h c rfl
    simp only [continuesNumber, Bool.or_eq_false_iff] at hc
    rw [hc.1.2, hc.2]
    rfl
  · rfl

theorem exists_cons_of_isRun {digits : List Char} (h : Text.IsRun Char.isDigit digits) :
    ∃ c cs, digits = c :: cs ∧ c.isDigit = true := by
  obtain ⟨hne, hall⟩ := h
  cases digits with
  | nil => exact absurd rfl hne
  | cons c cs => exact ⟨c, cs, rfl, hall c List.mem_cons_self⟩

theorem scanPowerSign_digits {digits : List Char} (h : Text.IsRun Char.isDigit digits) (rest : List Char) :
    scanPowerSign (digits ++ rest) = (false, digits ++ rest) := by
  obtain ⟨c, cs, rfl, hc⟩ := exists_cons_of_isRun h
  unfold scanPowerSign
  split
  · rename_i heq
    rw [(List.cons.inj heq).1] at hc
    cases hc
  · rename_i heq
    rw [(List.cons.inj heq).1] at hc
    cases hc
  · rfl

theorem scanPower?_of_sign {cs digits : List Char} {down : Bool} (hsign : scanPowerSign cs = (down, digits ++ rest))
    (h : Text.IsRun Char.isDigit digits) (hrest : EndsNumber rest) : scanPower? cs = some (down, digits, rest) := by
  rw [scanPower?, hsign]
  simp only [Text.behindRun?_append h hrest.isDigit, Text.takeWhile_run h.2 hrest.isDigit, Option.map_some]

theorem scanExponent?_letter {letter : Char} (hletter : letter = 'e' ∨ letter = 'E') (cs : List Char) :
    scanExponent? (letter :: cs) = (scanPower? cs).map fun power => (some (power.1, power.2.1), power.2.2) := by
  rcases hletter with rfl | rfl <;> rfl

theorem IsExponentText.scanExponent? {exponent : Option (Bool × List Char)} {text : List Char}
    (h : IsExponentText exponent text) (hrest : EndsNumber rest) :
    Json.scanExponent? (text ++ rest) = Option.some (exponent, rest) := by
  cases h with
  | none => exact hrest.scanExponent?
  | unsigned hletter hdigits =>
    rw [List.cons_append, scanExponent?_letter hletter,
      scanPower?_of_sign (scanPowerSign_digits hdigits rest) hdigits hrest]
    rfl
  | plus hletter hdigits =>
    rw [List.cons_append, scanExponent?_letter hletter, List.cons_append, scanPower?_of_sign rfl hdigits hrest]
    rfl
  | minus hletter hdigits =>
    rw [List.cons_append, scanExponent?_letter hletter, List.cons_append, scanPower?_of_sign rfl hdigits hrest]
    rfl

/-- What follows a fraction goes on neither with a digit nor with a point. -/
theorem IsExponentText.head?_append {exponent : Option (Bool × List Char)} {text : List Char}
    (h : IsExponentText exponent text) (hrest : EndsNumber rest) :
    ∀ c ∈ (text ++ rest).head?, c.isDigit = false ∧ c ≠ '.' := by
  intro c hc
  cases h with
  | none =>
    have hends := hrest c hc
    simp only [continuesNumber, Bool.or_eq_false_iff, beq_eq_false_iff_ne] at hends
    exact hends.1.1
  | unsigned hletter | plus hletter | minus hletter =>
    obtain rfl := Option.some.inj hc
    rcases hletter with rfl | rfl <;> decide

theorem IsFractionText.scanFraction? {digits text tail : List Char} (h : IsFractionText digits text)
    (htail : ∀ c ∈ tail.head?, c.isDigit = false ∧ c ≠ '.') :
    Json.scanFraction? (text ++ tail) = Option.some (digits, tail) := by
  cases h with
  | none =>
    rw [List.nil_append, Json.scanFraction?]
    rintro cs rfl
    exact (htail '.' rfl).2 rfl
  | some hdigits =>
    have hend : ∀ c ∈ tail.head?, c.isDigit = false := fun c hc => (htail c hc).1
    rw [List.cons_append, Json.scanFraction?, Text.behindRun?_append hdigits hend, Text.takeWhile_run hdigits.2 hend]
    rfl

theorem IsFractionText.head?_append {digits text tail : List Char} (h : IsFractionText digits text)
    (htail : ∀ c ∈ tail.head?, c.isDigit = false ∧ c ≠ '.') : ∀ c ∈ (text ++ tail).head?, c.isDigit = false := by
  intro c hc
  cases h with
  | none => exact (htail c hc).1
  | some hdigits =>
    obtain rfl := Option.some.inj hc
    rfl

/-- The text of a number is scanned up to the text behind it. -/
theorem IsNumberText.scanNumber? {t : NumberText} {text : List Char} (h : IsNumberText t text)
    (hrest : EndsNumber rest) : Json.scanNumber? (text ++ rest) = some (t, rest) := by
  obtain @⟨negative, whole, fraction, fractionText, exponentText, exponent, hwhole, hzero, hfraction, hexponent⟩ := h
  have htail := hexponent.head?_append hrest
  have hmore := hfraction.head?_append htail
  have hscan : scanUnsigned? negative (whole ++ (fractionText ++ (exponentText ++ rest))) =
      some (⟨negative, whole, fraction, exponent⟩, rest) := by
    have hleading : (whole.head? == some '0' && whole.length != 1) = false := by
      rw [Bool.and_eq_false_imp, beq_iff_eq, bne_eq_false_iff_eq]
      exact hzero
    unfold scanUnsigned?
    rw [Text.behindRun?_append hwhole hmore, Text.takeWhile_run hwhole.2 hmore]
    simp only [hleading, Option.bind_eq_bind, Option.bind_some, hfraction.scanFraction? htail,
      hexponent.scanExponent? hrest]
    rfl
  cases negative with
  | true =>
    simp only [if_true, List.append_assoc]
    exact hscan
  | false =>
    simp only [Bool.false_eq_true, if_false, List.nil_append, List.append_assoc]
    obtain ⟨c, cs, rfl, hc⟩ := exists_cons_of_isRun hwhole
    rw [← hscan, List.cons_append, Json.scanNumber?]
    rintro ds heq
    rw [(List.cons.inj heq).1] at hc
    cases hc

/-! ## Whole numbers -/

/-- A whole number of 64 bits, with or without a sign. -/
def Number.IsWhole : Number → Prop
  | .natural _ => True
  | .negative i => -0x8000000000000000 ≤ i ∧ i < 0
  | .float _ => False

theorem all_isDigit_toDigits (n : Nat) : ∀ c ∈ Nat.toDigits 10 n, c.isDigit = true := by
  intro c hc
  exact Nat.isDigit_of_mem_toDigits (by omega) (by omega) hc

/-- Only the number zero starts with a zero. -/
theorem head?_toDigits_ne {n : Nat} (hn : 0 < n) : (Nat.toDigits 10 n).head? ≠ some '0' := by
  induction n using Nat.strongRecOn with
  | ind n ih =>
    rw [Nat.toDigits_eq_if (by omega)]
    split
    · rename_i hlt
      have hdigit : ∀ d < 10, 0 < d → [Nat.digitChar d].head? ≠ some '0' := by decide
      exact hdigit n hlt hn
    · rename_i hge
      have hhead := ih (n / 10) (by omega) (by omega)
      rwa [List.head?_append, Option.or_of_isSome (List.isSome_head?.mpr Nat.toDigits_ne_nil)]

theorem length_toDigits_of_head? {n : Nat} (hzero : (Nat.toDigits 10 n).head? = some '0') :
    (Nat.toDigits 10 n).length = 1 := by
  by_cases hn : n = 0
  · subst hn
    rfl
  · exact absurd hzero (head?_toDigits_ne (by omega))

def wholeText (negative : Bool) (n : Nat) : NumberText := ⟨negative, Nat.toDigits 10 n, [], none⟩

theorem le_ofDigitChars (ds : List Char) (acc : Nat) : acc ≤ Nat.ofDigitChars 10 ds acc := by
  rw [Nat.ofDigitChars_eq_ofDigitChars_zero]
  have : 1 * acc ≤ 10 ^ ds.length * acc := Nat.mul_le_mul_right acc (Nat.pow_pos (by omega))
  omega

/-- Digits are collected completely as long as their value is within the limit. -/
theorem absorbDigits_eq {limit : Nat} (ds : List Char) (acc : Nat)
    (h : Nat.ofDigitChars 10 ds acc ≤ limit) :
    absorbDigits limit acc ds = (Nat.ofDigitChars 10 ds acc, []) := by
  induction ds generalizing acc with
  | nil => rw [absorbDigits, Nat.ofDigitChars_nil]
  | cons c cs ih =>
    have hnext : acc * 10 + Text.digitValue c = 10 * acc + (c.toNat - '0'.toNat) := by
      rw [Nat.mul_comm]
      rfl
    rw [Nat.ofDigitChars_cons, ← hnext] at h ⊢
    have hle := le_ofDigitChars cs (acc * 10 + Text.digitValue c)
    rw [absorbDigits, if_pos (by omega), ih _ h]

theorem ofText?_wholeText (negative : Bool) {n : Nat} (h : n ≤ maxSignificand) :
    Number.ofText? (wholeText negative n) = some (Number.ofWhole negative n) := by
  have hdigits : absorbDigits maxSignificand 0 (Nat.toDigits 10 n) = (n, []) := by
    rw [absorbDigits_eq _ _ (by rwa [Nat.ofDigitChars_ten_toDigits]), Nat.ofDigitChars_ten_toDigits]
  unfold Number.ofText? wholeText
  simp only [hdigits]
  rfl

namespace Number

theorem ofText?_natural (n : UInt64) : ofText? (wholeText false n.toNat) = some (.natural n) := by
  have hle : n.toNat ≤ maxSignificand := Nat.le_of_lt_succ n.toNat_lt
  rw [ofText?_wholeText false hle]
  show some (Number.natural (UInt64.ofNat n.toNat)) = some (.natural n)
  rw [UInt64.ofNat_toNat]

theorem ofText?_negative {i : Int} (h : IsWhole (.negative i)) :
    ofText? (wholeText true i.natAbs) = some (.negative i) := by
  obtain ⟨hlow, hneg⟩ := h
  have hle : i.natAbs ≤ maxSignificand := by
    unfold maxSignificand Text.maxCount
    omega
  have hzero : (i.natAbs == 0) = false := beq_eq_false_iff_ne.mpr (by omega)
  have hlim : decide (0x8000000000000000 < i.natAbs) = false := decide_eq_false (by omega)
  rw [ofText?_wholeText true hle]
  unfold ofWhole
  rw [hzero, hlim]
  show some (Number.negative (-(i.natAbs : Int))) = some (.negative i)
  rw [show -(i.natAbs : Int) = i by omega]

theorem isNumberText_wholeText (negative : Bool) (n : Nat) :
    IsNumberText (wholeText negative n) ((if negative then ['-'] else []) ++ Nat.toDigits 10 n) := by
  have htext : IsNumberText (wholeText negative n)
      ((if negative then ['-'] else []) ++ (Nat.toDigits 10 n ++ ([] ++ []))) :=
    .mk ⟨Nat.toDigits_ne_nil, all_isDigit_toDigits n⟩ length_toDigits_of_head? .none .none
  rwa [List.append_nil, List.append_nil] at htext

/-- A written whole number stands for itself. -/
theorem IsWhole.exists_isNumberText {n : Number} (hn : n.IsWhole) :
    ∃ t, IsNumberText t n.toChars ∧ ofText? t = some n := by
  cases n with
  | natural n => exact ⟨_, isNumberText_wholeText false n.toNat, ofText?_natural n⟩
  | negative i =>
    have hchars : (Number.negative i).toChars = '-' :: Nat.toDigits 10 i.natAbs := if_pos hn.2
    exact ⟨_, hchars ▸ isNumberText_wholeText true i.natAbs, ofText?_negative hn⟩
  | float x => exact absurd hn id

end Number

end Compaction.Json
