import Compaction.Text.Shortest
import Mathlib.Algebra.Order.Field.Power
import Mathlib.Data.List.DropRight
import Mathlib.Data.Rat.Cast.Order
import Mathlib.Tactic.FieldSimp
import Mathlib.Tactic.Linarith
import Mathlib.Tactic.Positivity
import Mathlib.Tactic.Ring

/-!
# Floats are written with the fewest digits

* `Decimal.value`, `Binary.value` : the rational numbers that a decimal number and a float are;
* `Binary.Rounds` : a number rounds to the float, since it lies in the interval of the float (`Binary.rounds_iff`);
* `Binary.sides_fst`, `Binary.sides_snd` : all comparisons of whole numbers are comparisons of these values;
* `Binary.IsFloat.magnitude_spec` : the power of ten of the first digit;
* `Binary.withDigits?_eq_some`, `Binary.withDigits?_eq_none` : the nearest number on a grid of powers of ten that
  rounds to the float, if any does;
* `Binary.IsFloat` : what 64 bits can hold (`Binary.isFloat_ofFloat`), for which seventeen digits always do
  (`Binary.IsFloat.withDigits?_seventeen`);
* `Decimal.scientific_value` : the digits that are written stand for the same number;
* `Binary.shortest_has_fewest_digits` : they round to the float, no fewer digits do, and no others in their places are
  nearer.
-/

namespace Compaction.Text

def Decimal.value (d : Decimal) : ℚ := d.digits * 10 ^ d.exponent

namespace Binary

variable {b : Binary} {d : Decimal} {x y : ℚ} {e : ℤ} {k n : ℕ}

/-! ## Values -/

/-- So many quarters of the last place of a float. -/
def quarters (b : Binary) (a : ℕ) : ℚ := a * 2 ^ b.exponent

def value (b : Binary) : ℚ := b.quarters (4 * b.significand)

/-- The number rounds to the float: it is nearer to it than to any other float, or half-way to the next one if the
significand is even. -/
def Rounds (b : Binary) (x : ℚ) : Prop :=
  if b.significand % 2 = 0 then
    b.quarters (4 * b.significand - b.below) ≤ x ∧ x ≤ b.quarters (4 * b.significand + 2)
  else b.quarters (4 * b.significand - b.below) < x ∧ x < b.quarters (4 * b.significand + 2)

theorem quarters_lt {a a' : ℕ} (h : a < a') : b.quarters a < b.quarters a' :=
  mul_lt_mul_of_pos_right (Nat.cast_lt.mpr h) (by positivity)

/-! ## Whole numbers -/

theorem ratio_spec (base : ℕ) (hbase : 0 < base) (e : ℤ) :
    0 < (ratio base e).2 ∧ ((ratio base e).1 : ℚ) = base ^ e * (ratio base e).2 := by
  unfold ratio
  split
  · rename_i he
    refine ⟨Nat.one_pos, ?_⟩
    show ((base ^ e.toNat : ℕ) : ℚ) = base ^ e * ((1 : ℕ) : ℚ)
    rw [Nat.cast_pow, Nat.cast_one, mul_one, ← zpow_natCast, Int.toNat_of_nonneg he]
  · rename_i he
    refine ⟨Nat.pow_pos hbase, ?_⟩
    have hne : (base : ℚ) ≠ 0 := Nat.cast_ne_zero.mpr hbase.ne'
    show ((1 : ℕ) : ℚ) = base ^ e * ((base ^ (-e).toNat : ℕ) : ℚ)
    rw [Nat.cast_pow, ← zpow_natCast, Int.toNat_of_nonneg (by omega), ← zpow_add₀ hne, add_neg_cancel, zpow_zero,
      Nat.cast_one]

/-- What both sides of a comparison are multiplied with. -/
def scale (b : Binary) (e : ℤ) : ℕ := (ratio 10 e).2 * (ratio 2 b.exponent).2

theorem scale_pos : (0 : ℚ) < b.scale e := by
  exact_mod_cast Nat.mul_pos (ratio_spec 10 (by decide) e).1 (ratio_spec 2 (by decide) b.exponent).1

theorem sides_fst (a : ℕ) : ((b.sides a d).1 : ℚ) = b.quarters a * b.scale d.exponent := by
  have htwo := (ratio_spec 2 (by decide) b.exponent).2
  simp only [sides, scale, quarters, Nat.cast_mul, htwo, Nat.cast_ofNat]
  ring

theorem sides_snd (a : ℕ) : ((b.sides a d).2 : ℚ) = d.value * b.scale d.exponent := by
  have hten := (ratio_spec 10 (by decide) d.exponent).2
  simp only [sides, scale, Decimal.value, Nat.cast_mul, hten, Nat.cast_ofNat]
  ring

theorem sides_le_iff (a : ℕ) : (b.sides a d).1 ≤ (b.sides a d).2 ↔ b.quarters a ≤ d.value := by
  rw [← Nat.cast_le (α := ℚ), sides_fst, sides_snd, mul_le_mul_iff_left₀ scale_pos]

theorem sides_ge_iff (a : ℕ) : (b.sides a d).2 ≤ (b.sides a d).1 ↔ d.value ≤ b.quarters a := by
  rw [← Nat.cast_le (α := ℚ), sides_fst, sides_snd, mul_le_mul_iff_left₀ scale_pos]

theorem rounds_iff : b.rounds d = true ↔ b.Rounds d.value := by
  unfold rounds Rounds
  by_cases heven : b.significand % 2 = 0
  · simp [heven, sides_le_iff, sides_ge_iff]
  · simp [heven, ← not_le, sides_le_iff, sides_ge_iff]

theorem distance_eq : (b.distance d : ℚ) = |d.value - b.value| * b.scale d.exponent := by
  have hfst := sides_fst (b := b) (d := d) (4 * b.significand)
  have hsnd := sides_snd (b := b) (d := d) (4 * b.significand)
  rw [distance, ← abs_of_pos (scale_pos (b := b) (e := d.exponent)), ← abs_mul, sub_mul, value, ← hfst, ← hsnd]
  rcases Nat.le_total (b.sides (4 * b.significand) d).1 (b.sides (4 * b.significand) d).2 with hle | hle
  · rw [Nat.sub_eq_zero_of_le hle, Nat.zero_add, Nat.cast_sub hle, abs_of_nonneg (sub_nonneg.mpr (Nat.cast_le.mpr hle))]
  · rw [Nat.sub_eq_zero_of_le hle, Nat.add_zero, Nat.cast_sub hle, abs_sub_comm,
      abs_of_nonneg (sub_nonneg.mpr (Nat.cast_le.mpr hle))]

theorem floorAt_spec (b : Binary) (e : ℤ) :
    (b.floorAt e : ℚ) * 10 ^ e ≤ b.value ∧ b.value < (b.floorAt e + 1 : ℕ) * 10 ^ e := by
  have hfst : ((b.sides (4 * b.significand) ⟨1, e⟩).1 : ℚ) = b.value * b.scale e := sides_fst _
  have hsnd : ((b.sides (4 * b.significand) ⟨1, e⟩).2 : ℚ) = 10 ^ e * b.scale e := by
    rw [sides_snd, Decimal.value, Nat.cast_one, one_mul]
  have hscale := scale_pos (b := b) (e := e)
  have hpos : 0 < (b.sides (4 * b.significand) ⟨1, e⟩).2 := by
    have : (0 : ℚ) < (b.sides (4 * b.significand) ⟨1, e⟩).2 := hsnd ▸ by positivity
    exact_mod_cast this
  have hle : (b.floorAt e : ℚ) * (b.sides (4 * b.significand) ⟨1, e⟩).2 ≤ (b.sides (4 * b.significand) ⟨1, e⟩).1 := by
    exact_mod_cast Nat.div_mul_le_self _ _
  have hlt : ((b.sides (4 * b.significand) ⟨1, e⟩).1 : ℚ) <
      (b.sides (4 * b.significand) ⟨1, e⟩).2 * (b.floorAt e + 1 : ℕ) := by
    exact_mod_cast Nat.lt_mul_div_succ _ hpos
  rw [hfst, hsnd] at hle hlt
  constructor
  · refine le_of_mul_le_mul_right ?_ hscale
    rwa [mul_assoc]
  · refine lt_of_mul_lt_mul_right (a := (b.scale e : ℚ)) ?_ hscale.le
    rwa [mul_assoc, mul_comm ((b.floorAt e + 1 : ℕ) : ℚ)]

/-! ## Magnitude -/

theorem floorAt_ne_zero_iff : b.floorAt e ≠ 0 ↔ (10 : ℚ) ^ e ≤ b.value := by
  obtain ⟨hle, hlt⟩ := b.floorAt_spec e
  have hpos : (0 : ℚ) < 10 ^ e := by positivity
  constructor
  · intro hne
    have hone : (1 : ℚ) ≤ b.floorAt e := by exact_mod_cast Nat.one_le_iff_ne_zero.mpr hne
    exact le_trans (le_mul_of_one_le_left hpos.le hone) hle
  · intro hvalue hzero
    rw [hzero, Nat.zero_add, Nat.cast_one, one_mul] at hlt
    exact absurd hvalue (not_le.mpr hlt)

/-- What 64 bits can hold as a float other than zero. The floats below lie closer only at a power of two. -/
structure IsFloat (b : Binary) : Prop where
  pos : 0 < b.significand
  lt : b.significand < 2 ^ 53
  below_eq : b.below = 2 ∨ b.below = 1 ∧ b.significand = 2 ^ 52
  le_exponent : -1076 ≤ b.exponent

theorem isFloat_ofFloat {f : Float} (hf : f.toBits.toNat % 2 ^ 63 ≠ 0) : (ofFloat f).IsFloat := by
  unfold ofFloat
  generalize f.toBits.toNat = bits at hf
  have hstored : bits % 0x10000000000000 < 0x10000000000000 := Nat.mod_lt _ (by decide)
  dsimp only
  split
  · rename_i hbiased
    rw [beq_iff_eq] at hbiased
    refine ⟨?_, by dsimp only; omega, Or.inl rfl, le_refl _⟩
    show 0 < bits % 0x10000000000000
    omega
  · rename_i hbiased
    rw [beq_iff_eq] at hbiased
    refine ⟨by dsimp only; omega, by dsimp only; omega, ?_, ?_⟩
    on_goal 2 =>
      show (-1076 : ℤ) ≤ (bits / 0x10000000000000 % 0x800 : ℕ) - 1077
      omega
    dsimp only
    split
    · rename_i hclose
      rw [Bool.and_eq_true, beq_iff_eq] at hclose
      exact Or.inr ⟨rfl, by omega⟩
    · exact Or.inl rfl

theorem lt_pow_length_toDigits (n : ℕ) : n < 10 ^ (Nat.toDigits 10 n).length :=
  (Nat.length_toDigits_le_iff (by decide) Nat.length_toDigits_pos).mp (le_refl _)

theorem pow_le_of_length_toDigits (hn : n ≠ 0) (hk : k + 1 = (Nat.toDigits 10 n).length) : 10 ^ k ≤ n := by
  rcases Nat.eq_zero_or_pos k with rfl | hpos
  · exact Nat.one_le_iff_ne_zero.mpr hn
  · refine Nat.le_of_not_lt fun hlt => ?_
    have hshort := (Nat.length_toDigits_le_iff (by decide) hpos).mpr hlt
    omega

theorem IsFloat.le_value (hb : b.IsFloat) : (10 : ℚ) ^ (-358 : ℤ) ≤ b.value := by
  have hsmall : (10 : ℚ) ^ (-358 : ℤ) ≤ 2 ^ (-1074 : ℤ) := by
    have hpow : (2 : ℚ) ^ 1074 ≤ 10 ^ 358 := by
      rw [show 1074 = 3 * 358 from rfl, pow_mul]
      exact pow_le_pow_left₀ (by norm_num) (by norm_num) _
    rw [zpow_neg, zpow_neg]
    exact inv_anti₀ (by positivity) (by exact_mod_cast hpow)
  have hlast : (2 : ℚ) ^ (-1074 : ℤ) ≤ 4 * 2 ^ b.exponent := by
    rw [show (-1074 : ℤ) = 2 + -1076 from rfl, zpow_add₀ two_ne_zero, show (2 : ℚ) ^ (2 : ℤ) = 4 by norm_num]
    exact mul_le_mul_of_nonneg_left (zpow_le_zpow_right₀ one_le_two hb.le_exponent) (by norm_num)
  have hsignificand : (1 : ℚ) ≤ b.significand := by exact_mod_cast hb.pos
  calc (10 : ℚ) ^ (-358 : ℤ) ≤ 4 * 2 ^ b.exponent := hsmall.trans hlast
    _ ≤ b.significand * (4 * 2 ^ b.exponent) := le_mul_of_one_le_left (by positivity) hsignificand
    _ = b.value := by
      rw [value, quarters, Nat.cast_mul, Nat.cast_ofNat]
      ring

theorem IsFloat.magnitude_spec (hb : b.IsFloat) :
    (10 : ℚ) ^ b.magnitude ≤ b.value ∧ b.value < 10 ^ (b.magnitude + 1) := by
  unfold magnitude
  by_cases hwhole : b.floorAt 0 = 0
  · -- Below 1, the places behind the point are counted.
    simp only [hwhole, bne_self_eq_false, Bool.false_eq_true, if_false]
    cases hfind : (List.range 400).find? fun k => b.floorAt (-Int.ofNat k) != 0 with
    | none =>
      rw [List.find?_range_eq_none] at hfind
      have hzero := hfind 358 (by decide)
      rw [Bool.not_eq_true', bne_eq_false_iff_eq] at hzero
      exact absurd hzero (floorAt_ne_zero_iff.mpr hb.le_value)
    | some places =>
      rw [List.find?_range_eq_some] at hfind
      obtain ⟨hplaces, -, hbefore⟩ := hfind
      rw [bne_iff_ne, floorAt_ne_zero_iff] at hplaces
      rw [Option.getD_some, zero_sub]
      refine ⟨hplaces, ?_⟩
      cases places with
      | zero => exact absurd hwhole (floorAt_ne_zero_iff.mpr hplaces)
      | succ places =>
        have hzero := hbefore places (Nat.lt_succ_self places)
        rw [Bool.not_eq_true', bne_eq_false_iff_eq] at hzero
        have hlt := not_le.mp (mt floorAt_ne_zero_iff.mpr (not_not_intro hzero))
        have hexponent : -Int.ofNat (places + 1) + 1 = -Int.ofNat places := by
          show -((places + 1 : ℕ) : ℤ) + 1 = -(places : ℤ)
          omega
        rwa [hexponent]
  · have hbne : (b.floorAt 0 != 0) = true := bne_iff_ne.mpr hwhole
    simp only [hbne, if_true]
    obtain ⟨hle, hlt⟩ := b.floorAt_spec 0
    rw [zpow_zero, mul_one] at hle hlt
    obtain ⟨k, hk⟩ : ∃ k, k + 1 = (Nat.toDigits 10 (b.floorAt 0)).length :=
      ⟨_, Nat.sub_add_cancel Nat.length_toDigits_pos⟩
    have hexponent : Int.ofNat (Nat.toDigits 10 (b.floorAt 0)).length - 1 = (k : ℤ) := by
      rw [← hk]
      exact Int.add_sub_cancel (k : ℤ) 1
    rw [hexponent]
    constructor
    · refine le_trans ?_ hle
      rw [zpow_natCast]
      exact_mod_cast pow_le_of_length_toDigits hwhole hk
    · refine lt_of_lt_of_le hlt ?_
      have hdigits := lt_pow_length_toDigits (b.floorAt 0)
      rw [← hk] at hdigits
      exact_mod_cast hdigits

/-! ## The interval of a float -/

theorem value_lt : b.value < b.quarters (4 * b.significand + 2) := quarters_lt (by omega)

theorem IsFloat.lt_value (hb : b.IsFloat) : b.quarters (4 * b.significand - b.below) < b.value := by
  have hpos := hb.pos
  refine quarters_lt ?_
  rcases hb.below_eq with h | ⟨h, -⟩ <;> omega

/-- What lies between the float and a number that rounds to it rounds to it, too. -/
theorem IsFloat.rounds_of_between (hb : b.IsFloat) (hx : b.Rounds x)
    (hy : (x ≤ y ∧ y ≤ b.value) ∨ (b.value ≤ y ∧ y ≤ x)) : b.Rounds y := by
  have hlow := hb.lt_value
  have hhigh := value_lt (b := b)
  unfold Rounds at hx ⊢
  split at hx
  · rename_i heven
    rw [if_pos heven]
    rcases hy with hy | hy <;> constructor <;> linarith
  · rename_i hodd
    rw [if_neg hodd]
    rcases hy with hy | hy <;> constructor <;> linarith

/-! ## Grids -/

/-- The power of ten of the last of so many digits. -/
def lastPlace (b : Binary) (count : ℕ) : ℤ := b.magnitude - count + 1

/-- What is found among the multiples of a power of ten: one of the two next to the float, which rounds to it, and no
multiple that does is nearer. -/
structure IsNearest (b : Binary) (e : ℤ) (d : Decimal) : Prop where
  exponent_eq : d.exponent = e
  digits_eq : d.digits = b.floorAt e ∨ d.digits = b.floorAt e + 1
  rounds : b.Rounds d.value
  abs_sub_le : ∀ n : ℕ, b.Rounds (n * 10 ^ e) → |d.value - b.value| ≤ |n * 10 ^ e - b.value|

/-- A multiple of a power of ten lies below the greatest one up to the float, or above the next one. -/
theorem grid_cases (b : Binary) (e : ℤ) (n : ℕ) :
    (n * 10 ^ e ≤ (b.floorAt e : ℚ) * 10 ^ e ∧ (b.floorAt e : ℚ) * 10 ^ e ≤ b.value) ∨
      (b.value < (b.floorAt e + 1 : ℕ) * 10 ^ e ∧ (b.floorAt e + 1 : ℕ) * 10 ^ e ≤ (n : ℚ) * 10 ^ e) := by
  obtain ⟨hle, hlt⟩ := b.floorAt_spec e
  rcases Nat.lt_or_ge (b.floorAt e) n with hn | hn
  · exact Or.inr ⟨hlt, mul_le_mul_of_nonneg_right (Nat.cast_le.mpr hn) (by positivity)⟩
  · exact Or.inl ⟨mul_le_mul_of_nonneg_right (Nat.cast_le.mpr hn) (by positivity), hle⟩

/-- A multiple that rounds to the float is no nearer than one of the two next to the float, which rounds to it, too. -/
theorem IsFloat.rounds_of_grid (hb : b.IsFloat) (hn : b.Rounds (n * 10 ^ e)) :
    (b.Rounds (b.floorAt e * 10 ^ e) ∧ |b.floorAt e * 10 ^ e - b.value| ≤ |n * 10 ^ e - b.value|) ∨
      (b.Rounds ((b.floorAt e + 1 : ℕ) * 10 ^ e) ∧
        |(b.floorAt e + 1 : ℕ) * 10 ^ e - b.value| ≤ |n * 10 ^ e - b.value|) := by
  rcases b.grid_cases e n with ⟨hle, hfloor⟩ | ⟨hfloor, hle⟩
  · refine Or.inl ⟨hb.rounds_of_between hn (Or.inl ⟨hle, hfloor⟩), ?_⟩
    rw [abs_of_nonpos (sub_nonpos.mpr hfloor), abs_of_nonpos (sub_nonpos.mpr (hle.trans hfloor))]
    linarith
  · refine Or.inr ⟨hb.rounds_of_between hn (Or.inr ⟨hfloor.le, hle⟩), ?_⟩
    rw [abs_of_nonneg (sub_nonneg.mpr hfloor.le), abs_of_nonneg (sub_nonneg.mpr (hfloor.le.trans hle))]
    linarith

theorem abs_sub_nearer_le (b : Binary) (e : ℤ) (m m' : ℕ) :
    |(b.nearer ⟨m, e⟩ ⟨m', e⟩).value - b.value| ≤ |m * 10 ^ e - b.value| ∧
      |(b.nearer ⟨m, e⟩ ⟨m', e⟩).value - b.value| ≤ |m' * 10 ^ e - b.value| := by
  have hlow : (b.distance ⟨m, e⟩ : ℚ) = |m * 10 ^ e - b.value| * b.scale e := distance_eq
  have hhigh : (b.distance ⟨m', e⟩ : ℚ) = |m' * 10 ^ e - b.value| * b.scale e := distance_eq
  have hscale := scale_pos (b := b) (e := e)
  unfold nearer
  dsimp only
  split
  · rename_i hcloser
    have hle : b.distance ⟨m, e⟩ ≤ b.distance ⟨m', e⟩ := by
      rw [Bool.or_eq_true, decide_eq_true_eq, Bool.and_eq_true, beq_iff_eq] at hcloser
      omega
    have hle' : (b.distance ⟨m, e⟩ : ℚ) ≤ b.distance ⟨m', e⟩ := Nat.cast_le.mpr hle
    rw [hlow, hhigh] at hle'
    exact ⟨le_refl _, le_of_mul_le_mul_right hle' hscale⟩
  · rename_i hcloser
    have hle : b.distance ⟨m', e⟩ ≤ b.distance ⟨m, e⟩ := by
      rw [Bool.or_eq_true, decide_eq_true_eq, not_or] at hcloser
      omega
    have hle' : (b.distance ⟨m', e⟩ : ℚ) ≤ b.distance ⟨m, e⟩ := Nat.cast_le.mpr hle
    rw [hlow, hhigh] at hle'
    exact ⟨le_of_mul_le_mul_right hle' hscale, le_refl _⟩

theorem nearer_eq (b : Binary) (low high : Decimal) : b.nearer low high = low ∨ b.nearer low high = high := by
  unfold nearer
  dsimp only
  split
  · exact Or.inl rfl
  · exact Or.inr rfl

theorem IsFloat.isNearest_nearer (hb : b.IsFloat) (hlow : b.Rounds (Decimal.value ⟨b.floorAt e, e⟩))
    (hhigh : b.Rounds (Decimal.value ⟨b.floorAt e + 1, e⟩)) :
    b.IsNearest e (b.nearer ⟨b.floorAt e, e⟩ ⟨b.floorAt e + 1, e⟩) := by
  have hcases := b.nearer_eq ⟨b.floorAt e, e⟩ ⟨b.floorAt e + 1, e⟩
  obtain ⟨hle, hle'⟩ := b.abs_sub_nearer_le e (b.floorAt e) (b.floorAt e + 1)
  refine ⟨?_, ?_, ?_, fun n hn => ?_⟩
  · rcases hcases with h | h <;> rw [h]
  · rcases hcases with h | h <;> rw [h]
    · exact Or.inl rfl
    · exact Or.inr rfl
  · rcases hcases with h | h <;> rwa [h]
  · rcases hb.rounds_of_grid hn with ⟨-, hfloor⟩ | ⟨-, hfloor⟩
    · exact hle.trans hfloor
    · exact hle'.trans hfloor

theorem withDigits?_eq_some (hb : b.IsFloat) (h : b.withDigits? k = some d) : b.IsNearest (b.lastPlace k) d := by
  unfold withDigits? at h
  dsimp only at h
  split at h
  · rename_i hlow hhigh
    rw [rounds_iff] at hlow hhigh
    obtain rfl := Option.some.inj h
    exact hb.isNearest_nearer hlow hhigh
  · rename_i hlow hhigh
    rw [← Bool.not_eq_true, rounds_iff] at hhigh
    rw [rounds_iff] at hlow
    obtain rfl := Option.some.inj h
    exact ⟨rfl, Or.inl rfl, hlow, fun n hn => ((hb.rounds_of_grid hn).resolve_right fun hr => hhigh hr.1).2⟩
  · rename_i hlow hhigh
    rw [← Bool.not_eq_true, rounds_iff] at hlow
    rw [rounds_iff] at hhigh
    obtain rfl := Option.some.inj h
    exact ⟨rfl, Or.inr rfl, hhigh, fun n hn => ((hb.rounds_of_grid hn).resolve_left fun hr => hlow hr.1).2⟩
  · cases h

theorem withDigits?_eq_none (hb : b.IsFloat) (h : b.withDigits? k = none) (n : ℕ) :
    ¬ b.Rounds (n * 10 ^ b.lastPlace k) := by
  intro hn
  unfold withDigits? at h
  dsimp only at h
  split at h
  case h_4 hlow hhigh =>
    rw [← Bool.not_eq_true, rounds_iff] at hlow hhigh
    exact (hb.rounds_of_grid hn).elim (fun hr => hlow hr.1) fun hr => hhigh hr.1
  all_goals cases h

/-! ## Seventeen digits -/

theorem rounds_of_lt (hlow : b.quarters (4 * b.significand - b.below) < x)
    (hhigh : x < b.quarters (4 * b.significand + 2)) : b.Rounds x := by
  unfold Rounds
  split
  · exact ⟨hlow.le, hhigh.le⟩
  · exact ⟨hlow, hhigh⟩

theorem IsFloat.quarters_sub_below (hb : b.IsFloat) :
    b.quarters (4 * b.significand - b.below) = b.value - b.quarters b.below := by
  have hle : b.below ≤ 4 * b.significand := by
    have hpos := hb.pos
    rcases hb.below_eq with h | ⟨h, -⟩ <;> omega
  rw [value, quarters, quarters, quarters, Nat.cast_sub hle, sub_mul]

/-- Half a step of seventeen digits is less than the distance from the float to either end of its interval. -/
theorem IsFloat.step_lt (hb : b.IsFloat) :
    (10 : ℚ) ^ b.lastPlace 17 < 2 * b.quarters b.below ∧ b.quarters b.below ≤ b.quarters 2 := by
  have hunit : (0 : ℚ) < 2 ^ b.exponent := by positivity
  have hstep : (10 : ℚ) ^ 16 * 10 ^ b.lastPlace 17 ≤ 4 * (b.significand * 2 ^ b.exponent) := by
    have hsplit : (10 : ℚ) ^ 16 * 10 ^ b.lastPlace 17 = 10 ^ b.magnitude := by
      rw [lastPlace, ← zpow_natCast, ← zpow_add₀ (by norm_num)]
      congr 1
      omega
    have hvalue : b.value = 4 * (b.significand * 2 ^ b.exponent) := by
      rw [value, quarters, Nat.cast_mul, Nat.cast_ofNat, mul_assoc]
    rw [hsplit, ← hvalue]
    exact hb.magnitude_spec.1
  have hwidth : 2 * b.significand < b.below * 10 ^ 16 ∧ b.below ≤ 2 := by
    have hlt := hb.lt
    rcases hb.below_eq with h | ⟨h, h'⟩ <;> omega
  constructor
  · have hwide : (2 * b.significand : ℚ) * 2 ^ b.exponent < (b.below * 10 ^ 16 : ℚ) * 2 ^ b.exponent :=
      mul_lt_mul_of_pos_right (by exact_mod_cast hwidth.1) hunit
    rw [quarters]
    linarith
  · exact mul_le_mul_of_nonneg_right (Nat.cast_le.mpr hwidth.2) hunit.le

/-- One of the two numbers of seventeen digits next to a float is less than half a step away, and rounds to it. -/
theorem IsFloat.withDigits?_seventeen (hb : b.IsFloat) : b.withDigits? 17 ≠ none := by
  intro hnone
  have hno := withDigits?_eq_none hb hnone
  obtain ⟨hle, hlt⟩ := b.floorAt_spec (b.lastPlace 17)
  obtain ⟨hstep, hbelow⟩ := hb.step_lt
  have hlow := hb.lt_value
  have hhigh : b.quarters (4 * b.significand + 2) = b.value + b.quarters 2 := by
    rw [value, quarters, quarters, quarters, Nat.cast_add, add_mul]
  have hnext : ((b.floorAt (b.lastPlace 17) + 1 : ℕ) : ℚ) * 10 ^ b.lastPlace 17 =
      b.floorAt (b.lastPlace 17) * 10 ^ b.lastPlace 17 + 10 ^ b.lastPlace 17 := by
    rw [Nat.cast_add, Nat.cast_one, add_mul, one_mul]
  rcases le_total (b.value - b.floorAt (b.lastPlace 17) * 10 ^ b.lastPlace 17) (10 ^ b.lastPlace 17 / 2) with
    hnear | hnear
  · refine hno (b.floorAt (b.lastPlace 17)) (rounds_of_lt ?_ (lt_of_le_of_lt hle value_lt))
    rw [hb.quarters_sub_below]
    linarith
  · refine hno (b.floorAt (b.lastPlace 17) + 1) (rounds_of_lt (hlow.trans hlt) ?_)
    rw [hhigh, hnext]
    linarith

theorem exists_shortest (hb : b.IsFloat) :
    ∃ k, b.withDigits? (k + 1) = some b.shortest ∧ ∀ j < k, b.withDigits? (j + 1) = none := by
  unfold shortest
  cases hfind : (List.range 17).findSome? fun k => b.withDigits? (k + 1) with
  | none =>
    rw [List.findSome?_eq_none_iff] at hfind
    exact absurd (hfind 16 (by decide)) hb.withDigits?_seventeen
  | some d =>
    rw [List.findSome?_eq_some_iff] at hfind
    obtain ⟨before, k, after, hsplit, hk, hbefore⟩ := hfind
    refine ⟨k, hk, fun j hj => hbefore j ?_⟩
    have hsorted : (before ++ k :: after).Pairwise (· < ·) := hsplit ▸ List.pairwise_lt_range
    have hmem : j ∈ before ++ k :: after := by
      rw [← hsplit, List.mem_range]
      have hk17 : k ∈ List.range 17 := hsplit ▸ List.mem_append_right before List.mem_cons_self
      exact hj.trans (List.mem_range.mp hk17)
    rcases List.mem_append.mp hmem with hmem | hmem
    · exact hmem
    · rcases List.mem_cons.mp hmem with rfl | hafter
      · exact absurd hj (Nat.lt_irrefl _)
      · have hlater := (List.pairwise_cons.mp (List.pairwise_append.mp hsorted).2.1).1 j hafter
        exact absurd hj (Nat.lt_asymm hlater)

theorem floorAt_lt (hb : b.IsFloat) (k : ℕ) : b.floorAt (b.lastPlace k) < 10 ^ k := by
  have hle := (b.floorAt_spec (b.lastPlace k)).1
  have hpos : (0 : ℚ) < 10 ^ b.lastPlace k := by positivity
  have hsplit : (10 : ℚ) ^ (b.magnitude + 1) = 10 ^ k * 10 ^ b.lastPlace k := by
    rw [lastPlace, ← zpow_natCast, ← zpow_add₀ (by norm_num)]
    congr 1
    omega
  have hlt := lt_of_le_of_lt hle hb.magnitude_spec.2
  rw [hsplit] at hlt
  exact_mod_cast lt_of_mul_lt_mul_right hlt hpos.le

/-- If a decimal number of so many digits rounds to the float, then so does one on the grid of that many digits. -/
theorem IsFloat.exists_rounds (hb : b.IsFloat) (hd : b.Rounds d.value) (hk : d.digits < 10 ^ (k + 1)) :
    ∃ n : ℕ, b.Rounds (n * 10 ^ b.lastPlace (k + 1)) := by
  rcases le_or_gt (b.lastPlace (k + 1)) d.exponent with hcoarse | hfine
  · obtain ⟨z, hz⟩ := Int.le.dest hcoarse
    refine ⟨d.digits * 10 ^ z, ?_⟩
    have hvalue : ((d.digits * 10 ^ z : ℕ) : ℚ) * 10 ^ b.lastPlace (k + 1) = d.value := by
      rw [Decimal.value, ← hz, zpow_add₀ (by norm_num), zpow_natCast, Nat.cast_mul, Nat.cast_pow, Nat.cast_ofNat]
      ring
    rwa [hvalue]
  · -- All its digits stand behind the grid, so that the first power of ten lies between it and the float.
    have hgrid : ((10 ^ k : ℕ) : ℚ) * 10 ^ b.lastPlace (k + 1) = 10 ^ b.magnitude := by
      rw [lastPlace, Nat.cast_pow, Nat.cast_ofNat, ← zpow_natCast, ← zpow_add₀ (by norm_num)]
      congr 1
      push_cast
      ring
    have hbelow : d.value ≤ 10 ^ b.magnitude := by
      have hdigits : (d.digits : ℚ) ≤ 10 ^ (k + 1) := by exact_mod_cast hk.le
      have hplace : (10 : ℚ) ^ d.exponent ≤ 10 ^ (b.lastPlace (k + 1) - 1) := zpow_le_zpow_right₀ (by norm_num) (by omega)
      have hproduct := mul_le_mul hdigits hplace (by positivity) (by positivity)
      refine hproduct.trans (le_of_eq ?_)
      rw [lastPlace, ← zpow_natCast, ← zpow_add₀ (by norm_num)]
      congr 1
      omega
    refine ⟨10 ^ k, hb.rounds_of_between hd (Or.inl ⟨?_, ?_⟩)⟩
    · rwa [hgrid]
    · rw [hgrid]
      exact hb.magnitude_spec.1

end Binary

/-! ## Written digits -/

namespace Decimal

variable {d : Decimal}

theorem scientific_fst (d : Decimal) : d.scientific.1 = (Nat.toDigits 10 d.digits).rdropWhile (· == '0') := rfl

theorem length_scientific_le (d : Decimal) : d.scientific.1.length ≤ (Nat.toDigits 10 d.digits).length :=
  (List.rdropWhile_prefix _ _).length_le

/-- The digits that are written, with the power of ten of the first of them, stand for the same number. -/
theorem scientific_value (d : Decimal) :
    d.value = Nat.ofDigitChars 10 d.scientific.1 0 * 10 ^ (d.scientific.2 + 1 - d.scientific.1.length) := by
  obtain ⟨z, hz⟩ : ∃ z, Nat.toDigits 10 d.digits = d.scientific.1 ++ List.replicate z '0' := by
    have hzeros : ∀ c ∈ (Nat.toDigits 10 d.digits).rtakeWhile (· == '0'), c = '0' := fun c hc => by
      simpa using List.mem_rtakeWhile_imp hc
    refine ⟨((Nat.toDigits 10 d.digits).rtakeWhile (· == '0')).length, ?_⟩
    rw [← List.eq_replicate_of_mem hzeros, scientific_fst, List.rdropWhile_append_rtakeWhile]
  have hdigits : d.digits = 10 ^ z * Nat.ofDigitChars 10 d.scientific.1 0 := by
    rw [← Nat.ofDigitChars_replicate_zero, ← Nat.ofDigitChars_append, ← hz,
      Nat.ofDigitChars_toDigits (by decide) (by decide)]
  have hexponent : d.scientific.2 + 1 - d.scientific.1.length = d.exponent + z := by
    have hpower : d.scientific.2 = d.exponent + (Nat.toDigits 10 d.digits).length - 1 := rfl
    rw [hpower, hz, List.length_append, List.length_replicate]
    omega
  rw [hexponent, zpow_add₀ (by norm_num), zpow_natCast, value]
  nth_rewrite 1 [hdigits]
  push_cast
  ring

end Decimal

/-! ## Main result -/

namespace Binary

variable {b : Binary}

/-- **Floats are written with the fewest digits.** The written digits, with the power of ten of the first of them, round
to the float. No decimal number with fewer digits does, and no number in the same places is nearer. -/
theorem shortest_has_fewest_digits (hb : b.IsFloat) :
    b.Rounds (Nat.ofDigitChars 10 b.shortest.scientific.1 0 *
      10 ^ (b.shortest.scientific.2 + 1 - b.shortest.scientific.1.length)) ∧
    (∀ d : Decimal, b.Rounds d.value → b.shortest.scientific.1.length ≤ (Nat.toDigits 10 d.digits).length) ∧
    ∀ n : ℕ, b.Rounds (n * 10 ^ b.shortest.exponent) →
      |b.shortest.value - b.value| ≤ |n * 10 ^ b.shortest.exponent - b.value| := by
  obtain ⟨k, hk, hfewer⟩ := exists_shortest hb
  obtain ⟨hexponent, hdigits, hrounds, hnearest⟩ := withDigits?_eq_some hb hk
  rw [← Decimal.scientific_value]
  refine ⟨hrounds, fun d hd => ?_, by rwa [hexponent]⟩
  have hlength : k + 1 ≤ (Nat.toDigits 10 d.digits).length := by
    by_contra hshort
    obtain ⟨j, hj⟩ : ∃ j, j + 1 = (Nat.toDigits 10 d.digits).length :=
      ⟨_, Nat.sub_add_cancel Nat.length_toDigits_pos⟩
    obtain ⟨n, hn⟩ := hb.exists_rounds hd (hj ▸ lt_pow_length_toDigits d.digits)
    exact withDigits?_eq_none hb (hfewer j (by omega)) n hn
  refine le_trans ?_ hlength
  rcases Nat.lt_or_ge b.shortest.digits (10 ^ (k + 1)) with hlt | hge
  · exact b.shortest.length_scientific_le.trans ((Nat.length_toDigits_le_iff (by decide) (Nat.succ_pos k)).mpr hlt)
  · -- The next power of ten rounds to the float, which is found with a single digit.
    have hpow : b.shortest.digits = 10 ^ (k + 1) := by
      have hfloor := floorAt_lt hb (k + 1)
      omega
    have hten : b.Rounds ((10 : ℕ) * 10 ^ b.lastPlace (0 + 1)) := by
      have hvalue : ((10 : ℕ) : ℚ) * 10 ^ b.lastPlace (0 + 1) = b.shortest.value := by
        rw [Decimal.value, hexponent, hpow, lastPlace, lastPlace, Nat.cast_pow, Nat.cast_ofNat, ← zpow_natCast,
          ← zpow_add₀ (by norm_num), ← zpow_one_add₀ (by norm_num)]
        congr 1
        push_cast
        ring
      rwa [hvalue]
    obtain rfl : k = 0 := by
      by_contra hne
      exact withDigits?_eq_none hb (hfewer 0 (Nat.pos_of_ne_zero hne)) 10 hten
    rw [Decimal.scientific_fst, hpow]
    decide

end Binary

end Compaction.Text
