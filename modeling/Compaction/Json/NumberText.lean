import Compaction.Json.Number
import Compaction.Text.Scan

/-!
# Written numbers

* `scanFraction?`, `scanExponent?` : the two optional parts behind the whole digits;
* `scanNumber?` : a number, up to the first character that cannot continue it.
-/

namespace Compaction.Json

def scanFraction? : List Char → Option (List Char × List Char)
  | '.' :: cs =>
    (Text.behindRun? Char.isDigit cs).map fun rest => (cs.takeWhile Char.isDigit, rest)
  | cs => some ([], cs)

/-- Whether an exponent has a minus sign, and the text behind its sign. -/
def scanPowerSign : List Char → Bool × List Char
  | '-' :: cs => (true, cs)
  | '+' :: cs => (false, cs)
  | cs => (false, cs)

def scanPower? (cs : List Char) : Option (Bool × List Char × List Char) :=
  let (down, digits) := scanPowerSign cs
  (Text.behindRun? Char.isDigit digits).map fun rest => (down, digits.takeWhile Char.isDigit, rest)

def scanExponent? : List Char → Option (Option (Bool × List Char) × List Char)
  | c :: cs =>
    if c == 'e' || c == 'E' then
      (scanPower? cs).map fun power => (some (power.1, power.2.1), power.2.2)
    else some (none, c :: cs)
  | [] => some (none, [])

/-- A number without its sign. A zero at its start is its only digit before the point. -/
def scanUnsigned? (negative : Bool) (cs : List Char) : Option (NumberText × List Char) := do
  let afterWhole ← Text.behindRun? Char.isDigit cs
  let whole := cs.takeWhile Char.isDigit
  if whole.head? == some '0' && whole.length != 1 then none
  let (fraction, afterFraction) ← scanFraction? afterWhole
  let (exponent, rest) ← scanExponent? afterFraction
  return ({ negative, whole, fraction, exponent }, rest)

def scanNumber? : List Char → Option (NumberText × List Char)
  | '-' :: cs => scanUnsigned? true cs
  | cs => scanUnsigned? false cs

theorem length_scanFraction?_le {cs : List Char} {r : List Char × List Char}
    (h : scanFraction? cs = some r) : r.2.length ≤ cs.length := by
  unfold scanFraction? at h
  split at h
  · simp only [Option.map_eq_some_iff] at h
    obtain ⟨rest, hr, rfl⟩ := h
    have := Text.length_behindRun?_lt hr
    simp only [List.length_cons]
    omega
  · simp only [Option.some.injEq] at h
    subst h
    exact Nat.le_refl _

theorem length_scanPowerSign_le (cs : List Char) : (scanPowerSign cs).2.length ≤ cs.length := by
  unfold scanPowerSign
  split <;> simp

theorem length_scanPower?_le {cs : List Char} {r : Bool × List Char × List Char}
    (h : scanPower? cs = some r) : r.2.2.length ≤ cs.length := by
  simp only [scanPower?, Option.map_eq_some_iff] at h
  obtain ⟨rest, hr, rfl⟩ := h
  have h₁ := Text.length_behindRun?_lt hr
  have h₂ := length_scanPowerSign_le cs
  simp only
  omega

theorem length_scanExponent?_le {cs : List Char} {r : Option (Bool × List Char) × List Char}
    (h : scanExponent? cs = some r) : r.2.length ≤ cs.length := by
  unfold scanExponent? at h
  split at h
  · split at h
    · simp only [Option.map_eq_some_iff] at h
      obtain ⟨power, hp, rfl⟩ := h
      have := length_scanPower?_le hp
      simp only [List.length_cons]
      omega
    · simp only [Option.some.injEq] at h
      subst h
      exact Nat.le_refl _
  · simp only [Option.some.injEq] at h
    subst h
    exact Nat.le_refl _

theorem length_scanUnsigned?_lt {negative : Bool} {cs : List Char} {r : NumberText × List Char}
    (h : scanUnsigned? negative cs = some r) : r.2.length < cs.length := by
  simp only [scanUnsigned?, Option.bind_eq_bind, Option.bind_eq_some_iff] at h
  obtain ⟨afterWhole, hw, h⟩ := h
  split at h
  · simp at h
  · simp only [Option.bind_eq_some_iff] at h
    obtain ⟨fraction, hf, h⟩ := h
    obtain ⟨exponent, he, h⟩ := h
    simp only [Option.pure_def, Option.some.injEq] at h
    subst h
    have := Text.length_behindRun?_lt hw
    have := length_scanFraction?_le hf
    have := length_scanExponent?_le he
    simp only
    omega

theorem length_scanNumber?_lt {cs : List Char} {r : NumberText × List Char}
    (h : scanNumber? cs = some r) : r.2.length < cs.length := by
  unfold scanNumber? at h
  split at h
  · have := length_scanUnsigned?_lt h
    simp only [List.length_cons]
    omega
  · exact length_scanUnsigned?_lt h

end Compaction.Json
