/-!
# Shortest decimal digits of a float

A float stands for all numbers that round to it, which form an interval around it. Among the decimal
numbers in that interval, the one with the fewest digits is taken, and of several such the nearest.

* `Binary` : a positive float as a whole number times a power of two, with its interval;
* `Binary.ofFloat` : the decoding of a finite, positive float;
* `Decimal` : a whole number times a power of ten;
* `Binary.shortest` : the decimal number with the fewest digits that rounds to the float.
-/

namespace Compaction.Text

/-- A positive number `4 * significand * 2 ^ exponent`, together with the numbers that round to it: from
`(4 * significand - below) * 2 ^ exponent` up to `(4 * significand + 2) * 2 ^ exponent`. -/
structure Binary where
  significand : Nat
  /-- The power of two, two places finer than the digits. -/
  exponent : Int
  /-- The distance down to the end of the interval, which is 1 where the floats below lie closer. -/
  below : Nat
  deriving DecidableEq

/-- A number `digits * 10 ^ exponent`. -/
structure Decimal where
  digits : Nat
  exponent : Int
  deriving DecidableEq

namespace Binary

/-- Decodes a finite, positive float: 52 stored bits of the significand under 11 bits of exponent. -/
def ofFloat (x : Float) : Binary :=
  let bits := x.toBits.toNat
  let stored := bits % 0x10000000000000
  let biased := bits / 0x10000000000000 % 0x800
  if biased == 0 then ⟨stored, -1076, 2⟩
  else ⟨0x10000000000000 + stored, Int.ofNat biased - 1077, if stored == 0 && biased != 1 then 1 else 2⟩

/-- Powers of `base` with the negative exponents below the fraction bar. -/
def ratio (base : Nat) (exponent : Int) : Nat × Nat :=
  if 0 ≤ exponent then (Nat.pow base exponent.toNat, 1) else (1, Nat.pow base (-exponent).toNat)

/-- Compares `a * 2 ^ exponent`, in the scale of `b`, with `d`: the two sides over one denominator. -/
def sides (b : Binary) (a : Nat) (d : Decimal) : Nat × Nat :=
  let two := ratio 2 b.exponent
  let ten := ratio 10 d.exponent
  (a * two.1 * ten.2, d.digits * ten.1 * two.2)

/-- The decimal number lies in the interval; its ends belong to it if the significand is even. -/
def rounds (b : Binary) (d : Decimal) : Bool :=
  let low := b.sides (4 * b.significand - b.below) d
  let high := b.sides (4 * b.significand + 2) d
  if b.significand % 2 == 0 then decide (low.1 ≤ low.2) && decide (high.2 ≤ high.1)
  else decide (low.1 < low.2) && decide (high.2 < high.1)

/-- How far the decimal number is from the float, over a denominator that depends on the power of ten
alone. -/
def distance (b : Binary) (d : Decimal) : Nat :=
  let both := b.sides (4 * b.significand) d
  both.1 - both.2 + (both.2 - both.1)

/-- The largest whole multiple of `10 ^ exponent` up to the float. -/
def floorAt (b : Binary) (exponent : Int) : Nat :=
  let both := b.sides (4 * b.significand) ⟨1, exponent⟩
  both.1 / both.2

def magnitude (b : Binary) : Int :=
  let whole := b.floorAt 0
  if whole != 0 then Int.ofNat (Nat.toDigits 10 whole).length - 1
  else
    let places := ((List.range 400).find? fun k => b.floorAt (-Int.ofNat k) != 0).getD 400
    0 - Int.ofNat places

/-- The nearer one of two decimal numbers on one grid; a tie goes to the even digits. -/
def nearer (b : Binary) (low high : Decimal) : Decimal :=
  let below := b.distance low
  let above := b.distance high
  if below < above || below == above && low.digits % 2 == 0 then low else high

/-- The decimal number with `count` digits that rounds to the float, if there is one. -/
def withDigits? (b : Binary) (count : Nat) : Option Decimal :=
  let exponent := b.magnitude - count + 1
  let floor := b.floorAt exponent
  let low : Decimal := ⟨floor, exponent⟩
  let high : Decimal := ⟨floor + 1, exponent⟩
  match b.rounds low, b.rounds high with
  | true, true => some (b.nearer low high)
  | true, false => some low
  | false, true => some high
  | false, false => none

/-- The decimal number with the fewest digits that rounds to the float; seventeen digits always do. -/
def shortest (b : Binary) : Decimal :=
  ((List.range 17).findSome? fun k => b.withDigits? (k + 1)).getD ⟨b.floorAt 0, 0⟩

end Binary

/-- The digits of a decimal number without zeros at the end, and the power of ten of the first. -/
def Decimal.scientific (d : Decimal) : List Char × Int :=
  let all := Nat.toDigits 10 d.digits
  let kept := (all.reverse.dropWhile (· == '0')).reverse
  (kept, d.exponent + all.length - 1)

end Compaction.Text
