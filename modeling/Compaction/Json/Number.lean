import Compaction.Text.Digits
import Compaction.Text.Shortest

/-!
# Numbers

* `Number` : a whole number of 64 bits, or a float;
* `NumberText` : the parts of a written number;
* `Number.ofText?` : the number that a text stands for; a whole number beyond 64 bits, a negative zero
  and every number with a fraction or an exponent is a float, and none may be out of a float's range;
* `Number.toChars` : the written form, for floats with the fewest digits that read back.
-/

namespace Compaction.Json

inductive Number where
  | natural (n : UInt64)
  | negative (n : Int)
  | float (x : Float)
  deriving BEq

structure NumberText where
  negative : Bool
  whole : List Char
  fraction : List Char
  /-- The exponent: whether it has a minus sign, and its digits. -/
  exponent : Option (Bool × List Char)

/-! ## Reading -/

/-- Appends digits to the number `acc` while it stays within `limit`, and returns the other digits. -/
def absorbDigits (limit : Nat) : Nat → List Char → Nat × List Char
  | acc, [] => (acc, [])
  | acc, c :: cs =>
    let next := acc * 10 + Text.digitValue c
    if next ≤ limit then absorbDigits limit next cs else (acc, c :: cs)

def powerOfTen (k : Nat) : Float := Float.ofScientific 1 false k

/-- `x * 10 ^ exponent` by multiplications and divisions of floats with powers up to 308; none if the
result is too large. -/
def scaleFloat? (x : Float) (exponent : Int) : Option Float :=
  if exponent.natAbs ≤ 308 then
    if 0 ≤ exponent then
      let scaled := x * powerOfTen exponent.natAbs
      if scaled.isInf then none else some scaled
    else some (x / powerOfTen exponent.natAbs)
  else if x == 0 then some x
  else if 0 ≤ exponent then none
  else scaleFloat? (x / powerOfTen 308) (exponent + 308)
termination_by exponent.natAbs
decreasing_by omega

/-- The largest significand that is collected exactly; later digits of a number do not count. -/
def maxSignificand : Nat := Text.maxCount

def maxExponent : Nat := 0x7FFFFFFF

namespace Number

def signed (negative : Bool) (x : Float) : Number := .float (if negative then -x else x)

/-- `significand * 10 ^ exponent` with a sign. -/
def ofParts? (negative : Bool) (significand : Nat) (exponent : Int) : Option Number :=
  (scaleFloat? (UInt64.ofNat significand).toFloat exponent).map (signed negative)

/-- A whole number with a sign, where the significand is within its limit. -/
def ofWhole (negative : Bool) (significand : Nat) : Number :=
  if !negative then .natural (UInt64.ofNat significand)
  else if significand == 0 || 0x8000000000000000 < significand then
    .float (-(UInt64.ofNat significand).toFloat)
  else .negative (-(significand : Int))

def ofText? (t : NumberText) : Option Number :=
  let whole := absorbDigits maxSignificand 0 t.whole
  let all := absorbDigits maxSignificand whole.1 t.fraction
  let used := t.fraction.length - all.2.length
  let shift : Int := (whole.2.length : Int) - used
  match t.exponent with
  | none =>
    if whole.2.isEmpty && t.fraction.isEmpty then some (ofWhole t.negative whole.1)
    else ofParts? t.negative all.1 shift
  | some (down, digits) =>
    let power := absorbDigits maxExponent 0 digits
    if !power.2.isEmpty then
      if all.1 != 0 && !down then none else some (signed t.negative 0)
    else
      let exponent : Int := if down then shift - power.1 else shift + power.1
      ofParts? t.negative all.1 (max (-0x80000000) (min exponent maxExponent))

/-! ## Writing -/

/-- A positive float: a point stands between the digits if the first of them has a power of ten from
-5 to 15, and otherwise behind the first digit, with the power of ten and its sign at the end. -/
def positiveFloatChars (x : Float) : List Char :=
  let (digits, power) := (Text.Binary.ofFloat x).shortest.scientific
  let count : Int := digits.length
  if 0 ≤ power && power ≤ 15 then
    if count ≤ power + 1 then
      digits ++ List.replicate (power + 1 - count).toNat '0' ++ ['.', '0']
    else digits.take (power + 1).toNat ++ '.' :: digits.drop (power + 1).toNat
  else if -5 ≤ power && power < 0 then
    '0' :: '.' :: List.replicate (-power - 1).toNat '0' ++ digits
  else
    let mantissa := match digits with
      | first :: second :: more => first :: '.' :: second :: more
      | short => short
    mantissa ++ 'e' :: (if power < 0 then '-' else '+') :: Nat.toDigits 10 power.natAbs

def floatChars (x : Float) : List Char :=
  if x == 0 then if x.toBits == 0 then "0.0".toList else "-0.0".toList
  else if x < 0 then '-' :: positiveFloatChars (-x) else positiveFloatChars x

def intChars (i : Int) : List Char :=
  if i < 0 then '-' :: Nat.toDigits 10 i.natAbs else Nat.toDigits 10 i.natAbs

def toChars : Number → List Char
  | natural n => Nat.toDigits 10 n.toNat
  | negative n => intChars n
  | float x => floatChars x

end Number

end Compaction.Json
