/-!
# Digits and numbers

* `hexDigits`, `hexValue?` : hexadecimal digits;
* `countOfDigits?`, `count?` : the whole number of 64 bits that a word stands for;
* `isExponent`, `isUnsignedDecimal`, `isDecimal` : words that stand for a number, or for one of the values beyond all
  numbers.
-/

namespace Compaction.Text

/-! ## Hexadecimal digits -/

def hexDigits (n : Nat) : List Char := Nat.toDigits 16 n

def hexValue? (c : Char) : Option Nat :=
  if c.isDigit then some (c.toNat - '0'.toNat)
  else if 'a' ≤ c ∧ c ≤ 'f' then some (c.toNat - 'a'.toNat + 10)
  else if 'A' ≤ c ∧ c ≤ 'F' then some (c.toNat - 'A'.toNat + 10)
  else none

theorem hexValue?_digitChar {digit : Nat} (h : digit < 16) : hexValue? (Nat.digitChar digit) = some digit := by
  decide +revert

/-! ## Counts -/

def digitValue (c : Char) : Nat := c.toNat - '0'.toNat

def maxCount : Nat := 0xFFFFFFFFFFFFFFFF

/-- The whole number of 64 bits in decimal digits, behind which nothing may stand. -/
def countOfDigits? (digits : List Char) : Option UInt64 :=
  if digits.isEmpty || !digits.all Char.isDigit then none
  else
    let value := digits.foldl (fun acc c => acc * 10 + digitValue c) 0
    if value ≤ maxCount then some (UInt64.ofNat value) else none

/-- The whole number of 64 bits that a word stands for; a plus sign may come first. -/
def count? (word : String) : Option UInt64 :=
  match word.toList with
  | '+' :: digits => countOfDigits? digits
  | digits => countOfDigits? digits

/-! ## Decimal numbers -/

def behindSign (word : List Char) : List Char :=
  match word with
  | '+' :: rest => rest
  | '-' :: rest => rest
  | _ => word

def isDigits (word : List Char) : Bool := !word.isEmpty && word.all Char.isDigit

/-- The exponent of a number: a letter `e` of either case, a sign if need be, and digits. -/
def isExponent (word : List Char) : Bool :=
  match word with
  | 'e' :: rest => isDigits (behindSign rest)
  | 'E' :: rest => isDigits (behindSign rest)
  | _ => false

/-- A number in decimal digits, with a point among or beside them if need be, and an exponent. -/
def isUnsignedDecimal (word : List Char) : Bool :=
  let whole := word.takeWhile Char.isDigit
  match word.dropWhile Char.isDigit with
  | '.' :: rest =>
    let exponent := rest.dropWhile Char.isDigit
    !(whole ++ rest.takeWhile Char.isDigit).isEmpty && (exponent.isEmpty || isExponent exponent)
  | exponent => !whole.isEmpty && (exponent.isEmpty || isExponent exponent)

/-- A word that stands for a number, for an infinity, or for no number, after a sign if need be. -/
def isDecimal (word : List Char) : Bool :=
  let word := behindSign word
  isUnsignedDecimal word
    || ["inf", "infinity", "nan"].contains (String.ofList (word.map Char.toLower))

end Compaction.Text
