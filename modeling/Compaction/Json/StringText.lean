import Compaction.Text.Digits

/-!
# Written strings

* `Piece` : a part of a written string, a character or a code unit;
* `scanString?` : the pieces of a string behind its opening quote;
* `decodePieces?` : the characters of a string, in which surrogates must come in pairs.
-/

namespace Compaction.Json

/-- A part of a string: a character, or a code unit written with four hexadecimal digits. -/
inductive Piece where
  | char (c : Char)
  | unit (code : Nat)

def codeUnit? (a b c d : Char) : Option Nat := do
  let a ← Text.hexValue? a
  let b ← Text.hexValue? b
  let c ← Text.hexValue? c
  let d ← Text.hexValue? d
  return ((a * 16 + b) * 16 + c) * 16 + d

/-- The character that a short escape stands for. -/
def shortEscape? : Char → Option Char
  | '"' => some '"'
  | '\\' => some '\\'
  | '/' => some '/'
  | 'b' => some '\x08'
  | 'f' => some '\x0c'
  | 'n' => some '\n'
  | 'r' => some '\r'
  | 't' => some '\t'
  | _ => none

/-- Reads a string up to its closing quote, with the pieces read so far in `pieces`, last first. A
control character below the space may not stand in a string. -/
def scanString? (pieces : List Piece) : List Char → Option (List Piece × List Char)
  | [] => none
  | '"' :: cs => some (pieces.reverse, cs)
  | '\\' :: 'u' :: a :: b :: c :: d :: cs =>
    match codeUnit? a b c d with
    | some code => scanString? (.unit code :: pieces) cs
    | none => none
  | '\\' :: e :: cs =>
    match shortEscape? e with
    | some c => scanString? (.char c :: pieces) cs
    | none => none
  | c :: cs => if c.toNat < 0x20 ∨ c = '\\' then none else scanString? (.char c :: pieces) cs

/-- A code unit that must be followed by a low surrogate. -/
def isHighSurrogate (code : Nat) : Bool := decide (0xD800 ≤ code) && decide (code < 0xDC00)

/-- A code unit that must follow a high surrogate. -/
def isLowSurrogate (code : Nat) : Bool := decide (0xDC00 ≤ code) && decide (code < 0xE000)

def joinSurrogates (high low : Nat) : Char :=
  Char.ofNat (0x10000 + (high - 0xD800) * 0x400 + (low - 0xDC00))

/-- The characters of a string behind those in `chars`, last first. -/
def decodePieces? (chars : List Char) : List Piece → Option (List Char)
  | [] => some chars.reverse
  | .char c :: pieces => decodePieces? (c :: chars) pieces
  | .unit high :: .unit low :: pieces =>
    if isHighSurrogate high then
      if isLowSurrogate low then decodePieces? (joinSurrogates high low :: chars) pieces else none
    else if isLowSurrogate high then none
    else decodePieces? (Char.ofNat high :: chars) (.unit low :: pieces)
  | .unit code :: pieces =>
    if isHighSurrogate code || isLowSurrogate code then none
    else decodePieces? (Char.ofNat code :: chars) pieces

theorem length_scanString?_lt {pieces : List Piece} {cs : List Char} {r : List Piece × List Char}
    (h : scanString? pieces cs = some r) : r.2.length < cs.length := by
  fun_induction scanString? pieces cs generalizing r <;> simp_all <;> grind

end Compaction.Json
