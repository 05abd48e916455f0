import Compaction.Json.StringText
import Compaction.Json.Value
import Mathlib.Data.List.Forall2

/-!
# Strings as they are written

* `IsPieceText`, `IsStringText` : the texts of a piece and of a string, which may escape any character;
* `scanString?_pieces` : such a text is scanned up to its closing quote, and comes back as its pieces;
* `pieceOf` : the piece as which a character comes back that is written by `escapeChar`;
* `decodePieces?_pieceOf` : the piece of a character stands for that character;
* `isStringText_stringChars` : so a written string has its own characters.
-/

namespace Compaction.Json

open Value (escapeChar stringChars)

/-! ## Texts of strings -/

/-- What may stand for a piece: a character by itself, a backslash and a letter, or a backslash, the letter u and four
hexadecimal digits. -/
inductive IsPieceText : Piece → List Char → Prop where
  | plain {c : Char} (hquote : c ≠ '"') (hbackslash : c ≠ '\\') (hcontrol : ¬ c.toNat < 0x20) :
    IsPieceText (.char c) [c]
  | letter {e c : Char} (h : shortEscape? e = some c) : IsPieceText (.char c) ['\\', e]
  | digits {a b c d : Char} {code : Nat} (h : codeUnit? a b c d = some code) :
    IsPieceText (.unit code) ['\\', 'u', a, b, c, d]

/-- The text of a string: the texts of some pieces between quotes. The string has no value if a surrogate among them
is without its partner. -/
def IsStringText (s : Option String) (text : List Char) : Prop :=
  ∃ pieces texts, List.Forall₂ IsPieceText pieces texts ∧ text = '"' :: (texts.flatten ++ ['"']) ∧
    s = (decodePieces? [] pieces).map String.ofList

/-- A character that needs no escape stands for itself. -/
theorem scanString?_plain (pieces : List Piece) {c : Char} (rest : List Char) (hq : c ≠ '"')
    (hb : c ≠ '\\') (hc : ¬ c.toNat < 0x20) :
    scanString? pieces (c :: rest) = scanString? (.char c :: pieces) rest := by
  rw [scanString?.eq_def]
  split
  · simp_all
  · simp_all
  · simp_all
  · simp_all
  · rename_i heq
    obtain ⟨rfl, rfl⟩ := List.cons.inj heq
    rw [if_neg (by simp [hc, hb])]

theorem IsPieceText.scanString? {piece : Piece} {text : List Char} (h : IsPieceText piece text)
    (pieces : List Piece) (rest : List Char) :
    Json.scanString? pieces (text ++ rest) = Json.scanString? (piece :: pieces) rest := by
  cases h with
  | plain hquote hbackslash hcontrol => exact scanString?_plain pieces rest hquote hbackslash hcontrol
  | letter h =>
    -- Each of the letters makes a closed text, on which the scan computes.
    unfold shortEscape? at h
    split at h <;> cases h <;> rfl
  | digits h => simp only [List.cons_append, List.nil_append, Json.scanString?, h]

theorem scanString?_flatten {pieces : List Piece} {texts : List (List Char)}
    (h : List.Forall₂ IsPieceText pieces texts) (before : List Piece) (rest : List Char) :
    scanString? before (texts.flatten ++ rest) = scanString? (pieces.reverse ++ before) rest := by
  induction h generalizing before with
  | nil => rfl
  | cons hpiece _ ih =>
    rw [List.flatten_cons, List.append_assoc, hpiece.scanString?, ih, List.reverse_cons, List.append_assoc,
      List.singleton_append]

/-- The text of a string ends at its closing quote. -/
theorem scanString?_pieces {pieces : List Piece} {texts : List (List Char)}
    (h : List.Forall₂ IsPieceText pieces texts) (rest : List Char) :
    scanString? [] (texts.flatten ++ '"' :: rest) = some (pieces, rest) := by
  rw [scanString?_flatten h, List.append_nil]
  show some (pieces.reverse.reverse, rest) = _
  rw [List.reverse_reverse]

/-! ## Written characters -/

/-- The controls that are escaped with a letter. -/
def lettered : List Char := ['\x08', '\t', '\n', '\x0c', '\r']

/-- The piece as which a written character comes back: a control without a letter of its own is written
as a code unit. -/
def pieceOf (c : Char) : Piece :=
  if c.toNat < 0x20 ∧ c ∉ lettered then .unit c.toNat else .char c

theorem codeUnit?_control {code : Nat} (h : code < 0x20) :
    codeUnit? '0' '0' (Nat.digitChar (code / 16)) (Nat.digitChar (code % 16)) = some code := by
  have hzero : Text.hexValue? '0' = some 0 := rfl
  unfold codeUnit?
  rw [hzero, Text.hexValue?_digitChar (by omega), Text.hexValue?_digitChar (by omega)]
  show some (((0 * 16 + 0) * 16 + code / 16) * 16 + code % 16) = some code
  rw [show ((0 * 16 + 0) * 16 + code / 16) * 16 + code % 16 = code by omega]

/-- **Every escape is undone.** -/
theorem isPieceText_escapeChar (c : Char) : IsPieceText (pieceOf c) (escapeChar c) := by
  by_cases hq : c = '"'
  · subst hq
    exact .letter rfl
  by_cases hb : c = '\\'
  · subst hb
    exact .letter rfl
  by_cases hl : c ∈ lettered
  · simp only [lettered, List.mem_cons, List.not_mem_nil, or_false] at hl
    rcases hl with rfl | rfl | rfl | rfl | rfl <;> exact .letter rfl
  have hne := hl
  simp only [lettered, List.mem_cons, List.not_mem_nil, or_false, not_or] at hne
  obtain ⟨h₁, h₂, h₃, h₄, h₅⟩ := hne
  by_cases hc : c.toNat < 0x20
  · have hw : escapeChar c =
        ['\\', 'u', '0', '0', Nat.digitChar (c.toNat / 16), Nat.digitChar (c.toNat % 16)] := by
      simp [escapeChar, hq, hb, h₁, h₂, h₃, h₄, h₅, hc]
    have hp : pieceOf c = .unit c.toNat := if_pos ⟨hc, hl⟩
    rw [hw, hp]
    exact .digits (codeUnit?_control hc)
  · have hw : escapeChar c = [c] := by
      simp [escapeChar, hq, hb, h₁, h₂, h₃, h₄, h₅, hc]
    have hp : pieceOf c = .char c := if_neg (fun h => hc h.1)
    rw [hw, hp]
    exact .plain hq hb hc

/-! ## Characters -/

/-- A code unit below the surrogates is a character, whatever follows. -/
theorem decodePieces?_unit (chars : List Char) {code : Nat} (pieces : List Piece) (h : code < 0xD800) :
    decodePieces? chars (.unit code :: pieces) = decodePieces? (Char.ofNat code :: chars) pieces := by
  have hhigh : isHighSurrogate code = false := by
    unfold isHighSurrogate
    rw [decide_eq_false (by omega), Bool.false_and]
  have hlow : isLowSurrogate code = false := by
    unfold isLowSurrogate
    rw [decide_eq_false (by omega), Bool.false_and]
  rw [decodePieces?.eq_def]
  split <;> simp_all

/-- The piece of a character stands for that character. -/
theorem decodePieces?_pieceOf (chars : List Char) (c : Char) (pieces : List Piece) :
    decodePieces? chars (pieceOf c :: pieces) = decodePieces? (c :: chars) pieces := by
  unfold pieceOf
  split
  · rename_i h
    rw [decodePieces?_unit chars pieces (by omega), Char.ofNat_toNat]
  · rfl

theorem decodePieces?_map (cs : List Char) (chars : List Char) :
    decodePieces? chars (cs.map pieceOf) = some (chars.reverse ++ cs) := by
  induction cs generalizing chars with
  | nil => rw [List.map_nil, decodePieces?, List.append_nil]
  | cons c cs ih =>
    rw [List.map_cons, decodePieces?_pieceOf, ih, List.reverse_cons, List.append_assoc, List.singleton_append]

/-! ## Written strings -/

theorem isStringText_stringChars (s : String) : IsStringText (some s) (stringChars s) := by
  refine ⟨s.toList.map pieceOf, s.toList.map escapeChar, ?_, ?_, ?_⟩
  · rw [List.forall₂_map_left_iff, List.forall₂_map_right_iff]
    exact List.forall₂_same.mpr fun c _ => isPieceText_escapeChar c
  · rw [stringChars, List.flatMap_def, List.cons_append]
  · rw [decodePieces?_map, List.reverse_nil, List.nil_append, Option.map_some, String.ofList_toList]

end Compaction.Json
