import Compaction.Json.NumberText
import Compaction.Json.StringText

/-!
# Lexemes

* `Lexeme` : the words of a JSON text;
* `skipSpace` : a text behind the white space that may stand between words;
* `lexeme?` : the word at the start of a text;
* `lexemes` : the words of a text up to its end, or up to the first character that starts none.
-/

namespace Compaction.Json

/-- A word of a JSON text. A string or a number without a value is well written but cannot be read:
the string has a surrogate without its partner, and the number is beyond all floats. -/
inductive Lexeme where
  | openArray
  | closeArray
  | openObject
  | closeObject
  | colon
  | comma
  | null
  | bool (b : Bool)
  | number (n : Option Number)
  | string (s : Option String)
  | endOfText

/-! ## White space -/

/-- The four characters that may stand between words. -/
def isSpace (c : Char) : Bool := c == ' ' || c == '\n' || c == '\t' || c == '\r'

def skipSpace (cs : List Char) : List Char := cs.dropWhile isSpace

/-! ## Words -/

/-- The word that starts with the character `c`, and the text behind it. -/
def lexeme? (c : Char) (cs : List Char) : Option (Lexeme × List Char) :=
  match c with
  | '[' => some (.openArray, cs)
  | ']' => some (.closeArray, cs)
  | '{' => some (.openObject, cs)
  | '}' => some (.closeObject, cs)
  | ':' => some (.colon, cs)
  | ',' => some (.comma, cs)
  | 'n' => (Text.behind? ['u', 'l', 'l'] cs).map fun rest => (.null, rest)
  | 't' => (Text.behind? ['r', 'u', 'e'] cs).map fun rest => (.bool true, rest)
  | 'f' => (Text.behind? ['a', 'l', 's', 'e'] cs).map fun rest => (.bool false, rest)
  | '"' => (scanString? [] cs).map fun (pieces, rest) =>
    (.string ((decodePieces? [] pieces).map String.ofList), rest)
  | c => (scanNumber? (c :: cs)).map fun (text, rest) => (.number (Number.ofText? text), rest)

theorem length_skipSpace_le (cs : List Char) : (skipSpace cs).length ≤ cs.length :=
  (List.dropWhile_sublist _).length_le

theorem length_lexeme?_le {c : Char} {cs : List Char} {r : Lexeme × List Char}
    (h : lexeme? c cs = some r) : r.2.length ≤ cs.length := by
  unfold lexeme? at h
  split at h
  case h_7 | h_8 | h_9 =>
    simp only [Option.map_eq_some_iff] at h
    obtain ⟨rest, hr, rfl⟩ := h
    exact Text.length_behind?_le hr
  case h_10 =>
    simp only [Option.map_eq_some_iff] at h
    obtain ⟨piece, hr, rfl⟩ := h
    exact Nat.le_of_lt (length_scanString?_lt hr)
  case h_11 =>
    simp only [Option.map_eq_some_iff] at h
    obtain ⟨text, hr, rfl⟩ := h
    have := length_scanNumber?_lt hr
    simp only [List.length_cons] at this
    simp only
    omega
  all_goals
    simp only [Option.some.injEq] at h
    subst h
    exact Nat.le_refl _

theorem length_lt_of_lexeme? {c : Char} {cs rest rest' : List Char} {word : Lexeme}
    (hs : skipSpace cs = c :: rest) (hl : lexeme? c rest = some (word, rest')) : rest'.length < cs.length := by
  have hspace := length_skipSpace_le cs
  have hword : rest'.length ≤ rest.length := length_lexeme?_le hl
  rw [hs, List.length_cons] at hspace
  omega

def lexemesFrom (words : List Lexeme) (cs : List Char) : List Lexeme :=
  match hs : skipSpace cs with
  | [] => (.endOfText :: words).reverse
  | c :: rest =>
    match hl : lexeme? c rest with
    | some (word, rest') =>
      have : rest'.length < cs.length := length_lt_of_lexeme? hs hl
      lexemesFrom (word :: words) rest'
    | none => words.reverse
termination_by cs.length

/-- The words of a text up to its end, or up to the first character that starts none. -/
def lexemes (cs : List Char) : List Lexeme := lexemesFrom [] cs

end Compaction.Json
