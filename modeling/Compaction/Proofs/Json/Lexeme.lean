import Compaction.Json.Lexeme
import Compaction.Proofs.Json.NumberText
import Compaction.Proofs.Json.StringText

/-!
# Words of a text

* `lexemesFrom_eq` : the words in front of a text do not change how it is read;
* `lexemes_cons` : a text is read word by word;
* `IsBlank` : white space, which is passed over (`lexemes_blank`, `lexemes_of_isBlank`);
* `lexemes_null`, `lexemes_true`, `lexemes_false`, `IsStringText.lexemes`, `IsNumberText.lexemes` : the words that take
  more than one character are one word each, whatever follows.
-/

namespace Compaction.Json

/-! ## Word by word -/

theorem lexemesFrom_end (words : List Lexeme) {cs : List Char} (hs : skipSpace cs = []) :
    lexemesFrom words cs = words.reverse ++ [.endOfText] := by
  rw [lexemesFrom]
  split <;> simp_all

theorem lexemesFrom_word (words : List Lexeme) {cs rest rest' : List Char} {c : Char} {word : Lexeme}
    (hs : skipSpace cs = c :: rest) (hl : lexeme? c rest = some (word, rest')) :
    lexemesFrom words cs = lexemesFrom (word :: words) rest' := by
  rw [lexemesFrom]
  split
  · simp_all
  · rename_i heq
    obtain ⟨rfl, rfl⟩ := List.cons.inj (hs.symm.trans heq)
    split <;> simp_all

theorem lexemesFrom_stuck (words : List Lexeme) {cs rest : List Char} {c : Char}
    (hs : skipSpace cs = c :: rest) (hl : lexeme? c rest = none) : lexemesFrom words cs = words.reverse := by
  rw [lexemesFrom]
  split
  · simp_all
  · rename_i heq
    obtain ⟨rfl, rfl⟩ := List.cons.inj (hs.symm.trans heq)
    split <;> simp_all

/-- The words in front of a text do not change how it is read. -/
theorem lexemesFrom_eq (words : List Lexeme) (cs : List Char) :
    lexemesFrom words cs = words.reverse ++ lexemes cs := by
  unfold lexemes
  -- The words change along the recursion, so the induction is on the length of the text for all of them.
  induction hn : cs.length using Nat.strongRecOn generalizing words cs with
  | ind n ih =>
    cases hs : skipSpace cs with
    | nil => rw [lexemesFrom_end words hs, lexemesFrom_end [] hs, List.reverse_nil, List.nil_append]
    | cons c rest =>
      cases hl : lexeme? c rest with
      | none =>
        rw [lexemesFrom_stuck words hs hl, lexemesFrom_stuck [] hs hl, List.reverse_nil, List.append_nil]
      | some found =>
        obtain ⟨word, rest'⟩ := found
        have hlt : rest'.length < n := hn ▸ length_lt_of_lexeme? hs hl
        rw [lexemesFrom_word words hs hl, lexemesFrom_word [] hs hl, ih _ hlt (word :: words) rest' rfl,
          ih _ hlt [word] rest' rfl, List.reverse_cons, List.append_assoc]
        rfl

/-- A text is read word by word. -/
theorem lexemes_cons {c : Char} {cs rest : List Char} {word : Lexeme} (hc : isSpace c = false)
    (hl : lexeme? c cs = some (word, rest)) : lexemes (c :: cs) = word :: lexemes rest := by
  have hs : skipSpace (c :: cs) = c :: cs := by
    rw [skipSpace, List.dropWhile_cons, if_neg (by rw [hc]; exact Bool.false_ne_true)]
  show lexemesFrom [] (c :: cs) = word :: lexemes rest
  rw [lexemesFrom_word [] hs hl, lexemesFrom_eq]
  rfl

/-! ## White space -/

theorem lexemes_space {c : Char} (cs : List Char) (hc : isSpace c = true) :
    lexemes (c :: cs) = lexemes cs := by
  have hs : skipSpace (c :: cs) = skipSpace cs := by
    rw [skipSpace, List.dropWhile_cons, if_pos hc]
    rfl
  unfold lexemes
  cases ht : skipSpace cs with
  | nil => rw [lexemesFrom_end [] ht, lexemesFrom_end [] (hs.trans ht)]
  | cons d rest =>
    cases hl : lexeme? d rest with
    | none => rw [lexemesFrom_stuck [] ht hl, lexemesFrom_stuck [] (hs.trans ht) hl]
    | some found => rw [lexemesFrom_word [] ht hl, lexemesFrom_word [] (hs.trans ht) hl]

def IsBlank (cs : List Char) : Prop := ∀ c ∈ cs, isSpace c = true

theorem isBlank_nil : IsBlank [] := nofun

theorem isBlank_space : IsBlank [' '] := List.forall_mem_singleton.mpr rfl

theorem lexemes_blank {blank : List Char} (h : IsBlank blank) (rest : List Char) :
    lexemes (blank ++ rest) = lexemes rest := by
  induction blank with
  | nil => rfl
  | cons c blank ih =>
    rw [IsBlank, List.forall_mem_cons] at h
    rw [List.cons_append, lexemes_space _ h.1, ih h.2]

/-- White space at the end of a text is no word. -/
theorem lexemes_of_isBlank {cs : List Char} (h : IsBlank cs) : lexemes cs = [.endOfText] := by
  have hs : skipSpace cs = [] := by
    rw [← List.append_nil cs, skipSpace, List.dropWhile_append_of_pos h]
    rfl
  exact lexemesFrom_end [] hs

theorem endsNumber_blank {blank rest : List Char} (h : IsBlank blank) (hrest : EndsNumber rest) :
    EndsNumber (blank ++ rest) := by
  cases blank with
  | nil => exact hrest
  | cons c blank =>
    have hs := h c List.mem_cons_self
    simp only [isSpace, Bool.or_eq_true, beq_iff_eq] at hs
    rcases hs with ((rfl | rfl) | rfl) | rfl <;> exact endsNumber_cons _ rfl

/-! ## Literals -/

theorem lexemes_null (rest : List Char) :
    lexemes ('n' :: 'u' :: 'l' :: 'l' :: rest) = .null :: lexemes rest :=
  lexemes_cons rfl rfl

theorem lexemes_true (rest : List Char) :
    lexemes ('t' :: 'r' :: 'u' :: 'e' :: rest) = .bool true :: lexemes rest :=
  lexemes_cons rfl rfl

theorem lexemes_false (rest : List Char) :
    lexemes ('f' :: 'a' :: 'l' :: 's' :: 'e' :: rest) = .bool false :: lexemes rest :=
  lexemes_cons rfl rfl

/-! ## Strings and numbers -/

/-- A string is one word. -/
theorem IsStringText.lexemes {s : Option String} {text : List Char} (h : IsStringText s text) (rest : List Char) :
    Json.lexemes (text ++ rest) = .string s :: Json.lexemes rest := by
  obtain ⟨pieces, texts, hpieces, rfl, rfl⟩ := h
  rw [List.cons_append, List.append_assoc, List.singleton_append]
  refine lexemes_cons rfl ?_
  show (scanString? [] (texts.flatten ++ '"' :: rest)).map _ = _
  rw [scanString?_pieces hpieces]
  rfl

theorem isSpace_eq_false {c : Char} (hc : c.isDigit = true ∨ c = '-') : isSpace c = false := by
  rw [Bool.eq_false_iff]
  intro hs
  simp only [isSpace, Bool.or_eq_true, beq_iff_eq] at hs
  rcases hs with ((rfl | rfl) | rfl) | rfl <;> exact absurd hc (by decide)

/-- A character that starts a number starts no other word. -/
theorem lexeme?_number {c : Char} (cs : List Char) (hc : c.isDigit = true ∨ c = '-') :
    lexeme? c cs = (scanNumber? (c :: cs)).map fun (text, rest) => (.number (Number.ofText? text), rest) := by
  unfold lexeme?
  split <;> first | rfl | exact absurd hc (by decide)

/-- A number starts with a digit or with its sign. -/
theorem IsNumberText.exists_cons {t : NumberText} {text : List Char} (h : IsNumberText t text) :
    ∃ c cs, text = c :: cs ∧ (c.isDigit = true ∨ c = '-') := by
  cases h with
  | @mk negative _ _ _ _ _ hwhole =>
    cases negative with
    | true => exact ⟨'-', _, rfl, Or.inr rfl⟩
    | false =>
      obtain ⟨c, cs, rfl, hc⟩ := exists_cons_of_isRun hwhole
      exact ⟨c, _, rfl, Or.inl hc⟩

/-- A number is one word in front of a text that does not go on with it. -/
theorem IsNumberText.lexemes {t : NumberText} {text rest : List Char} (h : IsNumberText t text)
    (hrest : EndsNumber rest) :
    Json.lexemes (text ++ rest) = .number (Number.ofText? t) :: Json.lexemes rest := by
  have hscan := h.scanNumber? hrest
  obtain ⟨c, cs, rfl, hc⟩ := h.exists_cons
  rw [List.cons_append] at hscan ⊢
  refine lexemes_cons (isSpace_eq_false hc) ?_
  rw [lexeme?_number _ hc, hscan]
  rfl

end Compaction.Json
