import Compaction.Proofs.Text.CharClass
import Compaction.Proofs.Text.Lines
import Compaction.Text.Quoted
import Mathlib.Tactic.SplitIfs

/-!
# Quoted text

* `eq_blank_of_isPlain`, `notMem_lineBreaks_of_isPlain` : the plain characters are no white space but the blank;
* `hexDigits_injective` : a number can be read back from its hexadecimal digits;
* `quoteChar_cases`, `quoteChar_append_inj` : the three ways in which a character stands between quotes, none of which goes
  on as another one does;
* `quoted_injective` : no two texts look alike between quotes;
* `isPlain_of_mem_quoted`, `countLines_quoted` : a quoted text can be seen, and stays in one line.
-/

namespace Compaction.Text

variable {c d : Char}

/-! ## Plain characters -/

theorem isPlain_of_lt (hlow : 0x20 ≤ c.toNat) (hhigh : c.toNat < 0x7F) : isPlain c = true := by
  simp [isPlain, hlow, hhigh]

/-- The only white space that a reader of a message can see is the blank. -/
theorem eq_blank_of_isPlain (hplain : isPlain c = true) (hc : isWhiteSpace c = true) : c = ' ' := by
  have hwithin : within (whiteSpaceRanges.erase (0x20, 0x20)) unprintableRanges = true := by decide +kernel
  have hapart : apart (whiteSpaceRanges.erase (0x20, 0x20)) [(0x20, 0x7E)] = true := by decide +kernel
  obtain ⟨range, hrange, hlow, hhigh⟩ := inRanges_iff.mp hc
  by_cases hblank : range = (0x20, 0x20)
  · rw [hblank] at hlow hhigh
    exact Char.toNat_inj.mp (Nat.le_antisymm hhigh hlow)
  · have hother : inRanges (whiteSpaceRanges.erase (0x20, 0x20)) c = true :=
      inRanges_iff.mpr ⟨range, (List.mem_erase_of_ne hblank).mpr hrange, hlow, hhigh⟩
    have hvisible := inRanges_eq_false_of_apart hapart hother
    have hhidden := inRanges_of_within hwithin hother
    simp only [inRanges, List.any_cons, List.any_nil, Bool.or_false, Bool.and_eq_false_iff, decide_eq_false_iff_not]
      at hvisible
    simp only [isPlain, hhidden, Bool.not_true, Bool.false_and, Bool.or_false, Bool.and_eq_true, decide_eq_true_eq]
      at hplain
    omega

theorem notMem_lineBreaks_of_isPlain (h : isPlain c = true) : c ∉ lineBreaks := by
  have hbreaks : lineBreaks.all (fun b => !isPlain b) = true := by decide +kernel
  intro hc
  have hhidden := List.all_eq_true.mp hbreaks c hc
  rw [h] at hhidden
  cases hhidden

/-! ## Hexadecimal digits -/

theorem mem_hexDigits {n : Nat} (h : c ∈ hexDigits n) : ∃ digit < 16, c = Nat.digitChar digit := by
  induction n using Nat.strongRecOn with
  | ind n ih =>
    rw [hexDigits, Nat.toDigits_eq_if (by decide)] at h
    split_ifs at h with hn
    · exact ⟨n, hn, List.mem_singleton.mp h⟩
    · rcases List.mem_append.mp h with hfront | hlast
      · exact ih (n / 16) (by omega) hfront
      · exact ⟨n % 16, Nat.mod_lt n (by decide), List.mem_singleton.mp hlast⟩

def hexValue (digits : List Char) : Nat := digits.foldl (fun value c => value * 16 + (hexValue? c).getD 0) 0

theorem hexValue_concat (digits : List Char) (c : Char) :
    hexValue (digits ++ [c]) = hexValue digits * 16 + (hexValue? c).getD 0 := by
  simp [hexValue, List.foldl_append]

theorem hexValue_hexDigits (n : Nat) : hexValue (hexDigits n) = n := by
  induction n using Nat.strongRecOn with
  | ind n ih =>
    rw [hexDigits, Nat.toDigits_eq_if (by decide)]
    split_ifs with hn
    · simp [hexValue, hexValue?_digitChar hn]
    · show hexValue (hexDigits (n / 16) ++ [Nat.digitChar (n % 16)]) = n
      rw [hexValue_concat, ih (n / 16) (by omega), hexValue?_digitChar (Nat.mod_lt n (by decide)), Option.getD_some]
      omega

theorem hexDigits_injective : Function.Injective hexDigits :=
  Function.LeftInverse.injective hexValue_hexDigits

theorem hexDigit_spec {n : Nat} (h : c ∈ hexDigits n) : isPlain c = true ∧ c ≠ '}' := by
  have hdigits : ∀ digit < 16, isPlain (Nat.digitChar digit) = true ∧ Nat.digitChar digit ≠ '}' := by decide +kernel
  obtain ⟨digit, hdigit, rfl⟩ := mem_hexDigits h
  exact hdigits digit hdigit

/-- Digits in front of a closing brace end there. -/
theorem hexDigits_append_inj {m n : Nat} {rest more : List Char}
    (h : hexDigits m ++ '}' :: rest = hexDigits n ++ '}' :: more) : m = n ∧ rest = more := by
  have hdigits (n : Nat) : ∀ c ∈ hexDigits n, (c != '}') = true := fun c hc => bne_iff_ne.mpr (hexDigit_spec hc).2
  have hbrace (rest : List Char) : ∀ c ∈ ('}' :: rest).head?, (c != '}') = false := fun c hc => by
    simp [(Option.some.inj hc).symm]
  have htake := congrArg (List.takeWhile (· != '}')) h
  have hdrop := congrArg (List.dropWhile (· != '}')) h
  rw [takeWhile_run (hdigits m) (hbrace rest), takeWhile_run (hdigits n) (hbrace more)] at htake
  rw [dropWhile_run (hdigits m) (hbrace rest), dropWhile_run (hdigits n) (hbrace more)] at hdrop
  exact ⟨hexDigits_injective htake, (List.cons.inj hdrop).2⟩

/-! ## Quotes -/

/-- The characters with an escape of two characters, and the second one of these. -/
def shortEscapes : List (Char × Char) :=
  [('\x00', '0'), ('\t', 't'), ('\n', 'n'), ('\r', 'r'), ('"', '"'), ('\\', '\\')]

/-- A character stands between quotes as a short escape, as itself or by its code point. -/
theorem quoteChar_cases (c : Char) :
    (∃ e, (c, e) ∈ shortEscapes ∧ quoteChar c = ['\\', e]) ∨
    (isPlain c = true ∧ c ≠ '\\' ∧ quoteChar c = [c]) ∨
    quoteChar c = '\\' :: 'u' :: '{' :: (hexDigits c.toNat ++ ['}']) := by
  unfold quoteChar
  split_ifs with h0 ht hn hr hquote hslash hplain
  · exact .inl ⟨'0', by simp_all [shortEscapes], rfl⟩
  · exact .inl ⟨'t', by simp_all [shortEscapes], rfl⟩
  · exact .inl ⟨'n', by simp_all [shortEscapes], rfl⟩
  · exact .inl ⟨'r', by simp_all [shortEscapes], rfl⟩
  · exact .inl ⟨'"', by simp_all [shortEscapes], rfl⟩
  · exact .inl ⟨'\\', by simp_all [shortEscapes], rfl⟩
  · exact .inr (.inl ⟨hplain, by simpa using hslash, rfl⟩)
  · exact .inr (.inr rfl)

theorem quoteChar_ne_nil (c : Char) : quoteChar c ≠ [] := by
  rcases quoteChar_cases c with ⟨e, -, heq⟩ | ⟨-, -, heq⟩ | heq <;> exact heq ▸ List.cons_ne_nil _ _

/-- What stands for a character ends where it does, and says which one it is. -/
theorem quoteChar_append_inj {rest more : List Char} (h : quoteChar c ++ rest = quoteChar d ++ more) :
    c = d ∧ rest = more := by
  -- A short escape, a character by itself and a code differ in their first two characters.
  have hshort : ∀ p ∈ shortEscapes, p.2 ≠ 'u' ∧ ∀ q ∈ shortEscapes, p.2 = q.2 → p.1 = q.1 := by decide
  rcases quoteChar_cases c with ⟨e, he, hc⟩ | ⟨-, hslash, hc⟩ | hc <;>
    rcases quoteChar_cases d with ⟨f, hf, hd⟩ | ⟨-, hslash', hd⟩ | hd <;>
    rw [hc, hd] at h <;> simp only [List.cons_append, List.nil_append, List.cons.injEq, true_and] at h
  · exact ⟨(hshort _ he).2 _ hf h.1, h.2⟩
  · exact absurd h.1.symm hslash'
  · exact absurd h.1 (hshort _ he).1
  · exact absurd h.1 hslash
  · exact h
  · exact absurd h.1 hslash
  · exact absurd h.1.symm (hshort _ hf).1
  · exact absurd h.1.symm hslash'
  · obtain ⟨hcode, hrest⟩ := hexDigits_append_inj (by simpa only [List.append_assoc, List.singleton_append] using h)
    exact ⟨Char.toNat_inj.mp hcode, hrest⟩

theorem flatMap_quoteChar_injective : Function.Injective (List.flatMap quoteChar) := by
  intro cs ds h
  induction cs generalizing ds with
  | nil =>
    cases ds with
    | nil => rfl
    | cons d ds => exact absurd (List.append_eq_nil_iff.mp h.symm).1 (quoteChar_ne_nil d)
  | cons c cs ih =>
    cases ds with
    | nil => exact absurd (List.append_eq_nil_iff.mp h).1 (quoteChar_ne_nil c)
    | cons d ds =>
      obtain ⟨rfl, hrest⟩ := quoteChar_append_inj (by simpa only [List.flatMap_cons] using h)
      rw [ih hrest]

/-- No two texts look alike between quotes. -/
theorem quoted_injective : Function.Injective quoted := by
  intro s t h
  have hlist := String.ofList_injective h
  rw [List.cons_append, List.cons_append, List.cons.injEq] at hlist
  exact String.toList_injective (flatMap_quoteChar_injective (List.append_cancel_right hlist.2))

theorem isPlain_of_mem_quoteChar (h : d ∈ quoteChar c) : isPlain d = true := by
  have hplain : (['\\', 'u', '{', '}', '"'] ++ shortEscapes.map Prod.snd).all isPlain = true := by decide +kernel
  have hmarks := List.all_eq_true.mp hplain
  rcases quoteChar_cases c with ⟨e, he, hc⟩ | ⟨hplain, -, hc⟩ | hc <;> rw [hc] at h
  · have hsecond : e ∈ shortEscapes.map Prod.snd := List.mem_map_of_mem he
    refine hmarks d ?_
    rcases List.mem_cons.mp h with rfl | h
    · exact List.mem_cons_self
    · exact List.mem_append_right _ (List.mem_singleton.mp h ▸ hsecond)
  · exact List.mem_singleton.mp h ▸ hplain
  · simp only [List.mem_cons, List.mem_append, List.not_mem_nil, or_false] at h
    rcases h with rfl | rfl | rfl | hdigit | rfl
    · exact hmarks _ (by decide)
    · exact hmarks _ (by decide)
    · exact hmarks _ (by decide)
    · exact (hexDigit_spec hdigit).1
    · exact hmarks _ (by decide)

/-- A reader of a message can see each character of a quoted text. -/
theorem isPlain_of_mem_quoted {s : String} (h : c ∈ (quoted s).toList) : isPlain c = true := by
  rw [quoted, String.toList_ofList, List.cons_append, List.mem_cons, List.mem_append, List.mem_flatMap] at h
  rcases h with rfl | ⟨d, -, hd⟩ | hlast
  · exact isPlain_of_lt (by decide) (by decide)
  · exact isPlain_of_mem_quoteChar hd
  · exact List.mem_singleton.mp hlast ▸ isPlain_of_lt (by decide) (by decide)

/-- A quoted text stays in one line. -/
theorem countLines_quoted (s : String) : countLines (quoted s).toList = 1 := by
  refine countLines_of_noBreak (fun c hc => notMem_lineBreaks_of_isPlain (isPlain_of_mem_quoted hc)) ?_
  rw [quoted, String.toList_ofList]
  exact List.cons_ne_nil _ _

end Compaction.Text
