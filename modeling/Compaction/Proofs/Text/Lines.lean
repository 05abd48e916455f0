import Compaction.Transcript.Entry
import Mathlib.Algebra.BigOperators.Intervals

/-!
# Lines by their ends

* `Text.lineBreaks` : the characters that end a line (`Text.isLineBreak_iff`);
* `Text.EndsLineAt`, `Text.lineEnds` : the positions at which a line ends, and how many there are;
* `Text.IsUnfinished` : nothing ends the last line;
* `Text.Joins` : two texts of which the first ends in a carriage return and the second starts with a line
  feed;
* `Text.lineEnds_append` : the line ends of two texts, one behind the other;
* `Text.linesFrom_eq` : the pass over a text counts its line ends, and an unfinished last line;
* `Text.countLines_append` : so the lines of two texts add up behind the end of a line;
* `Text.countLines_of_noBreak` : a text without line breaks is one line;
* `Entry.lineCount_le_charLen` : a content has no more lines than characters;
* `Entry.lineCount_counts_line_ends` : the lines of a content by their ends.

The pass takes a carriage return and the line feed behind it in one step. By positions that is the line end
of the carriage return alone, whatever stands in front of it: in `\r\r\n` both carriage returns end a line,
in `\r\n\n` the carriage return and the second line feed do.
-/

namespace Compaction.Text

variable {a b cs : List Char} {c : Char} {i : Nat}

/-! ## Line ends -/

def lineBreaks : List Char :=
  ['\n', '\r', '\x0b', '\x0c', '\x1c', '\x1d', '\x1e', '\u0085', '\u2028', '\u2029']

/-- A line ends at position `i`: a line break stands there, and it is not the line feed right behind a
carriage return, which has ended the line before it. -/
def EndsLineAt (cs : List Char) (i : Nat) : Prop :=
  (∃ c ∈ lineBreaks, cs[i]? = some c) ∧ ¬ (cs[i]? = some '\n' ∧ 0 < i ∧ cs[i - 1]? = some '\r')

-- There are instances that search all characters, and so these name the list that is searched.
instance (cs : List Char) (i : Nat) : Decidable (EndsLineAt cs i) :=
  @instDecidableAnd _ _ (List.decidableBEx _ _) inferInstance

/-- The number of positions at which a line ends. -/
def lineEnds (cs : List Char) : Nat := ((Finset.range cs.length).filter (EndsLineAt cs)).card

/-- The text is not empty, and no line break stands at its end. -/
def IsUnfinished (cs : List Char) : Prop := ∃ c, cs.getLast? = some c ∧ c ∉ lineBreaks

instance (cs : List Char) : Decidable (IsUnfinished cs) :=
  Option.decidableExistsMem cs.getLast?

/-- A carriage return at the end of `a` and a line feed at the start of `b` end one line together. -/
def Joins (a b : List Char) : Prop := a.getLast? = some '\r' ∧ b.head? = some '\n'

instance (a b : List Char) : Decidable (Joins a b) := inferInstanceAs (Decidable (_ ∧ _))

theorem isLineBreak_iff : isLineBreak c = true ↔ c ∈ lineBreaks := by
  simp only [isLineBreak, lineBreaks, Bool.or_eq_true, beq_iff_eq, List.mem_cons, List.not_mem_nil, or_false,
    or_assoc]

theorem notMem_lineBreaks_of_isDigit (hc : c.isDigit = true) : c ∉ lineBreaks := by
  have hbreaks : lineBreaks.all (fun d => !d.isDigit) = true := by decide
  intro hmem
  have hno := List.all_eq_true.mp hbreaks c hmem
  rw [hc] at hno
  cases hno

/-! ## Two texts, one behind the other -/

theorem endsLineAt_append_left (hi : i < a.length) : EndsLineAt (a ++ b) i ↔ EndsLineAt a i := by
  have hbefore : i - 1 < a.length := by omega
  rw [EndsLineAt, EndsLineAt, List.getElem?_append_left hi, List.getElem?_append_left hbefore]

/-- Behind its first position, the second text is as it is by itself. -/
theorem endsLineAt_append_right : EndsLineAt (a ++ b) (a.length + (i + 1)) ↔ EndsLineAt b (i + 1) := by
  have hbefore : a.length + (i + 1) - 1 = a.length + i := by omega
  have hpos : 0 < a.length + (i + 1) := by omega
  simp only [EndsLineAt, hbefore, hpos, Nat.succ_pos, Nat.add_sub_cancel, true_and, Nat.le_add_right,
    List.getElem?_append_right, Nat.add_sub_cancel_left]

/-- At its first position, the end of the first text counts as well. -/
theorem endsLineAt_append_length : EndsLineAt (a ++ b) a.length ↔ EndsLineAt b 0 ∧ ¬ Joins a b := by
  have hhere : (a ++ b)[a.length]? = b[0]? := by
    rw [List.getElem?_append_right (Nat.le_refl _), Nat.sub_self]
  have hbefore : 0 < a.length → (a ++ b)[a.length - 1]? = a.getLast? := by
    intro hpos
    rw [List.getLast?_eq_getElem?, List.getElem?_append_left (by omega)]
  have hjoins : (b[0]? = some '\n' ∧ 0 < a.length ∧ (a ++ b)[a.length - 1]? = some '\r') ↔ Joins a b := by
    rw [Joins, List.head?_eq_getElem?]
    constructor
    · rintro ⟨hfeed, hpos, hreturn⟩
      exact ⟨hbefore hpos ▸ hreturn, hfeed⟩
    · rintro ⟨hreturn, hfeed⟩
      have hpos : 0 < a.length := List.length_pos_of_mem (List.mem_of_getLast? hreturn)
      exact ⟨hfeed, hpos, (hbefore hpos).trans hreturn⟩
  simp only [EndsLineAt, hhere, hjoins, Nat.lt_irrefl, false_and, and_false, not_false_iff, and_true]

theorem Joins.endsLineAt (hj : Joins a b) : EndsLineAt b 0 := by
  have hfeed : b[0]? = some '\n' := by rw [← List.head?_eq_getElem?, hj.2]
  exact ⟨⟨'\n', by decide, hfeed⟩, fun hpair => Nat.lt_irrefl 0 hpair.2.1⟩

/-- The line ends of two texts add up, except that a carriage return and a line feed may meet. -/
theorem lineEnds_append (a b : List Char) :
    lineEnds (a ++ b) + (if Joins a b then 1 else 0) = lineEnds a + lineEnds b := by
  have hfirst : ∀ i ∈ Finset.range a.length, (if EndsLineAt (a ++ b) i then 1 else 0) =
      if EndsLineAt a i then 1 else 0 := by
    intro i hi
    simp only [endsLineAt_append_left (Finset.mem_range.mp hi)]
  simp only [lineEnds, Finset.card_filter, List.length_append, Finset.sum_range_add]
  rw [Finset.sum_congr rfl hfirst, Nat.add_assoc, Nat.add_left_cancel_iff]
  -- Of the second text, only the first position can have changed.
  cases b with
  | nil => simp [Joins]
  | cons d b =>
    simp only [List.length_cons, Finset.sum_range_succ', endsLineAt_append_right, Nat.add_zero,
      endsLineAt_append_length]
    rw [Nat.add_assoc, Nat.add_left_cancel_iff]
    by_cases hj : Joins a (d :: b)
    · rw [if_neg fun hend => hend.2 hj, if_pos hj, if_pos hj.endsLineAt]
    · simp only [hj, not_false_iff, and_true, if_false, Nat.add_zero]

theorem lineEnds_singleton (c : Char) : lineEnds [c] = if c ∈ lineBreaks then 1 else 0 := by
  have hend : EndsLineAt [c] 0 ↔ c ∈ lineBreaks := by simp [EndsLineAt]
  rw [lineEnds, List.length_singleton, Finset.card_filter, Finset.sum_range_one]
  simp only [hend]

theorem lineEnds_cons (hj : ¬ Joins [c] cs) :
    lineEnds (c :: cs) = lineEnds cs + if c ∈ lineBreaks then 1 else 0 := by
  have happend := lineEnds_append [c] cs
  rwa [if_neg hj, lineEnds_singleton, Nat.add_comm (ite _ _ _)] at happend

/-- The line feed behind a carriage return ends no line of its own. -/
theorem lineEnds_pair (cs : List Char) : lineEnds ('\r' :: '\n' :: cs) = lineEnds cs + 1 := by
  have happend := lineEnds_append ['\r', '\n'] cs
  have hjoins : ¬ Joins ['\r', '\n'] cs := fun hj => absurd hj.1 (by decide)
  have hpair : lineEnds ['\r', '\n'] = 1 := by decide
  rwa [if_neg hjoins, hpair, Nat.add_comm 1] at happend

theorem not_isUnfinished_nil : ¬ IsUnfinished [] := by
  rintro ⟨c, hc, -⟩
  cases hc

theorem isUnfinished_append : IsUnfinished (a ++ b) ↔ (b = [] ∧ IsUnfinished a) ∨ IsUnfinished b := by
  by_cases hb : b = []
  · rw [hb, List.append_nil]
    simp only [true_and, not_isUnfinished_nil, or_false]
  · simp only [IsUnfinished, List.getLast?_append_of_ne_nil a hb, hb, false_and, false_or]

/-- The pass sees no line feed behind a carriage return. -/
theorem not_joins_of_ne (hpair : ∀ rest, c = '\r' → cs = '\n' :: rest → False) : ¬ Joins [c] cs := by
  rintro ⟨hreturn, hfeed⟩
  obtain ⟨rest, hrest⟩ := List.head?_eq_some_iff.mp hfeed
  exact hpair rest (Option.some.inj hreturn) hrest

theorem isUnfinished_cons : IsUnfinished (c :: cs) ↔ (cs = [] ∧ c ∉ lineBreaks) ∨ IsUnfinished cs := by
  have hone : IsUnfinished [c] ↔ c ∉ lineBreaks := by simp [IsUnfinished]
  rw [← hone]
  exact isUnfinished_append (a := [c])

/-! ## The pass over a text -/

/-- The induction is on the pass, which may start on a line that is open. -/
theorem linesFrom_eq (unfinished : Bool) (cs : List Char) :
    linesFrom unfinished cs =
      lineEnds cs + if (cs = [] ∧ unfinished = true) ∨ IsUnfinished cs then 1 else 0 := by
  fun_induction linesFrom unfinished cs with
  | case1 => rfl
  | case2 unfinished hclosed =>
    have hends : ¬ (([] : List Char) = [] ∧ unfinished = true ∨ IsUnfinished []) := by
      simp [hclosed, not_isUnfinished_nil]
    rw [if_neg hends]
    rfl
  | case3 unfinished cs ih =>
    have hbreaks : '\r' ∈ lineBreaks ∧ '\n' ∈ lineBreaks := by decide
    rw [ih, lineEnds_pair, Nat.add_right_comm]
    simp only [isUnfinished_cons, hbreaks, reduceCtorEq, not_true, and_false, false_and, false_or]
  | case4 unfinished c cs hpair hbreak ih =>
    have hmem := isLineBreak_iff.mp hbreak
    rw [ih, lineEnds_cons (not_joins_of_ne hpair), if_pos hmem, Nat.add_right_comm]
    simp only [isUnfinished_cons, hmem, reduceCtorEq, not_true, and_false, false_and, false_or]
  | case5 unfinished c cs hpair hbreak ih =>
    have hmem := mt isLineBreak_iff.mpr hbreak
    rw [ih, lineEnds_cons (not_joins_of_ne hpair), if_neg hmem, Nat.add_zero]
    simp only [isUnfinished_cons, hmem, reduceCtorEq, not_false_iff, and_true, false_and, false_or]

theorem countLines_eq (cs : List Char) :
    countLines cs = lineEnds cs + if IsUnfinished cs then 1 else 0 := by
  rw [countLines, linesFrom_eq]
  simp only [and_false, false_or, reduceCtorEq]

theorem countLines_append (ha : ¬ IsUnfinished a) (b : List Char) :
    countLines (a ++ b) + (if Joins a b then 1 else 0) = countLines a + countLines b := by
  have hends := lineEnds_append a b
  have hlast : IsUnfinished (a ++ b) ↔ IsUnfinished b := by
    rw [isUnfinished_append]
    simp only [ha, and_false, false_or]
  simp only [countLines_eq, hlast, ha, if_false]
  omega

theorem lineEnds_le (cs : List Char) : lineEnds cs ≤ cs.length := by
  have hle : lineEnds cs ≤ (Finset.range cs.length).card := Finset.card_filter_le _ _
  rwa [Finset.card_range] at hle

/-- The last position of an unfinished text ends no line. -/
theorem IsUnfinished.lineEnds_lt (hopen : IsUnfinished cs) : lineEnds cs < cs.length := by
  obtain ⟨c, hc, hbreak⟩ := hopen
  rw [List.getLast?_eq_getElem?] at hc
  have hlast : cs.length - 1 ∈ Finset.range cs.length :=
    Finset.mem_range.mpr (List.getElem?_eq_some_iff.mp hc).1
  have hno : ¬ EndsLineAt cs (cs.length - 1) := by
    rintro ⟨⟨d, hd, hdc⟩, -⟩
    obtain rfl : c = d := Option.some.inj (hc.symm.trans hdc)
    exact hbreak hd
  have hlt : lineEnds cs < (Finset.range cs.length).card :=
    Finset.card_lt_card (Finset.filter_ssubset.mpr ⟨_, hlast, hno⟩)
  rwa [Finset.card_range] at hlt

theorem countLines_le_length (cs : List Char) : countLines cs ≤ cs.length := by
  rw [countLines_eq]
  by_cases hopen : IsUnfinished cs
  · rw [if_pos hopen]
    exact hopen.lineEnds_lt
  · rw [if_neg hopen]
    exact lineEnds_le cs

theorem countLines_of_noBreak (hcs : ∀ c ∈ cs, c ∉ lineBreaks) (hne : cs ≠ []) : countLines cs = 1 := by
  have hends : lineEnds cs = 0 := by
    rw [lineEnds, Finset.card_eq_zero, Finset.filter_eq_empty_iff]
    rintro i - ⟨⟨c, hbreak, hc⟩, -⟩
    exact hcs c (List.mem_of_getElem? hc) hbreak
  have hopen : IsUnfinished cs :=
    ⟨cs.getLast hne, List.getLast?_eq_some_getLast hne, hcs _ (List.getLast_mem hne)⟩
  rw [countLines_eq, hends, if_pos hopen]

end Compaction.Text

namespace Compaction

theorem Entry.lineCount_le_charLen (e : Entry) : e.lineCount ≤ e.charLen := by
  have hlines := Text.countLines_le_length e.content.toList
  rwa [String.length_toList] at hlines

/-- **The lines of a content by their ends.** There are as many as positions at which one of the ten line
breaks stands, other than a line feed right behind a carriage return, and one more if the content is not
empty and no line break stands at its end. So the lines of two texts add up if the first one ends in a line
break, except that a carriage return and a line feed that meet end one line and not two. -/
theorem Entry.lineCount_counts_line_ends (e : Entry) :
    e.lineCount = Text.lineEnds e.content.toList +
      (if Text.IsUnfinished e.content.toList then 1 else 0) ∧
    (∀ c, Text.isLineBreak c = true ↔ c ∈ Text.lineBreaks) ∧
    ∀ a b : String, (∃ c ∈ Text.lineBreaks, a.toList.getLast? = some c) →
      (e.withContent (a ++ b)).lineCount + (if Text.Joins a.toList b.toList then 1 else 0) =
        (e.withContent a).lineCount + (e.withContent b).lineCount := by
  refine ⟨Text.countLines_eq _, fun _ => Text.isLineBreak_iff, ?_⟩
  rintro a b ⟨c, hbreak, hc⟩
  have hfinished : ¬ Text.IsUnfinished a.toList := by
    rintro ⟨d, hd, hmem⟩
    obtain rfl : c = d := Option.some.inj (hc.symm.trans hd)
    exact hmem hbreak
  show Text.countLines (a ++ b).toList + _ = _
  rw [String.toList_append]
  exact Text.countLines_append hfinished b.toList

def fourBreaks : Entry := { role := .user, content := "a\r\r\n\nb" }

/-- Cut between the carriage returns and the line feeds, the content has two lines in front of the cut and
three behind it. In one piece it has four. -/
theorem Entry.lineCount_counts_line_ends_fourBreaks :
    (∃ c ∈ Text.lineBreaks, "a\r\r".toList.getLast? = some c) ∧
    fourBreaks.lineCount = 3 + 1 ∧
    fourBreaks.lineCount + 1 =
      (fourBreaks.withContent "a\r\r").lineCount + (fourBreaks.withContent "\n\nb").lineCount := by
  have hbreak : ∃ c ∈ Text.lineBreaks, "a\r\r".toList.getLast? = some c := ⟨'\r', by decide, by decide⟩
  have hends : Text.lineEnds fourBreaks.content.toList = 3 := by decide
  have hopen : Text.IsUnfinished fourBreaks.content.toList := by decide
  have hjoins : Text.Joins "a\r\r".toList "\n\nb".toList := by decide
  obtain ⟨hcount, -, happend⟩ := Entry.lineCount_counts_line_ends fourBreaks
  refine ⟨hbreak, ?_, ?_⟩
  · rw [hcount, hends, if_pos hopen]
  · rw [← happend "a\r\r" "\n\nb" hbreak, if_pos hjoins]
    rfl

end Compaction
