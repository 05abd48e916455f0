import Compaction.Proofs.FileView.Collapse

/-!
# The first header

* `IsClosing`, `IsEnding`, `IsPathIn`, `IsGapIn` : what a text starts with from some part of a header on, the last
  part first;
* `longestPath?_isLongest` : of all paths at the start of a text the longest one is found;
* `pathAfterSpace?_isGreedy` : behind an opening the white space takes as much as it can, and then the path;
* `Header`, `Header.IsFirstChoice` : a header with the text around it, and which one of several counts;
* `headerPath?_isPathOfFirstChoice` : the path that is found is the one of that header;
* `file_is_path_of_first_header` : so the file of a window is determined by all headers of its text.

White space may belong to the gap before the path, to the path, or to what ends it, and it is read without trying one
way after the other. This works because a parenthesis is no white space: a path that starts inside of a run of white
space and does not leave it ends where the run ends (`IsPathIn.of_run`), and then it could as well be empty.
-/

namespace Compaction.FileView

open Text (IsRun isDecimalDigit isWhiteSpace)

variable {cs gap path : List Char}

/-! ## The end of a header -/

theorem isDecimalDigit_of_isWhiteSpace {c : Char} (hc : isWhiteSpace c = true) : isDecimalDigit c = false := by
  simp only [isWhiteSpace, Text.inRanges, Text.whiteSpaceRanges, List.any_cons, List.any_nil, Bool.or_false,
    Bool.or_eq_true, Bool.and_eq_true, decide_eq_true_eq] at hc
  simp only [isDecimalDigit, Text.decimalZeros, List.any_cons, List.any_nil, Bool.or_false,
    Bool.or_eq_false_iff, Bool.and_eq_false_iff, decide_eq_false_iff_not]
  omega

/-- What closes a header: the number of lines of the file, behind an opening parenthesis. -/
def IsClosing (cs : List Char) : Prop :=
  ∃ count margin after, IsRun isDecimalDigit count ∧ IsRun isWhiteSpace margin ∧
    cs = '(' :: (count ++ (margin ++ (headerClosing ++ after)))

theorem IsClosing.not_isWhiteSpace (h : IsClosing cs) : ∀ c ∈ cs.head?, isWhiteSpace c = false := by
  obtain ⟨count, margin, after, -, -, rfl⟩ := h
  rintro c ⟨rfl⟩
  decide

theorem closesHeader_iff : closesHeader cs = true ↔ IsClosing cs := by
  rw [closesHeader, Option.isSome_iff_exists]
  simp only [Option.bind_eq_some_iff]
  constructor
  · rintro ⟨after, inner, hopen, inner', hcount, inner'', hmargin, hclose⟩
    obtain ⟨count, hdigits, rfl⟩ := Text.exists_run_of_behindRun? hcount
    obtain ⟨margin, hspace, rfl⟩ := Text.exists_run_of_behindRun? hmargin
    refine ⟨count, margin, after, hdigits, hspace, ?_⟩
    rw [Text.eq_append_of_behind? hopen, Text.eq_append_of_behind? hclose]
    rfl
  · rintro ⟨count, margin, after, hdigits, hspace, rfl⟩
    -- Neither run can take up what belongs to the part behind it.
    refine ⟨after, _, Text.behind?_append ['('] _, _, Text.behindRun?_append hdigits ?_, _,
      Text.behindRun?_append hspace ?_, Text.behind?_append headerClosing after⟩
    · intro c hc
      cases margin with
      | nil => exact absurd rfl hspace.1
      | cons d margin =>
        obtain rfl : d = c := Option.some.inj hc
        exact isDecimalDigit_of_isWhiteSpace (hspace.2 d List.mem_cons_self)
    · rintro c ⟨rfl⟩
      decide

/-! ## The path -/

/-- What ends a path: white space, behind which a header closes. -/
def IsEnding (cs : List Char) : Prop :=
  ∃ space rest, IsRun isWhiteSpace space ∧ IsClosing rest ∧ cs = space ++ rest

/-- The text starts with this path, which has no line feed. -/
def IsPathIn (path cs : List Char) : Prop := '\n' ∉ path ∧ ∃ rest, IsEnding rest ∧ cs = path ++ rest

theorem isEnding_cons_iff {c : Char} : IsEnding (c :: cs) ↔
    isWhiteSpace c = true ∧ ∃ space rest, (∀ d ∈ space, isWhiteSpace d = true) ∧ IsClosing rest ∧
      cs = space ++ rest := by
  constructor
  · rintro ⟨space, rest, ⟨hne, hspace⟩, hrest, hcs⟩
    cases space with
    | nil => exact absurd rfl hne
    | cons d space =>
      obtain ⟨rfl, rfl⟩ := List.cons.inj hcs
      obtain ⟨hc, hspace⟩ := List.forall_mem_cons.mp hspace
      exact ⟨hc, space, rest, hspace, hrest, rfl⟩
  · rintro ⟨hc, space, rest, hspace, hrest, rfl⟩
    exact ⟨c :: space, rest, ⟨List.cons_ne_nil _ _, List.forall_mem_cons.mpr ⟨hc, hspace⟩⟩, hrest, rfl⟩

theorem isPathIn_cons_iff {c : Char} : IsPathIn path (c :: cs) ↔
    path = [] ∧ IsEnding (c :: cs) ∨ ∃ more, path = c :: more ∧ c ≠ '\n' ∧ IsPathIn more cs := by
  constructor
  · rintro ⟨hline, rest, hrest, hcs⟩
    cases path with
    | nil => exact Or.inl ⟨rfl, hcs ▸ hrest⟩
    | cons d more =>
      obtain ⟨rfl, rfl⟩ := List.cons.inj hcs
      rw [List.mem_cons, not_or] at hline
      exact Or.inr ⟨more, rfl, Ne.symm hline.1, hline.2, rest, hrest, rfl⟩
  · rintro (⟨rfl, hend⟩ | ⟨more, rfl, hc, hline, rest, hrest, rfl⟩)
    · exact ⟨List.not_mem_nil, c :: cs, hend, rfl⟩
    · refine ⟨?_, rest, hrest, rfl⟩
      rw [List.mem_cons, not_or]
      exact ⟨Ne.symm hc, hline⟩

theorem endsPath_iff {c : Char} (hnone : c ≠ '\n' → ∀ path, ¬ IsPathIn path cs) :
    endsPath (c :: cs) = true ↔ IsEnding (c :: cs) := by
  rw [endsPath, isEnding_cons_iff]
  by_cases hc : c = '\n'
  · rw [if_pos (beq_iff_eq.mpr hc), closesHeader_iff, hc]
    constructor
    · intro hclose
      exact ⟨by decide, cs.takeWhile isWhiteSpace, _, Text.forall_mem_takeWhile _ _, hclose,
        List.takeWhile_append_dropWhile.symm⟩
    · rintro ⟨-, space, rest, hspace, hrest, rfl⟩
      rwa [Text.dropWhile_run hspace hrest.not_isWhiteSpace]
  · rw [if_neg (mt beq_iff_eq.mp hc), Bool.and_eq_true, closesHeader_iff]
    apply and_congr_right
    intro _
    constructor
    · intro hclose
      exact ⟨[], cs, by simp, hclose, rfl⟩
    · rintro ⟨space, rest, hspace, hrest, rfl⟩
      cases space with
      | nil => exact hrest
      | cons d space =>
        -- Here the empty path could be read one character later.
        exact absurd ⟨List.not_mem_nil, _, ⟨d :: space, rest, ⟨List.cons_ne_nil _ _, hspace⟩, hrest, rfl⟩, rfl⟩
          (hnone hc [])

/-- The result is the longest of the texts in question, if there is one. -/
def IsLongest (P : List Char → Prop) : Option (List Char) → Prop
  | none => ∀ path, ¬ P path
  | some path => P path ∧ ∀ other, P other → other.length ≤ path.length

theorem longestPath?_isLongest (cs : List Char) : IsLongest (IsPathIn · cs) (longestPath? cs) := by
  induction cs with
  | nil =>
    rintro path ⟨-, rest, ⟨space, rest', ⟨hne, -⟩, -, rfl⟩, hcs⟩
    have hnil := (List.append_eq_nil_iff.mp hcs.symm).2
    exact hne (List.append_eq_nil_iff.mp hnil).1
  | cons c cs ih =>
    rw [longestPath?]
    cases hmore : (if c == '\n' then none else longestPath? cs) with
    | some more =>
      have hc : c ≠ '\n' := by
        rintro rfl
        cases hmore
      rw [if_neg (mt beq_iff_eq.mp hc)] at hmore
      rw [hmore] at ih
      refine ⟨isPathIn_cons_iff.mpr (Or.inr ⟨more, rfl, hc, ih.1⟩), fun other hother => ?_⟩
      rcases isPathIn_cons_iff.mp hother with ⟨rfl, -⟩ | ⟨other, rfl, -, hother⟩
      · exact Nat.zero_le _
      · exact Nat.succ_le_succ (ih.2 other hother)
    | none =>
      have hnone : c ≠ '\n' → ∀ path, ¬ IsPathIn path cs := by
        intro hc
        rw [if_neg (mt beq_iff_eq.mp hc)] at hmore
        rwa [hmore] at ih
      have hempty : ∀ other, IsPathIn other (c :: cs) → other = [] ∧ IsEnding (c :: cs) := by
        intro other hother
        rcases isPathIn_cons_iff.mp hother with hother | ⟨other, rfl, hc, hother⟩
        · exact hother
        · exact absurd hother (hnone hc other)
      by_cases hend : endsPath (c :: cs) = true
      · simp only [hend, if_true]
        refine ⟨isPathIn_cons_iff.mpr (Or.inl ⟨rfl, (endsPath_iff hnone).mp hend⟩), fun other hother => ?_⟩
        exact Nat.le_of_eq (congrArg List.length (hempty other hother).1)
      · simp only [hend, Bool.false_eq_true, if_false]
        exact fun path hpath => hend ((endsPath_iff hnone).mpr (hempty path hpath).2)

/-! ## The white space before the path -/

/-- The text starts with this white space and this path. -/
def IsGapIn (gap path cs : List Char) : Prop := IsRun isWhiteSpace gap ∧ ∃ rest, IsPathIn path rest ∧ cs = gap ++ rest

/-- The result is the path behind the longest white space in question, and the longest one there. -/
def IsGreedy (P : List Char → List Char → Prop) : Option (List Char) → Prop
  | none => ∀ gap path, ¬ P gap path
  | some path => ∃ gap, P gap path ∧ ∀ gap' path', P gap' path' →
      gap'.length ≤ gap.length ∧ (gap'.length = gap.length → path'.length ≤ path.length)

section Run

variable {run rest : List Char} (hrun : ∀ c ∈ run, isWhiteSpace c = true)
  (hrest : ∀ c ∈ rest.head?, isWhiteSpace c = false)

include hrun hrest

theorem IsGapIn.exists_tail (h : IsGapIn gap path (run ++ rest)) :
    ∃ tail, run = gap ++ tail ∧ IsPathIn path (tail ++ rest) := by
  obtain ⟨⟨-, hgap⟩, inner, hinner, heq⟩ := h
  refine ⟨inner.takeWhile isWhiteSpace, ?_, ?_⟩
  · rw [← List.takeWhile_append_of_pos hgap, ← heq, Text.takeWhile_run hrun hrest]
  · rwa [← Text.dropWhile_run hrun hrest, heq, List.dropWhile_append_of_pos hgap, List.takeWhile_append_dropWhile]

/-- A path that starts in the run ends within it, unless one can start behind it. -/
theorem IsPathIn.of_run (hnone : ∀ path, ¬ IsPathIn path rest) (h : IsPathIn path (run ++ rest)) :
    path.length < run.length ∧ IsClosing rest := by
  obtain ⟨hline, ending, hending, heq⟩ := h
  rcases List.append_eq_append_iff.mp heq with ⟨more, rfl, rfl⟩ | ⟨space, rfl, rfl⟩
  · have hmore : '\n' ∉ more := fun hmem => hline (List.mem_append_right _ hmem)
    exact absurd ⟨hmore, ending, hending, rfl⟩ (hnone more)
  · obtain ⟨space', rest', ⟨hne, hspace'⟩, hclosing, heq'⟩ := hending
    have hspace : ∀ c ∈ space, isWhiteSpace c = true := fun c hc => hrun c (List.mem_append_right _ hc)
    obtain rfl : rest = rest' := by
      rw [← Text.dropWhile_run hspace hrest, heq', Text.dropWhile_run hspace' hclosing.not_isWhiteSpace]
    obtain rfl : space = space' := List.append_cancel_right heq'
    refine ⟨?_, hclosing⟩
    rw [List.length_append]
    exact Nat.lt_add_of_pos_right (List.length_pos_iff.mpr hne)

theorem IsGapIn.of_run (hnone : ∀ path, ¬ IsPathIn path rest) (h : IsGapIn gap path (run ++ rest)) :
    0 < gap.length ∧ gap.length + path.length < run.length ∧ IsClosing rest := by
  have hgap : 0 < gap.length := List.length_pos_iff.mpr h.1.1
  obtain ⟨tail, rfl, hpath⟩ := h.exists_tail hrun hrest
  have htail : ∀ c ∈ tail, isWhiteSpace c = true := fun c hc => hrun c (List.mem_append_right _ hc)
  obtain ⟨hlt, hclosing⟩ := hpath.of_run htail hrest hnone
  rw [List.length_append]
  exact ⟨hgap, by omega, hclosing⟩

theorem isGreedy_some (hne : run ≠ []) (hpath : IsLongest (IsPathIn · rest) (some path)) :
    IsGreedy (IsGapIn · · (run ++ rest)) (some path) := by
  refine ⟨run, ⟨⟨hne, hrun⟩, rest, hpath.1, rfl⟩, fun gap' path' h => ?_⟩
  obtain ⟨tail, rfl, hpath'⟩ := h.exists_tail hrun hrest
  rw [List.length_append]
  refine ⟨Nat.le_add_right _ _, fun hlen => ?_⟩
  obtain rfl : tail = [] := List.length_eq_zero_iff.mp (by omega)
  exact hpath.2 path' hpath'

theorem isGreedy_some_nil (hnone : ∀ path, ¬ IsPathIn path rest) (hlen : 1 < run.length) (hclosing : IsClosing rest) :
    IsGreedy (IsGapIn · · (run ++ rest)) (some []) := by
  have hne : run ≠ [] := List.length_pos_iff.mp (Nat.zero_lt_of_lt hlen)
  have hinit : run.dropLast ≠ [] := by
    rw [← List.length_pos_iff, List.length_dropLast]
    omega
  have hlast : IsRun isWhiteSpace [run.getLast hne] :=
    ⟨List.cons_ne_nil _ _, List.forall_mem_singleton.mpr (hrun _ (List.getLast_mem hne))⟩
  -- The last character of the run stands behind an empty path.
  have hgap : IsGapIn run.dropLast [] (run ++ rest) := by
    refine ⟨⟨hinit, fun c hc => hrun c (List.dropLast_subset _ hc)⟩, [run.getLast hne] ++ rest,
      ⟨List.not_mem_nil, _, ⟨_, rest, hlast, hclosing, rfl⟩, rfl⟩, ?_⟩
    rw [← List.append_assoc, List.dropLast_concat_getLast]
  refine ⟨run.dropLast, hgap, fun gap' path' h => ?_⟩
  obtain ⟨hpos, hlt, -⟩ := h.of_run hrun hrest hnone
  rw [List.length_dropLast, List.length_nil]
  omega

end Run

theorem pathAfterSpace?_isGreedy (cs : List Char) : IsGreedy (IsGapIn · · cs) (pathAfterSpace? cs) := by
  have hsplit : cs.takeWhile isWhiteSpace ++ cs.dropWhile isWhiteSpace = cs := List.takeWhile_append_dropWhile
  have hrun := Text.forall_mem_takeWhile isWhiteSpace cs
  have hrest := Text.forall_mem_head?_dropWhile isWhiteSpace cs
  unfold pathAfterSpace?
  generalize cs.takeWhile isWhiteSpace = run at hsplit hrun ⊢
  generalize cs.dropWhile isWhiteSpace = rest at hsplit hrest ⊢
  subst hsplit
  have hlongest := longestPath?_isLongest rest
  by_cases hne : run = []
  · subst hne
    intro gap path h
    obtain ⟨tail, hnil, -⟩ := h.exists_tail hrun hrest
    exact h.1.1 (List.append_eq_nil_iff.mp hnil.symm).1
  · simp only [List.isEmpty_eq_false_iff.mpr hne, Bool.false_eq_true, if_false]
    cases hlong : longestPath? rest with
    | some path =>
      rw [hlong] at hlongest
      exact isGreedy_some hrun hrest hne hlongest
    | none =>
      rw [hlong] at hlongest
      show IsGreedy _ (if decide (1 < run.length) && closesHeader rest then some [] else none)
      have hiff : (decide (1 < run.length) && closesHeader rest) = true ↔ 1 < run.length ∧ IsClosing rest := by
        rw [Bool.and_eq_true, decide_eq_true_eq, closesHeader_iff]
      by_cases hclose : 1 < run.length ∧ IsClosing rest
      · rw [if_pos (hiff.mpr hclose)]
        exact isGreedy_some_nil hrun hrest hlongest hclose.1 hclose.2
      · rw [if_neg (mt hiff.mp hclose)]
        intro gap path h
        obtain ⟨hpos, hlt, hclosing⟩ := h.of_run hrun hrest hlongest
        exact hclose ⟨by omega, hclosing⟩

/-! ## Headers -/

/-- A header, with the text around it: white space behind the opening, the path, more white space and, in
parentheses, the number of lines of the file. -/
structure Header where
  before : List Char
  gap : List Char
  path : List Char
  space : List Char
  count : List Char
  margin : List Char
  after : List Char
  gap_isRun : IsRun isWhiteSpace gap
  path_line : '\n' ∉ path
  space_isRun : IsRun isWhiteSpace space
  count_isRun : IsRun isDecimalDigit count
  margin_isRun : IsRun isWhiteSpace margin

namespace Header

def inner (header : Header) : List Char :=
  header.gap ++ (header.path ++ (header.space ++
    '(' :: (header.count ++ (header.margin ++ (headerClosing ++ header.after)))))

def text (header : Header) : List Char := header.before ++ (headerOpening ++ header.inner)

theorem isGapIn (header : Header) : IsGapIn header.gap header.path header.inner :=
  ⟨header.gap_isRun, _, ⟨header.path_line, _, ⟨header.space, _, header.space_isRun,
    ⟨header.count, header.margin, header.after, header.count_isRun, header.margin_isRun, rfl⟩, rfl⟩, rfl⟩, rfl⟩

end Header

theorem IsGapIn.exists_header (h : IsGapIn gap path cs) (before : List Char) :
    ∃ header : Header, header.before = before ∧ header.gap = gap ∧ header.path = path ∧ header.inner = cs := by
  obtain ⟨hgap, _, ⟨hline, _, ⟨space, _, hspace, ⟨count, margin, after, hcount, hmargin, rfl⟩, rfl⟩, rfl⟩, rfl⟩ := h
  exact ⟨⟨before, gap, path, space, count, margin, after, hgap, hline, hspace, hcount, hmargin⟩, rfl, rfl, rfl, rfl⟩

namespace Header

/-- Of all headers in its text this one stands first, takes the longest white space behind its opening, and has the
longest path behind that. -/
structure IsFirstChoice (header : Header) : Prop where
  before_le : ∀ other : Header, other.text = header.text → header.before.length ≤ other.before.length
  gap_le : ∀ other : Header, other.text = header.text → other.before.length = header.before.length →
    other.gap.length ≤ header.gap.length
  path_le : ∀ other : Header, other.text = header.text → other.before.length = header.before.length →
    other.gap.length = header.gap.length → other.path.length ≤ header.path.length

variable {header other : Header}

theorem inner_eq_of_text_eq (htext : other.text = header.text) (hbefore : other.before.length = header.before.length) :
    other.inner = header.inner :=
  List.append_cancel_left (List.append_inj htext hbefore).2

theorem IsFirstChoice.path_eq (hh : header.IsFirstChoice) (ho : other.IsFirstChoice) (htext : other.text = header.text) :
    other.path = header.path := by
  have hbefore : other.before.length = header.before.length :=
    Nat.le_antisymm (ho.before_le header htext.symm) (hh.before_le other htext)
  have hgap : other.gap.length = header.gap.length :=
    Nat.le_antisymm (hh.gap_le other htext hbefore) (ho.gap_le header htext.symm hbefore.symm)
  have hpath : other.path.length = header.path.length :=
    Nat.le_antisymm (hh.path_le other htext hbefore hgap) (ho.path_le header htext.symm hbefore.symm hgap.symm)
  have hbehind := (List.append_inj (inner_eq_of_text_eq htext hbefore) hgap).2
  exact (List.append_inj hbehind hpath).1

def shift (c : Char) (header : Header) : Header := { header with before := c :: header.before }

theorem text_shift (c : Char) (header : Header) : (header.shift c).text = c :: header.text := rfl

theorem exists_shift {c : Char} (htext : header.text = c :: cs) (hne : header.before ≠ []) :
    ∃ inner : Header, header = inner.shift c ∧ inner.text = cs := by
  cases hbefore : header.before with
  | nil => exact absurd hbefore hne
  | cons d before =>
    rw [text, hbefore, List.cons_append, List.cons.injEq] at htext
    obtain ⟨rfl, htext⟩ := htext
    refine ⟨{ header with before }, ?_, htext⟩
    cases header
    cases hbefore
    rfl

theorem IsFirstChoice.shift {c : Char} (hh : header.IsFirstChoice)
    (hne : ∀ other : Header, other.text = c :: header.text → other.before ≠ []) : (header.shift c).IsFirstChoice where
  before_le other htext := by
    obtain ⟨inner, rfl, hinner⟩ := exists_shift htext (hne other htext)
    exact Nat.succ_le_succ (hh.before_le inner hinner)
  gap_le other htext hbefore := by
    obtain ⟨inner, rfl, hinner⟩ := exists_shift htext (hne other htext)
    exact hh.gap_le inner hinner (Nat.succ.inj hbefore)
  path_le other htext hbefore hgap := by
    obtain ⟨inner, rfl, hinner⟩ := exists_shift htext (hne other htext)
    exact hh.path_le inner hinner (Nat.succ.inj hbefore) hgap

end Header

/-- The result is the path of first choice among the headers of the text. -/
def IsPathOfFirstChoice (cs : List Char) : Option (List Char) → Prop
  | none => ∀ header : Header, header.text ≠ cs
  | some path => ∃ header : Header, header.text = cs ∧ header.IsFirstChoice ∧ header.path = path

theorem IsGapIn.isPathOfFirstChoice (hgap : IsGapIn gap path cs) (hbest : ∀ gap' path', IsGapIn gap' path' cs →
      gap'.length ≤ gap.length ∧ (gap'.length = gap.length → path'.length ≤ path.length)) :
    IsPathOfFirstChoice (headerOpening ++ cs) (some path) := by
  obtain ⟨header, hbefore, rfl, rfl, rfl⟩ := hgap.exists_header []
  refine ⟨header, by rw [Header.text, hbefore, List.nil_append], ?_, rfl⟩
  exact {
    before_le := fun other _ => by
      rw [hbefore]
      exact Nat.zero_le _
    gap_le := fun other htext hsame =>
      (hbest other.gap other.path (Header.inner_eq_of_text_eq htext hsame ▸ other.isGapIn)).1
    path_le := fun other htext hsame =>
      (hbest other.gap other.path (Header.inner_eq_of_text_eq htext hsame ▸ other.isGapIn)).2 }

theorem headerPath?_isPathOfFirstChoice (cs : List Char) : IsPathOfFirstChoice cs (headerPath? cs) := by
  induction cs with
  | nil =>
    intro header htext
    have hopening : headerOpening = [] :=
      (List.append_eq_nil_iff.mp (List.append_eq_nil_iff.mp htext).2).1
    cases hopening
  | cons c cs ih =>
    rw [headerPath?]
    cases hhere : (Text.behind? headerOpening (c :: cs)).bind pathAfterSpace? with
    | some path =>
      obtain ⟨inner, hinner, hpath⟩ := Option.bind_eq_some_iff.mp hhere
      have hgreedy := pathAfterSpace?_isGreedy inner
      rw [hpath] at hgreedy
      obtain ⟨gap, hgap, hbest⟩ := hgreedy
      rw [Text.eq_append_of_behind? hinner]
      exact hgap.isPathOfFirstChoice hbest
    | none =>
      have hlater : ∀ header : Header, header.text = c :: cs → header.before ≠ [] := by
        intro header htext hbefore
        have hinner : Text.behind? headerOpening (c :: cs) = some header.inner := by
          rw [← htext, Header.text, hbefore, List.nil_append, Text.behind?_append]
        have hgreedy := pathAfterSpace?_isGreedy header.inner
        rw [hinner, Option.bind_some] at hhere
        rw [hhere] at hgreedy
        exact hgreedy _ _ header.isGapIn
      show IsPathOfFirstChoice (c :: cs) (headerPath? cs)
      cases hpath : headerPath? cs with
      | none =>
        rw [hpath] at ih
        intro header htext
        obtain ⟨inner, -, hinner⟩ := Header.exists_shift htext (hlater header htext)
        exact ih inner hinner
      | some path =>
        rw [hpath] at ih
        obtain ⟨header, rfl, hfirst, hsame⟩ := ih
        exact ⟨header.shift c, header.text_shift c, hfirst.shift hlater, hsame⟩

/-! ## Windows -/

theorem isSome_headerPath?_iff : (headerPath? cs).isSome = true ↔ ∃ header : Header, header.text = cs := by
  have hfirst := headerPath?_isPathOfFirstChoice cs
  cases hpath : headerPath? cs with
  | none =>
    rw [hpath] at hfirst
    exact iff_of_false Bool.false_ne_true fun ⟨header, htext⟩ => hfirst header htext
  | some path =>
    rw [hpath] at hfirst
    obtain ⟨header, htext, -⟩ := hfirst
    exact iff_of_true rfl ⟨header, htext⟩

theorem map_file_findWindow {content : String} (hnum : ∃ line ∈ lines content.toList, IsNumbered line) :
    (findWindow content).map Window.file = (headerPath? content.toList).map String.ofList := by
  unfold findWindow
  split
  · rename_i hnone
    obtain ⟨line, hmem, hline⟩ := hnum
    exact absurd hline (numberedLines_eq_nil_iff.mp hnone line hmem)
  · rw [Option.map_map]
    rfl

/-- **The file of a window is the path of the first header**, read as far as it goes. A text with a numbered line
shows a window if and only if it has a header anywhere. Of the headers in it the one that opens first counts, with as
much white space as possible before the path and then with the longest path. -/
theorem file_is_path_of_first_header (content : String) (hnum : ∃ line ∈ lines content.toList, IsNumbered line) :
    ((findWindow content).isSome = true ↔ ∃ header : Header, header.text = content.toList) ∧
    ∀ w, findWindow content = some w →
      (∃ header : Header, header.text = content.toList ∧ header.IsFirstChoice ∧
        w.file = String.ofList header.path) ∧
      ∀ header : Header, header.text = content.toList → header.IsFirstChoice →
        w.file = String.ofList header.path := by
  have hfile := map_file_findWindow hnum
  refine ⟨?_, fun w hw => ?_⟩
  · rw [← isSome_headerPath?_iff, ← Option.isSome_map, hfile, Option.isSome_map]
  · rw [hw, Option.map_some, eq_comm, Option.map_eq_some_iff] at hfile
    obtain ⟨path, hpath, hfile⟩ := hfile
    have hfirst := headerPath?_isPathOfFirstChoice content.toList
    rw [hpath] at hfirst
    obtain ⟨header, htext, hheader, rfl⟩ := hfirst
    refine ⟨⟨header, htext, hheader, hfile.symm⟩, fun other hother hbest => ?_⟩
    rw [hheader.path_eq hbest (hother.trans htext.symm), hfile]

/-- The first opening leads nowhere, and the second header may end at two places. -/
def nestedHeaders : String := "[File: no]\n[File:  a (b) (2 lines total)] (3 lines total)]\n1:x"

theorem file_is_path_of_first_header_nestedHeaders :
    (∃ line ∈ lines nestedHeaders.toList, IsNumbered line) ∧
    (findWindow nestedHeaders).map Window.file = some "a (b) (2 lines total)]" ∧
    ∃ header : Header, header.text = nestedHeaders.toList ∧ header.IsFirstChoice ∧
      "a (b) (2 lines total)]" = String.ofList header.path := by
  have hnum : ∃ line ∈ lines nestedHeaders.toList, IsNumbered line := by decide
  have hfile : (findWindow nestedHeaders).map Window.file = some "a (b) (2 lines total)]" := by decide
  obtain ⟨w, hw, hwfile⟩ := Option.map_eq_some_iff.mp hfile
  have hheader := ((file_is_path_of_first_header nestedHeaders hnum).2 w hw).1
  rw [hwfile] at hheader
  exact ⟨hnum, hfile, hheader⟩

end Compaction.FileView
