import Compaction.FileView.Window

/-!
# Numbered lines, line by line

* `lines` : a text cut behind each line feed (`flatten_lines`, `lines_lineFeed`, `lines_unfinished`);
* `line_induction` : every text is empty, one unfinished line, or a line and a text behind it;
* `lines_of_eq_append` : a text may be cut between two of its lines, and go on otherwise;
* `IsNumbered` : a line that starts with a number and a colon (`startsNumbered_iff`);
* `spansFrom` : the spans of the numbered ones among some lines;
* `numberedLines_eq_spansFrom` : the pass over a text finds the spans of its numbered lines.

The pass decides at the first character of a line whether it is numbered, and looks beyond the end of
the line for that. It finds nothing there: a line feed is no digit and no colon.
-/

namespace Compaction.FileView

open Text (byteCount)

/-! ## Lines -/

/-- The lines of a text, each with its line feed. Only the last one may be without. -/
def lines : List Char → List (List Char)
  | [] => []
  | c :: cs =>
    if c = '\n' then ['\n'] :: lines cs
    else
      match lines cs with
      | [] => [[c]]
      | line :: more => (c :: line) :: more

@[simp] theorem lines_nil : lines [] = [] := rfl

theorem flatten_lines (cs : List Char) : (lines cs).flatten = cs := by
  induction cs with
  | nil => rfl
  | cons c cs ih =>
    rw [lines]
    split
    · rename_i hc
      rw [hc, List.flatten_cons, ih]
      rfl
    · split
      · rename_i hnil
        rw [hnil] at ih
        rw [← ih]
        rfl
      · rename_i line more hcons
        rw [hcons] at ih
        rw [← ih]
        rfl

/-- The first line of a text. -/
theorem lines_lineFeed {body : List Char} (hbody : '\n' ∉ body) (rest : List Char) :
    lines (body ++ '\n' :: rest) = (body ++ ['\n']) :: lines rest := by
  induction body with
  | nil => rfl
  | cons c body ih =>
    rw [List.mem_cons, not_or] at hbody
    rw [List.cons_append, lines, if_neg (Ne.symm hbody.1), ih hbody.2]
    rfl

/-- A text without a line feed is one line. -/
theorem lines_unfinished {body : List Char} (hbody : '\n' ∉ body) (hne : body ≠ []) :
    lines body = [body] := by
  induction body with
  | nil => exact absurd rfl hne
  | cons c body ih =>
    rw [List.mem_cons, not_or] at hbody
    rw [lines, if_neg (Ne.symm hbody.1)]
    cases body with
    | nil => rfl
    | cons d body => rw [ih hbody.2 (List.cons_ne_nil _ _)]

theorem line_induction {motive : List Char → Prop} (nil : motive [])
    (unfinished : ∀ body, '\n' ∉ body → body ≠ [] → motive body)
    (lineFeed : ∀ body rest, '\n' ∉ body → motive rest → motive (body ++ '\n' :: rest)) :
    ∀ cs, motive cs := by
  intro cs
  induction hn : cs.length using Nat.strongRecOn generalizing cs with
  | ind n ih =>
    by_cases hmem : '\n' ∈ cs
    · obtain ⟨body, rest, rfl, hbody⟩ := List.eq_append_cons_of_mem hmem
      refine lineFeed body rest hbody (ih rest.length ?_ rest rfl)
      rw [← hn, List.length_append, List.length_cons]
      omega
    · cases cs with
      | nil => exact nil
      | cons c cs => exact unfinished _ hmem (List.cons_ne_nil _ _)

/-- Lines before another one have their line feeds, so that anything may follow them. -/
theorem lines_of_eq_append {cs : List Char} {first rest : List (List Char)}
    (h : lines cs = first ++ rest) :
    lines rest.flatten = rest ∧
      (rest ≠ [] → ∀ other, lines (first.flatten ++ other) = first ++ lines other) := by
  induction first generalizing cs with
  | nil =>
    rw [List.nil_append] at h
    rw [← h, flatten_lines]
    exact ⟨rfl, fun _ _ => rfl⟩
  | cons line first ih =>
    induction cs using line_induction with
    | nil => simp at h
    | unfinished body hbody hne =>
      rw [lines_unfinished hbody hne, List.cons_append, List.cons.injEq] at h
      obtain ⟨-, hrest⟩ := List.append_eq_nil_iff.mp h.2.symm
      rw [hrest]
      exact ⟨rfl, fun hne => absurd rfl hne⟩
    | lineFeed body behind hbody =>
      rw [lines_lineFeed hbody, List.cons_append, List.cons.injEq] at h
      obtain ⟨rfl, hbehind⟩ := h
      obtain ⟨hrest, hother⟩ := ih hbehind
      refine ⟨hrest, fun hne other => ?_⟩
      rw [List.flatten_cons, List.append_assoc, List.append_assoc, List.singleton_append,
        lines_lineFeed hbody, hother hne other, List.cons_append]

/-! ## Numbered lines -/

theorem isDecimalDigit_lineFeed : Text.isDecimalDigit '\n' = false := by decide

/-- The line starts with a number, in the digits of any script, and a colon. -/
def IsNumbered (line : List Char) : Prop :=
  ∃ digits rest, Text.IsRun Text.isDecimalDigit digits ∧ line = digits ++ ':' :: rest

theorem startsNumbered_iff {line : List Char} : startsNumbered line = true ↔ IsNumbered line := by
  constructor
  · intro h
    unfold startsNumbered at h
    split at h
    · rename_i rest hrest
      obtain ⟨digits, hdigits, rfl⟩ := Text.exists_run_of_behindRun? hrest
      exact ⟨digits, rest, hdigits, rfl⟩
    · cases h
  · rintro ⟨digits, rest, hdigits, rfl⟩
    have hcolon : ∀ c ∈ (':' :: rest).head?, Text.isDecimalDigit c = false := by
      rintro c ⟨rfl⟩
      decide
    unfold startsNumbered
    rw [Text.behindRun?_append hdigits hcolon]
    rfl

instance : DecidablePred IsNumbered := fun _ => decidable_of_iff _ startsNumbered_iff

theorem IsNumbered.ne_nil {line : List Char} (h : IsNumbered line) : line ≠ [] := by
  obtain ⟨digits, rest, -, rfl⟩ := h
  simp

theorem startsNumbered_cons (c : Char) (cs : List Char) :
    startsNumbered (c :: cs) =
      (Text.isDecimalDigit c && (cs.dropWhile Text.isDecimalDigit).head? == some ':') := by
  rw [startsNumbered, Text.behindRun?]
  cases Text.isDecimalDigit c with
  | false => rfl
  | true =>
    rw [if_pos rfl, Bool.true_and]
    cases cs.dropWhile Text.isDecimalDigit with
    | nil => rfl
    | cons d ds => by_cases hd : d = ':' <;> simp [hd]

/-- A line is numbered, or not, whatever follows it. -/
theorem startsNumbered_lineFeed (body rest : List Char) :
    startsNumbered (body ++ '\n' :: rest) = startsNumbered (body ++ ['\n']) := by
  cases body with
  | nil =>
    rw [List.nil_append, List.nil_append, startsNumbered_cons, startsNumbered_cons,
      isDecimalDigit_lineFeed]
    rfl
  | cons c body =>
    rw [List.cons_append, List.cons_append, startsNumbered_cons, startsNumbered_cons,
      List.dropWhile_append, List.dropWhile_append]
    -- The run of digits stops inside the line, or at its line feed.
    cases body.dropWhile Text.isDecimalDigit with
    | nil => simp [isDecimalDigit_lineFeed]
    | cons d ds => rfl

/-- The spans of the numbered ones among some lines, of which the first one starts at `offset`. -/
def spansFrom (offset : Nat) : List (List Char) → List Span
  | [] => []
  | line :: more =>
    (if startsNumbered line then [⟨offset, offset + byteCount line⟩] else [])
      ++ spansFrom (offset + byteCount line) more

theorem length_spansFrom (offset : Nat) (ls : List (List Char)) :
    (spansFrom offset ls).length = ls.countP fun line => IsNumbered line := by
  induction ls generalizing offset with
  | nil => rfl
  | cons line ls ih =>
    rw [spansFrom, List.length_append, ih, List.countP_cons, Nat.add_comm]
    simp only [decide_eq_true_eq, ← startsNumbered_iff]
    split <;> rfl

theorem numberedLinesFrom_lineFeed {body : List Char} (hbody : '\n' ∉ body) (opened : Option Nat)
    (offset : Nat) (rest : List Char) :
    numberedLinesFrom false opened offset (body ++ '\n' :: rest) =
      (opened.map fun start => (⟨start, offset + byteCount (body ++ ['\n'])⟩ : Span)).toList
        ++ numberedLinesFrom true none (offset + byteCount (body ++ ['\n'])) rest := by
  induction body generalizing offset with
  | nil => rfl
  | cons c body ih =>
    rw [List.mem_cons, not_or] at hbody
    have hc : (c == '\n') = false := beq_eq_false_iff_ne.mpr (Ne.symm hbody.1)
    rw [List.cons_append, numberedLinesFrom, Bool.false_and, hc]
    show numberedLinesFrom false opened (offset + c.utf8Size) _ = _
    rw [ih hbody.2, List.cons_append, byteCount, Nat.add_assoc]

theorem numberedLinesFrom_unfinished {body : List Char} (hbody : '\n' ∉ body) (opened : Option Nat)
    (offset : Nat) :
    numberedLinesFrom false opened offset body =
      (opened.map fun start => (⟨start, offset + byteCount body⟩ : Span)).toList := by
  induction body generalizing offset with
  | nil => rfl
  | cons c body ih =>
    rw [List.mem_cons, not_or] at hbody
    have hc : (c == '\n') = false := beq_eq_false_iff_ne.mpr (Ne.symm hbody.1)
    rw [numberedLinesFrom, Bool.false_and, hc]
    show numberedLinesFrom false opened (offset + c.utf8Size) body = _
    rw [ih hbody.2, byteCount, Nat.add_assoc]

/-- The pass opens a span at the start of a numbered line. -/
theorem numberedLinesFrom_start {c : Char} (hc : '\n' ≠ c) (offset : Nat) (cs : List Char) :
    numberedLinesFrom true none offset (c :: cs) =
      numberedLinesFrom false (if startsNumbered (c :: cs) then some offset else none)
        (offset + c.utf8Size) cs := by
  rw [numberedLinesFrom, Bool.true_and, beq_eq_false_iff_ne.mpr (Ne.symm hc)]
  rfl

theorem numberedLinesFrom_eq_spansFrom (offset : Nat) (cs : List Char) :
    numberedLinesFrom true none offset cs = spansFrom offset (lines cs) := by
  induction cs using line_induction generalizing offset with
  | nil => rfl
  | unfinished body hbody hne =>
    rw [lines_unfinished hbody hne]
    cases body with
    | nil => exact absurd rfl hne
    | cons c body =>
      rw [List.mem_cons, not_or] at hbody
      rw [numberedLinesFrom_start hbody.1, numberedLinesFrom_unfinished hbody.2, spansFrom,
        spansFrom, List.append_nil, byteCount, Nat.add_assoc]
      split <;> rfl
  | lineFeed body rest hbody ih =>
    rw [lines_lineFeed hbody, spansFrom, ← ih]
    cases body with
    | nil =>
      rw [List.nil_append, List.nil_append, numberedLinesFrom, startsNumbered_cons,
        startsNumbered_cons, isDecimalDigit_lineFeed]
      rfl
    | cons c body =>
      rw [List.mem_cons, not_or] at hbody
      rw [List.cons_append, numberedLinesFrom_start hbody.1, numberedLinesFrom_lineFeed hbody.2,
        ← List.cons_append, startsNumbered_lineFeed, List.cons_append, byteCount, Nat.add_assoc]
      split <;> rfl

theorem numberedLines_eq_spansFrom (cs : List Char) : numberedLines cs = spansFrom 0 (lines cs) :=
  numberedLinesFrom_eq_spansFrom 0 cs

end Compaction.FileView
