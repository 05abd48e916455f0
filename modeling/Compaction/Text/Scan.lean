/-!
# Steps of a scan

* `behind?` : what is left of a text behind an expected beginning;
* `behindRun?` : what is left of a text behind a run of characters of one class;
* `IsRun` : such a run, which is all that `behindRun?` passes over (`behindRun?_append`, `exists_run_of_behindRun?`);
* `occursIn` : a text occurs in another as a run of consecutive characters (`occursIn_iff`);
* `isLineBreak`, `countLines` : the ten characters that end a line, and the number of lines of a text.
-/

namespace Compaction.Text

/-- What is left of a text behind `expected`, if the text starts with that. -/
def behind? : List Char → List Char → Option (List Char)
  | [], cs => some cs
  | _ :: _, [] => none
  | e :: expected, c :: cs => if e == c then behind? expected cs else none

/-- What is left of a text behind all characters of a class at its start, if there is at least one. -/
def behindRun? (p : Char → Bool) : List Char → Option (List Char)
  | [] => none
  | c :: cs => if p c then some (cs.dropWhile p) else none

theorem eq_append_of_behind? {expected cs rest : List Char} (h : behind? expected cs = some rest) :
    cs = expected ++ rest := by
  induction expected generalizing cs with
  | nil => simpa [behind?] using h
  | cons e expected ih =>
    cases cs with
    | nil => simp [behind?] at h
    | cons c cs =>
      simp only [behind?] at h
      split at h
      · rename_i hec
        rw [ih h, eq_of_beq hec, List.cons_append]
      · simp at h

@[simp] theorem behind?_append (expected rest : List Char) :
    behind? expected (expected ++ rest) = some rest := by
  induction expected with
  | nil => simp [behind?]
  | cons e expected ih => simp [behind?, ih]

theorem length_behind?_le {expected cs rest : List Char} (h : behind? expected cs = some rest) :
    rest.length ≤ cs.length := by
  rw [eq_append_of_behind? h, List.length_append]
  omega

theorem length_behindRun?_lt {p : Char → Bool} {cs rest : List Char}
    (h : behindRun? p cs = some rest) : rest.length < cs.length := by
  cases cs with
  | nil => simp [behindRun?] at h
  | cons c cs =>
    simp only [behindRun?, Option.ite_none_right_eq_some, Option.some.injEq] at h
    have := (List.dropWhile_sublist p : (cs.dropWhile p).Sublist cs).length_le
    rw [← h.2, List.length_cons]
    omega

def IsRun (p : Char → Bool) (run : List Char) : Prop := run ≠ [] ∧ ∀ c ∈ run, p c = true

theorem isRun_singleton {p : Char → Bool} {c : Char} (hc : p c = true) : IsRun p [c] :=
  ⟨List.cons_ne_nil _ _, List.forall_mem_singleton.mpr hc⟩

theorem dropWhile_run {p : Char → Bool} {run rest : List Char} (hrun : ∀ c ∈ run, p c = true)
    (hrest : ∀ c ∈ rest.head?, p c = false) : (run ++ rest).dropWhile p = rest := by
  rw [List.dropWhile_append_of_pos hrun]
  cases rest with
  | nil => rfl
  | cons c rest => rw [List.dropWhile_cons, hrest c rfl, if_neg Bool.false_ne_true]

theorem takeWhile_run {p : Char → Bool} {run rest : List Char} (hrun : ∀ c ∈ run, p c = true)
    (hrest : ∀ c ∈ rest.head?, p c = false) : (run ++ rest).takeWhile p = run := by
  rw [List.takeWhile_append_of_pos hrun]
  cases rest with
  | nil => exact List.append_nil run
  | cons c rest => rw [List.takeWhile_cons, hrest c rfl, if_neg Bool.false_ne_true, List.append_nil]

theorem forall_mem_takeWhile (p : Char → Bool) (cs : List Char) : ∀ c ∈ cs.takeWhile p, p c = true :=
  List.all_eq_true.mp List.all_takeWhile

theorem forall_mem_head?_dropWhile (p : Char → Bool) (cs : List Char) :
    ∀ c ∈ (cs.dropWhile p).head?, p c = false := by
  intro c hc
  have hnot := List.head?_dropWhile_not p cs
  rwa [hc] at hnot

theorem behindRun?_append {p : Char → Bool} {run rest : List Char} (hrun : IsRun p run)
    (hrest : ∀ c ∈ rest.head?, p c = false) : behindRun? p (run ++ rest) = some rest := by
  obtain ⟨hne, hall⟩ := hrun
  cases run with
  | nil => exact absurd rfl hne
  | cons c run =>
    rw [List.forall_mem_cons] at hall
    rw [List.cons_append, behindRun?, if_pos hall.1, dropWhile_run hall.2 hrest]

theorem exists_run_of_behindRun? {p : Char → Bool} {cs rest : List Char} (h : behindRun? p cs = some rest) :
    ∃ run, IsRun p run ∧ cs = run ++ rest := by
  cases cs with
  | nil => simp [behindRun?] at h
  | cons c cs =>
    simp only [behindRun?, Option.ite_none_right_eq_some, Option.some.injEq] at h
    obtain ⟨hc, rfl⟩ := h
    refine ⟨c :: cs.takeWhile p, ⟨List.cons_ne_nil _ _, List.forall_mem_cons.mpr ⟨hc, forall_mem_takeWhile p cs⟩⟩, ?_⟩
    rw [List.cons_append, List.takeWhile_append_dropWhile]

/-! ## Occurrences -/

/-- Whether `needle` occurs in a text as a run of consecutive characters. -/
def occursIn (needle : List Char) : List Char → Bool
  | [] => needle.isEmpty
  | c :: cs => needle.isPrefixOf (c :: cs) || occursIn needle cs

theorem occursIn_iff {needle cs : List Char} : occursIn needle cs = true ↔ needle <:+: cs := by
  induction cs with
  | nil => simp [occursIn]
  | cons c cs ih => simp [occursIn, ih, List.infix_cons_iff]

/-! ## Lines -/

/-- Line feed, carriage return, vertical tab, form feed, the three separators U+001C to U+001E, next
line, line separator and paragraph separator each end a line. -/
def isLineBreak (c : Char) : Bool :=
  c == '\n' || c == '\r' || c == '\x0b' || c == '\x0c' || c == '\x1c' || c == '\x1d' || c == '\x1e'
    || c == '\u0085' || c == '\u2028' || c == '\u2029'

/-- The lines that end in a text, where `unfinished` says that what came before left a line open. -/
def linesFrom : Bool → List Char → Nat
  | unfinished, [] => if unfinished then 1 else 0
  | _, '\r' :: '\n' :: cs => linesFrom false cs + 1
  | _, c :: cs => if isLineBreak c then linesFrom false cs + 1 else linesFrom true cs

/-- The number of lines of a text: none for the empty text. -/
def countLines (cs : List Char) : Nat := linesFrom false cs

end Compaction.Text
