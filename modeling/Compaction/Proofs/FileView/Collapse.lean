import Compaction.Proofs.FileView.Line

/-!
# Collapsed windows

* `IsCut` : lines cut in front of the first numbered one and behind the last one;
* `exists_isCut_of_spansFrom` : the span of a window reaches from one cut to the other;
* `exists_isCut_of_findWindow` : the text of a window and its collapsed form, cut at the same places;
* `not_isNumbered_of_mem_collapse` : in a collapsed text no line is numbered;
* `findWindow_collapse` : so it is no window any more, of whatever file;
* `exists_pos` : where a text is cut between two characters, the bytes in front are a place of the encoded text;
* `window_spans_numbered_lines` : all that a window and its collapsed form are.

The lines around the span are not numbered, and neither is the notice between them. It ends with a line
feed, so that the lines behind it stay lines.
-/

namespace Compaction.FileView

open Text (byteCount byteCount_append byteCount_eq_utf8ByteSize dropBytes_append takeBytes_append)

theorem spansFrom_eq_nil_iff (offset : Nat) (ls : List (List Char)) :
    spansFrom offset ls = [] ↔ ∀ line ∈ ls, ¬ IsNumbered line := by
  rw [← List.length_eq_zero_iff, length_spansFrom, List.countP_eq_zero]
  simp only [decide_eq_true_eq]

theorem numberedLines_eq_nil_iff {cs : List Char} : numberedLines cs = [] ↔ ∀ line ∈ lines cs, ¬ IsNumbered line := by
  rw [numberedLines_eq_spansFrom, spansFrom_eq_nil_iff]

/-- Some lines, cut in front of the first numbered one and behind the last one. -/
structure IsCut (ls before inside after : List (List Char)) : Prop where
  eq_append : ls = before ++ (inside ++ after)
  before_plain : ∀ line ∈ before, ¬ IsNumbered line
  first_numbered : ∃ line ∈ inside.head?, IsNumbered line
  last_numbered : ∃ line ∈ inside.getLast?, IsNumbered line
  after_plain : ∀ line ∈ after, ¬ IsNumbered line

theorem IsCut.inside_ne_nil {ls before inside after : List (List Char)} (h : IsCut ls before inside after) :
    inside ≠ [] := by
  rintro rfl
  obtain ⟨line, hline, -⟩ := h.first_numbered
  cases hline

theorem IsCut.byteCount_inside_pos {ls before inside after : List (List Char)} (h : IsCut ls before inside after) :
    0 < byteCount inside.flatten := by
  obtain ⟨line, hline, hnum⟩ := h.first_numbered
  obtain ⟨more, rfl⟩ := List.head?_eq_some_iff.mp hline
  obtain ⟨c, cs, rfl⟩ := List.exists_cons_of_ne_nil hnum.ne_nil
  rw [List.flatten_cons, List.cons_append, byteCount]
  exact Nat.add_pos_left c.utf8Size_pos _

theorem exists_isCut_of_spansFrom {offset : Nat} {ls : List (List Char)} {first : Span}
    {more : List Span} (h : spansFrom offset ls = first :: more) :
    ∃ before inside after, IsCut ls before inside after ∧
      first.start = offset + byteCount before.flatten ∧
      (more.getLastD first).stop = first.start + byteCount inside.flatten := by
  induction ls generalizing offset first more with
  | nil => simp [spansFrom] at h
  | cons line ls ih =>
    rw [spansFrom] at h
    cases hstarts : startsNumbered line with
    | false =>
      have hplain : ¬ IsNumbered line := fun hnum => by simp [startsNumbered_iff.mpr hnum] at hstarts
      rw [hstarts] at h
      obtain ⟨before, inside, after, hcut, hstart, hstop⟩ := ih h
      refine ⟨line :: before, inside, after, ?_, ?_, hstop⟩
      · exact { hcut with
          eq_append := by rw [hcut.eq_append, List.cons_append]
          before_plain := List.forall_mem_cons.mpr ⟨hplain, hcut.before_plain⟩ }
      · rw [hstart, List.flatten_cons, byteCount_append, Nat.add_assoc]
    | true =>
      have hnum : IsNumbered line := startsNumbered_iff.mp hstarts
      rw [hstarts, if_pos rfl, List.singleton_append, List.cons.injEq] at h
      obtain ⟨rfl, hmore⟩ := h
      cases more with
      | nil =>
        refine ⟨[], [line], ls, ?_, rfl, ?_⟩
        · exact {
            eq_append := rfl
            before_plain := by simp
            first_numbered := ⟨line, rfl, hnum⟩
            last_numbered := ⟨line, rfl, hnum⟩
            after_plain := (spansFrom_eq_nil_iff _ _).mp hmore }
        · simp
      | cons second more =>
        -- The lines between this numbered line and the next one lie inside the span, too.
        obtain ⟨before, inside, after, hcut, hstart, hstop⟩ := ih hmore
        refine ⟨[], line :: before ++ inside, after, ?_, rfl, ?_⟩
        · exact {
            eq_append := by simp [hcut.eq_append]
            before_plain := by simp
            first_numbered := ⟨line, rfl, hnum⟩
            last_numbered := by
              obtain ⟨last, hlast, hnum'⟩ := hcut.last_numbered
              exact ⟨last, by rw [List.getLast?_append, hlast, Option.some_or]; rfl, hnum'⟩
            after_plain := hcut.after_plain }
        · have hlast : (second :: more).getLastD ⟨offset, offset + byteCount line⟩ =
              more.getLastD second := List.getLastD_cons ..
          rw [hlast, hstop, hstart]
          simp only [List.cons_append, List.flatten_cons, List.flatten_append, byteCount_append]
          omega

/-! ## The notice -/

def noticeBody (n : Nat) : List Char :=
  "Outdated window with ".toList ++ (Nat.toDigits 10 n ++ " lines omitted...".toList)

theorem toList_collapsedNotice (n : Nat) :
    (collapsedNotice n).toList = noticeBody n ++ ['\n'] := by
  have hend : " lines omitted...\n".toList = " lines omitted...".toList ++ ['\n'] := rfl
  unfold collapsedNotice noticeBody
  simp only [String.toList_append, hend, Nat.toString_eq_ofList_toDigits, String.toList_ofList,
    List.append_assoc]

theorem lineFeed_notMem_noticeBody (n : Nat) : '\n' ∉ noticeBody n := by
  unfold noticeBody
  simp only [List.mem_append]
  rintro (h | h | h)
  · exact absurd h (by decide)
  · exact absurd (Nat.isDigit_of_mem_toDigits (by decide) (by decide) h) (by decide)
  · exact absurd h (by decide)

theorem not_isNumbered_noticeBody (n : Nat) : ¬ IsNumbered (noticeBody n ++ ['\n']) := by
  have hfirst : "Outdated window with ".toList = 'O' :: "utdated window with ".toList := rfl
  unfold noticeBody
  rw [← startsNumbered_iff, hfirst]
  simp only [List.cons_append, startsNumbered_cons, show Text.isDecimalDigit 'O' = false by decide,
    Bool.false_and, Bool.false_eq_true, not_false_eq_true]

/-! ## The window and its notice -/

theorem exists_isCut_of_findWindow {content : String} {w : Window} (hw : findWindow content = some w) :
    ∃ before inside after, IsCut (lines content.toList) before inside after ∧
      w.start = byteCount before.flatten ∧ w.stop = w.start + byteCount inside.flatten ∧
      w.lines = (lines content.toList).countP (fun line => IsNumbered line) ∧
      (collapse content w).toList =
        before.flatten ++ ((collapsedNotice w.lines).toList ++ after.flatten) := by
  unfold findWindow at hw
  split at hw
  · simp at hw
  · rename_i first more hspans
    obtain ⟨path, -, rfl⟩ := Option.map_eq_some_iff.mp hw
    rw [numberedLines_eq_spansFrom] at hspans
    obtain ⟨before, inside, after, hcut, hstart, hstop⟩ := exists_isCut_of_spansFrom hspans
    rw [Nat.zero_add] at hstart
    have hcount : more.length + 1 = (lines content.toList).countP (fun line => IsNumbered line) := by
      rw [← length_spansFrom 0, hspans, List.length_cons]
    refine ⟨before, inside, after, hcut, hstart, hstop, hcount, ?_⟩
    have htext : content.toList = before.flatten ++ (inside.flatten ++ after.flatten) := by
      rw [← flatten_lines content.toList, hcut.eq_append, List.flatten_append, List.flatten_append]
    rw [collapse, String.toList_ofList, hstop, hstart, htext, takeBytes_append, ← byteCount_append,
      ← List.append_assoc before.flatten, dropBytes_append, List.append_assoc]

theorem not_isNumbered_of_mem_collapse {content : String} {w : Window} (hw : findWindow content = some w) :
    ∀ line ∈ lines (collapse content w).toList, ¬ IsNumbered line := by
  obtain ⟨before, inside, after, hcut, -, -, -, htext⟩ := exists_isCut_of_findWindow hw
  have hlinesAfter : lines after.flatten = after :=
    (lines_of_eq_append (by rw [hcut.eq_append, ← List.append_assoc])).1
  have hcollapsed : lines (collapse content w).toList =
      before ++ (noticeBody w.lines ++ ['\n']) :: after := by
    rw [htext, (lines_of_eq_append hcut.eq_append).2 (by simp [hcut.inside_ne_nil]), toList_collapsedNotice,
      List.append_assoc, List.singleton_append, lines_lineFeed (lineFeed_notMem_noticeBody _),
      hlinesAfter]
  rw [hcollapsed, List.forall_mem_append, List.forall_mem_cons]
  exact ⟨hcut.before_plain, not_isNumbered_noticeBody w.lines, hcut.after_plain⟩

theorem findWindow_collapse {content : String} {w : Window} (hw : findWindow content = some w) :
    findWindow (collapse content w) = none := by
  have hspans : numberedLines (collapse content w).toList = [] :=
    numberedLines_eq_nil_iff.mpr (not_isNumbered_of_mem_collapse hw)
  rw [findWindow, hspans]

/-! ## The places of a window -/

/-- Where a text is cut between two characters, the number of bytes in front of the cut is a place of the encoded
text. -/
theorem exists_pos {content : String} {cs ds : List Char} (h : content.toList = cs ++ ds) :
    ∃ pos : content.Pos, pos.offset.byteIdx = byteCount cs := by
  have hsplit : content = String.ofList cs ++ String.ofList ds := by
    rw [← String.ofList_append, ← h, String.ofList_toList]
  have hvalid : (String.ofList cs).rawEndPos.IsValid content :=
    String.Pos.Raw.isValid_iff_exists_append.mpr ⟨_, _, hsplit, rfl⟩
  exact ⟨content.pos _ hvalid, (byteCount_eq_utf8ByteSize cs).symm⟩

/-- **A window spans the numbered lines**, from the first one to the last one with its line feed, and counts them.
Both ends are counted in bytes and are places between characters. In the collapsed text the notice stands in place of
the span, all else is as it was, and no line is numbered, so that nothing is left of the window. -/
theorem window_spans_numbered_lines {content : String} {w : Window} (hw : findWindow content = some w) :
    (∃ before inside after, IsCut (lines content.toList) before inside after ∧
      w.start = (String.ofList before.flatten).utf8ByteSize ∧
      w.stop = (String.ofList (before ++ inside).flatten).utf8ByteSize ∧
      collapse content w = String.ofList before.flatten ++
        ("Outdated window with " ++ toString w.lines ++ " lines omitted...\n") ++ String.ofList after.flatten) ∧
    w.lines = (lines content.toList).countP (fun line => IsNumbered line) ∧
    w.start < w.stop ∧ w.stop ≤ content.utf8ByteSize ∧
    (∃ start stop : content.Pos, start.offset.byteIdx = w.start ∧ stop.offset.byteIdx = w.stop) ∧
    (∀ line ∈ lines (collapse content w).toList, ¬ IsNumbered line) ∧ findWindow (collapse content w) = none := by
  obtain ⟨before, inside, after, hcut, hstart, hstop, hcount, htext⟩ := exists_isCut_of_findWindow hw
  have hcontent : content.toList = before.flatten ++ (inside.flatten ++ after.flatten) := by
    rw [← flatten_lines content.toList, hcut.eq_append, List.flatten_append, List.flatten_append]
  have hstop' : w.stop = byteCount (before.flatten ++ inside.flatten) := by rw [hstop, hstart, byteCount_append]
  refine ⟨⟨before, inside, after, hcut, ?_, ?_, ?_⟩, hcount, ?_, ?_, ?_, not_isNumbered_of_mem_collapse hw,
    findWindow_collapse hw⟩
  · rw [hstart, byteCount_eq_utf8ByteSize]
  · rw [hstop', byteCount_eq_utf8ByteSize, List.flatten_append]
  · apply String.toList_injective
    rw [htext, String.toList_append, String.toList_append, String.toList_ofList, String.toList_ofList,
      List.append_assoc]
    rfl
  · rw [hstop]
    exact Nat.lt_add_of_pos_right hcut.byteCount_inside_pos
  · rw [← String.ofList_toList (s := content), ← byteCount_eq_utf8ByteSize, hstop', hcontent, ← List.append_assoc,
      byteCount_append (before.flatten ++ inside.flatten)]
    exact Nat.le_add_right _ _
  · obtain ⟨start, hstartPos⟩ := exists_pos hcontent
    obtain ⟨stop, hstopPos⟩ := exists_pos (hcontent.trans (List.append_assoc _ _ _).symm)
    exact ⟨start, stop, hstartPos.trans hstart.symm, hstopPos.trans hstop'.symm⟩

/-- Numbered lines among others: one has a digit of another script and a carriage return, and one is empty behind its
number. A number without a colon is none. -/
def scatteredLines : String := "[File: a (9 lines total)]\n٣:x\r\n(12 hidden)\n12 no\n7:\ntext\n8:é\n$ "

theorem window_spans_numbered_lines_scatteredLines :
    findWindow scatteredLines = some ⟨"a", 26, 63, 3⟩ ∧
    collapse scatteredLines ⟨"a", 26, 63, 3⟩ =
      "[File: a (9 lines total)]\nOutdated window with 3 lines omitted...\n$ " ∧
    findWindow "[File: a (9 lines total)]\nOutdated window with 3 lines omitted...\n$ " = none := by
  have hw : findWindow scatteredLines = some ⟨"a", 26, 63, 3⟩ := by decide
  have hcollapse : collapse scatteredLines ⟨"a", 26, 63, 3⟩ =
      "[File: a (9 lines total)]\nOutdated window with 3 lines omitted...\n$ " := by
    decide
  have hgone := (window_spans_numbered_lines hw).2.2.2.2.2.2
  exact ⟨hw, hcollapse, hcollapse ▸ hgone⟩

end Compaction.FileView
