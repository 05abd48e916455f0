import Compaction.Proofs.FileView.Header

/-!
# Views of a file

* `lineFeed_notMem_dropLast` : within a text that is cut into lines, a line feed stands only at the end of a line;
* `headerLine`, `IsHeaderLineOf` : a header that stands in a line by itself, and the file that it names, which is
  determined by the line (`IsHeaderLineOf.file_eq`);
* `IsView` : numbered lines below the header line of a file, as far as the next header line;
* `IsView.exists_findWindow` : a text with a view shows a window, though perhaps one of another file.
-/

namespace Compaction.FileView

open Text (IsRun isDecimalDigit isWhiteSpace)

variable {cs line count : List Char} {file other content : String}

/-! ## Header lines -/

theorem lineFeed_notMem_dropLast (hmem : line ∈ lines cs) : '\n' ∉ line.dropLast := by
  induction cs using line_induction with
  | nil => cases hmem
  | unfinished body hbody hne =>
    rw [lines_unfinished hbody hne, List.mem_singleton] at hmem
    rw [hmem]
    exact fun h => hbody (List.dropLast_subset _ h)
  | lineFeed body rest hbody ih =>
    rw [lines_lineFeed hbody, List.mem_cons] at hmem
    rcases hmem with rfl | hmem
    · rwa [List.dropLast_concat]
    · exact ih hmem

/-- The header `[File: <file> (<count> lines total)]`, with the number of lines as it is written. -/
def headerLine (file : String) (count : List Char) : List Char :=
  headerOpening ++ (' ' :: (file.toList ++ ' ' :: '(' :: count) ++ ' ' :: headerClosing)

/-- The line is a header for the file, and nothing else stands in it. -/
def IsHeaderLineOf (file : String) (line : List Char) : Prop :=
  ∃ count, IsRun isDecimalDigit count ∧ (line = headerLine file count ∨ line = headerLine file count ++ ['\n'])

def IsHeaderLine (line : List Char) : Prop := ∃ file, IsHeaderLineOf file line

theorem IsHeaderLineOf.head?_eq (h : IsHeaderLineOf file line) : line.head? = some '[' := by
  obtain ⟨count, -, rfl | rfl⟩ := h <;> rfl

theorem getLast?_headerLine (file : String) (count : List Char) : (headerLine file count).getLast? = some ']' := by
  have hclosing : (' ' :: headerClosing).getLast? = some ']' := by decide
  rw [headerLine, List.getLast?_append, List.getLast?_append, hclosing]
  rfl

theorem blank_notMem_paren (hcount : IsRun isDecimalDigit count) : ' ' ∉ '(' :: count := by
  intro hmem
  rcases List.mem_cons.mp hmem with hparen | hdigit
  · exact absurd hparen (by decide)
  · exact absurd (hcount.2 ' ' hdigit) (by decide)

/-- The blank in front of the number is the last one before the closing. -/
theorem file_eq_of_headerLine_eq {count' : List Char} (hcount : IsRun isDecimalDigit count)
    (hcount' : IsRun isDecimalDigit count') (heq : headerLine file count = headerLine other count') :
    file = other := by
  have hfile : file.toList ++ ' ' :: '(' :: count = other.toList ++ ' ' :: '(' :: count' :=
    (List.cons.inj (List.append_cancel_right (List.append_cancel_left heq))).2
  have hblank := blank_notMem_paren hcount
  have hblank' := blank_notMem_paren hcount'
  apply String.toList_injective
  rcases List.append_eq_append_iff.mp hfile with ⟨more, hother, hrest⟩ | ⟨more, hfile, hrest⟩
  · cases more with
    | nil => rw [hother, List.append_nil]
    | cons c more =>
      obtain ⟨-, hrest⟩ := List.cons.inj hrest
      exact absurd (hrest ▸ List.mem_append_right more List.mem_cons_self) hblank
  · cases more with
    | nil => rw [hfile, List.append_nil]
    | cons c more =>
      obtain ⟨-, hrest⟩ := List.cons.inj hrest
      exact absurd (hrest ▸ List.mem_append_right more List.mem_cons_self) hblank'

theorem IsHeaderLineOf.file_eq (h : IsHeaderLineOf file line) (h' : IsHeaderLineOf other line) : file = other := by
  obtain ⟨count, hcount, hline⟩ := h
  obtain ⟨count', hcount', hline'⟩ := h'
  have hlast := getLast?_headerLine file count
  have hlast' := getLast?_headerLine other count'
  refine file_eq_of_headerLine_eq hcount hcount' ?_
  rcases hline with rfl | rfl <;> rcases hline' with heq | heq
  · exact heq
  · rw [heq, List.getLast?_concat] at hlast
    cases hlast
  · rw [← heq, List.getLast?_concat] at hlast'
    cases hlast'
  · exact List.append_cancel_right heq

theorem exists_header_of_mem_lines (hmem : line ∈ lines cs) (hline : IsHeaderLineOf file line) :
    ∃ header : Header, header.text = cs := by
  obtain ⟨before, after, hlines⟩ := List.append_of_mem hmem
  have hcs : cs = before.flatten ++ (line ++ after.flatten) := by
    rw [← flatten_lines cs, hlines, List.flatten_append, List.flatten_cons]
  have hfeed := lineFeed_notMem_dropLast hmem
  obtain ⟨count, hcount, hline⟩ := hline
  have hfile : '\n' ∉ file.toList := by
    -- A line feed in the path would stand inside of the line.
    intro hfile
    have hfront : '\n' ∈ headerOpening ++ ' ' :: (file.toList ++ ' ' :: '(' :: count) := by simp [hfile]
    refine hfeed ?_
    rcases hline with rfl | rfl
    · rw [headerLine, ← List.append_assoc, List.dropLast_append_of_ne_nil (List.cons_ne_nil _ _)]
      exact List.mem_append_left _ hfront
    · rw [List.dropLast_concat, headerLine, ← List.append_assoc]
      exact List.mem_append_left _ hfront
  have hspace : IsRun isWhiteSpace [' '] := Text.isRun_singleton (by decide)
  have hheader : ∀ rest, ∃ header : Header, header.text = before.flatten ++ (headerLine file count ++ rest) := by
    intro rest
    refine ⟨⟨before.flatten, [' '], file.toList, [' '], count, [' '], rest, hspace, hfile, hspace, hcount, hspace⟩, ?_⟩
    simp only [Header.text, Header.inner, headerLine, List.append_assoc, List.cons_append, List.nil_append]
  rw [hcs]
  rcases hline with rfl | rfl
  · exact hheader _
  · rw [List.append_assoc]
    exact hheader _

/-! ## Views -/

/-- Below a header line of the file the text has just these numbered lines, at least one, before the next header line
or before its end. -/
def IsView (content file : String) (shown : List (List Char)) : Prop :=
  shown ≠ [] ∧ ∃ before header below after, lines content.toList = before ++ header :: (below ++ after) ∧
    IsHeaderLineOf file header ∧ (∀ line ∈ below, ¬ IsHeaderLine line) ∧
    (∀ line ∈ after.head?, IsHeaderLine line) ∧ shown = below.filter fun line => IsNumbered line

theorem IsView.isNumbered {shown : List (List Char)} (h : IsView content file shown) :
    ∀ line ∈ shown, IsNumbered line := by
  obtain ⟨-, before, header, below, after, -, -, -, -, rfl⟩ := h
  exact fun line hline => of_decide_eq_true (List.mem_filter.mp hline).2

/-- What is shown stands in the text, in this order. -/
theorem IsView.sublist_lines {shown : List (List Char)} (h : IsView content file shown) :
    shown.Sublist (lines content.toList) := by
  obtain ⟨-, before, header, below, after, hlines, -, -, -, rfl⟩ := h
  rw [hlines]
  exact List.filter_sublist.trans
    ((List.sublist_append_left below after).trans
      ((List.sublist_cons_self header _).trans (List.sublist_append_right before _)))

theorem IsView.exists_headerLine {shown : List (List Char)} (h : IsView content file shown) :
    ∃ header ∈ lines content.toList, IsHeaderLineOf file header := by
  obtain ⟨-, before, header, below, after, hlines, hheader, -⟩ := h
  exact ⟨header, hlines ▸ List.mem_append_right before List.mem_cons_self, hheader⟩

theorem IsView.exists_findWindow {shown : List (List Char)} (h : IsView content file shown) :
    ∃ w, findWindow content = some w := by
  obtain ⟨line, hline⟩ := List.exists_mem_of_ne_nil _ h.1
  have hfile := map_file_findWindow ⟨line, h.sublist_lines.subset hline, h.isNumbered line hline⟩
  obtain ⟨header, hmem, hheader⟩ := h.exists_headerLine
  have hpath := isSome_headerPath?_iff.mpr (exists_header_of_mem_lines hmem hheader)
  rw [← Option.isSome_map, ← hfile, Option.isSome_map] at hpath
  exact Option.isSome_iff_exists.mp hpath

end Compaction.FileView
