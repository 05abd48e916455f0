import Compaction.Proofs.FileView.View
import Compaction.Proofs.Policy.StaleWindows

/-!
# The newest view of a file

* `StaleWindows.ShowsView`, `StaleWindows.IsNewestView` : an entry shows lines of a file, and no newer entry shows any;
* `StaleWindows.StillShows` : lines stand in an entry, unchanged and in order;
* `StaleWindows.stillShows_run_iff` : a view is left or not with the window of its entry, whatever file that is of;
* `StaleWindows.ShowsOneFile` : an entry shows one file at most;
* `StaleWindows.newest_view_stands_with_first_header` : which newest views are left;
* `StaleWindows.newest_view_of_second_file_is_lost` : not all of them are.

An entry has one window, which reaches from its first numbered line to its last one and belongs to the file of its
first header. Where an entry shows several files, the lines of all of them go as soon as that one file is shown again.
-/

namespace Compaction.StaleWindows

open FileView (IsView lines IsNumbered findWindow collapse)

variable {h : History} {i : Nat} {file : String} {shown : List (List Char)}

/-- The entry at position `i` is an observation other than the task statement, and shows these lines of the file. -/
def ShowsView (h : History) (i : Nat) (file : String) (shown : List (List Char)) : Prop :=
  h.Replaceable i ∧ ∃ e, h[i]? = some e ∧ IsView e.content file shown

/-- The entry at position `i` shows these lines of the file, and no newer entry shows any lines of it. -/
structure IsNewestView (h : History) (i : Nat) (file : String) (shown : List (List Char)) : Prop where
  shows : ShowsView h i file shown
  newest : ∀ j later, i < j → ¬ ShowsView h j file later

/-- The lines stand in the entry at position `i` in this order, each as it is. -/
def StillShows (h : History) (i : Nat) (shown : List (List Char)) : Prop :=
  ∃ e, h[i]? = some e ∧ shown.Sublist (lines e.content.toList)

theorem ShowsView.stillShows (hview : ShowsView h i file shown) : StillShows h i shown := by
  obtain ⟨-, e, he, hview⟩ := hview
  exact ⟨e, he, hview.sublist_lines⟩

theorem ShowsView.exists_isWindowOf (hview : ShowsView h i file shown) : ∃ first, IsWindowOf h i first := by
  obtain ⟨⟨e, he, hobs, htask⟩, e', he', hview⟩ := hview
  obtain rfl : e = e' := Option.some.inj (he.symm.trans he')
  obtain ⟨w, hw⟩ := hview.exists_findWindow
  exact ⟨w.file, e, w, he, hobs, htask, hw, rfl⟩

/-- No numbered line is left of a stale entry, and nothing is changed in any other. -/
theorem stillShows_run_iff (hview : ShowsView h i file shown) :
    StillShows (Processor.staleWindows.run h) i shown ↔ ¬ IsStale h i := by
  constructor
  · rintro ⟨e', he', hsub⟩ hstale
    obtain ⟨e, w, -, hw, hrun⟩ := getElem?_run_of_isStale hstale
    obtain rfl : e.withContent (collapse e.content w) = e' := Option.some.inj (hrun.symm.trans he')
    obtain ⟨-, _, -, hview⟩ := hview
    obtain ⟨line, hline⟩ := List.exists_mem_of_ne_nil _ hview.1
    exact FileView.not_isNumbered_of_mem_collapse hw line (hsub.subset hline) (hview.isNumbered line hline)
  · intro hstale
    obtain ⟨e, he, hsub⟩ := hview.stillShows
    exact ⟨e, (getElem?_run_of_not_isStale hstale).trans he, hsub⟩

theorem isStale_iff_of_isWindowOf {first : String} (hfirst : IsWindowOf h i first) :
    IsStale h i ↔ ∃ j, i < j ∧ IsWindowOf h j first := by
  constructor
  · rintro ⟨f, hf, hnewer⟩
    rwa [hfirst.file_eq hf]
  · intro hnewer
    exact ⟨first, hfirst, hnewer⟩

/-- The window of the entry at position `i` is of a file that the entry shows, and the entry shows no other. -/
def ShowsOneFile (h : History) (i : Nat) : Prop :=
  ∀ first, IsWindowOf h i first →
    (∃ shown, ShowsView h i first shown) ∧ ∀ file shown, ShowsView h i file shown → file = first

theorem IsNewestView.not_isStale (hview : IsNewestView h i file shown) (hone : ∀ j, i ≤ j → ShowsOneFile h j) :
    ¬ IsStale h i := by
  rintro ⟨first, hfirst, j, hij, hnewer⟩
  -- Both windows are of the file that is shown here, so that there is a newer view of it.
  obtain rfl : file = first := (hone i (Nat.le_refl i) first hfirst).2 file shown hview.shows
  obtain ⟨later, hlater⟩ := (hone j (Nat.le_of_lt hij) file hnewer).1
  exact hview.newest j later hij hlater

/-! ## Main result -/

/-- **The newest view of a file stands or falls with the first header of its entry.** The entry shows a window, and the
view is left exactly if no newer entry shows a window of the same file as that one. So it is left, and its entry as it
was, if in this entry and in each newer one the window is of the only file that is shown there. -/
theorem newest_view_stands_with_first_header (h : History) (i : Nat) (file : String) (shown : List (List Char))
    (hview : IsNewestView h i file shown) :
    (∃ first, IsWindowOf h i first ∧
      (StillShows (Processor.staleWindows.run h) i shown ↔ ¬ ∃ j, i < j ∧ IsWindowOf h j first)) ∧
    ((∀ j, i ≤ j → ShowsOneFile h j) →
      (Processor.staleWindows.run h)[i]? = h[i]? ∧ StillShows (Processor.staleWindows.run h) i shown) := by
  constructor
  · obtain ⟨first, hfirst⟩ := hview.shows.exists_isWindowOf
    exact ⟨first, hfirst, by rw [stillShows_run_iff hview.shows, isStale_iff_of_isWindowOf hfirst]⟩
  · intro hone
    have hstale := hview.not_isStale hone
    exact ⟨getElem?_run_of_not_isStale hstale, (stillShows_run_iff hview.shows).mpr hstale⟩

/-- An observation of two files, and a newer one of the first of them. -/
def twoFiles : History := [
  { role := .user, content := "task" },
  { role := .user, content := "[File: a (1 lines total)]\n1:x\n[File: b (1 lines total)]\n1:y" },
  { role := .user, content := "[File: a (1 lines total)]\n1:z" }]

theorem isRun_one : Text.IsRun Text.isDecimalDigit ['1'] := Text.isRun_singleton (by decide)

theorem file_eq_of_showsView_twoFiles (hview : ShowsView twoFiles 2 file shown) : file = "a" := by
  obtain ⟨-, e, he, hview⟩ := hview
  obtain rfl := Option.some.inj he
  obtain ⟨header, hmem, hheader⟩ := hview.exists_headerLine
  have hlines : lines "[File: a (1 lines total)]\n1:z".toList =
      [FileView.headerLine "a" ['1'] ++ ['\n'], "1:z".toList] := by
    decide
  rw [hlines, List.mem_cons, List.mem_singleton] at hmem
  rcases hmem with rfl | rfl
  · exact hheader.file_eq ⟨['1'], isRun_one, Or.inr rfl⟩
  · exact absurd hheader.head?_eq (by decide)

theorem isNewestView_twoFiles_a : IsNewestView twoFiles 2 "a" ["1:z".toList] where
  shows := by
    refine ⟨⟨_, rfl, rfl, by decide⟩, _, rfl, List.cons_ne_nil _ _, [], FileView.headerLine "a" ['1'] ++ ['\n'],
      ["1:z".toList], [], by decide, ⟨['1'], isRun_one, Or.inr rfl⟩, ?_, nofun, by decide⟩
    exact List.forall_mem_singleton.mpr fun ⟨_, hheader⟩ => absurd hheader.head?_eq (by decide)
  newest j later hj hview := by
    obtain ⟨⟨e, he, -⟩, -⟩ := hview
    rw [List.getElem?_eq_none (show twoFiles.length ≤ j from hj)] at he
    cases he

theorem isNewestView_twoFiles_b : IsNewestView twoFiles 1 "b" ["1:y".toList] where
  shows := by
    refine ⟨⟨_, rfl, rfl, by decide⟩, _, rfl, List.cons_ne_nil _ _,
      [FileView.headerLine "a" ['1'] ++ ['\n'], "1:x\n".toList], FileView.headerLine "b" ['1'] ++ ['\n'],
      ["1:y".toList], [], by decide, ⟨['1'], isRun_one, Or.inr rfl⟩, ?_, nofun, by decide⟩
    exact List.forall_mem_singleton.mpr fun ⟨_, hheader⟩ => absurd hheader.head?_eq (by decide)
  newest j later hj hview := by
    by_cases hlast : j = 2
    · subst hlast
      exact absurd (file_eq_of_showsView_twoFiles hview) (by decide)
    · obtain ⟨⟨e, he, -⟩, -⟩ := hview
      rw [List.getElem?_eq_none (show twoFiles.length ≤ j by show 3 ≤ j; omega)] at he
      cases he

theorem isWindowOf_twoFiles : IsWindowOf twoFiles 1 "a" ∧ IsWindowOf twoFiles 2 "a" :=
  ⟨⟨_, ⟨"a", 26, 59, 2⟩, rfl, rfl, by decide, by decide, rfl⟩,
    ⟨_, ⟨"a", 26, 29, 1⟩, rfl, rfl, by decide, by decide, rfl⟩⟩

theorem showsOneFile_twoFiles {j : Nat} (hj : 2 ≤ j) : ShowsOneFile twoFiles j := by
  intro first hfirst
  obtain rfl : j = 2 := Nat.le_antisymm (Nat.le_of_lt_succ hfirst.lt_length) hj
  obtain rfl : first = "a" := hfirst.file_eq isWindowOf_twoFiles.2
  exact ⟨⟨_, isNewestView_twoFiles_a.shows⟩, fun _ _ => file_eq_of_showsView_twoFiles⟩

/-- The newest view of the first file is left as it is. -/
theorem newest_view_stands_with_first_header_twoFiles :
    IsNewestView twoFiles 2 "a" ["1:z".toList] ∧ (∀ j, 2 ≤ j → ShowsOneFile twoFiles j) ∧
    (Processor.staleWindows.run twoFiles)[2]? = twoFiles[2]? ∧
    StillShows (Processor.staleWindows.run twoFiles) 2 ["1:z".toList] := by
  have hone : ∀ j, 2 ≤ j → ShowsOneFile twoFiles j := fun _ => showsOneFile_twoFiles
  exact ⟨isNewestView_twoFiles_a, hone,
    (newest_view_stands_with_first_header twoFiles 2 "a" _ isNewestView_twoFiles_a).2 hone⟩

/-- The second file has no other view, and yet nothing is left of it. -/
theorem newest_view_of_second_file_is_lost :
    IsNewestView twoFiles 1 "b" ["1:y".toList] ∧
    ¬ StillShows (Processor.staleWindows.run twoFiles) 1 ["1:y".toList] ∧
    (Processor.staleWindows.run twoFiles)[1]? = some
      { role := .user
        content := "[File: a (1 lines total)]\nOutdated window with 2 lines omitted...\n" } := by
  have hstale : IsStale twoFiles 1 := ⟨"a", isWindowOf_twoFiles.1, 2, by decide, isWindowOf_twoFiles.2⟩
  refine ⟨isNewestView_twoFiles_b, ?_, ?_⟩
  · rw [stillShows_run_iff isNewestView_twoFiles_b.shows]
    exact not_not_intro hstale
  · decide

end Compaction.StaleWindows
