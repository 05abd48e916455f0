import Compaction.Processor
import Compaction.Proofs.FileView.Collapse
import Compaction.Proofs.Transcript.Protected

/-!
# Which windows collapse

* `StaleWindows.IsWindowOf h i f` : the entry at position `i` shows a window of the file `f`;
* `StaleWindows.IsStale h i` : a newer entry shows a window of the same file;
* `StaleWindows.mem_seen_scan` : the files that the walk has seen are those with a window in the part
  of the transcript that it has gone over;
* `StaleWindows.getElem?_run_of_isStale`, `StaleWindows.getElem?_run_of_not_isStale` : exactly the stale
  windows collapse;
* `StaleWindows.isWindowOf_run_iff` : afterwards each file has its newest window, and no other;
* `StaleWindows.run_collapses_stale_windows` : all this together;
* `StaleWindows.preserves_process` : the policy leaves protected entries alone.
-/

namespace Compaction.StaleWindows

open FileView (Window findWindow collapse)

/-- The entry at position `i` is an observation other than the task statement, and shows a window of the
file `f`. -/
def IsWindowOf (h : History) (i : Nat) (f : String) : Prop :=
  ∃ e w, h[i]? = some e ∧ e.isObservation = true ∧ h.taskIndex? ≠ some i ∧
    findWindow e.content = some w ∧ w.file = f

/-- The entry at position `i` shows a window of a file of which there is a newer window. -/
def IsStale (h : History) (i : Nat) : Prop :=
  ∃ f, IsWindowOf h i f ∧ ∃ j, i < j ∧ IsWindowOf h j f

/-! ## The walk -/

theorem windowAt_eq_some_iff {task : Option Nat} {e : Entry} {i : Nat} {w : Window} :
    windowAt task e i = some w ↔
      e.isObservation = true ∧ task ≠ some i ∧ findWindow e.content = some w := by
  unfold windowAt
  cases e.isObservation with
  | false => simp
  | true =>
    by_cases htask : task = some i
    · simp [htask]
    · simp [htask, Ne.symm htask]

theorem isWindowOf_iff {h : History} {i : Nat} {f : String} :
    IsWindowOf h i f ↔
      ∃ e w, h[i]? = some e ∧ windowAt h.taskIndex? e i = some w ∧ w.file = f := by
  simp only [IsWindowOf, windowAt_eq_some_iff, and_assoc]

/-- The decision about an entry in front of the entries `later`. -/
def decision (task : Option Nat) (pair : Entry × Nat) (later : List (Entry × Nat)) : Option Revision :=
  (windowAt task pair.1 pair.2).bind fun w =>
    if w.file ∈ (scan task later).seen then
      some ⟨collapse pair.1.content w, .windowCollapsed w.file pair.2 w.lines⟩
    else none

theorem decisions_scan_cons (task : Option Nat) (pair : Entry × Nat) (later : List (Entry × Nat)) :
    (scan task (pair :: later)).decisions =
      decision task pair later :: (scan task later).decisions := by
  show (step task pair (scan task later)).decisions = _
  unfold step decision
  cases windowAt task pair.1 pair.2 with
  | none => rfl
  | some w =>
    by_cases hseen : w.file ∈ (scan task later).seen
    · simp [hseen]
    · simp [hseen]

theorem mem_seen_scan {task : Option Nat} {pairs : List (Entry × Nat)} {f : String} :
    f ∈ (scan task pairs).seen ↔
      ∃ pair ∈ pairs, ∃ w, windowAt task pair.1 pair.2 = some w ∧ w.file = f := by
  induction pairs with
  | nil => simp [scan]
  | cons pair later ih =>
    simp only [List.mem_cons, exists_eq_or_imp, ← ih]
    show f ∈ (step task pair (scan task later)).seen ↔ _
    unfold step
    cases windowAt task pair.1 pair.2 with
    | none => simp
    | some w =>
      by_cases hseen : w.file ∈ (scan task later).seen
      · simp only [List.contains_eq_mem, hseen, decide_true, if_true, Option.some.injEq,
          exists_eq_left']
        exact ⟨Or.inr, fun hf => hf.elim (fun heq => heq ▸ hseen) id⟩
      · simp [hseen, eq_comm]

theorem getElem?_decisions_scan (task : Option Nat) (pairs : List (Entry × Nat)) (i : Nat) :
    (scan task pairs).decisions[i]? =
      pairs[i]?.map fun pair => decision task pair (pairs.drop (i + 1)) := by
  induction pairs generalizing i with
  | nil => rfl
  | cons pair later ih =>
    rw [decisions_scan_cons]
    cases i with
    | zero => rfl
    | succ i => exact ih i

theorem length_decisions_scan (task : Option Nat) (pairs : List (Entry × Nat)) :
    (scan task pairs).decisions.length = pairs.length := by
  induction pairs with
  | nil => rfl
  | cons pair later ih => rw [decisions_scan_cons, List.length_cons, List.length_cons, ih]

/-! ## The policy -/

/-- The walk has seen a file behind position `i` if there is a newer window of it. -/
theorem mem_seen_drop_iff {h : History} {i : Nat} {f : String} :
    f ∈ (scan h.taskIndex? (h.zipIdx.drop (i + 1))).seen ↔ ∃ j, i < j ∧ IsWindowOf h j f := by
  simp only [mem_seen_scan, isWindowOf_iff]
  constructor
  · rintro ⟨pair, hmem, w, hw, hf⟩
    obtain ⟨k, hk⟩ := List.mem_iff_getElem?.mp hmem
    rw [List.getElem?_drop, List.getElem?_zipIdx, Option.map_eq_some_iff] at hk
    obtain ⟨e, he, rfl⟩ := hk
    rw [Nat.zero_add] at hw
    exact ⟨i + 1 + k, by omega, e, w, he, hw, hf⟩
  · rintro ⟨j, hj, e, w, he, hw, hf⟩
    refine ⟨(e, j), List.mem_iff_getElem?.mpr ⟨j - (i + 1), ?_⟩, w, hw, hf⟩
    rw [List.getElem?_drop, List.getElem?_zipIdx, Nat.add_sub_cancel' hj, he, Nat.zero_add]
    rfl

theorem getElem?_run (h : History) (i : Nat) :
    (Processor.staleWindows.run h)[i]? =
      h[i]?.map fun e => e.revise (decision h.taskIndex? (e, i) (h.zipIdx.drop (i + 1))) := by
  show (h.revise (scan h.taskIndex? h.zipIdx).decisions)[i]? = _
  rw [History.getElem?_revise, getElem?_decisions_scan, List.getElem?_zipIdx, Nat.zero_add]
  cases h[i]? <;> rfl

theorem replaceable_of_decisions {h : History} {i : Nat} {r : Revision}
    (hr : (scan h.taskIndex? h.zipIdx).decisions[i]? = some (some r)) : h.Replaceable i := by
  rw [getElem?_decisions_scan, List.getElem?_zipIdx, Nat.zero_add, Option.map_map,
    Option.map_eq_some_iff] at hr
  obtain ⟨e, he, hr⟩ := hr
  obtain ⟨w, hw, -⟩ := Option.bind_eq_some_iff.mp hr
  obtain ⟨hobs, htask, -⟩ := windowAt_eq_some_iff.mp hw
  exact ⟨e, he, hobs, htask⟩

theorem preserves_process (h : History) : Preserves h (process h).history :=
  Preserves.revise (by rw [length_decisions_scan, List.length_zipIdx]) fun _ _ hr =>
    replaceable_of_decisions hr

theorem getElem?_run_of_isStale {h : History} {i : Nat} (hs : IsStale h i) :
    ∃ e w, h[i]? = some e ∧ findWindow e.content = some w ∧
      (Processor.staleWindows.run h)[i]? = some (e.withContent (collapse e.content w)) := by
  obtain ⟨f, hi, hnewer⟩ := hs
  obtain ⟨e, w, he, hw, rfl⟩ := isWindowOf_iff.mp hi
  refine ⟨e, w, he, (windowAt_eq_some_iff.mp hw).2.2, ?_⟩
  rw [getElem?_run, he, Option.map_some, decision, hw, Option.bind_some,
    if_pos (mem_seen_drop_iff.mpr hnewer)]
  rfl

theorem getElem?_run_of_not_isStale {h : History} {i : Nat} (hs : ¬ IsStale h i) :
    (Processor.staleWindows.run h)[i]? = h[i]? := by
  rw [getElem?_run]
  cases he : h[i]? with
  | none => rfl
  | some e =>
    cases hw : windowAt h.taskIndex? e i with
    | none => simp [decision, hw, Entry.revise]
    | some w =>
      have hseen : w.file ∉ (scan h.taskIndex? (h.zipIdx.drop (i + 1))).seen := fun hmem =>
        hs ⟨w.file, isWindowOf_iff.mpr ⟨e, w, he, hw, rfl⟩, mem_seen_drop_iff.mp hmem⟩
      simp [decision, hw, hseen, Entry.revise]

/-! ## What is left -/

theorem IsWindowOf.file_eq {h : History} {i : Nat} {f g : String} (hf : IsWindowOf h i f)
    (hg : IsWindowOf h i g) : f = g := by
  obtain ⟨e, w, he, -, -, hw, rfl⟩ := hf
  obtain ⟨e', w', he', -, -, hw', rfl⟩ := hg
  obtain rfl : e = e' := Option.some.inj (he.symm.trans he')
  rw [Option.some.inj (hw.symm.trans hw')]

theorem IsWindowOf.lt_length {h : History} {i : Nat} {f : String} (hf : IsWindowOf h i f) :
    i < h.length := by
  obtain ⟨e, -, he, -⟩ := hf
  exact (List.getElem?_eq_some_iff.mp he).1

/-- Among the windows of a file one is the newest, and that one is not stale. -/
theorem exists_not_isStale {h : History} {i : Nat} {f : String} (hf : IsWindowOf h i f) :
    ∃ j, IsWindowOf h j f ∧ ¬ IsStale h j := by
  induction hn : h.length - i using Nat.strongRecOn generalizing i with
  | ind n ih =>
    by_cases hs : IsStale h i
    · obtain ⟨g, hg, j, hj, hnewer⟩ := hs
      have hlt := hf.lt_length
      exact ih (h.length - j) (by omega) (hf.file_eq hg ▸ hnewer) rfl
    · exact ⟨i, hf, hs⟩

/-- A window of the new transcript is a window of the old one that was not stale. -/
theorem isWindowOf_run_iff {h : History} {i : Nat} {f : String} :
    IsWindowOf (Processor.staleWindows.run h) i f ↔ IsWindowOf h i f ∧ ¬ IsStale h i := by
  have htask : History.taskIndex? (Processor.staleWindows.run h) = h.taskIndex? :=
    (preserves_process h).taskIndex?_eq
  by_cases hs : IsStale h i
  · obtain ⟨e, w, -, hw, hrun⟩ := getElem?_run_of_isStale hs
    refine ⟨?_, fun hf => absurd hs hf.2⟩
    rintro ⟨e', w', he', -, -, hw', -⟩
    obtain rfl : e.withContent (collapse e.content w) = e' := Option.some.inj (hrun.symm.trans he')
    rw [Entry.content_withContent, FileView.findWindow_collapse hw] at hw'
    cases hw'
  · simp only [IsWindowOf, htask, getElem?_run_of_not_isStale hs, hs, not_false_iff, and_true]

/-- **The policy collapses the windows of which there is a newer one, and changes nothing else.** What
is left of each file is its newest window, as it was. -/
theorem run_collapses_stale_windows (h : History) :
    (∀ i, IsStale h i → ∃ e w, h[i]? = some e ∧ findWindow e.content = some w ∧
      (Processor.staleWindows.run h)[i]? = some (e.withContent (collapse e.content w))) ∧
    (∀ i, ¬ IsStale h i → (Processor.staleWindows.run h)[i]? = h[i]?) ∧
    (∀ i j f, IsWindowOf (Processor.staleWindows.run h) i f →
      IsWindowOf (Processor.staleWindows.run h) j f → i = j) ∧
    (∀ f, (∃ i, IsWindowOf (Processor.staleWindows.run h) i f) ↔ ∃ i, IsWindowOf h i f) ∧
    (∀ i f, IsWindowOf (Processor.staleWindows.run h) i f → IsWindowOf h i f ∧
      (∀ j, i < j → ¬ IsWindowOf h j f) ∧ (Processor.staleWindows.run h)[i]? = h[i]?) := by
  refine ⟨fun i hs => getElem?_run_of_isStale hs, fun i hs => getElem?_run_of_not_isStale hs,
    ?_, ?_, ?_⟩
  · intro i j f hi hj
    obtain ⟨hi, hsi⟩ := isWindowOf_run_iff.mp hi
    obtain ⟨hj, hsj⟩ := isWindowOf_run_iff.mp hj
    -- Of two windows of one file, the older one is stale.
    have hij : ¬ i < j := fun hlt => hsi ⟨f, hi, j, hlt, hj⟩
    have hji : ¬ j < i := fun hlt => hsj ⟨f, hj, i, hlt, hi⟩
    omega
  · intro f
    constructor
    · rintro ⟨i, hi⟩
      exact ⟨i, (isWindowOf_run_iff.mp hi).1⟩
    · rintro ⟨i, hi⟩
      obtain ⟨j, hj⟩ := exists_not_isStale hi
      exact ⟨j, isWindowOf_run_iff.mpr hj⟩
  · intro i f hi
    obtain ⟨hi, hs⟩ := isWindowOf_run_iff.mp hi
    exact ⟨hi, fun j hij hj => hs ⟨f, hi, j, hij, hj⟩, getElem?_run_of_not_isStale hs⟩

def reopened : History := [
  { role := .user, content := "task" },
  { role := .user, content := "[File: a (1 lines total)]\n1:x" },
  { role := .user, content := "[File: a (1 lines total)]\n1:y" }]

theorem run_reopened :
    IsStale reopened 1 ∧ (Processor.staleWindows.run reopened)[1]? = some
      { role := .user
        content := "[File: a (1 lines total)]\nOutdated window with 1 lines omitted...\n" } := by
  have hs : IsStale reopened 1 :=
    ⟨"a", ⟨_, ⟨"a", 26, 29, 1⟩, rfl, rfl, by decide, by decide, rfl⟩, 2, by decide,
      _, ⟨"a", 26, 29, 1⟩, rfl, rfl, by decide, by decide, rfl⟩
  obtain ⟨e, w, he, hw, hrun⟩ := (run_collapses_stale_windows reopened).1 1 hs
  obtain rfl : { role := .user, content := "[File: a (1 lines total)]\n1:x" } = e := Option.some.inj he
  obtain rfl : (⟨"a", 26, 29, 1⟩ : Window) = w :=
    Option.some.inj ((show findWindow _ = some _ by decide).symm.trans hw)
  refine ⟨hs, hrun.trans ?_⟩
  decide

end Compaction.StaleWindows
