import Compaction.Proofs.Policy.LongOutputs
import Compaction.Proofs.Policy.Notices
import Compaction.Proofs.Policy.StaleWindows

/-!
# Compacting what has been compacted

A transcript grows at its end, and may be compacted on the way. Some policies come to the same result in
the end as if the whole transcript were compacted at once:

* `StaleWindows.isStale_run_append_iff` : a window that has not collapsed yet is stale with the new
  entries if and only if it is stale in the whole transcript;
* `StaleWindows.recompaction_collapses_alike` : so the policy on stale windows does not depend on when it
  runs;
* `LongOutputs.dropsAt_append` : a long output that is dropped is also dropped with more entries;
* `LongOutputs.getElem?_run_of_kept` : nothing changes behind a long output that is kept;
* `LongOutputs.recompaction_drops_alike` : so the policy on long outputs does not depend on when it runs,
  provided that its notices are not long themselves.

In both cases an entry that the first pass replaces is one that every later pass leaves alone, and the
other entries see the same transcript behind them, as far as it matters to the policy.
-/

namespace Compaction

/-! ## Stale windows -/

namespace StaleWindows

open FileView (collapse)

theorem isWindowOf_append_left {h : History} {i : Nat} (hi : i < h.length) (more : History)
    {f : String} : IsWindowOf (h ++ more) i f ↔ IsWindowOf h i f := by
  simp only [IsWindowOf, List.getElem?_append_left hi, ne_eq, History.taskIndex?_append_iff hi]

theorem IsStale.lt_length {h : History} {i : Nat} (hs : IsStale h i) : i < h.length := by
  obtain ⟨f, hf, -⟩ := hs
  exact hf.lt_length

/-- A stale window stays stale when entries are appended. -/
theorem IsStale.append {h : History} {i : Nat} (hs : IsStale h i) (more : History) :
    IsStale (h ++ more) i := by
  obtain ⟨f, hf, j, hij, hnewer⟩ := hs
  exact ⟨f, (isWindowOf_append_left hf.lt_length more).mpr hf, j, hij,
    (isWindowOf_append_left hnewer.lt_length more).mpr hnewer⟩

/-- What happens to an entry depends on the entry and on whether it shows a stale window. -/
theorem getElem?_run_congr {h h' : History} {i : Nat} (hentry : h'[i]? = h[i]?)
    (hstale : IsStale h' i ↔ IsStale h i) :
    (Processor.staleWindows.run h')[i]? = (Processor.staleWindows.run h)[i]? := by
  by_cases hs : IsStale h i
  · obtain ⟨e, w, he, hw, hrun⟩ := getElem?_run_of_isStale hs
    obtain ⟨e', w', he', hw', hrun'⟩ := getElem?_run_of_isStale (hstale.mpr hs)
    obtain rfl : e = e' := Option.some.inj (he.symm.trans (hentry.symm.trans he'))
    obtain rfl : w = w' := Option.some.inj (hw.symm.trans hw')
    rw [hrun, hrun']
  · rw [getElem?_run_of_not_isStale hs, getElem?_run_of_not_isStale (mt hstale.mp hs), hentry]

/-- The windows that the first pass leaves are still there with entries appended, and so are the windows
of the new entries. -/
theorem isWindowOf_run_append_iff {h more : History} {i : Nat} {f : String} :
    IsWindowOf (Processor.staleWindows.run h ++ more) i f ↔
      IsWindowOf (h ++ more) i f ∧ ¬ IsStale h i := by
  have hpreserves : Preserves h (Processor.staleWindows.run h) := preserves_process h
  by_cases hi : i < h.length
  · rw [isWindowOf_append_left (hpreserves.length_eq ▸ hi), isWindowOf_append_left hi,
      isWindowOf_run_iff]
  · have hs : ¬ IsStale h i := fun hs => hi hs.lt_length
    have hentry := hpreserves.getElem?_append (getElem?_run_of_not_isStale hs) more
    have htask := (hpreserves.append more).taskIndex?_eq
    simp only [IsWindowOf, hentry, htask, hs, not_false_iff, and_true]

theorem isStale_run_append_iff {h more : History} {i : Nat} :
    IsStale (Processor.staleWindows.run h ++ more) i ↔ IsStale (h ++ more) i ∧ ¬ IsStale h i := by
  rw [IsStale.eq_def (Processor.staleWindows.run h ++ more)]
  simp only [isWindowOf_run_append_iff]
  constructor
  · rintro ⟨f, ⟨hf, hs⟩, j, hij, hnewer, -⟩
    exact ⟨⟨f, hf, j, hij, hnewer⟩, hs⟩
  · rintro ⟨⟨f, hf, j, hij, hnewer⟩, hs⟩
    refine ⟨f, ⟨hf, hs⟩, j, hij, hnewer, ?_⟩
    -- A newer window among the old entries would have made this one stale at once.
    intro hsj
    have hj := hsj.lt_length
    exact hs ⟨f, (isWindowOf_append_left (Nat.lt_trans hij hj) more).mp hf, j, hij,
      (isWindowOf_append_left hj more).mp hnewer⟩

/-- **It does not matter to stale windows when they collapse**: a transcript that has been compacted, with
entries appended, is compacted to what the whole transcript is compacted to. A second pass changes
nothing. -/
theorem recompaction_collapses_alike (h more : History) :
    Processor.staleWindows.run (Processor.staleWindows.run h ++ more) =
        Processor.staleWindows.run (h ++ more) ∧
      Processor.staleWindows.run (Processor.staleWindows.run h) = Processor.staleWindows.run h := by
  have hpreserves : Preserves h (Processor.staleWindows.run h) := preserves_process h
  have hrun : ∀ more, Processor.staleWindows.run (Processor.staleWindows.run h ++ more) =
      Processor.staleWindows.run (h ++ more) := by
    intro more
    apply List.ext_getElem?
    intro i
    by_cases hs : IsStale h i
    · -- What is left of the window is none, and the whole transcript has the same window here.
      have hi := hs.lt_length
      have hdone : ¬ IsStale (Processor.staleWindows.run h ++ more) i := fun hagain =>
        (isStale_run_append_iff.mp hagain).2 hs
      have hwhole : (Processor.staleWindows.run (h ++ more))[i]? = (Processor.staleWindows.run h)[i]? :=
        getElem?_run_congr (List.getElem?_append_left hi) (iff_of_true (hs.append more) hs)
      rw [getElem?_run_of_not_isStale hdone, hwhole,
        List.getElem?_append_left (hpreserves.length_eq ▸ hi)]
    · refine getElem?_run_congr (hpreserves.getElem?_append (getElem?_run_of_not_isStale hs) more) ?_
      rw [isStale_run_append_iff, and_iff_left hs]
  refine ⟨hrun more, ?_⟩
  have hempty := hrun []
  rwa [List.append_nil, List.append_nil] at hempty

end StaleWindows

/-! ## Long outputs -/

namespace LongOutputs

variable {p : LongOutputs} {h more : History}

theorem getElem?_run (p : LongOutputs) (h : History) (i : Nat) :
    ((Processor.longOutputs p).run h)[i]? =
      h[i]?.map fun e => if p.dropsAt h i e then e.withContent (omittedNotice e) else e := by
  show (h.revise (p.revisions h))[i]? = _
  rw [History.getElem?_revise, getElem?_revisions]
  cases h[i]? with
  | none => rfl
  | some e =>
    simp only [Option.map_some, Option.bind_some, Option.some.injEq]
    split <;> rfl

theorem isCandidate_of_dropsAt {i : Nat} {e : Entry} (hd : p.dropsAt h i e = true) :
    p.isCandidate h.taskIndex? e i = true := by
  rw [dropsAt, drops, Bool.and_eq_true] at hd
  exact hd.1

/-- The decision about an entry only depends on the entry and on what stands behind it. -/
theorem dropsAt_congr {h' : History} {i : Nat} (htask : h'.taskIndex? = h.taskIndex?)
    (hbehind : ∀ j, i < j → h'[j]? = h[j]?) (e : Entry) : p.dropsAt h' i e = p.dropsAt h i e := by
  have hzip : h'.zipIdx.drop (i + 1) = h.zipIdx.drop (i + 1) := by
    apply List.ext_getElem?
    intro k
    rw [List.getElem?_drop, List.getElem?_drop, List.getElem?_zipIdx, List.getElem?_zipIdx,
      hbehind (i + 1 + k) (by omega)]
  rw [dropsAt, dropsAt, htask, hzip]

theorem getElem?_run_congr {h' : History} {i : Nat} (htask : h'.taskIndex? = h.taskIndex?)
    (hfrom : ∀ j, i ≤ j → h'[j]? = h[j]?) :
    ((Processor.longOutputs p).run h')[i]? = ((Processor.longOutputs p).run h)[i]? := by
  have hdrops : p.dropsAt h' i = p.dropsAt h i :=
    funext (dropsAt_congr htask fun j hij => hfrom j (Nat.le_of_lt hij))
  rw [getElem?_run, getElem?_run, hfrom i (Nat.le_refl i), hdrops]

theorem getElem?_run_of_not_dropsAt {i : Nat} (hd : ∀ e, h[i]? = some e → p.dropsAt h i e = false) :
    ((Processor.longOutputs p).run h)[i]? = h[i]? := by
  rw [getElem?_run]
  cases he : h[i]? with
  | none => rfl
  | some e => rw [Option.map_some, hd e he, if_neg Bool.false_ne_true]

/-- If a candidate is dropped, then so are all candidates before it: both counts only grow on the way back. -/
theorem dropsAt_of_lt {i j : Nat} {e later : Entry} (hij : i < j)
    (hcand : p.isCandidate h.taskIndex? e i = true) (hd : p.dropsAt h j later = true) :
    p.dropsAt h i e = true := by
  have hsub : (h.zipIdx.drop (j + 1)).Sublist (h.zipIdx.drop (i + 1)) :=
    List.drop_sublist_drop_left _ (by omega)
  have hcandidates : p.candidates h.taskIndex? (h.zipIdx.drop (j + 1)) ≤
      p.candidates h.taskIndex? (h.zipIdx.drop (i + 1)) := hsub.countP_le
  have hobservations : observations (h.zipIdx.drop (j + 1)) ≤ observations (h.zipIdx.drop (i + 1)) :=
    hsub.countP_le
  simp only [dropsAt, drops, hcand, Bool.true_and, Bool.and_eq_true, Bool.or_eq_true,
    decide_eq_true_eq] at hd ⊢
  omega

/-- Nothing changes behind a candidate that is kept. -/
theorem getElem?_run_of_kept {i j : Nat} {e : Entry} (hij : i < j)
    (hcand : p.isCandidate h.taskIndex? e i = true) (hkept : p.dropsAt h i e = false) :
    ((Processor.longOutputs p).run h)[j]? = h[j]? := by
  apply getElem?_run_of_not_dropsAt
  intro later _
  rw [Bool.eq_false_iff]
  intro hd
  rw [dropsAt_of_lt hij hcand hd] at hkept
  exact absurd hkept (by decide)

theorem isCandidate_append {i : Nat} (hi : i < h.length) (more : History) (e : Entry) :
    p.isCandidate (History.taskIndex? (h ++ more)) e i = p.isCandidate h.taskIndex? e i := by
  have htask : (some i == History.taskIndex? (h ++ more)) = (some i == h.taskIndex?) := by
    rw [Bool.eq_iff_iff, beq_iff_eq, beq_iff_eq, eq_comm, History.taskIndex?_append_iff hi, eq_comm]
  rw [isCandidate, isCandidate, bne, bne, htask]

/-- A candidate that is dropped is also dropped when more entries are appended. -/
theorem dropsAt_append {i : Nat} (hi : i < h.length) (more : History) {e : Entry}
    (hd : p.dropsAt h i e = true) : p.dropsAt (h ++ more) i e = true := by
  have hzip : (h ++ more).zipIdx.drop (i + 1) =
      h.zipIdx.drop (i + 1) ++ more.zipIdx (0 + h.length) := by
    rw [List.zipIdx_append, List.drop_append_of_le_length (by rw [List.length_zipIdx]; omega)]
  have hcandidates : p.candidates h.taskIndex? (h.zipIdx.drop (i + 1)) ≤
      p.candidates (History.taskIndex? (h ++ more)) ((h ++ more).zipIdx.drop (i + 1)) := by
    have hsame : p.candidates (History.taskIndex? (h ++ more)) (h.zipIdx.drop (i + 1)) =
        p.candidates h.taskIndex? (h.zipIdx.drop (i + 1)) := by
      apply List.countP_congr
      rintro ⟨later, j⟩ hmem
      have hj := (mem_drop_zipIdx_iff.mp hmem).2
      rw [isCandidate_append (List.getElem?_eq_some_iff.mp hj).1]
    rw [← hsame, hzip, candidates, candidates, List.countP_append]
    exact Nat.le_add_right _ _
  have hobservations : observations (h.zipIdx.drop (i + 1)) ≤
      observations ((h ++ more).zipIdx.drop (i + 1)) := by
    rw [hzip, observations, observations, List.countP_append]
    exact Nat.le_add_right _ _
  have hcand := isCandidate_of_dropsAt hd
  simp only [dropsAt, drops, isCandidate_append hi, hcand, Bool.true_and, Bool.or_eq_true,
    decide_eq_true_eq] at hd ⊢
  omega

/-- The notice of an output that has been dropped stays, unless it is a long output itself. -/
theorem getElem?_run_run_append_of_dropsAt {i : Nat} (hi : i < h.length) (hd : p.dropsAt h i h[i] = true)
    (hnotice : (omittedNotice h[i]).length ≤ p.threshold) (more : History) :
    ((Processor.longOutputs p).run ((Processor.longOutputs p).run h ++ more))[i]? =
      ((Processor.longOutputs p).run (h ++ more))[i]? := by
  have he : h[i]? = some h[i] := List.getElem?_eq_getElem hi
  have hwhole : (h ++ more)[i]? = some h[i] := by rw [List.getElem?_append_left hi, he]
  have hpreserves : Preserves h ((Processor.longOutputs p).run h) := preserves_process p h
  have hagain : ((Processor.longOutputs p).run h ++ more)[i]? =
      some (h[i].withContent (omittedNotice h[i])) := by
    rw [List.getElem?_append_left (hpreserves.length_eq ▸ hi), getElem?_run, he, Option.map_some, if_pos hd]
  rw [getElem?_run_of_not_dropsAt, hagain, getElem?_run, hwhole, Option.map_some,
    if_pos (dropsAt_append hi more hd)]
  intro e hentry
  obtain rfl := Option.some.inj (hagain.symm.trans hentry)
  rw [Bool.eq_false_iff]
  intro hdrop
  have hcand := isCandidate_of_dropsAt hdrop
  rw [isCandidate, Bool.and_eq_true, isLong, decide_eq_true_eq] at hcand
  exact absurd hcand.2 (Nat.not_lt_of_le hnotice)

/-- What is no candidate stays as it is. -/
theorem getElem?_run_append_of_not_isCandidate {i : Nat} (hi : i < h.length)
    (hcand : p.isCandidate h.taskIndex? h[i] i ≠ true) (more : History) :
    ((Processor.longOutputs p).run (h ++ more))[i]? = (h ++ more)[i]? := by
  apply getElem?_run_of_not_dropsAt
  intro e he
  rw [List.getElem?_append_left hi, List.getElem?_eq_getElem hi] at he
  obtain rfl := Option.some.inj he
  rw [Bool.eq_false_iff]
  intro hdrop
  exact hcand (isCandidate_append hi more h[i] ▸ isCandidate_of_dropsAt hdrop)

/-- Compacting again does to an entry what compacting for the first time does. -/
theorem getElem?_run_run_append (hshort : ∀ e ∈ h, e.isObservation = true →
      (omittedNotice e).length ≤ p.threshold) (more : History) (i : Nat) :
    ((Processor.longOutputs p).run ((Processor.longOutputs p).run h ++ more))[i]? =
      ((Processor.longOutputs p).run (h ++ more))[i]? := by
  have hpreserves : Preserves h ((Processor.longOutputs p).run h) := preserves_process p h
  have htask := (hpreserves.append more).taskIndex?_eq
  by_cases hi : i < h.length
  · by_cases hd : p.dropsAt h i h[i] = true
    · have hobs := isObservation_of_isCandidate (isCandidate_of_dropsAt hd)
      exact getElem?_run_run_append_of_dropsAt hi hd (hshort h[i] (List.getElem_mem hi) hobs) more
    · rw [Bool.not_eq_true] at hd
      have hhere : ((Processor.longOutputs p).run h)[i]? = h[i]? := by
        rw [getElem?_run, List.getElem?_eq_getElem hi, Option.map_some, hd, if_neg Bool.false_ne_true]
      by_cases hcand : p.isCandidate h.taskIndex? h[i] i = true
      · -- Whatever stands behind a candidate that was kept is as it was.
        refine getElem?_run_congr htask fun j hij => hpreserves.getElem?_append ?_ more
        rcases Nat.eq_or_lt_of_le hij with rfl | hlt
        · exact hhere
        · exact getElem?_run_of_kept hlt hcand hd
      · have hi' : i < ((Processor.longOutputs p).run h).length := hpreserves.length_eq ▸ hi
        have hsame : ((Processor.longOutputs p).run h)[i] = h[i] := by
          rw [List.getElem?_eq_getElem hi', List.getElem?_eq_getElem hi] at hhere
          exact Option.some.inj hhere
        have hcand' : p.isCandidate ((Processor.longOutputs p).run h).taskIndex?
            ((Processor.longOutputs p).run h)[i] i ≠ true := by
          rwa [hpreserves.taskIndex?_eq, hsame]
        rw [getElem?_run_append_of_not_isCandidate hi' hcand', getElem?_run_append_of_not_isCandidate hi hcand]
        exact hpreserves.getElem?_append hhere more
  · refine getElem?_run_congr htask fun j hij => hpreserves.getElem?_append ?_ more
    have hj : h.length ≤ j := by omega
    rw [List.getElem?_eq_none hj, List.getElem?_eq_none (hpreserves.length_eq ▸ hj)]

/-- **It does not matter to long outputs when they are dropped**, as long as no notice is a long output
itself: a transcript that has been compacted, with entries appended, is compacted to what the whole
transcript is compacted to, and a second pass changes nothing. No notice is long from a threshold of 47
characters on. -/
theorem recompaction_drops_alike :
    (∀ (p : LongOutputs) (h more : History),
      (∀ e ∈ h, e.isObservation = true → (omittedNotice e).length ≤ p.threshold) →
      (Processor.longOutputs p).run ((Processor.longOutputs p).run h ++ more) =
          (Processor.longOutputs p).run (h ++ more) ∧
        (Processor.longOutputs p).run ((Processor.longOutputs p).run h) =
          (Processor.longOutputs p).run h) ∧
    (∀ (p : LongOutputs) (e : Entry), 47 ≤ p.threshold → e.lineCount < UInt64.size →
      (omittedNotice e).length ≤ p.threshold) := by
  refine ⟨?_, ?_⟩
  · intro p h more hshort
    have hrun : ∀ more, (Processor.longOutputs p).run ((Processor.longOutputs p).run h ++ more) =
        (Processor.longOutputs p).run (h ++ more) :=
      fun more => List.ext_getElem? (getElem?_run_run_append hshort more)
    refine ⟨hrun more, ?_⟩
    have hempty := hrun []
    rwa [List.append_nil, List.append_nil] at hempty
  · intro p e hthreshold hlines
    exact Nat.le_trans (length_omittedNotice_le hlines) hthreshold

/-- Two outputs that are longer than a notice about one line, which has 28 characters. -/
def twoLong : History := [
  { role := .user, content := "task" },
  { role := .user, content := "a first output of thirty chars" },
  { role := .user, content := "another output of thirty chars" }]

/-- The second output is kept at first, and dropped once there is a third one. With a threshold of 200
characters no notice could be long. -/
theorem recompaction_twoLong :
    (∀ e ∈ twoLong, e.isObservation = true → (omittedNotice e).length ≤ 28) ∧
    (Processor.longOutputs { n := 1, maxAge := 9, threshold := 28 }).run
        ((Processor.longOutputs { n := 1, maxAge := 9, threshold := 28 }).run twoLong ++
          [{ role := .user, content := "a further output, thirty chars" }]) =
      [{ role := .user, content := "task" },
        { role := .user, content := "Old output omitted (1 lines)" },
        { role := .user, content := "Old output omitted (1 lines)" },
        { role := .user, content := "a further output, thirty chars" }] ∧
    ∀ e ∈ twoLong, e.lineCount < UInt64.size ∧ (omittedNotice e).length ≤ 200 := by
  have hshort : ∀ e ∈ twoLong, e.isObservation = true → (omittedNotice e).length ≤ 28 := by decide
  have hlines : ∀ e ∈ twoLong, e.lineCount < UInt64.size := by decide
  refine ⟨hshort, ?_, ?_⟩
  · rw [(recompaction_drops_alike.1 { n := 1, maxAge := 9, threshold := 28 } twoLong _ hshort).1]
    decide
  · intro e he
    refine ⟨hlines e he, ?_⟩
    exact recompaction_drops_alike.2 { n := 1, maxAge := 9, threshold := 200 } e (by decide) (hlines e he)

end LongOutputs

end Compaction
