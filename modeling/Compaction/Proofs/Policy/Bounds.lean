import Compaction.Proofs.Policy.Recompaction
import Mathlib.Data.Finset.Max
import Mathlib.Data.List.Sigma
import Mathlib.Order.Interval.Finset.Nat

/-!
# The bounds on long outputs

* `LongOutputs.IsLongAt`, `LongOutputs.longFrom` : the long outputs of a transcript by their positions,
  and how many there are from a position on;
* `History.IsObservationAt`, `History.observationsBehind` : the observations, and how many there are behind
  a position;
* `LongOutputs.countP_drop_zipIdx` : a count over the end of a list is a number of positions;
* `LongOutputs.dropsAt_iff` : so the walks decide by these two numbers;
* `LongOutputs.run_follows_declared_rule` : what becomes of each entry;
* `LongOutputs.dropsAt_mono` : the decision is monotone in all three bounds;
* `LongOutputs.wider_bounds_replace_less` : so wider bounds replace no entry that narrower ones leave;
* `LongOutputs.IsLongAt.of_run`, `LongOutputs.longFrom_run_le` : what is long afterwards is within the bounds,
  provided that no notice is long.

A walk that counts what it keeps might spend its count on other outputs when the threshold rises. The rule
does not mention what is kept: with a higher threshold there are fewer long outputs from any position on.
-/

namespace Compaction

/-! ## Positions -/

def History.IsObservationAt (h : History) (i : Nat) : Prop := ∃ e, h[i]? = some e ∧ e.isObservation = true

instance (h : History) (i : Nat) : Decidable (h.IsObservationAt i) :=
  inferInstanceAs (Decidable (∃ e ∈ h[i]?, e.isObservation = true))

/-- How many observations stand behind position `i`. -/
def History.observationsBehind (h : History) (i : Nat) : Nat :=
  ((Finset.Ioo i h.length).filter h.IsObservationAt).card

theorem History.isObservationAt_iff_map {h : History} {i : Nat} :
    h.IsObservationAt i ↔ (h.map Entry.isObservation)[i]? = some true := by
  rw [List.getElem?_map, Option.map_eq_some_iff]
  rfl

theorem Preserves.observationsBehind_eq {h h' : History} (hp : Preserves h h') (i : Nat) :
    h'.observationsBehind i = h.observationsBehind i := by
  unfold History.observationsBehind
  simp only [hp.length_eq, History.isObservationAt_iff_map, hp.isObservation_eq]

namespace LongOutputs

variable {p p' : LongOutputs} {h : History} {i : Nat} {e : Entry}

/-- A long observation other than the task statement stands at position `i`. -/
def IsLongAt (p : LongOutputs) (h : History) (i : Nat) : Prop :=
  ∃ e, h[i]? = some e ∧ e.isObservation = true ∧ h.taskIndex? ≠ some i ∧ p.threshold < e.charLen

instance (p : LongOutputs) (h : History) (i : Nat) : Decidable (p.IsLongAt h i) :=
  inferInstanceAs (Decidable (∃ e ∈ h[i]?,
    e.isObservation = true ∧ h.taskIndex? ≠ some i ∧ p.threshold < e.charLen))

/-- How many of them stand at position `i` or behind it. -/
def longFrom (p : LongOutputs) (h : History) (i : Nat) : Nat :=
  ((Finset.Ico i h.length).filter (p.IsLongAt h)).card

theorem countP_drop_zipIdx {α : Type} (q : α × Nat → Bool) (P : Nat → Prop) [DecidablePred P] (l : List α)
    (i : Nat) (hP : ∀ j, P j ↔ ∃ a, l[j]? = some a ∧ q (a, j) = true) :
    (l.zipIdx.drop i).countP q = ((Finset.Ico i l.length).filter P).card := by
  -- No position occurs twice, so there are as many entries as positions.
  have hnodup : (((l.zipIdx.drop i).filter q).map Prod.snd).Nodup := by
    have hsub : ((l.zipIdx.drop i).filter q).Sublist l.zipIdx :=
      List.filter_sublist.trans (List.drop_sublist i _)
    exact (hsub.map Prod.snd).nodup (List.nodup_zipIdx_map_snd l)
  have hpositions : (((l.zipIdx.drop i).filter q).map Prod.snd).toFinset = (Finset.Ico i l.length).filter P := by
    ext j
    simp only [List.mem_toFinset, List.mem_map, List.mem_filter, Prod.exists, exists_eq_right,
      mem_drop_zipIdx_iff, Finset.mem_filter, Finset.mem_Ico, hP]
    constructor
    · rintro ⟨a, ⟨hij, ha⟩, hq⟩
      exact ⟨⟨hij, (List.getElem?_eq_some_iff.mp ha).1⟩, a, ha, hq⟩
    · rintro ⟨⟨hij, -⟩, a, ha, hq⟩
      exact ⟨a, ⟨hij, ha⟩, hq⟩
  rw [← hpositions, List.toFinset_card_of_nodup hnodup, List.length_map, List.countP_eq_length_filter]

/-! ## The rule -/

theorem isCandidate_iff {task : Option Nat} :
    p.isCandidate task e i = true ↔ e.isObservation = true ∧ task ≠ some i ∧ p.threshold < e.charLen := by
  rw [isCandidate, isLong, Bool.and_eq_true, Bool.and_eq_true, bne_iff_ne, decide_eq_true_eq, and_assoc,
    ne_comm]

theorem candidates_drop_zipIdx (p : LongOutputs) (h : History) (i : Nat) :
    p.candidates h.taskIndex? (h.zipIdx.drop i) = p.longFrom h i := by
  apply countP_drop_zipIdx
  intro j
  simp only [IsLongAt, isCandidate_iff]

theorem observations_drop_zipIdx (h : History) (i : Nat) :
    observations (h.zipIdx.drop (i + 1)) = h.observationsBehind i :=
  countP_drop_zipIdx _ h.IsObservationAt h (i + 1) fun _ => Iff.rfl

theorem dropsAt_iff (he : h[i]? = some e) :
    p.dropsAt h i e = true ↔
      p.IsLongAt h i ∧ (p.n < p.longFrom h i ∨ p.maxAge < h.observationsBehind i) := by
  have hcand : p.isCandidate h.taskIndex? e i = true ↔ p.IsLongAt h i := by
    rw [isCandidate_iff, IsLongAt, he]
    simp only [Option.some.injEq, exists_eq_left']
  rw [dropsAt, drops, Bool.and_eq_true, Bool.or_eq_true, decide_eq_true_eq, decide_eq_true_eq,
    observations_drop_zipIdx, hcand]
  apply and_congr_right
  intro hlong
  -- The output itself is one of those from its position on.
  have hcount : p.longFrom h i = p.candidates h.taskIndex? (h.zipIdx.drop (i + 1)) + 1 := by
    rw [← candidates_drop_zipIdx, drop_zipIdx_of_getElem? he, candidates_cons, if_pos (hcand.mpr hlong)]
  rw [hcount, Nat.lt_succ_iff]

/-- **What becomes of each entry**, whichever way the walk goes. An observation other than the task
statement with more characters than the threshold is omitted if more than `n` such observations stand at
its position or behind it, or more than `maxAge` observations of any length behind it. Every other entry
stays. -/
theorem run_follows_declared_rule (p : LongOutputs) (h : History) (i : Nat) :
    ((Processor.longOutputs p).run h)[i]? = h[i]?.map fun e =>
      if p.IsLongAt h i ∧ (p.n < p.longFrom h i ∨ p.maxAge < h.observationsBehind i) then
        e.withContent ("Old output omitted (" ++ toString e.lineCount ++ " lines)")
      else e := by
  rw [getElem?_run]
  cases he : h[i]? with
  | none => rfl
  | some e =>
    rw [Option.map_some, Option.map_some]
    by_cases hd : p.dropsAt h i e = true
    · rw [if_pos hd, if_pos ((dropsAt_iff he).mp hd)]
      rfl
    · rw [if_neg hd, if_neg (mt (dropsAt_iff he).mpr hd)]

/-! ## Wider bounds -/

theorem IsLongAt.mono (hthreshold : p.threshold ≤ p'.threshold) (hl : p'.IsLongAt h i) :
    p.IsLongAt h i := by
  obtain ⟨e, he, hobs, htask, hlong⟩ := hl
  exact ⟨e, he, hobs, htask, Nat.lt_of_le_of_lt hthreshold hlong⟩

theorem longFrom_mono (hthreshold : p.threshold ≤ p'.threshold) (h : History) (i : Nat) :
    p'.longFrom h i ≤ p.longFrom h i := by
  apply Finset.card_le_card
  intro j hj
  rw [Finset.mem_filter] at hj ⊢
  exact ⟨hj.1, hj.2.mono hthreshold⟩

theorem dropsAt_mono (hn : p.n ≤ p'.n) (hage : p.maxAge ≤ p'.maxAge)
    (hthreshold : p.threshold ≤ p'.threshold) (he : h[i]? = some e) (hd : p'.dropsAt h i e = true) :
    p.dropsAt h i e = true := by
  have hcount := longFrom_mono hthreshold h i
  rw [dropsAt_iff he] at hd ⊢
  refine ⟨hd.1.mono hthreshold, ?_⟩
  rcases hd.2 with hmany | hold
  · left; omega
  · right; omega

/-- **Wider bounds replace no entry that narrower ones leave**, whichever way each of the walks goes. What
the wider bounds drop the narrower ones drop, what the wider ones change they change into the same, and
what they leave the wider ones leave. -/
theorem wider_bounds_replace_less (hn : p.n ≤ p'.n) (hage : p.maxAge ≤ p'.maxAge)
    (hthreshold : p.threshold ≤ p'.threshold) (h : History) (i : Nat) :
    ((p'.mask h)[i]? = some true → (p.mask h)[i]? = some true) ∧
    (((Processor.longOutputs p').run h)[i]? ≠ h[i]? →
      ((Processor.longOutputs p).run h)[i]? ≠ h[i]? ∧
      ((Processor.longOutputs p).run h)[i]? = ((Processor.longOutputs p').run h)[i]?) ∧
    (((Processor.longOutputs p).run h)[i]? = h[i]? → ((Processor.longOutputs p').run h)[i]? = h[i]?) := by
  cases he : h[i]? with
  | none => simp [getElem?_mask, getElem?_run, he]
  | some e =>
    simp only [getElem?_mask, getElem?_run, he, Option.map_some, Option.some.injEq]
    by_cases hd' : p'.dropsAt h i e = true
    · have hd := dropsAt_mono hn hage hthreshold he hd'
      rw [if_pos hd', if_pos hd]
      exact ⟨fun _ => hd, fun hne => ⟨hne, rfl⟩, id⟩
    · rw [if_neg hd']
      exact ⟨fun hd => absurd hd hd', fun hne => absurd rfl hne, fun _ => rfl⟩

def ofThreeLengths : History := [
  { role := .user, content := "task" },
  { role := .user, content := "an output of thirty characters" },
  { role := .user, content := "sixteen of these" },
  { role := .user, content := "and the newest of these, which has forty" }]

/-- Room for one output of more than 15 characters. -/
def narrowBounds : LongOutputs := { n := 1, maxAge := 2, threshold := 15 }

/-- Room for one output of more than 25 characters. -/
def wideBounds : LongOutputs := { n := 1, maxAge := 9, threshold := 25, framing := .reverse }

/-- The narrow bounds replace two outputs. The wide ones replace the first of them, and the second is short
to them. -/
theorem wider_bounds_replace_less_ofThreeLengths :
    (narrowBounds.n ≤ wideBounds.n ∧ narrowBounds.maxAge ≤ wideBounds.maxAge ∧
      narrowBounds.threshold ≤ wideBounds.threshold) ∧
    ((Processor.longOutputs wideBounds).run ofThreeLengths)[1]? ≠ ofThreeLengths[1]? ∧
    ((Processor.longOutputs narrowBounds).run ofThreeLengths)[1]? =
      ((Processor.longOutputs wideBounds).run ofThreeLengths)[1]? ∧
    ((Processor.longOutputs narrowBounds).run ofThreeLengths)[2]? ≠ ofThreeLengths[2]? ∧
    ((Processor.longOutputs wideBounds).run ofThreeLengths)[2]? = ofThreeLengths[2]? := by
  have hbounds : narrowBounds.n ≤ wideBounds.n ∧ narrowBounds.maxAge ≤ wideBounds.maxAge ∧
      narrowBounds.threshold ≤ wideBounds.threshold := by decide
  have hreplaced : ((Processor.longOutputs wideBounds).run ofThreeLengths)[1]? ≠ ofThreeLengths[1]? := by
    decide
  have hsame := (wider_bounds_replace_less hbounds.1 hbounds.2.1 hbounds.2.2 ofThreeLengths 1).2.1 hreplaced
  exact ⟨hbounds, hreplaced, hsame.2, by decide, by decide⟩

/-! ## After a pass -/

/-- A notice is not long, so that what is long afterwards was long before and has been kept. -/
theorem IsLongAt.of_run (hshort : ∀ e ∈ h, e.isObservation = true → (omittedNotice e).length ≤ p.threshold)
    (hl : p.IsLongAt ((Processor.longOutputs p).run h) i) :
    p.IsLongAt h i ∧ p.longFrom h i ≤ p.n ∧ h.observationsBehind i ≤ p.maxAge := by
  obtain ⟨e', he', hobs, htask, hlong⟩ := hl
  have htask_eq : History.taskIndex? ((Processor.longOutputs p).run h) = h.taskIndex? :=
    (preserves_process p h).taskIndex?_eq
  rw [htask_eq] at htask
  rw [getElem?_run, Option.map_eq_some_iff] at he'
  obtain ⟨e, he, rfl⟩ := he'
  by_cases hd : p.dropsAt h i e = true
  · rw [if_pos hd] at hobs hlong
    have hnotice := hshort e (List.mem_of_getElem? he) hobs
    exact absurd hlong (Nat.not_lt_of_le hnotice)
  · rw [if_neg hd] at hobs hlong
    have hl : p.IsLongAt h i := ⟨e, he, hobs, htask, hlong⟩
    rw [dropsAt_iff he] at hd
    have hbounds : ¬ (p.n < p.longFrom h i ∨ p.maxAge < h.observationsBehind i) := fun hb => hd ⟨hl, hb⟩
    exact ⟨hl, by omega, by omega⟩

/-- The oldest long output that is left has been kept, and so there are at most `n` from its position on. -/
theorem longFrom_run_le (hshort : ∀ e ∈ h, e.isObservation = true → (omittedNotice e).length ≤ p.threshold)
    (i : Nat) : p.longFrom ((Processor.longOutputs p).run h) i ≤ p.n := by
  have hlen : ((Processor.longOutputs p).run h).length = h.length := (preserves_process p h).length_eq
  rcases Finset.eq_empty_or_nonempty ((Finset.Ico i h.length).filter
    (p.IsLongAt ((Processor.longOutputs p).run h))) with hnone | hsome
  · unfold longFrom
    rw [hlen, hnone]
    exact Nat.zero_le _
  · have hfirst := (Finset.mem_filter.mp (Finset.min'_mem _ hsome)).2.of_run hshort
    refine Nat.le_trans (Finset.card_le_card ?_) hfirst.2.1
    intro k hk
    rw [hlen] at hk
    have hjk := Finset.min'_le _ k hk
    rw [Finset.mem_filter, Finset.mem_Ico] at hk ⊢
    exact ⟨⟨hjk, hk.1.2⟩, (hk.2.of_run hshort).1⟩

end LongOutputs

end Compaction
