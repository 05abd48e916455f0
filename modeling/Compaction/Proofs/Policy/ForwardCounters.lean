import Compaction.Proofs.Policy.Bounds
import Mathlib.Data.Nat.PSub

/-!
# The counters of the walk from the oldest entry

The walk keeps two numbers: the observations that it has passed, which it takes from their total for the
age of an output, and the candidates ahead, from which it takes one at each candidate.

* `LongOutputs.forwardInv_take` : what the two say at each position;
* `LongOutputs.passed_add_observationsBehind`, `LongOutputs.ahead_eq_longFrom` : hence an observation, those
  passed and those behind it are all observations, and the candidates ahead are those from its position on;
* `LongOutputs.checkedStep` : a step that fails where a difference would be negative;
* `LongOutputs.ForwardInv.checkedStep_eq`, `LongOutputs.ForwardInv.foldlM_checkedStep` : no step of the walk
  fails, and so the whole walk does not;
* `LongOutputs.counters_never_underflow` : all differences are exact, and both counters end as they should.

The candidates are counted in a pass of their own, in front of the walk, by one condition, and the walk
finds them again by two conditions in turn. Were there an entry that only the walk takes for a candidate,
the count would run out before the last of them.
-/

namespace Compaction.LongOutputs

variable {p : LongOutputs} {h : History} {i : Nat} {e : Entry}

/-! ## The counters by position -/

theorem forwardInv_take (p : LongOutputs) (h : History) (i : Nat) :
    ForwardInv p h (p.forwardWalk h (h.zipIdx.take i)) (h.zipIdx.drop i) := by
  apply ForwardInv.foldl
  rw [List.take_append_drop]
  exact forwardInv_start

theorem passed_add_observationsBehind (he : h[i]? = some e) (hobs : e.isObservation = true) :
    (p.forwardWalk h (h.zipIdx.take i)).passed + 1 + h.observationsBehind i = h.observationCount := by
  have hinv := forwardInv_take p h i
  rw [drop_zipIdx_of_getElem? he] at hinv
  rw [← observations_drop_zipIdx]
  exact hinv.passed_of_isObservation hobs

theorem ahead_eq_longFrom (p : LongOutputs) (h : History) (i : Nat) :
    (p.forwardWalk h (h.zipIdx.take i)).ahead = p.longFrom h i := by
  rw [(forwardInv_take p h i).ahead, candidates_drop_zipIdx]

theorem IsLongAt.lt_length (hl : p.IsLongAt h i) : i < h.length := by
  obtain ⟨e, he, -⟩ := hl
  exact (List.getElem?_eq_some_iff.mp he).1

/-- A long output is one of those from its position on. -/
theorem IsLongAt.longFrom_pos (hl : p.IsLongAt h i) : 0 < p.longFrom h i := by
  have hmem : i ∈ (Finset.Ico i h.length).filter (p.IsLongAt h) :=
    Finset.mem_filter.mpr ⟨Finset.mem_Ico.mpr ⟨Nat.le_refl i, hl.lt_length⟩, hl⟩
  exact Finset.card_pos.mpr ⟨i, hmem⟩

/-! ## Differences that may fail -/

/-- One step with differences that fail where they would be negative. -/
def checkedStep (p : LongOutputs) (h : History) (w : Forward) (pair : Entry × Nat) : Option Forward :=
  let passed := w.passed + 1
  if !pair.1.isObservation then some { w with mask := false :: w.mask }
  else if some pair.2 == h.taskIndex? || !p.isLong pair.1 then
    some { w with passed, mask := false :: w.mask }
  else do
    let age ← Nat.psub h.observationCount passed
    let ahead ← Nat.ppred w.ahead
    return { passed, ahead, mask := (decide (p.n < w.ahead) || decide (p.maxAge < age)) :: w.mask }

theorem ForwardInv.checkedStep_eq {w : Forward} {pair : Entry × Nat} {rest : List (Entry × Nat)}
    (hw : ForwardInv p h w (pair :: rest)) : p.checkedStep h w pair = some (p.forwardStep h w pair) := by
  unfold checkedStep forwardStep
  split
  · rfl
  · rename_i hobs
    split
    · rfl
    · rename_i hreaches
      -- What both tests let through is what the pass in front of the walk has counted.
      have hcand : p.isCandidate h.taskIndex? pair.1 pair.2 = true := by
        simp only [Bool.not_eq_true', Bool.not_eq_false, Bool.or_eq_true, not_or] at hobs hreaches
        simp only [isCandidate, bne, hobs, hreaches, Bool.and_self, Bool.not_false]
      have hpassed := hw.passed_of_isObservation (isObservation_of_isCandidate hcand)
      have hahead := hw.ahead_of_isCandidate hcand
      have hage : Nat.psub h.observationCount (w.passed + 1) = some (h.observationCount - (w.passed + 1)) :=
        Nat.psub_eq_sub (by omega)
      have hrest : Nat.ppred w.ahead = some (w.ahead - 1) := Nat.ppred_eq_pred (by omega)
      simp only [hage, hrest]
      rfl

theorem ForwardInv.foldlM_checkedStep {w : Forward} {rest : List (Entry × Nat)}
    (hw : ForwardInv p h w rest) :
    rest.foldlM (p.checkedStep h) w = some (rest.foldl (p.forwardStep h) w) := by
  induction rest generalizing w with
  | nil => rfl
  | cons pair rest ih =>
    rw [List.foldlM_cons, hw.checkedStep_eq, List.foldl_cons]
    exact ih hw.step

/-- **No difference that the walk takes is below zero**, whatever the bounds. Where it computes an age, at a
long observation other than the task statement, it has not passed more observations than there are, and the
age is the number of observations behind that position. Where it takes one from the candidates ahead, there
is one. At the end it has passed all observations, and no candidate is ahead. So a walk that checks its
differences never fails, and comes to the same end. -/
theorem counters_never_underflow (p : LongOutputs) (h : History) :
    (∀ i e, h[i]? = some e → e.isObservation = true → h.taskIndex? ≠ some i → p.isLong e = true →
      (p.forwardWalk h (h.zipIdx.take i)).passed + 1 ≤ h.observationCount ∧
      h.observationCount - ((p.forwardWalk h (h.zipIdx.take i)).passed + 1) = h.observationsBehind i ∧
      1 ≤ (p.forwardWalk h (h.zipIdx.take i)).ahead) ∧
    (p.forwardWalk h h.zipIdx).passed = h.observationCount ∧
    (p.forwardWalk h h.zipIdx).ahead = 0 ∧
    h.zipIdx.foldlM (p.checkedStep h) (p.forwardStart h) = some (p.forwardWalk h h.zipIdx) := by
  have hend := forwardInv_take p h h.zipIdx.length
  rw [List.take_length, List.drop_length] at hend
  refine ⟨?_, hend.passed, hend.ahead, forwardInv_start.foldlM_checkedStep⟩
  intro i e he hobs htask hlong
  have hsum := passed_add_observationsBehind (p := p) he hobs
  have hlongAt : p.IsLongAt h i := ⟨e, he, hobs, htask, of_decide_eq_true hlong⟩
  refine ⟨by omega, by omega, ?_⟩
  rw [ahead_eq_longFrom]
  exact hlongAt.longFrom_pos

/-- A demonstration, the task statement, and two long outputs with a short one between them. -/
def shortBetween : History := [
  { role := .user, content := "a demonstration", isDemo := true },
  { role := .user, content := "the task statement" },
  { role := .assistant, content := "a first command" },
  { role := .user, content := "a long output" },
  { role := .user, content := "ok" },
  { role := .user, content := "another long output" }]

def keepNone : LongOutputs := { n := 0, maxAge := 0, threshold := 2 }

/-- At the first long output the walk has passed the task statement alone, and two of the four observations
lie behind. -/
theorem counters_never_underflow_shortBetween :
    (shortBetween[3]? = some { role := .user, content := "a long output" } ∧
      shortBetween.taskIndex? ≠ some 3 ∧ keepNone.isLong { role := .user, content := "a long output" } = true) ∧
    (keepNone.forwardWalk shortBetween (shortBetween.zipIdx.take 3)).passed + 1 ≤ 4 ∧
    4 - ((keepNone.forwardWalk shortBetween (shortBetween.zipIdx.take 3)).passed + 1) = 2 ∧
    1 ≤ (keepNone.forwardWalk shortBetween (shortBetween.zipIdx.take 3)).ahead ∧
    (keepNone.forwardWalk shortBetween shortBetween.zipIdx).passed = 4 ∧
    (keepNone.forwardWalk shortBetween shortBetween.zipIdx).ahead = 0 := by
  have hentry : shortBetween[3]? = some { role := .user, content := "a long output" } := by decide
  have htask : shortBetween.taskIndex? ≠ some 3 := by decide
  have hlong : keepNone.isLong { role := .user, content := "a long output" } = true := by decide
  have hcount : shortBetween.observationCount = 4 := by decide
  have hbehind : shortBetween.observationsBehind 3 = 2 := by decide
  obtain ⟨hsteps, hpassed, hahead, -⟩ := counters_never_underflow keepNone shortBetween
  obtain ⟨hle, hage, hpos⟩ := hsteps 3 _ hentry (by decide) htask hlong
  rw [hcount] at hle hage hpassed
  exact ⟨⟨hentry, htask, hlong⟩, hle, hage.trans hbehind, hpos, hpassed, hahead⟩

end Compaction.LongOutputs
