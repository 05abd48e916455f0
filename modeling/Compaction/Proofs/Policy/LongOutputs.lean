import Compaction.Policy.LongOutputs
import Compaction.Proofs.Transcript.Protected
import Compaction.Processor

/-!
# The two walks over long outputs

* `LongOutputs.drops` : the rule for one entry, in terms of the entries behind it;
* `LongOutputs.rule` : the rule for all entries of a transcript, without a counter;
* `LongOutputs.ForwardInv`, `LongOutputs.BackwardInv` : what the counters of the walks say;
* `LongOutputs.forwardMask_eq_rule`, `LongOutputs.backwardMask_eq_rule` : both walks follow the rule;
* `LongOutputs.walks_agree` : so they make the same decisions, and the policies that differ in nothing
  but the walk return the same transcript;
* `LongOutputs.preserves_process` : the policy leaves protected entries alone.

The walk from the newest entry counts only the candidates that it keeps, and the rule counts all of
them. The two counts part at the first candidate that is dropped. From there on the age or the count
of kept candidates is beyond its bound, and neither ever falls again: what is kept is the newest part
of the candidates.
-/

namespace Compaction.LongOutputs

variable (p : LongOutputs) (h : History) (task : Option Nat)

/-! ## The rule -/

def candidates (pairs : List (Entry × Nat)) : Nat :=
  pairs.countP fun pair => p.isCandidate task pair.1 pair.2

def observations (pairs : List (Entry × Nat)) : Nat := pairs.countP fun pair => pair.1.isObservation

/-- An entry is dropped if it is a candidate with `n` candidates or more than `maxAge` observations
behind it. -/
def drops (pair : Entry × Nat) (later : List (Entry × Nat)) : Bool :=
  p.isCandidate task pair.1 pair.2 &&
    (decide (p.n ≤ p.candidates task later) || decide (p.maxAge < observations later))

/-- The rule for each of some entries at the end of a transcript. -/
def rule : List (Entry × Nat) → List Bool
  | [] => []
  | pair :: later => p.drops task pair later :: rule later

/-- The entries from a position on. -/
theorem mem_drop_zipIdx_iff {α : Type} {l : List α} {a : α} {i j : Nat} :
    (a, j) ∈ l.zipIdx.drop i ↔ i ≤ j ∧ l[j]? = some a := by
  rw [List.mem_iff_getElem?]
  simp only [List.getElem?_drop, List.getElem?_zipIdx, Nat.zero_add, Option.map_eq_some_iff,
    Prod.mk.injEq]
  constructor
  · rintro ⟨k, b, hb, rfl, rfl⟩
    exact ⟨Nat.le_add_right i k, hb⟩
  · rintro ⟨hij, ha⟩
    exact ⟨j - i, a, by rwa [Nat.add_sub_cancel' hij], rfl, Nat.add_sub_cancel' hij⟩

theorem drop_zipIdx_of_getElem? {α : Type} {l : List α} {a : α} {i : Nat} (ha : l[i]? = some a) :
    l.zipIdx.drop i = (a, i) :: l.zipIdx.drop (i + 1) := by
  obtain ⟨hi, rfl⟩ := List.getElem?_eq_some_iff.mp ha
  rw [List.drop_eq_getElem_cons (by rwa [List.length_zipIdx]), List.getElem_zipIdx, Nat.zero_add]

theorem isObservation_of_isCandidate {p : LongOutputs} {task : Option Nat} {e : Entry} {i : Nat}
    (hc : p.isCandidate task e i = true) : e.isObservation = true := by
  simp only [isCandidate, Bool.and_eq_true] at hc
  exact hc.1.1

theorem candidates_cons (pair : Entry × Nat) (later : List (Entry × Nat)) :
    p.candidates task (pair :: later) =
      p.candidates task later + if p.isCandidate task pair.1 pair.2 then 1 else 0 := by
  rw [candidates, candidates, List.countP_cons]

theorem observations_cons (pair : Entry × Nat) (later : List (Entry × Nat)) :
    observations (pair :: later) = observations later + if pair.1.isObservation then 1 else 0 := by
  rw [observations, observations, List.countP_cons]

theorem observations_zipIdx : observations h.zipIdx = h.observationCount := by
  have hfst : h.zipIdx.map Prod.fst = h := List.zipIdx_map_fst 0 h
  have hcount : observations h.zipIdx = History.observationCount (h.zipIdx.map Prod.fst) := by
    rw [History.observationCount, List.countP_map]
    rfl
  rw [hcount, hfst]

theorem length_rule (pairs : List (Entry × Nat)) : (p.rule task pairs).length = pairs.length := by
  induction pairs with
  | nil => rfl
  | cons pair later ih => rw [rule, List.length_cons, List.length_cons, ih]

theorem getElem?_rule (pairs : List (Entry × Nat)) (i : Nat) :
    (p.rule task pairs)[i]? = pairs[i]?.map fun pair => p.drops task pair (pairs.drop (i + 1)) := by
  induction pairs generalizing i with
  | nil => rfl
  | cons pair later ih =>
    cases i with
    | zero => rfl
    | succ i => exact ih i

/-- The rule does not depend on the walk. -/
theorem rule_framing (framing : Framing) (pairs : List (Entry × Nat)) :
    rule { p with framing } task pairs = p.rule task pairs := by
  induction pairs with
  | nil => rfl
  | cons pair later ih =>
    rw [rule, rule, ih]
    rfl

/-! ## Oldest to newest -/

variable {p h task}

/-- The walk has come as far as `rest`: it has passed all other observations, and the candidates that
it takes to lie ahead are those in `rest`. -/
structure ForwardInv (p : LongOutputs) (h : History) (w : Forward) (rest : List (Entry × Nat)) :
    Prop where
  passed : w.passed + observations rest = h.observationCount
  ahead : w.ahead = p.candidates h.taskIndex? rest

theorem forwardInv_start : ForwardInv p h (p.forwardStart h) h.zipIdx where
  passed := by rw [observations_zipIdx]; exact Nat.zero_add _
  ahead := rfl

/-- One step without its branches: an entry that is no candidate only counts if it is an observation. -/
theorem forwardStep_eq (w : Forward) (pair : Entry × Nat) :
    p.forwardStep h w pair =
      { passed := w.passed + if pair.1.isObservation then 1 else 0
        ahead := w.ahead - if p.isCandidate h.taskIndex? pair.1 pair.2 then 1 else 0
        mask := (p.isCandidate h.taskIndex? pair.1 pair.2 && (decide (p.n < w.ahead) ||
          decide (p.maxAge < h.observationCount - (w.passed + 1)))) :: w.mask } := by
  unfold forwardStep isCandidate
  cases pair.1.isObservation <;> cases htask : (some pair.2 == h.taskIndex?) <;>
    cases p.isLong pair.1 <;> simp [bne, htask]

theorem ForwardInv.step {w : Forward} {pair : Entry × Nat} {rest : List (Entry × Nat)}
    (hw : ForwardInv p h w (pair :: rest)) : ForwardInv p h (p.forwardStep h w pair) rest where
  passed := by
    have hpassed := hw.passed
    rw [observations_cons] at hpassed
    rw [forwardStep_eq]
    show w.passed + _ + observations rest = h.observationCount
    omega
  ahead := by
    have hahead := hw.ahead
    rw [candidates_cons] at hahead
    rw [forwardStep_eq]
    show w.ahead - _ = p.candidates h.taskIndex? rest
    omega

theorem ForwardInv.passed_of_isObservation {w : Forward} {pair : Entry × Nat} {rest : List (Entry × Nat)}
    (hw : ForwardInv p h w (pair :: rest)) (hobs : pair.1.isObservation = true) :
    w.passed + 1 + observations rest = h.observationCount := by
  have hpassed := hw.passed
  rw [observations_cons, if_pos hobs] at hpassed
  omega

theorem ForwardInv.ahead_of_isCandidate {w : Forward} {pair : Entry × Nat} {rest : List (Entry × Nat)}
    (hw : ForwardInv p h w (pair :: rest)) (hcand : p.isCandidate h.taskIndex? pair.1 pair.2 = true) :
    w.ahead = p.candidates h.taskIndex? rest + 1 := by
  rw [hw.ahead, candidates_cons, if_pos hcand]

theorem ForwardInv.mask_step {w : Forward} {pair : Entry × Nat} {rest : List (Entry × Nat)}
    (hw : ForwardInv p h w (pair :: rest)) :
    (p.forwardStep h w pair).mask = p.drops h.taskIndex? pair rest :: w.mask := by
  rw [forwardStep_eq, drops]
  cases hcand : p.isCandidate h.taskIndex? pair.1 pair.2 with
  | false => rfl
  | true =>
    have hpassed := hw.passed_of_isObservation (isObservation_of_isCandidate hcand)
    have hage : h.observationCount - (w.passed + 1) = observations rest := by omega
    simp only [hage, hw.ahead_of_isCandidate hcand, Nat.lt_succ_iff]

/-- What the counters say holds wherever the walk has come. -/
theorem ForwardInv.foldl {w : Forward} {before rest : List (Entry × Nat)}
    (hw : ForwardInv p h w (before ++ rest)) : ForwardInv p h (before.foldl (p.forwardStep h) w) rest := by
  induction before generalizing w with
  | nil => exact hw
  | cons pair before ih => exact ih hw.step

theorem ForwardInv.mask_foldl {w : Forward} {rest : List (Entry × Nat)} (hw : ForwardInv p h w rest) :
    (rest.foldl (p.forwardStep h) w).mask = (p.rule h.taskIndex? rest).reverse ++ w.mask := by
  induction rest generalizing w with
  | nil => rfl
  | cons pair rest ih =>
    rw [List.foldl_cons, ih hw.step, hw.mask_step, rule, List.reverse_cons, List.append_assoc]
    rfl

theorem forwardMask_eq_rule : p.forwardMask h = p.rule h.taskIndex? h.zipIdx := by
  have hmask : (p.forwardWalk h h.zipIdx).mask = (p.rule h.taskIndex? h.zipIdx).reverse ++ [] :=
    forwardInv_start.mask_foldl
  rw [forwardMask, hmask, List.append_nil, List.reverse_reverse]

/-! ## Newest to oldest -/

/-- The walk has gone back over the entries `later`: the candidates that it has kept are all of them,
unless one of the two bounds is reached. -/
structure BackwardInv (p : LongOutputs) (task : Option Nat) (w : Backward)
    (later : List (Entry × Nat)) : Prop where
  age : w.age = observations later
  kept_le : w.kept ≤ p.candidates task later
  kept_eq : w.kept = p.candidates task later ∨ p.n ≤ w.kept ∨ p.maxAge < w.age

/-- One step without its branches. -/
theorem backwardStep_eq (w : Backward) (pair : Entry × Nat) :
    p.backwardStep h pair w =
      { age := w.age + if pair.1.isObservation then 1 else 0
        kept := w.kept + if p.isCandidate h.taskIndex? pair.1 pair.2 ∧ w.kept < p.n ∧
          w.age ≤ p.maxAge then 1 else 0
        mask := (p.isCandidate h.taskIndex? pair.1 pair.2 &&
          !decide (w.kept < p.n ∧ w.age ≤ p.maxAge)) :: w.mask } := by
  unfold backwardStep isCandidate
  by_cases hkeep : w.kept < p.n ∧ w.age ≤ p.maxAge <;>
    cases pair.1.isObservation <;> cases htask : (some pair.2 == h.taskIndex?) <;>
      cases p.isLong pair.1 <;> simp [bne, htask, hkeep]

theorem BackwardInv.step {w : Backward} {pair : Entry × Nat} {later : List (Entry × Nat)}
    (hw : BackwardInv p h.taskIndex? w later) :
    BackwardInv p h.taskIndex? (p.backwardStep h pair w) (pair :: later) := by
  obtain ⟨hage, hle, hkept⟩ := hw
  have hcandidates := p.candidates_cons h.taskIndex? pair later
  have hage' : (p.backwardStep h pair w).age = w.age + if pair.1.isObservation then 1 else 0 := by
    rw [backwardStep_eq]
  have hkept' : (p.backwardStep h pair w).kept = w.kept +
      if p.isCandidate h.taskIndex? pair.1 pair.2 ∧ w.kept < p.n ∧ w.age ≤ p.maxAge then 1 else 0 := by
    rw [backwardStep_eq]
  by_cases hcand : p.isCandidate h.taskIndex? pair.1 pair.2 = true
  · rw [if_pos hcand] at hcandidates
    by_cases hkeep : w.kept < p.n ∧ w.age ≤ p.maxAge
    · rw [if_pos ⟨hcand, hkeep⟩] at hkept'
      exact ⟨by rw [hage', observations_cons, hage], by omega, by omega⟩
    · rw [if_neg fun hk => hkeep hk.2] at hkept'
      exact ⟨by rw [hage', observations_cons, hage], by omega, by omega⟩
  · rw [if_neg hcand] at hcandidates
    rw [if_neg fun hk => hcand hk.1] at hkept'
    exact ⟨by rw [hage', observations_cons, hage], by omega, by omega⟩

/-- The two counts lead to the same decision, because a bound that is reached stays reached. -/
theorem BackwardInv.mask_step {w : Backward} {pair : Entry × Nat} {later : List (Entry × Nat)}
    (hw : BackwardInv p h.taskIndex? w later) :
    (p.backwardStep h pair w).mask = p.drops h.taskIndex? pair later :: w.mask := by
  obtain ⟨hage, hle, hkept⟩ := hw
  have hbounds : (w.kept < p.n ∧ w.age ≤ p.maxAge) ↔
      ¬ (p.n ≤ p.candidates h.taskIndex? later ∨ p.maxAge < observations later) := by
    omega
  rw [backwardStep_eq, drops]
  simp only [hbounds, decide_not, Bool.not_not, Bool.decide_or]

theorem backwardWalk_spec (pairs : List (Entry × Nat)) :
    BackwardInv p h.taskIndex? (p.backwardWalk h pairs) pairs ∧
      (p.backwardWalk h pairs).mask = p.rule h.taskIndex? pairs := by
  induction pairs with
  | nil => exact ⟨⟨rfl, Nat.le_refl 0, Or.inl rfl⟩, rfl⟩
  | cons pair later ih =>
    obtain ⟨hinv, hmask⟩ := ih
    exact ⟨hinv.step, hinv.mask_step.trans (by rw [hmask, rule])⟩

theorem backwardMask_eq_rule : p.backwardMask h = p.rule h.taskIndex? h.zipIdx :=
  (backwardWalk_spec h.zipIdx).2

/-! ## The policy -/

theorem mask_eq_rule : p.mask h = p.rule h.taskIndex? h.zipIdx := by
  unfold mask
  cases p.framing with
  | forward => exact forwardMask_eq_rule
  | reverse => exact backwardMask_eq_rule

def dropsAt (p : LongOutputs) (h : History) (i : Nat) (e : Entry) : Bool :=
  p.drops h.taskIndex? (e, i) (h.zipIdx.drop (i + 1))

theorem getElem?_mask (i : Nat) : (p.mask h)[i]? = h[i]?.map (p.dropsAt h i) := by
  rw [mask_eq_rule, getElem?_rule, List.getElem?_zipIdx, Option.map_map, Nat.zero_add]
  rfl

theorem length_mask : (p.mask h).length = h.length := by
  rw [mask_eq_rule, length_rule, List.length_zipIdx]

theorem getElem?_revisions (i : Nat) :
    (p.revisions h)[i]? = h[i]?.map fun e =>
      if p.dropsAt h i e then some ⟨omittedNotice e, .longOutputOmitted i e.charLen⟩ else none := by
  rw [revisions, List.getElem?_mapIdx, List.zip, List.getElem?_zipWith, getElem?_mask]
  cases h[i]? <;> rfl

theorem replaceable_of_revisions {i : Nat} {r : Revision}
    (hr : (p.revisions h)[i]? = some (some r)) : h.Replaceable i := by
  rw [getElem?_revisions, Option.map_eq_some_iff] at hr
  obtain ⟨e, he, hr⟩ := hr
  split at hr
  · rename_i hdrop
    simp only [dropsAt, drops, isCandidate, Bool.and_eq_true, bne_iff_ne] at hdrop
    exact ⟨e, he, hdrop.1.1.1, fun htask => hdrop.1.1.2 htask.symm⟩
  · simp at hr

theorem length_revisions : (p.revisions h).length = h.length := by
  rw [revisions, List.length_mapIdx, List.length_zip, length_mask, Nat.min_self]

theorem preserves_process (p : LongOutputs) (h : History) : Preserves h (p.process h).history :=
  Preserves.revise length_revisions fun _ _ hr => replaceable_of_revisions hr

/-- **Both walks decide alike about every entry**, whatever the bounds. Two policies that differ in the
walk only return the same transcript. -/
theorem walks_agree (p : LongOutputs) (h : History) :
    (p.forwardMask h).length = h.length ∧ p.forwardMask h = p.backwardMask h ∧
      (Processor.longOutputs { p with framing := .forward }).run h =
        (Processor.longOutputs { p with framing := .reverse }).run h := by
  have hmask : p.forwardMask h = p.backwardMask h := forwardMask_eq_rule.trans backwardMask_eq_rule.symm
  refine ⟨?_, hmask, ?_⟩
  · rw [forwardMask_eq_rule, length_rule, List.length_zipIdx]
  · have hrevisions : revisions { p with framing := .forward } h =
        revisions { p with framing := .reverse } h := by
      rw [revisions, revisions, mask_eq_rule, mask_eq_rule, rule_framing p _ .forward,
        rule_framing p _ .reverse]
    show h.revise _ = h.revise _
    rw [hrevisions]

end Compaction.LongOutputs
