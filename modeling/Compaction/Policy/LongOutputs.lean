import Compaction.Policy.Revision

/-!
# Long outputs

Short outputs cost little and stay. Counting back from the newest observation, a long output stays
only while fewer than `n` long outputs have been kept and it is at most `maxAge` observations old. Two
walks over the transcript make the decision:

* `LongOutputs.forwardWalk`, `LongOutputs.forwardMask` : oldest to newest, with the number of long
  outputs still ahead;
* `LongOutputs.backwardWalk`, `LongOutputs.backwardMask` : newest to oldest, with the number of long
  outputs already kept;
* `LongOutputs.process` : the policy, with either walk.
-/

namespace Compaction

inductive Framing where
  | forward
  | reverse
  deriving DecidableEq

namespace Framing

def label : Framing → String
  | forward => "forward"
  | reverse => "reverse"

def all : List Framing := [forward, reverse]

end Framing

structure LongOutputs where
  n : Nat
  /-- The age up to which a long output is kept; the newest observation has age 0. -/
  maxAge : Nat
  threshold : Nat := 200
  framing : Framing := .forward
  deriving DecidableEq

namespace LongOutputs

def name (p : LongOutputs) : String :=
  match p.framing with
  | .forward => "max_n_observations"
  | .reverse => "max_n_observations_reverse"

def isLong (p : LongOutputs) (e : Entry) : Bool := decide (p.threshold < e.charLen)

/-- A long observation other than the task statement, which stands at `task`. -/
def isCandidate (p : LongOutputs) (task : Option Nat) (e : Entry) (index : Nat) : Bool :=
  e.isObservation && some index != task && p.isLong e

/-! ## Oldest to newest -/

/-- The state of the walk from the oldest entry to the newest. -/
structure Forward where
  passed : Nat
  ahead : Nat
  /-- The decisions made, newest first: `true` drops the entry. -/
  mask : List Bool

/-- Before the first entry, all candidates lie ahead. -/
def forwardStart (p : LongOutputs) (h : History) : Forward where
  passed := 0
  ahead := h.zipIdx.countP fun pair => p.isCandidate h.taskIndex? pair.1 pair.2
  mask := []

/-- One step: a candidate is dropped if too many candidates, itself included, are still ahead, or if
too many observations follow it. -/
def forwardStep (p : LongOutputs) (h : History) (w : Forward) (pair : Entry × Nat) : Forward :=
  let passed := w.passed + 1
  if !pair.1.isObservation then { w with mask := false :: w.mask }
  else if some pair.2 == h.taskIndex? || !p.isLong pair.1 then
    { w with passed, mask := false :: w.mask }
  else
    let age := h.observationCount - passed
    { passed
      ahead := w.ahead - 1
      mask := (decide (p.n < w.ahead) || decide (p.maxAge < age)) :: w.mask }

/-- The walk over the first entries of `h`, as far as `pairs` goes. -/
def forwardWalk (p : LongOutputs) (h : History) (pairs : List (Entry × Nat)) : Forward :=
  pairs.foldl (p.forwardStep h) (p.forwardStart h)

/-- The decisions of the walk from the oldest entry to the newest. -/
def forwardMask (p : LongOutputs) (h : History) : List Bool :=
  (p.forwardWalk h h.zipIdx).mask.reverse

/-! ## Newest to oldest -/

/-- The state of the walk from the newest entry to the oldest. -/
structure Backward where
  age : Nat
  kept : Nat
  /-- The decisions made, oldest first: `true` drops the entry. -/
  mask : List Bool

/-- One step: a candidate is kept while fewer than `n` are kept and its age is within bounds. -/
def backwardStep (p : LongOutputs) (h : History) (pair : Entry × Nat) (w : Backward) : Backward :=
  if !pair.1.isObservation then { w with mask := false :: w.mask }
  else if some pair.2 != h.taskIndex? && p.isLong pair.1 then
    if w.kept < p.n ∧ w.age ≤ p.maxAge then
      { age := w.age + 1, kept := w.kept + 1, mask := false :: w.mask }
    else { w with age := w.age + 1, mask := true :: w.mask }
  else { w with age := w.age + 1, mask := false :: w.mask }

/-- The walk over the last entries of `h`, as far back as `pairs` goes. -/
def backwardWalk (p : LongOutputs) (h : History) (pairs : List (Entry × Nat)) : Backward :=
  pairs.foldr (p.backwardStep h) ⟨0, 0, []⟩

def backwardMask (p : LongOutputs) (h : History) : List Bool :=
  (p.backwardWalk h h.zipIdx).mask

/-! ## The policy -/

def mask (p : LongOutputs) (h : History) : List Bool :=
  match p.framing with
  | .forward => p.forwardMask h
  | .reverse => p.backwardMask h

def revisions (p : LongOutputs) (h : History) : List (Option Revision) :=
  (h.zip (p.mask h)).mapIdx fun index pair =>
    if pair.2 then some ⟨omittedNotice pair.1, .longOutputOmitted index pair.1.charLen⟩ else none

def process (p : LongOutputs) (h : History) : Outcome :=
  .ofRevisions h (p.revisions h)
    (.longOutputsSummary p.name ((p.mask h).countP id) h.observationCount p.n p.maxAge)

end LongOutputs

end Compaction
