import Compaction.Policy.Revision

/-!
# The last outputs

Keeps the task statement and the last `n` observations; a line count stands for the others.

* `LastOutputs` : the policy, with its positive `n`;
* `LastOutputs.windowStart` : the rank of the first observation in the window of the last `n`;
* `LastOutputs.revisions` : the decision for each entry;
* `LastOutputs.process` : the policy at work.
-/

namespace Compaction

/-- The policy that keeps the task statement and the last `n` observations. -/
structure LastOutputs where
  n : Nat
  pos : 0 < n
  name : String := "last_n_observations"

namespace LastOutputs

/-- The rank of the first observation in the window of the last `n` of `total`. -/
def windowStart (p : LastOutputs) (total : Nat) : Nat := total - p.n + 1

/-- The task statement has rank 1 and stays, as does every observation in the window. -/
def keeps (p : LastOutputs) (total rank : Nat) : Bool :=
  rank == 1 || decide (p.windowStart total ≤ rank)

/-- The decision about one entry, given its rank among `total` observations. -/
def revision (p : LastOutputs) (total index : Nat) (e : Entry) : Option Nat → Option Revision
  | none => none
  | some rank =>
    if p.keeps total rank then none else some ⟨omittedNotice e, .outputOmitted rank index⟩

def revisions (p : LastOutputs) (h : History) : List (Option Revision) :=
  (h.zip h.numbering).mapIdx fun index pair =>
    p.revision h.observationCount index pair.1 pair.2

def process (p : LastOutputs) (h : History) : Outcome :=
  let decisions := p.revisions h
  .ofRevisions h decisions
    (.outputsSummary p.name (decisions.countP Option.isSome) h.observationCount p.n)

end LastOutputs

end Compaction
