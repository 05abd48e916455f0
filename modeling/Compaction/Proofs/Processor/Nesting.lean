import Compaction.Proofs.Processor.Stages
import Mathlib.Data.List.Basic

/-!
# Pipelines nested to any depth

* `Tree` : pipelines nested to any depth, with `Tree.toAny`, the stage that a tree is, and `Tree.leaves`;
* `Tree.run_eq_foldl_leaves` : the leaves run one after another, whatever the nesting;
* `Processor.toTree` : the nesting of a processor (`Processor.toAny_toTree`, `Processor.leaves_toTree`).
-/

namespace Compaction

/-! ## Trees -/

inductive Tree where
  | leaf (p : AnyProcessor)
  | pipeline (name : String) (stages : List Tree)

namespace Tree

@[elab_as_elim, induction_eliminator]
theorem induction_stages {motive : Tree → Prop} (leaf : ∀ p, motive (.leaf p))
    (pipeline : ∀ name stages, (∀ stage ∈ stages, motive stage) → motive (.pipeline name stages)) : ∀ t, motive t :=
  @Tree.rec motive (fun stages => ∀ stage ∈ stages, motive stage) leaf
    (fun name stages ih => pipeline name stages ih) (fun _ hmem => absurd hmem List.not_mem_nil)
    (fun _ _ ihStage ihStages => List.forall_mem_cons.mpr ⟨ihStage, ihStages⟩)

mutual

def toAny : Tree → AnyProcessor
  | leaf p => p
  | pipeline name stages => .pipeline name (toAnyAll stages)

def toAnyAll : List Tree → List AnyProcessor
  | [] => []
  | t :: ts => t.toAny :: toAnyAll ts

end

mutual

def leaves : Tree → List AnyProcessor
  | leaf p => [p]
  | pipeline _ stages => leavesAll stages

def leavesAll : List Tree → List AnyProcessor
  | [] => []
  | t :: ts => t.leaves ++ leavesAll ts

end

theorem toAny_pipeline (name : String) (stages : List Tree) :
    (pipeline name stages).toAny = .pipeline name (stages.map toAny) := by
  rw [toAny]
  congr 1
  induction stages with
  | nil => rfl
  | cons stage stages ih => rw [toAnyAll, ih, List.map_cons]

theorem leaves_pipeline (name : String) (stages : List Tree) :
    (pipeline name stages).leaves = stages.flatMap leaves := by
  rw [leaves]
  induction stages with
  | nil => rfl
  | cons stage stages ih => rw [leavesAll, ih, List.flatMap_cons]

def run (t : Tree) (h : History) : History := t.toAny.run h

theorem run_pipeline (name : String) (stages : List Tree) (h : History) :
    (pipeline name stages).run h = AnyProcessor.runAll (stages.map toAny) h := by
  rw [run, toAny_pipeline, AnyProcessor.run_pipeline]

/-- Nesting does not matter: the leaves run one after another. -/
theorem run_eq_foldl_leaves (t : Tree) (h : History) : t.run h = AnyProcessor.runAll t.leaves h := by
  induction t generalizing h with
  | leaf p => rfl
  | pipeline name stages ih =>
    rw [run_pipeline, leaves_pipeline]
    induction stages generalizing h with
    | nil => rfl
    | cons stage stages ihStages =>
      obtain ⟨hstage, hstages⟩ := List.forall_mem_cons.mp ih
      rw [List.map_cons, AnyProcessor.runAll_cons, List.flatMap_cons, AnyProcessor.runAll_append, ← hstage h]
      exact ihStages hstages (stage.run h)

end Tree

/-! ## The nesting of a processor -/

namespace Processor

mutual

/-- The nesting of a processor, whose policies are the leaves. -/
def toTree : Processor → Tree
  | identity => .leaf identity.toAny
  | failedEdits policy => .leaf (failedEdits policy).toAny
  | lastOutputs policy => .leaf (lastOutputs policy).toAny
  | longOutputs policy => .leaf (longOutputs policy).toAny
  | staleWindows => .leaf staleWindows.toAny
  | pipeline name stages => .pipeline name (toTreeAll stages)

def toTreeAll : List Processor → List Tree
  | [] => []
  | stage :: stages => stage.toTree :: toTreeAll stages

end

theorem toTree_pipeline (name : String) (stages : List Processor) :
    (pipeline name stages).toTree = .pipeline name (stages.map toTree) := by
  rw [toTree]
  congr 1
  induction stages with
  | nil => rfl
  | cons stage stages ih => rw [toTreeAll, ih, List.map_cons]

/-- A processor and its tree are the same stage: they report alike, and their outcomes are equal. -/
theorem toAny_toTree (p : Processor) : p.toTree.toAny = p.toAny := by
  induction p with
  | pipeline name stages ih =>
    rw [toTree_pipeline, Tree.toAny_pipeline, List.map_map, toAny_pipeline]
    congr 1
    exact List.map_congr_left ih
  | _ => rfl

theorem leaves_toTree (p : Processor) : p.toTree.leaves = p.leaves.map toAny := by
  induction p with
  | pipeline name stages ih =>
    rw [toTree_pipeline, Tree.leaves_pipeline, leaves_pipeline, List.flatMap_map, List.map_flatMap]
    exact List.flatMap_congr ih
  | _ => rfl

end Processor

end Compaction
