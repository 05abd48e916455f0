import Compaction.Processor

/-!
# Pipelines as sequences of stages

* `AnyProcessor.run_pipeline` : stages of any kind run one after another;
* `Processor.induction_stages` : induction over processors, with a hypothesis for each stage;
* `Processor.run_pipeline` : the stages of a pipeline run one after another on the transcript;
* `Processor.run_pipeline_rel`, `Processor.run_rel` : what each stage does to a transcript, a pipeline does,
  and what each policy does, every processor does, if it holds of no change and of two changes in a row;
* `Processor.leaves` : the processors in a pipeline that are no pipelines themselves, however deep
  (`Processor.ne_pipeline_of_mem_leaves`);
* `Processor.run_eq_foldl_leaves` : they run one after another on the transcript, whatever the nesting.
-/

namespace Compaction

/-! ## Stages of any kind -/

namespace AnyProcessor

def runAll (stages : List AnyProcessor) (h : History) : History := stages.foldl (fun h stage => stage.run h) h

theorem runAll_cons (stage : AnyProcessor) (stages : List AnyProcessor) (h : History) :
    runAll (stage :: stages) h = runAll stages (stage.run h) := rfl

theorem runAll_append (stages stages' : List AnyProcessor) (h : History) :
    runAll (stages ++ stages') h = runAll stages' (runAll stages h) := List.foldl_append

theorem history_processStages (pipelineName : String) (stages : List AnyProcessor) (h : History) :
    (processStages pipelineName stages h).history = runAll stages h := by
  induction stages generalizing h with
  | nil => rfl
  | cons stage stages ih => rw [processStages, ih, runAll_cons, run]

theorem run_pipeline (name : String) (stages : List AnyProcessor) (h : History) :
    (pipeline name stages).run h = runAll stages h :=
  history_processStages name stages h

end AnyProcessor

/-! ## Processors -/

namespace Processor

@[elab_as_elim, induction_eliminator]
theorem induction_stages {motive : Processor → Prop} (identity : motive .identity)
    (failedEdits : ∀ policy, motive (.failedEdits policy))
    (lastOutputs : ∀ policy, motive (.lastOutputs policy))
    (longOutputs : ∀ policy, motive (.longOutputs policy)) (staleWindows : motive .staleWindows)
    (pipeline : ∀ name stages, (∀ stage ∈ stages, motive stage) → motive (.pipeline name stages)) :
    ∀ p, motive p :=
  @Processor.rec motive (fun stages => ∀ stage ∈ stages, motive stage) identity failedEdits
    lastOutputs longOutputs staleWindows (fun name stages ih => pipeline name stages ih)
    (fun _ hmem => absurd hmem List.not_mem_nil)
    (fun _ _ ihStage ihStages => List.forall_mem_cons.mpr ⟨ihStage, ihStages⟩)

theorem run_toAny (p : Processor) : p.toAny.run = p.run := rfl

theorem toAny_pipeline (name : String) (stages : List Processor) :
    (pipeline name stages).toAny = .pipeline name (stages.map toAny) := by
  rw [toAny, process_pipeline]
  rfl

theorem run_pipeline (name : String) (stages : List Processor) (h : History) :
    (pipeline name stages).run h = stages.foldl (fun h stage => stage.run h) h := by
  rw [← run_toAny, toAny_pipeline, AnyProcessor.run_pipeline, AnyProcessor.runAll, List.foldl_map]
  rfl

section
variable {R : History → History → Prop} (refl : ∀ h, R h h)
  (trans : ∀ {h₁ h₂ h₃}, R h₁ h₂ → R h₂ h₃ → R h₁ h₃)
include refl trans

theorem run_pipeline_rel {stages : List Processor} (hstages : ∀ stage ∈ stages, ∀ h, R h (stage.run h))
    (name : String) (h : History) : R h ((pipeline name stages).run h) := by
  rw [run_pipeline]
  refine List.foldlRecOn _ _ (refl h) ?_
  intro g hg stage hstage
  exact trans hg (hstages stage hstage g)

/-- A relation that each policy establishes between a transcript and its compaction, and that is
reflexive and transitive, holds for every processor. -/
theorem run_rel (failedEdits : ∀ policy h, R h ((failedEdits policy).run h))
    (lastOutputs : ∀ policy h, R h ((lastOutputs policy).run h))
    (longOutputs : ∀ policy h, R h ((longOutputs policy).run h))
    (staleWindows : ∀ h, R h (staleWindows.run h)) (p : Processor) (h : History) : R h (p.run h) := by
  induction p generalizing h with
  | identity => exact refl h
  | failedEdits policy => exact failedEdits policy h
  | lastOutputs policy => exact lastOutputs policy h
  | longOutputs policy => exact longOutputs policy h
  | staleWindows => exact staleWindows h
  | pipeline name stages ih => exact run_pipeline_rel refl trans ih name h

end

/-! ## Nested pipelines -/

mutual

/-- The processors in a processor that are no pipelines, in the order in which they run. -/
def leaves : Processor → List Processor
  | identity => [identity]
  | failedEdits policy => [failedEdits policy]
  | lastOutputs policy => [lastOutputs policy]
  | longOutputs policy => [longOutputs policy]
  | staleWindows => [staleWindows]
  | pipeline _ stages => leavesOfStages stages

def leavesOfStages : List Processor → List Processor
  | [] => []
  | stage :: stages => stage.leaves ++ leavesOfStages stages

end

theorem leaves_pipeline (name : String) (stages : List Processor) :
    (pipeline name stages).leaves = stages.flatMap leaves := by
  rw [leaves]
  induction stages with
  | nil => rfl
  | cons stage stages ih => rw [leavesOfStages, ih, List.flatMap_cons]

theorem ne_pipeline_of_mem_leaves {p leaf : Processor} (hmem : leaf ∈ p.leaves) (name : String)
    (stages : List Processor) : leaf ≠ .pipeline name stages := by
  induction p with
  | pipeline name' stages' ih =>
    rw [leaves_pipeline, List.mem_flatMap] at hmem
    obtain ⟨stage, hstage, hleaf⟩ := hmem
    exact ih stage hstage hleaf
  | _ =>
    obtain rfl := List.mem_singleton.mp hmem
    exact Processor.noConfusion

/-- Nesting does not matter: the leaves run one after another. -/
theorem run_eq_foldl_leaves (p : Processor) (h : History) :
    p.run h = p.leaves.foldl (fun h leaf => leaf.run h) h := by
  induction p generalizing h with
  | pipeline name stages ih =>
    rw [run_pipeline, leaves_pipeline, List.foldl_flatMap]
    refine List.foldl_rel (r := Eq) rfl fun stage hstage h h' heq => ?_
    rw [heq, ih stage hstage]
  | _ => rfl

end Processor

end Compaction
