import Compaction.Policy.FailedEdits
import Compaction.Policy.LastOutputs
import Compaction.Policy.LongOutputs
import Compaction.Policy.StaleWindows
import Compaction.Text.Quoted

/-!
# Processors

* `AnyProcessor` : whatever can be a stage of a pipeline, also if it is not built in;
* `AnyProcessor.pipeline` : feeds each stage the transcript that the stage before it returned, and reports each stage
  after the stage's own events;
* `Processor` : a policy, or a pipeline of processors, which may nest;
* `Processor.name`, `Processor.process` : the name under which a processor reports, and its outcome on a transcript
  (`Processor.process_pipeline`);
* `Processor.toAny` : the processor as a stage among any others;
* `Pipeline` : a pipeline by itself, as a config builds it;
* `Processor.description`, `Pipeline.description` : their texts for diagnostics.
-/

namespace Compaction

/-! ## Stages of any kind -/

/-- Whatever can be a stage: a name to report under, and an outcome on each transcript. -/
structure AnyProcessor where
  name : String
  process : History → Outcome

namespace AnyProcessor

def run (p : AnyProcessor) (h : History) : History := (p.process h).history

def processStages (pipelineName : String) : List AnyProcessor → History → Outcome
  | [], h => ⟨h, []⟩
  | stage :: stages, h =>
    let first := stage.process h
    let rest := processStages pipelineName stages first.history
    let done := Event.stageDone pipelineName stage.name (Stats.between h first.history)
    ⟨rest.history, first.events ++ done :: rest.events⟩

/-- Runs its stages one after another. -/
def pipeline (name : String) (stages : List AnyProcessor) : AnyProcessor := ⟨name, processStages name stages⟩

end AnyProcessor

/-! ## Built-in processors -/

inductive Processor where
  | identity
  | failedEdits (policy : FailedEdits)
  | lastOutputs (policy : LastOutputs)
  | longOutputs (policy : LongOutputs)
  | staleWindows
  | pipeline (name : String) (stages : List Processor)

namespace Processor

def name : Processor → String
  | identity => "default"
  | failedEdits _ => "strip_failed_edits"
  | lastOutputs policy => policy.name
  | longOutputs policy => policy.name
  | staleWindows => "closed_window"
  | pipeline name _ => name

mutual

def process : Processor → History → Outcome
  | identity, h => ⟨h, []⟩
  | failedEdits policy, h => policy.process h
  | lastOutputs policy, h => policy.process h
  | longOutputs policy, h => policy.process h
  | staleWindows, h => StaleWindows.process h
  | pipeline name stages, h => (AnyProcessor.pipeline name (toAnyAll stages)).process h

def toAnyAll : List Processor → List AnyProcessor
  | [] => []
  | stage :: stages => ⟨stage.name, fun h => stage.process h⟩ :: toAnyAll stages

end

/-- A processor as a stage among any others. -/
def toAny (p : Processor) : AnyProcessor := ⟨p.name, p.process⟩

theorem toAnyAll_eq_map (stages : List Processor) : toAnyAll stages = stages.map toAny := by
  induction stages with
  | nil => rfl
  | cons stage stages ih => rw [toAnyAll, ih, List.map_cons, toAny]

/-- A pipeline of processors is the pipeline of them as stages of any kind. -/
theorem process_pipeline (name : String) (stages : List Processor) :
    (pipeline name stages).process = (AnyProcessor.pipeline name (stages.map toAny)).process := by
  funext h
  rw [process, toAnyAll_eq_map]

def run (p : Processor) (h : History) : History := (p.process h).history

def description (p : Processor) : String :=
  "HistoryProcessor \x7b name: " ++ Text.quoted p.name ++ " \x7d"

end Processor

/-! ## Pipelines -/

/-- A named sequence of processors of some kind, in the order in which they run. -/
structure Pipeline (α : Type := Processor) where
  name : String := "pipeline"
  stages : List α := []

namespace Pipeline

def push {α : Type} (p : Pipeline α) (stage : α) : Pipeline α := { p with stages := p.stages ++ [stage] }

/-- The pipeline as a processor, for instance as a stage of another one. -/
def toProcessor (p : Pipeline) : Processor := .pipeline p.name p.stages

def stageNames (p : Pipeline) : List String := p.stages.map Processor.name

def process (p : Pipeline) (h : History) : Outcome := p.toProcessor.process h

def description (p : Pipeline) : String :=
  "Pipeline \x7b name: " ++ Text.quoted p.name ++ ", processors: ["
    ++ ", ".intercalate (p.stages.map Processor.description) ++ "] \x7d"

end Pipeline

end Compaction
