import Compaction.Command.Files
import Compaction.Command.Log
import Compaction.Command.Options
import Compaction.Transcript.Codec

/-!
# Commands

* `World` : what a command can read;
* `Result` : what a command leaves behind;
* `loadConfig`, `readInput` : the stages and the transcript of a command;
* `compact` : the transcript before and after the pipeline, up to the first error;
* `execute` : the command that options ask for;
* `run` : the command of a list of words; words that are no proper use lead to exit code 2.
-/

namespace Compaction.Command

/-- What a command can read. -/
structure World where
  files : Files := []
  stdin : Place := .text ""
  logFilter : Option String := none

/-- What a command leaves behind. The standard output and the standard error take what is written to them: that either of
them may be closed or full is left out. -/
structure Result where
  exitCode : Nat
  stdout : String := ""
  stderr : String := ""
  files : Files

def loadConfig (o : Options) (files : Files) : Except Error (Config × List Event) :=
  match o.config with
  | none => .ok (o.stages, [])
  | some path =>
    match files.read path with
    | .error fault => .error (.config (.file path fault))
    | .ok text => do
      let config ← Config.ofText text
      return (config, [.configLoaded path config.stages.length])

def readInput (o : Options) (w : World) : Except Error History := do
  let read := match o.input with
    | some path => w.files.read path
    | none => w.stdin.read
  let text ← read.mapError .io
  (History.ofText text).mapError .json

structure Compacted where
  stages : Nat
  before : History
  after : History

def Compacted.stats (c : Compacted) : Stats := .between c.before c.after

/-- Builds the pipeline of a command and runs it on the transcript, up to the first error, and reports
what happened until then. -/
def compact (o : Options) (w : World) : List Event × Except Error Compacted :=
  match loadConfig o w.files with
  | .error e => ([], .error e)
  | .ok (config, loaded) =>
    match config.build with
    | .error e => (loaded, .error e)
    | .ok pipeline =>
      match readInput o w with
      | .error e => (loaded, .error e)
      | .ok before =>
        let outcome := pipeline.process before
        let c : Compacted := ⟨pipeline.stages.length, before, outcome.history⟩
        (loaded ++ outcome.events ++ [.applied c.stages c.stats], .ok c)

def written (o : Options) (h : History) : String :=
  (if o.pretty then h.pretty else h.compact) ++ "\n"

def logText (o : Options) (w : World) (events : List Event) : String :=
  let default := Filter.upTo (if o.verbose then .debug else .warn)
  let filter := (w.logFilter.bind Filter.ofText?).getD default
  String.join ((events.filter filter.shows).map logLine)

def errorLine (e : Error) : String := "Error: " ++ e.message ++ "\n"

def listing : String := String.join (Registry.builtin.names.map fun name => name ++ "\n")

/-- Carries out the command that options ask for. -/
def execute (o : Options) (w : World) : Result :=
  if o.list then { exitCode := 0, stdout := listing, files := w.files }
  else
    match compact o w with
    | (events, .error e) =>
      { exitCode := 1, stderr := logText o w events ++ errorLine e, files := w.files }
    | (events, .ok c) =>
      let report := logText o w events ++ if o.stats then c.stats.summary ++ "\n" else ""
      match o.output with
      | none => { exitCode := 0, stdout := written o c.after, stderr := report, files := w.files }
      | some path =>
        match w.files.write path (written o c.after) with
        | .ok files => { exitCode := 0, stderr := report, files }
        | .error fault =>
          { exitCode := 1, stderr := report ++ errorLine (.io fault), files := w.files }

def usage : String :=
  "usage: pare [--input FILE] [--output FILE] [--pretty] [--config FILE | --processor NAME ...]\n"
    ++ "            [--n N] [--max-age N] [--long-output-char-thld N] [--no-keep-last]\n"
    ++ "            [--short-placeholder] [--stats] [--list] [--verbose]\n"

def run (words : List String) (w : World) : Result :=
  match Options.ofWords? words with
  | none => { exitCode := 2, stderr := usage, files := w.files }
  | some o => execute o w

end Compaction.Command
