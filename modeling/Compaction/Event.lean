import Compaction.Transcript.History

/-!
# Events

* `Event` : what the library reports while it works;
* `Event.level`, `Event.target`, `Event.message` : the three parts of the line that reports it.
-/

namespace Compaction

inductive Level where
  | error
  | warn
  | info
  | debug
  | trace
  deriving DecidableEq

namespace Level

def label : Level → String
  | error => "ERROR"
  | warn => "WARN"
  | info => "INFO"
  | debug => "DEBUG"
  | trace => "TRACE"

/-- The rank of a level: the larger, the more detailed. -/
def rank : Level → Nat
  | error => 1
  | warn => 2
  | info => 3
  | debug => 4
  | trace => 5

end Level

/-- What the library reports while it works. Positions are indices into the transcript. -/
inductive Event where
  | failedEditStripped (entry : Nat)
  | failedEditsSummary (replaced : Nat)
  | outputOmitted (observation entry : Nat)
  | outputsSummary (policy : String) (omitted total n : Nat)
  | longOutputOmitted (entry chars : Nat)
  | longOutputsSummary (policy : String) (omitted total n maxAge : Nat)
  | windowCollapsed (file : String) (entry lines : Nat)
  | windowsSummary (collapsed files : Nat)
  | stageDone (pipeline stage : String) (stats : Stats)
  | registered (name : String)
  | configLoaded (path : String) (stages : Nat)
  | applied (stages : Nat) (stats : Stats)
  deriving DecidableEq

namespace Event

/-- Single revisions are traced, sums are for debugging, and the result of a command is information. -/
def level : Event → Level
  | failedEditStripped _ | outputOmitted _ _ | longOutputOmitted _ _ | windowCollapsed _ _ _ => .trace
  | applied _ _ => .info
  | _ => .debug

def target : Event → String
  | failedEditStripped _ | failedEditsSummary _ => "pare_rs::processors::failed_edits"
  | outputOmitted _ _ | outputsSummary _ _ _ _ => "pare_rs::processors::last_n"
  | longOutputOmitted _ _ | longOutputsSummary _ _ _ _ _ => "pare_rs::processors::max_n"
  | windowCollapsed _ _ _ | windowsSummary _ _ => "pare_rs::processors::closed_window"
  | stageDone _ _ _ => "pare_rs::processors::pipeline"
  | registered _ => "pare_rs::registry"
  | configLoaded _ _ => "pare_rs::config"
  | applied _ _ => "pare"

def message : Event → String
  | failedEditStripped entry => "Stripping failed edit at entry " ++ toString entry
  | failedEditsSummary replaced =>
    "strip_failed_edits: replaced " ++ toString replaced ++ " failed edit(s)"
  | outputOmitted observation entry =>
    "Omitting observation " ++ toString observation ++ " at entry " ++ toString entry
  | outputsSummary policy omitted total n =>
    policy ++ ": omitted " ++ toString omitted ++ " of " ++ toString total ++ " observation(s) (n="
      ++ toString n ++ ")"
  | longOutputOmitted entry chars =>
    "Omitting long output at entry " ++ toString entry ++ " (" ++ toString chars ++ " chars)"
  | longOutputsSummary policy omitted total n maxAge =>
    policy ++ ": omitted " ++ toString omitted ++ " of " ++ toString total ++ " observation(s) (n="
      ++ toString n ++ ", max_age=" ++ toString maxAge ++ ")"
  | windowCollapsed file entry lines =>
    "Collapsing stale window of " ++ file ++ " at entry " ++ toString entry ++ " ("
      ++ toString lines ++ " lines)"
  | windowsSummary collapsed files =>
    "closed_window: collapsed " ++ toString collapsed ++ " stale window(s) across "
      ++ toString files ++ " file(s)"
  | stageDone pipeline stage stats => pipeline ++ " stage " ++ stage ++ ": " ++ stats.summary
  | registered name => "Registered history processor '" ++ name ++ "'"
  | configLoaded path stages =>
    "Loaded compaction config from " ++ path ++ " (" ++ toString stages ++ " processor(s))"
  | applied stages stats =>
    "Applied " ++ toString stages ++ " processor(s): " ++ stats.summary

end Event

end Compaction
