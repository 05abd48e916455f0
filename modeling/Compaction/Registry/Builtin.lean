import Compaction.Registry.Basic

/-!
# Built-in processors

* `LastOutputs.ofCount` : the policy for a count, which must not be zero;
* `Builtin.*` : the factories of the built-in processors, of which the presets fix their own bounds;
* `Registry.builtin` : the registry that holds them all.
-/

namespace Compaction

def LastOutputs.ofCount (n : UInt64) : Except Error LastOutputs :=
  if h : 0 < n.toNat then .ok { n := n.toNat, pos := h }
  else .error (.invalidArgument (.notPositive "n"))

namespace Builtin

/-- The value of an argument that a processor requires. -/
def require (processor argument : String) : Option UInt64 → Except Error UInt64
  | some value => .ok value
  | none => .error (.invalidArgument (.missing processor argument))

def failedEditsOf (args : StageArgs) : FailedEdits where
  keepLast := args.keepLast.getD true
  notice := args.notice.getD .output

def identity : Factory := fun _ => .ok .identity

def failedEdits : Factory := fun args => .ok (.failedEdits (failedEditsOf args))

/-- Bounds long observations by a given count and age, with a walk in a given direction. -/
def longOutputs (framing : Framing) : Factory := fun args => do
  let name := LongOutputs.name { n := 0, maxAge := 0, framing }
  let n ← require name "n" args.n
  let maxAge ← require name "max_age" args.maxAge
  let threshold := (args.threshold.map UInt64.toNat).getD 200
  return .longOutputs { n := n.toNat, maxAge := maxAge.toNat, threshold, framing }

def lastOutputs : Factory := fun args => do
  let n ← require "last_n_observations" "n" args.n
  let policy ← LastOutputs.ofCount n
  return .lastOutputs policy

def lastTwo : Factory := fun _ =>
  .ok (.lastOutputs { n := 2, pos := by decide, name := "last_2_observations" })

def lastFive : Factory := fun _ =>
  .ok (.lastOutputs { n := 5, pos := by decide, name := "last_5_observations" })

/-- Replaces failed edits and then keeps the last five observations. -/
def lastFiveNoFailedEdits : Factory := fun args =>
  .ok (.pipeline "last_5_observations_no_fe"
    [.failedEdits (failedEditsOf args), .lastOutputs { n := 5, pos := by decide }])

/-- Replaces failed edits and then keeps five long observations, none more than ten observations old. -/
def fiveLongNoFailedEdits : Factory := fun args =>
  .ok (.pipeline "max_5_observations_no_fe"
    [.failedEdits (failedEditsOf args), .longOutputs { n := 5, maxAge := 10 }])

def staleWindows : Factory := fun _ => .ok .staleWindows

def all : List (String × Factory) := [
  ("default", identity),
  ("strip_failed_edits", failedEdits),
  ("max_n_observations", longOutputs .forward),
  ("max_n_observations_reverse", longOutputs .reverse),
  ("last_n_observations", lastOutputs),
  ("last_2_observations", lastTwo),
  ("last_5_observations", lastFive),
  ("last_5_observations_no_fe", lastFiveNoFailedEdits),
  ("max_5_observations_no_fe", fiveLongNoFailedEdits),
  ("closed_window", staleWindows)]

end Builtin

def Registry.builtin : Registry :=
  Builtin.all.foldl (fun registry entry => registry.insert entry.1 entry.2) Registry.empty

end Compaction
