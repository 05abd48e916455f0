import Compaction.Config.Spec
import Compaction.Registry.Builtin

/-!
# Configs

* `Config` : the stages of a pipeline;
* `Config.validate` : no stage has members that are neither its name nor arguments;
* `Config.ofText`, `Config.ofTextUnchecked` : the config in a text, with and without that check;
* `Config.compact` : the written form;
* `Config.buildWith`, `Config.build` : the pipeline of a config, from a registry.
-/

namespace Compaction

open Json (Fault Node Reader Value)

/-- The stages of a pipeline, in the order in which they run. -/
structure Config where
  stages : List StageSpec := []
  deriving BEq

namespace Config

def push (config : Config) (spec : StageSpec) : Config := ⟨config.stages ++ [spec]⟩

def validate (config : Config) : Except Error Unit := config.stages.forM StageSpec.validate

/-! ## Written form -/

def toValue (config : Config) : Value :=
  .object [("processors", .array (config.stages.map StageSpec.toValue))]

def compact (config : Config) : String := config.toValue.compact

def readStages (fields : Option (List StageSpec)) : Reader (Option (List StageSpec)) :=
  Json.readField "processors" fields (Json.readItems StageSpec.read) some

/-- Reads a config: an object with its stages, or a sequence of them as the only element. -/
def read : Reader Config
  | .object members =>
    (Json.readMembers (fun fields name =>
      if name = "processors" then some (readStages fields) else none) none members).map
      fun fields => ⟨fields.getD []⟩
  | .array nodes =>
    (Json.readElements .text nodes.length none [readStages] nodes).map fun fields => ⟨fields.getD []⟩
  | node => .error (node.mismatch (.record "CompactionConfig"))

def ofTextUnchecked (text : String) : Except Fault Config := (Json.Document.ofText text).read read

def ofText (text : String) : Except Error Config :=
  match ofTextUnchecked text with
  | .error fault => .error (.config (.unreadable fault))
  | .ok config => do
    config.validate
    return config

/-! ## Building -/

def buildStage {α : Type} (registry : Registry α) (spec : StageSpec) : Except Error α := do
  spec.validate
  registry.get spec.name spec.args

/-- The pipeline of a config, in which every stage is built from a registry. The first stage that
cannot be built is the error. -/
def buildWith {α : Type} (config : Config) (registry : Registry α) : Except Error (Pipeline α) := do
  let stages ← config.stages.mapM (buildStage registry)
  return { stages }

def build (config : Config) : Except Error Pipeline := config.buildWith .builtin

end Config

end Compaction
