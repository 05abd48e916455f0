import Compaction.Error
import Compaction.Registry.StageArgs

/-!
# Stages of a config

* `StageSpec` : the name and the arguments of a stage, and the members that are neither;
* `StageSpec.validate` : a stage may have no other members;
* `StageSpec.toValue` : the written form;
* `StageSpec.read` : a stage is an object; its members are kept until all of them have been seen, and
  then its arguments are read from them.
-/

namespace Compaction

open Json (Fault Node Reader Value)

structure StageSpec where
  name : String
  args : StageArgs := {}
  /-- The members that are neither the name nor an argument. -/
  unknown : Table Value := []
  deriving BEq

namespace StageSpec

/-- A stage may have no members but its name and arguments. -/
def validate (spec : StageSpec) : Except Error Unit :=
  if spec.unknown.isEmpty then .ok ()
  else .error (.config (.unknownArguments spec.name spec.unknown.names))

def toValue (spec : StageSpec) : Value :=
  .object (("name", .string spec.name) :: spec.args.members ++ spec.unknown)

/-- How many containers may be nested in a member of a stage, which itself stands in three of the 127
that a text may nest. -/
def memberRoom : Nat := 124

/-- The members of a stage that have been seen: its name, and the others, last first. -/
structure Fields where
  name : Option String := none
  kept : List (String × Value) := []

/-- Goes through the members of a stage; of all of them, only the name has to be of some type yet. -/
def readFields (fields : Fields) : List (Option String × Node) → Except Fault Fields
  | [] => .ok fields
  | (some key, value) :: members =>
    if key = "name" then
      match fields.name, Json.readString value with
      | some _, _ => .error (.duplicateField "name")
      | none, .ok name => readFields { fields with name := some name } members
      | none, .error fault => .error fault
    else
      match value.toValue? memberRoom with
      | some v => readFields { fields with kept := (key, v) :: fields.kept } members
      | none => .error .malformed
  | (none, _) :: _ => .error .malformed

/-- The stage with a name and other members, in the order of the text. -/
def ofMembers (name : String) (kept : List (String × Value)) : Except Fault StageSpec := do
  let isArgument (member : String × Value) : Bool := StageArgs.names.contains member.1
  let args ← StageArgs.readMembers .kept (Node.ofMembers (kept.filter isArgument))
  let rest := Value.canonicalMembers (kept.filter fun member => !isArgument member)
  return { name, args, unknown := Table.ofEntries rest }

def read : Reader StageSpec
  | .object members => do
    let fields ← readFields {} members
    match fields.name with
    | none => throw (.missingField "name")
    | some name => ofMembers name fields.kept.reverse
  | node => .error (node.mismatch (.record "ProcessorSpec"))

end StageSpec

end Compaction
