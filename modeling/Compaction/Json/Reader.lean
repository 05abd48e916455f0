import Compaction.Json.Document

/-!
# Readers

* `Source` : where a node comes from, which decides a few rules;
* `readString`, `readBool`, `readCount`, `readOptional`, `readItems` : readers of the basic types;
* `readVariant` : a reader of one of a list of names;
* `readMembers` : a reader of the members of a record, with a step for each member that it knows;
* `readElements` : a reader of a record that is written as a sequence of its fields.

Every reader reports the first fault in the order of the text.
-/

namespace Compaction.Json

inductive Source where
  | text
  | tree
  /-- The members of a stage, which are kept until its name is known. -/
  | kept
  deriving DecidableEq

abbrev Reader (α : Type) := Node → Except Fault α

def readString : Reader String
  | .string (some s) => .ok s
  | node => .error (node.mismatch .string)

def readBool : Reader Bool
  | .bool b => .ok b
  | node => .error (node.mismatch .boolean)

def readCount : Reader UInt64
  | .number (some (.natural n)) => .ok n
  | .number (some (.negative n)) => .error (.wrongValue (.number (.negative n)) .count)
  | node => .error (node.mismatch .count)

/-- Reads a value that may be null, which is the same as none. -/
def readOptional {α : Type} (reader : Reader α) : Reader (Option α)
  | .null => .ok none
  | node => (reader node).map some

def readItemsFrom {α : Type} (reader : Reader α) (read : List α) : List Node → Except Fault (List α)
  | [] => .ok read.reverse
  | node :: nodes =>
    match reader node with
    | .ok a => readItemsFrom reader (a :: read) nodes
    | .error fault => .error fault

def readItems {α : Type} (reader : Reader α) : Reader (List α)
  | .array nodes => readItemsFrom reader [] nodes
  | node => .error (node.mismatch .sequence)

/-! ## Names -/

/-- The value with a name, among all values of a type. -/
def variantNamed {α : Type} (all : List α) (label : α → String) (name : String) : Except Fault α :=
  match all.find? fun a => label a == name with
  | some a => .ok a
  | none => .error (.unknownVariant name (all.map label))

/-- Reads the value that stands behind the name of a variant, which must be null. -/
def readUnit (source : Source) : Reader Unit
  | .null => .ok ()
  | .object [] => if source = .kept then .ok () else .error (.wrongType .map .unit)
  | node => .error (node.mismatch .unit)

/-- Reads one of the names of a type: a string, or an object with the name as its only member. -/
def readVariant {α : Type} (source : Source) (all : List α) (label : α → String) : Reader α
  | .string (some name) => variantNamed all label name
  | .object members =>
    match source, members with
    | .text, [] => .error .malformed
    | .text, (some name, value) :: more => do
      let a ← variantNamed all label name
      readUnit source value
      if more.isEmpty then return a else throw .malformed
    | .text, (none, _) :: _ => .error .malformed
    | _, [(some name, value)] => do
      let a ← variantNamed all label name
      readUnit source value
      return a
    | _, _ => .error (.wrongValue .map .singleKeyMap)
  | node =>
    match source with
    | .text => .error .malformed
    | _ => .error (node.mismatch .stringOrMap)

/-! ## Records -/

/-- Reads the members of a record, with the fields read so far in `fields`. A member that the record
does not know has no step, and may hold whatever is well written. -/
def readMembers {σ : Type} (step? : σ → String → Option (Reader σ)) (fields : σ) :
    List (Option String × Node) → Except Fault σ
  | [] => .ok fields
  | (some name, value) :: members =>
    match step? fields name with
    | some reader =>
      match reader value with
      | .ok fields => readMembers step? fields members
      | .error fault => .error fault
    | none => if value.isWhole then readMembers step? fields members else .error .malformed
  | (none, _) :: _ => .error .malformed

/-- The reader of a field that may be given only once: `old` is what was given before. -/
def readField {α σ : Type} (name : String) (old : Option α) (reader : Reader α) (store : α → σ) :
    Reader σ :=
  match old with
  | some _ => fun _ => .error (.duplicateField name)
  | none => fun node => (reader node).map store

/-- Reads the fields of a record from a sequence, in their order, as long as there are elements. More
elements than fields are a fault, which a tree counts. -/
def readElements {σ : Type} (source : Source) (total : Nat) (fields : σ) :
    List (σ → Reader σ) → List Node → Except Fault σ
  | _, [] => .ok fields
  | [], _ :: _ =>
    match source with
    | .text => .error .malformed
    | _ => .error (.wrongLength total .fewerElements)
  | step :: steps, node :: nodes =>
    match step fields node with
    | .ok fields => readElements source total fields steps nodes
    | .error fault => .error fault

end Compaction.Json
