import Compaction.Json.Reader
import Compaction.Policy.FailedEdits

/-!
# Stage arguments

* `StageArgs` : the arguments from which a stage is built, all of them optional;
* `StageArgs.members` : the arguments that are set, as members of an object in a fixed order;
* `StageArgs.readMembers`, `StageArgs.read` : the arguments in an object, or in a sequence;
* `StageArgs.ofText`, `StageArgs.ofValue` : the arguments in a text and in a value.
-/

namespace Compaction

open Json (Fault Node Reader Source Value)

/-- What a stage may be given: how many outputs are kept, how old a long one may be, and from how many characters on it is
long; whether the final entry is exempt, and the notice in place of a failed edit. -/
structure StageArgs where
  n : Option UInt64 := none
  maxAge : Option UInt64 := none
  threshold : Option UInt64 := none
  keepLast : Option Bool := none
  notice : Option Notice := none
  deriving DecidableEq

def Notice.read (source : Source) : Reader Notice := Json.readVariant source Notice.all Notice.label

namespace StageArgs

/-! ## Writing -/

/-- A member of an object, if there is a value. -/
def member {α : Type} (name : String) (toValue : α → Value) (a : Option α) : List (String × Value) :=
  (a.map fun a => (name, toValue a)).toList

def members (args : StageArgs) : List (String × Value) :=
  member "n" .ofUInt64 args.n ++ member "max_age" .ofUInt64 args.maxAge
    ++ member "long_output_char_thld" .ofUInt64 args.threshold
    ++ member "keep_last" .bool args.keepLast
    ++ member "placeholder" (fun notice => .string notice.label) args.notice

def toValue (args : StageArgs) : Value := .object args.members

/-! ## Reading -/

/-- The arguments that have been read; an argument may have been given as null. -/
structure Fields where
  n : Option (Option UInt64) := none
  maxAge : Option (Option UInt64) := none
  threshold : Option (Option UInt64) := none
  keepLast : Option (Option Bool) := none
  notice : Option (Option Notice) := none

namespace Fields

def readN (fields : Fields) : Reader Fields :=
  Json.readField "n" fields.n (Json.readOptional Json.readCount) fun n =>
    { fields with n := some n }

def readMaxAge (fields : Fields) : Reader Fields :=
  Json.readField "max_age" fields.maxAge (Json.readOptional Json.readCount) fun maxAge =>
    { fields with maxAge := some maxAge }

def readThreshold (fields : Fields) : Reader Fields :=
  Json.readField "long_output_char_thld" fields.threshold (Json.readOptional Json.readCount)
    fun threshold => { fields with threshold := some threshold }

def readKeepLast (fields : Fields) : Reader Fields :=
  Json.readField "keep_last" fields.keepLast (Json.readOptional Json.readBool) fun keepLast =>
    { fields with keepLast := some keepLast }

def readNotice (source : Source) (fields : Fields) : Reader Fields :=
  Json.readField "placeholder" fields.notice (Json.readOptional (Notice.read source)) fun notice =>
    { fields with notice := some notice }

/-- The reader of the argument with a name. -/
def step? (source : Source) (fields : Fields) (name : String) : Option (Reader Fields) :=
  if name = "n" then some fields.readN
  else if name = "max_age" then some fields.readMaxAge
  else if name = "long_output_char_thld" then some fields.readThreshold
  else if name = "keep_last" then some fields.readKeepLast
  else if name = "placeholder" then some (fields.readNotice source)
  else none

/-- The arguments with the fields; null is the same as not given. -/
def toArgs (fields : Fields) : StageArgs where
  n := fields.n.join
  maxAge := fields.maxAge.join
  threshold := fields.threshold.join
  keepLast := fields.keepLast.join
  notice := fields.notice.join

end Fields

def names : List String := ["n", "max_age", "long_output_char_thld", "keep_last", "placeholder"]

def readMembers (source : Source) (members : List (Option String × Node)) :
    Except Fault StageArgs :=
  (Json.readMembers (Fields.step? source) {} members).map Fields.toArgs

def read (source : Source) : Reader StageArgs
  | .object members => readMembers source members
  | .array nodes =>
    let steps := [Fields.readN, Fields.readMaxAge, Fields.readThreshold, Fields.readKeepLast,
      Fields.readNotice source]
    (Json.readElements source nodes.length {} steps nodes).map Fields.toArgs
  | node => .error (node.mismatch (.record "ProcessorArgs"))

def ofText (text : String) : Except Fault StageArgs :=
  (Json.Document.ofText text).read (read .text)

/-- The arguments in a value, whose members are taken in the order of their names. -/
def ofValue (v : Value) : Except Fault StageArgs := read .tree (.ofValue v.canonical)

end StageArgs

end Compaction
