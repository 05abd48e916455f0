import Compaction.Json.Number
import Compaction.Text.Quoted

/-!
# Faults

* `Found` : what stands in a document;
* `Wanted` : what a reader expects there;
* `Fault` : why a document cannot be read as a value of some type;
* `Fault.message` : its wording.
-/

namespace Compaction.Json

inductive Found where
  | null
  | boolean (b : Bool)
  | number (n : Number)
  | string (s : String)
  | sequence
  | map

inductive Wanted where
  | string
  | boolean
  | count
  | sequence
  | unit
  | record (name : String)
  | recordOf (name : String) (size : Nat)
  | stringOrMap
  | singleKeyMap
  | fewerElements
  deriving DecidableEq

/-- Why a document cannot be read as a value of some type. -/
inductive Fault where
  /-- The text breaks the grammar, or holds a word that no value can stand for. -/
  | malformed
  | wrongType (found : Found) (wanted : Wanted)
  /-- A value of the type stands there, but none that is allowed. -/
  | wrongValue (found : Found) (wanted : Wanted)
  | wrongLength (length : Nat) (wanted : Wanted)
  | missingField (name : String)
  | duplicateField (name : String)
  | unknownVariant (name : String) (variants : List String)

namespace Found

def message : Found → String
  | null => "null"
  | boolean b => "boolean `" ++ (if b then "true" else "false") ++ "`"
  | number (.float x) => "floating point `" ++ String.ofList (Number.floatChars x) ++ "`"
  | number n => "integer `" ++ String.ofList n.toChars ++ "`"
  | string s => "string " ++ Text.quoted s
  | sequence => "sequence"
  | map => "map"

end Found

namespace Wanted

def message : Wanted → String
  | string => "a string"
  | boolean => "a boolean"
  | count => "usize"
  | sequence => "a sequence"
  | unit => "unit"
  | record name => "struct " ++ name
  | recordOf name size => "struct " ++ name ++ " with " ++ toString size ++ " elements"
  | stringOrMap => "string or map"
  | singleKeyMap => "map with a single key"
  | fewerElements => "fewer elements in array"

end Wanted

def backquoted (name : String) : String := "`" ++ name ++ "`"

namespace Fault

def choice : List String → String
  | [] => "there are no variants"
  | [a] => "expected " ++ backquoted a
  | [a, b] => "expected " ++ backquoted a ++ " or " ++ backquoted b
  | names => "expected one of " ++ ", ".intercalate (names.map backquoted)

def message : Fault → String
  | malformed => "malformed JSON"
  | wrongType found wanted => "invalid type: " ++ found.message ++ ", expected " ++ wanted.message
  | wrongValue found wanted => "invalid value: " ++ found.message ++ ", expected " ++ wanted.message
  | wrongLength length wanted =>
    "invalid length " ++ toString length ++ ", expected " ++ wanted.message
  | missingField name => "missing field " ++ backquoted name
  | duplicateField name => "duplicate field " ++ backquoted name
  | unknownVariant name variants => "unknown variant " ++ backquoted name ++ ", " ++ choice variants

end Fault

end Compaction.Json
