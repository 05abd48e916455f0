import Compaction.Json.Fault
import Compaction.Json.Lexeme
import Compaction.Json.Value

/-!
# Nodes

A text is read even if it breaks off: the place where it does becomes a node of its own. A reader that
goes through the nodes in order therefore meets the faults of the text and the values that it does not
expect in the order in which they are written.

* `Node` : a value, or the place where the text breaks off;
* `Node.found?` : what stands at a node, unless it cannot be read;
* `Node.isWhole` : the text does not break off inside a node;
* `Node.ofValue`, `Node.toValue?` : the nodes of a value, and the value of nodes that are not nested
  too deep.
-/

namespace Compaction.Json

/-- A part of a text. A string or a number without a value is well written but cannot be read; so is a
member without a name, unless the text breaks off before its value. -/
inductive Node where
  /-- The text breaks off here. -/
  | broken
  | null
  | bool (b : Bool)
  | number (n : Option Number)
  | string (s : Option String)
  | array (items : List Node)
  | object (members : List (Option String × Node))

namespace Node

/-- What stands at a node, unless it cannot be read. -/
def found? : Node → Option Found
  | broken => none
  | null => some .null
  | bool b => some (.boolean b)
  | number n => n.map .number
  | string s => s.map .string
  | array _ => some .sequence
  | object _ => some .map

/-- The fault of a node where something else is expected. -/
def mismatch (node : Node) (wanted : Wanted) : Fault :=
  match node.found? with
  | none => .malformed
  | some found => .wrongType found wanted

mutual

def isWhole : Node → Bool
  | broken => false
  | array items => areWhole items
  | object members => areWholeMembers members
  | _ => true

def areWhole : List Node → Bool
  | [] => true
  | node :: nodes => node.isWhole && areWhole nodes

def areWholeMembers : List (Option String × Node) → Bool
  | [] => true
  | (_, node) :: members => node.isWhole && areWholeMembers members

end

/-! ## Nodes and values -/

mutual

/-- The value of a node in which at most `room` containers are nested. -/
def toValue? : Nat → Node → Option Value
  | _, broken => none
  | _, null => some .null
  | _, bool b => some (.bool b)
  | _, number n => n.map .number
  | _, string s => s.map .string
  | 0, array _ => none
  | room + 1, array items => (toValues? room items).map .array
  | 0, object _ => none
  | room + 1, object members => (toMembers? room members).map .object

def toValues? : Nat → List Node → Option (List Value)
  | _, [] => some []
  | room, node :: nodes => do
    let v ← node.toValue? room
    let vs ← toValues? room nodes
    return v :: vs

/-- The members of an object, whose names must be readable. -/
def toMembers? : Nat → List (Option String × Node) → Option (List (String × Value))
  | _, [] => some []
  | room, (some name, node) :: members => do
    let v ← node.toValue? room
    let vs ← toMembers? room members
    return (name, v) :: vs
  | _, (none, _) :: _ => none

end

mutual

def ofValue : Value → Node
  | .null => null
  | .bool b => bool b
  | .number n => number (some n)
  | .string s => string (some s)
  | .array items => array (ofValues items)
  | .object members => object (ofMembers members)

def ofValues : List Value → List Node
  | [] => []
  | v :: vs => ofValue v :: ofValues vs

def ofMembers : List (String × Value) → List (Option String × Node)
  | [] => []
  | (name, v) :: members => (some name, ofValue v) :: ofMembers members

end

end Node

end Compaction.Json
