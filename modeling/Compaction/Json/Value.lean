import Compaction.Json.Number
import Compaction.Table

/-!
# Values

* `Value` : a JSON value, the members of an object in the order in which they are written;
* `Value.canonical` : the value with the members of every object sorted by name, of which the last
  under each name counts;
* `Value.toChars`, `Value.compact`, `Value.pretty` : the written forms.
-/

namespace Compaction.Json

inductive Value where
  | null
  | bool (b : Bool)
  | number (n : Number)
  | string (s : String)
  | array (items : List Value)
  | object (members : List (String × Value))
  deriving BEq

namespace Value

mutual

/-- The value with the members of every object sorted by name; the last under each name counts. -/
def canonical : Value → Value
  | array items => array (canonicalItems items)
  | object members => object (Table.ofEntries (canonicalMembers members))
  | v => v

def canonicalItems : List Value → List Value
  | [] => []
  | v :: vs => v.canonical :: canonicalItems vs

def canonicalMembers : List (String × Value) → List (String × Value)
  | [] => []
  | (name, v) :: members => (name, v.canonical) :: canonicalMembers members

end

/-! ## Written forms -/

/-- One character of a string as it is written: a quote, a backslash and the controls below the space
are escaped, and nothing else. -/
def escapeChar (c : Char) : List Char :=
  if c == '"' then ['\\', '"']
  else if c == '\\' then ['\\', '\\']
  else if c == '\x08' then ['\\', 'b']
  else if c == '\t' then ['\\', 't']
  else if c == '\n' then ['\\', 'n']
  else if c == '\x0c' then ['\\', 'f']
  else if c == '\r' then ['\\', 'r']
  else if c.toNat < 0x20 then
    ['\\', 'u', '0', '0', Nat.digitChar (c.toNat / 16), Nat.digitChar (c.toNat % 16)]
  else [c]

def stringChars (s : String) : List Char := '"' :: s.toList.flatMap escapeChar ++ ['"']

inductive Layout where
  | compact
  | pretty
  deriving DecidableEq

namespace Layout

/-- What stands before an item or a closing bracket, `level` containers deep: nothing, or a line feed
and two spaces for each container. -/
def gap (layout : Layout) (level : Nat) : List Char :=
  match layout with
  | compact => []
  | pretty => '\n' :: List.replicate (2 * level) ' '

/-- What stands between a name and its value. -/
def colon : Layout → List Char
  | compact => [':']
  | pretty => [':', ' ']

end Layout

mutual

/-- The written form of a value inside `level` containers. -/
def toChars (layout : Layout) (level : Nat) : Value → List Char
  | null => ['n', 'u', 'l', 'l']
  | bool true => ['t', 'r', 'u', 'e']
  | bool false => ['f', 'a', 'l', 's', 'e']
  | number n => n.toChars
  | string s => stringChars s
  | array [] => ['[', ']']
  | array (v :: vs) =>
    '[' :: layout.gap (level + 1) ++ v.toChars layout (level + 1) ++ moreItems layout (level + 1) vs
      ++ layout.gap level ++ [']']
  | object [] => ['{', '}']
  | object ((name, v) :: members) =>
    '{' :: layout.gap (level + 1) ++ stringChars name ++ layout.colon
      ++ v.toChars layout (level + 1) ++ moreMembers layout (level + 1) members
      ++ layout.gap level ++ ['}']

/-- The written forms of the items behind the first, each behind a comma. -/
def moreItems (layout : Layout) (level : Nat) : List Value → List Char
  | [] => []
  | v :: vs => ',' :: layout.gap level ++ v.toChars layout level ++ moreItems layout level vs

def moreMembers (layout : Layout) (level : Nat) : List (String × Value) → List Char
  | [] => []
  | (name, v) :: members =>
    ',' :: layout.gap level ++ stringChars name ++ layout.colon ++ v.toChars layout level
      ++ moreMembers layout level members

end

def compact (v : Value) : String := String.ofList (v.toChars .compact 0)

def pretty (v : Value) : String := String.ofList (v.toChars .pretty 0)

def ofUInt64 (n : UInt64) : Value := number (.natural n)

end Value

end Compaction.Json
