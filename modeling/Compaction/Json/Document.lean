import Compaction.Json.Node

/-!
# Documents

* `Frame` : a container that is still open;
* `Progress` : how far a text has been taken, with `Progress.step` for the next word;
* `Document` : the root node of a text, and whether the text ends behind it;
* `Document.ofText` : the document of a text, whatever the text.
-/

namespace Compaction.Json

/-- A container that is still open, with what it holds so far, last first. An object may also hold the
name of a member whose value is yet to come, or be between two members. -/
inductive Frame where
  | array (items : List Node)
  | object (members : List (Option String × Node))
  | member (members : List (Option String × Node)) (name : Option String)

/-- A container that ends with a node, where the text breaks off. -/
def Frame.close (node : Node) : Frame → Node
  | .array items => .array (node :: items).reverse
  | .object members => .object ((none, node) :: members).reverse
  | .member members name => .object ((name, node) :: members).reverse

structure Document where
  root : Node
  /-- Nothing but white space follows. -/
  ends : Bool

/-- What may come next in the innermost open container, or at the start of a text. -/
inductive Position where
  | value
  | firstItem
  | firstName
  | name
  | colon
  | next
  deriving DecidableEq

/-- How far a text has been taken. -/
inductive Progress where
  | inside (frames : List Frame) (position : Position)
  | behind (root : Node)
  /-- Nothing that follows matters. -/
  | finished (document : Document)

namespace Progress

/-- The document of a text that breaks off inside open containers. -/
def breakOff (frames : List Frame) : Progress :=
  .finished ⟨frames.foldl Frame.close .broken, false⟩

def place (node : Node) : List Frame → Progress
  | [] => .behind node
  | .array items :: frames => .inside (.array (node :: items) :: frames) .next
  | .member members name :: frames => .inside (.object ((name, node) :: members) :: frames) .next
  | frames => breakOff frames

def stepValue (frames : List Frame) : Lexeme → Progress
  | .openArray => .inside (.array [] :: frames) .firstItem
  | .openObject => .inside (.object [] :: frames) .firstName
  | .null => place .null frames
  | .bool b => place (.bool b) frames
  | .number n => place (.number n) frames
  | .string s => place (.string s) frames
  | _ => breakOff frames

/-- Takes a word inside open containers. A word that may not stand there ends the text. -/
def stepInside (frames : List Frame) (position : Position) (word : Lexeme) : Progress :=
  match position, word, frames with
  | .value, word, frames => stepValue frames word
  | .firstItem, .closeArray, .array items :: frames => place (.array items.reverse) frames
  | .firstItem, word, frames => stepValue frames word
  | .firstName, .closeObject, .object members :: frames => place (.object members.reverse) frames
  | .firstName, .string s, .object members :: frames
  | .name, .string s, .object members :: frames => .inside (.member members s :: frames) .colon
  | .colon, .colon, frames => .inside frames .value
  | .next, .comma, .array items :: frames => .inside (.array items :: frames) .value
  | .next, .comma, .object members :: frames => .inside (.object members :: frames) .name
  | .next, .closeArray, .array items :: frames => place (.array items.reverse) frames
  | .next, .closeObject, .object members :: frames => place (.object members.reverse) frames
  | _, _, frames => breakOff frames

def step : Progress → Lexeme → Progress
  | inside frames position, word => stepInside frames position word
  | behind root, .endOfText => finished ⟨root, true⟩
  | behind root, _ => finished ⟨root, false⟩
  | finished document, _ => finished document

def toDocument : Progress → Document
  | inside frames _ =>
    ⟨frames.foldl Frame.close .broken, false⟩
  | behind root => ⟨root, false⟩
  | finished document => document

end Progress

namespace Document

def ofLexemes (words : List Lexeme) : Document :=
  (words.foldl Progress.step (.inside [] .value)).toDocument

/-- The document of a text, whatever the text. -/
def ofText (text : String) : Document := ofLexemes (lexemes text.toList)

/-- Reads the root of a document, behind which the text must end. -/
def read {α : Type} (document : Document) (reader : Node → Except Fault α) : Except Fault α := do
  let a ← reader document.root
  if document.ends then return a else throw .malformed

/-- The value of a text with at most `room` nested containers. -/
def toValue? (document : Document) (room : Nat) : Option Value :=
  if document.ends then document.root.toValue? room else none

end Document

end Compaction.Json
