import Compaction.Json.Reader
import Compaction.Transcript.History

/-!
# Transcripts as JSON

* `Entry.toValue`, `History.compact`, `History.pretty` : the written forms;
* `Entry.read` : an entry is an object with a role, a content and an optional mark for demonstrations,
  or a sequence of the three;
* `History.ofText`, `History.ofValue` : transcripts from a text and from a value.
-/

namespace Compaction

open Json (Fault Node Reader Source Value)

/-! ## Writing -/

def Entry.toValue (e : Entry) : Value :=
  .object [("role", .string e.role.label), ("content", .string e.content), ("is_demo", .bool e.isDemo)]

def History.toValue (h : History) : Value := .array (h.map Entry.toValue)

def History.compact (h : History) : String := h.toValue.compact

def History.pretty (h : History) : String := h.toValue.pretty

/-! ## Reading -/

def Role.read (source : Source) : Reader Role := Json.readVariant source Role.all Role.label

structure EntryFields where
  role : Option Role := none
  content : Option String := none
  isDemo : Option Bool := none

namespace EntryFields

def readRole (source : Source) (fields : EntryFields) : Reader EntryFields :=
  Json.readField "role" fields.role (Role.read source) fun role => { fields with role := some role }

def readContent (fields : EntryFields) : Reader EntryFields :=
  Json.readField "content" fields.content Json.readString fun content =>
    { fields with content := some content }

def readIsDemo (fields : EntryFields) : Reader EntryFields :=
  Json.readField "is_demo" fields.isDemo Json.readBool fun isDemo =>
    { fields with isDemo := some isDemo }

/-- The reader of the member with a name; the mark for demonstrations has two names. -/
def step? (source : Source) (fields : EntryFields) (name : String) : Option (Reader EntryFields) :=
  if name = "role" then some (fields.readRole source)
  else if name = "content" then some fields.readContent
  else if name = "is_demo" ∨ name = "demo" then some fields.readIsDemo
  else none

/-- The entry with the fields; the first missing one is a fault, but for the mark. -/
def toEntry (fields : EntryFields) : Except Fault Entry :=
  match fields.role, fields.content with
  | some role, some content => .ok { role, content, isDemo := fields.isDemo.getD false }
  | none, _ => .error (.missingField "role")
  | some _, none => .error (.missingField "content")

end EntryFields

def Entry.read (source : Source) : Reader Entry
  | .object members => do
    let fields ← Json.readMembers (EntryFields.step? source) {} members
    fields.toEntry
  | .array nodes => do
    let steps := [EntryFields.readRole source, EntryFields.readContent, EntryFields.readIsDemo]
    let fields ← Json.readElements source nodes.length {} steps nodes
    if nodes.length < 2 then throw (.wrongLength nodes.length (.recordOf "Entry" 3))
    fields.toEntry
  | node => .error (node.mismatch (.record "Entry"))

namespace History

def read (source : Source) : Reader History := Json.readItems (Entry.read source)

def ofText (text : String) : Except Fault History :=
  (Json.Document.ofText text).read (read .text)

/-- The transcript of a value, whose members are taken in the order of their names. -/
def ofValue (v : Value) : Except Fault History := read .tree (.ofValue v.canonical)

end History

end Compaction
