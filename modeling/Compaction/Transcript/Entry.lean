import Compaction.Text.Scan

/-!
# Transcript entries

* `Role` : who produced an entry; `Role.label` its written form;
* `Entry` : one record of a transcript; `Entry.isObservation` singles out tool output, the only kind
  of entry that a policy may replace;
* `Entry.withContent` : the same entry with other content;
* `Entry.charLen`, `Entry.lineCount` : the two sizes of the content, in characters and in lines.
-/

namespace Compaction

inductive Role where
  | system
  | user
  | assistant
  deriving DecidableEq

namespace Role

def label : Role → String
  | system => "system"
  | user => "user"
  | assistant => "assistant"

/-- All roles, in the order in which messages list them. -/
def all : List Role := [system, user, assistant]

end Role

structure Entry where
  role : Role
  content : String
  /-- The entry is part of a worked example that is shown to the agent. -/
  isDemo : Bool := false
  deriving DecidableEq

namespace Entry

/-- Tool or environment output: a user entry that is not part of a demonstration. -/
def isObservation (e : Entry) : Bool := e.role == .user && !e.isDemo

def demo (e : Entry) : Entry := { e with isDemo := true }

def withContent (e : Entry) (content : String) : Entry := { e with content }

def charLen (e : Entry) : Nat := e.content.length

def lineCount (e : Entry) : Nat := Text.countLines e.content.toList

@[simp] theorem role_withContent (e : Entry) (s : String) : (e.withContent s).role = e.role := rfl

@[simp] theorem isDemo_withContent (e : Entry) (s : String) :
    (e.withContent s).isDemo = e.isDemo := rfl

@[simp] theorem content_withContent (e : Entry) (s : String) : (e.withContent s).content = s := rfl

@[simp] theorem withContent_withContent (e : Entry) (s t : String) :
    (e.withContent s).withContent t = e.withContent t := rfl

@[simp] theorem isObservation_withContent (e : Entry) (s : String) :
    (e.withContent s).isObservation = e.isObservation := rfl

end Entry

end Compaction
