/-!
# Paths

* `Step` : a step of a path;
* `Path` : a path as a list of steps, from the root or from where the command runs;
* `Path.ofText` : the path that a text spells out;
* `Directory` : a directory that a path can lead through, with `Directory.key`, a word for each name
  in it;
* `fitsName`, `fitsPath` : the bounds on the lengths of names and paths.
-/

namespace Compaction.Command

inductive Step where
  | stay
  | up
  | into (name : String)
  deriving DecidableEq

structure Path where
  absolute : Bool
  steps : List Step
  /-- The text ends with a slash, as only the path of a directory may. -/
  slashed : Bool
  deriving DecidableEq

namespace Step

/-- The step that a word between slashes stands for; there may be no word. -/
def ofWord? (word : String) : Option Step :=
  if word.isEmpty then none
  else if word == "." then some stay
  else if word == ".." then some up
  else some (into word)

end Step

def Path.ofText (text : String) : Path where
  absolute := text.toList.head? == some '/'
  steps := (text.splitOn "/").filterMap Step.ofWord?
  slashed := text.toList.getLast? == some '/'

/-- A directory that a path can lead through. -/
inductive Directory where
  | root
  /-- The directory so many levels above the one where the command runs. -/
  | above (levels : Nat)
  deriving DecidableEq

namespace Directory

def parent : Directory → Directory
  | root => root
  | above levels => above (levels + 1)

/-- The word for a name in a directory: the shortest path to it. -/
def key (name : String) : Directory → String
  | root => "/" ++ name
  | above levels => String.join (List.replicate levels "../") ++ name

end Directory

def Path.start (path : Path) : Directory := if path.absolute then .root else .above 0

/-- A name of a file has at most 255 bytes. -/
def fitsName (name : String) : Bool := decide (name.utf8ByteSize ≤ 255)

/-- A path has at most 4095 bytes. -/
def fitsPath (text : String) : Bool := decide (text.utf8ByteSize ≤ 4095)

end Compaction.Command
