import Compaction.Command.Path
import Compaction.Error
import Compaction.Table

/-!
# Files

* `Place` : what a path leads to;
* `Files` : the places that are known, under the words for them;
* `Files.walk`, `Files.locate` : the end of a path, which leads through directories only;
* `Files.read`, `Files.write` : the text at a path, and the files after a text is written there.
-/

namespace Compaction.Command

/-- What a path leads to. -/
inductive Place where
  | text (content : String)
  | binary
  | directory
  /-- Nothing yet, but a file can be made there. -/
  | vacant
  /-- Nothing, and nothing can be made there. -/
  | closed (fault : FileFault)
  deriving DecidableEq

namespace Place

def read : Place → Except FileFault String
  | text content => .ok content
  | binary => .error .notText
  | directory => .error .isDirectory
  | vacant => .error .notFound
  | closed fault => .error fault

def isFile : Place → Bool
  | text _ | binary => true
  | _ => false

end Place

/-- The places that are known, under the words for them. Under any other word there is nothing. -/
abbrev Files := Table Place

/-- The end of a path. -/
inductive Spot where
  | directory
  /-- A name in such a directory, under the word for it; the name may be too long for a file. -/
  | entry (key : String) (fits : Bool)
  deriving DecidableEq

namespace Files

def placeAt (files : Files) : Spot → Place
  | .directory => .directory
  | .entry key true => (files.find? key).getD .vacant
  | .entry _ false => .closed .nameTooLong

/-- Why a path cannot lead through a place. -/
def obstacle : Place → FileFault
  | .closed fault => fault
  | .text _ | .binary => .notADirectory
  | .directory | .vacant => .notFound

/-- The end of some steps from a directory. Only the last one may go to a name, because no directories
are known but the one where the command runs and those above it. -/
def walk (files : Files) (directory : Directory) : List Step → Except FileFault Spot
  | [] => .ok .directory
  | .stay :: steps => files.walk directory steps
  | .up :: steps => files.walk directory.parent steps
  | .into name :: steps =>
    let spot := Spot.entry (directory.key name) (fitsName name)
    if steps.isEmpty then .ok spot else .error (obstacle (files.placeAt spot))

/-- The end of the path that a text spells out, unless the text is itself the word for a place. -/
def locate (files : Files) (text : String) : Except FileFault Spot :=
  if files.contains text then .ok (.entry text true)
  else if !fitsPath text then .error .nameTooLong
  else files.walk (Path.ofText text).start (Path.ofText text).steps

def read (files : Files) (path : String) : Except FileFault String := do
  let place := files.placeAt (← files.locate path)
  if (Path.ofText path).slashed && place.isFile then throw .notADirectory
  place.read

/-- The files after a text is written to the file at a path, in place of what was there. -/
def write (files : Files) (path content : String) : Except FileFault Files := do
  match ← files.locate path with
  | .directory => throw .isDirectory
  | .entry key fits =>
    if (Path.ofText path).slashed then throw .isDirectory
    match files.placeAt (.entry key fits) with
    | .directory => throw .isDirectory
    | .closed fault => throw fault
    | _ => return files.insert key (.text content)

end Files

end Compaction.Command
