import Compaction.Command.Run

/-!
# The program

Reads what a command needs, carries the command out, and writes what it leaves behind.
-/

namespace Compaction.Program

open Command (Files Options Place Result World)

partial def readRest (stream : IO.FS.Stream) (read : ByteArray) : IO ByteArray := do
  let chunk ← stream.read 65536
  if chunk.isEmpty then return read else readRest stream (read ++ chunk)

def placeOfBytes (bytes : ByteArray) : Place :=
  match String.fromUTF8? bytes with
  | some text => .text text
  | none => .binary

/-- The fault behind an error of the system, which may count its codes downwards from zero. -/
def faultOfError : IO.Error → FileFault
  | .noFileOrDirectory _ _ _ => .notFound
  | .inappropriateType _ code _ =>
    if code == 20 || 0 - code == 20 then .notADirectory else .isDirectory
  | .invalidArgument _ code details =>
    if code == 36 || 0 - code == 36 then .nameTooLong else .other details code.toNat
  | .permissionDenied _ _ _ => .other "Permission denied" 13
  | e => .other (toString e) 5

def placeAt (path : String) : IO Place := do
  try
    return placeOfBytes (← IO.FS.readBinFile path)
  catch
    | .noFileOrDirectory _ _ _ => return .vacant
    | e => return .closed (faultOfError e)

/-- The places that the options name, each under the words that name it. Whether the output can be
made shows only when it is written. -/
def filesOf (o : Options) : IO Files := do
  let paths := o.input.toList ++ o.config.toList
  let outputs : Files := o.output.toList.foldl (fun files path => files.insert path .vacant) []
  paths.foldlM (fun files path => return files.insert path (← placeAt path)) outputs

def readsStdin (o : Options) (files : Files) : Bool :=
  !o.list && o.input.isNone &&
    match Command.loadConfig o files with
    | .ok (config, _) => config.build.isOk
    | .error _ => false

def worldOf (o : Options) : IO World := do
  let files ← filesOf o
  let stdin ← if readsStdin o files then
      placeOfBytes <$> readRest (← IO.getStdin) ByteArray.empty
    else pure (.text "")
  return { files, stdin, logFilter := ← IO.getEnv "RUST_LOG" }

/-- Writes what a command leaves behind, and returns its exit code. If the standard output or the standard error cannot
take it, the program ends with the error of the system. -/
def finish (o : Options) (result : Result) : IO UInt32 := do
  (← IO.getStderr).putStr result.stderr
  (← IO.getStdout).putStr result.stdout
  match result.exitCode, if o.list then none else o.output with
  | 0, some path =>
    match result.files.find? path with
    | some (.text content) =>
      try
        IO.FS.writeFile path content
        return 0
      catch e =>
        (← IO.getStderr).putStr (Command.errorLine (.io (faultOfError e)))
        return 1
    | _ => return 0
  | code, _ => return UInt32.ofNat code

end Compaction.Program

open Compaction in
def main (words : List String) : IO UInt32 := do
  match Command.Options.ofWords? words with
  | none =>
    (← IO.getStderr).putStr Command.usage
    return 2
  | some o => Program.finish o (Command.execute o (← Program.worldOf o))
