import Compaction.Json.Fault

/-!
# Errors

* `ArgumentFault` : why the arguments of a stage cannot be used;
* `FileFault` : why a file or the standard input cannot be read or written;
* `ConfigFault` : why a config cannot be used;
* `Error` : why a processor cannot be built or a command cannot be carried out;
* `Error.message` : its wording.
-/

namespace Compaction

inductive ArgumentFault where
  | missing (processor argument : String)
  | notPositive (argument : String)
  /-- Another reason, in the words of the factory that gives it. -/
  | refused (reason : String)
  deriving DecidableEq

inductive FileFault where
  | notFound
  | isDirectory
  | notADirectory
  | nameTooLong
  | notText
  | other (reason : String) (code : Nat)
  deriving DecidableEq

inductive ConfigFault where
  | unreadable (fault : Json.Fault)
  | file (path : String) (fault : FileFault)
  | unknownArguments (stage : String) (names : List String)

inductive Error where
  | invalidArgument (fault : ArgumentFault)
  | unknownProcessor (name : String)
  | duplicateProcessor (name : String)
  | config (fault : ConfigFault)
  | io (fault : FileFault)
  | json (fault : Json.Fault)

namespace ArgumentFault

def message : ArgumentFault → String
  | missing processor argument => processor ++ " requires argument " ++ Json.backquoted argument
  | notPositive argument => argument ++ " must be a positive integer"
  | refused reason => reason

end ArgumentFault

namespace FileFault

def message : FileFault → String
  | notFound => "No such file or directory (os error 2)"
  | isDirectory => "Is a directory (os error 21)"
  | notADirectory => "Not a directory (os error 20)"
  | nameTooLong => "File name too long (os error 36)"
  | notText => "stream did not contain valid UTF-8"
  | other reason code => reason ++ " (os error " ++ toString code ++ ")"

end FileFault

namespace ConfigFault

def message : ConfigFault → String
  | unreadable fault => "failed to parse config: " ++ fault.message
  | file path fault => "failed to read " ++ path ++ ": " ++ fault.message
  | unknownArguments stage names =>
    "stage " ++ Json.backquoted stage ++ ": unknown argument(s) "
      ++ ", ".intercalate (names.map Json.backquoted)

end ConfigFault

namespace Error

def message : Error → String
  | invalidArgument fault => "invalid argument: " ++ fault.message
  | unknownProcessor name => "history processor (" ++ name ++ ") not found"
  | duplicateProcessor name => "history processor (" ++ name ++ ") is already registered"
  | config fault => "invalid config: " ++ fault.message
  | io fault => "I/O error: " ++ fault.message
  | json fault => "JSON error: " ++ fault.message

end Error

end Compaction
