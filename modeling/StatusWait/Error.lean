/-!
# Errors

What can go wrong before a wait starts, and what can go wrong while it polls.

## The model

A `SetupError` is found in a configuration, in a status text or in a file. A
`PollError` is found when a wait is put together or when a resource is looked up
again; it may carry a setup error, whose text it keeps. Three questions are asked of
an error: its text, whether the caller's configuration is at fault, and whether it
leaves the status of the resource open.
-/

namespace StatusWait

/-- Why a file could not be read as text. -/
inductive FileFault
  | notFound
  | isDirectory
  | notUtf8
  /-- The system gave another reason. -/
  | other (text : String)
deriving DecidableEq, Repr

/-- The reason in words. -/
def FileFault.message : FileFault → String
  | notFound => "No such file or directory (os error 2)"
  | isDirectory => "Is a directory (os error 21)"
  | notUtf8 => "stream did not contain valid UTF-8"
  | other text => text

/-- What can go wrong before any polling. -/
inductive SetupError
  /-- The configuration contradicts itself. -/
  | invalidConfig (reason : String)
  | configParseFailed (reason : String)
  | unknownStatus (value : String)
  | file (fault : FileFault)
deriving DecidableEq, Repr

namespace SetupError

/-- The text of the error. -/
def message : SetupError → String
  | invalidConfig reason => "invalid configuration: " ++ reason
  | configParseFailed reason => "TOML parse error: " ++ reason
  | unknownStatus value => "unknown status '" ++ value ++ "'"
  | file fault => "I/O error: " ++ fault.message

/-- The caller's configuration is at fault. -/
def isConfig : SetupError → Bool
  | invalidConfig _ | configParseFailed _ | unknownStatus _ => true
  | file _ => false

end SetupError

/-- What can go wrong around polling. -/
inductive PollError
  /-- The wait is put together wrongly. -/
  | invalidConfig (reason : String)
  | transport (id reason : String)
  | identityMismatch (expected actual : String)
  /-- An error of the setup, passed on. -/
  | setup (error : SetupError)
deriving DecidableEq, Repr

namespace PollError

/-- The text of the error; an error of the setup keeps its own. -/
def message : PollError → String
  | invalidConfig reason => "invalid configuration: " ++ reason
  | transport id reason => "transport failure refreshing '" ++ id ++ "': " ++ reason
  | identityMismatch expected actual =>
      "refresh of '" ++ expected ++ "' returned resource '" ++ actual ++ "'"
  | setup error => error.message

/-- The caller's configuration is at fault. -/
def isConfig : PollError → Bool
  | invalidConfig _ => true
  | setup error => error.isConfig
  | transport _ _ | identityMismatch _ _ => false

/-- The error leaves open what the status of the resource is. -/
def isInconclusive : PollError → Bool
  | transport _ _ | identityMismatch _ _ => true
  | invalidConfig _ | setup _ => false

/-! ### Small facts -/

@[simp] theorem message_setup (e : SetupError) : (setup e).message = e.message := rfl

@[simp] theorem isConfig_setup (e : SetupError) : (setup e).isConfig = e.isConfig := rfl

end PollError

end StatusWait
