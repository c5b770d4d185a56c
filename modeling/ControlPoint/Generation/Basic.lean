import ControlPoint.Class.Device
import ControlPoint.Description.Document
import ControlPoint.Description.Resolve
import ControlPoint.Generation.Source
import ControlPoint.Host.Path

/-!
What all classes of a run have in common: the choices that are made for them, why one cannot be written, and
how its file is.
-/

open ControlPoint.Class

namespace ControlPoint.Generation

open Host

/-- The choices for all classes of a run. -/
structure Choices where
  language : Language
  namespacePath : String
  /-- Whether every class is one part of a class whose other parts are written elsewhere. -/
  makesParts : Bool
  outputDirectory : String
  /-- Whether living services are asked for their state variables. -/
  testsVariables : Bool
  deriving Repr

/-- The options for one class. -/
def Choices.options (c : Choices) (className sourceType : String) : Options where
  className := className
  namespacePath := c.namespacePath
  isPart := c.makesParts
  sourceType := sourceType

/-- Why a class is not written. -/
inductive Fault
  | source (fault : SourceFault)
  | invalidService (location : Url)
  | invalidDevice (location : Url)
  | address (error : Description.AddressError)
  | incomplete (value : MissingValue)
  | notWritten (path : String) (fault : Host.Fault)
  deriving DecidableEq

def Fault.message : Fault → String
  | source fault => fault.message
  | invalidService location => "Invalid service description " ++ location.text
  | invalidDevice location => "Invalid device description " ++ location.text
  | address error => error.message
  | incomplete value => "Missing value " ++ value.name
  | notWritten path fault => "Cannot write " ++ path ++ ": " ++ fault.message

/-- A part of a run, which may fail. -/
abbrev Run (m : Type → Type) := ExceptT Fault m

variable {m : Type → Type} [Monad m] [Host m]

/-- The path of the file of a class. -/
def Choices.pathOf (c : Choices) (f : File) : String :=
  joinPath c.outputDirectory f.fileName

/-- Does something with the path of a file or directory for classes. -/
def writing (path : String) (action : m (Except Host.Fault Unit)) : Run m Unit := do
  match ← action with
  | .ok _ => return ()
  | .error fault => throw (.notWritten path fault)

/-- Writes the file of a class, in a directory that is made if it is missing. -/
def writeClass (c : Choices) (f : File) : Run m String := do
  writing c.outputDirectory (makeDirectories c.outputDirectory)
  writing (c.pathOf f) (writeFile (c.pathOf f) f.source)
  report (Log.info "Class written" [("class", f.className), ("path", c.pathOf f)])
  return c.pathOf f

/-- The text of a file, if nothing is missing in it. -/
def complete (file : Except MissingValue File) : Run m File :=
  match file with
  | .ok f => return f
  | .error value => throw (.incomplete value)

end ControlPoint.Generation
