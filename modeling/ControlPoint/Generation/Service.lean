import ControlPoint.Class.ServiceFile
import ControlPoint.Generation.Basic
import ControlPoint.Naming.ClassName
import ControlPoint.Soap.Client

/-!
The writing of the class of one service, from the document that describes it.
-/

open ControlPoint.Class

namespace ControlPoint.Generation

open Description Host Naming

/-- What is asked for in a run for one service. The control address is that of a living service. -/
structure ServiceRequest where
  source : String
  className : Option String
  serviceType : Option String
  controlUrl : Option String
  deriving Repr

/-- The name of a document without its ending. -/
def documentStem (location : Url) : String :=
  let name := location.pathSegments.getLast?.getD ""
  match Text.cutAtLast '.' name.toList with
  | some (stem, _) => if stem.isEmpty then name else String.ofList stem
  | none => name

/-- The name of the class that is asked for: the given one, else one from the type of the service, else
    one from the name of the document. -/
def ServiceRequest.chosenName (r : ServiceRequest) (location : Url) : String :=
  match r.className, r.serviceType.getD "" with
  | some name, _ => name
  | none, "" => serviceClassName (documentStem location)
  | none, serviceType => serviceClassName serviceType

variable {m : Type → Type} [Monad m] [Host m]

/-- Asks a service for state variables, one after another. -/
def askAll (client : Soap.Client) (names : List String) : m (List Answer) :=
  names.mapM fun name => do
    let answer ← client.ask name
    report (answer.report name)
    return answer

/-- The file of the class of a service. -/
def serviceFile (c : Choices) (s : ServiceDescription) (className serviceType : String)
    (controlUrl : Option String) : Run m File := do
  let options := c.options className serviceType
  let client := controlUrl.map fun url => (⟨url, serviceType⟩ : Soap.Client)
  reportAll (ServiceClass.testerReport c.testsVariables client)
  let answers ← (ServiceClass.tester c.testsVariables client).mapM fun client =>
    askAll client (ServiceClass.questions s)
  let declared := ServiceClass.declare c.language className s answers
  let file ← complete (declared.file options)
  reportAll (declared.report s)
  return file

/-- The description of a service in the document at an address. -/
def readService (location : Url) (document : String) : Run m ServiceDescription := do
  reportAll (ServiceDescription.parseLog document)
  match ServiceDescription.parse document with
  | .ok s => return s
  | .error _ => throw (.invalidService location)

/-- Writes the class of a service, and tells the path of its file. -/
def writeService (c : Choices) (r : ServiceRequest) : Run m String := do
  let source ← ExceptT.mk (Source.read r.source) |>.adapt Fault.source
  let s ← readService source.location source.text
  let file ← serviceFile c s (r.chosenName source.location) (r.serviceType.getD "") r.controlUrl
  writeClass c file

end ControlPoint.Generation
