import ControlPoint.CommandLine.Arguments
import ControlPoint.Log.Filter
import ControlPoint.Settings.Load

/-!
Runs of the program: what it prints, and how it ends.
-/

namespace ControlPoint.CommandLine

open Generation Host

/-- How a run ended: its exit code, what it printed, and why it failed if it did. -/
structure Result where
  code : Nat
  output : String
  error : Option String
  deriving DecidableEq, Repr

/-- A run that went well. -/
def Result.done (lines : List String) : Result :=
  ⟨0, String.join (lines.map (· ++ "\n")), none⟩

/-- A run that failed. -/
def Result.failed (message : String) : Result :=
  ⟨1, "", some message⟩

/-- What is printed where there is no command to run. -/
def Result.ofEnding : Ending → Result
  | .usage => ⟨2, "", none⟩
  | .help => ⟨0, "", none⟩
  | .version => .done ["pmogen " ++ generatorVersion]

variable {m : Type → Type} [Monad m] [Host m]

/-! ### Choices -/

/-- The filter of reports: the one in the environment if it is a filter, else the one that is chosen. -/
def filterOf (e : Environment) (level : String) : Except String Log.Filter :=
  match (e.get? "RUST_LOG").bind Log.Filter.read? with
  | some filter => .ok filter
  | none =>
    match Log.Filter.read? level with
    | some filter => .ok filter
    | none => .error ("Invalid log level " ++ level)

/-- The choices for classes, from the arguments where they make one and from the settings otherwise. -/
def choicesOf (s : Settings) (a : ClassArguments) : Except UnknownLanguage Choices := do
  let language ← match a.language with
    | some language => .ok language
    | none => Language.read s.language
  return {
    language := language
    namespacePath := a.namespacePath.getD s.namespaceName
    makesParts := a.makesParts || s.makesParts
    outputDirectory := a.output.getD s.outputDirectory
    testsVariables := a.testsVariables || s.testsVariables }

/-! ### Commands -/

/-- Writes classes as chosen, and prints the paths of their files. -/
def runGeneration (s : Settings) (a : ClassArguments) (write : Choices → Run m (List String)) :
    m Result := do
  match choicesOf s a with
  | .error unknown => return .failed unknown.message
  | .ok choices =>
    reportAll s.timeout.2
    match ← (write choices).run with
    | .ok paths => return .done paths
    | .error fault => return .failed fault.message

/-- Invokes an action, and prints the values that come out of it. -/
def runInvoke (s : Settings) (client : Soap.Client) (action : String)
    (arguments : List (String × String)) : m Result := do
  reportAll s.timeout.2
  match ← client.invoke action arguments with
  | .error _ => return .failed ("Action " ++ action ++ " failed")
  | .ok values =>
    report (Log.info "Action invoked" [("action", action), ("outputs", toString values.length)])
    return .done (values.map fun (name, value) => name ++ " = " ++ value)

/-- Makes assignments to settings, and prints all settings afterwards. -/
def runConfig (s : Settings) : List (String × String) → m Result
  | [] => return ⟨0, "# " ++ s.path ++ "\n" ++ s.text, none⟩
  | (path, text) :: rest => do
    match ← s.putText path text with
    | (s, .ok _) => runConfig s rest
    | (_, .error _) => return .failed ("Cannot set " ++ path)

/-- Runs a command. -/
def runCommand (s : Settings) : Command → m Result
  | .service request a => runGeneration s a fun c => return [← writeService c request]
  | .device request a => runGeneration s a fun c => writeDevice c request
  | .invoke controlUrl serviceType action arguments =>
    runInvoke s ⟨controlUrl, serviceType⟩ action arguments
  | .config assignments => runConfig s assignments

/-- What is known once the arguments and the settings are read: the command, and which reports are shown
    while it runs. -/
structure Ready where
  settings : Settings
  filter : Log.Filter
  command : Command

/-- Reads the arguments and the settings, unless that ends the run. -/
def prepare (e : Environment) (arguments : List String) : m (Except Result Ready) := do
  match Invocation.read arguments with
  | .error ending => return .error (.ofEnding ending)
  | .ok invocation =>
    match ← Settings.load e (invocation.configDirectory.getD "") with
    | .error _ => return .error (.failed "Cannot load configuration")
    | .ok s =>
      match filterOf e (invocation.logLevel.getD s.logLevel) with
      | .error message => return .error (.failed message)
      | .ok filter => return .ok ⟨s, filter, invocation.command⟩

/-- Runs the program. -/
def run (e : Environment) (arguments : List String) : m Result := do
  match ← prepare e arguments with
  | .error result => return result
  | .ok ready => runCommand ready.settings ready.command

end ControlPoint.CommandLine
