import ControlPoint.Http.Basic
import ControlPoint.Log

/-!
What a run needs of the machine that it runs on: files, servers, and a place for its reports.
-/

namespace ControlPoint

namespace Host

/-- Why an operation on files fails. -/
inductive Fault
  | missing
  | denied
  | present
  | notDirectory
  | isDirectory
  | nameTooLong
  | other (message : String)
  deriving DecidableEq, Repr

/-- The words of the system for a fault. -/
def Fault.message : Fault → String
  | missing => "No such file or directory (os error 2)"
  | denied => "Permission denied (os error 13)"
  | present => "File exists (os error 17)"
  | notDirectory => "Not a directory (os error 20)"
  | isDirectory => "Is a directory (os error 21)"
  | nameTooLong => "File name too long (os error 36)"
  | other message => message

end Host

/-- A machine, as far as runs make use of it. -/
class Host (m : Type → Type) where
  /-- The absolute path of what is at a path, without detours. -/
  realPath (path : String) : m (Except Host.Fault String)
  /-- Whether there is anything at a path. -/
  isPresent (path : String) : m Bool
  /-- Whether there is a directory at a path. -/
  isDirectory (path : String) : m Bool
  /-- The text of the file at a path. -/
  readFile (path : String) : m (Except Host.Fault String)
  /-- Makes the directory at a path with all that it lies in, unless it is there. -/
  makeDirectories (path : String) : m (Except Host.Fault Unit)
  /-- Writes a file, in place of the one that may be at the path. -/
  writeFile (path text : String) : m (Except Host.Fault Unit)
  /-- Removes the file at a path. -/
  removeFile (path : String) : m (Except Host.Fault Unit)
  /-- Sends a request, which a server need not answer. -/
  send (request : Http.Request) : m (Option Http.Response)
  /-- Takes down a report. -/
  report (entry : Log.Entry) : m Unit

namespace Host

/-- Takes down several reports. -/
def reportAll {m : Type → Type} [Monad m] [Host m] (entries : List Log.Entry) : m Unit :=
  entries.forM report

/-- A run that may fail has the machine of the run inside it. -/
instance {ε : Type} {m : Type → Type} [Monad m] [Host m] : Host (ExceptT ε m) where
  realPath path := ExceptT.lift (realPath path)
  isPresent path := ExceptT.lift (isPresent path)
  isDirectory path := ExceptT.lift (isDirectory path)
  readFile path := ExceptT.lift (readFile path)
  makeDirectories path := ExceptT.lift (makeDirectories path)
  writeFile path text := ExceptT.lift (writeFile path text)
  removeFile path := ExceptT.lift (removeFile path)
  send request := ExceptT.lift (send request)
  report entry := ExceptT.lift (report entry)

/-- The variables of the environment, each under its own name. -/
structure Environment where
  assignments : List (String × String)

/-- The value of a variable. -/
def Environment.get? (e : Environment) (name : String) : Option String :=
  (e.assignments.find? fun (known, _) => known == name).map Prod.snd

end Host

end ControlPoint
