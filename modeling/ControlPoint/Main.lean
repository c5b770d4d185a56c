import ControlPoint.CommandLine.Run

/-!
The program on the machine that it is started on. Files are those of the system, reports go to the standard
error stream as far as the filter lets them pass, and no server can be reached.
-/

namespace ControlPoint.Main

open Host

/-- Runs on this machine, with the filter of reports once it is known. -/
abbrev System := ReaderT (Option Log.Filter) IO

/-- The fault that an error of the system stands for. -/
def faultOf (e : IO.Error) : Fault :=
  match e with
  | .noFileOrDirectory .. => .missing
  | .permissionDenied .. => .denied
  | .alreadyExists .. => .present
  | .inappropriateType .. => .notDirectory
  | other => .other (toString other)

/-- The outcome of an action on files. -/
def outcome {α : Type} (action : IO α) : System (Except Fault α) := do
  try
    return .ok (← action)
  catch e => return .error (faultOf e)

/-- An entry as a line. -/
def line (e : Log.Entry) : String :=
  let fields := e.fields.map fun (name, value) => " " ++ name ++ "=" ++ value
  e.level.name ++ " " ++ e.message ++ String.join fields

instance : Host System where
  realPath path := outcome do return toString (← IO.FS.realPath path)
  isPresent path := return (← outcome (IO.FS.realPath path)).isOk
  isDirectory path := return (← outcome do (← IO.FS.realPath path).isDir).toOption.getD false
  readFile path := outcome (IO.FS.readFile path)
  makeDirectories path := outcome (IO.FS.createDirAll path)
  writeFile path text := outcome (IO.FS.writeFile path text)
  removeFile path := outcome (IO.FS.removeFile path)
  send _ := return none
  report entry := do
    if (← read).any fun filter => filter.admits entry then IO.eprintln (line entry)

/-- The variables of the environment, as the system shows them. -/
def environment : IO Environment := do
  let text ← try IO.FS.readFile "/proc/self/environ" catch _ => pure ""
  let assignments := (Text.splitChar '\x00' text).filterMap fun entry =>
    (Text.cutAt '=' entry.toList).map fun (name, value) => (String.ofList name, String.ofList value)
  return ⟨assignments⟩

/-- Prints what a run printed, and tells its exit code. -/
def close (r : CommandLine.Result) : IO UInt32 := do
  IO.print r.output
  if let some message := r.error then IO.eprintln ("Error: " ++ message)
  return r.code.toUInt32

end ControlPoint.Main

open ControlPoint

/-- Runs the program. Reports are shown from the time on at which the filter for them is known. -/
def main (arguments : List String) : IO UInt32 := do
  let e ← Main.environment
  let prepared : Main.System (Except CommandLine.Result CommandLine.Ready) :=
    CommandLine.prepare e arguments
  match ← prepared.run none with
  | .error result => Main.close result
  | .ok ready =>
    let command : Main.System CommandLine.Result := CommandLine.runCommand ready.settings ready.command
    Main.close (← command.run (some ready.filter))
