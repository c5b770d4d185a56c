import ControlPoint.Host.Disk
import ControlPoint.Host.Server

/-!
A machine in memory: a file system, at most one server that can be reached, and the reports of what ran
on it.
-/

namespace ControlPoint.Host

/-- A machine in memory. -/
structure Machine where
  disk : Disk
  server : Option Server
  log : List Log.Entry

namespace Machine

/-- Changes the file system, unless that fails. -/
def onDisk (f : Disk → Except Fault Disk) : StateM Machine (Except Fault Unit) := do
  let machine ← get
  match f machine.disk with
  | .ok disk =>
    set { machine with disk := disk }
    return .ok ()
  | .error fault => return .error fault

/-- Sends a request to the server, if there is one. -/
def send (request : Http.Request) : StateM Machine (Option Http.Response) := do
  let machine ← get
  match machine.server with
  | some server =>
    let (response, server) := server.send request
    set { machine with server := some server }
    return response
  | none => return none

instance : Host (StateM Machine) where
  realPath path := return ((← get).disk.look path).map fun (l, _) => Disk.pathOf l
  isPresent path := return ((← get).disk.look path).isOk
  isDirectory path := return (← get).disk.hasDirectory path
  readFile path := return (← get).disk.readFile path
  makeDirectories path := onDisk (·.makeDirectories path)
  writeFile path text := onDisk (·.writeFile path text)
  removeFile path := onDisk (·.removeFile path)
  send := send
  report entry := modify fun machine => { machine with log := machine.log ++ [entry] }

end Machine

end ControlPoint.Host
