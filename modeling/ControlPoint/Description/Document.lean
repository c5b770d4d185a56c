import ControlPoint.Description.Tree

/-!
The reading of whole description documents. A document is scanned as far as its root element goes;
a fault up to there, or the absence of the root element, is an error.
-/

namespace ControlPoint.Description

open Markup

/-- Why a document is no description. -/
inductive DocumentError
  | markup (position : Nat) (fault : Fault)
  | missingRoot (kind : NodeKind)
  deriving DecidableEq, Repr

def DocumentError.message : DocumentError → String
  | .markup position fault => "XML syntax error at byte " ++ toString position ++ ": " ++ fault.message
  | .missingRoot kind => "Missing <" ++ kind.elementName ++ "> root element"

/-- The node of the first element of a kind, from the scan of a document. The scan's fault counts
    only if the element is still open there or has not begun. -/
def Node.ofScan (rootKind : NodeKind) (scan : Scan) : Except DocumentError Node :=
  let progress := Progress.run rootKind .before (scan.tokens.map Prod.fst)
  match progress.isComplete, scan.ending with
  | false, .error (position, fault) => .error (.markup position fault)
  | _, _ =>
    match progress.finish? with
    | some node => .ok node
    | none => .error (.missingRoot rootKind)

/-- What the reading of a root element from a scan reports. -/
def Node.scanLog (rootKind : NodeKind) (scan : Scan) : List Log.Entry :=
  let tokens := scan.tokens.map Prod.fst
  let reading := Progress.runLog rootKind .before tokens
  match scan.ending with
  | .error _ => reading
  | .ok _ => reading ++ (Progress.run rootKind .before tokens).finishLog

/-- The description of a service, from the scan of its document. -/
def ServiceDescription.ofScan (scan : Scan) : Except DocumentError ServiceDescription := do
  match ← Node.ofScan .scpd scan with
  | .scpd s => return s.resolveReferences
  | _ => .error (.missingRoot .scpd)

/-- The description of a service, from its document. -/
def ServiceDescription.parse (document : String) : Except DocumentError ServiceDescription :=
  ServiceDescription.ofScan (.ofDocument document)

/-- What the reading of a service description reports. -/
def ServiceDescription.parseLog (document : String) : List Log.Entry :=
  Node.scanLog .scpd (.ofDocument document) ++
    match ServiceDescription.parse document with
    | .error _ => []
    | .ok s => s.referenceLog ++ [Log.debug "Service description parsed"
        [("actions", toString s.actions.size), ("state_variables", toString s.stateVariables.size)]]

/-- The description of a device, from the scan of its document. -/
def DeviceDescription.ofScan (scan : Scan) : Except DocumentError DeviceDescription := do
  match ← Node.ofScan .root scan with
  | .root d => return d
  | _ => .error (.missingRoot .root)

/-- The description of a device, from its document. -/
def DeviceDescription.parse (document : String) : Except DocumentError DeviceDescription :=
  DeviceDescription.ofScan (.ofDocument document)

/-- What the reading of a device description reports. -/
def DeviceDescription.parseLog (document : String) : List Log.Entry :=
  Node.scanLog .root (.ofDocument document) ++
    match DeviceDescription.parse document with
    | .error _ => []
    | .ok d => [Log.debug "Device description parsed"
        [("udn", d.device.udn), ("devices", toString d.device.all.length)]]

end ControlPoint.Description
