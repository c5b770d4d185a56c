import ControlPoint.Generation.Plan
import ControlPoint.Generation.Service

/-!
The writing of the classes for a device and all that is in it: on request one for every type of service
that can be read, and then one for every type of device. A class of a service that cannot be written is
reported and left out.
-/

open ControlPoint.Class

namespace ControlPoint.Generation

open Description Host

/-- What is asked for in a run for a device. -/
structure DeviceRequest where
  source : String
  withServices : Bool
  deriving Repr

variable {m : Type → Type} [Monad m] [Host m]

/-- The address meant by a text in the description of a device. -/
def resolveIn (d : DeviceDescription) (location : Url) (text : String) : Run m Url :=
  match d.resolve (some location.text) text with
  | .ok url => return url
  | .error error => throw (.address error)

/-- Writes the class of a service of a device. Gives the class and the path of its file. -/
def writeEmbedded (c : Choices) (d : DeviceDescription) (location : Url) (s : ServiceReference)
    (className : String) : Run m (String × String) := do
  let url ← resolveIn d location s.scpdUrl
  let document ← ExceptT.mk (readAddress url) |>.adapt Fault.source
  let service ← readService url document
  let controlUrl ←
    if c.testsVariables then
      let control ← resolveIn d location s.controlUrl
      pure (some control.text)
    else pure none
  let file ← serviceFile c service className s.serviceType controlUrl
  return (file.className, ← writeClass c file)

/-- Tries to write the class of a service, and reports it if that fails. -/
def tryEmbedded (c : Choices) (d : DeviceDescription) (location : Url) (owner : Device)
    (s : ServiceReference) (className : String) : m (Option (String × String)) := do
  match ← (writeEmbedded c d location s className).run with
  | .ok written => return some written
  | .error fault =>
    report (Log.warn "Service class skipped"
      [("device", owner.udn), ("service", s.serviceId), ("error", fault.message)])
    return none

/-- What came of the services so far, and the paths of the files that were written. -/
structure Progress where
  outcomes : Outcomes
  paths : List String

/-- Writes the class of a service, unless its type was tried before. -/
def writeNext (c : Choices) (d : DeviceDescription) (location : Url) (p : Plan) (done : Progress)
    (owner : Device) (s : ServiceReference) : m Progress := do
  let isTried := done.outcomes.any fun (known, _) => known == s.serviceType
  let done ← match if isTried then none else p.services.find? s.serviceType with
    | none => pure done
    | some className =>
      let written ← tryEmbedded c d location owner s className
      pure { done with
        outcomes := done.outcomes ++ [(s.serviceType, written.map Prod.fst)]
        paths := done.paths ++ (written.map Prod.snd).toList }
  if (done.outcomes.written? s.serviceType).isSome && Text.isBlankText s.serviceId then
    report (Log.debug "Service without serviceId" [("service_type", s.serviceType)])
  return done

/-- Writes the classes of the services of a device and of all devices in it. -/
def writeServices (c : Choices) (d : DeviceDescription) (location : Url) (p : Plan) : m Progress :=
  d.device.allServices.foldlM (fun done (owner, s) => writeNext c d location p done owner s) ⟨[], []⟩

/-- Writes the class of a device, and tells the path of its file. -/
def writeDeviceClass (c : Choices) (d : Device) (className : String) (children : ChildClasses) :
    Run m String := do
  let declared := DeviceClass.declare c.language className d children
  let file ← complete (declared.file d (c.options className d.deviceType))
  reportAll (declared.report d children)
  writeClass c file

/-- The description of a device in a document. -/
def readDevice (source : Source) : Run m DeviceDescription := do
  reportAll (DeviceDescription.parseLog source.text)
  match DeviceDescription.parse source.text with
  | .ok d => return d
  | .error _ => throw (.invalidDevice source.location)

/-- Writes the classes for a device whose description was read from an address, and tells the paths of
    their files in the order of writing. -/
def writeTree (c : Choices) (withServices : Bool) (d : DeviceDescription) (location : Url) :
    Run m (List String) := do
  let p := Plan.of d.device withServices
  let done ← if withServices then ExceptT.lift (writeServices c d location p) else pure ⟨[], []⟩
  let unnamed := d.device.all.filter fun device => Text.isBlankText device.udn
  reportAll (unnamed.map fun device =>
    Log.debug "Device without UDN" [("device_type", device.deviceType)])
  let children := p.children d.device done.outcomes
  let paths ← (p.deviceFiles d.device).mapM fun (device, className) =>
    writeDeviceClass c device className children
  let all := done.paths ++ paths
  report (Log.info "Device generation complete"
    [("files", toString all.length), ("source", location.text)])
  return all

/-- Writes the classes for a device. -/
def writeDevice (c : Choices) (r : DeviceRequest) : Run m (List String) := do
  let source ← ExceptT.mk (Source.read r.source) |>.adapt Fault.source
  let d ← readDevice source
  writeTree c r.withServices d source.location

end ControlPoint.Generation
