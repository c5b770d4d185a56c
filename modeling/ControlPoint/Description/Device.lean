import ControlPoint.Description.Service
import ControlPoint.Description.Urn

/-!
The description of a device: a tree of devices, each with its icons and its services.
-/

namespace ControlPoint.Description

open Markup

/-- An icon of a device. Measures that are no numbers are absent. -/
structure Icon where
  element : Element
  mimeType : String
  width : Option Nat
  height : Option Nat
  depth : Option Nat
  url : String
  deriving DecidableEq, Repr

def Icon.blank (element : Element) : Icon := ⟨element, "", none, none, none, ""⟩

/-- An entry of a device's service list: where a service is described, controlled and watched. -/
structure ServiceReference where
  element : Element
  serviceType : String
  serviceId : String
  scpdUrl : String
  controlUrl : String
  eventSubUrl : String
  deriving DecidableEq, Repr

def ServiceReference.blank (element : Element) : ServiceReference :=
  ⟨element, "", "", "", "", ""⟩

instance : Described ServiceReference := ⟨.service, ServiceReference.serviceId⟩

def ServiceReference.shortTypeName (s : ServiceReference) : String := shortName s.serviceType

/-- The short name of the identifier, or of the type where the identifier has none. -/
def ServiceReference.shortId (s : ServiceReference) : String :=
  let id := shortName s.serviceId
  if id == "" then s.shortTypeName else id

/-- What a device says about itself, apart from the devices inside it. -/
structure DeviceInfo where
  element : Element
  deviceType : String
  friendlyName : String
  manufacturer : String
  manufacturerUrl : String
  modelDescription : String
  modelName : String
  modelNumber : String
  modelUrl : String
  serialNumber : String
  udn : String
  upc : String
  presentationUrl : String
  icons : List Icon
  services : KeyedMap ServiceReference

def DeviceInfo.blank (element : Element) : DeviceInfo :=
  ⟨element, "", "", "", "", "", "", "", "", "", "", "", "", [], .empty⟩

/-- A device with the devices inside it, under their keys and in order. -/
inductive Device where
  | mk (info : DeviceInfo) (embedded : List (String × Device))

namespace Device

def info : Device → DeviceInfo
  | mk info _ => info

/-- The devices immediately inside, with their keys. -/
def embedded : Device → List (String × Device)
  | mk _ embedded => embedded

def udn (d : Device) : String := d.info.udn

def deviceType (d : Device) : String := d.info.deviceType

def services (d : Device) : List ServiceReference := d.info.services.values

def shortTypeName (d : Device) : String := shortName d.deviceType

def blank (element : Element) : Device := mk (.blank element) []

mutual

/-- The first device with an identifier, the device itself first and each branch before the next. -/
def find? (udn : String) : Device → Option Device
  | mk info embedded =>
    if info.udn == udn then some (mk info embedded) else findIn? udn embedded
termination_by structural d => d

/-- The first device with an identifier in a list of branches. -/
def findIn? (udn : String) : List (String × Device) → Option Device
  | [] => none
  | (_, d) :: rest =>
    match find? udn d with
    | some found => some found
    | none => findIn? udn rest
termination_by structural branches => branches

end

mutual

/-- The device and all devices inside it, each before those inside it. -/
def all : Device → List Device
  | mk info embedded => mk info embedded :: allIn embedded
termination_by structural d => d

/-- The devices of a list of branches, branch after branch. -/
def allIn : List (String × Device) → List Device
  | [] => []
  | (_, d) :: rest => all d ++ allIn rest
termination_by structural branches => branches

end

/-- Every service of the tree with the device that it belongs to. -/
def allServices (d : Device) : List (Device × ServiceReference) :=
  d.all.flatMap fun owner => owner.services.map fun s => (owner, s)

end Device

instance : Described Device := ⟨.device, Device.udn⟩

/-- The description of a device. -/
structure DeviceDescription where
  element : Element
  specVersion : SpecVersion
  urlBase : String
  device : Device

def DeviceDescription.blank (element : Element) : DeviceDescription :=
  ⟨element, ⟨0, 0⟩, "", .blank default⟩

end ControlPoint.Description
