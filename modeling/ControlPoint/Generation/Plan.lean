import ControlPoint.Class.Device
import ControlPoint.Naming.ClassName

/-!
The plan of a run for a device: which classes are written, under which names, and which of them stand for
which children. Names are given out before anything is written, to the types of devices first, so they do
not depend on which classes can be written.
-/

open ControlPoint.Class

namespace ControlPoint.Generation

open Description Naming

/-- Names of classes by the types that they are for, in the order in which they were given out. -/
abbrev ClassNames := List (String × String)

/-- The name for a type. -/
def ClassNames.find? (names : ClassNames) (type : String) : Option String :=
  (List.find? (fun (known, _) => known == type) names).map Prod.snd

/-- Gives out names for the types that have none yet. -/
def nameTypes (wanted : String → String) (scope : Scope) (names : ClassNames) :
    List String → ClassNames × Scope
  | [] => (names, scope)
  | type :: rest =>
    if (names.find? type).isSome then nameTypes wanted scope names rest
    else
      let (name, scope) := scope.allocate (wanted type)
      nameTypes wanted scope (names ++ [(type, name)]) rest

/-- The names of the classes of a run: those for types of devices and those for types of services. -/
structure Plan where
  devices : ClassNames
  services : ClassNames
  deriving DecidableEq, Repr

/-- The plan for a tree of devices. No two names differ in nothing but the case of letters. -/
def Plan.of (root : Device) (withServices : Bool) : Plan :=
  let (devices, scope) :=
    nameTypes deviceClassName (.empty .insensitive) [] (root.all.map Device.deviceType)
  let types := root.allServices.map fun (_, s) => s.serviceType
  let (services, _) := nameTypes serviceClassName scope [] (if withServices then types else [])
  ⟨devices, services⟩

/-- What came of the classes of services: the class for each type that was tried, if it was written. -/
abbrev Outcomes := List (String × Option String)

/-- The class that was written for a type of services. -/
def Outcomes.written? (o : Outcomes) (serviceType : String) : Option String :=
  ((List.find? (fun (known, _) => known == serviceType) o).map Prod.snd).join

/-- The classes for services by their identifiers, in the order of the tree. -/
def serviceClasses (root : Device) (o : Outcomes) : ChildClasses :=
  root.allServices.filterMap fun (_, s) =>
    if Text.isBlankText s.serviceId then none
    else (o.written? s.serviceType).map fun name => (s.serviceId, name)

/-- The classes for devices by their unique names, in the order of the tree. -/
def deviceClasses (root : Device) (names : ClassNames) : ChildClasses :=
  root.all.filterMap fun d =>
    if Text.isBlankText d.udn then none
    else (names.find? d.deviceType).map fun name => (d.udn, name)

/-- The classes that stand for children. Where an identifier occurs more than once, the first class
    counts, and one for a service before one for a device. -/
def Plan.children (p : Plan) (root : Device) (o : Outcomes) : ChildClasses :=
  serviceClasses root o ++ deviceClasses root p.devices

/-- The devices whose classes are written: of each type the first one in the tree. -/
def firstOfTypes (seen : List String) : List Device → List Device
  | [] => []
  | d :: rest =>
    if seen.contains d.deviceType then firstOfTypes seen rest
    else d :: firstOfTypes (d.deviceType :: seen) rest

/-- The classes of devices that are written, with the device that each is written for. -/
def Plan.deviceFiles (p : Plan) (root : Device) : List (Device × String) :=
  (firstOfTypes [] root.all).filterMap fun d => (p.devices.find? d.deviceType).map fun name => (d, name)

end ControlPoint.Generation
