import Mathlib
import ControlPoint.Class.Device
import ControlPoint.Proofs.Lists

namespace ControlPoint.Class

open Description Naming Template

namespace DeviceClass

/-- The devices directly inside that can be told by their unique names. -/
def namedDevices (d : Device) : List Device :=
  (d.embedded.map Prod.snd).filter fun child => !Text.isBlankText child.udn

/-- The services that can be told by their identifiers. -/
def namedServices (d : Device) : List ServiceReference :=
  d.services.filter fun s => !Text.isBlankText s.serviceId

theorem childDevices_ids (d : Device) :
    (childDevices d).map Child.id = (namedDevices d).map Device.udn := by
  rw [childDevices, filterMap_eq_map_filter, List.map_map]
  rfl

theorem childServices_ids (d : Device) :
    (childServices d).map Child.id = (namedServices d).map ServiceReference.serviceId := by
  rw [childServices, filterMap_eq_map_filter, List.map_map]
  rfl

theorem childProperties_cons (l : Language) (classes : ChildClasses) (names : Scope)
    (pool : ConstantPool) (child : Child) (rest : List Child) :
    childProperties l classes names pool (child :: rest) =
      let name := names.freeName (sanitize .type child.shortName)
      let constant := pool.get child.group child.shortName child.id child.comment
      let others := childProperties l classes (names.reserve name) constant.2 rest
      (⟨l.escape name, constant.1, child.summary,
        (classes.find? child.id).map (l.identifier .type)⟩ :: others.1, others.2) := rfl

/-- A property is of the class that stands for the child's identifier, if there is one. -/
theorem childProperties_specific (l : Language) (classes : ChildClasses) (names : Scope)
    (pool : ConstantPool) (children : List Child) :
    (childProperties l classes names pool children).1.map ChildProperty.specific =
      (children.map Child.id).map fun id => (classes.find? id).map (l.identifier .type) := by
  induction children generalizing names pool with
  | nil => rfl
  | cons child rest ih =>
    rw [childProperties_cons, List.map_cons, List.map_cons, List.map_cons, ih]

theorem declare_devices (l : Language) (className : String) (d : Device) (classes : ChildClasses) :
    (declare l className d classes).devices.map ChildProperty.specific =
      (namedDevices d).map fun child => (classes.find? child.udn).map (l.identifier .type) := by
  have hspecific (names : Scope) (pool : ConstantPool) :=
    childProperties_specific l classes names pool (childDevices d)
  simp only [childDevices_ids, List.map_map] at hspecific
  exact hspecific _ _

theorem declare_services (l : Language) (className : String) (d : Device) (classes : ChildClasses) :
    (declare l className d classes).services.map ChildProperty.specific =
      (namedServices d).map fun s => (classes.find? s.serviceId).map (l.identifier .type) := by
  have hspecific (names : Scope) (pool : ConstantPool) :=
    childProperties_specific l classes names pool (childServices d)
  simp only [childServices_ids, List.map_map] at hspecific
  exact hspecific _ _

end DeviceClass

end ControlPoint.Class
