import Mathlib
import ControlPoint.Description.Resolve
import ControlPoint.Description.Device

namespace ControlPoint.Description

namespace Device

mutual

/-- What holds of a device whenever it holds of those immediately inside it, holds of all devices.
    -/
@[elab_as_elim]
theorem induction {P : Device → Prop}
    (mk : ∀ info embedded, (∀ branch ∈ embedded, P branch.2) → P (.mk info embedded)) :
    (d : Device) → P d
  | .mk info embedded => mk info embedded (inductionIn mk embedded)
termination_by structural d => d

theorem inductionIn {P : Device → Prop}
    (mk : ∀ info embedded, (∀ branch ∈ embedded, P branch.2) → P (.mk info embedded)) :
    (branches : List (String × Device)) → ∀ branch ∈ branches, P branch.2
  | [] => by simp
  | (_, d) :: rest => List.forall_mem_cons.mpr ⟨induction mk d, inductionIn mk rest⟩
termination_by structural branches => branches

end

theorem allIn_eq (branches : List (String × Device)) :
    allIn branches = branches.flatMap fun branch => branch.2.all := by
  induction branches with
  | nil => rfl
  | cons branch rest ih => exact congrArg _ ih

theorem mem_all_self (d : Device) : d ∈ d.all := by
  cases d
  exact List.mem_cons_self ..

/-- What is immediately inside a device of a tree is in the tree. -/
theorem mem_all_of_mem_embedded {d : Device} {branch : String × Device}
    (hbranch : branch ∈ d.embedded) (root : Device) (hd : d ∈ root.all) : branch.2 ∈ root.all := by
  induction root using Device.induction with
  | mk info embedded ih =>
    rw [all, allIn_eq, List.mem_cons, List.mem_flatMap] at hd ⊢
    rcases hd with rfl | ⟨inner, hinner, hd⟩
    · exact .inr ⟨branch, hbranch, mem_all_self branch.2⟩
    · exact .inr ⟨inner, hinner, ih inner hinner hd⟩

end Device

/-! ### Trees without the addresses of some services

Descriptions that are the same without the addresses of one type of services say the same but of
where those services are.
-/

/-- The entry without its addresses, if it is for a service of the type. -/
def ServiceReference.withoutAddressesOf (type : String) (s : ServiceReference) : ServiceReference :=
  if s.serviceType = type then { s with scpdUrl := "", controlUrl := "", eventSubUrl := "" } else s

namespace ServiceReference

variable (type : String) (s : ServiceReference)

@[simp] theorem serviceType_withoutAddressesOf :
    (s.withoutAddressesOf type).serviceType = s.serviceType := by
  unfold withoutAddressesOf
  split <;> rfl

@[simp] theorem serviceId_withoutAddressesOf :
    (s.withoutAddressesOf type).serviceId = s.serviceId := by
  unfold withoutAddressesOf
  split <;> rfl

@[simp] theorem shortId_withoutAddressesOf :
    (s.withoutAddressesOf type).shortId = s.shortId := by
  unfold withoutAddressesOf
  split <;> rfl

variable {type s}

theorem withoutAddressesOf_of_ne (htype : s.serviceType ≠ type) : s.withoutAddressesOf type = s :=
  if_neg htype

end ServiceReference

namespace Device

mutual

/-- The device without the addresses of services of the type, in it or in any device inside it. -/
def withoutAddressesOf (type : String) : Device → Device
  | mk info embedded =>
    mk { info with services := info.services.mapValues (·.withoutAddressesOf type) }
      (withoutAddressesIn type embedded)
termination_by structural d => d

def withoutAddressesIn (type : String) : List (String × Device) → List (String × Device)
  | [] => []
  | (key, d) :: rest => (key, d.withoutAddressesOf type) :: withoutAddressesIn type rest
termination_by structural branches => branches

end

variable (type : String)

theorem withoutAddressesIn_eq (branches : List (String × Device)) :
    withoutAddressesIn type branches =
      branches.map fun branch => (branch.1, branch.2.withoutAddressesOf type) := by
  induction branches with
  | nil => rfl
  | cons branch rest ih => exact congrArg _ ih

theorem embedded_withoutAddressesOf (d : Device) :
    (d.withoutAddressesOf type).embedded =
      d.embedded.map fun branch => (branch.1, branch.2.withoutAddressesOf type) := by
  cases d with
  | mk info embedded => exact withoutAddressesIn_eq type embedded

@[simp] theorem deviceType_withoutAddressesOf (d : Device) :
    (d.withoutAddressesOf type).deviceType = d.deviceType := by
  cases d
  rfl

@[simp] theorem udn_withoutAddressesOf (d : Device) :
    (d.withoutAddressesOf type).udn = d.udn := by
  cases d
  rfl

@[simp] theorem friendlyName_withoutAddressesOf (d : Device) :
    (d.withoutAddressesOf type).info.friendlyName = d.info.friendlyName := by
  cases d
  rfl

theorem services_withoutAddressesOf (d : Device) :
    (d.withoutAddressesOf type).services = d.services.map (·.withoutAddressesOf type) := by
  cases d with
  | mk info embedded =>
    simp [services, withoutAddressesOf, Device.info, KeyedMap.mapValues, KeyedMap.values]

theorem all_withoutAddressesOf (d : Device) :
    (d.withoutAddressesOf type).all = d.all.map (·.withoutAddressesOf type) := by
  induction d using Device.induction with
  | mk info embedded ih =>
    have hbranches : allIn (withoutAddressesIn type embedded) =
        (allIn embedded).map (·.withoutAddressesOf type) := by
      rw [allIn_eq, allIn_eq, withoutAddressesIn_eq, List.flatMap_map, List.map_flatMap]
      exact List.flatMap_congr ih
    rw [all, List.map_cons, ← hbranches]
    rfl

theorem allServices_withoutAddressesOf (d : Device) :
    (d.withoutAddressesOf type).allServices =
      d.allServices.map fun x => (x.1.withoutAddressesOf type, x.2.withoutAddressesOf type) := by
  rw [allServices, allServices, all_withoutAddressesOf, List.flatMap_map, List.map_flatMap]
  refine List.flatMap_congr fun owner _ => ?_
  rw [services_withoutAddressesOf, List.map_map, List.map_map]
  rfl

end Device

/-- The description without the addresses of services of the type. -/
def DeviceDescription.withoutAddressesOf (type : String) (d : DeviceDescription) :
    DeviceDescription :=
  { d with device := d.device.withoutAddressesOf type }

/-- What an address means depends on the base alone. -/
theorem DeviceDescription.resolve_congr {d d' : DeviceDescription}
    (hbase : d.urlBase = d'.urlBase) :
    d.resolve = d'.resolve := by
  funext location text
  simp only [resolve, base?, hbase]

end ControlPoint.Description
