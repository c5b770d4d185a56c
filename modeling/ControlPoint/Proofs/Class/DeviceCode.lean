import Mathlib
import ControlPoint.Proofs.Class.Device
import ControlPoint.Proofs.Class.ServiceCode

namespace ControlPoint.Class

open Description Naming Template

namespace DeviceClass

variable (c : DeviceClass) (d : Device) (o : Options)

/-! ### The code of the class -/

/-- The property for something that the device says of itself. -/
def informationCode (x : String × String × String × String) : Code :=
  .block .deviceInfoProperty x.2.2.1
    [("doc", docCode x.2.2.2 ""), ("scope", c.language.visibilityWord o.visibility),
      ("name", x.1), ("member", x.2.2.1)]

/-- The property for a child. -/
def childCode (kind : Kind) (generic : String) (p : ChildProperty) : Code :=
  .block kind p.summary
    [("doc", docCode p.summary ""), ("scope", c.language.visibilityWord o.visibility),
      ("name", p.name), ("type", p.specific.getD generic), ("constant", p.constant),
      ("specific", p.specific.isSome)]

theorem informationText_eq (x : String × String × String × String) :
    c.informationText o x.1 x.2.2.1 x.2.2.2 = .ok ((c.informationCode o x).text c.language) := by
  refine Code.bind_text (docComment_eq c.language _ _) ?_
  exact c.language.render_eq_fill rfl

theorem childText_eq {kind : Kind} (hkind : kind ∈ [Kind.deviceProperty, Kind.serviceProperty])
    (generic : String) (p : ChildProperty) :
    c.childText o kind generic p = .ok ((c.childCode o kind generic p).text c.language) := by
  refine Code.bind_text (docComment_eq c.language _ _) ?_
  refine c.language.render_eq_fill ?_
  simp only [List.mem_cons, List.not_mem_nil, or_false] at hkind
  rcases hkind with rfl | rfl <;> rfl

/-- The regions of the class, with what is in each. -/
def sections : List (String × List Code) :=
  [("Constants", c.constants.code c.language o.visibility),
    ("Device information", (c.information.zip informationMembers).map (c.informationCode o)),
    ("Devices", c.devices.map (c.childCode o .deviceProperty genericDeviceType)),
    ("Services", c.services.map (c.childCode o .serviceProperty genericServiceType))]

theorem sections_text_ne_empty :
    ∀ entry ∈ c.sections o, ∀ part ∈ entry.2, part.text c.language ≠ "" := by
  simp only [sections, List.forall_mem_cons, ConstantPool.code, List.forall_mem_map]
  refine ⟨?groups, ?information, ?devices, ?services, by simp⟩
  all_goals
    intro _ _
    exact Code.text_block_ne_empty c.language (by decide) rfl

/-- The class. -/
def code : Code :=
  .block .deviceClass d.deviceType
    [("header", o.header), ("namespace", o.namespaceName c.language),
      ("doc", docCode (summary d) ""), ("scope", c.language.visibilityWord o.visibility),
      ("partial", o.isPart), ("class_name", c.language.escape c.name),
      ("body", .joined "\n\n" ((c.sections o).flatMap fun entry => regionCode entry.1 entry.2))]

/-- The source of a class is always written, and it is that of its code in blocks. -/
theorem source_eq : c.source d o = .ok ((c.code d o).text c.language) := by
  refine Code.bind_text (Code.joinAll_text (fun x _ => c.informationText_eq o x) "\n\n") ?_
  refine Code.bind_text (c.constants.definitions_eq c.language o.visibility) ?_
  refine Code.bind_text
    (Code.joinAll_text (fun p _ => c.childText_eq o (by decide) genericDeviceType p) "\n\n") ?_
  refine Code.bind_text
    (Code.joinAll_text (fun p _ => c.childText_eq o (by decide) genericServiceType p) "\n\n") ?_
  refine Code.bind_text (regions_eq c.language (c.sections o) (c.sections_text_ne_empty o)) ?_
  refine Code.bind_text (docComment_eq c.language _ _) ?_
  exact c.language.render_eq_fill rfl

theorem file_eq : c.file d o =
    .ok (File.of c.language c.name o.isPart ((c.code d o).text c.language)) := by
  rw [file, source_eq]
  rfl

/-! ### The class without a class for some services -/

/-- A service as the class of a device knows it. -/
def serviceChild (s : ServiceReference) : Child :=
  { id := s.serviceId, shortName := s.shortId, group := ConstantPool.serviceIds,
    comment := s.serviceType, summary := "The " ++ s.serviceType ++ " service." }

theorem childServices_eq : childServices d = (namedServices d).map serviceChild :=
  filterMap_eq_map_filter d.services _ serviceChild

/-- The property with the generic type, if it is for a service of the type. -/
def untypedFor (type : String) (s : ServiceReference) (p : ChildProperty) : ChildProperty :=
  if s.serviceType = type then { p with specific := none } else p

/-- The class with the generic type for services of a type, and else as it is. -/
def untyped (type : String) : DeviceClass :=
  { c with services := List.zipWith (untypedFor type) (namedServices d) c.services }

/-- The properties are the same for classes that are the same for the children. -/
theorem childProperties_congr (l : Language) {classes classes' : ChildClasses}
    {children : List Child}
    (hclasses : ∀ child ∈ children, classes'.find? child.id = classes.find? child.id)
    (names : Scope) (pool : ConstantPool) :
    childProperties l classes' names pool children =
      childProperties l classes names pool children := by
  induction children generalizing names pool with
  | nil => rfl
  | cons child rest ih =>
    rw [List.forall_mem_cons] at hclasses
    simp only [childProperties_cons, ih hclasses.2, hclasses.1]

/-- Where the classes differ in nothing but that there is none for services of a type, the
    properties for these services have the generic type. Names and constants do not depend on the
    classes. -/
theorem childProperties_untyped (l : Language) {classes classes' : ChildClasses} {type : String}
    {services : List ServiceReference}
    (hclasses : ∀ s ∈ services, classes'.find? s.serviceId =
      if s.serviceType = type then none else classes.find? s.serviceId)
    (names : Scope) (pool : ConstantPool) :
    childProperties l classes' names pool (services.map serviceChild) =
      let typed := childProperties l classes names pool (services.map serviceChild)
      (List.zipWith (untypedFor type) services typed.1, typed.2) := by
  induction services generalizing names pool with
  | nil => rfl
  | cons s rest ih =>
    rw [List.forall_mem_cons] at hclasses
    have hspecific : (classes'.find? (serviceChild s).id).map (l.identifier .type) =
        if s.serviceType = type then none
        else (classes.find? (serviceChild s).id).map (l.identifier .type) := by
      rw [serviceChild, hclasses.1]
      split <;> rfl
    simp only [List.map_cons, childProperties_cons, ih hclasses.2, hspecific, List.zipWith_cons_cons,
      untypedFor]
    split <;> rfl

/-- A class that is missing for a type of services changes the class of a device in nothing but the
    types of the properties for these services. -/
theorem declare_untyped (l : Language) (className : String) {classes classes' : ChildClasses}
    {type : String}
    (hservices : ∀ s ∈ namedServices d, classes'.find? s.serviceId =
      if s.serviceType = type then none else classes.find? s.serviceId)
    (hdevices : ∀ child ∈ namedDevices d, classes'.find? child.udn = classes.find? child.udn) :
    declare l className d classes' = (declare l className d classes).untyped d type := by
  have hchildren : ∀ child ∈ childDevices d, classes'.find? child.id = classes.find? child.id := by
    intro child hchild
    have hid : child.id ∈ (namedDevices d).map Device.udn :=
      childDevices_ids d ▸ List.mem_map_of_mem hchild
    obtain ⟨device, hdevice, heq⟩ := List.mem_map.mp hid
    rw [← heq]
    exact hdevices device hdevice
  unfold declare untyped
  simp only [childServices_eq, childProperties_congr l hchildren,
    childProperties_untyped l hservices]

/-- A class without services of the type is not changed. -/
theorem untyped_eq_self {type : String} (htypes : ∀ s ∈ namedServices d, s.serviceType ≠ type)
    (l : Language) (className : String) (classes : ChildClasses) :
    (declare l className d classes).untyped d type = declare l className d classes := by
  refine (declare_untyped d l className (fun s hs => ?_) fun _ _ => rfl).symm
  rw [if_neg (htypes s hs)]

end DeviceClass

end ControlPoint.Class
