import Mathlib
import ControlPoint.Generation.Plan
import ControlPoint.Proofs.Naming.Identifier

open ControlPoint.Class

namespace ControlPoint.Generation

open Description Naming

namespace ClassNames

theorem find?_append (first second : ClassNames) (type : String) :
    find? (first ++ second) type = (first.find? type).or (second.find? type) := by
  simp only [find?, List.find?_append, Option.map_or]

theorem mem_of_find? {names : ClassNames} {type name : String} (h : names.find? type = some name) :
    (type, name) ∈ names := by
  obtain ⟨⟨known, found⟩, hfind, rfl⟩ := Option.map_eq_some_iff.mp h
  have hknown : known = type := by simpa using List.find?_some hfind
  exact hknown ▸ List.mem_of_find?_eq_some hfind

/-- Two types with one name are one type, where no two names are alike. -/
theorem type_eq_of_find? {names : ClassNames} {fold : String → String}
    (hdistinct : (names.map fun entry => fold entry.2).Nodup) {type other name : String}
    (htype : names.find? type = some name) (hother : names.find? other = some name) :
    type = other := by
  have hsame := List.inj_on_of_nodup_map hdistinct (mem_of_find? htype) (mem_of_find? hother) rfl
  exact congrArg Prod.fst hsame

end ClassNames

/-- What the naming of types comes to: `added` is new, its names were free and can name classes, and
    every type that was asked for has a name. -/
structure NamesTypes (scope : Scope) (names : ClassNames) (types : List String)
    (result : ClassNames × Scope) (added : ClassNames) : Prop where
  names_eq : result.1 = names ++ added
  scope_eq : result.2 = scope.reserveAll (added.map Prod.snd)
  fresh : scope.Fresh (added.map Prod.snd)
  typeNames : ∀ entry ∈ added, IsTypeName entry.2
  complete : ∀ type ∈ types, (result.1.find? type).isSome

theorem nameTypes_spec {wanted : String → String} (hwanted : ∀ type, IsTypeName (wanted type))
    (scope : Scope) (names : ClassNames) (types : List String) :
    ∃ added, NamesTypes scope names types (nameTypes wanted scope names types) added := by
  induction types generalizing scope names with
  | nil =>
    refine ⟨[], ?_, ?_, trivial, by simp, by simp⟩
    · simp [nameTypes]
    · simp [nameTypes]
  | cons type rest ih =>
    by_cases hknown : (names.find? type).isSome = true
    · obtain ⟨added, hadded⟩ := ih scope names
      rw [nameTypes, if_pos hknown]
      refine ⟨added, hadded.names_eq, hadded.scope_eq, hadded.fresh, hadded.typeNames, ?_⟩
      rw [List.forall_mem_cons]
      refine ⟨?_, hadded.complete⟩
      obtain ⟨name, hname⟩ := Option.isSome_iff_exists.mp hknown
      rw [hadded.names_eq, ClassNames.find?_append, hname]
      rfl
    · let name := scope.freeName (wanted type)
      obtain ⟨added, hadded⟩ := ih (scope.reserve name) (names ++ [(type, name)])
      rw [nameTypes, if_neg hknown]
      refine ⟨(type, name) :: added, ?_, hadded.scope_eq, ?_, ?_, ?_⟩
      · rw [List.append_cons]
        exact hadded.names_eq
      · exact ⟨scope.freeName_not_contains _, hadded.fresh⟩
      · rw [List.forall_mem_cons]
        exact ⟨freeName_isTypeName scope (hwanted type), hadded.typeNames⟩
      · rw [List.forall_mem_cons]
        refine ⟨?_, hadded.complete⟩
        have hnew : ClassNames.find? [(type, name)] type = some name := by
          simp [ClassNames.find?]
        rw [Option.not_isSome_iff_eq_none] at hknown
        have hresult := hadded.names_eq
        simp only [Scope.allocate] at hresult ⊢
        rw [hresult, ClassNames.find?_append, ClassNames.find?_append, hknown]
        simp [hnew]

theorem deviceClassName_isTypeName (type : String) : IsTypeName (deviceClassName type) :=
  (sanitize_isTypeName _).append (by decide)

theorem serviceClassName_isTypeName (type : String) : IsTypeName (serviceClassName type) :=
  (sanitize_isTypeName _).append (by decide)

/-- Every type of devices in the tree has a name, all names can name classes, and no two of them
    differ in nothing but the case of letters. -/
structure Plan.Sound (p : Plan) (root : Device) : Prop where
  complete : ∀ d ∈ root.all, (p.devices.find? d.deviceType).isSome
  typeNames : ∀ entry ∈ p.devices ++ p.services, IsTypeName entry.2
  distinct : ((p.devices ++ p.services).map fun entry =>
    CaseRule.insensitive.fold entry.2).Nodup

theorem Plan.of_sound (root : Device) (withServices : Bool) :
    (Plan.of root withServices).Sound root := by
  obtain ⟨devices, hdevices⟩ := nameTypes_spec deviceClassName_isTypeName (.empty .insensitive) []
    (root.all.map Device.deviceType)
  let types := if withServices then root.allServices.map fun x => x.2.serviceType else []
  obtain ⟨services, hservices⟩ := nameTypes_spec serviceClassName_isTypeName
    (nameTypes deviceClassName (.empty .insensitive) [] (root.all.map Device.deviceType)).2 []
    types
  have hplan : Plan.of root withServices = ⟨devices, services⟩ := by
    have hdeviceNames := hdevices.names_eq
    have hserviceNames := hservices.names_eq
    simp only [List.nil_append] at hdeviceNames hserviceNames
    simp only [Plan.of, hdeviceNames]
    exact congrArg (Plan.mk devices) hserviceNames
  rw [hplan]
  have hfresh : (Scope.empty .insensitive).Fresh ((devices ++ services).map Prod.snd) := by
    rw [List.map_append, Scope.fresh_append, ← hdevices.scope_eq]
    exact ⟨hdevices.fresh, hservices.fresh⟩
  constructor
  · intro d hd
    have hcomplete := hdevices.complete d.deviceType (List.mem_map_of_mem hd)
    rwa [hdevices.names_eq, List.nil_append] at hcomplete
  · exact List.forall_mem_append.mpr ⟨hdevices.typeNames, hservices.typeNames⟩
  · have hnodup := hfresh.nodup
    rwa [List.map_map] at hnodup

namespace Plan.Sound

variable {p : Plan} {root : Device}

theorem device_eq (hsound : p.Sound root) {type other name : String}
    (htype : p.devices.find? type = some name) (hother : p.devices.find? other = some name) :
    type = other := by
  have hdistinct := hsound.distinct
  rw [List.map_append] at hdistinct
  exact ClassNames.type_eq_of_find? hdistinct.of_append_left htype hother

theorem service_eq (hsound : p.Sound root) {type other name : String}
    (htype : p.services.find? type = some name) (hother : p.services.find? other = some name) :
    type = other := by
  have hdistinct := hsound.distinct
  rw [List.map_append] at hdistinct
  exact ClassNames.type_eq_of_find? hdistinct.of_append_right htype hother

/-- No class of a device has the name of a class of a service. -/
theorem device_ne_service (hsound : p.Sound root) {type other name : String}
    (htype : p.devices.find? type = some name) : p.services.find? other ≠ some name := by
  intro hother
  have hdistinct := hsound.distinct
  rw [List.map_append, List.nodup_append] at hdistinct
  exact hdistinct.2.2 _ (List.mem_map_of_mem (ClassNames.mem_of_find? htype)) _
    (List.mem_map_of_mem (ClassNames.mem_of_find? hother)) rfl

theorem device_isTypeName (hsound : p.Sound root) {type name : String}
    (htype : p.devices.find? type = some name) : IsTypeName name :=
  hsound.typeNames _ (List.mem_append_left _ (ClassNames.mem_of_find? htype))

theorem service_isTypeName (hsound : p.Sound root) {type name : String}
    (htype : p.services.find? type = some name) : IsTypeName name :=
  hsound.typeNames _ (List.mem_append_right _ (ClassNames.mem_of_find? htype))

end Plan.Sound

end ControlPoint.Generation
