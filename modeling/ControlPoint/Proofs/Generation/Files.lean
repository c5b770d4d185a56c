import Mathlib
import ControlPoint.Proofs.Class.Device
import ControlPoint.Proofs.Generation.Writing
import ControlPoint.Proofs.Markup.Scan
import ControlPoint.Proofs.Naming.ClassName

open ControlPoint.Class

namespace ControlPoint.Generation

open Description Host Naming Script Text

/-! ### Planned names are written as they are -/

theorem nameTypes_isNumbered {kind : String} {wanted : String → String}
    (hwanted : ∀ type, ∃ base, wanted type = base ++ kind) (scope : Scope) {names : ClassNames}
    (hnames : ∀ entry ∈ names, IsNumbered kind entry.2) (types : List String) :
    ∀ entry ∈ (nameTypes wanted scope names types).1, IsNumbered kind entry.2 := by
  induction types generalizing scope names with
  | nil => exact hnames
  | cons type rest ih =>
    rw [nameTypes]
    split
    · exact ih scope hnames
    · obtain ⟨base, hbase⟩ := hwanted type
      refine ih _ (List.forall_mem_append.mpr ⟨hnames, List.forall_mem_singleton.mpr ?_⟩)
      rw [hbase]
      exact isNumbered_freeName scope base kind

theorem Plan.of_isNumbered (root : Device) (withServices : Bool) :
    (∀ entry ∈ (Plan.of root withServices).devices, IsNumbered "Device" entry.2) ∧
      ∀ entry ∈ (Plan.of root withServices).services, IsNumbered "Service" entry.2 :=
  ⟨nameTypes_isNumbered (fun _ => ⟨_, rfl⟩) _ (by simp) _,
    nameTypes_isNumbered (fun _ => ⟨_, rfl⟩) _ (by simp) _⟩

/-- Only types of services that are there have a name. -/
theorem nameTypes_types {wanted : String → String} (scope : Scope) (names : ClassNames)
    (types : List String) : ∀ entry ∈ (nameTypes wanted scope names types).1,
      entry ∈ names ∨ entry.1 ∈ types := by
  induction types generalizing scope names with
  | nil => exact fun entry hentry => .inl hentry
  | cons type rest ih =>
    intro entry hentry
    rw [nameTypes] at hentry
    split at hentry
    · exact (ih scope names entry hentry).imp_right (List.mem_cons_of_mem type)
    · rcases ih _ _ entry hentry with hentry | hentry
      · rcases List.mem_append.mp hentry with hentry | hentry
        · exact .inl hentry
        · rw [List.mem_singleton.mp hentry]
          exact .inr (List.mem_cons_self ..)
      · exact .inr (List.mem_cons_of_mem type hentry)

/-! ### Which devices have classes -/

theorem firstOfTypes_types (seen : List String) (devices : List Device) :
    ((firstOfTypes seen devices).map Device.deviceType).Nodup ∧
      ∀ type, type ∈ (firstOfTypes seen devices).map Device.deviceType ↔
        type ∈ devices.map Device.deviceType ∧ type ∉ seen := by
  induction devices generalizing seen with
  | nil => simp [firstOfTypes]
  | cons d rest ih =>
    rw [firstOfTypes]
    split
    · rename_i hseen
      obtain ⟨hdistinct, hmem⟩ := ih seen
      refine ⟨hdistinct, fun type => (hmem type).trans ?_⟩
      rw [List.map_cons, List.mem_cons]
      constructor
      · rintro ⟨htype, hnew⟩
        exact ⟨.inr htype, hnew⟩
      · rintro ⟨rfl | htype, hnew⟩
        · exact absurd (by simpa using hseen) hnew
        · exact ⟨htype, hnew⟩
    · rename_i hnew
      obtain ⟨hdistinct, hmem⟩ := ih (d.deviceType :: seen)
      rw [List.map_cons]
      refine ⟨List.nodup_cons.mpr ⟨?_, hdistinct⟩, fun type => ?_⟩
      · rw [hmem]
        simp
      · rw [List.mem_cons, hmem, List.map_cons, List.mem_cons, List.mem_cons]
        by_cases htype : type = d.deviceType
        · simpa [htype] using hnew
        · simp [htype]

theorem firstOfTypes_subset (seen : List String) (devices : List Device) :
    firstOfTypes seen devices ⊆ devices := by
  induction devices generalizing seen with
  | nil => simp [firstOfTypes]
  | cons d rest ih =>
    rw [firstOfTypes]
    split
    · exact List.Subset.trans (ih seen) (List.subset_cons_self d rest)
    · exact List.cons_subset_cons d (ih _)

variable {p : Plan} {root : Device}

theorem deviceFiles_devices (hsound : p.Sound root) :
    (p.deviceFiles root).map Prod.fst = firstOfTypes [] root.all := by
  have hall : (firstOfTypes [] root.all).filter (fun d => (p.devices.find? d.deviceType).isSome) =
      firstOfTypes [] root.all :=
    List.filter_eq_self.mpr fun d hd => hsound.complete d (firstOfTypes_subset _ _ hd)
  have hpairs := map_filterMap_pair (firstOfTypes [] root.all)
    (fun d => p.devices.find? d.deviceType) id
  rwa [hall, List.map_id] at hpairs

/-- A class is written for each type of devices in the tree, once. -/
theorem deviceFiles_types (hsound : p.Sound root) :
    ((p.deviceFiles root).map fun x => x.1.deviceType).Nodup ∧
      ∀ type, type ∈ ((p.deviceFiles root).map fun x => x.1.deviceType) ↔
        type ∈ root.all.map Device.deviceType := by
  obtain ⟨hdistinct, htypes⟩ := firstOfTypes_types [] root.all
  rw [← deviceFiles_devices hsound, List.map_map] at hdistinct htypes
  exact ⟨hdistinct, fun type => (htypes type).trans (by simp)⟩

theorem mem_deviceFiles {x : Device × String}
    (hx : x ∈ p.deviceFiles root) : x.1 ∈ root.all ∧ p.devices.find? x.1.deviceType = some x.2 := by
  obtain ⟨d, hd, hname⟩ := List.mem_filterMap.mp hx
  obtain ⟨name, hplanned, rfl⟩ := Option.map_eq_some_iff.mp hname
  exact ⟨firstOfTypes_subset _ _ hd, hplanned⟩

/-! ### Where the files are -/

/-- The path is that of something right in the directory. -/
def IsDirectlyIn (directory path : String) : Prop :=
  ∃ name, path = joinPath directory name ∧ name ≠ "" ∧ name ≠ "." ∧ name ≠ ".." ∧
    '/' ∉ name.toList

/-- What goes before the name of something in a directory. -/
def directoryStart (directory : String) : String :=
  if directory = "" then ""
  else if directory.toList.getLast? = some '/' then directory else directory ++ "/"

/-- The ending of all files of a run. -/
def Choices.fileEnding (c : Choices) : String :=
  if c.makesParts then c.language.partFileEnding else c.language.fileEnding

theorem joinPath_of_isTypeName {name : String} (hname : IsTypeName name)
    (directory ending : String) :
    joinPath directory (name ++ ending) = directoryStart directory ++ name ++ ending := by
  obtain ⟨first, others, hchars, -, -, hword⟩ := hname
  have hfirst : first ≠ '/' := by
    rintro rfl
    exact absurd (hword '/' (List.mem_cons_self ..)) (by decide)
  have habsolute : isAbsolute (name ++ ending) = false := by
    simp [isAbsolute, hchars, hfirst]
  unfold joinPath directoryStart
  rw [habsolute]
  by_cases hempty : directory = ""
  · simp [hempty]
  · by_cases hlast : directory.toList.getLast? = some '/'
    · simp [hempty, hlast, String.append_assoc]
    · simp [hempty, hlast, String.append_assoc]

theorem isDirectlyIn_joinPath {name : String} (hname : IsTypeName name) (c : Choices) :
    IsDirectlyIn c.outputDirectory (joinPath c.outputDirectory (name ++ c.fileEnding)) := by
  obtain ⟨first, others, hchars, -, -, hword⟩ := hname
  have hdot : first ≠ '.' := by
    rintro rfl
    exact absurd (hword '.' (List.mem_cons_self ..)) (by decide)
  have hending : '/' ∉ c.fileEnding.toList := by
    unfold Choices.fileEnding
    cases c.makesParts <;> cases c.language <;> decide
  have hne (other : String) (hother : other.toList.head? ≠ some first) :
      name ++ c.fileEnding ≠ other := by
    rintro rfl
    simp [hchars] at hother
  refine ⟨name ++ c.fileEnding, rfl, hne _ (by simp), hne _ ?_, hne _ ?_, ?_⟩
  · simpa using hdot.symm
  · simpa using hdot.symm
  · rw [String.toList_append, List.mem_append, not_or, hchars]
    refine ⟨fun hslash => ?_, hending⟩
    exact absurd (hword '/' hslash) (by decide)

/-- Names that differ in more than the case of letters make paths that do. -/
theorem nodup_lowerAscii_paths {names : List String} (hnames : ∀ name ∈ names, IsTypeName name)
    (hdistinct : (names.map lowerAscii).Nodup) (c : Choices) :
    ((names.map fun name => joinPath c.outputDirectory (name ++ c.fileEnding)).map
      lowerAscii).Nodup := by
  have hpaths : (names.map fun name => joinPath c.outputDirectory (name ++ c.fileEnding)).map
      lowerAscii = (names.map lowerAscii).map fun name =>
        lowerAscii (directoryStart c.outputDirectory) ++ name ++ lowerAscii c.fileEnding := by
    rw [List.map_map, List.map_map]
    refine List.map_congr_left fun name hname => ?_
    simp only [Function.comp_apply, joinPath_of_isTypeName (hnames name hname), lowerAscii_append]
  rw [hpaths]
  refine hdistinct.map fun a b hab => ?_
  have hchars := congrArg String.toList hab
  simp only [String.toList_append, List.append_cancel_right_eq, List.append_cancel_left_eq]
    at hchars
  exact String.toList_inj.mp hchars

/-! ### The files of a run -/

/-- A class and its file are called by the name as it was given out: neither making it an identifier
    nor escaping it changes it. -/
structure IsNamed (c : Choices) (name declaredName : String) (f : File) : Prop where
  declared : declaredName = name
  sanitized : sanitize .type name = name
  unescaped : c.language.escape name = name
  className : f.className = name
  fileName : f.fileName = name ++ c.fileEnding

/-- Files of classes of services and of devices, each with the type that it is for: at most one for
    a type of services and just one for a type of devices. Each holds the class for its type under
    the planned name, and children are typed by classes that have a file as well. -/
structure FollowPlan (c : Choices) (p : Plan) (root : Device)
    (services devices : List (String × File)) : Prop where
  serviceTypes : (services.map Prod.fst).Nodup
  serviceType_mem : ∀ x ∈ services, x.1 ∈ root.allServices.map fun y => y.2.serviceType
  deviceTypes : (devices.map Prod.fst).Nodup
  deviceType_mem : ∀ type, type ∈ devices.map Prod.fst ↔ type ∈ root.all.map Device.deviceType
  service : ∀ x ∈ services, ∃ name s answers, p.services.find? x.1 = some name ∧
    let declared := ServiceClass.declare c.language name s answers
    declared.file (c.options name x.1) = .ok x.2 ∧ IsNamed c name declared.name x.2
  device : ∀ x ∈ devices, ∃ name d children, p.devices.find? x.1 = some name ∧
    d ∈ root.all ∧ d.deviceType = x.1 ∧
    let declared := DeviceClass.declare c.language name d children
    declared.file d (c.options name x.1) = .ok x.2 ∧ IsNamed c name declared.name x.2 ∧
      ∀ q ∈ declared.devices ++ declared.services, ∀ specific ∈ q.specific,
        specific ∈ (services ++ devices).map fun y => y.2.className

theorem isNamed_fileOf {c : Choices} {name declaredName : String} (hname : IsTypeName name)
    (hnumbered : IsNumbered "Device" name ∨ IsNumbered "Service" name)
    (hdeclared : declaredName = sanitize .type name) (source : String) :
    IsNamed c name declaredName (File.of c.language declaredName c.makesParts source) := by
  have hsame := sanitize_of_isTypeName hname
  rw [hsame] at hdeclared
  subst hdeclared
  exact ⟨rfl, hsame, c.language.escape_of_isNumbered hnumbered, rfl, rfl⟩

theorem IsServiceFile.isNamed {c : Choices} {root : Device} {withServices : Bool} {type : String}
    {f : File} (hfile : IsServiceFile c (Plan.of root withServices) type f) :
    ∃ name s answers, (Plan.of root withServices).services.find? type = some name ∧
      let declared := ServiceClass.declare c.language name s answers
      declared.file (c.options name type) = .ok f ∧ IsNamed c name declared.name f := by
  obtain ⟨name, s, answers, hplanned, hfile⟩ := hfile
  refine ⟨name, s, answers, hplanned, hfile, ?_⟩
  have htype := (Plan.of_sound root withServices).service_isTypeName hplanned
  have hnumbered := (Plan.of_isNumbered root withServices).2 _ (ClassNames.mem_of_find? hplanned)
  have hserves := ServiceClass.declare_serves c.language name s answers
  obtain ⟨source, -, rfl⟩ := exists_of_map_eq_ok hfile
  rw [hserves.language]
  exact isNamed_fileOf htype (.inr hnumbered) hserves.name source

theorem isNamed_of_deviceFile {c : Choices} {root : Device} {withServices : Bool} {d : Device}
    {name : String} (hplanned : (Plan.of root withServices).devices.find? d.deviceType = some name)
    {children : ChildClasses} {f : File}
    (hfile : (DeviceClass.declare c.language name d children).file d
      (c.options name d.deviceType) = .ok f) :
    IsNamed c name (DeviceClass.declare c.language name d children).name f := by
  have htype := (Plan.of_sound root withServices).device_isTypeName hplanned
  have hnumbered := (Plan.of_isNumbered root withServices).1 _ (ClassNames.mem_of_find? hplanned)
  obtain ⟨source, -, rfl⟩ := exists_of_map_eq_ok hfile
  exact isNamed_fileOf htype (.inl hnumbered) rfl source

/-- A type of services whose class was written has a file with that class. -/
theorem Progress.Recorded.exists_file {c : Choices} {p : Plan} {services : List (String × File)}
    {trace : List Exchange} {done : Progress} (hdone : done.Recorded c p services trace)
    {type name : String} (hname : done.outcomes.written? type = some name) :
    ∃ x ∈ services, x.2.className = name := by
  obtain ⟨entry, hentry, hresult⟩ := Option.map_eq_some_iff.mp (Option.join_eq_some_iff.mp hname)
  have hmem : (entry.1, name) ∈ done.outcomes.filterMap fun x => x.2.map fun name => (x.1, name) :=
    List.mem_filterMap.mpr ⟨entry, List.mem_of_find?_eq_some hentry, by rw [hresult]; rfl⟩
  rw [hdone.outcomes] at hmem
  obtain ⟨x, hx, heq⟩ := List.mem_map.mp hmem
  exact ⟨x, hx, congrArg Prod.snd heq⟩

/-- A property is for a child with an identifier. -/
theorem exists_id_of_property {l : Language} {className : String} {d : Device}
    {children : ChildClasses} {q : ChildProperty}
    (hq : q ∈ (DeviceClass.declare l className d children).devices ++
      (DeviceClass.declare l className d children).services) :
    ∃ id, q.specific = (children.find? id).map (l.identifier .type) := by
  rcases List.mem_append.mp hq with hq | hq
  · have hspecific := List.mem_map_of_mem (f := ChildProperty.specific) hq
    rw [DeviceClass.declare_devices] at hspecific
    obtain ⟨child, -, heq⟩ := List.mem_map.mp hspecific
    exact ⟨child.udn, heq.symm⟩
  · have hspecific := List.mem_map_of_mem (f := ChildProperty.specific) hq
    rw [DeviceClass.declare_services] at hspecific
    obtain ⟨s, -, heq⟩ := List.mem_map.mp hspecific
    exact ⟨s.serviceId, heq.symm⟩

/-- What stands for a child is a class that has a file. -/
theorem mem_classNames_of_child {c : Choices} {root : Device} {withServices : Bool}
    {services devices : List (String × File)} {trace : List Exchange} {done : Progress}
    (hdone : done.Recorded c (Plan.of root withServices) services trace)
    (hdevices : ∀ d ∈ root.all, ∀ name,
      (Plan.of root withServices).devices.find? d.deviceType = some name →
        ∃ x ∈ devices, x.2.className = name)
    {id name : String}
    (hchild : ((Plan.of root withServices).children root done.outcomes).find? id = some name) :
    name ∈ (services ++ devices).map fun y => y.2.className := by
  obtain ⟨entry, hentry, rfl⟩ := Option.map_eq_some_iff.mp hchild
  rw [List.map_append, List.mem_append, List.mem_map, List.mem_map]
  rcases List.mem_append.mp (List.mem_of_find?_eq_some hentry) with hservice | hdevice
  · obtain ⟨⟨owner, s⟩, -, hclass⟩ := List.mem_filterMap.mp hservice
    dsimp only at hclass
    split at hclass
    · cases hclass
    · obtain ⟨name, hname, rfl⟩ := Option.map_eq_some_iff.mp hclass
      exact .inl (hdone.exists_file hname)
  · obtain ⟨d, hd, hclass⟩ := List.mem_filterMap.mp hdevice
    split at hclass
    · cases hclass
    · obtain ⟨name, hname, rfl⟩ := Option.map_eq_some_iff.mp hclass
      exact .inr (hdevices d hd name hname)

theorem Plan.of_service_mem {root : Device} {withServices : Bool} {type name : String}
    (hplanned : (Plan.of root withServices).services.find? type = some name) :
    type ∈ root.allServices.map fun y => y.2.serviceType := by
  have htypes := nameTypes_types _ [] _ _ (ClassNames.mem_of_find? hplanned)
  cases withServices with
  | false => simp at htypes
  | true => simpa using htypes

theorem Progress.Recorded.types_distinct {c : Choices} {p : Plan}
    {services : List (String × File)} {trace : List Exchange} {done : Progress}
    (hdone : done.Recorded c p services trace) : (services.map Prod.fst).Nodup := by
  have hsublist (o : Outcomes) :
      ((o.filterMap fun x => x.2.map fun name => (x.1, name)).map Prod.fst).Sublist
        (o.map Prod.fst) := by
    induction o with
    | nil => exact .slnil
    | cons x rest ih =>
      obtain ⟨type, _ | name⟩ := x
      · exact ih.cons type
      · exact ih.cons_cons type
  have htypes := congrArg (List.map Prod.fst) hdone.outcomes
  rw [List.map_map] at htypes
  exact hdone.distinct.sublist (htypes ▸ hsublist done.outcomes)

theorem IsNamed.identifier_eq {c : Choices} {name declaredName : String} {f : File}
    (hnamed : IsNamed c name declaredName f) :
    c.language.identifier .type f.className = f.className := by
  rw [hnamed.className, Language.identifier, hnamed.sanitized, hnamed.unescaped]

/-- The files of a run that succeeds follow the plan. -/
theorem Progress.Recorded.followPlan {c : Choices} {root : Device} {withServices : Bool}
    {services devices : List (String × File)} {trace : List Exchange} {done : Progress}
    (hdone : done.Recorded c (Plan.of root withServices) services trace)
    (hdevices : List.Forall₂ (fun x y => x.1.deviceType = y.1 ∧
      (DeviceClass.declare c.language x.2 x.1
          ((Plan.of root withServices).children root done.outcomes)).file x.1
        (c.options x.2 x.1.deviceType) = .ok y.2)
      ((Plan.of root withServices).deviceFiles root) devices) :
    FollowPlan c (Plan.of root withServices) root services devices := by
  have htypes : devices.map Prod.fst =
      ((Plan.of root withServices).deviceFiles root).map fun x => x.1.deviceType := by
    symm
    rw [← List.forall₂_eq_eq_eq, List.forall₂_map_left_iff, List.forall₂_map_right_iff]
    exact hdevices.imp fun _ _ h => h.1
  obtain ⟨hdistinct, hmem⟩ := deviceFiles_types (Plan.of_sound root withServices)
  obtain ⟨hfiles, hback⟩ := exists_partner_of_forall₂ hdevices
  have hnames : ∀ d ∈ root.all, ∀ name,
      (Plan.of root withServices).devices.find? d.deviceType = some name →
        ∃ y ∈ devices, y.2.className = name := by
    intro d hd name hname
    obtain ⟨x, hx, htype⟩ := List.mem_map.mp ((hmem d.deviceType).mpr (List.mem_map_of_mem hd))
    obtain ⟨y, hy, -, hfile⟩ := hfiles x hx
    obtain ⟨-, hplanned⟩ := mem_deviceFiles hx
    have hsame := hplanned
    rw [htype, hname] at hsame
    have hnamed := isNamed_of_deviceFile hplanned hfile
    exact ⟨y, hy, hnamed.className.trans (Option.some.inj hsame).symm⟩
  -- a class that is named in another is named as it is written, since its own name is
  have hidentifier : ∀ y ∈ services ++ devices,
      c.language.identifier .type y.2.className = y.2.className := by
    refine List.forall_mem_append.mpr ⟨fun y hy => ?_, fun y hy => ?_⟩
    · obtain ⟨_, _, _, -, -, hnamed⟩ := (hdone.served y hy).isNamed
      exact hnamed.identifier_eq
    · obtain ⟨x, hx, -, hfile⟩ := hback y hy
      exact (isNamed_of_deviceFile (mem_deviceFiles hx).2 hfile).identifier_eq
  constructor
  case serviceTypes => exact hdone.types_distinct
  case serviceType_mem =>
    intro x hx
    obtain ⟨_, _, _, hplanned, -⟩ := hdone.served x hx
    exact Plan.of_service_mem hplanned
  case deviceTypes =>
    rw [htypes]
    exact hdistinct
  case deviceType_mem =>
    rw [htypes]
    exact hmem
  case service => exact fun x hx => (hdone.served x hx).isNamed
  case device =>
    intro y hy
    obtain ⟨x, hx, htype, hfile⟩ := hback y hy
    obtain ⟨hd, hplanned⟩ := mem_deviceFiles hx
    refine ⟨x.2, x.1, (Plan.of root withServices).children root done.outcomes,
      htype ▸ hplanned, hd, htype, htype ▸ hfile, isNamed_of_deviceFile hplanned hfile, ?_⟩
    intro q hq specific hspecific
    obtain ⟨id, hid⟩ := exists_id_of_property hq
    rw [Option.mem_def, hid] at hspecific
    obtain ⟨name, hname, rfl⟩ := Option.map_eq_some_iff.mp hspecific
    have hclass := mem_classNames_of_child hdone hnames hname
    obtain ⟨y', hy', rfl⟩ := List.mem_map.mp hclass
    rwa [hidentifier y' hy']

theorem nodup_map_of_subset {α β : Type} {entries known : List α} {f : α → β}
    (hentries : entries.Nodup) (hsubset : ∀ a ∈ entries, a ∈ known)
    (hknown : (known.map f).Nodup) : (entries.map f).Nodup :=
  hentries.map_on fun a ha b hb heq =>
    List.inj_on_of_nodup_map hknown (hsubset a ha) (hsubset b hb) heq

section

variable {c : Choices} {root : Device} {withServices : Bool}
  {services devices : List (String × File)}

/-- The names of the classes differ in more than the case of letters. -/
theorem FollowPlan.names_distinct
    (hfollow : FollowPlan c (Plan.of root withServices) root services devices) :
    (((services ++ devices).map fun x => x.2.className).map lowerAscii).Nodup := by
  have hdistinct := (Plan.of_sound root withServices).distinct
  rw [List.map_append, List.nodup_append] at hdistinct
  obtain ⟨hdeviceNames, hserviceNames, happart⟩ := hdistinct
  have hservices : ∀ y ∈ services.map classEntry, y ∈ (Plan.of root withServices).services := by
    refine List.forall_mem_map.mpr fun x hx => ?_
    obtain ⟨_, _, _, hplanned, -, hnamed⟩ := hfollow.service x hx
    rw [classEntry, hnamed.className]
    exact ClassNames.mem_of_find? hplanned
  have hdevices : ∀ y ∈ devices.map classEntry, y ∈ (Plan.of root withServices).devices := by
    refine List.forall_mem_map.mpr fun x hx => ?_
    obtain ⟨_, _, _, hplanned, -, -, -, hnamed, -⟩ := hfollow.device x hx
    rw [classEntry, hnamed.className]
    exact ClassNames.mem_of_find? hplanned
  have hentries {files : List (String × File)} (hfiles : (files.map Prod.fst).Nodup) :
      (files.map classEntry).Nodup := by
    apply List.Nodup.of_map Prod.fst
    rwa [List.map_map]
  have hnames : ((services ++ devices).map fun x => x.2.className).map lowerAscii =
      (services.map classEntry).map (fun y => CaseRule.insensitive.fold y.2) ++
        (devices.map classEntry).map fun y => CaseRule.insensitive.fold y.2 := by
    rw [List.map_map, List.map_append, List.map_map, List.map_map]
    rfl
  rw [hnames, List.nodup_append]
  refine ⟨nodup_map_of_subset (hentries hfollow.serviceTypes) hservices hserviceNames,
    nodup_map_of_subset (hentries hfollow.deviceTypes) hdevices hdeviceNames, ?_⟩
  intro name hservice other hdevice heq
  obtain ⟨x, hx, rfl⟩ := List.mem_map.mp hservice
  obtain ⟨y, hy, rfl⟩ := List.mem_map.mp hdevice
  exact happart _ (List.mem_map_of_mem (hdevices y hy)) _ (List.mem_map_of_mem (hservices x hx))
    heq.symm

theorem FollowPlan.isTypeName
    (hfollow : FollowPlan c (Plan.of root withServices) root services devices) :
    ∀ x ∈ services ++ devices, IsTypeName x.2.className ∧
      x.2.fileName = x.2.className ++ c.fileEnding := by
  have hsound := Plan.of_sound root withServices
  refine List.forall_mem_append.mpr ⟨fun x hx => ?_, fun x hx => ?_⟩
  · obtain ⟨_, _, _, hplanned, -, hnamed⟩ := hfollow.service x hx
    rw [hnamed.fileName, hnamed.className]
    exact ⟨hsound.service_isTypeName hplanned, rfl⟩
  · obtain ⟨_, _, _, hplanned, -, -, -, hnamed, -⟩ := hfollow.device x hx
    rw [hnamed.fileName, hnamed.className]
    exact ⟨hsound.device_isTypeName hplanned, rfl⟩

/-- The paths of the files differ in more than the case of letters, and each is right in the
    directory for classes. -/
theorem FollowPlan.paths
    (hfollow : FollowPlan c (Plan.of root withServices) root services devices) :
    (((services ++ devices).map fun x => c.pathOf x.2).map lowerAscii).Nodup ∧
      ∀ path ∈ (services ++ devices).map fun x => c.pathOf x.2,
        IsDirectlyIn c.outputDirectory path := by
  have hpaths : ((services ++ devices).map fun x => c.pathOf x.2) =
      ((services ++ devices).map fun x => x.2.className).map fun name =>
        joinPath c.outputDirectory (name ++ c.fileEnding) := by
    rw [List.map_map]
    refine List.map_congr_left fun x hx => ?_
    rw [Choices.pathOf, (hfollow.isTypeName x hx).2]
    rfl
  have hnames : ∀ name ∈ (services ++ devices).map fun x => x.2.className, IsTypeName name :=
    List.forall_mem_map.mpr fun x hx => (hfollow.isTypeName x hx).1
  rw [hpaths]
  exact ⟨nodup_lowerAscii_paths hnames hfollow.names_distinct c,
    List.forall_mem_map.mpr fun name hname => isDirectlyIn_joinPath (hnames name hname) c⟩

end

/-- Whatever a machine answers, a run that succeeds has written just the files that follow the plan
    for the device that was read. Their paths differ in more than the case of letters, and each is
    right in the directory for classes. -/
theorem writeDevice_followPlan {c : Choices} {r : DeviceRequest} {trace : List Exchange}
    {paths : List String}
    (hrun : (writeDevice c r : Run Script (List String)).run.Runs trace (.ok paths)) :
    ∃ source d, (∃ opening, opening <+: trace ∧
        (Source.read r.source : Script (Except SourceFault Source)).Runs opening (.ok source)) ∧
      DeviceDescription.parse source.text = .ok d ∧
      ∃ services devices : List (String × File),
        FollowPlan c (Plan.of d.device r.withServices) d.device services devices ∧
        written trace = ((services ++ devices).map fun x => (c.pathOf x.2, x.2.source)) ∧
        paths = ((services ++ devices).map fun x => c.pathOf x.2) ∧
        (paths.map lowerAscii).Nodup ∧
        ∀ path ∈ paths, IsDirectlyIn c.outputDirectory path := by
  obtain ⟨opening, source, d, _, rfl, hread, hparse, hrest⟩ := runs_writeDevice_ok hrun
  obtain ⟨before, after, done, others, rfl, hservices, hdevices, rfl⟩ := runs_writeTree_ok hrest
  obtain ⟨services, hdone⟩ : ∃ services,
      done.Recorded c (Plan.of d.device r.withServices) services before := by
    cases hwith : r.withServices with
    | false =>
      rw [hwith] at hservices
      obtain ⟨rfl, rfl⟩ := hservices
      exact ⟨[], Progress.recorded_start c _⟩
    | true =>
      rw [hwith] at hservices
      exact writeEach_recorded (Progress.recorded_start c _) hservices
  obtain ⟨devices, hfiles, rfl, hwritten⟩ := written_writeDevices hdevices
  have hfollow := hdone.followPlan hfiles
  refine ⟨source, d, ⟨opening, List.prefix_append _ _, hread⟩, hparse, services, devices, hfollow,
    ?_, ?_, ?_⟩
  · rw [written_append, written_append, isQuiet_read r.source opening _ hread, List.nil_append,
      hdone.written, hwritten, List.map_append]
    rfl
  · rw [hdone.paths, List.map_append]
  · rw [hdone.paths, ← List.map_append]
    exact hfollow.paths

/-! ### Types that differ in less than their names can -/

namespace SharedNames

def dimming (version id : String) : ServiceReference :=
  { ServiceReference.blank ⟨"service", []⟩ with
    serviceType := version
    serviceId := id
    scpdUrl := "file:///" ++ id }

def lamp (type udn : String) : DeviceInfo :=
  { DeviceInfo.blank ⟨"device", []⟩ with
    deviceType := type
    udn := udn }

/-- A device with another one in it and with two services. The types are told apart by the parts of
    their names that no class name keeps. -/
def lamps : DeviceDescription :=
  { DeviceDescription.blank ⟨"root", []⟩ with
    device := .mk { lamp "urn:a:device:Lamp:1" "1" with
      services := ⟨[("A", dimming "urn:a:service:Dimming:1" "A"),
        ("B", dimming "urn:b:service:dimming:1" "B")], 0⟩ }
      [("2", .mk (lamp "urn:b:device:lamp:1" "2") [])] }

def document : String :=
  "<root><device><deviceType>urn:a:device:Lamp:1</deviceType><UDN>1</UDN><serviceList>
    <service><serviceType>urn:a:service:Dimming:1</serviceType><serviceId>A</serviceId>
      <SCPDURL>file:///A</SCPDURL></service>
    <service><serviceType>urn:b:service:dimming:1</serviceType><serviceId>B</serviceId>
      <SCPDURL>file:///B</SCPDURL></service></serviceList><deviceList>
    <device><deviceType>urn:b:device:lamp:1</deviceType><UDN>2</UDN></device>
  </deviceList></device></root>"

set_option maxRecDepth 10000 in
theorem parse_document : DeviceDescription.parse document = .ok lamps := by
  have hscan : Markup.Scan.ofDocument document = Markup.Scan.ofChars _ :=
    Markup.Scan.ofDocument_ofList _
  rw [DeviceDescription.parse, hscan]
  rfl

/-- A machine with the description of the second service only. -/
def answer : (o : Operation) → o.Answer
  | .realPath _ => .error .missing
  | .isPresent _ => false
  | .isDirectory _ => false
  | .readFile path => if path = "/B" then .ok "<scpd/>" else .error .missing
  | .makeDirectories _ => .ok ()
  | .writeFile _ _ => .ok ()
  | .removeFile _ => .error .missing
  | .send _ => none

def choices : Choices :=
  ⟨.visualBasic, "UPnP", true, "/out", false⟩

def request : DeviceRequest :=
  ⟨"file:///lamp.xml", true⟩

def location : Url :=
  ⟨"file", some ⟨"", "", "", none⟩, .segments ["lamp.xml"], none, none⟩

theorem read_request : (Source.read request.source : Script (Except SourceFault Source)).Runs
    [⟨.readFile "/lamp.xml", .ok document⟩] (.ok ⟨location, document⟩) :=
  runs_read_file (by decide +kernel) rfl (by decide +kernel) document

def run : List Exchange × Except Generation.Fault (List String) :=
  (writeTree choices true lamps location : Run Script (List String)).run.perform answer

set_option maxRecDepth 20000 in
theorem run_paths : run.2 = .ok ["/out/DimmingService2.designer.vb", "/out/LampDevice.designer.vb",
    "/out/LampDevice2.designer.vb"] := by
  decide +kernel

/-- Two types of devices want one name, and two types of services another. -/
theorem lamps_followPlan :
    ∃ trace, (writeDevice choices request : Run Script (List String)).run.Runs trace
        (.ok ["/out/DimmingService2.designer.vb", "/out/LampDevice.designer.vb",
          "/out/LampDevice2.designer.vb"]) ∧
      ∃ source d, (∃ opening, opening <+: trace ∧
          (Source.read request.source : Script (Except SourceFault Source)).Runs opening
            (.ok source)) ∧
        DeviceDescription.parse source.text = .ok d ∧
        ∃ services devices : List (String × File),
          FollowPlan choices (Plan.of d.device true) d.device services devices ∧
          written trace =
            ((services ++ devices).map fun x => (choices.pathOf x.2, x.2.source)) := by
  have hrun : (writeDevice choices request : Run Script (List String)).run.Runs
      ([⟨.readFile "/lamp.xml", .ok document⟩] ++ run.1) run.2 :=
    runs_writeDevice_perform read_request parse_document answer
  rw [run_paths] at hrun
  obtain ⟨source, d, hread, hparse, services, devices, hfollow, hwritten, -⟩ :=
    writeDevice_followPlan hrun
  exact ⟨_, hrun, source, d, hread, hparse, services, devices, hfollow, hwritten⟩

end SharedNames

end ControlPoint.Generation
