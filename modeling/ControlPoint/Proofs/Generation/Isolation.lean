import Mathlib
import ControlPoint.Proofs.Generation.Children
import ControlPoint.Proofs.Generation.Files
import ControlPoint.Proofs.Generation.Parallel

/-!
What it changes that the class of one type of services cannot be written: nothing but that class and
the types of the properties for services of the type.
-/

open ControlPoint.Class

namespace ControlPoint.Generation

open Description Host Naming Script

/-! ### Identifiers that are told apart -/

/-- No service shares its identifier with another service or with a device. Services without an
    identifier do not count. -/
structure HasDistinctIdentifiers (root : Device) : Prop where
  services : ((root.allServices.map fun x => x.2.serviceId).filter fun id =>
    !Text.isBlankText id).Nodup
  devices : ∀ x ∈ root.allServices, Text.isBlankText x.2.serviceId = false →
    x.2.serviceId ∉ root.all.map Device.udn

variable {root : Device} {p : Plan} {o : Outcomes}

theorem HasDistinctIdentifiers.eq_of_serviceId (hdistinct : HasDistinctIdentifiers root)
    {x y : Device × ServiceReference} (hx : x ∈ root.allServices) (hy : y ∈ root.allServices)
    (hid : Text.isBlankText x.2.serviceId = false) (heq : y.2.serviceId = x.2.serviceId) :
    y = x := by
  have hservices := hdistinct.services
  rw [List.filter_map] at hservices
  refine List.inj_on_of_nodup_map hservices ?_ ?_ heq
  · exact List.mem_filter.mpr ⟨hy, by simp [heq, hid]⟩
  · exact List.mem_filter.mpr ⟨hx, by simp [hid]⟩

/-- The class that stands for the identifier of a service is that of its type. -/
theorem HasDistinctIdentifiers.find?_children_service (hdistinct : HasDistinctIdentifiers root)
    (hsound : p.Sound root) {d : Device} (hd : d ∈ root.all) {s : ServiceReference}
    (hs : s ∈ DeviceClass.namedServices d) :
    (p.children root o).find? s.serviceId = o.written? s.serviceType := by
  obtain ⟨hservice, hid⟩ := List.mem_filter.mp hs
  have hid : Text.isBlankText s.serviceId = false := by simpa using hid
  have hmem : (d, s) ∈ root.allServices :=
    List.mem_flatMap.mpr ⟨d, hd, List.mem_map_of_mem hservice⟩
  have hdevice : (root.all.find? fun d => d.udn == s.serviceId) = none := by
    refine List.find?_eq_none.mpr fun other hother heq => ?_
    exact hdistinct.devices (d, s) hmem hid (eq_of_beq heq ▸ List.mem_map_of_mem hother)
  rw [find?_children hsound o hid, firstBearer?, hdevice, Option.map_none, Option.or_none]
  cases hfind : root.allServices.find? fun y =>
      y.2.serviceId == s.serviceId && (o.written? y.2.serviceType).isSome with
  | none =>
    have hunwritten := List.find?_eq_none.mp hfind (d, s) hmem
    exact (by simpa using hunwritten : o.written? s.serviceType = none).symm
  | some y =>
    have hy := List.find?_some hfind
    simp only [Bool.and_eq_true, beq_iff_eq] at hy
    rw [hdistinct.eq_of_serviceId hmem (List.mem_of_find?_eq_some hfind) hid hy.1]
    rfl

/-- The class that stands for the name of a device has nothing to do with what came of services. -/
theorem HasDistinctIdentifiers.find?_children_device (hdistinct : HasDistinctIdentifiers root)
    (hsound : p.Sound root) {d : Device} (hd : d ∈ root.all) (hudn : Text.isBlankText d.udn = false)
    (o o' : Outcomes) : (p.children root o').find? d.udn = (p.children root o).find? d.udn := by
  have hbearer (o : Outcomes) : firstBearer? root o d.udn =
      (root.all.find? fun other => other.udn == d.udn).map fun d => .device d.deviceType := by
    have hservice : (root.allServices.find? fun x =>
        x.2.serviceId == d.udn && (o.written? x.2.serviceType).isSome) = none := by
      refine List.find?_eq_none.mpr fun x hx hfound => ?_
      simp only [Bool.and_eq_true, beq_iff_eq] at hfound
      exact hdistinct.devices x hx (hfound.1 ▸ hudn) (hfound.1 ▸ List.mem_map_of_mem hd)
    rw [firstBearer?, hservice, Option.map_none, Option.none_or]
  rw [find?_children hsound o hudn, find?_children hsound o' hudn, hbearer, hbearer]
  cases root.all.find? fun other => other.udn == d.udn <;> rfl

/-! ### One type of services without a class -/

/-- What came of the services, with one result for a type among the others. -/
theorem written?_insert {before after : Outcomes} {type : String}
    (hnew : type ∉ before.map Prod.fst) (result : Option String) (wanted : String) :
    Outcomes.written? (before ++ (type, result) :: after) wanted =
      if wanted = type then result else Outcomes.written? (before ++ after) wanted := by
  by_cases hwanted : wanted = type
  · have hnone : before.find? (fun entry => entry.1 == type) = none := by
      refine List.find?_eq_none.mpr fun entry hentry heq => ?_
      exact hnew (eq_of_beq heq ▸ List.mem_map_of_mem hentry)
    subst hwanted
    simp [Outcomes.written?, List.find?_append, hnone]
  · simp [Outcomes.written?, List.find?_append, hwanted, Ne.symm hwanted]

/-- The class of a device, where the class for one type of its services is missing. -/
theorem declare_of_failed (hdistinct : HasDistinctIdentifiers root) (hsound : p.Sound root)
    {d : Device} (hd : d ∈ root.all) {before after : Outcomes} {type : String}
    (hnew : type ∉ before.map Prod.fst) (written : String) (l : Language) (className : String) :
    DeviceClass.declare l className d (p.children root (before ++ (type, none) :: after)) =
      (DeviceClass.declare l className d
        (p.children root (before ++ (type, some written) :: after))).untyped d type := by
  refine DeviceClass.declare_untyped d l className (fun s hs => ?_) fun child hchild => ?_
  · rw [hdistinct.find?_children_service hsound hd hs,
      hdistinct.find?_children_service hsound hd hs, written?_insert hnew, written?_insert hnew]
    split <;> rfl
  · obtain ⟨hchild, hudn⟩ := List.mem_filter.mp hchild
    obtain ⟨branch, hbranch, rfl⟩ := List.mem_map.mp hchild
    exact hdistinct.find?_children_device hsound (Device.mem_all_of_mem_embedded hbranch root hd)
      (by simpa using hudn) _ _


/-- The file for the class of a device, with and without a class for a type of its services: where
    the properties for services of the type had that class, they have the generic type. -/
structure LosesType (c : Choices) (type specific : String) (x : Device × String) (y : File × File) :
    Prop where
  declared : ∃ children, let declared := DeviceClass.declare c.language x.2 x.1 children
    declared.file x.1 (c.options x.2 x.1.deviceType) = .ok y.1 ∧
      (declared.untyped x.1 type).file x.1 (c.options x.2 x.1.deviceType) = .ok y.2 ∧
      ∀ z ∈ (DeviceClass.namedServices x.1).zip declared.services, z.1.serviceType = type →
        z.2.specific = some specific
  path : c.pathOf y.2 = c.pathOf y.1
  unchanged : (∀ s ∈ DeviceClass.namedServices x.1, s.serviceType ≠ type) → y.2 = y.1

theorem pathOf_fileOf (c : Choices) (l : Language) (className : String) (isPart : Bool)
    (text text' : String) :
    c.pathOf (File.of l className isPart text') = c.pathOf (File.of l className isPart text) := rfl

/-- The class of a device and the one without a class for a type of its services both have a file.
    -/
theorem exists_losesType_of_children {c : Choices} {x : Device × String} {children : ChildClasses}
    {type specific : String}
    (hchildren : ∀ s ∈ DeviceClass.namedServices x.1, s.serviceType = type →
      (children.find? s.serviceId).map (c.language.identifier .type) = some specific) :
    ∃ f f', LosesType c type specific x (f, f') ∧ c.pathOf f' = c.pathOf f ∧
      (DeviceClass.declare c.language x.2 x.1 children).file x.1 (c.options x.2 x.1.deviceType) =
        .ok f ∧
      ((DeviceClass.declare c.language x.2 x.1 children).untyped x.1 type).file x.1
        (c.options x.2 x.1.deviceType) = .ok f' := by
  have hservices := DeviceClass.declare_services c.language x.2 x.1 children
  rw [← List.forall₂_eq_eq_eq, List.forall₂_map_left_iff, List.forall₂_map_right_iff] at hservices
  have hunchanged (htypes : ∀ s ∈ DeviceClass.namedServices x.1, s.serviceType ≠ type) :=
    DeviceClass.untyped_eq_self x.1 htypes c.language x.2 children
  have hpath (text text' : String) := pathOf_fileOf c c.language
    (DeviceClass.declare c.language x.2 x.1 children).name c.makesParts text text'
  have hfile := (DeviceClass.declare c.language x.2 x.1 children).file_eq x.1
    (c.options x.2 x.1.deviceType)
  have hfile' := ((DeviceClass.declare c.language x.2 x.1 children).untyped x.1 type).file_eq x.1
    (c.options x.2 x.1.deviceType)
  refine ⟨_, _, ⟨⟨children, hfile, hfile', ?_⟩, hpath _ _, ?_⟩, hpath _ _, hfile, hfile'⟩
  · intro z hz htype
    rw [List.forall₂_zip hservices.flip hz]
    exact hchildren z.1 (List.of_mem_zip hz).1 htype
  · intro htypes
    rw [hunchanged htypes]

/-- The two files of a device's class, where the class for a type of services is missing in the
    second run. -/
theorem exists_losesType {c : Choices} (hdistinct : HasDistinctIdentifiers root)
    (hsound : p.Sound root) {x : Device × String} (hx : x.1 ∈ root.all) {before after : Outcomes}
    {type specific : String} (hnew : type ∉ before.map Prod.fst)
    (hidentifier : c.language.identifier .type specific = specific) :
    ∃ f f', LosesType c type specific x (f, f') ∧ c.pathOf f' = c.pathOf f ∧
      (DeviceClass.declare c.language x.2 x.1
        (p.children root (before ++ (type, some specific) :: after))).file x.1
          (c.options x.2 x.1.deviceType) = .ok f ∧
      (DeviceClass.declare c.language x.2 x.1
        (p.children root (before ++ (type, none) :: after))).file x.1
          (c.options x.2 x.1.deviceType) = .ok f' := by
  rw [declare_of_failed hdistinct hsound hx hnew specific]
  refine exists_losesType_of_children fun s hs htype => ?_
  rw [hdistinct.find?_children_service hsound hx hs, written?_insert hnew, if_pos htype,
    Option.map_some, hidentifier]

/-! ### Two runs -/

attribute [local irreducible] Script.Runs in
/-- A run for a device and its services, taken apart where the class for a type of services is
    tried. -/
structure TriedRun (c : Choices) (source type : String) where
  location : Url
  text : String
  description : DeviceDescription
  /-- The services before the first one of the type. -/
  earlier : List (Device × ServiceReference)
  owner : Device
  service : ServiceReference
  later : List (Device × ServiceReference)
  className : String
  opening : List Exchange
  before : List Exchange
  attempt : List Exchange
  after : List Exchange
  /-- What came of the services before. -/
  done : Progress
  /-- What came of the type: the class and the path of its file, if it was written. -/
  tried : Option (String × String)
  result : Except Generation.Fault (List String)
  reads : (Source.read source : Script (Except SourceFault Source)).Runs opening
    (.ok ⟨location, text⟩)
  parses : DeviceDescription.parse text = .ok description
  services_eq : description.device.allServices = earlier ++ (owner, service) :: later
  isFirst : ∀ x ∈ earlier, x.2.serviceType ≠ type
  isOfType : service.serviceType = type
  isPlanned : (Plan.of description.device true).services.find? type = some className
  starts : (writeEach c description location (Plan.of description.device true) ⟨[], []⟩
    earlier).Runs before done
  tries : (tryEmbedded c description location owner service className : Script _).Runs attempt tried
  runs : (writeDevice c ⟨source, true⟩ : Run Script (List String)).run.Runs
    (opening ++ (before ++ (attempt ++ after))) result

namespace TriedRun

variable {c : Choices} {source type : String}

def plan (a : TriedRun c source type) : Plan :=
  Plan.of a.description.device true

def trace (a : TriedRun c source type) : List Exchange :=
  a.opening ++ (a.before ++ (a.attempt ++ a.after))

/-- What two runs have written, of which only the first one has the class for the type: the files
    before and after the one for the type, that file, and for each device its files in the two runs.
    Either both write a class for every type of devices, or both stop at the same one. -/
structure Isolated (a b : TriedRun c source type) (earlier : List (String × File)) (file : File)
    (later : List (String × File)) (devices : List (File × File)) : Prop where
  plan : b.plan = a.plan
  ofType : IsServiceFile c a.plan type file
  services : ∀ x ∈ earlier ++ later, x.1 ≠ type ∧ IsServiceFile c a.plan x.1 x.2
  typed : List.Forall₂ (LosesType c type file.className)
    ((a.plan.deviceFiles a.description.device).take devices.length) devices
  first : written a.trace = ((earlier ++ (type, file) :: later).map fun x => c.written x.2) ++
    devices.map fun y => c.written y.1
  second : written b.trace = ((earlier ++ later).map fun x => c.written x.2) ++
    devices.map fun y => c.written y.2
  results : (∃ fault, a.result = .error fault ∧ b.result = .error fault) ∨
    devices.length = (a.plan.deviceFiles a.description.device).length ∧
      a.result = .ok (((earlier ++ (type, file) :: later).map fun x => c.pathOf x.2) ++
        devices.map fun y => c.pathOf y.1) ∧
      b.result = .ok (((earlier ++ later).map fun x => c.pathOf x.2) ++
        devices.map fun y => c.pathOf y.2)

/-- Two runs that differ only in that the class for the type is written in the first, and cannot be
    written in the second. The descriptions may give different addresses of services of the type. -/
structure DifferOnlyAtType (a b : TriedRun c source type) : Prop where
  location : a.location = b.location
  description : a.description.withoutAddressesOf type = b.description.withoutAddressesOf type
  before : a.before.map Exchange.reply = b.before.map Exchange.reply
  after : a.after.map Exchange.reply = b.after.map Exchange.reply
  succeeds : a.tried.isSome
  fails : b.tried = none

end TriedRun

theorem writeNext_types {c : Choices} {d : DeviceDescription} {location : Url} {type : String}
    {owner : Device} {s : ServiceReference} (hservice : s.serviceType ≠ type)
    {trace : List Exchange} {done done' : Progress} (hdone : type ∉ done.types)
    (hrun : (writeNext c d location p done owner s : Script Progress).Runs trace done') :
    type ∉ done'.types := by
  rw [writeNext_eq] at hrun
  split at hrun
  · obtain ⟨-, rfl⟩ := hrun
    exact hdone
  · obtain ⟨result, -, rfl⟩ := runs_map.mp hrun
    rw [Progress.types_add, List.mem_append, not_or]
    exact ⟨hdone, by simpa using hservice.symm⟩

/-- A type that none of the services has is not tried. -/
theorem writeEach_types {c : Choices} {d : DeviceDescription} {location : Url} {type : String}
    {services : List (Device × ServiceReference)}
    (hservices : ∀ x ∈ services, x.2.serviceType ≠ type) {trace : List Exchange}
    {done done' : Progress} (hdone : type ∉ done.types)
    (hrun : (writeEach c d location p done services).Runs trace done') : type ∉ done'.types := by
  induction services generalizing done trace with
  | nil =>
    obtain ⟨-, rfl⟩ := hrun
    exact hdone
  | cons x rest ih =>
    rw [List.forall_mem_cons] at hservices
    obtain ⟨_, next, _, -, hnext, hrest⟩ := runs_bind.mp hrun
    exact ih hservices.2 (writeNext_types hservices.1 hdone hnext) hrest

/-- A type that was not tried before is tried. -/
theorem writeNext_of_new {c : Choices} {d : DeviceDescription} {location : Url} {done : Progress}
    {owner : Device} {s : ServiceReference} {className : String} (hnew : s.serviceType ∉ done.types)
    (hplanned : p.services.find? s.serviceType = some className) :
    (writeNext c d location p done owner s : Script Progress) =
      done.add s.serviceType <$> tryEmbedded c d location owner s className := by
  have htried : done.isTried s.serviceType = false := by
    rw [Progress.isTried_eq]
    simpa using hnew
  rw [writeNext_eq, htried, if_neg Bool.false_ne_true, hplanned]

theorem servicesOf_of_append {c : Choices} {d : DeviceDescription} {location : Url}
    {earlier later : List (Device × ServiceReference)} {x : Device × ServiceReference}
    (hservices : d.device.allServices = earlier ++ x :: later) :
    servicesOf c true d location =
      writeEach c d location (Plan.of d.device true) ⟨[], []⟩ earlier >>= fun done =>
        writeNext c d location (Plan.of d.device true) done x.1 x.2 >>= fun done =>
          writeEach c d location (Plan.of d.device true) done later := by
  have hall : servicesOf c true d location =
      writeEach c d location (Plan.of d.device true) ⟨[], []⟩ d.device.allServices := rfl
  rw [hall, hservices, writeEach_append]
  rfl

/-- After the first service of a type was tried it is the turn of the others, and then of the
    devices. -/
theorem runs_writeTree_append {c : Choices} {d : DeviceDescription} {location : Url}
    {earlier later : List (Device × ServiceReference)} {owner : Device} {s : ServiceReference}
    {className : String} {before attempt after : List Exchange} {done : Progress}
    {tried : Option (String × String)} {result : Except Generation.Fault (List String)}
    (hservices : d.device.allServices = earlier ++ (owner, s) :: later)
    (hfirst : ∀ x ∈ earlier, x.2.serviceType ≠ s.serviceType)
    (hplanned : (Plan.of d.device true).services.find? s.serviceType = some className)
    (hstarts : (writeEach c d location (Plan.of d.device true) ⟨[], []⟩ earlier).Runs before done)
    (htries : (tryEmbedded c d location owner s className : Script _).Runs attempt tried) :
    (writeTree c true d location : Run Script (List String)).run.Runs
        (before ++ (attempt ++ after)) result ↔
      (writeEach c d location (Plan.of d.device true) (done.add s.serviceType tried) later >>=
        fun done => (writeRemaining c (Plan.of d.device true) d.device done).run).Runs after
          result := by
  have hnew := writeEach_types hfirst List.not_mem_nil hstarts
  have htry : (writeNext c d location (Plan.of d.device true) done owner s : Script Progress).Runs
      attempt (done.add s.serviceType tried) := by
    rw [writeNext_of_new hnew hplanned]
    exact runs_map.mpr ⟨tried, htries, rfl⟩
  rw [writeTree_run, servicesOf_of_append hservices, LawfulMonad.bind_assoc,
    runs_bind_append hstarts, LawfulMonad.bind_assoc, runs_bind_append htry]

/-- Every type of services in the tree has a name. -/
theorem Plan.of_service_complete (root : Device) {type : String}
    (htype : type ∈ root.allServices.map fun x => x.2.serviceType) :
    ∃ className, (Plan.of root true).services.find? type = some className := by
  obtain ⟨added, hadded⟩ := nameTypes_spec serviceClassName_isTypeName
    (nameTypes deviceClassName (.empty .insensitive) [] (root.all.map Device.deviceType)).2 []
    (root.allServices.map fun x => x.2.serviceType)
  exact Option.isSome_iff_exists.mp (hadded.complete type htype)

/-- Every run that comes to the services tries each of their types, at the first service that has
    it. -/
theorem exists_triedRun {c : Choices} {source type : String} {found : Source}
    {d : DeviceDescription} {opening rest : List Exchange}
    {result : Except Generation.Fault (List String)}
    (hread : (Source.read source : Script (Except SourceFault Source)).Runs opening (.ok found))
    (hparse : DeviceDescription.parse found.text = .ok d)
    (htype : type ∈ d.device.allServices.map fun x => x.2.serviceType)
    (hrun : (writeDevice c ⟨source, true⟩ : Run Script (List String)).run.Runs (opening ++ rest)
      result) :
    ∃ a : TriedRun c source type, a.description = d ∧ a.trace = opening ++ rest ∧
      a.result = result := by
  obtain ⟨className, hplanned⟩ := Plan.of_service_complete d.device htype
  obtain ⟨types, others, hsplit, hfirst⟩ := List.eq_append_cons_of_mem htype
  obtain ⟨earlier, atType, hservices, rfl, hatType⟩ := List.map_eq_append_iff.mp hsplit
  obtain ⟨⟨owner, s⟩, later, rfl, rfl, rfl⟩ := List.map_eq_cons_iff.mp hatType
  have hearlier : ∀ x ∈ earlier, x.2.serviceType ≠ s.serviceType := fun x hx heq =>
    hfirst (List.mem_map.mpr ⟨x, hx, heq⟩)
  have htree := (runs_writeDevice_append (r := ⟨source, true⟩) hread hparse).mp hrun
  rw [writeTree_run, servicesOf_of_append hservices, LawfulMonad.bind_assoc, runs_bind] at htree
  obtain ⟨before, done, following, rfl, hstarts, htree⟩ := htree
  have hnew := writeEach_types hearlier List.not_mem_nil hstarts
  rw [writeNext_of_new hnew hplanned, LawfulMonad.bind_assoc, runs_bind] at htree
  obtain ⟨attempt, _, after, rfl, htry, -⟩ := htree
  obtain ⟨tried, htries, -⟩ := runs_map.mp htry
  exact ⟨⟨found.location, found.text, d, earlier, owner, s, later, className, opening, before,
    attempt, after, done, tried, result, hread, hparse, hservices, hearlier, rfl, hplanned, hstarts,
    htries, hrun⟩, rfl, rfl, rfl⟩

namespace TriedRun

variable {c : Choices} {source type : String} (a : TriedRun c source type)

theorem type_not_mem : type ∉ a.done.types :=
  writeEach_types a.isFirst List.not_mem_nil a.starts

/-- After the type was tried it is the turn of the other services, and then of the devices. -/
theorem runs_after : ∃ between done ending, a.after = between ++ ending ∧
    (writeEach c a.description a.location a.plan (a.done.add type a.tried) a.later).Runs between
      done ∧
    (writeRemaining c a.plan a.description.device done).run.Runs ending a.result := by
  have hfirst : ∀ x ∈ a.earlier, x.2.serviceType ≠ a.service.serviceType := by
    rw [a.isOfType]
    exact a.isFirst
  have hplanned : a.plan.services.find? a.service.serviceType = some a.className := by
    rw [a.isOfType]
    exact a.isPlanned
  have hruns := (runs_writeDevice_append (r := ⟨source, true⟩) a.reads a.parses).mp a.runs
  rw [runs_writeTree_append a.services_eq hfirst hplanned a.starts a.tries, a.isOfType,
    runs_bind] at hruns
  exact hruns

/-- The run on a machine that always gives the same answers. -/
def ofAnswers (answer : (o : Operation) → o.Answer) {found : Source} {d : DeviceDescription}
    {opening : List Exchange} {earlier later : List (Device × ServiceReference)} {owner : Device}
    {s : ServiceReference} {className : String}
    (hread : (Source.read source : Script (Except SourceFault Source)).Runs opening (.ok found))
    (hparse : DeviceDescription.parse found.text = .ok d)
    (hservices : d.device.allServices = earlier ++ (owner, s) :: later)
    (hfirst : ∀ x ∈ earlier, x.2.serviceType ≠ s.serviceType)
    (hplanned : (Plan.of d.device true).services.find? s.serviceType = some className) :
    TriedRun c source s.serviceType :=
  let start :=
    (writeEach c d found.location (Plan.of d.device true) ⟨[], []⟩ earlier).perform answer
  let trial := (tryEmbedded c d found.location owner s className : Script _).perform answer
  let rest := (writeEach c d found.location (Plan.of d.device true)
    (start.2.add s.serviceType trial.2) later >>= fun done =>
      (writeRemaining c (Plan.of d.device true) d.device done).run).perform answer
  { location := found.location, text := found.text, description := d, earlier, owner, service := s,
    later, className, opening, before := start.1, attempt := trial.1, after := rest.1,
    done := start.2, tried := trial.2, result := rest.2, reads := hread, parses := hparse,
    services_eq := hservices, isFirst := hfirst, isOfType := rfl, isPlanned := hplanned,
    starts := runs_perform answer _, tries := runs_perform answer _
    runs := (runs_writeDevice_append (r := ⟨source, true⟩) hread hparse).mpr
      ((runs_writeTree_append hservices hfirst hplanned (runs_perform answer _)
        (runs_perform answer _)).mpr (runs_perform answer _)) }

namespace DifferOnlyAtType

variable {a} {b : TriedRun c source type} (hdiffer : DifferOnlyAtType a b)

include hdiffer

theorem plan_eq : b.plan = a.plan := by
  have hdevice := congrArg DeviceDescription.device hdiffer.description
  rw [plan, plan, ← Plan.of_withoutAddressesOf type b.description.device,
    ← Plan.of_withoutAddressesOf type a.description.device]
  exact congrArg (Plan.of · true) hdevice.symm

theorem urlBase_eq : a.description.urlBase = b.description.urlBase := by
  have hbase := congrArg DeviceDescription.urlBase hdiffer.description
  exact hbase

/-- The services are the same but for the addresses of those of the type. -/
theorem alike : List.Forall₂ (AreAlike type) a.earlier b.earlier ∧
    List.Forall₂ (AreAlike type) a.later b.later := by
  have hdevice := congrArg DeviceDescription.device hdiffer.description
  have hservices := congrArg (fun d => d.allServices.map Prod.snd) hdevice
  simp only [DeviceDescription.withoutAddressesOf, Device.allServices_withoutAddressesOf,
    List.map_map] at hservices
  rw [← List.forall₂_eq_eq_eq, List.forall₂_map_left_iff, List.forall₂_map_right_iff, a.services_eq,
    b.services_eq] at hservices
  obtain ⟨hearlier, -, hlater⟩ := forall₂_of_append_cons
    (P := fun x : Device × ServiceReference => x.2.serviceType = type)
    (Q := fun x : Device × ServiceReference => x.2.serviceType = type)
    (fun _ _ halike => by rw [AreAlike.serviceType halike]) a.isFirst a.isOfType b.isFirst
    b.isOfType hservices
  exact ⟨hearlier, hlater⟩

/-- Up to where the type is tried the runs are one. -/
theorem starts_eq : a.before = b.before ∧ a.done = b.done := by
  have hstarts : (writeEach c a.description a.location a.plan ⟨[], []⟩ a.earlier).Runs a.before
      a.done := a.starts
  have hstarts' : (writeEach c b.description a.location a.plan ⟨[], []⟩ b.earlier).Runs b.before
      b.done := by
    rw [hdiffer.location, ← hdiffer.plan_eq]
    exact b.starts
  obtain ⟨rest, hrest, hrest'⟩ : ∃ rest : Script Progress,
      writeEach c a.description a.location a.plan ⟨[], []⟩ a.earlier =
        Progress.append ⟨[], []⟩ <$> rest ∧
      writeEach c b.description a.location a.plan ⟨[], []⟩ b.earlier =
        Progress.append ⟨[], []⟩ <$> rest :=
    writeEach_parallel hdiffer.urlBase_eq rfl hdiffer.alike.1 (.inr a.isFirst)
  rw [hrest] at hstarts
  rw [hrest'] at hstarts'
  exact hstarts.eq_of_replies hstarts' hdiffer.before

theorem writeRemaining_eq (done : Progress) :
    writeRemaining c b.plan b.description.device done =
      writeRemaining c a.plan a.description.device done := by
  have hdevice : a.description.device.withoutAddressesOf type =
      b.description.device.withoutAddressesOf type :=
    congrArg DeviceDescription.device hdiffer.description
  rw [writeRemaining, writeRemaining, hdiffer.plan_eq,
    ← Plan.children_withoutAddressesOf type a.plan b.description.device,
    ← Plan.children_withoutAddressesOf type a.plan a.description.device, hdevice,
    ← writeDevices_withoutAddressesOf type, ← Plan.deviceFiles_withoutAddressesOf, ← hdevice,
    Plan.deviceFiles_withoutAddressesOf, writeDevices_withoutAddressesOf]

/-- After the type is tried, the same comes of the other services in both runs. -/
theorem exists_added : ∃ between added ending ending',
    a.after = between ++ ending ∧
    ending.map Exchange.reply = ending'.map Exchange.reply ∧
    b.after = between ++ ending' ∧
    (writeEach c a.description a.location a.plan (a.done.add type a.tried) a.later).Runs between
      ((a.done.add type a.tried).append added) ∧
    (writeRemaining c a.plan a.description.device
      ((a.done.add type a.tried).append added)).run.Runs ending a.result ∧
    (writeRemaining c a.plan a.description.device
      ((a.done.add type b.tried).append added)).run.Runs ending' b.result := by
  obtain ⟨between, done, ending, hafter, hbetween, hending⟩ := a.runs_after
  obtain ⟨between', done', ending', hafter', hbetween', hending'⟩ := b.runs_after
  have htypes : (a.done.add type a.tried).types = (b.done.add type b.tried).types := by
    rw [Progress.types_add, Progress.types_add, hdiffer.starts_eq.2]
  have htried : type ∈ (a.done.add type a.tried).types := by
    simp
  obtain ⟨rest, hrest, hrest'⟩ : ∃ rest : Script Progress,
      writeEach c a.description a.location a.plan (a.done.add type a.tried) a.later =
        (a.done.add type a.tried).append <$> rest ∧
      writeEach c b.description a.location a.plan (b.done.add type b.tried) b.later =
        (b.done.add type b.tried).append <$> rest :=
    writeEach_parallel hdiffer.urlBase_eq htypes hdiffer.alike.2 (.inl htried)
  rw [hdiffer.plan_eq, ← hdiffer.location, hrest'] at hbetween'
  rw [hdiffer.writeRemaining_eq] at hending'
  have hfirst := hbetween
  rw [hrest] at hfirst
  obtain ⟨added, hadded, rfl⟩ := runs_map.mp hfirst
  obtain ⟨added', hadded', rfl⟩ := runs_map.mp hbetween'
  have hreplies := hdiffer.after
  rw [hafter, hafter'] at hreplies
  obtain ⟨rfl, rfl, hreplies⟩ := hadded.determined hadded' hreplies
  rw [← hdiffer.starts_eq.2] at hending'
  exact ⟨between, added, ending, ending', hafter, hreplies, hafter', hbetween, hending, hending'⟩

end DifferOnlyAtType

/-- The class for the type, if it was written. -/
theorem exists_file {a : TriedRun c source type} (hsucceeds : a.tried.isSome) :
    ∃ f, IsServiceFile c a.plan type f ∧ a.tried = some (f.className, c.pathOf f) ∧
      written a.attempt = [c.written f] := by
  rcases tryEmbedded_spec a.tries with ⟨hnone, -⟩ | ⟨s, answers, f, hfile, htried, hwritten⟩
  · rw [hnone] at hsucceeds
    cases hsucceeds
  · rw [a.isOfType] at hfile
    exact ⟨f, ⟨a.className, s, answers, a.isPlanned, hfile⟩, htried, hwritten⟩

/-- The files of the services before and after the type. -/
theorem exists_services {a : TriedRun c source type} {file : File}
    (hfile : IsServiceFile c a.plan type file)
    (htried : a.tried = some (file.className, c.pathOf file))
    (hattempt : written a.attempt = [c.written file]) {between : List Exchange} {added : Progress}
    (hbetween : (writeEach c a.description a.location a.plan (a.done.add type a.tried) a.later).Runs
      between ((a.done.add type a.tried).append added)) :
    ∃ earlier later : List (String × File),
      (∀ x ∈ earlier ++ later, x.1 ≠ type ∧ IsServiceFile c a.plan x.1 x.2) ∧
      (written a.before = earlier.map fun x => c.written x.2) ∧
      (a.done.paths = earlier.map fun x => c.pathOf x.2) ∧
      (written between = later.map fun x => c.written x.2) ∧
      added.paths = later.map fun x => c.pathOf x.2 := by
  have hstarts : (writeEach c a.description a.location a.plan ⟨[], []⟩ a.earlier).Runs a.before
      a.done := a.starts
  obtain ⟨earlier, hearlier⟩ := writeEach_recorded (Progress.recorded_start c a.plan) hstarts
  rw [List.nil_append, List.nil_append] at hearlier
  have hnew : a.done.isTried type = false := by
    simpa [Progress.isTried_eq] using a.type_not_mem
  have hwith := hearlier.add_some hnew hfile hattempt
  rw [← htried] at hwith
  obtain ⟨later, hlater⟩ := writeEach_recorded hwith hbetween
  refine ⟨earlier, later, fun x hx => ⟨?_, ?_⟩, hearlier.written, hearlier.paths, ?_, ?_⟩
  · have hdistinct := hlater.types_distinct
    rw [List.append_assoc, List.singleton_append, List.map_append, List.map_cons,
      List.nodup_middle, List.nodup_cons, ← List.map_append] at hdistinct
    intro htype
    exact hdistinct.1 (List.mem_map.mpr ⟨x, hx, htype⟩)
  · refine hlater.served x ?_
    simp only [List.mem_append] at hx ⊢
    exact hx.imp_left .inl
  · have hwritten := hlater.written
    rw [written_append, hwith.written] at hwritten
    exact List.append_cancel_left (hwritten.trans List.map_append)
  · have hpaths : (a.done.add type a.tried).paths ++ added.paths = _ := hlater.paths
    rw [hwith.paths] at hpaths
    exact List.append_cancel_left (hpaths.trans List.map_append)

end TriedRun

/-- Where identifiers are told apart, it changes nothing for other services and other classes that
    the class for one type of services cannot be written, but that properties for services of the
    type have the generic type. No name changes. -/
theorem writeDevice_isolated {c : Choices} {source type : String} {a b : TriedRun c source type}
    (hdistinct : HasDistinctIdentifiers a.description.device) (hdiffer : a.DifferOnlyAtType b) :
    ∃ earlier file later devices, a.Isolated b earlier file later devices := by
  obtain ⟨file, hfile, htried, hattempt⟩ := TriedRun.exists_file hdiffer.succeeds
  obtain ⟨between, added, ending, ending', hafter, hreplies, hafter', hbetween, hending,
    hending'⟩ := hdiffer.exists_added
  obtain ⟨earlier, later, hservices, hbefore, hpaths, hothers, haddedPaths⟩ :=
    TriedRun.exists_services hfile htried hattempt hbetween
  have hattempt' : written b.attempt = [] := by
    rcases tryEmbedded_spec b.tries with ⟨-, hnone⟩ | ⟨_, _, _, -, hsome, -⟩
    · exact hnone
    · rw [hdiffer.fails] at hsome
      cases hsome
  have hidentifier : c.language.identifier .type file.className = file.className := by
    obtain ⟨_, _, _, -, -, hnamed⟩ := IsServiceFile.isNamed hfile
    exact hnamed.identifier_eq
  obtain ⟨found, hdevices, hresult⟩ := runs_writeRemaining.mp hending
  obtain ⟨found', hdevices', hresult'⟩ := runs_writeRemaining.mp hending'
  rw [htried] at hdevices hresult
  rw [hdiffer.fails] at hdevices' hresult'
  have houtcomes (result : Option (String × String)) :
      ((a.done.add type result).append added).outcomes =
        a.done.outcomes ++ (type, result.map Prod.fst) :: added.outcomes := by
    simp [Progress.append, Progress.add]
  rw [houtcomes] at hdevices hdevices'
  obtain ⟨pairs, rfl, htyped, hwritten, hwritten', hend⟩ := writeDevices_parallel
    (fun x hx => exists_losesType hdistinct (Plan.of_sound _ true) (mem_deviceFiles hx).1
      a.type_not_mem hidentifier) hdevices hdevices' hreplies
  have hopening := isQuiet_read source a.opening _ a.reads
  have hopening' := isQuiet_read source b.opening _ b.reads
  refine ⟨earlier, file, later, pairs, hdiffer.plan_eq, hfile, hservices, htyped, ?_, ?_, ?_⟩
  · simp [TriedRun.trace, hopening, hbefore, hattempt, hafter, hothers, hwritten]
  · simp [TriedRun.trace, hopening', ← hdiffer.starts_eq.1, hbefore, hattempt', hafter', hothers,
      hwritten']
  · rcases hend with ⟨fault, rfl⟩ | ⟨hlength, rfl⟩
    · exact .inl ⟨fault, hresult.symm, hresult'.symm⟩
    · have hsame : (pairs.map fun y => c.pathOf y.1) = pairs.map fun y => c.pathOf y.2 := by
        refine List.map_congr_left fun y hy => ?_
        obtain ⟨x, -, hxy⟩ := (exists_partner_of_forall₂ htyped).2 y hy
        exact hxy.path.symm
      refine .inr ⟨hlength, ?_, ?_⟩
      · rw [← hresult]
        simp [Except.map, Progress.append, Progress.add, hpaths, haddedPaths]
      · rw [← hresult']
        simp [Except.map, Progress.append, Progress.add, hpaths, haddedPaths, hsame]

/-! ### A lamp with and without the description of a service -/

namespace MissingDescription

def dimmingType : String :=
  "urn:a:service:Dimming:1"

def dimming : ServiceReference :=
  { ServiceReference.blank ⟨"service", []⟩ with
    serviceType := dimmingType
    serviceId := "A"
    scpdUrl := "file:///A" }

def switch : ServiceReference :=
  { ServiceReference.blank ⟨"service", []⟩ with
    serviceType := "urn:a:service:Switch:1"
    serviceId := "B"
    scpdUrl := "file:///B" }

def lamp : DeviceDescription :=
  { DeviceDescription.blank ⟨"root", []⟩ with
    device := .mk { DeviceInfo.blank ⟨"device", []⟩ with
      deviceType := "urn:a:device:Lamp:1"
      udn := "1"
      services := ⟨[("A", dimming), ("B", switch)], 0⟩ } [] }

def document : String :=
  "<root><device><deviceType>urn:a:device:Lamp:1</deviceType><UDN>1</UDN><serviceList>
    <service><serviceType>urn:a:service:Dimming:1</serviceType><serviceId>A</serviceId>
      <SCPDURL>file:///A</SCPDURL></service>
    <service><serviceType>urn:a:service:Switch:1</serviceType><serviceId>B</serviceId>
      <SCPDURL>file:///B</SCPDURL></service></serviceList></device></root>"

set_option maxRecDepth 10000 in
theorem parse_document : DeviceDescription.parse document = .ok lamp := by
  have hscan : Markup.Scan.ofDocument document = Markup.Scan.ofChars _ :=
    Markup.Scan.ofDocument_ofList _
  rw [DeviceDescription.parse, hscan]
  rfl

def choices : Choices :=
  ⟨.csharp, "UPnP", false, "/out", false⟩

def location : Url :=
  ⟨"file", some ⟨"", "", "", none⟩, .segments ["lamp.xml"], none, none⟩

/-- A machine with the descriptions of both services, or of the second one only. -/
def answer (isThere : Bool) : (o : Operation) → o.Answer
  | .realPath _ => .error .missing
  | .isPresent _ => false
  | .isDirectory _ => false
  | .readFile path =>
    if path = "/B" ∨ isThere ∧ path = "/A" then .ok "<scpd/>" else .error .missing
  | .makeDirectories _ => .ok ()
  | .writeFile _ _ => .ok ()
  | .removeFile _ => .error .missing
  | .send _ => none

theorem read_document : (Source.read "file:///lamp.xml" : Script (Except SourceFault Source)).Runs
    [⟨.readFile "/lamp.xml", .ok document⟩] (.ok ⟨location, document⟩) :=
  runs_read_file (by decide +kernel) rfl (by decide +kernel) document

theorem find?_dimming :
    (Plan.of lamp.device true).services.find? dimming.serviceType = some "DimmingService" := by
  decide +kernel

theorem allServices_lamp :
    lamp.device.allServices = [] ++ (lamp.device, dimming) :: [(lamp.device, switch)] := rfl

attribute [local irreducible] Script.Runs in
/-- The run on the machine, taken apart. -/
def run (isThere : Bool) : TriedRun choices "file:///lamp.xml" dimming.serviceType :=
  .ofAnswers (answer isThere) read_document parse_document allServices_lamp (by simp) find?_dimming

theorem differOnlyAtType : (run true).DifferOnlyAtType (run false) where
  location := rfl
  description := rfl
  before := rfl
  after := by decide +kernel
  succeeds := by decide +kernel
  fails := by decide +kernel

theorem lamp_hasDistinctIdentifiers : HasDistinctIdentifiers lamp.device where
  services := by decide +kernel
  devices := by decide +kernel

/-- Without the description of one service the class for the other and that of the lamp are written
    still. -/
theorem lamp_isolated :
    (∃ earlier file later devices, (run true).Isolated (run false) earlier file later devices) ∧
      (run true).result = .ok ["/out/DimmingService.cs", "/out/SwitchService.cs",
        "/out/LampDevice.cs"] ∧
      (run false).result = .ok ["/out/SwitchService.cs", "/out/LampDevice.cs"] :=
  ⟨writeDevice_isolated lamp_hasDistinctIdentifiers differOnlyAtType, by decide +kernel,
    by decide +kernel⟩

end MissingDescription

end ControlPoint.Generation
