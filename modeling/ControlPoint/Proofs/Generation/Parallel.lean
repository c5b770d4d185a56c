import Mathlib
import ControlPoint.Proofs.Class.DeviceCode
import ControlPoint.Proofs.Description.DeviceTree
import ControlPoint.Proofs.Generation.Writing

/-!
Two runs side by side, for descriptions that differ in the addresses of one type of services at
most. Outside the trying of that type they ask the same questions.
-/

open ControlPoint.Class

namespace ControlPoint.Generation

open Description Host Naming Script

variable {c : Choices}

/-! ### Addresses do not matter for plans and classes -/

theorem Plan.of_withoutAddressesOf (type : String) (root : Device) (withServices : Bool) :
    Plan.of (root.withoutAddressesOf type) withServices = Plan.of root withServices := by
  have hdevices : (root.withoutAddressesOf type).all.map Device.deviceType =
      root.all.map Device.deviceType := by
    rw [Device.all_withoutAddressesOf, List.map_map]
    exact List.map_congr_left fun d _ => d.deviceType_withoutAddressesOf type
  have hservices : ((root.withoutAddressesOf type).allServices.map fun x => x.2.serviceType) =
      root.allServices.map fun x => x.2.serviceType := by
    rw [Device.allServices_withoutAddressesOf, List.map_map]
    exact List.map_congr_left fun x _ => x.2.serviceType_withoutAddressesOf type
  rw [Plan.of, Plan.of, hdevices, hservices]

theorem firstOfTypes_withoutAddressesOf (type : String) (seen : List String)
    (devices : List Device) :
    firstOfTypes seen (devices.map (·.withoutAddressesOf type)) =
      (firstOfTypes seen devices).map (·.withoutAddressesOf type) := by
  induction devices generalizing seen with
  | nil => rfl
  | cons d rest ih =>
    rw [List.map_cons, firstOfTypes, firstOfTypes, Device.deviceType_withoutAddressesOf, ih, ih]
    split <;> rfl

theorem Plan.deviceFiles_withoutAddressesOf (type : String) (p : Plan) (root : Device) :
    p.deviceFiles (root.withoutAddressesOf type) =
      (p.deviceFiles root).map fun x => (x.1.withoutAddressesOf type, x.2) := by
  rw [deviceFiles, deviceFiles, Device.all_withoutAddressesOf, firstOfTypes_withoutAddressesOf,
    List.filterMap_map, List.map_filterMap]
  refine List.filterMap_congr fun d _ => ?_
  simp only [Function.comp_apply, Device.deviceType_withoutAddressesOf, Option.map_map]
  rfl

theorem Plan.children_withoutAddressesOf (type : String) (p : Plan) (root : Device) (o : Outcomes) :
    p.children (root.withoutAddressesOf type) o = p.children root o := by
  simp only [children, serviceClasses, deviceClasses, Device.all_withoutAddressesOf,
    Device.allServices_withoutAddressesOf, List.filterMap_map, Function.comp_def,
    ServiceReference.serviceType_withoutAddressesOf, ServiceReference.serviceId_withoutAddressesOf,
    Device.udn_withoutAddressesOf, Device.deviceType_withoutAddressesOf]

theorem declare_withoutAddressesOf (type : String) (l : Language) (className : String) (d : Device)
    (children : ChildClasses) :
    DeviceClass.declare l className (d.withoutAddressesOf type) children =
      DeviceClass.declare l className d children := by
  have hdevices : DeviceClass.childDevices (d.withoutAddressesOf type) =
      DeviceClass.childDevices d := by
    simp only [DeviceClass.childDevices, Device.embedded_withoutAddressesOf, List.map_map,
      List.filterMap_map, Function.comp_def, Device.udn_withoutAddressesOf,
      Device.friendlyName_withoutAddressesOf, Device.deviceType_withoutAddressesOf,
      Device.shortTypeName]
  have hservices : DeviceClass.childServices (d.withoutAddressesOf type) =
      DeviceClass.childServices d := by
    simp only [DeviceClass.childServices, Device.services_withoutAddressesOf, List.filterMap_map,
      Function.comp_def, ServiceReference.serviceType_withoutAddressesOf,
      ServiceReference.serviceId_withoutAddressesOf, ServiceReference.shortId_withoutAddressesOf]
  rw [DeviceClass.declare, DeviceClass.declare, hdevices, hservices]

theorem writeDeviceClass_withoutAddressesOf (type : String) (c : Choices) (d : Device)
    (className : String) (children : ChildClasses) :
    (writeDeviceClass c (d.withoutAddressesOf type) className children : Run Script String) =
      writeDeviceClass c d className children := by
  have hfile (declared : DeviceClass) (o : Options) :
      declared.file (d.withoutAddressesOf type) o = declared.file d o := by
    simp only [DeviceClass.file_eq, DeviceClass.code, DeviceClass.summary,
      Device.deviceType_withoutAddressesOf]
  apply ExceptT.ext
  rw [writeDeviceClass_run, writeDeviceClass_run, declare_withoutAddressesOf, hfile,
    Device.deviceType_withoutAddressesOf]

theorem writeDevices_withoutAddressesOf (type : String) (c : Choices) (children : ChildClasses)
    (files : List (Device × String)) :
    writeDevices c children (files.map fun x => (x.1.withoutAddressesOf type, x.2)) =
      writeDevices c children files := by
  simp only [writeDevices, List.mapM_map, Function.comp_def, writeDeviceClass_withoutAddressesOf]

/-! ### Services, apart from those of the type -/

theorem writeEmbedded_congr {d d' : DeviceDescription} (hbase : d.urlBase = d'.urlBase)
    (location : Url) (s : ServiceReference) (className : String) :
    (writeEmbedded c d location s className : Run Script _) =
      writeEmbedded c d' location s className := by
  simp only [writeEmbedded, resolveIn, DeviceDescription.resolve_congr hbase]

theorem tryEmbedded_eq (d : DeviceDescription) (location : Url) (owner : Device)
    (s : ServiceReference) (className : String) :
    (tryEmbedded c d location owner s className : Script _) =
      Except.toOption <$> (writeEmbedded c d location s className : Run Script _).run := by
  rw [← bind_pure_comp]
  unfold tryEmbedded
  congr 1
  funext found
  cases found <;> rfl

def Progress.append (done added : Progress) : Progress :=
  ⟨done.outcomes ++ added.outcomes, done.paths ++ added.paths⟩

def Progress.types (done : Progress) : List String :=
  done.outcomes.map Prod.fst

theorem Progress.isTried_eq (done : Progress) (type : String) :
    done.isTried type = done.types.contains type := by
  rw [isTried, types, List.contains_eq_any_beq, List.any_map]
  refine congrArg done.outcomes.any (funext fun x => ?_)
  exact Bool.beq_comm

@[simp] theorem Progress.types_append (done added : Progress) :
    (done.append added).types = done.types ++ added.types :=
  List.map_append

theorem Progress.append_append (done added : Progress) :
    (done.append added).append = fun more => done.append (added.append more) := by
  funext more
  simp only [append, List.append_assoc]

@[simp] theorem Progress.types_add (done : Progress) (type : String)
    (result : Option (String × String)) : (done.add type result).types = done.types ++ [type] :=
  List.map_append

/-- The entries are the same but for the addresses of services of the type. -/
def AreAlike (type : String) (x y : Device × ServiceReference) : Prop :=
  x.2.withoutAddressesOf type = y.2.withoutAddressesOf type

theorem AreAlike.serviceType {type : String} {x y : Device × ServiceReference}
    (halike : AreAlike type x y) : x.2.serviceType = y.2.serviceType := by
  have htypes := congrArg ServiceReference.serviceType halike
  simpa using htypes

theorem AreAlike.eq_of_ne {type : String} {x y : Device × ServiceReference}
    (halike : AreAlike type x y) (htype : x.2.serviceType ≠ type) : x.2 = y.2 := by
  have htype' := halike.serviceType ▸ htype
  rwa [AreAlike, ServiceReference.withoutAddressesOf_of_ne htype,
    ServiceReference.withoutAddressesOf_of_ne htype'] at halike

section

variable {d d' : DeviceDescription} {location : Url} {p : Plan} {type : String}

/-- Where the same types were tried before, the same is done for a service, unless its class is the
    one that is to be tried. -/
theorem writeNext_parallel (hbase : d.urlBase = d'.urlBase) {done done' : Progress}
    (htypes : done.types = done'.types) {x y : Device × ServiceReference}
    (halike : AreAlike type x y)
    (htried : type ∈ done.types ∨ x.2.serviceType ≠ type) :
    ∃ rest : Script Progress, writeNext c d location p done x.1 x.2 = done.append <$> rest ∧
      writeNext c d' location p done' y.1 y.2 = done'.append <$> rest := by
  have hnothing (done : Progress) :
      (pure done : Script Progress) = done.append <$> pure ⟨[], []⟩ := by
    rw [map_pure, Progress.append, List.append_nil, List.append_nil]
  rw [writeNext_eq, writeNext_eq, Progress.isTried_eq, Progress.isTried_eq, ← htypes,
    ← halike.serviceType]
  cases hplanned : if done.types.contains x.2.serviceType then none
      else p.services.find? x.2.serviceType with
  | none => exact ⟨pure ⟨[], []⟩, hnothing done, hnothing done'⟩
  | some className =>
    have hother : x.2.serviceType ≠ type := by
      rintro rfl
      have hknown : done.types.contains x.2.serviceType = true := by simpa using htried
      rw [hknown] at hplanned
      cases hplanned
    have hsame : (tryEmbedded c d location x.1 x.2 className : Script _) =
        tryEmbedded c d' location y.1 y.2 className := by
      rw [tryEmbedded_eq, tryEmbedded_eq, ← halike.eq_of_ne hother, writeEmbedded_congr hbase]
    refine ⟨Progress.add ⟨[], []⟩ x.2.serviceType <$>
      tryEmbedded c d location x.1 x.2 className, ?_, ?_⟩
    · rw [Functor.map_map]
      rfl
    · rw [Functor.map_map, hsame]
      rfl

@[simp] theorem writeEach_nil (done : Progress) :
    writeEach c d location p done [] = pure done := rfl

@[simp] theorem writeEach_cons (done : Progress) (x : Device × ServiceReference)
    (rest : List (Device × ServiceReference)) :
    writeEach c d location p done (x :: rest) =
      writeNext c d location p done x.1 x.2 >>= fun done =>
        writeEach c d location p done rest := rfl

theorem writeEach_append (done : Progress) (first second : List (Device × ServiceReference)) :
    writeEach c d location p done (first ++ second) =
      writeEach c d location p done first >>= fun done => writeEach c d location p done second :=
  List.foldlM_append

/-- What is done for services one after another depends on the types that were tried before, and not
    on what came of them. -/
theorem writeEach_parallel (hbase : d.urlBase = d'.urlBase) {done done' : Progress}
    (htypes : done.types = done'.types) {services services' : List (Device × ServiceReference)}
    (halike : List.Forall₂ (AreAlike type) services services')
    (htried : type ∈ done.types ∨ ∀ x ∈ services, x.2.serviceType ≠ type) :
    ∃ rest : Script Progress, writeEach c d location p done services = done.append <$> rest ∧
      writeEach c d' location p done' services' = done'.append <$> rest := by
  induction halike generalizing done done' with
  | nil =>
    refine ⟨pure ⟨[], []⟩, ?_, ?_⟩ <;>
      rw [writeEach_nil, map_pure, Progress.append, List.append_nil, List.append_nil]
  | @cons x y services services' hxy _ ih =>
    rw [List.forall_mem_cons] at htried
    obtain ⟨first, hfirst, hfirst'⟩ : ∃ first : Script Progress,
        writeNext c d location p done x.1 x.2 = done.append <$> first ∧
        writeNext c d' location p done' y.1 y.2 = done'.append <$> first :=
      writeNext_parallel hbase htypes hxy (htried.imp_right And.left)
    have hothers (added : Progress) : ∃ others : Script Progress,
        writeEach c d location p (done.append added) services =
          (done.append added).append <$> others ∧
        writeEach c d' location p (done'.append added) services' =
          (done'.append added).append <$> others :=
      ih (by simp [htypes]) (htried.imp (by simp +contextual) And.right)
    choose others hothers hothers' using hothers
    refine ⟨first >>= fun added => added.append <$> others added, ?_, ?_⟩
    · simp only [writeEach_cons, hfirst, bind_map_left, hothers, map_bind, Functor.map_map,
        Progress.append_append]
    · simp only [writeEach_cons, hfirst', bind_map_left, hothers', map_bind, Functor.map_map,
        Progress.append_append]

end

/-! ### Classes of devices -/

section

variable {trace trace' rest rest' : List Exchange}

/-- What becomes of a file does not depend on what is in it. -/
theorem writeClass_parallel {f f' : File} {result result' : Except Generation.Fault String}
    (hpath : c.pathOf f' = c.pathOf f)
    (hrun : (writeClass c f : Run Script String).run.Runs trace result)
    (hrun' : (writeClass c f' : Run Script String).run.Runs trace' result')
    (hreplies : (trace ++ rest).map Exchange.reply = (trace' ++ rest').map Exchange.reply) :
    result = result' ∧ rest.map Exchange.reply = rest'.map Exchange.reply ∧
      ((result = .ok (c.pathOf f) ∧ written trace = [c.written f] ∧
          written trace' = [c.written f']) ∨
        (∃ fault, result = .error fault) ∧ written trace = [] ∧ written trace' = []) := by
  rcases runs_writeClass_iff.mp hrun with
    ⟨fault, rfl, rfl⟩ | ⟨fault, rfl, rfl⟩ | ⟨rfl, rfl⟩ <;>
  rcases runs_writeClass_iff.mp hrun' with
    ⟨fault', rfl, rfl⟩ | ⟨fault', rfl, rfl⟩ | ⟨rfl, rfl⟩ <;>
  simp [Exchange.reply, Operation.reply] at hreplies
  · obtain ⟨rfl, hrest⟩ := hreplies
    exact ⟨rfl, hrest, .inr ⟨⟨_, rfl⟩, rfl, rfl⟩⟩
  · obtain ⟨rfl, hrest⟩ := hreplies
    exact ⟨by rw [hpath], hrest, .inr ⟨⟨_, rfl⟩, rfl, rfl⟩⟩
  · exact ⟨by rw [hpath], hreplies, .inl ⟨rfl, rfl, rfl⟩⟩

/-- The class of the first device goes before those of the others, which are not tried if it fails.
    -/
theorem runs_writeDevices_cons {children : ChildClasses} {x : Device × String}
    {others : List (Device × String)} {result : Except Generation.Fault (List String)} :
    (writeDevices c children (x :: others)).run.Runs trace result ↔
      ∃ before found after, trace = before ++ after ∧
        (writeDeviceClass c x.1 x.2 children : Run Script String).run.Runs before found ∧
        match found with
        | .ok path => ∃ later, (writeDevices c children others).run.Runs after later ∧
            later.map (path :: ·) = result
        | .error fault => after = [] ∧ .error fault = result := by
  rw [writeDevices, List.mapM_cons, ExceptT.run_bind, runs_bind]
  refine exists_congr fun before => exists_congr fun found => exists_congr fun after =>
    and_congr_right fun _ => and_congr_right fun _ => ?_
  cases found with
  | error fault => exact runs_pure
  | ok path =>
    dsimp only
    rw [bind_pure_comp, ExceptT.run_map, runs_map]
    rfl

/-- The classes for the same devices are written or not in the same way, whatever classes stand for
    their children. `R` is what is known of a device and its files in the two runs. -/
theorem writeDevices_parallel {children children' : ChildClasses} {files : List (Device × String)}
    {R : Device × String → File × File → Prop}
    (hfiles : ∀ x ∈ files, ∃ f f', R x (f, f') ∧ c.pathOf f' = c.pathOf f ∧
      (DeviceClass.declare c.language x.2 x.1 children).file x.1 (c.options x.2 x.1.deviceType) =
        .ok f ∧
      (DeviceClass.declare c.language x.2 x.1 children').file x.1 (c.options x.2 x.1.deviceType) =
        .ok f')
    {result result' : Except Generation.Fault (List String)}
    (hrun : (writeDevices c children files).run.Runs trace result)
    (hrun' : (writeDevices c children' files).run.Runs trace' result')
    (hreplies : trace.map Exchange.reply = trace'.map Exchange.reply) :
    ∃ pairs : List (File × File), result = result' ∧
      List.Forall₂ R (files.take pairs.length) pairs ∧
      written trace = (pairs.map fun y => c.written y.1) ∧
      written trace' = (pairs.map fun y => c.written y.2) ∧
      ((∃ fault, result = .error fault) ∨
        pairs.length = files.length ∧ result = .ok (pairs.map fun y => c.pathOf y.1)) := by
  induction files generalizing trace trace' result result' with
  | nil =>
    obtain ⟨rfl, rfl⟩ := hrun
    obtain ⟨rfl, rfl⟩ := hrun'
    exact ⟨[], rfl, .nil, rfl, rfl, .inr ⟨rfl, rfl⟩⟩
  | cons x others ih =>
    rw [List.forall_mem_cons] at hfiles
    obtain ⟨⟨f, f', hpair, hpath, hfile, hfile'⟩, hothers⟩ := hfiles
    obtain ⟨before, found, after, rfl, hfirst, hrest⟩ := runs_writeDevices_cons.mp hrun
    obtain ⟨before', found', after', rfl, hfirst', hrest'⟩ := runs_writeDevices_cons.mp hrun'
    rw [writeDeviceClass_run, hfile] at hfirst
    rw [writeDeviceClass_run, hfile'] at hfirst'
    obtain ⟨rfl, hafter, ⟨rfl, hone, hone'⟩ | ⟨⟨fault, rfl⟩, hnone, hnone'⟩⟩ :=
      writeClass_parallel hpath hfirst hfirst' hreplies
    · obtain ⟨later, hlater, rfl⟩ := hrest
      obtain ⟨later', hlater', rfl⟩ := hrest'
      obtain ⟨pairs, rfl, hpairs, hwritten, hwritten', hend⟩ := ih hothers hlater hlater' hafter
      refine ⟨(f, f') :: pairs, rfl, .cons hpair hpairs, ?_, ?_, ?_⟩
      · rw [written_append, hone, hwritten]
        rfl
      · rw [written_append, hone', hwritten']
        rfl
      · rcases hend with ⟨fault, rfl⟩ | ⟨hlength, rfl⟩
        · exact .inl ⟨fault, rfl⟩
        · exact .inr ⟨congrArg Nat.succ hlength, rfl⟩
    · obtain ⟨rfl, rfl⟩ := hrest
      obtain ⟨rfl, rfl⟩ := hrest'
      refine ⟨[], rfl, .nil, ?_, ?_, .inl ⟨fault, rfl⟩⟩
      · rw [List.append_nil, hnone]
        rfl
      · rw [List.append_nil, hnone']
        rfl

end

end ControlPoint.Generation
