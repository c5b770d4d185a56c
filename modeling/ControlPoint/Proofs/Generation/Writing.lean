import Mathlib
import ControlPoint.Generation.Device
import ControlPoint.Proofs.Generation.Outcomes
import ControlPoint.Proofs.Host.Script

open ControlPoint.Class

namespace ControlPoint.Generation

open Description Host Naming Script

variable {c : Choices} {trace : List Exchange}

/-! ### The file of one class -/

theorem writeClass_run (c : Choices) (f : File) :
    (writeClass c f : Run Script String).run =
      .ask (.makeDirectories c.outputDirectory) fun answer => match answer with
        | .error fault => pure (.error (.notWritten c.outputDirectory fault))
        | .ok _ => .ask (.writeFile (c.pathOf f) f.source) fun answer => match answer with
          | .error fault => pure (.error (.notWritten (c.pathOf f) fault))
          | .ok _ => pure (.ok (c.pathOf f)) := by
  refine congrArg (Script.ask (.makeDirectories c.outputDirectory)) (funext fun answer => ?_)
  cases answer with
  | error fault => rfl
  | ok _ =>
    refine congrArg (Script.ask (.writeFile (c.pathOf f) f.source)) (funext fun answer => ?_)
    cases answer <;> rfl

/-- Either the directory cannot be made, or the file cannot be written, or it is. -/
theorem runs_writeClass_iff {f : File} {result : Except Generation.Fault String} :
    (writeClass c f : Run Script String).run.Runs trace result ↔
      (∃ fault, trace = [⟨.makeDirectories c.outputDirectory, .error fault⟩] ∧
        result = .error (.notWritten c.outputDirectory fault)) ∨
      (∃ fault, trace = [⟨.makeDirectories c.outputDirectory, .ok ()⟩,
          ⟨.writeFile (c.pathOf f) f.source, .error fault⟩] ∧
        result = .error (.notWritten (c.pathOf f) fault)) ∨
      (trace = [⟨.makeDirectories c.outputDirectory, .ok ()⟩,
          ⟨.writeFile (c.pathOf f) f.source, .ok ()⟩] ∧
        result = .ok (c.pathOf f)) := by
  rw [writeClass_run]
  constructor
  · rintro ⟨made | ⟨⟩, rest, rfl, hrest⟩
    · obtain ⟨rfl, rfl⟩ := hrest
      exact .inl ⟨made, rfl, rfl⟩
    · obtain ⟨wrote | ⟨⟩, rest, rfl, hrest⟩ := hrest
      · obtain ⟨rfl, rfl⟩ := hrest
        exact .inr (.inl ⟨wrote, rfl, rfl⟩)
      · obtain ⟨rfl, rfl⟩ := hrest
        exact .inr (.inr ⟨rfl, rfl⟩)
  · rintro (⟨fault, rfl, rfl⟩ | ⟨fault, rfl, rfl⟩ | ⟨rfl, rfl⟩)
    · exact ⟨_, _, rfl, rfl, rfl⟩
    · exact ⟨_, _, rfl, _, _, rfl, rfl, rfl⟩
    · exact ⟨_, _, rfl, _, _, rfl, rfl, rfl⟩

/-- The file as it is known once it is written. -/
def Choices.written (c : Choices) (f : File) : String × String :=
  (c.pathOf f, f.source)

/-- A class that is not written leaves no file, one that is written leaves its own. -/
theorem written_writeClass {f : File} {result : Except Generation.Fault String}
    (hrun : (writeClass c f : Run Script String).run.Runs trace result) :
    (result = .ok (c.pathOf f) ∧ written trace = [c.written f]) ∨
      (∃ fault, result = .error fault) ∧ written trace = [] := by
  rcases runs_writeClass_iff.mp hrun with ⟨_, rfl, rfl⟩ | ⟨_, rfl, rfl⟩ | ⟨rfl, rfl⟩
  · exact .inr ⟨⟨_, rfl⟩, rfl⟩
  · exact .inr ⟨⟨_, rfl⟩, rfl⟩
  · exact .inl ⟨rfl, rfl⟩

/-! ### What goes before the writing -/

theorem resolveIn_run (d : DeviceDescription) (location : Url) (text : String) :
    (resolveIn d location text : Run Script Url).run =
      pure ((d.resolve (some location.text) text).mapError Fault.address) := by
  unfold resolveIn
  cases d.resolve (some location.text) text <;> rfl

theorem isQuiet_readAddress (url : Url) :
    (readAddress url : Script (Except SourceFault String)).IsQuiet := by
  unfold readAddress
  split
  · split
    · exact isQuiet_pure _
    · exact isQuiet_ask (fun _ => rfl) fun answer => by cases answer <;> exact isQuiet_pure _
  · split
    · refine isQuiet_ask (fun _ => rfl) fun answer => ?_
      cases answer <;> exact isQuiet_pure _
    · exact isQuiet_pure _

theorem isQuiet_read (source : String) :
    (Source.read source : Script (Except SourceFault Source)).IsQuiet := by
  have haddress : (addressOf source : Script (Except SourceFault Url)).IsQuiet := by
    unfold addressOf
    split
    · exact isQuiet_pure _
    · exact isQuiet_ask (fun _ => rfl) fun answer => by cases answer <;> exact isQuiet_pure _
  unfold Source.read
  refine haddress.bind fun found => ?_
  cases found with
  | error fault => exact isQuiet_pure _
  | ok url => exact (isQuiet_readAddress url).bind fun _ => isQuiet_pure _

/-- A document that is named by the address of a file is read at once. -/
theorem runs_read_file {source path : String} {url : Url}
    (hsource : (Url.parse source).toOption = some url) (hscheme : url.scheme = "file")
    (hpath : url.filePath? = some path) (text : String) :
    (Source.read source : Script (Except SourceFault Source)).Runs
      [⟨.readFile path, .ok text⟩] (.ok ⟨url, text⟩) := by
  have haddress : (addressOf source : Script (Except SourceFault Url)) = pure (.ok url) := by
    have hreadable : (Url.parse source).toOption.filter (fun url => isReadable url.scheme) =
        some url := by
      rw [hsource, Option.filter_some, hscheme]
      rfl
    rw [addressOf, hreadable]
  have hfile : (url.scheme == "file") = true := by
    rw [hscheme]
    rfl
  rw [Source.read, haddress, pure_bind]
  dsimp only
  rw [readAddress, if_pos hfile, hpath]
  exact ⟨.ok text, [], rfl, rfl, rfl⟩

theorem isQuiet_readService (location : Url) (document : String) :
    (readService location document : Run Script ServiceDescription).run.IsQuiet := by
  unfold readService
  rw [reportAll_run_eq, pure_bind]
  split
  · exact isQuiet_run_pure _
  · exact isQuiet_run_throw _

theorem isQuiet_askAll (client : Soap.Client) (names : List String) :
    (askAll client names : Run Script (List Answer)).run.IsQuiet :=
  isQuiet_run_mapM
    (fun _ => isQuiet_ask (o := .send _) (fun _ => rfl) fun _ => isQuiet_pure _) names

theorem complete_run (file : Except MissingValue File) :
    (complete file : Run Script File).run = pure (file.mapError Fault.incomplete) := by
  cases file <;> rfl

theorem isQuiet_serviceFile (s : ServiceDescription) (className serviceType : String)
    (controlUrl : Option String) :
    (serviceFile c s className serviceType controlUrl : Run Script File).run.IsQuiet := by
  unfold serviceFile
  simp only [reportAll_run_eq, pure_bind]
  refine IsQuiet.run_bind ?_ fun answers => ?_
  · cases ServiceClass.tester c.testsVariables _ with
    | none => exact isQuiet_run_pure _
    | some client =>
      rw [Option.mapM_some, ← bind_pure_comp]
      exact (isQuiet_askAll client _).run_bind fun _ => isQuiet_run_pure _
  · rw [bind_pure, complete_run]
    exact isQuiet_pure _

/-- The file of a service's class, if there is one, is that of the class for some answers. -/
theorem file_of_serviceFile {s : ServiceDescription} {className serviceType : String}
    {controlUrl : Option String} {f : File}
    (hrun : (serviceFile c s className serviceType controlUrl : Run Script File).run.Runs trace
      (.ok f)) :
    ∃ answers, (ServiceClass.declare c.language className s answers).file
      (c.options className serviceType) = .ok f := by
  unfold serviceFile at hrun
  simp only [reportAll_run_eq, pure_bind, bind_pure] at hrun
  obtain ⟨_, answers, _, -, -, hfile⟩ := runs_run_bind_ok.mp hrun
  refine ⟨answers, ?_⟩
  rw [complete_run] at hfile
  generalize (ServiceClass.declare c.language className s answers).file _ = file at hfile ⊢
  cases file with
  | error value => cases hfile.2
  | ok g =>
    cases hfile.2
    rfl

/-! ### The classes of services -/

/-- The file is that of a class for a type of services under the name that is planned for the type.
    -/
def IsServiceFile (c : Choices) (p : Plan) (type : String) (f : File) : Prop :=
  ∃ name s answers, p.services.find? type = some name ∧
    (ServiceClass.declare c.language name s answers).file (c.options name type) = .ok f

theorem isQuiet_resolveIn (d : DeviceDescription) (location : Url) (text : String) :
    (resolveIn d location text : Run Script Url).run.IsQuiet := by
  rw [resolveIn_run]
  exact isQuiet_pure _

/-- The address of a living service, if it is to be asked. -/
def controlUrlOf (c : Choices) (d : DeviceDescription) (location : Url) (s : ServiceReference) :
    Run Script (Option String) :=
  if c.testsVariables then do
    let control ← resolveIn d location s.controlUrl
    pure (some control.text)
  else pure none

theorem isQuiet_controlUrlOf (c : Choices) (d : DeviceDescription) (location : Url)
    (s : ServiceReference) : (controlUrlOf c d location s).run.IsQuiet := by
  unfold controlUrlOf
  split
  · exact (isQuiet_resolveIn d location _).run_bind fun _ => isQuiet_run_pure _
  · exact isQuiet_run_pure _

theorem writeEmbedded_eq (c : Choices) (d : DeviceDescription) (location : Url)
    (s : ServiceReference) (className : String) :
    (writeEmbedded c d location s className : Run Script (String × String)) = (do
      let url ← resolveIn d location s.scpdUrl
      let document ← ExceptT.mk (readAddress url) |>.adapt Fault.source
      let service ← readService url document
      let controlUrl ← controlUrlOf c d location s
      let file ← serviceFile c service className s.serviceType controlUrl
      let path ← writeClass c file
      pure (file.className, path)) := by
  unfold writeEmbedded controlUrlOf
  cases c.testsVariables <;> simp

theorem writeEmbedded_spec {d : DeviceDescription} {location : Url} {s : ServiceReference}
    {className : String} {result : Except Generation.Fault (String × String)}
    (hrun : (writeEmbedded c d location s className : Run Script _).run.Runs trace result) :
    ((∃ fault, result = .error fault) ∧ written trace = []) ∨
      ∃ service answers f, (ServiceClass.declare c.language className service answers).file
          (c.options className s.serviceType) = .ok f ∧
        result = .ok (f.className, c.pathOf f) ∧ written trace = [c.written f] := by
  have hread (url : Url) : (ExceptT.mk (readAddress url) |>.adapt Fault.source :
      Run Script String).run.IsQuiet :=
    IsQuiet.run_adapt (x := ExceptT.mk (readAddress url)) (isQuiet_readAddress url) _
  rw [writeEmbedded_eq] at hrun
  rcases (isQuiet_resolveIn _ _ _).of_run_bind hrun with hfail | ⟨_, url, _, -, hrun, hurl⟩
  · exact .inl hfail
  rw [hurl]
  rcases (hread url).of_run_bind hrun with hfail | ⟨_, document, _, -, hrun, hdocument⟩
  · exact .inl hfail
  rw [hdocument]
  rcases (isQuiet_readService _ _).of_run_bind hrun with hfail | ⟨_, service, _, -, hrun, hservice⟩
  · exact .inl hfail
  rw [hservice]
  rcases (isQuiet_controlUrlOf _ _ _ _).of_run_bind hrun with
    hfail | ⟨_, controlUrl, _, -, hrun, hcontrol⟩
  · exact .inl hfail
  rw [hcontrol]
  rcases (isQuiet_serviceFile _ _ _ _).of_run_bind hrun with
    hfail | ⟨_, f, _, hfile, hrun, hwritten⟩
  · exact .inl hfail
  rw [hwritten]
  obtain ⟨answers, hdeclared⟩ := file_of_serviceFile hfile
  rcases runs_run_bind.mp hrun with
    ⟨before, path, after, rfl, hwrite, rfl, rfl⟩ | ⟨fault, hwrite, rfl⟩
  · rcases written_writeClass hwrite with ⟨hpath, hfiles⟩ | ⟨⟨_, hfault⟩, -⟩
    · rw [List.append_nil, hfiles, Except.ok.inj hpath]
      exact .inr ⟨service, answers, f, hdeclared, rfl, rfl⟩
    · cases hfault
  · rcases written_writeClass hwrite with ⟨hpath, -⟩ | ⟨-, hnone⟩
    · cases hpath
    · exact .inl ⟨⟨fault, rfl⟩, hnone⟩

theorem tryEmbedded_spec {d : DeviceDescription} {location : Url} {owner : Device}
    {s : ServiceReference} {className : String} {result : Option (String × String)}
    (hrun : (tryEmbedded c d location owner s className : Script _).Runs trace result) :
    (result = none ∧ written trace = []) ∨
      ∃ service answers f, (ServiceClass.declare c.language className service answers).file
          (c.options className s.serviceType) = .ok f ∧
        result = some (f.className, c.pathOf f) ∧ written trace = [c.written f] := by
  unfold tryEmbedded at hrun
  obtain ⟨before, found, after, rfl, hfound, hrun⟩ := runs_bind.mp hrun
  cases found with
  | ok pair =>
    obtain ⟨rfl, rfl⟩ := hrun
    rw [List.append_nil]
    rcases writeEmbedded_spec hfound with
      ⟨⟨_, hfault⟩, -⟩ | ⟨service, answers, f, hdeclared, hpair, hfiles⟩
    · cases hfault
    · exact .inr ⟨service, answers, f, hdeclared, congrArg some (Except.ok.inj hpair), hfiles⟩
  | error fault =>
    obtain ⟨rfl, rfl⟩ := hrun
    rw [List.append_nil]
    rcases writeEmbedded_spec hfound with ⟨-, hnone⟩ | ⟨_, _, _, -, hpair, -⟩
    · exact .inl ⟨rfl, hnone⟩
    · cases hpair

/-- What comes of a service whose type was not tried before. -/
def Progress.add (done : Progress) (type : String) (result : Option (String × String)) : Progress :=
  ⟨done.outcomes ++ [(type, result.map Prod.fst)], done.paths ++ (result.map Prod.snd).toList⟩

def Progress.isTried (done : Progress) (type : String) : Bool :=
  done.outcomes.any fun (known, _) => known == type

theorem writeNext_eq (c : Choices) (d : DeviceDescription) (location : Url) (p : Plan)
    (done : Progress) (owner : Device) (s : ServiceReference) :
    (writeNext c d location p done owner s : Script Progress) =
      match if done.isTried s.serviceType then none else p.services.find? s.serviceType with
      | none => pure done
      | some className => done.add s.serviceType <$> tryEmbedded c d location owner s className := by
  have hreport (isReported : Bool) (entry : Log.Entry) (done : Progress) :
      (if isReported then (do report entry; pure done) else pure done : Script Progress) =
        pure done := by
    cases isReported <;> rfl
  unfold writeNext Progress.isTried
  dsimp only
  split
  · rename_i hnone
    rw [hnone]
    exact hreport _ _ _
  · rename_i className hsome
    rw [hsome]
    dsimp only
    rw [← bind_pure_comp]
    congr 1
    funext result
    exact hreport _ _ _

/-- The type that a file is for, and the class in it. -/
def classEntry (x : String × File) : String × String :=
  (x.1, x.2.className)

/-- The files that stand for what came of the services: one for each type whose class was written,
    of that class, and at the path that is told. -/
structure Progress.Recorded (c : Choices) (p : Plan) (files : List (String × File))
    (trace : List Exchange) (done : Progress) : Prop where
  written : written trace = files.map fun x => c.written x.2
  paths : done.paths = files.map fun x => c.pathOf x.2
  outcomes : (done.outcomes.filterMap fun x => x.2.map fun name => (x.1, name)) =
    files.map classEntry
  distinct : (done.outcomes.map Prod.fst).Nodup
  served : ∀ x ∈ files, IsServiceFile c p x.1 x.2

section

variable {p : Plan} {before : List Exchange} {files : List (String × File)} {done : Progress}
  {type : String}

theorem Progress.Recorded.types_add (hdone : done.Recorded c p files before)
    (hnew : done.isTried type = false) (result : Option (String × String)) :
    ((done.add type result).outcomes.map Prod.fst).Nodup := by
  rw [Progress.add, List.map_append, List.nodup_append]
  refine ⟨hdone.distinct, by simp, ?_⟩
  rintro known hknown _ hsame rfl
  obtain rfl : known = type := by simpa using hsame
  obtain ⟨entry, hentry, heq⟩ := List.mem_map.mp hknown
  exact List.any_eq_false.mp hnew entry hentry (by simpa using heq)

theorem Progress.Recorded.add_none (hdone : done.Recorded c p files before)
    (hnew : done.isTried type = false) (hnone : Host.written trace = []) :
    (done.add type none).Recorded c p files (before ++ trace) where
  written := by rw [written_append, hnone, List.append_nil, hdone.written]
  paths := by simp [Progress.add, hdone.paths]
  outcomes := by simp [Progress.add, hdone.outcomes]
  distinct := hdone.types_add hnew none
  served := hdone.served

theorem Progress.Recorded.add_some (hdone : done.Recorded c p files before)
    (hnew : done.isTried type = false) {f : File} (hfile : IsServiceFile c p type f)
    (hone : Host.written trace = [c.written f]) :
    (done.add type (some (f.className, c.pathOf f))).Recorded c p (files ++ [(type, f)])
      (before ++ trace) where
  written := by
    rw [written_append, hone, hdone.written, List.map_append]
    rfl
  paths := by simp [Progress.add, hdone.paths]
  outcomes := by simp [Progress.add, hdone.outcomes, classEntry]
  distinct := hdone.types_add hnew _
  served := List.forall_mem_append.mpr ⟨hdone.served, List.forall_mem_singleton.mpr hfile⟩

end

theorem writeNext_recorded {d : DeviceDescription} {location : Url} {p : Plan} {owner : Device}
    {s : ServiceReference} {before : List Exchange} {files : List (String × File)}
    {done done' : Progress} (hdone : done.Recorded c p files before)
    (hrun : (writeNext c d location p done owner s : Script Progress).Runs trace done') :
    ∃ added, done'.Recorded c p (files ++ added) (before ++ trace) := by
  rw [writeNext_eq] at hrun
  split at hrun
  · obtain ⟨rfl, rfl⟩ := hrun
    exact ⟨[], by simpa only [List.append_nil]⟩
  · rename_i className hplanned
    split at hplanned
    · cases hplanned
    rename_i hnew
    rw [Bool.not_eq_true] at hnew
    obtain ⟨result, htry, rfl⟩ := runs_map.mp hrun
    rcases tryEmbedded_spec htry with ⟨rfl, hnone⟩ | ⟨service, answers, f, hfile, rfl, hone⟩
    · exact ⟨[], by rw [List.append_nil]; exact hdone.add_none hnew hnone⟩
    · exact ⟨_, hdone.add_some hnew ⟨className, service, answers, hplanned, hfile⟩ hone⟩

/-- Tries the classes of services, one after another. -/
def writeEach (c : Choices) (d : DeviceDescription) (location : Url) (p : Plan) (done : Progress)
    (services : List (Device × ServiceReference)) : Script Progress :=
  services.foldlM (fun done (owner, s) => writeNext c d location p done owner s) done

/-- Whatever becomes of the services, what is told of it is so. -/
theorem writeEach_recorded {d : DeviceDescription} {location : Url} {p : Plan}
    {services : List (Device × ServiceReference)} {before : List Exchange}
    {files : List (String × File)} {done done' : Progress} (hdone : done.Recorded c p files before)
    (hrun : (writeEach c d location p done services).Runs trace done') :
    ∃ added, done'.Recorded c p (files ++ added) (before ++ trace) := by
  refine runs_foldlM_invariant
    (P := fun trace (done : Progress) => ∃ added, done.Recorded c p (files ++ added) trace)
    (fun x _ _ _ _ _ hbefore hstep => ?_) ⟨[], by rwa [List.append_nil]⟩ hrun
  obtain ⟨added, hbefore⟩ := hbefore
  obtain ⟨others, hafter⟩ := writeNext_recorded hbefore hstep
  exact ⟨added ++ others, by rwa [← List.append_assoc]⟩

theorem Progress.recorded_start (c : Choices) (p : Plan) :
    (⟨[], []⟩ : Progress).Recorded c p [] [] :=
  ⟨rfl, rfl, rfl, List.nodup_nil, by simp⟩

/-! ### The classes of devices -/

theorem writeDeviceClass_run (c : Choices) (d : Device) (className : String)
    (children : ChildClasses) :
    (writeDeviceClass c d className children : Run Script String).run =
      match (DeviceClass.declare c.language className d children).file d
          (c.options className d.deviceType) with
      | .ok f => (writeClass c f).run
      | .error value => pure (.error (.incomplete value)) := by
  unfold writeDeviceClass
  dsimp only
  cases (DeviceClass.declare c.language className d children).file d _ with
  | error value => rfl
  | ok f =>
    simp only [reportAll_run_eq, complete, pure_bind]

theorem written_writeDeviceClass {d : Device} {className : String} {children : ChildClasses}
    {path : String}
    (hrun : (writeDeviceClass c d className children : Run Script String).run.Runs trace
      (.ok path)) :
    ∃ f, (DeviceClass.declare c.language className d children).file d
        (c.options className d.deviceType) = .ok f ∧
      path = c.pathOf f ∧ written trace = [c.written f] := by
  rw [writeDeviceClass_run] at hrun
  split at hrun
  · rename_i f hfile
    rcases written_writeClass hrun with ⟨hpath, hfiles⟩ | ⟨⟨_, hfault⟩, -⟩
    · exact ⟨f, hfile, Except.ok.inj hpath, hfiles⟩
    · cases hfault
  · cases hrun.2

/-- Writes the classes of devices, one after another. -/
def writeDevices (c : Choices) (children : ChildClasses) (files : List (Device × String)) :
    Run Script (List String) :=
  files.mapM fun (d, className) => writeDeviceClass c d className children

/-- Each class has its own file, listed with the type of devices that it is for. -/
theorem written_writeDevices {files : List (Device × String)} {children : ChildClasses}
    {paths : List String}
    (hrun : (writeDevices c children files).run.Runs trace (.ok paths)) :
    ∃ devices : List (String × File),
      List.Forall₂ (fun x y => x.1.deviceType = y.1 ∧
        (DeviceClass.declare c.language x.2 x.1 children).file x.1
          (c.options x.2 x.1.deviceType) = .ok y.2) files devices ∧
      paths = (devices.map fun y => c.pathOf y.2) ∧
      written trace = devices.map fun y => c.written y.2 := by
  induction files generalizing trace paths with
  | nil =>
    obtain ⟨rfl, hpaths⟩ := hrun
    exact ⟨[], .nil, (Except.ok.inj hpaths).symm, rfl⟩
  | cons x rest ih =>
    rw [writeDevices, List.mapM_cons] at hrun
    obtain ⟨first, path, _, rfl, hfirst, hrun⟩ := runs_run_bind_ok.mp hrun
    obtain ⟨others, _, _, rfl, hothers, rfl, hpaths⟩ := runs_run_bind_ok.mp hrun
    obtain rfl := Except.ok.inj hpaths
    obtain ⟨f, hfile, rfl, hwritten⟩ := written_writeDeviceClass hfirst
    obtain ⟨devices, hdevices, rfl, hrest⟩ := ih hothers
    refine ⟨(x.1.deviceType, f) :: devices, .cons ⟨rfl, hfile⟩ hdevices, rfl, ?_⟩
    rw [List.append_nil, written_append, hwritten, hrest]
    rfl

/-! ### The classes of a tree -/

/-- What is told of the services, if their classes are to be written. -/
def servicesOf (c : Choices) (withServices : Bool) (d : DeviceDescription) (location : Url) :
    Script Progress :=
  if withServices then writeServices c d location (Plan.of d.device true) else pure ⟨[], []⟩

/-- Writes the classes of the devices of a tree, after those of its services. -/
def writeRemaining (c : Choices) (p : Plan) (root : Device) (done : Progress) :
    Run Script (List String) :=
  (done.paths ++ ·) <$> writeDevices c (p.children root done.outcomes) (p.deviceFiles root)

theorem writeTree_run (c : Choices) (withServices : Bool) (d : DeviceDescription) (location : Url) :
    (writeTree c withServices d location : Run Script (List String)).run =
      servicesOf c withServices d location >>= fun done =>
        (writeRemaining c (Plan.of d.device withServices) d.device done).run := by
  unfold writeTree servicesOf writeRemaining writeDevices
  cases withServices
  · simp only [reportAll_run_eq, pure_bind, Bool.false_eq_true, if_false, map_eq_pure_bind]
    rfl
  · simp only [reportAll_run_eq, pure_bind, if_true, map_eq_pure_bind, ← ExceptT.run_bind_lift]
    rfl

theorem runs_writeRemaining {p : Plan} {root : Device} {done : Progress}
    {result : Except Generation.Fault (List String)} :
    (writeRemaining c p root done).run.Runs trace result ↔
      ∃ found, (writeDevices c (p.children root done.outcomes) (p.deviceFiles root)).run.Runs trace
        found ∧ found.map (done.paths ++ ·) = result := by
  rw [writeRemaining, ExceptT.run_map, runs_map]

theorem readDevice_run (source : Source) :
    (readDevice source : Run Script DeviceDescription).run =
      pure ((DeviceDescription.parse source.text).mapError fun _ =>
        .invalidDevice source.location) := by
  unfold readDevice
  rw [reportAll_run_eq, pure_bind]
  cases DeviceDescription.parse source.text <;> rfl

/-- After the reading of the description the classes for the device in it are written. -/
theorem runs_writeDevice_append {r : DeviceRequest} {opening rest : List Exchange}
    {source : Source} {d : DeviceDescription} {result : Except Generation.Fault (List String)}
    (hread : (Source.read r.source : Script (Except SourceFault Source)).Runs opening (.ok source))
    (hparse : DeviceDescription.parse source.text = .ok d) :
    (writeDevice c r : Run Script (List String)).run.Runs (opening ++ rest) result ↔
      (writeTree c r.withServices d source.location : Run Script (List String)).run.Runs rest
        result := by
  have hsource : (ExceptT.mk (Source.read r.source) |>.adapt Fault.source :
      Run Script Source).run.Runs opening (.ok source) :=
    runs_run_adapt_ok.mpr hread
  have hdevice : (readDevice source : Run Script DeviceDescription).run.Runs [] (.ok d) := by
    rw [readDevice_run, hparse]
    exact ⟨rfl, rfl⟩
  rw [writeDevice, runs_run_bind_append hsource, ← List.nil_append rest,
    runs_run_bind_append hdevice]
  rfl

/-- The run on a machine that always gives the same answers, once the description is read. -/
theorem runs_writeDevice_perform {r : DeviceRequest} {opening : List Exchange} {source : Source}
    {d : DeviceDescription}
    (hread : (Source.read r.source : Script (Except SourceFault Source)).Runs opening (.ok source))
    (hparse : DeviceDescription.parse source.text = .ok d) (answer : (o : Operation) → o.Answer) :
    let run := (writeTree c r.withServices d source.location : Run Script _).run.perform answer
    (writeDevice c r : Run Script (List String)).run.Runs (opening ++ run.1) run.2 :=
  (runs_writeDevice_append hread hparse).mpr (runs_perform answer _)

theorem runs_writeDevice_ok {r : DeviceRequest} {paths : List String}
    (hrun : (writeDevice c r : Run Script (List String)).run.Runs trace (.ok paths)) :
    ∃ opening source d rest, trace = opening ++ rest ∧
      (Source.read r.source : Script (Except SourceFault Source)).Runs opening (.ok source) ∧
      DeviceDescription.parse source.text = .ok d ∧
      (writeTree c r.withServices d source.location : Run Script (List String)).run.Runs rest
        (.ok paths) := by
  obtain ⟨opening, source, rest, rfl, hsource, hrest⟩ := runs_run_bind_ok.mp hrun
  have hread := runs_run_adapt_ok.mp hsource
  obtain ⟨before, d, _, _, hdevice, -⟩ := runs_run_bind_ok.mp hrest
  rw [readDevice_run] at hdevice
  obtain ⟨rfl, hd⟩ := hdevice
  have hparse : DeviceDescription.parse source.text = .ok d := by
    cases hparsed : DeviceDescription.parse source.text with
    | ok found =>
      rw [hparsed] at hd
      exact congrArg Except.ok (Except.ok.inj hd)
    | error fault =>
      rw [hparsed] at hd
      cases hd
  exact ⟨opening, source, d, rest, rfl, hread, hparse,
    (runs_writeDevice_append hread hparse).mp hrun⟩

/-- A run for a tree that succeeds goes through the services and then through the devices. -/
theorem runs_writeTree_ok {withServices : Bool} {d : DeviceDescription} {location : Url}
    {paths : List String}
    (hrun : (writeTree c withServices d location : Run Script (List String)).run.Runs trace
      (.ok paths)) :
    ∃ before after done others, trace = before ++ after ∧
      (servicesOf c withServices d location).Runs before done ∧
      (writeDevices c ((Plan.of d.device withServices).children d.device done.outcomes)
        ((Plan.of d.device withServices).deviceFiles d.device)).run.Runs after (.ok others) ∧
      paths = done.paths ++ others := by
  rw [writeTree_run] at hrun
  obtain ⟨before, done, after, rfl, hservices, hrun⟩ := runs_bind.mp hrun
  obtain ⟨found, hdevices, hpaths⟩ := runs_writeRemaining.mp hrun
  cases found with
  | error fault => cases hpaths
  | ok others =>
    exact ⟨before, after, done, others, rfl, hservices, hdevices, (Except.ok.inj hpaths).symm⟩

end ControlPoint.Generation
