import Mathlib
import ControlPoint.Proofs.Class.Device
import ControlPoint.Host.Machine
import ControlPoint.Proofs.Generation.Outcomes

open ControlPoint.Class

namespace ControlPoint.Generation

open Description Host MonadAttach Naming

/-- The type of a child: of a service or of a device. -/
inductive ChildType
  | service (type : String)
  | device (type : String)
  deriving DecidableEq, Repr

/-- The class that was written for a type. -/
def ChildType.written? (p : Plan) (o : Outcomes) : ChildType → Option String
  | service type => o.written? type
  | device type => p.devices.find? type

/-- The type of the child that stands first for an identifier: the first service with it whose class
    was written, wherever it is in the tree, else the first device with it. -/
def firstBearer? (root : Device) (o : Outcomes) (id : String) : Option ChildType :=
  ((root.allServices.find? fun (_, s) =>
      s.serviceId == id && (o.written? s.serviceType).isSome).map fun (_, s) =>
    .service s.serviceType).or
  ((root.all.find? fun d => d.udn == id).map fun d => .device d.deviceType)

/-- Of the entries that items make, the first item with an identifier and a class makes the first
    entry for the identifier. -/
theorem find?_entries {α : Type} (items : List α) (key : α → String) (class? : α → Option String)
    {id : String} (hid : Text.isBlankText id = false) :
    ChildClasses.find? (items.filterMap fun a =>
        if Text.isBlankText (key a) then none else (class? a).map fun name => (key a, name)) id =
      (items.find? fun a => key a == id && (class? a).isSome).bind class? := by
  induction items with
  | nil => rfl
  | cons a rest ih =>
    cases hclass : class? a with
    | none => simp [hclass, ih]
    | some name =>
      by_cases hkey : key a = id
      · simp [hkey, hid, hclass, ChildClasses.find?]
      · by_cases hblank : Text.isBlankText (key a) = true
        · simp [hblank, hkey, ih]
        · simpa [ChildClasses.find?, hblank, hkey, hclass] using ih

theorem find?_serviceClasses (root : Device) (o : Outcomes) {id : String}
    (hid : Text.isBlankText id = false) :
    (serviceClasses root o).find? id =
      (root.allServices.find? fun (_, s) =>
        s.serviceId == id && (o.written? s.serviceType).isSome).bind fun (_, s) =>
          o.written? s.serviceType :=
  find?_entries root.allServices (fun x => x.2.serviceId) (fun x => o.written? x.2.serviceType) hid

theorem find?_deviceClasses {root : Device} {names : ClassNames}
    (hcomplete : ∀ d ∈ root.all, (names.find? d.deviceType).isSome) {id : String}
    (hid : Text.isBlankText id = false) :
    (deviceClasses root names).find? id =
      (root.all.find? fun d => d.udn == id).bind fun d => names.find? d.deviceType := by
  rw [deviceClasses, find?_entries root.all Device.udn (fun d => names.find? d.deviceType) hid]
  congr 1
  have hfilter : root.all.find? (fun d => d.udn == id && (names.find? d.deviceType).isSome) =
      root.all.find? fun d => d.udn == id := by
    rw [← List.head?_filter, ← List.head?_filter]
    congr 1
    apply List.filter_congr
    intro d hd
    rw [hcomplete d hd, Bool.and_true]
  exact hfilter

/-- The class that stands for an identifier is that of its first bearer. -/
theorem find?_children {p : Plan} {root : Device} (hsound : p.Sound root) (o : Outcomes)
    {id : String} (hid : Text.isBlankText id = false) :
    (p.children root o).find? id = (firstBearer? root o id).bind (ChildType.written? p o) := by
  have happend : (p.children root o).find? id =
      ((serviceClasses root o).find? id).or ((deviceClasses root p.devices).find? id) := by
    simp only [Plan.children, ChildClasses.find?, List.find?_append, Option.map_or]
  rw [happend, find?_serviceClasses root o hid, find?_deviceClasses hsound.complete hid,
    firstBearer?]
  cases hservice : root.allServices.find? fun (_, s) =>
      s.serviceId == id && (o.written? s.serviceType).isSome with
  | none => cases root.all.find? fun d => d.udn == id <;> simp [ChildType.written?]
  | some found =>
    obtain ⟨owner, s⟩ := found
    have hwritten := List.find?_some hservice
    simp only [Bool.and_eq_true] at hwritten
    obtain ⟨name, hname⟩ := Option.isSome_iff_exists.mp hwritten.2
    simp [ChildType.written?, hname]

/-- A property with a class of its own has the class that was written for the type. -/
def IsTypedBy (l : Language) (p : Plan) (o : Outcomes) (type : ChildType) (q : ChildProperty) :
    Prop :=
  ∀ specific, q.specific = some specific →
    ∃ name, type.written? p o = some name ∧ specific = l.identifier .type name

/-- Every property of a device's class is typed by the class for its own child, or by none. -/
structure TypesOwnChildren (l : Language) (p : Plan) (o : Outcomes) (d : Device) (c : DeviceClass) :
    Prop where
  services : List.Forall₂ (fun s q => IsTypedBy l p o (.service s.serviceType) q)
    (DeviceClass.namedServices d) c.services
  devices : List.Forall₂ (fun child q => IsTypedBy l p o (.device child.deviceType) q)
    (DeviceClass.namedDevices d) c.devices

/-- No child of the device shares its identifier with a child of another type that bears it first. -/
structure HasOwnIdentifiers (root : Device) (o : Outcomes) (d : Device) : Prop where
  services : ∀ s ∈ DeviceClass.namedServices d, ∀ type ∈ firstBearer? root o s.serviceId,
    type = .service s.serviceType
  devices : ∀ child ∈ DeviceClass.namedDevices d, ∀ type ∈ firstBearer? root o child.udn,
    type = .device child.deviceType

variable {p : Plan} {root : Device} {o : Outcomes}

theorem written?_isTypeName (hsound : p.Sound root) (hfollows : o.Follows p) {type : ChildType}
    {name : String} (hname : type.written? p o = some name) : IsTypeName name := by
  cases type with
  | service type =>
    obtain ⟨planned, hplanned, rfl⟩ := hfollows type name hname
    rw [sanitize_of_isTypeName (hsound.service_isTypeName hplanned)]
    exact hsound.service_isTypeName hplanned
  | device type => exact hsound.device_isTypeName hname

/-- No two types have one class. -/
theorem written?_injective (hsound : p.Sound root) (hfollows : o.Follows p) {type other : ChildType}
    {name : String} (htype : type.written? p o = some name)
    (hother : other.written? p o = some name) : type = other := by
  have hplanned {type : String} (hwritten : o.written? type = some name) :
      p.services.find? type = some name := by
    obtain ⟨planned, hplanned, rfl⟩ := hfollows type name hwritten
    rwa [sanitize_of_isTypeName (hsound.service_isTypeName hplanned)]
  cases type with
  | service type =>
    cases other with
    | service other => rw [hsound.service_eq (hplanned htype) (hplanned hother)]
    | device other => exact absurd (hplanned htype) (hsound.device_ne_service hother)
  | device type =>
    cases other with
    | service other => exact absurd (hplanned hother) (hsound.device_ne_service htype)
    | device other => rw [hsound.device_eq htype hother]

theorem firstBearer?_written (hsound : p.Sound root) {id : String} {type : ChildType}
    (htype : firstBearer? root o id = some type) : (type.written? p o).isSome := by
  rw [firstBearer?, Option.or_eq_some_iff] at htype
  rcases htype with hservice | ⟨-, hdevice⟩
  · obtain ⟨⟨owner, s⟩, hfind, rfl⟩ := Option.map_eq_some_iff.mp hservice
    have hfound := List.find?_some hfind
    simp only [Bool.and_eq_true] at hfound
    exact hfound.2
  · obtain ⟨d, hfind, rfl⟩ := Option.map_eq_some_iff.mp hdevice
    exact hsound.complete d (List.mem_of_find?_eq_some hfind)

/-- A property is typed by the class of the type that it is for just where no other type bears its
    child's identifier first. -/
theorem isTypedBy_iff (l : Language) (hsound : p.Sound root) (hfollows : o.Follows p) {id : String}
    (hid : Text.isBlankText id = false) (type : ChildType) {q : ChildProperty}
    (hq : q.specific = ((p.children root o).find? id).map (l.identifier .type)) :
    IsTypedBy l p o type q ↔ ∀ first ∈ firstBearer? root o id, first = type := by
  rw [find?_children hsound o hid] at hq
  constructor
  · intro htyped first hfirst
    obtain ⟨name, hname⟩ := Option.isSome_iff_exists.mp (firstBearer?_written hsound hfirst)
    rw [Option.mem_def] at hfirst
    obtain ⟨own, hown, heq⟩ := htyped (l.identifier .type name) (by simp [hq, hfirst, hname])
    have hsame : name = own := l.identifier_injective (written?_isTypeName hsound hfollows hname)
      (written?_isTypeName hsound hfollows hown) heq
    exact written?_injective hsound hfollows hname (hsame ▸ hown)
  · intro hown specific hspecific
    rw [hq, Option.map_eq_some_iff] at hspecific
    obtain ⟨name, hname, rfl⟩ := hspecific
    obtain ⟨first, hfirst, hname⟩ := Option.bind_eq_some_iff.mp hname
    exact ⟨name, hown first hfirst ▸ hname, rfl⟩

/-- Properties are related to the children that they are made for just where each child is related to
    what is found for its identifier. -/
theorem forall₂_specific {α : Type} {R : α → ChildProperty → Prop} {P : α → Prop} {children : List α}
    {properties : List ChildProperty} {specific : α → Option String}
    (hspecific : properties.map ChildProperty.specific = children.map specific)
    (hiff : ∀ a ∈ children, ∀ q, q.specific = specific a → (R a q ↔ P a)) :
    List.Forall₂ R children properties ↔ ∀ a ∈ children, P a := by
  induction children generalizing properties with
  | nil =>
    obtain rfl := List.map_eq_nil_iff.mp hspecific
    simp
  | cons a rest ih =>
    obtain ⟨q, properties, rfl, hq, hrest⟩ := List.map_eq_cons_iff.mp hspecific
    rw [List.forall_mem_cons] at hiff
    rw [List.forall₂_cons, List.forall_mem_cons, ih hrest hiff.2, hiff.1 q hq]

/-- The class of a device types the properties for its children by their own classes just where no
    child shares its identifier with one of another type that bears it before: a service whose class
    was written, anywhere in the tree, or for devices an earlier device. -/
theorem declare_typesOwnChildren_iff (l : Language) (hsound : p.Sound root) (hfollows : o.Follows p)
    (className : String) (d : Device) :
    TypesOwnChildren l p o d (DeviceClass.declare l className d (p.children root o)) ↔
      HasOwnIdentifiers root o d := by
  have hservices := forall₂_specific
    (R := fun s q => IsTypedBy l p o (.service s.serviceType) q)
    (DeviceClass.declare_services l className d (p.children root o))
    fun s hs q hq => isTypedBy_iff l hsound hfollows
      (by simpa using (List.mem_filter.mp hs).2) (.service s.serviceType) hq
  have hdevices := forall₂_specific
    (R := fun child q => IsTypedBy l p o (.device child.deviceType) q)
    (DeviceClass.declare_devices l className d (p.children root o))
    fun child hchild q hq => isTypedBy_iff l hsound hfollows
      (by simpa using (List.mem_filter.mp hchild).2) (.device child.deviceType) hq
  constructor
  · rintro ⟨hs, hd⟩
    exact ⟨hservices.mp hs, hdevices.mp hd⟩
  · rintro ⟨hs, hd⟩
    exact ⟨hservices.mpr hs, hdevices.mpr hd⟩

section Runs

variable {m : Type → Type} [Monad m] [LawfulMonad m] [MonadAttach m] [LawfulMonadAttach m] [Host m]

/-- However the services of a tree come out, the class of each device that is written types the
    properties for its children by their own classes just where no child shares its identifier with
    one of another type that bears it before. -/
theorem writeServices_typesOwnChildren_iff {c : Choices} {d : DeviceDescription} {location : Url}
    {done : Progress}
    (hreturn : CanReturn (writeServices c d location (Plan.of d.device true) : m Progress) done) :
    ∀ file ∈ (Plan.of d.device true).deviceFiles d.device,
      TypesOwnChildren c.language (Plan.of d.device true) done.outcomes file.1
          (DeviceClass.declare c.language file.2 file.1
            ((Plan.of d.device true).children d.device done.outcomes)) ↔
        HasOwnIdentifiers d.device done.outcomes file.1 := by
  intro file _
  exact declare_typesOwnChildren_iff c.language (Plan.of_sound d.device true)
    (writeServices_follows hreturn) file.2 file.1

end Runs

/-! ### Two versions of a service with one identifier -/

namespace SharedIdentifier

/-- A version of a service. Versions are told apart by their types alone. -/
def renderingControl (version : String) : ServiceReference :=
  { ServiceReference.blank default with
    serviceType := "urn:schemas-upnp-org:service:RenderingControl:" ++ version
    serviceId := "urn:upnp-org:serviceId:RenderingControl"
    scpdUrl := "file:///" ++ version ++ ".xml" }

/-- A player with one version of the service. -/
def player (name version : String) : Device :=
  let service := renderingControl version
  .mk { DeviceInfo.blank default with
    deviceType := "urn:schemas-upnp-org:device:" ++ name ++ ":1"
    udn := "uuid:" ++ name
    services := ⟨[(service.serviceId, service)], 0⟩ } []

/-- A device with two players in it. -/
def room : DeviceDescription :=
  { DeviceDescription.blank default with
    device := .mk { DeviceInfo.blank default with
      deviceType := "urn:schemas-upnp-org:device:Room:1"
      udn := "uuid:Room" }
      [("uuid:OldPlayer", player "OldPlayer" "1"), ("uuid:NewPlayer", player "NewPlayer" "2")] }

/-- A machine with the documents of both versions. -/
def machine : Machine :=
  ⟨⟨[(["1.xml"], .file "<scpd/>"), (["2.xml"], .file "<scpd/>")], []⟩, none, []⟩

def choices : Choices :=
  ⟨.csharp, "UPnP", false, "/out", false⟩

def location : Url :=
  ⟨"file", none, .segments ["room.xml"], none, none⟩

def plan : Plan :=
  Plan.of room.device true

/-- What comes of the services on the machine. -/
def done : Progress :=
  ((writeServices choices room location plan : StateM Machine Progress) machine).1

theorem canReturn_done :
    CanReturn (writeServices choices room location plan : StateM Machine Progress) done :=
  ⟨machine, _, rfl⟩

set_option maxRecDepth 20000 in
theorem done_outcomes : done.outcomes =
    [((renderingControl "1").serviceType, some "RenderingControlService"),
      ((renderingControl "2").serviceType, some "RenderingControlService2")] := by
  decide +kernel

/-- The classes of the room and of both players are written. -/
theorem plan_deviceFiles : plan.deviceFiles room.device =
    [(room.device, "RoomDevice"), (player "OldPlayer" "1", "OldPlayerDevice"),
      (player "NewPlayer" "2", "NewPlayerDevice")] := by
  have hfirst : firstOfTypes [] room.device.all =
      [room.device, player "OldPlayer" "1", player "NewPlayer" "2"] := by
    rfl
  have hdevices : plan.devices = [("urn:schemas-upnp-org:device:Room:1", "RoomDevice"),
      ("urn:schemas-upnp-org:device:OldPlayer:1", "OldPlayerDevice"),
      ("urn:schemas-upnp-org:device:NewPlayer:1", "NewPlayerDevice")] := by
    decide +kernel
  rw [Plan.deviceFiles, hfirst, hdevices]
  rfl

/-- The properties of the first player's class are typed by its own classes. -/
theorem oldPlayer_typesOwnChildren :
    (player "OldPlayer" "1", "OldPlayerDevice") ∈ plan.deviceFiles room.device ∧
      TypesOwnChildren choices.language plan done.outcomes (player "OldPlayer" "1")
        (DeviceClass.declare choices.language "OldPlayerDevice" (player "OldPlayer" "1")
          (plan.children room.device done.outcomes)) := by
  have hfile : (player "OldPlayer" "1", "OldPlayerDevice") ∈ plan.deviceFiles room.device := by
    simp [plan_deviceFiles]
  refine ⟨hfile, (writeServices_typesOwnChildren_iff canReturn_done _ hfile).mpr ⟨?_, ?_⟩⟩
  · rw [done_outcomes]
    decide +kernel
  · rw [done_outcomes]
    decide +kernel

/-- The class of the second player is written too, but a property of it is typed by the class for the
    first player's version of the service. -/
theorem newPlayer_not_typesOwnChildren :
    (player "NewPlayer" "2", "NewPlayerDevice") ∈ plan.deviceFiles room.device ∧
      ¬ TypesOwnChildren choices.language plan done.outcomes (player "NewPlayer" "2")
        (DeviceClass.declare choices.language "NewPlayerDevice" (player "NewPlayer" "2")
          (plan.children room.device done.outcomes)) := by
  refine ⟨by simp [plan_deviceFiles], ?_⟩
  intro htypes
  have hown := (declare_typesOwnChildren_iff choices.language (Plan.of_sound room.device true)
    (writeServices_follows canReturn_done) _ _).mp htypes
  have hmem : renderingControl "2" ∈ DeviceClass.namedServices (player "NewPlayer" "2") := by
    decide +kernel
  have hfirst : firstBearer? room.device done.outcomes (renderingControl "2").serviceId =
      some (.service (renderingControl "1").serviceType) := by
    rw [done_outcomes]
    decide +kernel
  have hsame := hown.services _ hmem _ hfirst
  revert hsame
  decide

end SharedIdentifier

end ControlPoint.Generation
