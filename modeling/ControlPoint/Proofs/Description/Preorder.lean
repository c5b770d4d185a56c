import Mathlib
import ControlPoint.Proofs.Description.DeviceTree

/-!
The order of the devices of a tree. A place in a tree is the way to it from the root, and the places
in lexicographic order are the tree in pre-order. The devices of a tree are those at its places in
that order, a search finds the first of them, and the services follow their devices.
-/

namespace ControlPoint.Description.Device

/-! ### Places -/

/-- The device at a place of the tree: the ranks say which of the devices immediately inside the
    last one comes next on the way. -/
def at? : Device → List Nat → Option Device
  | d, [] => some d
  | d, rank :: place => d.embedded[rank]?.bind fun branch => branch.2.at? place

mutual

/-- The places of a tree, each before those below it and those of a branch before those of the next.
    -/
def places : Device → List (List Nat)
  | mk _ embedded => [] :: placesIn 0 embedded
termination_by structural d => d

/-- The places in branches that are immediately inside a device, from a rank on. -/
def placesIn (rank : Nat) : List (String × Device) → List (List Nat)
  | [] => []
  | (_, d) :: rest => d.places.map (rank :: ·) ++ placesIn (rank + 1) rest
termination_by structural branches => branches

end

theorem placesIn_eq (rank : Nat) (branches : List (String × Device)) :
    placesIn rank branches =
      (branches.zipIdx rank).flatMap fun x => x.1.2.places.map (x.2 :: ·) := by
  induction branches generalizing rank with
  | nil => rfl
  | cons branch rest ih => exact congrArg _ (ih (rank + 1))

theorem places_mk (info : DeviceInfo) (embedded : List (String × Device)) :
    (mk info embedded).places =
      [] :: embedded.zipIdx.flatMap fun x => x.1.2.places.map (x.2 :: ·) := by
  rw [places, placesIn_eq]

theorem at?_cons {d : Device} {rank : Nat} {branch : String × Device}
    (hbranch : d.embedded[rank]? = some branch) (place : List Nat) :
    d.at? (rank :: place) = branch.2.at? place := by
  rw [at?, hbranch, Option.bind_some]

/-- The places of a tree are those at which there is a device. -/
theorem mem_places_iff (d : Device) (place : List Nat) :
    place ∈ d.places ↔ ∃ inside, d.at? place = some inside := by
  induction place generalizing d with
  | nil =>
    cases d
    simp [places, at?]
  | cons rank rest ih =>
    obtain ⟨info, embedded⟩ := d
    rw [places_mk, List.mem_cons, List.mem_flatMap]
    constructor
    · rintro (hnil | ⟨x, hx, hplace⟩)
      · cases hnil
      · obtain ⟨place, hmem, heq⟩ := List.mem_map.mp hplace
        obtain ⟨rfl, rfl⟩ := List.cons.inj heq
        rw [at?_cons (List.mem_zipIdx_iff_getElem?.mp hx)]
        exact (ih x.1.2).mp hmem
    · rintro ⟨inside, hinside⟩
      obtain ⟨branch, hbranch, hrest⟩ := Option.bind_eq_some_iff.mp hinside
      refine .inr ⟨(branch, rank), List.mem_zipIdx_iff_getElem?.mpr hbranch, ?_⟩
      exact List.mem_map_of_mem ((ih branch.2).mpr ⟨inside, hrest⟩)

/-- The places of a tree are in lexicographic order. -/
theorem places_pairwise (d : Device) : d.places.Pairwise (· < ·) := by
  induction d using Device.induction with
  | mk info embedded ih =>
    rw [places_mk, List.pairwise_cons, List.pairwise_flatMap]
    refine ⟨?below, ?branch, ?branches⟩
    case below =>
      intro place hplace
      obtain ⟨x, -, hx⟩ := List.mem_flatMap.mp hplace
      obtain ⟨rest, -, rfl⟩ := List.mem_map.mp hx
      exact List.nil_lt_cons x.2 rest
    case branch =>
      intro x hx
      have hordered := ih x.1 (List.mem_of_getElem? (List.mem_zipIdx_iff_getElem?.mp hx))
      rw [List.pairwise_map]
      exact hordered.imp fun hlt => List.cons_lt_cons_iff.mpr (.inr ⟨rfl, hlt⟩)
    case branches =>
      have hranks : (embedded.zipIdx.map Prod.snd).Pairwise (· < ·) := by
        rw [List.zipIdx_map_snd]
        exact List.pairwise_lt_range'
      rw [List.pairwise_map] at hranks
      refine hranks.imp fun hlt => ?_
      intro place hplace place' hplace'
      obtain ⟨rest, -, rfl⟩ := List.mem_map.mp hplace
      obtain ⟨rest', -, rfl⟩ := List.mem_map.mp hplace'
      exact List.cons_lt_cons_iff.mpr (.inl hlt)

/-- The devices of a tree are those at its places. -/
theorem map_at?_places (d : Device) : d.places.map d.at? = d.all.map some := by
  induction d using Device.induction with
  | mk info embedded ih =>
    have hbranches : (embedded.zipIdx.flatMap fun x => x.1.2.places.map (x.2 :: ·)).map
        (mk info embedded).at? = embedded.flatMap fun branch => branch.2.all.map some := by
      rw [List.map_flatMap]
      conv_rhs => rw [← List.zipIdx_map_fst 0 embedded, List.flatMap_map]
      refine List.flatMap_congr fun x hx => ?_
      have hbranch := List.mem_zipIdx_iff_getElem?.mp hx
      rw [← ih x.1 (List.mem_of_getElem? hbranch), List.map_map]
      exact List.map_congr_left fun place _ => at?_cons hbranch place
    rw [places_mk, List.map_cons, hbranches, all, allIn_eq, List.map_cons, List.map_flatMap]
    rfl

/-! ### Listing and searching -/

/-- The devices are listed in pre-order: each once, before those inside it, and the devices of a
    branch before those of the next. That is the lexicographic order of their places. -/
def IsPreorder (d : Device) (listed : List Device) : Prop :=
  ∃ places : List (List Nat), places.Pairwise (· < ·) ∧
    (∀ place, place ∈ places ↔ ∃ inside, d.at? place = some inside) ∧
    places.map d.at? = listed.map some

theorem all_isPreorder (d : Device) : d.IsPreorder d.all :=
  ⟨d.places, d.places_pairwise, d.mem_places_iff, d.map_at?_places⟩

theorem findIn?_eq_find?_allIn {udn : String} {branches : List (String × Device)}
    (hbranches : ∀ branch ∈ branches,
      branch.2.find? udn = branch.2.all.find? fun inside => inside.udn == udn) :
    findIn? udn branches = (allIn branches).find? fun inside => inside.udn == udn := by
  induction branches with
  | nil => rfl
  | cons branch rest ih =>
    rw [List.forall_mem_cons] at hbranches
    rw [findIn?, allIn, List.find?_append, hbranches.1, ih hbranches.2]
    cases branch.2.all.find? _ <;> rfl

/-- A search finds the first of all devices that has the identifier. -/
theorem find?_eq_find?_all (udn : String) (d : Device) :
    d.find? udn = d.all.find? fun inside => inside.udn == udn := by
  induction d using Device.induction with
  | mk info embedded ih =>
    rw [find?, findIn?_eq_find?_allIn ih, all, show info.udn = (mk info embedded).udn from rfl]
    by_cases hudn : (mk info embedded).udn = udn
    · rw [if_pos (beq_iff_eq.mpr hudn), List.find?_cons_of_pos (by simp [hudn])]
    · rw [if_neg (mt beq_iff_eq.mp hudn), List.find?_cons_of_neg (by simp [hudn])]

/-- The services of a device come before those of the devices inside it, branch after branch. -/
theorem allServices_eq (d : Device) :
    d.allServices = (d.services.map fun s => (d, s)) ++
      d.embedded.flatMap fun branch => branch.2.allServices := by
  cases d
  rw [allServices, all, List.flatMap_cons, allIn_eq, List.flatMap_assoc]
  rfl

/-- The devices of a tree are listed in pre-order; a search finds the first listed device that has
    the identifier, and nothing if none has it; and the services are listed device after device,
    each with the one it belongs to, so that those of a device come before those inside it. -/
theorem all_find?_allServices (d : Device) :
    d.IsPreorder d.all ∧
      (∀ udn, d.find? udn = d.all.find? fun inside => inside.udn == udn) ∧
      (∀ udn, d.find? udn = none ↔ ∀ inside ∈ d.all, inside.udn ≠ udn) ∧
      d.allServices = (d.all.map fun owner => owner.services.map fun s => (owner, s)).flatten ∧
      d.allServices = (d.services.map fun s => (d, s)) ++
        d.embedded.flatMap fun branch => branch.2.allServices := by
  refine ⟨d.all_isPreorder, fun udn => d.find?_eq_find?_all udn, fun udn => ?absent, ?services,
    d.allServices_eq⟩
  case absent => simp [find?_eq_find?_all]
  case services => exact List.flatMap_def

end ControlPoint.Description.Device
