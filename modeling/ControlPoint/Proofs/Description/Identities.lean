import Mathlib
import ControlPoint.Proofs.Description.DeviceTree
import ControlPoint.Proofs.Description.StateTable

/-!
What tells the parts of a device apart: no two devices directly inside it have one unique name, and
no two of its services one identifier, unless they have none. So it is throughout the tree of a
description that was read.
-/

namespace ControlPoint.Description

open Markup Text

namespace KeyedMap

variable {α : Type} [Described α]

/-- Items are filed under their identities, which have no white space around them. -/
structure IsIdentified (m : KeyedMap α) : Prop where
  keyed : m.Keyed
  trimmed : ∀ a ∈ m.values, trim (Described.identity a) = Described.identity a

theorem isIdentified_empty : (empty : KeyedMap α).IsIdentified where
  keyed := keyed_empty
  trimmed := by simp [values, empty]

variable {m : KeyedMap α}

theorem IsIdentified.insertAll (hm : m.IsIdentified) {items : List α}
    (hitems : ∀ a ∈ items, trim (Described.identity a) = Described.identity a) :
    (m.insertAll items).IsIdentified where
  keyed := hm.keyed.insertAll items
  trimmed a ha := (mem_values_insertAll ha).elim (hitems a) (hm.trimmed a)

theorem IsIdentified.insert (hm : m.IsIdentified) {a : α}
    (ha : trim (Described.identity a) = Described.identity a) : (m.insert a).IsIdentified :=
  hm.insertAll (List.forall_mem_singleton.mpr ha)

theorem IsIdentified.identities_nodup (hm : m.IsIdentified) :
    ((m.values.map Described.identity).filter (· != "")).Nodup := by
  have hidentities : m.values.map Described.identity =
      m.values.map fun a => trim (Described.identity a) :=
    List.map_congr_left fun a ha => (hm.trimmed a ha).symm
  rw [hidentities]
  exact hm.keyed.identities_nodup

end KeyedMap

namespace Device

/-- The devices directly inside and the services are told apart by what identifies them. -/
structure IsIdentified (d : Device) : Prop where
  embedded : (((d.embedded.map Prod.snd).map udn).filter (· != "")).Nodup
  services : ((d.services.map ServiceReference.serviceId).filter (· != "")).Nodup

theorem forall_mem_all_mk {P : Device → Prop} {info : DeviceInfo}
    {embedded : List (String × Device)} :
    (∀ d ∈ (mk info embedded).all, P d) ↔
      P (mk info embedded) ∧ ∀ branch ∈ embedded, ∀ d ∈ branch.2.all, P d := by
  rw [all, List.forall_mem_cons, allIn_eq, List.forall_mem_flatMap]

end Device

namespace Node

/-- In all that the node knows of devices and services, these are told apart. -/
def IsIdentified : Node → Prop
  | root r => ∀ d ∈ r.device.all, d.IsIdentified
  | device info embedded => trim info.udn = info.udn ∧ info.services.IsIdentified ∧
      embedded.IsIdentified ∧ ∀ inner ∈ embedded.values, ∀ d ∈ inner.all, d.IsIdentified
  | deviceList devices =>
    devices.IsIdentified ∧ ∀ inner ∈ devices.values, ∀ d ∈ inner.all, d.IsIdentified
  | serviceList services => services.IsIdentified
  | service s => trim s.serviceId = s.serviceId
  | _ => True

theorem isIdentified_of_kind {node : Node}
    (hkind : node.kind ∉ [NodeKind.root, NodeKind.device, NodeKind.deviceList,
      NodeKind.serviceList, NodeKind.service]) : node.IsIdentified := by
  cases node
  case root | device | deviceList | serviceList | service => simp [kind] at hkind
  all_goals trivial

/-- A device that is read to its end, with all inside it. -/
theorem IsIdentified.forall_mem_all {info : DeviceInfo} {embedded : KeyedMap Device}
    (h : (device info embedded).IsIdentified) :
    ∀ d ∈ (Device.mk info embedded.entries).all, d.IsIdentified := by
  obtain ⟨-, hservices, hembedded, hinner⟩ := h
  refine Device.forall_mem_all_mk.mpr ⟨⟨hembedded.identities_nodup, hservices.identities_nodup⟩, ?_⟩
  exact fun branch hbranch => hinner branch.2 (List.mem_map_of_mem hbranch)

theorem isIdentified_ofElement (kind : NodeKind) (e : Element) :
    (ofElement kind e).IsIdentified := by
  have hempty : trim "" = "" := by decide
  cases kind
  case root => exact Device.forall_mem_all_mk.mpr ⟨⟨List.nodup_nil, List.nodup_nil⟩, by simp⟩
  case device =>
    exact ⟨hempty, KeyedMap.isIdentified_empty, KeyedMap.isIdentified_empty, by
      simp [KeyedMap.values, KeyedMap.empty]⟩
  case deviceList =>
    exact ⟨KeyedMap.isIdentified_empty, by simp [KeyedMap.values, KeyedMap.empty]⟩
  case serviceList => exact KeyedMap.isIdentified_empty
  case service => exact hempty
  all_goals trivial

theorem udn_take? {info info' : DeviceInfo} {field text : String}
    (htake : info.take? field text = some info') :
    (info'.udn = info.udn ∨ info'.udn = text) ∧ info'.services = info.services := by
  unfold DeviceInfo.take? at htake
  split at htake
  case h_13 => cases htake
  all_goals
    obtain rfl := Option.some.inj htake
    simp

theorem serviceId_take? {s s' : ServiceReference} {field text : String}
    (htake : s.take? field text = some s') : s'.serviceId = s.serviceId ∨ s'.serviceId = text := by
  unfold ServiceReference.take? at htake
  split at htake
  case h_6 => cases htake
  all_goals
    obtain rfl := Option.some.inj htake
    simp

theorem IsIdentified.withText {node : Node} (hnode : node.IsIdentified) {text : String}
    (htext : trim text = text) (name : String) : (node.withText name text).IsIdentified := by
  cases node
  case deviceList | serviceList => exact hnode
  case root r =>
    unfold Node.withText takeText?
    dsimp only
    split <;> exact hnode
  case device info embedded =>
    unfold Node.withText takeText?
    dsimp only
    cases htake : info.take? (lowerAscii name) text with
    | none => exact hnode
    | some info' =>
      obtain ⟨hudn, hservices⟩ := udn_take? htake
      obtain ⟨hold, hrest⟩ := hnode
      refine ⟨?_, hservices ▸ hrest⟩
      rcases hudn with hudn | hudn <;> rwa [hudn]
  case service s =>
    unfold Node.withText takeText?
    dsimp only
    cases htake : s.take? (lowerAscii name) text with
    | none => exact hnode
    | some s' =>
      change trim s'.serviceId = s'.serviceId
      rcases serviceId_take? htake with hid | hid
      · rw [hid]
        exact hnode
      · rwa [hid]
  all_goals
    apply isIdentified_of_kind
    rw [kind_withText]
    simp [kind]

theorem IsIdentified.withMark {node : Node} (hnode : node.IsIdentified) (name : String) :
    (node.withMark name).IsIdentified := by
  cases node
  case argument a =>
    apply isIdentified_of_kind
    rw [kind_withMark]
    simp [kind]
  all_goals exact hnode

theorem IsIdentified.adopt {parent child : Node} (hparent : parent.IsIdentified)
    (hchild : child.IsIdentified) : (parent.adopt child).IsIdentified := by
  cases parent
  case root r =>
    cases child
    case device info embedded => exact hchild.forall_mem_all
    all_goals exact hparent
  case device info embedded =>
    obtain ⟨hudn, hservices, hembedded, hinner⟩ := hparent
    cases child
    case deviceList devices =>
      obtain ⟨hdevices, hwithin⟩ := hchild
      refine ⟨hudn, hservices, hembedded.insertAll hdevices.trimmed, fun inner hmem => ?_⟩
      exact (KeyedMap.mem_values_insertAll hmem).elim (hwithin inner) (hinner inner)
    case serviceList services =>
      exact ⟨hudn, hservices.insertAll hchild.trimmed, hembedded, hinner⟩
    all_goals exact ⟨hudn, hservices, hembedded, hinner⟩
  case deviceList devices =>
    cases child
    case device info embedded =>
      obtain ⟨hdevices, hwithin⟩ := hparent
      refine ⟨hdevices.insert hchild.1, fun inner hmem => ?_⟩
      rcases KeyedMap.mem_values_insert hmem with rfl | hold
      · exact hchild.forall_mem_all
      · exact hwithin inner hold
    all_goals exact hparent
  case serviceList services =>
    cases child
    case service s => exact KeyedMap.IsIdentified.insert hparent hchild
    all_goals exact hparent
  case service s =>
    cases child
    all_goals exact hparent
  all_goals
    apply isIdentified_of_kind
    rw [kind_adopt]
    simp [kind]

theorem isKept_isIdentified : IsKept IsIdentified where
  ofElement := isIdentified_ofElement
  withText _ name _ htext hnode := hnode.withText htext name
  withMark _ name hnode := hnode.withMark name
  adopt _ _ hparent hchild := hparent.adopt hchild

end Node

/-- Children can be told apart in every device of a description that was read. -/
theorem DeviceDescription.isIdentified_of_parse {document : String} {description : DeviceDescription}
    (hparse : DeviceDescription.parse document = .ok description) :
    ∀ d ∈ description.device.all, d.IsIdentified :=
  Node.isKept_isIdentified.of_ofScan (DeviceDescription.ofScan_eq_ok_iff.mp hparse)

end ControlPoint.Description
