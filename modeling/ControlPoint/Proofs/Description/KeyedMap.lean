import Mathlib
import ControlPoint.Description.KeyedMap
import ControlPoint.Proofs.Lists

/-!
Items filed under their keys, one after another: what is found under a key, at what rank the key
stands, and which key an item without a name is given.
-/

namespace ControlPoint

namespace Markup

variable {α : Type}

/-- Putting a pair keeps the keys as they are; a new key comes last. -/
theorem putPair_keys (key : String) (value : α) (entries : List (String × α)) :
    (putPair key value entries).map Prod.fst =
      if key ∈ entries.map Prod.fst then entries.map Prod.fst
      else entries.map Prod.fst ++ [key] := by
  induction entries with
  | nil => rfl
  | cons first rest ih =>
    obtain ⟨k, v⟩ := first
    rw [putPair]
    by_cases hfirst : k = key
    · simp [hfirst]
    · by_cases hrest : key ∈ rest.map Prod.fst
      · rw [if_pos hrest] at ih
        simp [hfirst, hrest, ih]
      · rw [if_neg hrest] at ih
        simp [hfirst, hrest, ih, Ne.symm hfirst]

theorem putPair_keys_nodup {entries : List (String × α)} (hdistinct : (entries.map Prod.fst).Nodup)
    (key : String) (value : α) : ((putPair key value entries).map Prod.fst).Nodup := by
  rw [putPair_keys]
  split
  · exact hdistinct
  · rename_i hnew
    rw [List.nodup_append]
    refine ⟨hdistinct, List.nodup_singleton key, ?_⟩
    rintro k hk _ hkey rfl
    exact hnew (List.mem_singleton.mp hkey ▸ hk)

/-- All pairs but the one just put were there before. -/
theorem mem_of_mem_putPair {key : String} {value : α} {entries : List (String × α)}
    {entry : String × α} (hentry : entry ∈ putPair key value entries) :
    entry = (key, value) ∨ entry ∈ entries := by
  induction entries with
  | nil => exact .inl (List.mem_singleton.mp hentry)
  | cons first rest ih =>
    obtain ⟨k, v⟩ := first
    rw [putPair] at hentry
    split at hentry
    case isTrue hfirst =>
      obtain rfl := eq_of_beq hfirst
      rcases List.mem_cons.mp hentry with rfl | hrest
      · exact .inl rfl
      · exact .inr (List.mem_cons_of_mem _ hrest)
    case isFalse =>
      rcases List.mem_cons.mp hentry with rfl | hrest
      · exact .inr (List.mem_cons_self ..)
      · rcases ih hrest with hnew | hold
        · exact .inl hnew
        · exact .inr (List.mem_cons_of_mem _ hold)

theorem find?_putPair_self (key : String) (value : α) (entries : List (String × α)) :
    (putPair key value entries).find? (fun entry => entry.1 == key) = some (key, value) := by
  induction entries with
  | nil => simp [putPair]
  | cons first rest ih =>
    rw [putPair]
    by_cases hfirst : first.1 = key
    · simp [hfirst]
    · simp [hfirst, ih]

theorem find?_putPair_of_ne {key other : String} (hne : other ≠ key) (value : α)
    (entries : List (String × α)) :
    (putPair key value entries).find? (fun entry => entry.1 == other) =
      entries.find? fun entry => entry.1 == other := by
  induction entries with
  | nil => simp [putPair, Ne.symm hne]
  | cons first rest ih =>
    rw [putPair]
    by_cases hfirst : first.1 = key
    · simp [hfirst, Ne.symm hne]
    · simp [hfirst, List.find?_cons, ih]

end Markup

/-- What an item is called in a collection: its identity cut of white space, which is empty for an
    item without a name. -/
abbrev Description.Described.name {α : Type} [Description.Described α] (item : α) : String :=
  Text.trim (Description.Described.identity item)

namespace Description.KeyedMap

open Markup Text

variable {α : Type}

theorem contains_iff (m : KeyedMap α) (key : String) : m.contains key = true ↔ key ∈ m.keys := by
  simp [contains]

theorem numberedKey_injective (kind : NodeKind) : Function.Injective (numberedKey kind) := by
  intro i j h
  have hlist := congrArg String.toList h
  simp only [numberedKey, String.toList_append] at hlist
  exact Nat.repr_injective (String.toList_inj.mp (List.append_cancel_left hlist))

/-- The search for a number comes to the first one whose key is free. -/
theorem nextUnnamed_spec (m : KeyedMap α) (kind : NodeKind) :
    m.unnamed < m.nextUnnamed kind ∧ numberedKey kind (m.nextUnnamed kind) ∉ m.keys ∧
      ∀ n, m.unnamed < n → n < m.nextUnnamed kind → numberedKey kind n ∈ m.keys := by
  let isFree (n : Nat) : Bool := !m.contains (numberedKey kind n)
  have hfree (n : Nat) : isFree n = true ↔ numberedKey kind n ∉ m.keys := by
    simp [isFree, ← contains_iff]
  obtain ⟨n, hlo, hhi, hn⟩ :=
    exists_notMem_of_injective (numberedKey_injective kind) m.keys (m.unnamed + 1)
  have hlength : m.keys.length = m.size := List.length_map _
  refine ⟨Naming.le_firstFree isFree (m.size + 1) (m.unnamed + 1), ?_, fun n hlo hhi => ?_⟩
  · exact (hfree _).mp (Naming.free_firstFree isFree _ _ n hlo (by omega) ((hfree n).mpr hn))
  · have htaken := Naming.not_free_of_lt_firstFree isFree (m.size + 1) (m.unnamed + 1) n hlo hhi
    by_contra hnot
    rw [(hfree n).mpr hnot] at htaken
    cases htaken

variable [Described α] {m : KeyedMap α}

/-- No two items are filed under one key, and every item that has an identity is filed under it. -/
structure Keyed (m : KeyedMap α) : Prop where
  distinct : m.keys.Nodup
  identified : ∀ entry ∈ m.entries, trim (Described.identity entry.2) ≠ "" →
    entry.1 = trim (Described.identity entry.2)

theorem keyed_empty : (empty : KeyedMap α).Keyed where
  distinct := List.nodup_nil
  identified := by simp [empty]

theorem keyFor_of_ne (m : KeyedMap α) {item : α} (hitem : trim (Described.identity item) ≠ "") :
    m.keyFor item = trim (Described.identity item) := by
  simp [keyFor, hitem]

theorem Keyed.insert (hm : m.Keyed) (item : α) : (m.insert item).Keyed where
  distinct := putPair_keys_nodup hm.distinct _ _
  identified := by
    intro entry hentry hidentity
    rcases mem_of_mem_putPair hentry with rfl | hold
    · exact m.keyFor_of_ne hidentity
    · exact hm.identified entry hold hidentity

theorem mem_values_insert {item a : α} (ha : a ∈ (m.insert item).values) :
    a = item ∨ a ∈ m.values := by
  obtain ⟨entry, hentry, rfl⟩ := List.mem_map.mp ha
  rcases mem_of_mem_putPair hentry with rfl | hold
  · exact .inl rfl
  · exact .inr (List.mem_map_of_mem hold)

theorem Keyed.insertAll (hm : m.Keyed) (items : List α) : (m.insertAll items).Keyed := by
  induction items generalizing m with
  | nil => exact hm
  | cons item rest ih => exact ih (hm.insert item)

theorem mem_values_insertAll {items : List α} {a : α} (ha : a ∈ (m.insertAll items).values) :
    a ∈ items ∨ a ∈ m.values := by
  induction items generalizing m with
  | nil => exact .inr ha
  | cons item rest ih =>
    rcases ih ha with hrest | hinsert
    · exact .inl (List.mem_cons_of_mem _ hrest)
    · rcases mem_values_insert hinsert with rfl | hold
      · exact .inl (List.mem_cons_self ..)
      · exact .inr hold

/-- The items that have an identity are told apart by it. -/
theorem Keyed.identities_nodup (hm : m.Keyed) :
    ((m.values.map fun a => trim (Described.identity a)).filter (· != "")).Nodup := by
  have hkeys : (m.values.map fun a => trim (Described.identity a)).filter (· != "") =
      (m.entries.filter fun entry => trim (Described.identity entry.2) != "").map Prod.fst := by
    rw [values, List.map_map, List.filter_map]
    apply List.map_congr_left
    intro entry hentry
    obtain ⟨hmem, hidentity⟩ := List.mem_filter.mp hentry
    exact (hm.identified entry hmem (by simpa using hidentity)).symm
  rw [hkeys]
  exact hm.distinct.sublist (List.filter_sublist.map _)

/-! ### One item -/

theorem keyFor_of_eq (m : KeyedMap α) {item : α} (hitem : Described.name item = "") :
    m.keyFor item = numberedKey (Described.kind α) (m.nextUnnamed (Described.kind α)) := by
  simp [keyFor, hitem]

/-- An item without a name comes under a key that was free. -/
theorem keyFor_notMem_of_eq (m : KeyedMap α) {item : α} (hitem : Described.name item = "") :
    m.keyFor item ∉ m.keys := by
  rw [m.keyFor_of_eq hitem]
  exact (m.nextUnnamed_spec _).2.1

theorem keyFor_ne_empty (m : KeyedMap α) (item : α) : m.keyFor item ≠ "" := by
  by_cases hitem : Described.name item = ""
  · rw [m.keyFor_of_eq hitem, numberedKey]
    intro hempty
    simpa using congrArg String.length hempty
  · rwa [m.keyFor_of_ne hitem]

/-- A key that is there is given only to an item of this name. -/
theorem keyFor_ne_of_mem {key : String} (hkey : key ∈ m.keys) {item : α}
    (hitem : Described.name item ≠ key) : m.keyFor item ≠ key := by
  by_cases hname : Described.name item = ""
  · rintro rfl
    exact m.keyFor_notMem_of_eq hname hkey
  · rwa [m.keyFor_of_ne hname]

theorem keys_insert (m : KeyedMap α) (item : α) :
    (m.insert item).keys =
      if m.keyFor item ∈ m.keys then m.keys else m.keys ++ [m.keyFor item] :=
  putPair_keys _ _ _

theorem mem_keys_insert_iff {item : α} {key : String} :
    key ∈ (m.insert item).keys ↔ key ∈ m.keys ∨ key = m.keyFor item := by
  rw [keys_insert]
  split
  · rename_i hold
    refine ⟨.inl, ?_⟩
    rintro (hkey | rfl)
    · exact hkey
    · exact hold
  · simp

theorem get?_insert_self (m : KeyedMap α) (item : α) :
    (m.insert item).get? (m.keyFor item) = some item :=
  congrArg (Option.map Prod.snd) (find?_putPair_self _ _ _)

theorem get?_insert_of_ne (item : α) {key : String} (hkey : key ≠ m.keyFor item) :
    (m.insert item).get? key = m.get? key :=
  congrArg (Option.map Prod.snd) (find?_putPair_of_ne hkey _ _)

theorem indexOf?_insert_of_mem {key : String} (hkey : key ∈ m.keys) (item : α) :
    (m.insert item).indexOf? key = m.indexOf? key := by
  rw [indexOf?, indexOf?, keys_insert]
  split
  · rfl
  · rw [List.findIdx?_append, Option.or_of_isSome]
    rw [List.findIdx?_isSome]
    exact List.any_eq_true.mpr ⟨key, hkey, beq_self_eq_true key⟩

theorem indexOf?_insert_of_ne (item : α) {key : String} (hkey : key ≠ m.keyFor item) :
    (m.insert item).indexOf? key = m.indexOf? key := by
  rw [indexOf?, indexOf?, keys_insert]
  split
  · rfl
  · simp [List.findIdx?_append, Ne.symm hkey]

/-! ### Items one after another -/

theorem insertAll_append (m : KeyedMap α) (first second : List α) :
    m.insertAll (first ++ second) = (m.insertAll first).insertAll second :=
  List.foldl_append

theorem insertAll_cons (m : KeyedMap α) (item : α) (rest : List α) :
    m.insertAll (item :: rest) = (m.insert item).insertAll rest :=
  rfl

theorem insertAll_concat (m : KeyedMap α) (items : List α) (item : α) :
    m.insertAll (items ++ [item]) = (m.insertAll items).insert item :=
  m.insertAll_append items [item]

/-- The rank of a key stays what it is. -/
theorem indexOf?_insertAll_of_mem {key : String} (hkey : key ∈ m.keys) (items : List α) :
    (m.insertAll items).indexOf? key = m.indexOf? key := by
  induction items generalizing m with
  | nil => rfl
  | cons item rest ih =>
    exact (ih (mem_keys_insert_iff.mpr (.inl hkey))).trans (indexOf?_insert_of_mem hkey item)

/-- An item is replaced by none but those that are called as its key is. -/
theorem get?_insertAll_of_forall_ne {key : String} (hkey : key ∈ m.keys) {items : List α}
    (hitems : ∀ item ∈ items, Described.name item ≠ key) :
    (m.insertAll items).get? key = m.get? key := by
  induction items generalizing m with
  | nil => rfl
  | cons item rest ih =>
    rw [List.forall_mem_cons] at hitems
    rw [← get?_insert_of_ne item (Ne.symm (keyFor_ne_of_mem hkey hitems.1))]
    exact ih (mem_keys_insert_iff.mpr (.inl hkey)) hitems.2

/-- Under a name stands the last of the items that are called so. -/
theorem get?_insertAll_of_named {items : List α} {name : String} (hname : name ≠ "")
    (hitems : ∃ item ∈ items, Described.name item = name) :
    (m.insertAll items).get? name =
      (items.filter fun item => Described.name item == name).getLast? := by
  induction items generalizing m with
  | nil => simp at hitems
  | cons item rest ih =>
    by_cases hrest : ∃ later ∈ rest, Described.name later = name
    · have hlater : rest.filter (fun later => Described.name later == name) ≠ [] := by
        simpa [List.filter_eq_nil_iff] using hrest
      refine (ih hrest).trans ?_
      rw [List.filter_cons]
      split
      · rw [List.getLast?_cons_of_ne_nil hlater]
      · rfl
    · push Not at hrest
      have hitem : Described.name item = name := by
        obtain ⟨other, hother, heq⟩ := hitems
        rcases List.mem_cons.mp hother with rfl | hother
        · exact heq
        · exact absurd heq (hrest other hother)
      have hnamed : Described.name item ≠ "" := by rwa [hitem]
      have hkey : m.keyFor item = name := (m.keyFor_of_ne hnamed).trans hitem
      have hnone : rest.filter (fun later => Described.name later == name) = [] := by
        simpa [List.filter_eq_nil_iff] using hrest
      have hthere : name ∈ (m.insert item).keys := mem_keys_insert_iff.mpr (.inr hkey.symm)
      refine (get?_insertAll_of_forall_ne hthere hrest).trans ?_
      rw [List.filter_cons_of_pos (by simpa using hitem), hnone, ← hkey]
      exact m.get?_insert_self item

end Description.KeyedMap

end ControlPoint
