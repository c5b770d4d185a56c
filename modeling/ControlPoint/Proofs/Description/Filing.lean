import Mathlib
import ControlPoint.Description.Service
import ControlPoint.Proofs.Description.KeyedMap

/-!
Whole runs of filing. Every item is found under its key right after it was filed, and what was filed
earlier keeps its rank; but an item without a name, whose key was free when it was made, is replaced
by a later item that is called as this key is.
-/

namespace ControlPoint.Description.KeyedMap

variable {α : Type} [Described α] {m : KeyedMap α}

/-- The names that items bear, each once. -/
def namesOf (items : List α) : Finset String :=
  (items.map Described.name).toFinset.erase ""

/-- Whether an item bears no name. -/
def isUnnamed (item : α) : Bool :=
  Described.name item == ""

/-- The keys that items without a name are given while all items are filed one after another. -/
def unnamedKeys (m : KeyedMap α) : List α → List String
  | [] => []
  | item :: rest =>
    if isUnnamed item then m.keyFor item :: (m.insert item).unnamedKeys rest
    else (m.insert item).unnamedKeys rest

theorem isUnnamed_iff {item : α} : isUnnamed item = true ↔ Described.name item = "" := by
  simp [isUnnamed]

theorem mem_namesOf {items : List α} {key : String} :
    key ∈ namesOf items ↔ key ≠ "" ∧ ∃ item ∈ items, Described.name item = key := by
  simp [namesOf]

theorem mem_namesOf_cons {item : α} {rest : List α} {key : String} :
    key ∈ namesOf (item :: rest) ↔
      (key ≠ "" ∧ Described.name item = key) ∨ key ∈ namesOf rest := by
  simp [mem_namesOf, and_or_left]

/-- The keys are those that were there, the names, and what items without a name are given. -/
theorem mem_keys_insertAll_iff {items : List α} {key : String} :
    key ∈ (m.insertAll items).keys ↔
      key ∈ m.keys ∨ key ∈ namesOf items ∨ key ∈ m.unnamedKeys items := by
  induction items generalizing m with
  | nil => simp [insertAll, namesOf, unnamedKeys]
  | cons item rest ih =>
    rw [insertAll_cons, ih, mem_keys_insert_iff, mem_namesOf_cons, unnamedKeys]
    by_cases hitem : Described.name item = ""
    · have hnever : ¬ (key ≠ "" ∧ Described.name item = key) := by
        rintro ⟨hkey, rfl⟩
        exact hkey hitem
      rw [if_pos (isUnnamed_iff.mpr hitem), List.mem_cons]
      simp only [hnever, false_or, or_assoc, or_left_comm]
    · have hname : key = m.keyFor item ↔ key ≠ "" ∧ Described.name item = key := by
        rw [m.keyFor_of_ne hitem]
        constructor
        · rintro rfl
          exact ⟨hitem, rfl⟩
        · exact fun h => h.2.symm
      rw [if_neg (by simpa [isUnnamed_iff] using hitem), hname]
      simp only [or_assoc]

/-- An item without a name is never given a key that is there. -/
theorem notMem_of_mem_unnamedKeys {items : List α} {key : String}
    (hkey : key ∈ m.unnamedKeys items) : key ∉ m.keys := by
  induction items generalizing m with
  | nil => simp [unnamedKeys] at hkey
  | cons item rest ih =>
    have hlater (hrest : key ∈ (m.insert item).unnamedKeys rest) : key ∉ m.keys := fun hold =>
      ih hrest (mem_keys_insert_iff.mpr (.inl hold))
    rw [unnamedKeys] at hkey
    split at hkey
    · rename_i hitem
      rcases List.mem_cons.mp hkey with rfl | hrest
      · exact m.keyFor_notMem_of_eq (isUnnamed_iff.mp hitem)
      · exact hlater hrest
    · exact hlater hkey

theorem unnamedKeys_nodup (m : KeyedMap α) (items : List α) : (m.unnamedKeys items).Nodup := by
  induction items generalizing m with
  | nil => exact List.nodup_nil
  | cons item rest ih =>
    rw [unnamedKeys]
    split
    · refine List.nodup_cons.mpr ⟨fun hagain => ?_, ih _⟩
      exact notMem_of_mem_unnamedKeys hagain (mem_keys_insert_iff.mpr (.inr rfl))
    · exact ih _

theorem length_unnamedKeys (m : KeyedMap α) (items : List α) :
    (m.unnamedKeys items).length = items.countP isUnnamed := by
  induction items generalizing m with
  | nil => rfl
  | cons item rest ih =>
    rw [unnamedKeys, List.countP_cons]
    split <;> simp [ih]

/-- None of the items is called as the key is that one without a name is given when all of them are
    filed one after another. -/
def KeepsUnnamed (items : List α) : Prop :=
  ∀ key ∈ (empty : KeyedMap α).unnamedKeys items, key ∉ namesOf items

theorem card_inter_unnamedKeys_eq_zero_iff {items : List α} :
    (namesOf items ∩ ((empty : KeyedMap α).unnamedKeys items).toFinset).card = 0 ↔
      KeepsUnnamed items := by
  rw [Finset.card_eq_zero, ← Finset.disjoint_iff_inter_eq_empty, Finset.disjoint_right]
  simp only [List.mem_toFinset, KeepsUnnamed]

/-- There are as many entries as names and items without a name, less the keys of the latter that are
    names as well. -/
theorem size_insertAll (items : List α) :
    ((empty : KeyedMap α).insertAll items).size +
        (namesOf items ∩ ((empty : KeyedMap α).unnamedKeys items).toFinset).card =
      (namesOf items).card + items.countP isUnnamed := by
  let unnamed := (empty : KeyedMap α).unnamedKeys items
  have hkeys : ((empty : KeyedMap α).insertAll items).keys.toFinset =
      namesOf items ∪ unnamed.toFinset := by
    ext key
    rw [List.mem_toFinset, mem_keys_insertAll_iff, Finset.mem_union, List.mem_toFinset]
    simp [keys, empty, unnamed]
  have hsize : ((empty : KeyedMap α).insertAll items).size =
      (namesOf items ∪ unnamed.toFinset).card := by
    rw [← hkeys, List.toFinset_card_of_nodup (keyed_empty.insertAll items).distinct]
    exact (List.length_map _).symm
  rw [hsize, Finset.card_union_add_card_inter,
    List.toFinset_card_of_nodup (unnamedKeys_nodup _ _), length_unnamedKeys]

/-- However items are filed: no key is there twice; an item is found under the key that it is given,
    while the items and the ranks of all other keys stay what they are; under a name stands the last
    item that bears it; a key keeps its rank for good; and an item without a name is given the first
    numbered key that is free after the last one tried. -/
theorem insertAll_files (items : List α) :
    ((empty : KeyedMap α).insertAll items).keys.Nodup ∧
      let m := (empty : KeyedMap α).insertAll items
      (∀ item, (m.insert item).get? (m.keyFor item) = some item ∧
        ∀ key, key ≠ m.keyFor item →
          (m.insert item).get? key = m.get? key ∧
            (m.insert item).indexOf? key = m.indexOf? key) ∧
      (∀ item ∈ items, Described.name item ≠ "" →
        m.get? (Described.name item) =
          (items.filter fun other => Described.name other == Described.name item).getLast?) ∧
      (∀ key ∈ m.keys, ∀ later, (m.insertAll later).indexOf? key = m.indexOf? key) ∧
      ∀ item, Described.name item = "" →
        ∃ n, m.unnamed < n ∧ m.keyFor item = numberedKey (Described.kind α) n ∧
          numberedKey (Described.kind α) n ∉ m.keys ∧
          ∀ k, m.unnamed < k → k < n → numberedKey (Described.kind α) k ∈ m.keys := by
  refine ⟨(keyed_empty.insertAll items).distinct, ?_⟩
  intro m
  refine ⟨fun item => ⟨m.get?_insert_self item, ?_⟩, ?_, ?_, ?_⟩
  · intro key hkey
    exact ⟨get?_insert_of_ne item hkey, indexOf?_insert_of_ne item hkey⟩
  · intro item hitem hname
    exact get?_insertAll_of_named hname ⟨item, hitem, rfl⟩
  · intro key hkey later
    exact indexOf?_insertAll_of_mem hkey later
  · intro item hitem
    obtain ⟨hlarger, hfree, htaken⟩ := m.nextUnnamed_spec (Described.kind α)
    exact ⟨_, hlarger, m.keyFor_of_eq hitem, hfree, htaken⟩

/-- A state variable of a name. -/
def called (name : String) : StateVariable :=
  { StateVariable.blank ⟨"stateVariable", []⟩ with name := name }

/-- Variables with and without a name, one of them called as a numbered key is. -/
def mixed : List StateVariable :=
  [called "B", called "", called "stateVariable#2", called "", called " B "]

theorem mixed_files :
    let m := (empty : KeyedMap StateVariable).insertAll mixed
    m.keys = ["B", "stateVariable#1", "stateVariable#2", "stateVariable#3"] ∧
      (called "B" ∈ mixed ∧ Described.name (called "B") ≠ "" ∧
        m.get? "B" = some (called " B ")) ∧
      ("stateVariable#2" ∈ m.keys ∧
        ∀ later, (m.insertAll later).indexOf? "stateVariable#2" = some 2) ∧
      Described.name (called "") = "" ∧ ∃ n, m.unnamed < n ∧
        m.keyFor (called "") = numberedKey .stateVariable n ∧
        numberedKey .stateVariable n ∉ m.keys := by
  obtain ⟨-, -, hlast, hrank, hfree⟩ := insertAll_files mixed
  refine ⟨by decide +kernel, ⟨by decide, by decide, ?_⟩, ⟨by decide +kernel, fun later => ?_⟩,
    by decide, ?_⟩
  · exact (hlast (called "B") (by decide) (by decide)).trans (by decide +kernel)
  · exact (hrank _ (by decide +kernel) later).trans (by decide +kernel)
  · obtain ⟨n, hlarger, hkey, hnot, -⟩ := hfree (called "") (by decide)
    exact ⟨n, hlarger, hkey, hnot⟩

/-- An item without a name is still found after further items just if none of them is called as its
    key is; and all items without a name have their own entries beside those of the names just if no
    name is the key of one of them. -/
theorem unnamed_isKept_iff :
    (∀ (before : List α) (item : α) (later : List α), Described.name item = "" →
      let m := (empty : KeyedMap α).insertAll before
      (((m.insert item).insertAll later).get? (m.keyFor item) = some item ↔
        ∀ next ∈ later, Described.name next ≠ m.keyFor item)) ∧
      ∀ items : List α,
        ((empty : KeyedMap α).insertAll items).size =
            (namesOf items).card + items.countP isUnnamed ↔ KeepsUnnamed items := by
  constructor
  · intro before item later hitem m
    have hthere : m.keyFor item ∈ (m.insert item).keys := mem_keys_insert_iff.mpr (.inr rfl)
    constructor
    · intro hfound next hnext hname
      rw [get?_insertAll_of_named (m.keyFor_ne_empty item) ⟨next, hnext, hname⟩] at hfound
      have hlast := (List.mem_filter.mp (List.mem_of_getLast? hfound)).2
      rw [beq_iff_eq, hitem] at hlast
      exact m.keyFor_ne_empty item hlast.symm
    · intro hlater
      rw [get?_insertAll_of_forall_ne hthere hlater]
      exact m.get?_insert_self item
  · intro items
    have hsize := size_insertAll items
    rw [← card_inter_unnamedKeys_eq_zero_iff]
    omega

theorem unnamed_isFound :
    let m := (empty : KeyedMap StateVariable).insertAll [called "A"]
    Described.name (called "") = "" ∧ m.keyFor (called "") = "stateVariable#1" ∧
      ((m.insert (called "")).insertAll [called "", called "A", called "B"]).get?
        "stateVariable#1" = some (called "") := by
  intro m
  have hkey : m.keyFor (called "") = "stateVariable#1" := by decide +kernel
  have hfound : ((m.insert (called "")).insertAll [called "", called "A", called "B"]).get?
      (m.keyFor (called "")) = some (called "") :=
    (unnamed_isKept_iff.1 [called "A"] (called "") _ (by decide)).mpr (by decide +kernel)
  rw [hkey] at hfound
  exact ⟨by decide, hkey, hfound⟩

/-- A variable that is called as the key of one without a name takes its place. -/
theorem unnamed_isReplaced :
    let m := (empty : KeyedMap StateVariable).insertAll [called ""]
    m.entries = [("stateVariable#1", called "")] ∧
      (m.insert (called "stateVariable#1")).entries =
        [("stateVariable#1", called "stateVariable#1")] ∧
      (namesOf [called "", called "stateVariable#1"]).card = 1 ∧
      [called "", called "stateVariable#1"].countP isUnnamed = 1 := by
  decide +kernel

end ControlPoint.Description.KeyedMap
