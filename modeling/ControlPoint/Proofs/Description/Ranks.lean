import Mathlib
import ControlPoint.Proofs.Description.Filing

/-!
The ranks of items in a collection. A name has the rank of its first declaration in it, as long as no
item without a name is replaced by one that is called as its key is.
-/

namespace ControlPoint

/-! ### Names where they come first -/

/-- Names in order: of every name only the first use, but all that are empty. -/
def firstUses : List String → List String
  | [] => []
  | name :: rest => name :: (firstUses rest).filter fun other => other == "" || other != name

theorem mem_firstUses {name : String} {names : List String} :
    name ∈ firstUses names ↔ name ∈ names := by
  induction names with
  | nil => rfl
  | cons first rest ih =>
    by_cases hname : name = first
    · simp [firstUses, hname]
    · simp [firstUses, hname, ih]

theorem firstUses_filter (keep : String → Bool) (names : List String) :
    firstUses (names.filter keep) = (firstUses names).filter keep := by
  induction names with
  | nil => rfl
  | cons name rest ih =>
    by_cases hname : keep name = true
    · rw [List.filter_cons_of_pos hname, firstUses, firstUses, List.filter_cons_of_pos hname, ih,
        List.filter_comm]
    · rw [List.filter_cons_of_neg hname, firstUses, List.filter_cons_of_neg hname, ih,
        List.filter_filter]
      refine List.filter_congr fun other _ => ?_
      by_cases hother : other = name
      · simp [hother, hname]
      · simp [hother]

theorem firstUses_append (first second : List String) :
    firstUses (first ++ second) =
      firstUses first ++ (firstUses second).filter fun name => name == "" || !first.contains name := by
  induction first with
  | nil => simp [firstUses]
  | cons name rest ih =>
    rw [List.cons_append, firstUses, ih, firstUses, List.filter_append, List.filter_filter,
      List.cons_append]
    congr 2
    refine List.filter_congr fun other _ => ?_
    by_cases hsame : other = name
    · subst hsame
      by_cases hother : other = "" <;> simp [hother]
    · simp [hsame]

theorem firstUses_firstUses (names : List String) : firstUses (firstUses names) = firstUses names := by
  induction names with
  | nil => rfl
  | cons name rest ih => simp [firstUses, firstUses_filter, ih]

/-- It makes no difference whether of some part of the names only the first uses are there. -/
theorem firstUses_flatMap {α : Type} (parts : List α) (names : α → List String) :
    firstUses (parts.flatMap fun part => firstUses (names part)) =
      firstUses (parts.flatMap names) := by
  induction parts with
  | nil => rfl
  | cons part rest ih =>
    rw [List.flatMap_cons, List.flatMap_cons, firstUses_append, firstUses_append,
      firstUses_firstUses, ih]
    congr 1
    refine List.filter_congr fun name _ => ?_
    rw [Bool.eq_iff_iff]
    simp [mem_firstUses]

theorem count_firstUses (names : List String) : (firstUses names).count "" = names.count "" := by
  induction names with
  | nil => rfl
  | cons name rest ih => rw [firstUses, List.count_cons, List.count_cons, List.count_filter rfl, ih]

/-- The last item of lists one after another is the last one of their last items. -/
theorem getLast?_flatMap_getLast? {α β : Type} (parts : List α) (items : α → List β) :
    (parts.flatMap fun part => (items part).getLast?.toList).getLast? =
      (parts.flatMap items).getLast? := by
  induction parts with
  | nil => rfl
  | cons part rest ih =>
    rw [List.flatMap_cons, List.flatMap_cons, List.getLast?_append, List.getLast?_append, ih]
    cases (items part).getLast? <;> rfl

namespace Markup

variable {α β : Type} {key : String} {entries : List (String × α)}

theorem putPair_of_notMem (hkey : key ∉ entries.map Prod.fst) (value : α) :
    putPair key value entries = entries ++ [(key, value)] := by
  induction entries with
  | nil => rfl
  | cons first rest ih =>
    rw [List.map_cons, List.mem_cons, not_or] at hkey
    rw [putPair, if_neg (by simpa using Ne.symm hkey.1), ih hkey.2, List.cons_append]

/-- What is the same of the new value and the old one under its key is the same at all ranks. -/
theorem map_putPair_of_find? (f : α → β) {value old : α}
    (hold : (entries.find? fun entry => entry.1 == key).map Prod.snd = some old)
    (hsame : f value = f old) :
    ((putPair key value entries).map fun entry => f entry.2) =
      entries.map fun entry => f entry.2 := by
  induction entries with
  | nil => cases hold
  | cons first rest ih =>
    rw [putPair]
    by_cases hfirst : first.1 = key
    · rw [List.find?_cons_of_pos (by simpa using hfirst)] at hold
      obtain rfl := Option.some.inj hold
      simp [hfirst, hsame]
    · rw [List.find?_cons_of_neg (by simpa using hfirst)] at hold
      simp [hfirst, ih hold]

end Markup

namespace Description.KeyedMap

variable {α : Type} {m : KeyedMap α}

/-! ### Ranks and names -/

theorem at?_eq_some_iff {i : Nat} {item : α} :
    m.at? i = some item ↔ ∃ key, m.entries[i]? = some (key, item) := by
  simp [at?]

variable [Described α]

theorem Keyed.indexOf?_eq_some_iff (hm : m.Keyed) {key : String} {i : Nat} :
    m.indexOf? key = some i ↔ ∃ item, m.entries[i]? = some (key, item) := by
  have hkeys : (∃ item, m.entries[i]? = some (key, item)) ↔ m.keys[i]? = some key := by
    simp [keys]
  rw [hkeys, indexOf?, List.findIdx?_eq_some_iff_getElem, List.getElem?_eq_some_iff]
  constructor
  · rintro ⟨hi, hkey, -⟩
    exact ⟨hi, by simpa using hkey⟩
  · rintro ⟨hi, hkey⟩
    refine ⟨hi, by simpa using hkey, fun j hj hagain => ?_⟩
    have hsame : m.keys[j] = m.keys[i] := (eq_of_beq hagain).trans hkey.symm
    exact absurd ((hm.distinct.getElem_inj_iff).mp hsame) (by omega)

theorem Keyed.get?_eq_some_iff (hm : m.Keyed) {key : String} {item : α} :
    m.get? key = some item ↔ (key, item) ∈ m.entries := by
  constructor
  · intro hfound
    obtain ⟨entry, hentry, rfl⟩ := Option.map_eq_some_iff.mp hfound
    have hkey : entry.1 = key := by simpa using List.find?_some hentry
    exact hkey ▸ List.mem_of_find?_eq_some hentry
  · intro hentry
    have honce := List.nodup_iff_count_le_one.mp hm.distinct key
    rw [get?, ← List.head?_filter, filter_key_eq_singleton Prod.fst hentry honce]
    rfl

theorem exists_get?_insertAll_of_named {items : List α} {name : String} (hname : name ≠ "")
    (hitems : ∃ item ∈ items, Described.name item = name) :
    ∃ item, (m.insertAll items).get? name = some item ∧ Described.name item = name ∧
      (items.filter fun item => Described.name item == name).getLast? = some item := by
  have hfound := get?_insertAll_of_named (m := m) hname hitems
  have hsome : (items.filter fun item => Described.name item == name) ≠ [] := by
    simpa [List.filter_eq_nil_iff] using hitems
  have hlast := List.getLast?_eq_some_getLast hsome
  have hcalled := (List.mem_filter.mp (List.getLast_mem hsome)).2
  exact ⟨_, hfound.trans hlast, eq_of_beq hcalled, hlast⟩

/-- Under a name stands, and at one rank only, the last of the items that bear it. -/
theorem filter_values_insertAll {name : String} (hname : name ≠ "") (items : List α) :
    (((empty : KeyedMap α).insertAll items).values.filter fun item => Described.name item == name) =
      (items.filter fun item => Described.name item == name).getLast?.toList := by
  have hkeyed := keyed_empty.insertAll items
  by_cases hitems : ∃ item ∈ items, Described.name item = name
  · obtain ⟨item, hfound, hitem, hlast⟩ := exists_get?_insertAll_of_named (m := empty) hname hitems
    rw [hlast]
    obtain ⟨entry, hentry, rfl⟩ := Option.map_eq_some_iff.mp hfound
    have hvalue : entry.2 ∈ ((empty : KeyedMap α).insertAll items).values :=
      List.mem_map_of_mem (List.mem_of_find?_eq_some hentry)
    have honce := count_le_one_of_filter_ne hkeyed.identities_nodup (hitem.trans_ne hname)
    rw [← hitem]
    exact filter_key_eq_singleton Described.name hvalue honce
  · push Not at hitems
    have hnone : (items.filter fun item => Described.name item == name) = [] := by
      simpa [List.filter_eq_nil_iff] using hitems
    rw [hnone, List.getLast?_nil, Option.toList_none, List.filter_eq_nil_iff]
    intro item hitem
    rcases mem_values_insertAll hitem with hnew | hold
    · simpa using hitems item hnew
    · simp [values, empty] at hold

/-! ### Items without a name -/

theorem unnamedKeys_append (m : KeyedMap α) (first second : List α) :
    m.unnamedKeys (first ++ second) =
      m.unnamedKeys first ++ (m.insertAll first).unnamedKeys second := by
  induction first generalizing m with
  | nil => rfl
  | cons item rest ih =>
    rw [List.cons_append, unnamedKeys, unnamedKeys, ih]
    split <;> rfl

theorem KeepsUnnamed.of_append {first second : List α} (hkept : KeepsUnnamed (first ++ second)) :
    KeepsUnnamed first := by
  intro key hkey hname
  refine hkept key ?_ ?_
  · rw [unnamedKeys_append]
    exact List.mem_append_left _ hkey
  · obtain ⟨hne, item, hitem, hcalled⟩ := mem_namesOf.mp hname
    exact mem_namesOf.mpr ⟨hne, item, List.mem_append_left _ hitem, hcalled⟩

/-- An item of a new name comes under a new key, if no item without a name is replaced by it. -/
theorem KeepsUnnamed.keyFor_notMem {items : List α} {item : α}
    (hkept : KeepsUnnamed (items ++ [item])) (hitem : Described.name item ≠ "")
    (hnew : ¬ ∃ other ∈ items, Described.name other = Described.name item) :
    ((empty : KeyedMap α).insertAll items).keyFor item ∉
      ((empty : KeyedMap α).insertAll items).keys := by
  rw [keyFor_of_ne _ hitem, mem_keys_insertAll_iff]
  rintro (hempty | hname | hunnamed)
  · simp [keys, empty] at hempty
  · exact hnew (mem_namesOf.mp hname).2
  · refine hkept _ ?_ (mem_namesOf.mpr ⟨hitem, item, by simp, rfl⟩)
    rw [unnamedKeys_append]
    exact List.mem_append_left _ hunnamed

theorem values_insert_of_notMem {item : α} (hkey : m.keyFor item ∉ m.keys) :
    (m.insert item).values = m.values ++ [item] := by
  rw [values, insert, Markup.putPair_of_notMem hkey]
  simp [values]

/-- Where no item without a name is replaced, the names stand in the order of their first uses. -/
theorem names_insertAll {items : List α} (hkept : KeepsUnnamed items) :
    ((empty : KeyedMap α).insertAll items).values.map Described.name =
      firstUses (items.map Described.name) := by
  induction items using List.reverseRecOn with
  | nil => rfl
  | append_singleton items item ih =>
    have hearlier := ih hkept.of_append
    let m := (empty : KeyedMap α).insertAll items
    rw [insertAll_concat, List.map_append, List.map_singleton, firstUses_append, ← hearlier]
    change (m.insert item).values.map Described.name = m.values.map Described.name ++ _
    by_cases hitem : Described.name item = ""
    · rw [values_insert_of_notMem (m.keyFor_notMem_of_eq hitem), List.map_append]
      simp [hitem, firstUses]
    have hkey : m.keyFor item = Described.name item := m.keyFor_of_ne hitem
    by_cases hknown : ∃ other ∈ items, Described.name other = Described.name item
    · -- an item of a known name takes the place of the earlier one
      obtain ⟨old, hold, hsame, -⟩ := exists_get?_insertAll_of_named (m := empty) hitem hknown
      rw [← hkey] at hold
      have hreplaced := Markup.map_putPair_of_find? Described.name hold hsame.symm
      simp only [values, insert, List.map_map]
      refine hreplaced.trans ?_
      simp [firstUses, hitem, hknown, Function.comp_def, m]
    · rw [values_insert_of_notMem (hkept.keyFor_notMem hitem hknown), List.map_append]
      simp [firstUses, hknown, m]

/-- The names of what was filed are all names. -/
theorem namesOf_values_insertAll (items : List α) :
    namesOf ((empty : KeyedMap α).insertAll items).values = namesOf items := by
  ext name
  rw [mem_namesOf, mem_namesOf]
  refine and_congr_right fun hname => ?_
  have hnone (as : List α) : (∃ item ∈ as, Described.name item = name) ↔
      (as.filter fun item => Described.name item == name) ≠ [] := by
    simp [List.filter_eq_nil_iff]
  rw [hnone, hnone, filter_values_insertAll hname]
  simp

theorem Keyed.card_namesOf (hm : m.Keyed) :
    (namesOf m.values).card + m.values.countP isUnnamed = m.size := by
  have hnames : namesOf m.values = ((m.values.map Described.name).filter (· != "")).toFinset := by
    ext name
    simp [namesOf, and_comm]
  have hothers : ((· != "") ∘ Described.name : α → Bool) = fun item => !isUnnamed item := rfl
  rw [hnames, List.toFinset_card_of_nodup hm.identities_nodup, List.filter_map, List.length_map,
    ← List.countP_eq_length_filter, hothers, add_comm]
  have hlength := m.values.length_eq_countP_add_countP isUnnamed
  simp only [Bool.not_eq_true, Bool.decide_eq_false] at hlength
  exact hlength.symm.trans (List.length_map _)

/-- How many items without a name there are: those that were filed, less those whose key is a name. -/
theorem countP_isUnnamed_insertAll (items : List α) :
    ((empty : KeyedMap α).insertAll items).values.countP isUnnamed +
        (namesOf items ∩ ((empty : KeyedMap α).unnamedKeys items).toFinset).card =
      items.countP isUnnamed := by
  have hsize := size_insertAll items
  have hcard := (keyed_empty.insertAll items).card_namesOf
  rw [namesOf_values_insertAll] at hcard
  omega

theorem countP_isUnnamed_insertAll_le (items : List α) :
    ((empty : KeyedMap α).insertAll items).values.countP isUnnamed ≤ items.countP isUnnamed := by
  have hcount := countP_isUnnamed_insertAll items
  omega

/-- There are as many items without a name after filing as before just if none was replaced. -/
theorem countP_isUnnamed_insertAll_eq_iff (items : List α) :
    ((empty : KeyedMap α).insertAll items).values.countP isUnnamed = items.countP isUnnamed ↔
      KeepsUnnamed items := by
  have hcount := countP_isUnnamed_insertAll items
  rw [← card_inter_unnamedKeys_eq_zero_iff]
  omega

/-! ### Filing part by part -/

/-- What is left of parts when the items of each of them are filed on their own. -/
def filedParts (parts : List (List α)) : List α :=
  parts.flatMap fun items => ((empty : KeyedMap α).insertAll items).values

/-- Under a name stands the last of the items that bear it, in whatever part this is. -/
theorem filter_values_filedParts {name : String} (hname : name ≠ "") (parts : List (List α)) :
    (((empty : KeyedMap α).insertAll (filedParts parts)).values.filter
        fun item => Described.name item == name) =
      (parts.flatten.filter fun item => Described.name item == name).getLast?.toList := by
  have hparts : (filedParts parts).filter (fun item => Described.name item == name) =
      parts.flatMap fun items =>
        (items.filter fun item => Described.name item == name).getLast?.toList := by
    rw [filedParts, List.filter_flatMap]
    exact congrArg (parts.flatMap ·) (funext fun items => filter_values_insertAll hname items)
  rw [filter_values_insertAll hname, hparts, getLast?_flatMap_getLast?, List.filter_flatten,
    List.flatMap_def]

theorem countP_isUnnamed_filedParts_le (parts : List (List α)) :
    (filedParts parts).countP isUnnamed ≤ parts.flatten.countP isUnnamed := by
  induction parts with
  | nil => exact Nat.le_refl 0
  | cons items rest ih =>
    rw [filedParts, List.flatMap_cons, List.flatten_cons, List.countP_append, List.countP_append]
    exact Nat.add_le_add (countP_isUnnamed_insertAll_le items) ih

theorem countP_isUnnamed_filedParts_eq_iff (parts : List (List α)) :
    (filedParts parts).countP isUnnamed = parts.flatten.countP isUnnamed ↔
      ∀ items ∈ parts, KeepsUnnamed items := by
  induction parts with
  | nil => simp [filedParts]
  | cons items rest ih =>
    have hhere := countP_isUnnamed_insertAll_le items
    have hrest := countP_isUnnamed_filedParts_le rest
    rw [List.forall_mem_cons, ← countP_isUnnamed_insertAll_eq_iff, ← ih, filedParts,
      List.flatMap_cons, List.flatten_cons, List.countP_append, List.countP_append]
    change _ + (filedParts rest).countP isUnnamed = _ ↔ _
    omega

/-- The names stand in the order of their first uses in all parts, and all items without a name
    between them, just if none of these is replaced, neither in its part nor later. -/
theorem names_filedParts_iff (parts : List (List α)) :
    ((empty : KeyedMap α).insertAll (filedParts parts)).values.map Described.name =
        firstUses (parts.flatten.map Described.name) ↔
      (∀ items ∈ parts, KeepsUnnamed items) ∧ KeepsUnnamed (filedParts parts) := by
  constructor
  · intro hnames
    have hcount := congrArg (List.count "") hnames
    rw [count_firstUses] at hcount
    simp only [List.count, List.countP_map] at hcount
    change List.countP isUnnamed _ = List.countP isUnnamed _ at hcount
    have hparts := countP_isUnnamed_filedParts_le parts
    have hall := countP_isUnnamed_insertAll_le (filedParts parts)
    constructor
    · exact (countP_isUnnamed_filedParts_eq_iff parts).mp (by omega)
    · exact (countP_isUnnamed_insertAll_eq_iff (filedParts parts)).mp (by omega)
  · rintro ⟨hparts, hall⟩
    have hnames : (filedParts parts).map Described.name =
        parts.flatMap fun items => firstUses (items.map Described.name) := by
      rw [filedParts, List.map_flatMap]
      exact List.flatMap_congr fun items hitems => names_insertAll (hparts items hitems)
    rw [names_insertAll hall, hnames, firstUses_flatMap, List.map_flatten, List.flatMap_def]

end Description.KeyedMap

end ControlPoint
