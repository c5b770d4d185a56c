import Mathlib
import ControlPoint.Settings.Document
import ControlPoint.Proofs.Text.Lower

/-!
Documents of settings: what is found at a path of a document that is laid over another one, and when
a value can be given to a path.
-/

namespace ControlPoint

open Yaml

namespace Yaml

/-! ### Entries under texts -/

@[simp] theorem Value.same_text_iff (v : Value) (s : String) :
    v.same (.text s) = true ↔ v = .text s := by
  cases v <;> simp [Value.same]

@[simp] theorem Value.text_same_iff (s : String) (v : Value) :
    (Value.text s).same v = true ↔ v = .text s := by
  cases v with
  | text t => simpa [Value.same] using eq_comm
  | _ => simp [Value.same]

namespace Entries

theorem get?_cons (k v : Value) (rest : Entries) (key : Value) :
    get? ((k, v) :: rest) key = if key.same k then some v else get? rest key := by
  unfold get?
  rw [List.find?_cons]
  cases key.same k <;> rfl

theorem get?_append (xs ys : Entries) (key : Value) :
    get? (xs ++ ys) key = (get? xs key).or (get? ys key) := by
  unfold get?
  rw [List.find?_append]
  cases xs.find? fun entry => key.same entry.1 <;> rfl

theorem get?_eq_none {entries : Entries} {key : Value} :
    get? entries key = none ↔ ∀ entry ∈ entries, key.same entry.1 = false := by
  simp [get?]

theorem exists_mem_of_get?_eq_some {entries : Entries} {key v : Value}
    (hget : get? entries key = some v) : ∃ entry ∈ entries, entry.2 = v := by
  obtain ⟨entry, hfound, rfl⟩ := Option.map_eq_some_iff.mp hget
  exact ⟨entry, List.mem_of_find?_eq_some hfound, rfl⟩

theorem get?_insert_text (entries : Entries) (s : String) (v : Value) :
    get? (insert entries (.text s) v) (.text s) = some v := by
  induction entries with
  | nil => simp [insert, get?_cons]
  | cons entry rest ih =>
    obtain ⟨k, old⟩ := entry
    unfold insert
    by_cases hk : (Value.text s).same k = true
    · simp [hk, get?_cons]
    · simp [hk, get?_cons, ih]

/-- An entry under another key does not count. -/
theorem get?_insert_of_ne (entries : Entries) {key : Value} {s : String} (hkey : key ≠ .text s)
    (v : Value) : get? (insert entries key v) (.text s) = get? entries (.text s) := by
  have hother : (Value.text s).same key = false := by
    rw [Bool.eq_false_iff, Ne, Value.text_same_iff]
    exact hkey
  induction entries with
  | nil => simp [insert, get?_cons, hother]
  | cons entry rest ih =>
    obtain ⟨k, old⟩ := entry
    unfold insert
    by_cases hk : key.same k = true
    · have hne : (Value.text s).same k = false := by
        rw [Bool.eq_false_iff, Ne, Value.text_same_iff]
        rintro rfl
        exact hkey ((Value.same_text_iff ..).mp hk)
      simp [hk, get?_cons, hne]
    · simp [hk, get?_cons, ih]

/-- A key that is not there yet comes last. -/
theorem insert_eq_append {entries : Entries} {key : Value}
    (hkey : ∀ entry ∈ entries, key.same entry.1 = false) (v : Value) :
    insert entries key v = entries ++ [(key, v)] := by
  induction entries with
  | nil => rfl
  | cons entry rest ih =>
    rw [List.forall_mem_cons] at hkey
    rw [insert, if_neg (by simp [hkey.1]), ih hkey.2]
    rfl

theorem mem_insert {entries : Entries} {key v : Value} {entry : Value × Value}
    (hentry : entry ∈ insert entries key v) :
    entry = (key, v) ∨ entry ∈ entries ∨ entry.2 = v ∧ ∃ old, (entry.1, old) ∈ entries := by
  induction entries with
  | nil => simpa [insert] using hentry
  | cons first rest ih =>
    obtain ⟨k, old⟩ := first
    unfold insert at hentry
    split at hentry
    · rcases List.mem_cons.mp hentry with rfl | hrest
      · exact .inr (.inr ⟨rfl, old, List.mem_cons_self ..⟩)
      · exact .inr (.inl (List.mem_cons_of_mem _ hrest))
    · rcases List.mem_cons.mp hentry with rfl | hrest
      · exact .inr (.inl (List.mem_cons_self ..))
      · rcases ih hrest with hnew | hold | ⟨hv, before, hbefore⟩
        · exact .inl hnew
        · exact .inr (.inl (List.mem_cons_of_mem _ hold))
        · exact .inr (.inr ⟨hv, before, List.mem_cons_of_mem _ hbefore⟩)

/-- Keys that are told apart stay so. -/
theorem distinct_insert {entries : Entries}
    (hdistinct : entries.Pairwise fun earlier later => later.1.same earlier.1 = false)
    (key v : Value) :
    (insert entries key v).Pairwise fun earlier later => later.1.same earlier.1 = false := by
  induction entries with
  | nil => exact List.pairwise_singleton ..
  | cons first rest ih =>
    obtain ⟨k, old⟩ := first
    obtain ⟨hfirst, hrest⟩ := List.pairwise_cons.mp hdistinct
    unfold insert
    split
    · exact List.pairwise_cons.mpr ⟨hfirst, hrest⟩
    · rename_i hnew
      refine List.pairwise_cons.mpr ⟨fun entry hentry => ?_, ih hrest⟩
      rcases mem_insert hentry with rfl | hold | ⟨-, old, hold⟩
      · simpa using hnew
      · exact hfirst entry hold
      · exact hfirst (entry.1, old) hold

end Entries

end Yaml

namespace Settings

/-! ### Keys in lower case -/

@[simp] theorem lowerKey_lowerKey (k : Value) : lowerKey (lowerKey k) = lowerKey k := by
  cases k <;> simp [lowerKey, key]

/-- In all mappings that lie in mappings and sequences alone, keys are in lower case and none is there
    twice. -/
inductive IsLowered : Value → Prop
  | mapping {entries : Entries} (keys : ∀ entry ∈ entries, lowerKey entry.1 = entry.1)
    (values : ∀ entry ∈ entries, IsLowered entry.2)
    (distinct : entries.Pairwise fun earlier later => later.1.same earlier.1 = false) :
    IsLowered (.mapping entries)
  | sequence {items : List Value} (items_lowered : ∀ item ∈ items, IsLowered item) :
    IsLowered (.sequence items)
  | leaf {v : Value} (not_mapping : ∀ entries, v ≠ .mapping entries)
    (not_sequence : ∀ items, v ≠ .sequence items) : IsLowered v

theorem isLowered_mapping_iff {entries : Entries} :
    IsLowered (.mapping entries) ↔
      (∀ entry ∈ entries, lowerKey entry.1 = entry.1) ∧ (∀ entry ∈ entries, IsLowered entry.2) ∧
        entries.Pairwise fun earlier later => later.1.same earlier.1 = false := by
  constructor
  · intro h
    cases h with
    | mapping keys values distinct => exact ⟨keys, values, distinct⟩
    | leaf not_mapping _ => exact absurd rfl (not_mapping entries)
  · rintro ⟨keys, values, distinct⟩
    exact .mapping keys values distinct

theorem isLowered_nil : IsLowered (.mapping []) :=
  .mapping (by simp) (by simp) .nil

theorem isLowered_insert {entries : Entries} {k v : Value} (h : IsLowered (.mapping entries))
    (hk : lowerKey k = k) (hv : IsLowered v) : IsLowered (.mapping (entries.insert k v)) := by
  rw [isLowered_mapping_iff] at h ⊢
  obtain ⟨hkeys, hvalues, hdistinct⟩ := h
  refine ⟨?keys, ?values, ?distinct⟩
  case keys =>
    intro entry hentry
    rcases Entries.mem_insert hentry with rfl | hold | ⟨-, old, hold⟩
    · exact hk
    · exact hkeys entry hold
    · exact hkeys (entry.1, old) hold
  case values =>
    intro entry hentry
    rcases Entries.mem_insert hentry with rfl | hold | ⟨rfl, -⟩
    · exact hv
    · exact hvalues entry hold
    · exact hv
  case distinct => exact Entries.distinct_insert hdistinct k v

theorem isLowered_lowerEntries {entries : List (Value × Value)} {done : Entries}
    (hdone : IsLowered (.mapping done)) (hvalues : ∀ entry ∈ entries, IsLowered (lowerKeys entry.2)) :
    IsLowered (.mapping (lowerEntries done entries)) := by
  induction entries generalizing done with
  | nil => exact hdone
  | cons entry rest ih =>
    rw [List.forall_mem_cons] at hvalues
    rw [lowerEntries]
    exact ih (isLowered_insert hdone (lowerKey_lowerKey _) hvalues.1) hvalues.2

theorem lowerItems_eq (items : List Value) : lowerItems items = items.map lowerKeys := by
  induction items with
  | nil => rfl
  | cons item rest ih => rw [lowerItems, List.map_cons, ih]

theorem isLowered_lowerKeys (v : Value) : IsLowered (lowerKeys v) := by
  induction hsize : sizeOf v using Nat.strong_induction_on generalizing v with
  | h size ih =>
    subst hsize
    cases v with
    | mapping entries =>
      rw [lowerKeys]
      refine isLowered_lowerEntries isLowered_nil fun entry hentry => ih _ ?_ entry.2 rfl
      have hsmaller := List.sizeOf_lt_of_mem hentry
      obtain ⟨k, v⟩ := entry
      simp only [Prod.mk.sizeOf_spec, Value.mapping.sizeOf_spec] at hsmaller ⊢
      omega
    | sequence items =>
      rw [lowerKeys, lowerItems_eq]
      refine .sequence (List.forall_mem_map.mpr fun item hitem => ih _ ?_ item rfl)
      have hsmaller := List.sizeOf_lt_of_mem hitem
      simp only [Value.sequence.sizeOf_spec]
      omega
    | _ => exact .leaf (by simp [lowerKeys]) (by simp [lowerKeys])

theorem lowerEntries_of_distinct {entries : List (Value × Value)} {done : Entries}
    (hkeys : ∀ entry ∈ entries, lowerKey entry.1 = entry.1)
    (hvalues : ∀ entry ∈ entries, lowerKeys entry.2 = entry.2)
    (hdistinct : (done ++ entries).Pairwise fun earlier later => later.1.same earlier.1 = false) :
    lowerEntries done entries = done ++ entries := by
  induction entries generalizing done with
  | nil => simp [lowerEntries]
  | cons entry rest ih =>
    obtain ⟨k, v⟩ := entry
    rw [List.forall_mem_cons] at hkeys hvalues
    have hnew : ∀ earlier ∈ done, k.same earlier.1 = false := fun earlier hearlier =>
      (List.pairwise_append.mp hdistinct).2.2 earlier hearlier (k, v) (List.mem_cons_self ..)
    rw [lowerEntries, hkeys.1, hvalues.1, Entries.insert_eq_append hnew, ih hkeys.2 hvalues.2]
    · simp
    · simpa using hdistinct

/-- A document with keys in lower case stays as it is. -/
theorem lowerKeys_of_isLowered {v : Value} (h : IsLowered v) : lowerKeys v = v := by
  induction h with
  | @mapping entries keys _ distinct ih =>
    have hentries : lowerEntries [] entries = [] ++ entries :=
      lowerEntries_of_distinct keys ih distinct
    rw [lowerKeys, hentries, List.nil_append]
  | @sequence items _ ih =>
    rw [lowerKeys, lowerItems_eq, List.map_congr_left ih, List.map_id']
  | @leaf v not_mapping not_sequence =>
    cases v <;> simp [lowerKeys] at *

/-! ### One document over another -/

theorem isLowered_mergeEntries {upper : List (Value × Value)} {lower : Entries}
    (hlower : IsLowered (.mapping lower)) (hkeys : ∀ entry ∈ upper, lowerKey entry.1 = entry.1)
    (hvalues : ∀ entry ∈ upper, IsLowered entry.2)
    (hmerged : ∀ entry ∈ upper, ∀ old, IsLowered old → IsLowered (merge old entry.2)) :
    IsLowered (.mapping (mergeEntries lower upper)) := by
  induction upper generalizing lower with
  | nil => exact hlower
  | cons entry rest ih =>
    obtain ⟨k, v⟩ := entry
    rw [List.forall_mem_cons] at hkeys hvalues hmerged
    rw [mergeEntries]
    split
    · rename_i old hold
      obtain ⟨entry, hentry, rfl⟩ := Entries.exists_mem_of_get?_eq_some hold
      have hentry := (isLowered_mapping_iff.mp hlower).2.1 entry hentry
      exact ih (isLowered_insert hlower hkeys.1 (hmerged.1 _ hentry)) hkeys.2 hvalues.2 hmerged.2
    · rename_i hnone
      rw [← Entries.insert_eq_append (Entries.get?_eq_none.mp hnone)]
      exact ih (isLowered_insert hlower hkeys.1 hvalues.1) hkeys.2 hvalues.2 hmerged.2

theorem isLowered_merge {lower upper : Value} (hlower : IsLowered lower) (hupper : IsLowered upper) :
    IsLowered (merge lower upper) := by
  induction hupper generalizing lower with
  | @mapping entries keys values distinct ih =>
    cases lower with
    | mapping below =>
      rw [merge]
      exact isLowered_mergeEntries hlower keys values fun entry hentry old hold => ih entry hentry hold
    | _ => exact .mapping keys values distinct
  | @sequence items hitems _ => 
    rw [merge]
    · exact .sequence hitems
    · simp
  | @leaf v not_mapping not_sequence =>
    rw [merge]
    · exact .leaf not_mapping not_sequence
    · exact fun entries => not_mapping entries

/-- A key of the upper mapping has its own value over that of the lower one; any other key keeps
    that. -/
theorem get?_mergeEntries {upper : List (Value × Value)} (lower : Entries) (s : String)
    (hdistinct : upper.Pairwise fun earlier later => later.1.same earlier.1 = false) :
    Entries.get? (mergeEntries lower upper) (.text s) =
      match Entries.get? upper (.text s) with
      | none => Entries.get? lower (.text s)
      | some v => some ((Entries.get? lower (.text s)).elim v (merge · v)) := by
  induction upper generalizing lower with
  | nil => rfl
  | cons entry rest ih =>
    obtain ⟨k, v⟩ := entry
    obtain ⟨hfirst, hrest⟩ := List.pairwise_cons.mp hdistinct
    rw [mergeEntries, Entries.get?_cons]
    by_cases hk : k = .text s
    · subst hk
      have hnone : Entries.get? rest (.text s) = none := by
        rw [Entries.get?_eq_none]
        intro later hlater
        have hother := hfirst later hlater
        rw [Bool.eq_false_iff, Ne, Value.same_text_iff] at hother
        rwa [Bool.eq_false_iff, Ne, Value.text_same_iff]
      rw [if_pos (by simp)]
      cases hlower : Entries.get? lower (.text s) with
      | none =>
        rw [ih _ hrest, hnone]
        simp [Entries.get?_append, hlower, Entries.get?_cons]
      | some old =>
        rw [ih _ hrest, hnone]
        simp [Entries.get?_insert_text]
    · have hother : ¬ (Value.text s).same k = true := by simpa using hk
      rw [if_neg hother]
      cases hlower : Entries.get? lower k with
      | none =>
        rw [ih _ hrest, Entries.get?_append, Entries.get?_cons, if_neg hother]
        simp [Entries.get?]
      | some old => rw [ih _ hrest, Entries.get?_insert_of_ne _ hk]

/-- What is found where the lower document has a value: over that, what the upper one has there; that
    alone where a key is missing in the upper one; and nothing where the upper one has something in
    the way that is no mapping. -/
theorem findFrom_merge {before path : KeyPath} {lower upper v : Value} (hupper : IsLowered upper)
    (hlower : findFrom before path lower = .ok v) :
    findFrom before path (merge lower upper) =
      match findFrom before path upper with
      | .ok above => .ok (merge v above)
      | .error (.missing _) => .ok v
      | .error (.notMapping stop) => .error (.notMapping stop) := by
  induction path generalizing before lower upper with
  | nil =>
    obtain rfl := Except.ok.inj hlower
    rfl
  | cons name rest ih =>
    cases lower with
    | mapping entries =>
      cases upper with
      | mapping above =>
        obtain ⟨-, hvalues, hdistinct⟩ := isLowered_mapping_iff.mp hupper
        rw [findFrom] at hlower
        split at hlower
        · rename_i old hold
          rw [merge, findFrom, findFrom, key, get?_mergeEntries entries _ hdistinct]
          rw [key] at hold
          rw [hold]
          cases habove : Entries.get? above (.text (Text.lower name)) with
          | none => exact hlower
          | some inner =>
            obtain ⟨entry, hentry, rfl⟩ := Entries.exists_mem_of_get?_eq_some habove
            exact ih (hvalues entry hentry) hlower
        · cases hlower
      | _ => rfl
    | _ => cases hlower

theorem find_merge {path : KeyPath} {lower upper v : Value} (hupper : IsLowered upper)
    (hlower : find path lower = .ok v) :
    find path (merge lower upper) =
      match find path upper with
      | .ok above => .ok (merge v above)
      | .error (.missing _) => .ok v
      | .error (.notMapping stop) => .error (.notMapping stop) :=
  findFrom_merge hupper hlower

/-! ### Giving values -/

/-- A value can be given to a path. -/
def CanSet (path : KeyPath) (value document : Value) : Prop :=
  ∃ changed, set path value document = .ok changed

theorem canSet_cons (name : String) (rest : KeyPath) (value : Value) (entries : Entries) :
    CanSet (name :: rest) value (.mapping entries) ↔
      CanSet rest value ((Entries.get? entries (key name)).getD (.mapping [])) := by
  unfold CanSet
  rw [set]
  cases set rest value ((Entries.get? entries (key name)).getD (.mapping [])) with
  | ok inner => simp
  | error fault => simp

theorem not_canSet_of_not_mapping {path : KeyPath} (hpath : path ≠ []) (value : Value)
    {document : Value} (hdocument : ∀ entries, document ≠ .mapping entries) :
    ¬ CanSet path value document := by
  rintro ⟨changed, hset⟩
  obtain ⟨name, rest, rfl⟩ := List.exists_cons_of_ne_nil hpath
  cases document with
  | mapping entries => exact hdocument entries rfl
  | _ => cases hset

/-- Behind a value that is there, it is this value that decides. -/
theorem canSet_append_of_findFrom {before path : KeyPath} {document v : Value}
    (hfind : findFrom before path document = .ok v) (rest : KeyPath) (value : Value) :
    CanSet (path ++ rest) value document ↔ CanSet rest value v := by
  induction path generalizing before document with
  | nil =>
    obtain rfl := Except.ok.inj hfind
    rfl
  | cons name more ih =>
    cases document with
    | mapping entries =>
      rw [findFrom] at hfind
      split at hfind
      · rename_i inner hinner
        rw [List.cons_append, canSet_cons, hinner]
        exact ih hfind
      · cases hfind
    | _ => cases hfind

/-- Behind something in the way, no value can be given. -/
theorem not_canSet_of_findFrom {before path stop : KeyPath} {document : Value}
    (hfind : findFrom before path document = .error (.notMapping stop)) (rest : KeyPath)
    (value : Value) : ¬ CanSet (path ++ rest) value document := by
  induction path generalizing before document with
  | nil => cases hfind
  | cons name more ih =>
    cases document with
    | mapping entries =>
      rw [findFrom] at hfind
      split at hfind
      · rename_i inner hinner
        rw [List.cons_append, canSet_cons, hinner]
        exact ih hfind
      · cases hfind
    | _ => exact not_canSet_of_not_mapping (by simp) value (by simp)

end Settings

end ControlPoint
