import Mathlib
import ControlPoint.Proofs.Settings.Keys
import ControlPoint.Proofs.Yaml.Document

/-!
Documents laid over one another: what stands where in the merged document, in which order, and that
merging the outcome with what went into it, on either side, changes nothing.
-/

namespace ControlPoint

open Yaml

namespace Yaml

theorem Value.same_eq_false_symm {a b : Value} (ha : a.HasDistinctKeys) (hb : b.HasDistinctKeys)
    (hab : a.same b = false) : b.same a = false := by
  rw [Bool.eq_false_iff] at hab ⊢
  exact fun hba => hab (Value.same_symm hb ha hba)

/-! ### Values under keys -/

/-- The value under keys of any kind, from the outside in. -/
def Value.at? : List Value → Value → Option Value
  | [], v => some v
  | key :: rest, .mapping entries => (Entries.get? entries key).bind (at? rest)
  | _ :: _, _ => none

/-! ### Entries whose keys are told apart -/

namespace Entries

/-- No two keys count as one. -/
structure AreKeyed (entries : Entries) : Prop where
  keys : ∀ entry ∈ entries, entry.1.HasDistinctKeys
  distinct : entries.Pairwise fun earlier later => later.1.same earlier.1 = false

theorem areKeyed_of_hasDistinctKeys {entries : Entries}
    (hentries : (Value.mapping entries).HasDistinctKeys) : entries.AreKeyed := by
  rw [Value.hasDistinctKeys_mapping_iff] at hentries
  exact ⟨fun entry hentry => (hentries.1 entry hentry).1, hentries.2⟩

theorem has_iff {entries : Entries} {key : Value} :
    has entries key = true ↔ ∃ entry ∈ entries, key.same entry.1 = true :=
  List.any_eq_true

theorem has_eq_false_iff {entries : Entries} {key : Value} :
    has entries key = false ↔ get? entries key = none := by
  rw [get?_eq_none, has, List.any_eq_false]
  simp only [Bool.not_eq_true]

theorem has_of_get?_eq_some {entries : Entries} {key v : Value}
    (hget : get? entries key = some v) : has entries key = true := by
  rw [← Bool.not_eq_false, has_eq_false_iff, hget]
  simp

variable {entries : Entries} {key : Value}

theorem AreKeyed.tail {entry : Value × Value} (h : AreKeyed (entry :: entries)) :
    entries.AreKeyed where
  keys := (List.forall_mem_cons.mp h.keys).2
  distinct := (List.pairwise_cons.mp h.distinct).2

theorem AreKeyed.head {entry : Value × Value} (h : AreKeyed (entry :: entries)) :
    entry.1.HasDistinctKeys :=
  h.keys entry (List.mem_cons_self ..)

theorem AreKeyed.get?_head_eq_none {entry : Value × Value} (h : AreKeyed (entry :: entries)) :
    get? entries entry.1 = none := by
  refine get?_eq_none.mpr fun later hlater => ?_
  have hother := (List.pairwise_cons.mp h.distinct).1 later hlater
  exact Value.same_eq_false_symm (h.tail.keys later hlater) h.head hother

theorem AreKeyed.concat (h : entries.AreKeyed) (hkey : key.HasDistinctKeys)
    (hnew : get? entries key = none) (v : Value) : AreKeyed (entries ++ [(key, v)]) where
  keys := List.forall_mem_append.mpr ⟨h.keys, List.forall_mem_singleton.mpr hkey⟩
  distinct := by
    refine List.pairwise_append.mpr ⟨h.distinct, List.pairwise_singleton .., ?_⟩
    intro earlier hearlier later hlater
    rw [List.mem_singleton.mp hlater]
    exact get?_eq_none.mp hnew earlier hearlier

/-- Under a key stands what its own entry gives. -/
theorem AreKeyed.get?_of_mem (h : entries.AreKeyed) {entry : Value × Value}
    (hentry : entry ∈ entries) : get? entries entry.1 = some entry.2 := by
  induction entries with
  | nil => cases hentry
  | cons first rest ih =>
    rw [get?_cons]
    rcases List.mem_cons.mp hentry with rfl | hrest
    · rw [if_pos (Value.same_refl _)]
    · have hother := (List.pairwise_cons.mp h.distinct).1 entry hrest
      rw [if_neg (by simp [hother]), ih h.tail hrest]

theorem has_of_mem {entry : Value × Value} (hentry : entry ∈ entries) :
    has entries entry.1 = true :=
  has_iff.mpr ⟨entry, hentry, Value.same_refl _⟩

/-- Keys that count as one stand for the same. -/
theorem get?_congr {other : Value} (hentries : ∀ entry ∈ entries, entry.1.HasDistinctKeys)
    (hkey : key.HasDistinctKeys) (hother : other.HasDistinctKeys) (hsame : key.same other = true) :
    get? entries key = get? entries other := by
  induction entries with
  | nil => rfl
  | cons first rest ih =>
    rw [List.forall_mem_cons] at hentries
    have hfirst : key.same first.1 = other.same first.1 := by
      rw [Bool.eq_iff_iff]
      exact ⟨Value.same_trans (Value.same_symm hkey hother hsame), Value.same_trans hsame⟩
    rw [get?_cons, get?_cons, hfirst, ih hentries.2]

/-- A key that is there keeps its place when it is given another value. -/
theorem AreKeyed.insert_eq_map (h : entries.AreKeyed) (hkey : key.HasDistinctKeys)
    (hthere : has entries key = true) (v : Value) :
    insert entries key v =
      entries.map fun entry => if key.same entry.1 = true then (entry.1, v) else entry := by
  induction entries with
  | nil => cases hthere
  | cons first rest ih =>
    obtain ⟨k, old⟩ := first
    unfold insert
    rw [List.map_cons]
    by_cases hk : key.same k = true
    · have hrest : ∀ entry ∈ rest, ¬ key.same entry.1 = true := by
        intro entry hentry hsame
        have hback := Value.same_symm hkey (h.tail.keys entry hentry) hsame
        have hother := (List.pairwise_cons.mp h.distinct).1 entry hentry
        rw [Value.same_trans hback hk] at hother
        cases hother
      rw [if_pos hk, if_pos hk, List.map_congr_left fun entry hentry => if_neg (hrest entry hentry),
        List.map_id']
    · have hthere : has rest key = true := by simpa [has, hk] using hthere
      rw [if_neg hk, if_neg hk, ih h.tail hthere]

theorem AreKeyed.insert_keys (h : entries.AreKeyed) (hkey : key.HasDistinctKeys)
    (hthere : has entries key = true) (v : Value) :
    (insert entries key v).map Prod.fst = entries.map Prod.fst := by
  rw [h.insert_eq_map hkey hthere, List.map_map]
  refine List.map_congr_left fun entry _ => ?_
  rw [Function.comp_apply]
  split <;> rfl

theorem hasDistinctKeys_insert {v : Value} (h : (Value.mapping entries).HasDistinctKeys)
    (hkey : key.HasDistinctKeys) (hv : v.HasDistinctKeys) :
    (Value.mapping (insert entries key v)).HasDistinctKeys := by
  rw [Value.hasDistinctKeys_mapping_iff] at h ⊢
  refine ⟨fun entry hentry => ?_, distinct_insert h.2 key v⟩
  rcases mem_insert hentry with rfl | hold | ⟨rfl, old, hold⟩
  · exact ⟨hkey, hv⟩
  · exact h.1 entry hold
  · exact ⟨(h.1 _ hold).1, hv⟩

end Entries

end Yaml

namespace Settings

open Entries

/-! ### One mapping over another -/

/-- The entries of a mapping with another one over it: the old keys in their order, then the new ones
    in theirs. -/
def overlay (lower upper : Entries) : Entries :=
  (lower.map fun entry => (entry.1, (get? upper entry.1).elim entry.2 (merge entry.2))) ++
    upper.filter fun entry => !has lower entry.1

theorem overlay_nil (lower : Entries) : overlay lower [] = lower := by
  simp [overlay, get?]

theorem overlay_keys (lower upper : Entries) :
    (overlay lower upper).map Prod.fst =
      lower.map Prod.fst ++ (upper.map Prod.fst).filter fun key => !has lower key := by
  rw [overlay, List.map_append, List.map_map, List.filter_map]
  rfl

theorem has_congr {entries others : Entries} (hkeys : entries.map Prod.fst = others.map Prod.fst)
    (key : Value) : has entries key = has others key := by
  have hany (entries : Entries) : has entries key = (entries.map Prod.fst).any key.same := by
    rw [List.any_map]
    rfl
  rw [hany, hany, hkeys]

theorem areKeyed_congr {entries others : Entries}
    (hkeys : entries.map Prod.fst = others.map Prod.fst) (h : entries.AreKeyed) :
    others.AreKeyed where
  keys entry hentry := by
    have hmem : entry.1 ∈ entries.map Prod.fst := hkeys ▸ List.mem_map_of_mem hentry
    obtain ⟨other, hother, heq⟩ := List.mem_map.mp hmem
    exact heq ▸ h.keys other hother
  distinct := by
    have hdistinct : (entries.map Prod.fst).Pairwise fun earlier later =>
        later.same earlier = false := List.pairwise_map.mpr h.distinct
    rw [hkeys] at hdistinct
    exact List.pairwise_map.mp hdistinct

variable {lower upper rest : Entries} {k v : Value}

/-- An old key has its value from the first entry of the upper mapping, or before the others go over
    the lower one. -/
theorem overlay_insert (hlower : lower.AreKeyed) (hupper : AreKeyed ((k, v) :: rest)) {old : Value}
    (hold : get? lower k = some old) :
    overlay (lower.insert k (merge old v)) rest = overlay lower ((k, v) :: rest) := by
  have hthere := has_of_get?_eq_some hold
  have hmap := hlower.insert_eq_map hupper.head hthere (merge old v)
  rw [overlay, overlay, List.filter_cons_of_neg (by simp [hthere]), hmap, List.map_map]
  congr 1
  · refine List.map_congr_left fun entry hentry => ?_
    have hentryKey := hlower.keys entry hentry
    rw [Function.comp_apply, get?_cons]
    by_cases hsame : k.same entry.1 = true
    · have hback := Value.same_symm hupper.head hentryKey hsame
      have hvalue : old = entry.2 := by
        rw [← get?_congr hlower.keys hentryKey hupper.head hback, hlower.get?_of_mem hentry] at hold
        exact (Option.some.inj hold).symm
      have hnone : get? rest entry.1 = none := by
        rw [get?_congr hupper.tail.keys hentryKey hupper.head hback]
        exact hupper.get?_head_eq_none
      rw [if_pos hsame, if_pos hback, hnone, hvalue]
      rfl
    · have hback := Value.same_eq_false_symm hupper.head hentryKey (by simpa using hsame)
      rw [if_neg hsame, if_neg (by simp [hback])]
  · refine List.filter_congr fun entry _ => ?_
    rw [← hmap, has_congr (hlower.insert_keys hupper.head hthere _)]

/-- A new key stands behind the old ones, or behind them before the others go over the lower
    mapping. -/
theorem overlay_concat (hlower : lower.AreKeyed) (hupper : AreKeyed ((k, v) :: rest))
    (hnew : get? lower k = none) :
    overlay (lower ++ [(k, v)]) rest = overlay lower ((k, v) :: rest) := by
  rw [overlay, overlay, List.map_append, List.map_singleton, hupper.get?_head_eq_none,
    List.filter_cons_of_pos (by simp [has_eq_false_iff.mpr hnew]), List.append_assoc]
  congr 1
  · refine List.map_congr_left fun entry hentry => ?_
    have hback := Value.same_eq_false_symm hupper.head (hlower.keys entry hentry)
      (get?_eq_none.mp hnew entry hentry)
    rw [get?_cons, if_neg (by simp [hback])]
  · refine congrArg ((k, v) :: ·) (List.filter_congr fun later hlater => ?_)
    have hother := (List.pairwise_cons.mp hupper.distinct).1 later hlater
    simp [has, hother]

/-- The entries of the upper mapping are gone through one by one, but it comes to the same to give
    every old key its value at once and to put all new keys behind. -/
theorem mergeEntries_eq (hlower : lower.AreKeyed) (hupper : upper.AreKeyed) :
    mergeEntries lower upper = overlay lower upper := by
  induction upper generalizing lower with
  | nil => rw [mergeEntries, overlay_nil]
  | cons entry rest ih =>
    obtain ⟨k, v⟩ := entry
    rw [mergeEntries]
    cases hold : get? lower k with
    | some old =>
      have hkeys := hlower.insert_keys hupper.head (has_of_get?_eq_some hold) (merge old v)
      rw [← overlay_insert hlower hupper hold]
      exact ih (areKeyed_congr hkeys.symm hlower) hupper.tail
    | none =>
      rw [← overlay_concat hlower hupper hold]
      exact ih (hlower.concat hupper.head hold v) hupper.tail

theorem areKeyed_overlay (hlower : lower.AreKeyed) (hupper : upper.AreKeyed) :
    (overlay lower upper).AreKeyed := by
  have hold : AreKeyed (lower.map fun entry =>
      (entry.1, (get? upper entry.1).elim entry.2 (merge entry.2))) :=
    areKeyed_congr (by rw [List.map_map]; rfl) hlower
  refine ⟨List.forall_mem_append.mpr ⟨hold.keys, fun entry hentry => ?_⟩,
    List.pairwise_append.mpr ⟨hold.distinct, hupper.distinct.sublist List.filter_sublist, ?_⟩⟩
  · exact hupper.keys entry (List.mem_filter.mp hentry).1
  · intro earlier hearlier later hlater
    obtain ⟨entry, hentry, rfl⟩ := List.mem_map.mp hearlier
    have hnew : has lower later.1 = false := by simpa using (List.mem_filter.mp hlater).2
    exact get?_eq_none.mp (has_eq_false_iff.mp hnew) entry hentry

/-- A key of the upper mapping has its own value over that of the lower one; any other key keeps
    that. -/
theorem get?_overlay (hlower : lower.AreKeyed) (hupper : upper.AreKeyed) {key : Value}
    (hkey : key.HasDistinctKeys) :
    get? (overlay lower upper) key =
      match get? upper key with
      | none => get? lower key
      | some v => some ((get? lower key).elim v (merge · v)) := by
  have hmap : get? (lower.map fun entry =>
      (entry.1, (get? upper entry.1).elim entry.2 (merge entry.2))) key =
        (lower.find? fun entry => key.same entry.1).map fun entry =>
          (get? upper entry.1).elim entry.2 (merge entry.2) := by
    rw [get?, List.find?_map, Option.map_map]
    rfl
  rw [overlay, get?_append, hmap]
  cases hfind : lower.find? fun entry => key.same entry.1 with
  | some entry =>
    have hold : get? lower key = some entry.2 := by rw [get?, hfind, Option.map_some]
    have hsame : key.same entry.1 = true := by simpa using List.find?_some hfind
    have hentryKey := hlower.keys entry (List.mem_of_find?_eq_some hfind)
    rw [hold, get?_congr hupper.keys hkey hentryKey hsame, Option.map_some]
    cases get? upper entry.1 <;> rfl
  | none =>
    have hold : get? lower key = none := by rw [get?, hfind, Option.map_none]
    -- an entry that is found in the upper mapping is new
    have hnew : get? (upper.filter fun entry => !has lower entry.1) key = get? upper key := by
      unfold get?
      rw [List.find?_filter]
      congr 1
      refine List.find?_congr fun entry hentry => ?_
      by_cases hsame : key.same entry.1 = true
      · have hcongr := get?_congr hlower.keys hkey (hupper.keys entry hentry) hsame
        simp [hsame, has_eq_false_iff.mpr (hcongr.symm.trans hold)]
      · simp [hsame]
    rw [Option.map_none, Option.none_or, hnew, hold]
    cases get? upper key <;> rfl

/-! ### One document over another -/

theorem merge_of_not_mapping {lower upper : Value} (hupper : ∀ entries, upper ≠ .mapping entries) :
    merge lower upper = upper := by
  cases upper with
  | mapping entries => exact absurd rfl (hupper entries)
  | _ => rfl

theorem merge_mapping_of_not_mapping {lower : Value} (hlower : ∀ entries, lower ≠ .mapping entries)
    (above : Entries) : merge lower (.mapping above) = .mapping above := by
  cases lower with
  | mapping entries => exact absurd rfl (hlower entries)
  | _ => rfl

variable {below above : Entries}

theorem merge_mapping (hbelow : (Value.mapping below).HasDistinctKeys)
    (habove : (Value.mapping above).HasDistinctKeys) :
    merge (.mapping below) (.mapping above) = .mapping (overlay below above) := by
  rw [merge, mergeEntries_eq (areKeyed_of_hasDistinctKeys hbelow)
    (areKeyed_of_hasDistinctKeys habove)]

theorem hasDistinctKeys_of_get? (h : (Value.mapping below).HasDistinctKeys) {key v : Value}
    (hget : get? below key = some v) : v.HasDistinctKeys := by
  obtain ⟨entry, hentry, rfl⟩ := exists_mem_of_get?_eq_some hget
  exact h.of_mem_parts (Value.value_mem_parts hentry)

theorem hasDistinctKeys_merge {lower upper : Value} (hlower : lower.HasDistinctKeys)
    (hupper : upper.HasDistinctKeys) : (merge lower upper).HasDistinctKeys := by
  induction upper using Value.parts_induction generalizing lower with
  | h upper ih =>
    cases upper with
    | mapping above =>
      cases lower with
      | mapping below =>
        rw [merge_mapping hlower hupper, Value.hasDistinctKeys_mapping_iff]
        have hbelow := Value.hasDistinctKeys_mapping_iff.mp hlower
        have habove := Value.hasDistinctKeys_mapping_iff.mp hupper
        have hkeyed := areKeyed_overlay (areKeyed_of_hasDistinctKeys hlower)
          (areKeyed_of_hasDistinctKeys hupper)
        refine ⟨List.forall_mem_append.mpr ⟨List.forall_mem_map.mpr fun entry hentry => ?_, ?_⟩,
          hkeyed.distinct⟩
        · refine ⟨(hbelow.1 entry hentry).1, ?_⟩
          dsimp only
          cases hv : get? above entry.1 with
          | none => exact (hbelow.1 entry hentry).2
          | some v =>
            obtain ⟨other, hother, rfl⟩ := exists_mem_of_get?_eq_some hv
            exact ih other.2 (Value.value_mem_parts hother) (hbelow.1 entry hentry).2
              (habove.1 other hother).2
        · exact fun entry hentry => habove.1 entry (List.mem_filter.mp hentry).1
      | _ =>
        rw [merge_mapping_of_not_mapping (by simp)]
        exact hupper
    | _ => exact hupper

/-- What stands where the upper document has a value: that, over what the lower one has there. -/
theorem at?_merge_of_some {path : List Value} (hpath : ∀ key ∈ path, key.HasDistinctKeys)
    {lower upper v : Value} (hlower : lower.HasDistinctKeys) (hupper : upper.HasDistinctKeys)
    (hv : upper.at? path = some v) :
    (merge lower upper).at? path = some ((lower.at? path).elim v (merge · v)) := by
  induction path generalizing lower upper with
  | nil =>
    obtain rfl := Option.some.inj hv
    rfl
  | cons key rest ih =>
    rw [List.forall_mem_cons] at hpath
    cases upper with
    | mapping above =>
      obtain ⟨inner, hinner, hv⟩ := Option.bind_eq_some_iff.mp hv
      cases lower with
      | mapping below =>
        rw [merge_mapping hlower hupper, Value.at?, Value.at?,
          get?_overlay (areKeyed_of_hasDistinctKeys hlower) (areKeyed_of_hasDistinctKeys hupper)
            hpath.1, hinner]
        cases hold : get? below key with
        | none => exact hv
        | some old =>
          exact ih hpath.2 (hasDistinctKeys_of_get? hlower hold)
            (hasDistinctKeys_of_get? hupper hinner) hv
      | _ =>
        rw [merge_mapping_of_not_mapping (by simp), Value.at?, hinner]
        exact hv
    | _ => cases hv

/-- Where the upper document has nothing, and nothing on the way either that is no mapping, stands what
    the lower one has there. -/
theorem at?_merge_of_none {path : List Value} (hpath : ∀ key ∈ path, key.HasDistinctKeys)
    {lower upper : Value} (hlower : lower.HasDistinctKeys) (hupper : upper.HasDistinctKeys)
    (hnone : upper.at? path = none)
    (hway : ∀ before, before <+: path → before ≠ path → ∀ v, upper.at? before = some v →
      ∃ entries, v = .mapping entries) :
    (merge lower upper).at? path = lower.at? path := by
  induction path generalizing lower upper with
  | nil => cases hnone
  | cons key rest ih =>
    rw [List.forall_mem_cons] at hpath
    obtain ⟨above, rfl⟩ := hway [] List.nil_prefix (by simp) upper rfl
    cases lower with
    | mapping below =>
      rw [merge_mapping hlower hupper, Value.at?, Value.at?,
        get?_overlay (areKeyed_of_hasDistinctKeys hlower) (areKeyed_of_hasDistinctKeys hupper)
          hpath.1]
      rw [Value.at?] at hnone
      cases hinner : get? above key with
      | none => rfl
      | some inner =>
        rw [hinner] at hnone
        cases hold : get? below key with
        | none => exact hnone
        | some old =>
          refine ih hpath.2 (hasDistinctKeys_of_get? hlower hold)
            (hasDistinctKeys_of_get? hupper hinner) hnone fun before hbefore hne v hv => ?_
          refine hway (key :: before) ((List.prefix_cons_inj key).mpr hbefore) (by simpa using hne) v ?_
          rw [Value.at?, hinner]
          exact hv
    | _ =>
      rw [merge_mapping_of_not_mapping (by simp)]
      exact hnone

/-! ### Merging once more -/

/-- An upper mapping that has nothing new in it changes nothing. -/
theorem overlay_eq_self
    (hold : ∀ entry ∈ lower, (get? upper entry.1).elim entry.2 (merge entry.2) = entry.2)
    (hnew : ∀ entry ∈ upper, has lower entry.1 = true) : overlay lower upper = lower := by
  have hmap : (lower.map fun entry => (entry.1, (get? upper entry.1).elim entry.2 (merge entry.2))) =
      lower := by
    refine (List.map_congr_left fun entry hentry => ?_).trans (List.map_id' lower)
    rw [hold entry hentry]
  rw [overlay, hmap, List.filter_eq_nil_iff.mpr (by simpa using hnew), List.append_nil]

theorem merge_self {v : Value} (hv : v.HasDistinctKeys) : merge v v = v := by
  induction v using Value.parts_induction with
  | h v ih =>
    cases v with
    | mapping entries =>
      have hkeyed := areKeyed_of_hasDistinctKeys hv
      rw [merge_mapping hv hv, overlay_eq_self (fun entry hentry => ?_) fun entry => has_of_mem]
      have hpart := Value.value_mem_parts hentry
      rw [hkeyed.get?_of_mem hentry]
      exact ih entry.2 hpart (hv.of_mem_parts hpart)
    | _ => rfl

/-- A document that already went over the lower one changes nothing any more. -/
theorem merge_merge_right {lower upper : Value} (hlower : lower.HasDistinctKeys)
    (hupper : upper.HasDistinctKeys) : merge (merge lower upper) upper = merge lower upper := by
  induction upper using Value.parts_induction generalizing lower with
  | h upper ih =>
    cases upper with
    | mapping above =>
      cases lower with
      | mapping below =>
        have hbelow := areKeyed_of_hasDistinctKeys hlower
        have habove := areKeyed_of_hasDistinctKeys hupper
        have hover := hasDistinctKeys_merge hlower hupper
        rw [merge_mapping hlower hupper] at hover ⊢
        rw [merge_mapping hover hupper, overlay_eq_self ?old ?new]
        case old =>
          refine List.forall_mem_append.mpr ⟨List.forall_mem_map.mpr fun entry hentry => ?_, ?_⟩
          · dsimp only
            cases hv : get? above entry.1 with
            | none => rfl
            | some v =>
              obtain ⟨other, hother, rfl⟩ := exists_mem_of_get?_eq_some hv
              have hpart := Value.value_mem_parts hother
              exact ih other.2 hpart (hlower.of_mem_parts (Value.value_mem_parts hentry))
                (hupper.of_mem_parts hpart)
          · intro entry hnew
            have hentry := (List.mem_filter.mp hnew).1
            rw [habove.get?_of_mem hentry]
            exact merge_self (hupper.of_mem_parts (Value.value_mem_parts hentry))
        case new =>
          intro entry hentry
          have hget := get?_overlay hbelow habove (habove.keys entry hentry)
          rw [habove.get?_of_mem hentry] at hget
          exact has_of_get?_eq_some hget
      | _ => exact merge_self hupper
    | _ => rfl

/-- Over the lower document once more, what came of the merging is the same again. -/
theorem merge_merge_left {lower upper : Value} (hlower : lower.HasDistinctKeys)
    (hupper : upper.HasDistinctKeys) : merge lower (merge lower upper) = merge lower upper := by
  induction upper using Value.parts_induction generalizing lower with
  | h upper ih =>
    cases upper with
    | mapping above =>
      cases lower with
      | mapping below =>
        have hbelow := areKeyed_of_hasDistinctKeys hlower
        have habove := areKeyed_of_hasDistinctKeys hupper
        have hover := hasDistinctKeys_merge hlower hupper
        rw [merge_mapping hlower hupper] at hover ⊢
        rw [merge_mapping hlower hover]
        refine congrArg Value.mapping (congrArg₂ (· ++ ·) (List.map_congr_left fun entry hentry => ?_) ?_)
        · have hpart := hlower.of_mem_parts (Value.value_mem_parts hentry)
          rw [get?_overlay hbelow habove (hbelow.keys entry hentry), hbelow.get?_of_mem hentry]
          cases hv : get? above entry.1 with
          | none => exact congrArg _ (merge_self hpart)
          | some v =>
            obtain ⟨other, hother, rfl⟩ := exists_mem_of_get?_eq_some hv
            have hpart' := Value.value_mem_parts hother
            exact congrArg _ (ih other.2 hpart' hpart (hupper.of_mem_parts hpart'))
        · -- no key of the lower mapping is new
          rw [overlay, List.filter_append, List.filter_filter, List.filter_eq_nil_iff.mpr]
          · simp
          · rw [List.forall_mem_map]
            intro entry hentry
            simp [has_of_mem hentry]
      | _ => rfl
    | _ => rfl

/-- What is expected of a document that is laid over another one. Keys on the way can be of any kind. -/
structure IsOverlay (lower upper merged : Value) : Prop where
  replaced : ∀ path, (∀ key ∈ path, key.HasDistinctKeys) → ∀ v, upper.at? path = some v →
    (∀ entries, v ≠ .mapping entries) → merged.at? path = some v
  kept : ∀ path, (∀ key ∈ path, key.HasDistinctKeys) → upper.at? path = none →
    (∀ before, before <+: path → before ≠ path → ∀ v, upper.at? before = some v →
      ∃ entries, v = .mapping entries) → merged.at? path = lower.at? path
  ordered : ∀ path, (∀ key ∈ path, key.HasDistinctKeys) → ∀ below above,
    lower.at? path = some (.mapping below) → upper.at? path = some (.mapping above) →
      ∃ entries, merged.at? path = some (.mapping entries) ∧ entries.map Prod.fst =
        below.map Prod.fst ++ (above.map Prod.fst).filter fun key => !has below key
  over_lower : merge lower merged = merged
  under_upper : merge merged upper = merged

theorem hasDistinctKeys_of_at? {path : List Value} {document v : Value}
    (hdocument : document.HasDistinctKeys) (hv : document.at? path = some v) :
    v.HasDistinctKeys := by
  induction path generalizing document with
  | nil => exact Option.some.inj hv ▸ hdocument
  | cons key rest ih =>
    cases document with
    | mapping entries =>
      obtain ⟨inner, hinner, hv⟩ := Option.bind_eq_some_iff.mp hv
      exact ih (hasDistinctKeys_of_get? hdocument hinner) hv
    | _ => cases hv

theorem merge_isOverlay {lower upper : Value} (hlower : lower.HasDistinctKeys)
    (hupper : upper.HasDistinctKeys) : IsOverlay lower upper (merge lower upper) where
  replaced path hpath v hv hleaf := by
    rw [at?_merge_of_some hpath hlower hupper hv]
    cases lower.at? path with
    | none => rfl
    | some old => exact congrArg some (merge_of_not_mapping hleaf)
  kept path hpath hnone hway := at?_merge_of_none hpath hlower hupper hnone hway
  ordered path hpath below above hbelow habove := by
    refine ⟨overlay below above, ?_, overlay_keys below above⟩
    rw [at?_merge_of_some hpath hlower hupper habove, hbelow]
    exact congrArg some (merge_mapping (hasDistinctKeys_of_at? hlower hbelow)
      (hasDistinctKeys_of_at? hupper habove))
  over_lower := merge_merge_left hlower hupper
  under_upper := merge_merge_right hlower hupper

end Settings

end ControlPoint
