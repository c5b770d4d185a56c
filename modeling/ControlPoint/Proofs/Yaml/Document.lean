import Mathlib
import ControlPoint.Proofs.Yaml.Same

/-!
Documents that can be read have no mapping in which two keys count as one.
-/

namespace ControlPoint.Yaml

namespace Value

theorem hasDistinctKeys_of_parts_eq_nil {v : Value} (hv : v.parts = []) : v.HasDistinctKeys := by
  refine .intro (by simp [hv]) ?_
  rintro entries rfl
  obtain ⟨hkeys, -⟩ := List.append_eq_nil_iff.mp hv
  rw [List.map_eq_nil_iff.mp hkeys]
  exact .nil

theorem hasDistinctKeys_sequence_iff {items : List Value} :
    (sequence items).HasDistinctKeys ↔ ∀ item ∈ items, item.HasDistinctKeys :=
  ⟨fun h _ hitem => h.of_mem_parts hitem, fun h => .intro h (by simp)⟩

theorem hasDistinctKeys_tagged_iff {tag : String} {v : Value} :
    (tagged tag v).HasDistinctKeys ↔ v.HasDistinctKeys :=
  ⟨fun h => h.of_mem_parts (List.mem_singleton_self v),
    fun h => .intro (List.forall_mem_singleton.mpr h) (by simp)⟩

theorem hasDistinctKeys_mapping_iff {entries : Entries} :
    (mapping entries).HasDistinctKeys ↔
      (∀ entry ∈ entries, entry.1.HasDistinctKeys ∧ entry.2.HasDistinctKeys) ∧
        entries.Pairwise fun earlier later => later.1.same earlier.1 = false := by
  constructor
  · intro h
    refine ⟨fun entry hentry => ⟨?_, ?_⟩, ?_⟩
    · exact h.of_mem_parts (key_mem_parts hentry)
    · exact h.of_mem_parts (value_mem_parts hentry)
    · cases h with
      | intro _ distinct => exact distinct entries rfl
  · rintro ⟨hentries, hdistinct⟩
    refine .intro (fun part hpart => ?_) fun _ heq => mapping.inj heq ▸ hdistinct
    rcases List.mem_append.mp hpart with hkey | hvalue
    · obtain ⟨entry, hentry, rfl⟩ := List.mem_map.mp hkey
      exact (hentries entry hentry).1
    · obtain ⟨entry, hentry, rfl⟩ := List.mem_map.mp hvalue
      exact (hentries entry hentry).2

end Value

open Value

/-! ### Scalars -/

theorem parts_of_plainValue? {s : String} {v : Value} (hv : plainValue? s = some v) :
    v.parts = [] := by
  unfold plainValue? at hv
  split at hv
  · obtain rfl := Option.some.inj hv
    rfl
  split at hv
  · obtain rfl := Option.some.inj hv
    rfl
  split at hv
  · split at hv
    · obtain rfl := Option.some.inj hv
      rfl
    · cases hv
  split at hv
  · obtain rfl := Option.some.inj hv
    rfl
  · obtain rfl := Option.some.inj hv
    cases real? s <;> rfl

theorem parts_of_coreValue? {tag s : String} {v : Value} (hv : coreValue? tag s = some v) :
    v.parts = [] := by
  unfold coreValue? at hv
  split at hv
  · obtain ⟨b, -, rfl⟩ := Option.map_eq_some_iff.mp hv
    rfl
  split at hv
  · obtain ⟨n, -, rfl⟩ := Option.map_eq_some_iff.mp hv
    rfl
  split at hv
  · obtain ⟨x, -, rfl⟩ := Option.map_eq_some_iff.mp hv
    rfl
  split at hv
  · split at hv
    · obtain rfl := Option.some.inj hv
      rfl
    · cases hv
  · obtain rfl := Option.some.inj hv
    rfl

theorem hasDistinctKeys_of_withTag {tag : Option String} {v w : Value} (hv : v.HasDistinctKeys)
    (hw : withTag tag v = some w) : w.HasDistinctKeys := by
  unfold withTag at hw
  split at hw
  · split at hw
    · cases hw
    · obtain rfl := Option.some.inj hw
      exact hasDistinctKeys_tagged_iff.mpr hv
  · obtain rfl := Option.some.inj hw
    exact hv

theorem hasDistinctKeys_of_scalarValue? {tag : Option String} {text : String} {isPlain : Bool}
    {v : Value} (hv : scalarValue? tag text isPlain = some v) : v.HasDistinctKeys := by
  have huntagged {w : Value} (hw : untaggedValue? text isPlain = some w) : w.HasDistinctKeys := by
    unfold untaggedValue? at hw
    split at hw
    · exact hasDistinctKeys_of_parts_eq_nil (parts_of_plainValue? hw)
    · obtain rfl := Option.some.inj hw
      exact hasDistinctKeys_of_parts_eq_nil rfl
  unfold scalarValue? at hv
  split at hv
  · exact huntagged hv
  · split at hv
    · obtain ⟨w, hw, hv⟩ := Option.bind_eq_some_iff.mp hv
      exact hasDistinctKeys_of_withTag (huntagged hw) hv
    · exact hasDistinctKeys_of_parts_eq_nil (parts_of_coreValue? hv)

/-! ### Nodes -/

/-- Whatever comes of the building has the property. -/
def Building.Yields {α : Type} (x : Building α) (P : α → Prop) : Prop :=
  ∀ left a left', x.run left = some (a, left') → P a

namespace Building.Yields

variable {α β : Type} {P : α → Prop} {Q : β → Prop}

theorem bind {x : Building α} {f : α → Building β} (hx : Yields x P)
    (hf : ∀ a, P a → Yields (f a) Q) : Yields (x >>= f) Q := by
  intro left b left' hrun
  rw [StateT.run_bind] at hrun
  obtain ⟨⟨a, between⟩, ha, hb⟩ := Option.bind_eq_some_iff.mp hrun
  exact hf a (hx left a between ha) between b left' hb

theorem pure {a : α} (ha : P a) : Yields (Pure.pure a) P := by
  intro left b left' hrun
  obtain rfl := (Prod.mk.inj (Option.some.inj hrun)).1
  exact ha

theorem failure : Yields (Alternative.failure : Building α) P := by
  intro left a left' hrun
  cases hrun

theorem lift {x : Option α} (hx : ∀ a, x = some a → P a) : Yields (x : Building α) P := by
  intro left a left' hrun
  cases x with
  | none => cases hrun
  | some b =>
    obtain rfl := (Prod.mk.inj (Option.some.inj hrun)).1
    exact hx _ rfl

theorem mapM {f : α → Building β} {items : List α} (hf : ∀ a ∈ items, Yields (f a) Q) :
    Yields (items.mapM f) fun bs => ∀ b ∈ bs, Q b := by
  induction items with
  | nil => exact pure (by simp)
  | cons a rest ih =>
    rw [List.forall_mem_cons] at hf
    rw [List.mapM_cons]
    refine bind hf.1 fun b hb => bind (ih hf.2) fun bs hbs => pure ?_
    exact List.forall_mem_cons.mpr ⟨hb, hbs⟩

theorem foldlM {f : β → α → Building β} {items : List α}
    (hf : ∀ b a, Q b → a ∈ items → Yields (f b a) Q) {b : β} (hb : Q b) :
    Yields (items.foldlM f b) Q := by
  induction items generalizing b with
  | nil => exact pure hb
  | cons a rest ih =>
    rw [List.foldlM_cons]
    refine bind (hf b a hb (List.mem_cons_self ..)) fun next hnext => ih ?_ hnext
    exact fun b a hb ha => hf b a hb (List.mem_cons_of_mem _ ha)

end Building.Yields

theorem hasDistinctKeys_of_addEntry {entries done : Entries} {key value : Value}
    (hentries : (mapping entries).HasDistinctKeys) (hkey : key.HasDistinctKeys)
    (hvalue : value.HasDistinctKeys) (hdone : addEntry entries key value = some done) :
    (mapping done).HasDistinctKeys := by
  unfold addEntry at hdone
  split at hdone
  · cases hdone
  · rename_i hnew
    obtain rfl := Option.some.inj hdone
    rw [hasDistinctKeys_mapping_iff] at hentries ⊢
    simp only [Entries.has, List.any_eq_true, not_exists, not_and, Bool.not_eq_true] at hnew
    refine ⟨List.forall_mem_append.mpr ⟨hentries.1, List.forall_mem_singleton.mpr ⟨hkey, hvalue⟩⟩, ?_⟩
    refine List.pairwise_append.mpr ⟨hentries.2, List.pairwise_singleton .., ?_⟩
    exact fun earlier hearlier later hlater => List.mem_singleton.mp hlater ▸ hnew earlier hearlier

theorem build_zero (anchored : List (Nat × Node)) (n : Node) :
    build anchored 0 n = target anchored n >>= fun n =>
      match n with
      | .scalar _ tag written isPlain => (scalarValue? tag written isPlain : Building Value)
      | _ => failure := by
  -- the recursion is on the depth, which stands beside the node in one match: no equation by `rw`
  delta build
  refine congrArg (target anchored n >>= ·) (funext fun n => ?_)
  cases n <;> rfl

theorem build_succ (anchored : List (Nat × Node)) (depth : Nat) (n : Node) :
    build anchored (depth + 1) n = target anchored n >>= fun n =>
      match n with
      | .scalar _ tag written isPlain => (scalarValue? tag written isPlain : Building Value)
      | .sequence _ tag items => do
        let values ← items.mapM (build anchored depth)
        withTag tag (.sequence values)
      | .mapping _ tag entries => do
        let values ← entries.foldlM (fun (done : Entries) (key, value) => do
          let key ← build anchored depth key
          let value ← build anchored depth value
          addEntry done key value) []
        withTag tag (.mapping values)
      | .reference _ => failure := by
  delta build
  refine congrArg (target anchored n >>= ·) (funext fun n => ?_)
  cases n <;> rfl

theorem yields_build (anchored : List (Nat × Node)) (depth : Nat) (n : Node) :
    (build anchored depth n).Yields HasDistinctKeys := by
  have hany (n : Node) : (target anchored n).Yields fun _ => True := fun _ _ _ _ => trivial
  induction depth generalizing n with
  | zero =>
    rw [build_zero]
    refine (hany n).bind fun n _ => ?_
    cases n with
    | scalar => exact .lift fun _ => hasDistinctKeys_of_scalarValue?
    | _ => exact .failure
  | succ depth ih =>
    rw [build_succ]
    refine (hany n).bind fun n _ => ?_
    cases n with
    | reference => exact .failure
    | scalar => exact .lift fun _ => hasDistinctKeys_of_scalarValue?
    | sequence anchor tag items =>
      refine .bind (.mapM fun item _ => ih item) fun values hvalues => .lift fun _ => ?_
      exact hasDistinctKeys_of_withTag (hasDistinctKeys_sequence_iff.mpr hvalues)
    | mapping anchor tag entries =>
      have hentry (done : Entries) (entry : Node × Node)
          (hdone : (mapping done).HasDistinctKeys) :
          Building.Yields (do
            let key ← build anchored depth entry.1
            let value ← build anchored depth entry.2
            addEntry done key value) fun done => (mapping done).HasDistinctKeys :=
        (ih entry.1).bind fun key hkey => (ih entry.2).bind fun value hvalue =>
          .lift fun _ => hasDistinctKeys_of_addEntry hdone hkey hvalue
      have hnone : (mapping []).HasDistinctKeys := hasDistinctKeys_of_parts_eq_nil rfl
      refine .bind (.foldlM (fun done entry hdone _ => hentry done entry hdone) hnone)
        fun entries hentries => .lift fun _ => ?_
      exact hasDistinctKeys_of_withTag hentries

/-- No document that can be read repeats a key. -/
theorem hasDistinctKeys_of_read? {text : String} {v : Value} (hread : Value.read? text = some v) :
    v.HasDistinctKeys := by
  unfold Value.read? at hread
  obtain ⟨root, -, hread⟩ := Option.bind_eq_some_iff.mp hread
  rw [StateT.run'] at hread
  obtain ⟨⟨w, left⟩, hrun, rfl⟩ := Option.map_eq_some_iff.mp hread
  exact yields_build _ _ root _ w left hrun

end ControlPoint.Yaml
