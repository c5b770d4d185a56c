import Mathlib
import ControlPoint.Proofs.Settings.Keys

/-!
Values given in place. On its way down the setter makes the mappings that are missing, and it may be
refused further down. A way on which a mapping has to be made is never refused, so a change that is
refused leaves no trace, and of changes made one after another exactly the others count.
-/

namespace ControlPoint

open Yaml

namespace Yaml.Entries

/-- To give a key the value that it has changes nothing. -/
theorem insert_of_get?_eq_some {entries : Entries} {key v : Value}
    (hget : get? entries key = some v) : insert entries key v = entries := by
  induction entries with
  | nil => cases hget
  | cons entry rest ih =>
    obtain ⟨k, old⟩ := entry
    rw [get?_cons] at hget
    unfold insert
    by_cases hk : key.same k = true
    · rw [if_pos hk] at hget
      rw [if_pos hk, Option.some.inj hget]
    · rw [if_neg hk] at hget
      rw [if_neg hk, ih hget]

/-- Of two values given to one key, the later one counts. -/
theorem insert_insert_text (entries : Entries) (s : String) (v w : Value) :
    insert (insert entries (.text s) v) (.text s) w = insert entries (.text s) w := by
  induction entries with
  | nil => simp [insert]
  | cons entry rest ih =>
    obtain ⟨k, old⟩ := entry
    by_cases hk : (Value.text s).same k = true
    · simp only [insert, if_pos hk]
    · simp only [insert, if_neg hk, ih]

end Yaml.Entries

namespace Settings

/-! ### The setter in place -/

/-- The entries with a value under a key, and this value. A key without one gets an empty mapping. -/
def enter (entries : Entries) (k : Value) : Entries × Value :=
  match entries.get? k with
  | some inner => (entries, inner)
  | none => (entries.insert k (.mapping []), .mapping [])

/-- Gives a value to a path in place: the document as it is afterwards, and whether the change was
    refused. A mapping that is missing on the way is made before it is known what comes of the rest,
    and nothing takes it back. -/
def assign : KeyPath → Value → Value → Value × Except SetFault Unit
  | [], value, _ => (value, .ok ())
  | [name], value, .mapping entries => (.mapping (Entries.insert entries (key name) value), .ok ())
  | name :: rest, value, .mapping entries =>
    let (entries, inner) := enter entries (key name)
    let (inner, outcome) := assign rest value inner
    (.mapping (entries.insert (key name) inner), outcome)
  | _ :: _, _, document => (document, .error .notMapping)

/-- Nothing is in the way in a mapping without entries. -/
theorem canSet_nil (path : KeyPath) (value : Value) : CanSet path value (.mapping []) := by
  induction path with
  | nil => exact ⟨value, rfl⟩
  | cons name rest ih => exact (canSet_cons name rest value []).mpr ih

/-- A change in place is the change as a whole, or none at all. -/
theorem assign_eq (path : KeyPath) (value document : Value) :
    assign path value document =
      match set path value document with
      | .ok changed => (changed, .ok ())
      | .error fault => (document, .error fault) := by
  induction path generalizing document with
  | nil => rfl
  | cons name rest ih =>
    cases document with
    | mapping entries =>
      cases rest with
      | nil => rfl
      | cons next more =>
        simp only [assign, enter, set]
        cases hget : Entries.get? entries (key name) with
        | some inner =>
          simp only [ih inner, Option.getD_some]
          cases set (next :: more) value inner with
          | ok changed => rfl
          | error fault =>
            dsimp only [bind, Except.bind]
            rw [Entries.insert_of_get?_eq_some hget]
        | none =>
          obtain ⟨changed, hset⟩ := canSet_nil (next :: more) value
          simp only [ih, hset, Option.getD_none, key, Entries.insert_insert_text]
          rfl
    | _ => cases rest <;> rfl

/-! ### When a change is refused -/

/-- On the way to a path stands something that is no mapping. -/
def IsBlocked (path : KeyPath) (document : Value) : Prop :=
  ∃ stop v, stop <+: path ∧ stop ≠ path ∧ find stop document = .ok v ∧
    ∀ entries, v ≠ .mapping entries

theorem not_isBlocked_nil (document : Value) : ¬ IsBlocked [] document := by
  rintro ⟨stop, v, hstop, hproper, -⟩
  exact hproper (List.prefix_nil.mp hstop)

theorem isBlocked_of_not_mapping {path : KeyPath} (hpath : path ≠ []) {document : Value}
    (hdocument : ∀ entries, document ≠ .mapping entries) : IsBlocked path document :=
  ⟨[], document, List.nil_prefix, hpath.symm, rfl, hdocument⟩

/-- Behind the first key, it is the value of that key in which something may be in the way. -/
theorem isBlocked_cons (name : String) (rest : KeyPath) (entries : Entries) :
    IsBlocked (name :: rest) (.mapping entries) ↔
      IsBlocked rest ((Entries.get? entries (key name)).getD (.mapping [])) := by
  simp only [IsBlocked, find, findFrom_eq_ok_iff]
  constructor
  · rintro ⟨stop, v, hstop, hproper, hv, hother⟩
    cases stop with
    | nil => exact absurd (Option.some.inj hv).symm (hother entries)
    | cons first stop =>
      obtain ⟨rfl, hrest⟩ := List.cons_prefix_cons.mp hstop
      rw [lowerPath, List.map_cons, stored?] at hv
      obtain ⟨inner, hinner, hv⟩ := Option.bind_eq_some_iff.mp hv
      rw [key, hinner]
      exact ⟨stop, v, hrest, fun h => hproper (congrArg _ h), hv, hother⟩
  · rintro ⟨stop, v, hstop, hproper, hv, hother⟩
    cases hinner : Entries.get? entries (key name) with
    | none =>
      rw [hinner, Option.getD_none] at hv
      cases stop with
      | nil => exact absurd (Option.some.inj hv).symm (hother [])
      | cons first stop => cases hv
    | some inner =>
      rw [hinner, Option.getD_some] at hv
      refine ⟨name :: stop, v, List.cons_prefix_cons.mpr ⟨rfl, hstop⟩, ?_, ?_, hother⟩
      · exact fun h => hproper (List.cons.inj h).2
      · rw [lowerPath, List.map_cons, stored?, ← key, hinner]
        exact hv

theorem canSet_iff (path : KeyPath) (value document : Value) :
    CanSet path value document ↔ ¬ IsBlocked path document := by
  induction path generalizing document with
  | nil => exact iff_of_true ⟨value, rfl⟩ (not_isBlocked_nil document)
  | cons name rest ih =>
    cases document with
    | mapping entries => rw [canSet_cons, isBlocked_cons, ih]
    | _ =>
      refine iff_of_false (not_canSet_of_not_mapping (by simp) value (by simp)) (not_not.mpr ?_)
      exact isBlocked_of_not_mapping (by simp) (by simp)

/-! ### What a change does -/

/-- The value is found at the path, and at a path that leads elsewhere what was found there, if
    anything. -/
structure Assigned (path : KeyPath) (value before after : Value) : Prop where
  found : find path after = .ok value
  elsewhere : ∀ other, ¬ lowerPath path <+: lowerPath other → ¬ lowerPath other <+: lowerPath path →
    (find other after).toOption = (find other before).toOption

theorem toOption_find (path : KeyPath) (document : Value) :
    (find path document).toOption = stored? (lowerPath path) document := by
  cases hfind : find path document with
  | ok v => exact (findFrom_eq_ok_iff.mp hfind).symm
  | error fault =>
    refine (Option.eq_none_iff_forall_ne_some.mpr fun v hv => ?_).symm
    cases hfind.symm.trans (findFrom_eq_ok_iff.mpr hv)

theorem assigned_of_set {path : KeyPath} {value document changed : Value}
    (hset : set path value document = .ok changed) : Assigned path value document changed where
  found := by
    have hstored := stored?_set_append hset []
    rw [List.append_nil] at hstored
    exact findFrom_eq_ok_iff.mpr hstored
  elsewhere other hbehind hbefore := by
    rw [toOption_find, toOption_find]
    exact stored?_set_elsewhere hset hbehind hbefore

/-! ### Changes one after another -/

theorem assign_fst (path : KeyPath) (value document : Value) :
    (assign path value document).1 = attempt document (path, value) := by
  rw [assign_eq, attempt]
  cases set path value document <;> rfl

/-- The changes that are not refused can be made without the others, and come to the same. -/
theorem foldlM_accepted (changes : List Change) (document : Value) :
    (accepted document changes).foldlM (fun document change => set change.1 change.2 document)
      document = .ok (changes.foldl attempt document) := by
  induction changes generalizing document with
  | nil => rfl
  | cons change rest ih =>
    rw [List.foldl_cons, attempt, accepted]
    cases hset : set change.1 change.2 document with
    | error fault => exact ih document
    | ok changed =>
      dsimp only
      rw [List.foldlM_cons, hset]
      exact ih changed

/-- A change in place is made as a whole unless something that is no mapping is in its way, and then
    the document stays as it is. So settings from the environment leave what the accepted ones among
    them leave. -/
theorem assign_isAtomic (name : String) (rest : KeyPath) (value document : Value) :
    ((¬ IsBlocked (name :: rest) document ∧
        ∃ changed, assign (name :: rest) value document = (changed, .ok ()) ∧
          set (name :: rest) value document = .ok changed ∧
          Assigned (name :: rest) value document changed) ∨
      (IsBlocked (name :: rest) document ∧
        ∃ fault, assign (name :: rest) value document = (document, .error fault) ∧
          set (name :: rest) value document = .error fault)) ∧
    ∀ assignments,
      (overrideAll document assignments).1 =
        (overrideChanges assignments).foldl
          (fun document change => (assign change.1 change.2 document).1) document ∧
      (accepted document (overrideChanges assignments)).foldlM
          (fun document change => set change.1 change.2 document) document =
        .ok (overrideAll document assignments).1 := by
  have hwhole := assign_eq (name :: rest) value document
  have hcan := canSet_iff (name :: rest) value document
  refine ⟨?_, fun assignments => ⟨?_, ?_⟩⟩
  · cases hset : set (name :: rest) value document with
    | ok changed =>
      rw [hset] at hwhole
      exact .inl ⟨hcan.mp ⟨changed, hset⟩, changed, hwhole, rfl, assigned_of_set hset⟩
    | error fault =>
      rw [hset] at hwhole
      have hblocked : IsBlocked (name :: rest) document := by
        refine not_not.mp fun hfree => ?_
        obtain ⟨changed, hchanged⟩ := hcan.mpr hfree
        cases hset.symm.trans hchanged
      exact .inr ⟨hblocked, fault, hwhole, rfl⟩
  · simp only [overrideAll_document, assign_fst]
  · rw [overrideAll_document, foldlM_accepted]

end Settings

end ControlPoint
