import Mathlib
import ControlPoint.Proofs.Lists
import ControlPoint.Yaml.Document

/-!
When two values count as one, and when they are equal. Values count as one whatever the
order of the entries in their mappings. That works both ways because no mapping has two keys that
count as one, which holds of everything that is read.
-/

namespace ControlPoint

/-- If every item has a partner and no two items share one, nothing is left over in a list that is
    not longer. -/
theorem exists_partner_of_length_le {α β : Type} {R : α → β → Prop} {as : List α} {bs : List β}
    (hlength : bs.length ≤ as.length) (hpartner : ∀ a ∈ as, ∃ b ∈ bs, R a b)
    (hown : as.Pairwise fun a a' => ∀ b ∈ bs, R a b → ¬ R a' b) : ∀ b ∈ bs, ∃ a ∈ as, R a b := by
  induction as generalizing bs with
  | nil =>
    obtain rfl := List.length_eq_zero_iff.mp (Nat.le_zero.mp hlength)
    simp
  | cons a rest ih =>
    rw [List.forall_mem_cons] at hpartner
    obtain ⟨hfirst, hown⟩ := List.pairwise_cons.mp hown
    obtain ⟨b, hb, hab⟩ := hpartner.1
    obtain ⟨before, after, rfl⟩ := List.append_of_mem hb
    -- the others have their partners beside that of the first one
    have hother : ∀ a' ∈ rest, ∃ b' ∈ before ++ after, R a' b' := by
      intro a' ha'
      obtain ⟨b', hb', hpair⟩ := hpartner.2 a' ha'
      rcases List.mem_append.mp hb' with hbefore | hafter
      · exact ⟨b', List.mem_append_left _ hbefore, hpair⟩
      · rcases List.mem_cons.mp hafter with rfl | hafter
        · exact absurd hpair (hfirst a' ha' b' hb hab)
        · exact ⟨b', List.mem_append_right _ hafter, hpair⟩
    have hsub : ∀ b' ∈ before ++ after, b' ∈ before ++ b :: after := by
      intro b' hb'
      simp only [List.mem_append, List.mem_cons] at hb' ⊢
      tauto
    have hrest := ih (by simp at hlength ⊢; omega) hother
      (hown.imp fun hne b' hb' => hne b' (hsub b' hb'))
    intro b' hb'
    by_cases hsame : b' ∈ before ++ after
    · obtain ⟨a', ha', hpair⟩ := hrest b' hsame
      exact ⟨a', List.mem_cons_of_mem _ ha', hpair⟩
    · obtain rfl : b' = b := by
        simp only [List.mem_append, List.mem_cons] at hb' hsame
        tauto
      exact ⟨a, List.mem_cons_self .., hab⟩

namespace Yaml

open Number

namespace Value

/-! ### Parts -/

/-- The values of which a value is made. -/
def parts : Value → List Value
  | sequence items => items
  | mapping entries => entries.map Prod.fst ++ entries.map Prod.snd
  | tagged _ v => [v]
  | _ => []

theorem sizeOf_lt_of_mem_parts {v part : Value} (hpart : part ∈ v.parts) :
    sizeOf part < sizeOf v := by
  cases v with
  | sequence items =>
    have hsmaller : sizeOf part < sizeOf items := List.sizeOf_lt_of_mem hpart
    simp only [sequence.sizeOf_spec]
    omega
  | mapping entries =>
    simp only [mapping.sizeOf_spec]
    rcases List.mem_append.mp hpart with hkey | hvalue
    · obtain ⟨⟨k, w⟩, hentry, rfl⟩ := List.mem_map.mp hkey
      have hsmaller := List.sizeOf_lt_of_mem hentry
      simp only [Prod.mk.sizeOf_spec] at hsmaller ⊢
      omega
    · obtain ⟨⟨k, w⟩, hentry, rfl⟩ := List.mem_map.mp hvalue
      have hsmaller := List.sizeOf_lt_of_mem hentry
      simp only [Prod.mk.sizeOf_spec] at hsmaller ⊢
      omega
  | tagged tag w =>
    obtain rfl := List.mem_singleton.mp hpart
    simp
  | _ => simp [parts] at hpart

/-- What holds of a value if it holds of its parts holds of all values. -/
theorem parts_induction {P : Value → Prop} (h : ∀ v, (∀ part ∈ v.parts, P part) → P v)
    (v : Value) : P v := by
  induction hsize : sizeOf v using Nat.strong_induction_on generalizing v with
  | h size ih =>
    subst hsize
    exact h v fun part hpart => ih _ (sizeOf_lt_of_mem_parts hpart) part rfl

theorem key_mem_parts {entries : Entries} {entry : Value × Value} (hentry : entry ∈ entries) :
    entry.1 ∈ (mapping entries).parts :=
  List.mem_append_left _ (List.mem_map_of_mem hentry)

theorem value_mem_parts {entries : Entries} {entry : Value × Value} (hentry : entry ∈ entries) :
    entry.2 ∈ (mapping entries).parts :=
  List.mem_append_right _ (List.mem_map_of_mem hentry)

/-- No mapping in the value, be it in a key, has two keys that count as one. -/
inductive HasDistinctKeys : Value → Prop
  | intro {v : Value} (parts : ∀ part ∈ v.parts, HasDistinctKeys part)
    (distinct : ∀ entries, v = .mapping entries →
      entries.Pairwise fun earlier later => later.1.same earlier.1 = false) : HasDistinctKeys v

theorem HasDistinctKeys.of_mem_parts {v part : Value} (hv : v.HasDistinctKeys)
    (hpart : part ∈ v.parts) : part.HasDistinctKeys := by
  cases hv with
  | intro parts _ => exact parts part hpart

/-! ### Values that count as one -/

theorem sequence_same_iff {xs ys : List Value} :
    (sequence xs).same (sequence ys) = true ↔
      xs.length = ys.length ∧ ∀ i (hx : i < xs.length) (hy : i < ys.length),
        xs[i].same ys[i] = true := by
  rw [same]
  induction xs generalizing ys with
  | nil => cases ys <;> simp [sameItems]
  | cons x xs ih =>
    cases ys with
    | nil => simp [sameItems]
    | cons y ys =>
      rw [sameItems, Bool.and_eq_true, ih]
      constructor
      · rintro ⟨hfirst, hlength, hrest⟩
        refine ⟨by simp [hlength], fun i hx hy => ?_⟩
        cases i with
        | zero => exact hfirst
        | succ i => exact hrest i (by simpa using hx) (by simpa using hy)
      · rintro ⟨hlength, hall⟩
        refine ⟨hall 0 (by simp) (by simp), by simpa using hlength, fun i hx hy => ?_⟩
        exact hall (i + 1) (by simpa using hx) (by simpa using hy)

theorem sameEntries_iff {xs ys : Entries} :
    sameEntries xs ys = true ↔
      ∀ x ∈ xs, ∃ y ∈ ys, x.1.same y.1 = true ∧ x.2.same y.2 = true := by
  induction xs with
  | nil => simp [sameEntries]
  | cons x xs ih =>
    rw [sameEntries, Bool.and_eq_true, ih, List.forall_mem_cons, List.any_eq_true]
    simp only [Bool.and_eq_true]

theorem mapping_same_iff {xs ys : Entries} :
    (mapping xs).same (mapping ys) = true ↔
      xs.length = ys.length ∧
        ∀ x ∈ xs, ∃ y ∈ ys, x.1.same y.1 = true ∧ x.2.same y.2 = true := by
  rw [same, Bool.and_eq_true, beq_iff_eq, sameEntries_iff]

theorem sameValue_iff {x y : Binary64} :
    x.sameValue y = true ↔ x.isNaN = y.isNaN ∧ (x.isNaN = false → x.rank = y.rank) := by
  unfold Binary64.sameValue
  cases x.isNaN <;> cases y.isNaN <;> simp

/-- Null, a flag, a whole number or a text. -/
def IsWord : Value → Prop
  | null | flag _ | whole _ | text _ => True
  | _ => False

theorem eq_of_same_of_isWord {a b : Value} (hab : a.same b = true) (ha : a.IsWord) : b = a := by
  cases a with
  | null => cases b <;> simp [same] at hab ⊢
  | flag x => cases b <;> simp [same] at hab ⊢; exact hab.symm
  | whole x => cases b <;> simp [same] at hab ⊢; exact hab.symm
  | text x => cases b <;> simp [same] at hab ⊢; exact hab.symm
  | _ => exact ha.elim

theorem same_refl (v : Value) : v.same v = true := by
  induction v using parts_induction with
  | h v ih =>
    cases v with
    | real x => exact sameValue_iff.mpr ⟨rfl, fun _ => rfl⟩
    | sequence items => exact sequence_same_iff.mpr ⟨rfl, fun i hi _ => ih _ (List.getElem_mem hi)⟩
    | mapping entries =>
      refine mapping_same_iff.mpr ⟨rfl, fun entry hentry => ⟨entry, hentry, ?_, ?_⟩⟩
      · exact ih _ (key_mem_parts hentry)
      · exact ih _ (value_mem_parts hentry)
    | tagged tag w => simp [same, ih w (List.mem_singleton_self w)]
    | _ => simp [same]

theorem same_trans {a b c : Value} (hab : a.same b = true) (hbc : b.same c = true) :
    a.same c = true := by
  induction a using parts_induction generalizing b c with
  | h a ih =>
    cases a with
    | real x =>
      cases b with
      | real y =>
        cases c with
        | real z =>
          obtain ⟨hxy, hxyRank⟩ := sameValue_iff.mp hab
          obtain ⟨hyz, hyzRank⟩ := sameValue_iff.mp hbc
          refine sameValue_iff.mpr ⟨hxy.trans hyz, fun hx => (hxyRank hx).trans (hyzRank ?_)⟩
          rwa [← hxy]
        | _ => simp [same] at hbc
      | _ => simp [same] at hab
    | sequence xs =>
      cases b with
      | sequence ys =>
        cases c with
        | sequence zs =>
          obtain ⟨hxy, hxyItems⟩ := sequence_same_iff.mp hab
          obtain ⟨hyz, hyzItems⟩ := sequence_same_iff.mp hbc
          refine sequence_same_iff.mpr ⟨hxy.trans hyz, fun i hx hz => ?_⟩
          have hy : i < ys.length := hxy ▸ hx
          exact ih _ (List.getElem_mem hx) (hxyItems i hx hy) (hyzItems i hy hz)
        | _ => simp [same] at hbc
      | _ => simp [same] at hab
    | mapping xs =>
      cases b with
      | mapping ys =>
        cases c with
        | mapping zs =>
          obtain ⟨hxy, hxyEntries⟩ := mapping_same_iff.mp hab
          obtain ⟨hyz, hyzEntries⟩ := mapping_same_iff.mp hbc
          refine mapping_same_iff.mpr ⟨hxy.trans hyz, fun x hx => ?_⟩
          obtain ⟨y, hy, hkey, hvalue⟩ := hxyEntries x hx
          obtain ⟨z, hz, hkey', hvalue'⟩ := hyzEntries y hy
          exact ⟨z, hz, ih _ (key_mem_parts hx) hkey hkey', ih _ (value_mem_parts hx) hvalue hvalue'⟩
        | _ => simp [same] at hbc
      | _ => simp [same] at hab
    | tagged tag v =>
      cases b with
      | tagged tag' w =>
        cases c with
        | tagged tag'' u =>
          simp only [same, Bool.and_eq_true, beq_iff_eq] at hab hbc ⊢
          exact ⟨hab.1.trans hbc.1, ih v (List.mem_singleton_self v) hab.2 hbc.2⟩
        | _ => simp [same] at hbc
      | _ => simp [same] at hab
    | null | flag _ | whole _ | text _ =>
      obtain rfl := eq_of_same_of_isWord hab trivial
      exact hbc

/-- Of two mappings of one size without repeated keys, each has the entries of the other as soon as
    the other has those of the first. -/
theorem same_symm {a b : Value} (ha : a.HasDistinctKeys) (hb : b.HasDistinctKeys)
    (hab : a.same b = true) : b.same a = true := by
  induction a using parts_induction generalizing b with
  | h a ih =>
    have hpart {v w : Value} (hv : v ∈ a.parts) (hw : w ∈ b.parts) (hvw : v.same w = true) :
        w.same v = true :=
      ih v hv (ha.of_mem_parts hv) (hb.of_mem_parts hw) hvw
    cases a with
    | real x =>
      cases b with
      | real y =>
        obtain ⟨hnan, hrank⟩ := sameValue_iff.mp hab
        exact sameValue_iff.mpr ⟨hnan.symm, fun hy => (hrank (hnan.trans hy)).symm⟩
      | _ => simp [same] at hab
    | sequence xs =>
      cases b with
      | sequence ys =>
        obtain ⟨hlength, hitems⟩ := sequence_same_iff.mp hab
        refine sequence_same_iff.mpr ⟨hlength.symm, fun i hy hx => ?_⟩
        exact hpart (List.getElem_mem hx) (List.getElem_mem hy) (hitems i hx hy)
      | _ => simp [same] at hab
    | mapping xs =>
      cases b with
      | mapping ys =>
        obtain ⟨hlength, hentries⟩ := mapping_same_iff.mp hab
        have hown : xs.Pairwise fun x x' => ∀ y ∈ ys,
            x.1.same y.1 = true ∧ x.2.same y.2 = true →
              ¬ (x'.1.same y.1 = true ∧ x'.2.same y.2 = true) := by
          cases ha with
          | intro _ distinct =>
            refine (distinct xs rfl).imp_of_mem fun {x x'} hx _ hother y hy hxy hxy' => ?_
            have hback := hpart (key_mem_parts hx) (key_mem_parts hy) hxy.1
            rw [same_trans hxy'.1 hback] at hother
            cases hother
        refine mapping_same_iff.mpr ⟨hlength.symm, fun y hy => ?_⟩
        obtain ⟨x, hx, hkey, hvalue⟩ :=
          exists_partner_of_length_le hlength.ge hentries hown y hy
        exact ⟨x, hx, hpart (key_mem_parts hx) (key_mem_parts hy) hkey,
          hpart (value_mem_parts hx) (value_mem_parts hy) hvalue⟩
      | _ => simp [same] at hab
    | tagged tag v =>
      cases b with
      | tagged tag' w =>
        simp only [same, Bool.and_eq_true, beq_iff_eq] at hab ⊢
        exact ⟨hab.1.symm, hpart (List.mem_singleton_self v) (List.mem_singleton_self w) hab.2⟩
      | _ => simp [same] at hab
    | null | flag _ | whole _ | text _ =>
      obtain rfl := eq_of_same_of_isWord hab trivial
      exact hab

/-! ### Values that are equal -/

mutual

/-- Whether two values are equal, with the entries of mappings in one order. -/
def eqb : Value → Value → Bool
  | null, null => true
  | flag a, flag b => a == b
  | whole a, whole b => a == b
  | real a, real b => a == b
  | text a, text b => a == b
  | sequence xs, sequence ys => eqbItems xs ys
  | mapping xs, mapping ys => eqbEntries xs ys
  | tagged s x, tagged t y => s == t && eqb x y
  | _, _ => false

/-- Whether two lists of values are equal. -/
def eqbItems : List Value → List Value → Bool
  | [], [] => true
  | x :: xs, y :: ys => eqb x y && eqbItems xs ys
  | _, _ => false

/-- Whether two lists of entries are equal. -/
def eqbEntries : List (Value × Value) → List (Value × Value) → Bool
  | [], [] => true
  | (k, v) :: xs, (l, w) :: ys => eqb k l && eqb v w && eqbEntries xs ys
  | _, _ => false

end

theorem eqbItems_iff {xs ys : List Value} (h : ∀ x ∈ xs, ∀ y, x.eqb y = true ↔ x = y) :
    eqbItems xs ys = true ↔ xs = ys := by
  induction xs generalizing ys with
  | nil => cases ys <;> simp [eqbItems]
  | cons x xs ih =>
    rw [List.forall_mem_cons] at h
    cases ys with
    | nil => simp [eqbItems]
    | cons y ys => rw [eqbItems, Bool.and_eq_true, h.1, ih h.2, List.cons.injEq]

theorem eqbEntries_iff {xs ys : Entries}
    (h : ∀ x ∈ xs, ∀ y : Value × Value, (x.1.eqb y.1 = true ↔ x.1 = y.1) ∧
      (x.2.eqb y.2 = true ↔ x.2 = y.2)) : eqbEntries xs ys = true ↔ xs = ys := by
  induction xs generalizing ys with
  | nil => cases ys <;> simp [eqbEntries]
  | cons x xs ih =>
    rw [List.forall_mem_cons] at h
    cases ys with
    | nil => simp [eqbEntries]
    | cons y ys =>
      rw [eqbEntries, Bool.and_eq_true, Bool.and_eq_true, (h.1 y).1, (h.1 y).2, ih h.2,
        List.cons.injEq, Prod.ext_iff]

theorem eqb_iff {a b : Value} : a.eqb b = true ↔ a = b := by
  induction a using parts_induction generalizing b with
  | h a ih =>
    cases a with
    | sequence xs =>
      cases b with
      | sequence ys =>
        have hitems : ∀ x ∈ xs, ∀ y, x.eqb y = true ↔ x = y := fun x hx y => ih x hx
        rw [eqb, eqbItems_iff hitems, sequence.injEq]
      | _ => simp [eqb]
    | mapping xs =>
      cases b with
      | mapping ys =>
        rw [eqb, eqbEntries_iff fun x hx y =>
          ⟨ih x.1 (key_mem_parts hx), ih x.2 (value_mem_parts hx)⟩, mapping.injEq]
      | _ => simp [eqb]
    | tagged tag v =>
      cases b with
      | tagged tag' w => simp [eqb, ih v (List.mem_singleton_self v)]
      | _ => simp [eqb]
    | _ => cases b <;> simp [eqb]

instance : DecidableEq Value := fun _ _ => decidable_of_iff _ eqb_iff

end Value

end Yaml

end ControlPoint
