import Mathlib
import ControlPoint.Proofs.Naming.Scope

/-!
Scopes over time. After any sequence of uses a scope has just the names that were reserved or given
out, and the search for a free name ends: the names that are tried are all different under either
case rule, so no more of them can be passed over than names were taken before.
-/

namespace ControlPoint.Naming.Scope

open Text

/-! ### Uses -/

/-- A use of a scope: a name is reserved, or a free name is asked for. -/
inductive Use
  | reserve (name : String)
  | allocate (base : String)
  deriving DecidableEq, Repr

/-- The name that is taken by a use. -/
def Use.taken (s : Scope) : Use → String
  | reserve name => name
  | allocate base => (s.allocate base).1

/-- The scope after a use. -/
def Use.after (s : Scope) : Use → Scope
  | reserve name => s.reserve name
  | allocate base => (s.allocate base).2

/-- The scope after uses one after another. -/
def afterAll (s : Scope) (uses : List Use) : Scope :=
  uses.foldl Use.after s

/-- The names that are reserved or given out by uses one after another. -/
def takenBy (s : Scope) : List Use → List String
  | [] => []
  | u :: rest => u.taken s :: (u.after s).takenBy rest

/-- A use takes its name, whether that was given or searched for. -/
theorem after_eq_reserve (s : Scope) (u : Use) : u.after s = s.reserve (u.taken s) := by
  cases u <;> rfl

theorem afterAll_eq_reserveAll (s : Scope) (uses : List Use) :
    s.afterAll uses = s.reserveAll (s.takenBy uses) := by
  induction uses generalizing s with
  | nil => rfl
  | cons u rest ih =>
    rw [takenBy, reserveAll_cons, ← after_eq_reserve]
    exact ih (u.after s)

theorem length_taken_reserveAll (s : Scope) (names : List String) :
    (s.reserveAll names).taken.length = names.length + s.taken.length := by
  induction names generalizing s with
  | nil => simp
  | cons name rest ih => simp [ih, reserve, Nat.add_assoc, Nat.add_comm 1]

/-! ### The search -/

/-- The name that is tried after `k` others: first the name asked for, then that name with the
    numbers from 2 on. -/
def tried (base : String) : Nat → String
  | 0 => base
  | k + 1 => numbered base (k + 2)

/-- The search for a free name, after `k` names have been tried in vain, ends with a name: with the
    next one if it is free, else with that of the search that goes on behind it. -/
inductive Finds (s : Scope) (base : String) : Nat → String → Prop
  | free {k : Nat} (hfree : s.contains (tried base k) = false) : Finds s base k (tried base k)
  | next {k : Nat} {name : String} (htaken : s.contains (tried base k) = true)
      (hrest : Finds s base (k + 1) name) : Finds s base k name

/-- The search ends in one way at most. -/
theorem Finds.unique {s : Scope} {base name other : String} {k : Nat} (hname : s.Finds base k name)
    (hother : s.Finds base k other) : name = other := by
  induction hname with
  | free hfree =>
    cases hother with
    | free => rfl
    | next htaken => exact absurd htaken (by simp [hfree])
  | next htaken _ ih =>
    cases hother with
    | free hfree => exact absurd htaken (by simp [hfree])
    | next _ hrest => exact ih hrest

/-- A search that passes over nothing but taken names comes to the first free one. -/
theorem finds_of_forall_lt {s : Scope} {base : String} {n : Nat}
    (htaken : ∀ k < n, s.contains (tried base k) = true)
    (hfree : s.contains (tried base n) = false) {k : Nat} (hk : k ≤ n) :
    s.Finds base k (tried base n) := by
  induction hk using Nat.decreasingInduction with
  | self => exact .free hfree
  | of_succ k hk ih => exact .next (htaken k hk) ih

/-- A number makes a name longer. -/
theorem fold_base_ne_numbered (r : CaseRule) (base : String) (n : Nat) :
    r.fold base ≠ r.fold (numbered base n) := by
  intro h
  rw [numbered, CaseRule.fold_append, CaseRule.fold_toString] at h
  have hlength := congrArg (fun name => name.toList.length) h
  have hdigits : (toString n).toList ≠ [] := by
    simp [Nat.toDigits_ne_nil]
  have hpositive := List.length_pos_of_ne_nil hdigits
  simp only [String.toList_append, List.length_append] at hlength
  omega

/-- The names that are tried stay apart under either case rule. -/
theorem fold_tried_injective (r : CaseRule) (base : String) :
    Function.Injective fun k => r.fold (tried base k) := by
  intro i j h
  cases i with
  | zero =>
    cases j with
    | zero => rfl
    | succ j => exact absurd h (fold_base_ne_numbered r base (j + 2))
  | succ i =>
    cases j with
    | zero => exact absurd h.symm (fold_base_ne_numbered r base (i + 2))
    | succ j => simpa using fold_numbered_injective r base h

/-- The name given out is the first free one of those that are tried, and no more are passed over
    than there are taken names. -/
theorem exists_freeName_eq_tried (s : Scope) (base : String) :
    ∃ n ≤ s.taken.length, s.freeName base = tried base n ∧
      ∀ k < n, s.contains (tried base k) = true := by
  have hfirst : ∃ n, s.freeName base = tried base n ∧
      ∀ k < n, s.contains (tried base k) = true := by
    by_cases hbase : s.contains base = true
    · obtain ⟨n, hname, hlo, htaken⟩ := freeName_of_contains hbase
      obtain ⟨m, rfl⟩ := Nat.exists_eq_add_of_le' hlo
      refine ⟨m + 1, hname, fun k hk => ?_⟩
      cases k with
      | zero => exact hbase
      | succ k => exact htaken (k + 2) (by omega) (by omega)
    · exact ⟨0, if_neg hbase, by simp⟩
  obtain ⟨n, hname, htaken⟩ := hfirst
  obtain ⟨m, -, hm, hfree⟩ :=
    exists_notMem_of_injective (fold_tried_injective s.rule base) s.taken 0
  refine ⟨n, ?_, hname, htaken⟩
  by_contra hlarge
  exact hfree (by simpa [contains] using htaken m (by omega))

/-- The search of a scope ends, with the name that is given out. -/
theorem finds_iff (s : Scope) (base name : String) :
    s.Finds base 0 name ↔ name = s.freeName base := by
  obtain ⟨n, -, hname, htaken⟩ := s.exists_freeName_eq_tried base
  have hfree := s.freeName_not_contains base
  rw [hname] at hfree ⊢
  have hfinds := finds_of_forall_lt htaken hfree (Nat.zero_le n)
  constructor
  · intro hother
    exact hother.unique hfinds
  · rintro rfl
    exact hfinds

/-! ### Names given out -/

/-- What a name must be that a scope gives out for another, when the names of a list are taken: the
    search ends with it and nothing else; it is the name asked for if that is free, and has the
    least number from 2 on that makes it free if not; and it is none of the taken names. -/
structure GivesOut (s : Scope) (taken : List String) (base name : String) : Prop where
  ends : ∀ found, s.Finds base 0 found ↔ found = name
  kept : s.contains base = false → name = base
  numbered : s.contains base = true → ∃ n ≤ taken.length + 1,
    IsLeast {k | 2 ≤ k ∧ s.contains (numbered base k) = false} n ∧ name = Scope.numbered base n
  fresh : ∀ other ∈ taken, s.rule.fold name ≠ s.rule.fold other

theorem isLeast_of_freeName_eq {s : Scope} {base : String} {n : Nat} (hlo : 2 ≤ n)
    (hname : s.freeName base = numbered base n)
    (htaken : ∀ k, 2 ≤ k → k < n → s.contains (numbered base k) = true) :
    IsLeast {k | 2 ≤ k ∧ s.contains (numbered base k) = false} n := by
  refine ⟨⟨hlo, hname ▸ s.freeName_not_contains base⟩, ?_⟩
  rintro k ⟨hk, hfree⟩
  by_contra hlt
  simp [htaken k hk (by omega)] at hfree

theorem allocate_givesOut {s : Scope} {taken : List String}
    (hcontains : ∀ name, s.contains name = true ↔
      ∃ other ∈ taken, s.rule.fold name = s.rule.fold other)
    (hlength : s.taken.length = taken.length) (base : String) :
    s.GivesOut taken base (s.allocate base).1 where
  ends found := s.finds_iff base found
  kept hbase := if_neg (by simp [hbase])
  numbered hbase := by
    obtain ⟨n, hn, hname, htaken⟩ := s.exists_freeName_eq_tried base
    cases n with
    | zero =>
      -- the name asked for is not given out where it is taken
      have hfree := s.freeName_not_contains base
      rw [hname] at hfree
      exact absurd hbase (by simp [show s.contains base = false from hfree])
    | succ n =>
      refine ⟨n + 2, by omega, isLeast_of_freeName_eq (by omega) hname fun k hlo hhi => ?_, hname⟩
      obtain ⟨k, rfl⟩ := Nat.exists_eq_add_of_le' hlo
      exact htaken (k + 1) (by omega)
  fresh other hother heq := by
    have hfree := s.freeName_not_contains base
    rw [Bool.eq_false_iff] at hfree
    exact hfree ((hcontains _).mpr ⟨other, hother, heq⟩)

theorem contains_afterAll_iff (rule : CaseRule) (uses : List Use) (name : String) :
    ((empty rule).afterAll uses).contains name = true ↔
      ∃ other ∈ (empty rule).takenBy uses, rule.fold name = rule.fold other := by
  rw [afterAll_eq_reserveAll, contains_reserveAll_iff]
  simp [empty, contains]

/-- After any uses, under either case rule, a scope has just the names that were reserved or given
    out, and for any name that is asked for it gives out what it must. -/
theorem afterAll_givesOut (rule : CaseRule) (uses : List Use) :
    (∀ name, ((empty rule).afterAll uses).contains name = true ↔
      ∃ other ∈ (empty rule).takenBy uses, rule.fold name = rule.fold other) ∧
    ∀ base, ((empty rule).afterAll uses).GivesOut ((empty rule).takenBy uses) base
      (((empty rule).afterAll uses).allocate base).1 := by
  have hrule : ((empty rule).afterAll uses).rule = rule := by
    rw [afterAll_eq_reserveAll, reserveAll_rule]
    rfl
  have hcontains := contains_afterAll_iff rule uses
  have hlength : ((empty rule).afterAll uses).taken.length =
      ((empty rule).takenBy uses).length := by
    rw [afterAll_eq_reserveAll, length_taken_reserveAll]
    rfl
  refine ⟨hcontains, fun base => allocate_givesOut ?_ hlength base⟩
  rwa [hrule]

example : (empty .insensitive).takenBy [.reserve "mode2", .allocate "Mode", .allocate "MODE"] =
    ["mode2", "Mode", "MODE3"] := by decide

end ControlPoint.Naming.Scope
