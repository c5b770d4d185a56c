import Mathlib
import ControlPoint.Naming.Scope
import ControlPoint.Proofs.Lists

namespace ControlPoint.Naming

open Text

theorem lowerAscii_append (a b : String) : lowerAscii (a ++ b) = lowerAscii a ++ lowerAscii b := by
  simp [lowerAscii]

theorem CaseRule.fold_append (r : CaseRule) (a b : String) :
    r.fold (a ++ b) = r.fold a ++ r.fold b := by
  cases r
  · rfl
  · exact lowerAscii_append a b

theorem CaseRule.fold_toString (r : CaseRule) (n : Nat) : r.fold (toString n) = toString n := by
  cases r with
  | sensitive => rfl
  | insensitive =>
    apply String.toList_inj.mp
    simp only [CaseRule.fold, lowerAscii, String.toList_ofList, Nat.toString_eq_ofList_toDigits]
    rw [List.map_congr_left (g := id), List.map_id]
    intro c hc
    have hdigit := Nat.isDigit_of_mem_toDigits (by decide) (by decide) hc
    apply Char.toLower_eq_of_not_isUpper
    simp only [Char.isDigit, Char.isUpper, Bool.and_eq_true, decide_eq_true_eq, ge_iff_le,
      UInt32.le_iff_toNat_le] at hdigit ⊢
    simp at hdigit ⊢
    omega

namespace Scope

/-- Numbered names stay apart under either case rule: numbers have no case. -/
theorem fold_numbered_injective (r : CaseRule) (base : String) {i j : Nat}
    (h : r.fold (numbered base i) = r.fold (numbered base j)) : i = j := by
  simp only [numbered, CaseRule.fold_append, CaseRule.fold_toString] at h
  have hlist := congrArg String.toList h
  simp only [String.toList_append] at hlist
  exact Nat.repr_injective (String.toList_inj.mp (List.append_cancel_left hlist))

@[simp] theorem reserve_rule (s : Scope) (name : String) : (s.reserve name).rule = s.rule := rfl

@[simp] theorem reserveAll_nil (s : Scope) : s.reserveAll [] = s := rfl

@[simp] theorem reserveAll_cons (s : Scope) (name : String) (rest : List String) :
    s.reserveAll (name :: rest) = (s.reserve name).reserveAll rest := rfl

theorem reserveAll_append (s : Scope) (a b : List String) :
    s.reserveAll (a ++ b) = (s.reserveAll a).reserveAll b := by
  simp [reserveAll]

@[simp] theorem reserveAll_rule (s : Scope) (names : List String) :
    (s.reserveAll names).rule = s.rule := by
  induction names generalizing s with
  | nil => rfl
  | cons name rest ih => simp [ih]

theorem contains_reserve_iff (s : Scope) (taken name : String) :
    (s.reserve taken).contains name = true ↔
      s.rule.fold name = s.rule.fold taken ∨ s.contains name = true := by
  simp [contains, reserve]

theorem contains_reserveAll_iff (s : Scope) (taken : List String) (name : String) :
    (s.reserveAll taken).contains name = true ↔
      (∃ t ∈ taken, s.rule.fold name = s.rule.fold t) ∨ s.contains name = true := by
  induction taken generalizing s with
  | nil => simp
  | cons t rest ih =>
    rw [reserveAll_cons, ih, contains_reserve_iff]
    simp only [reserve_rule, List.mem_cons, exists_eq_or_imp, or_assoc, or_left_comm]

/-- Among one number more than there are taken names, one is free. -/
theorem exists_numbered_free (s : Scope) (base : String) :
    ∃ n, 2 ≤ n ∧ n < 2 + (s.taken.length + 1) ∧ s.contains (numbered base n) = false := by
  have hinjective : Function.Injective fun n => s.rule.fold (numbered base n) :=
    fun i j h => fold_numbered_injective s.rule base h
  obtain ⟨n, hlo, hhi, hn⟩ := exists_notMem_of_injective hinjective s.taken 2
  exact ⟨n, hlo, hhi, by simpa [contains] using hn⟩

theorem freeName_not_contains (s : Scope) (base : String) :
    s.contains (s.freeName base) = false := by
  unfold freeName
  split
  · obtain ⟨n, hlo, hhi, hfree⟩ := s.exists_numbered_free base
    simpa using free_firstFree (fun n => !s.contains (numbered base n)) (s.taken.length + 1) 2 n
      hlo hhi (by simpa using hfree)
  · simpa using ‹¬ s.contains base = true›

/-- A name that is taken gets a number, and all lower ones are taken as well. -/
theorem freeName_of_contains {s : Scope} {base : String} (hbase : s.contains base = true) :
    ∃ n, s.freeName base = numbered base n ∧ 2 ≤ n ∧
      ∀ k, 2 ≤ k → k < n → s.contains (numbered base k) = true := by
  refine ⟨_, if_pos hbase, le_firstFree .., fun k hlo hhi => ?_⟩
  simpa using not_free_of_lt_firstFree _ _ 2 k hlo hhi

/-- A scope that knows more gives the same name, unless it knows just that name. -/
theorem freeName_congr {s t : Scope} {base : String}
    (hmore : ∀ name, t.contains name = true → s.contains name = true)
    (hfree : s.contains (t.freeName base) = false) : s.freeName base = t.freeName base := by
  by_cases hbase : t.contains base = true
  · obtain ⟨m, hm, hmlo, hmtaken⟩ := freeName_of_contains (hmore base hbase)
    obtain ⟨n, hn, hnlo, hntaken⟩ := freeName_of_contains hbase
    have hs := s.freeName_not_contains base
    rw [hm] at hs
    rw [hn] at hfree
    -- neither search ends before the other
    have hle : m ≤ n := by
      by_contra hlt
      simp [hmtaken n hnlo (by omega)] at hfree
    have hge : n ≤ m := by
      by_contra hlt
      simp [hmore _ (hntaken m hmlo (by omega))] at hs
    rw [hm, hn, le_antisymm hle hge]
  · have ht : t.freeName base = base := if_neg hbase
    rw [ht] at hfree ⊢
    exact if_neg (by simp [hfree])

/-- The name that is given out is the one asked for, with a number after it or without. -/
theorem freeName_eq (s : Scope) (base : String) :
    ∃ suffix, s.freeName base = base ++ suffix ∧ ∀ c ∈ suffix.toList, c.isDigit = true := by
  unfold freeName
  split
  · refine ⟨_, rfl, fun c hc => ?_⟩
    simp only [Nat.toString_eq_ofList_toDigits, String.toList_ofList] at hc
    exact Nat.isDigit_of_mem_toDigits (by decide) (by decide) hc
  · exact ⟨"", by simp, by simp⟩

/-- Names that are free one after another, each in the scope in which those before it are taken. -/
def Fresh (s : Scope) : List String → Prop
  | [] => True
  | name :: rest => s.contains name = false ∧ (s.reserve name).Fresh rest

theorem fresh_append (s : Scope) (a b : List String) :
    s.Fresh (a ++ b) ↔ s.Fresh a ∧ (s.reserveAll a).Fresh b := by
  induction a generalizing s with
  | nil => simp [Fresh]
  | cons name rest ih => simp [Fresh, ih, and_assoc]

theorem fresh_freeName (s : Scope) (base : String) : s.Fresh [s.freeName base] :=
  ⟨s.freeName_not_contains base, trivial⟩

/-- The names that are given out for the names asked for, one after another. -/
def freeNames (s : Scope) : List String → List String
  | [] => []
  | base :: rest => s.freeName base :: (s.reserve (s.freeName base)).freeNames rest

theorem freeNames_append (s : Scope) (first second : List String) :
    s.freeNames (first ++ second) =
      s.freeNames first ++ (s.reserveAll (s.freeNames first)).freeNames second := by
  induction first generalizing s with
  | nil => rfl
  | cons base rest ih => simp [freeNames, ih]

theorem fresh_freeNames (s : Scope) (bases : List String) : s.Fresh (s.freeNames bases) := by
  induction bases generalizing s with
  | nil => trivial
  | cons base rest ih => exact ⟨s.freeName_not_contains base, ih _⟩

theorem Fresh.not_contains {s : Scope} {names : List String} (hfresh : s.Fresh names) :
    ∀ name ∈ names, s.contains name = false := by
  induction names generalizing s with
  | nil => simp
  | cons first rest ih =>
    obtain ⟨hfirst, hrest⟩ := hfresh
    intro name hname
    rcases List.mem_cons.mp hname with rfl | hname
    · exact hfirst
    · have hlater := ih hrest name hname
      rw [Bool.eq_false_iff] at hlater ⊢
      exact fun h => hlater ((contains_reserve_iff ..).mpr (.inr h))

/-- No two names that were given out are one name under the case rule. -/
theorem Fresh.nodup {s : Scope} {names : List String} (hfresh : s.Fresh names) :
    (names.map s.rule.fold).Nodup := by
  induction names generalizing s with
  | nil => simp
  | cons first rest ih =>
    obtain ⟨_, hrest⟩ := hfresh
    have hdistinct := ih hrest
    rw [reserve_rule] at hdistinct
    refine List.nodup_cons.mpr ⟨?_, hdistinct⟩
    intro hmem
    obtain ⟨name, hname, heq⟩ := List.mem_map.mp hmem
    have hlater := hrest.not_contains name hname
    rw [Bool.eq_false_iff] at hlater
    exact hlater ((contains_reserve_iff ..).mpr (.inl heq))

end Scope

end ControlPoint.Naming
