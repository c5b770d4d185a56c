import Mathlib
import ControlPoint.Text.Decimal

namespace ControlPoint.Text

/-- A text that gives a number in decimal: ASCII digits, at least one, with a plus sign before them
    or without. -/
def IsDecimal (s : String) (n : Nat) : Prop :=
  ∃ digits : List Char, digits ≠ [] ∧ (∀ c ∈ digits, c.isDigit = true) ∧
    (s.toList = digits ∨ s.toList = '+' :: digits) ∧ Nat.ofDigitChars 10 digits 0 = n

theorem digits?_eq_some_iff {cs : List Char} {n : Nat} :
    digits? cs = some n ↔
      cs ≠ [] ∧ (∀ c ∈ cs, c.isDigit = true) ∧ Nat.ofDigitChars 10 cs 0 = n := by
  simp [digits?, and_assoc]

theorem isDecimal_iff_of_plus {s : String} {rest : List Char} (hs : s.toList = '+' :: rest)
    {n : Nat} : IsDecimal s n ↔ digits? rest = some n := by
  rw [digits?_eq_some_iff]
  constructor
  · rintro ⟨digits, hne, hdigits, hwritten | hwritten, hvalue⟩
    · -- a plus sign is no digit
      rw [hs] at hwritten
      have hplus := hdigits '+' (hwritten ▸ List.mem_cons_self ..)
      exact absurd hplus (by decide)
    · obtain ⟨-, rfl⟩ := List.cons.inj (hs.symm.trans hwritten)
      exact ⟨hne, hdigits, hvalue⟩
  · rintro ⟨hne, hdigits, hvalue⟩
    exact ⟨rest, hne, hdigits, .inr hs, hvalue⟩

theorem isDecimal_iff_of_not_plus {s : String} (hs : ∀ rest, s.toList ≠ '+' :: rest) {n : Nat} :
    IsDecimal s n ↔ digits? s.toList = some n := by
  rw [digits?_eq_some_iff]
  constructor
  · rintro ⟨digits, hne, hdigits, rfl | hwritten, hvalue⟩
    · exact ⟨hne, hdigits, hvalue⟩
    · exact absurd hwritten (hs digits)
  · rintro ⟨hne, hdigits, hvalue⟩
    exact ⟨s.toList, hne, hdigits, .inl rfl, hvalue⟩

theorem decimalBelow?_eq_some_iff {bound n : Nat} {s : String} :
    decimalBelow? bound s = some n ↔ IsDecimal s n ∧ n < bound := by
  rw [decimalBelow?]
  split
  · rename_i value hvalue
    have hdecimal (m : Nat) : IsDecimal s m ↔ value = m := by
      split at hvalue
      · rw [isDecimal_iff_of_plus ‹_›, hvalue, Option.some.injEq]
      · rw [isDecimal_iff_of_not_plus ‹_›, hvalue, Option.some.injEq]
    rw [hdecimal, Option.ite_none_right_eq_some, Option.some.injEq]
    exact and_comm.trans (and_congr_right fun heq => by rw [heq])
  · rename_i hnone
    have hdecimal (m : Nat) : ¬ IsDecimal s m := by
      split at hnone
      · rw [isDecimal_iff_of_plus ‹_›, hnone]
        simp
      · rw [isDecimal_iff_of_not_plus ‹_›, hnone]
        simp
    simp [hdecimal]

theorem isDecimal_toString (n : Nat) : IsDecimal (toString n) n := by
  refine ⟨Nat.toDigits 10 n, Nat.toDigits_ne_nil, fun c hc => ?_, .inl ?_,
    Nat.ofDigitChars_ten_toDigits⟩
  · exact Nat.isDigit_of_mem_toDigits (by decide) (by decide) hc
  · rw [Nat.toString_eq_ofList_toDigits, String.toList_ofList]

end ControlPoint.Text
