/-!
The first free number: a search upwards among candidates of which only finitely many are taken.
-/

namespace ControlPoint.Naming

/-- The first number from `start` on for which `isFree` holds, among `fuel` numbers; the number after
    them if none of them is free. -/
def firstFree (isFree : Nat → Bool) : (fuel : Nat) → (start : Nat) → Nat
  | 0, n => n
  | fuel + 1, n => if isFree n then n else firstFree isFree fuel (n + 1)

theorem le_firstFree (isFree : Nat → Bool) (fuel start : Nat) :
    start ≤ firstFree isFree fuel start := by
  induction fuel generalizing start with
  | zero => exact Nat.le_refl start
  | succ fuel ih =>
    unfold firstFree
    split
    · exact Nat.le_refl start
    · exact Nat.le_of_succ_le (ih (start + 1))

/-- Every number passed over was not free. -/
theorem not_free_of_lt_firstFree (isFree : Nat → Bool) (fuel start n : Nat) (hlo : start ≤ n)
    (hhi : n < firstFree isFree fuel start) : isFree n = false := by
  induction fuel generalizing start with
  | zero => simp only [firstFree] at hhi; omega
  | succ fuel ih =>
    unfold firstFree at hhi
    split at hhi
    · omega
    · rename_i hnot
      by_cases heq : n = start
      · subst heq; simpa using hnot
      · exact ih (start + 1) (by omega) hhi

/-- If one of the numbers that are looked at is free, a free one is found. -/
theorem free_firstFree (isFree : Nat → Bool) (fuel start n : Nat) (hlo : start ≤ n)
    (hhi : n < start + fuel) (hfree : isFree n = true) :
    isFree (firstFree isFree fuel start) = true := by
  induction fuel generalizing start with
  | zero => omega
  | succ fuel ih =>
    unfold firstFree
    split
    · assumption
    · rename_i hnot
      have hne : n ≠ start := by
        intro heq
        exact hnot (heq ▸ hfree)
      exact ih (start + 1) (by omega) (by omega)

end ControlPoint.Naming
