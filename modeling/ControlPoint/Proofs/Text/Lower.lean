import Mathlib
import ControlPoint.Text.Lower

/-!
A text in lower case has no upper-case letter left: put in lower case again, it stays as it is.
-/

namespace ControlPoint.Text

/-- The number is that of an upper-case letter of the run. -/
def IsUpperIn (run : Nat × Nat × Nat × Int) (n : Nat) : Prop :=
  run.1 ≤ n ∧ n ≤ run.2.1 ∧ (n - run.1) % run.2.2.1 = 0

/-- The first and the last place of the lower-case letters of a run. -/
def lowerPlaces (run : Nat × Nat × Nat × Int) : Nat × Nat :=
  ((run.1 + run.2.2.2).toNat, (run.2.1 + run.2.2.2).toNat)

/-- No lower-case letter of the run is an upper-case letter of the other run: it lies before or behind
    that, or among its letters in the gaps. -/
def liesApart (run other : Nat × Nat × Nat × Int) : Bool :=
  Nat.blt (lowerPlaces run).2 other.1 || Nat.blt other.2.1 (lowerPlaces run).1 ||
    ((Nat.beq run.2.2.1 2 || Nat.beq run.1 run.2.1) && Nat.beq other.2.2.1 2 &&
      Nat.beq (((lowerPlaces run).1 + other.1) % 2) 1)

/-- The dotted capital `I`, which has no lower-case letter of its own. -/
def dottedI : Char := '\u0130'

/-- A character as a run of its own, without another lower-case letter. -/
def ownRun (c : Char) : Nat × Nat × Nat × Int :=
  (c.toNat, c.toNat, 1, 0)

/-- The runs, and the dotted capital `I` as one more. -/
def upperRuns : List (Nat × Nat × Nat × Int) :=
  ownRun dottedI :: lowerRuns

/-- What is put in place of the sigma and of the dotted capital `I`. -/
def placedLetters : List Char := ['\u03C2', '\u03C3', 'i', '\u0307']

private theorem liesApart_upperRuns :
    ∀ run ∈ placedLetters.map ownRun ++ lowerRuns, ∀ other ∈ upperRuns,
      liesApart run other = true := by
  have hall : ((placedLetters.map ownRun ++ lowerRuns).all fun run =>
      upperRuns.all (liesApart run)) = true := by decide +kernel
  simpa only [List.all_eq_true] using hall

private theorem lowerPlaces_lowerRuns : ∀ run ∈ lowerRuns, 0 ≤ run.1 + run.2.2.2 ∧
    ((lowerPlaces run).2 < 0xD800 ∨
      0xDFFF < (lowerPlaces run).1 ∧ (lowerPlaces run).2 < 0x110000) := by
  decide +kernel

/-- A lower-case letter of a run lies among those. -/
theorem lower_mem_places {run : Nat × Nat × Nat × Int} {n : Nat} (hn : IsUpperIn run n)
    (hlow : 0 ≤ run.1 + run.2.2.2) :
    (lowerPlaces run).1 ≤ (n + run.2.2.2).toNat ∧ (n + run.2.2.2).toNat ≤ (lowerPlaces run).2 ∧
      (run.2.2.1 = 2 ∨ run.1 = run.2.1 →
        ((n + run.2.2.2).toNat - (lowerPlaces run).1) % 2 = 0) := by
  obtain ⟨first, last, step, distance⟩ := run
  obtain ⟨hfirst, hlast, hstep⟩ := hn
  simp only [lowerPlaces] at *
  refine ⟨by omega, by omega, ?_⟩
  rintro (rfl | rfl) <;> omega

theorem not_isUpperIn_of_liesApart {run other : Nat × Nat × Nat × Int} {n : Nat}
    (hapart : liesApart run other = true) (hn : IsUpperIn run n) (hlow : 0 ≤ run.1 + run.2.2.2) :
    ¬ IsUpperIn other (n + run.2.2.2).toNat := by
  obtain ⟨hlo, hhi, heven⟩ := lower_mem_places hn hlow
  rintro ⟨hfirst, hlast, hstep⟩
  simp only [liesApart, Bool.or_eq_true, Bool.and_eq_true, Nat.blt_eq, Nat.beq_eq] at hapart
  rcases hapart with (hbefore | hbehind) | ⟨⟨hrun, hother⟩, hodd⟩
  · omega
  · omega
  · have hplace := heven hrun
    rw [hother] at hstep
    omega

/-- Letters that stay as they are: they are their own lower-case letters, and no exception is made for
    them. -/
def IsSettled (c : Char) : Prop :=
  lowerChar c = c ∧ c ≠ '\u03A3' ∧ c ≠ dottedI

theorem lowerChar_of_not_isUpperIn {c : Char} (hc : ∀ run ∈ lowerRuns, ¬ IsUpperIn run c.toNat) :
    lowerChar c = c := by
  have hnone : lowerRuns.find? (fun run =>
      run.1 ≤ c.toNat && c.toNat ≤ run.2.1 && (c.toNat - run.1) % run.2.2.1 == 0) = none := by
    rw [List.find?_eq_none]
    intro run hrun hfound
    simp only [Bool.and_eq_true, decide_eq_true_eq, beq_iff_eq, and_assoc] at hfound
    exact hc run hrun hfound
  rw [lowerChar, hnone]

/-- A character is its own lower-case letter, or an upper-case letter of a run. -/
theorem lowerChar_cases (c : Char) :
    lowerChar c = c ∨ ∃ run ∈ lowerRuns, IsUpperIn run c.toNat ∧
      lowerChar c = Char.ofNat (c.toNat + run.2.2.2).toNat := by
  simp only [lowerChar]
  split
  · rename_i first last step distance hfound
    have hupper := List.find?_some hfound
    simp only [Bool.and_eq_true, decide_eq_true_eq, beq_iff_eq, and_assoc] at hupper
    exact .inr ⟨_, List.mem_of_find?_eq_some hfound, hupper, rfl⟩
  · exact .inl rfl

theorem isSettled_of_not_isUpperIn {c : Char} (hc : ∀ run ∈ upperRuns, ¬ IsUpperIn run c.toNat) :
    IsSettled c := by
  rw [upperRuns, List.forall_mem_cons] at hc
  have hsame := lowerChar_of_not_isUpperIn hc.2
  refine ⟨hsame, ?_, ?_⟩
  · rintro rfl
    exact absurd hsame (by decide +kernel)
  · rintro rfl
    exact hc.1 ⟨le_refl _, le_refl _, by decide⟩

theorem isSettled_placedLetters : ∀ c ∈ placedLetters, IsSettled c := by
  intro c hc
  apply isSettled_of_not_isUpperIn
  intro other hother
  have hapart := liesApart_upperRuns (ownRun c)
    (List.mem_append_left _ (List.mem_map_of_mem hc)) other hother
  have hupper : IsUpperIn (ownRun c) c.toNat := ⟨le_refl _, le_refl _, Nat.mod_one _⟩
  simpa [ownRun] using not_isUpperIn_of_liesApart hapart hupper (by simp [ownRun])

theorem isSettled_lowerChar {c : Char} (hc : c ≠ dottedI) : IsSettled (lowerChar c) := by
  rcases lowerChar_cases c with hsame | ⟨run, hrun, hupper, heq⟩
  · rw [hsame]
    refine ⟨hsame, ?_, hc⟩
    rintro rfl
    exact absurd hsame (by decide +kernel)
  · obtain ⟨hlow, hvalid⟩ := lowerPlaces_lowerRuns run hrun
    obtain ⟨hlo, hhi, -⟩ := lower_mem_places hupper hlow
    have hnumber : (lowerChar c).toNat = (c.toNat + run.2.2.2).toNat := by
      rw [heq, Char.toNat_ofNat, if_pos (by unfold Nat.isValidChar; omega)]
    apply isSettled_of_not_isUpperIn
    intro other hother
    have hapart := liesApart_upperRuns run (List.mem_append_right _ hrun) other hother
    rw [hnumber]
    exact not_isUpperIn_of_liesApart hapart hupper hlow

theorem isSettled_of_mem_lowerFrom {before cs : List Char} :
    ∀ c ∈ lowerFrom before cs, IsSettled c := by
  induction cs generalizing before with
  | nil => simp [lowerFrom]
  | cons first rest ih =>
    rw [lowerFrom, List.forall_mem_append]
    refine ⟨?_, ih⟩
    have hplaced := isSettled_placedLetters
    simp only [placedLetters, List.forall_mem_cons] at hplaced
    obtain ⟨hfinal, hsigma, hi, hdot, -⟩ := hplaced
    split
    · split
      · simpa using hfinal
      · simpa using hsigma
    · split
      · simpa using ⟨hi, hdot⟩
      · rename_i hdotted
        simp only [List.mem_singleton, forall_eq]
        exact isSettled_lowerChar (by simpa [dottedI] using hdotted)

theorem lowerFrom_of_isSettled {before cs : List Char} (hcs : ∀ c ∈ cs, IsSettled c) :
    lowerFrom before cs = cs := by
  induction cs generalizing before with
  | nil => rfl
  | cons first rest ih =>
    rw [List.forall_mem_cons] at hcs
    obtain ⟨⟨hsame, hsigma, hdotted⟩, hrest⟩ := hcs
    rw [dottedI] at hdotted
    simp [lowerFrom, hsigma, hdotted, hsame, ih hrest]

/-- What is in lower case stays as it is. -/
@[simp] theorem lower_lower (s : String) : lower (lower s) = lower s := by
  rw [lower, lower, String.toList_ofList, lowerFrom_of_isSettled isSettled_of_mem_lowerFrom]

end ControlPoint.Text
