import Mathlib
import ControlPoint.Text.Split

namespace ControlPoint.Text

/-- A cut at the first occurrence of a character that does not come before. -/
theorem cutAt_append {sep : Char} {before : List Char} (hbefore : sep ∉ before)
    (after : List Char) : cutAt sep (before ++ sep :: after) = some (before, after) := by
  induction before with
  | nil => simp [cutAt]
  | cons c rest ih =>
    rw [List.mem_cons, not_or] at hbefore
    simp [cutAt, Ne.symm hbefore.1, ih hbefore.2]

theorem cutAt_eq_none {sep : Char} {cs : List Char} (hcs : sep ∉ cs) : cutAt sep cs = none := by
  induction cs with
  | nil => rfl
  | cons c rest ih =>
    rw [List.mem_cons, not_or] at hcs
    simp [cutAt, Ne.symm hcs.1, ih hcs.2]

theorem eq_append_of_afterStart {start cs rest : List Char}
    (hrest : afterStart start cs = some rest) : cs = start ++ rest := by
  induction start generalizing cs with
  | nil => simpa [afterStart] using hrest
  | cons a as ih =>
    cases cs with
    | nil => simp [afterStart] at hrest
    | cons c cs =>
      rw [afterStart] at hrest
      split at hrest
      · rename_i heq
        rw [List.cons_append, ← ih hrest, eq_of_beq heq]
      · cases hrest

theorem afterStart_append (start rest : List Char) :
    afterStart start (start ++ rest) = some rest := by
  induction start with
  | nil => simp [afterStart]
  | cons c start ih => simpa [afterStart] using ih

theorem afterStart_eq_some_iff {start cs rest : List Char} :
    afterStart start cs = some rest ↔ cs = start ++ rest := by
  refine ⟨eq_append_of_afterStart, ?_⟩
  rintro rfl
  exact afterStart_append start rest

/-- A word does not occur where one of its characters does not. -/
theorem cutAtWord_eq_none {word cs : List Char} {c : Char} (hword : c ∈ word) (hcs : c ∉ cs) :
    cutAtWord word cs = none := by
  induction cs with
  | nil =>
    have hne : word ≠ [] := List.ne_nil_of_mem hword
    simp [cutAtWord, hne]
  | cons first rest ih =>
    have hstart : afterStart word (first :: rest) = none := by
      cases hafter : afterStart word (first :: rest) with
      | none => rfl
      | some after =>
        rw [eq_append_of_afterStart hafter] at hcs
        exact absurd (List.mem_append_left after hword) hcs
    rw [List.mem_cons, not_or] at hcs
    simp [cutAtWord, hstart, ih hcs.2]

/-- A text without the separator is one piece. -/
theorem splitWhere_of_forall_not {p : Char → Bool} {cs : List Char} (hcs : ∀ c ∈ cs, p c = false) :
    splitWhere p cs = [cs] := by
  induction cs with
  | nil => rfl
  | cons c rest ih =>
    rw [List.forall_mem_cons] at hcs
    simp [splitWhere, ih hcs.2, hcs.1]

theorem splitWhere_ne_nil (p : Char → Bool) (cs : List Char) : splitWhere p cs ≠ [] := by
  cases cs with
  | nil => simp [splitWhere]
  | cons c rest =>
    rw [splitWhere]
    split
    · simp
    · split <;> simp

/-- What starts at a separator is cut by itself. -/
theorem splitWhere_append_cons {p : Char → Bool} {sep : Char} (hsep : p sep = true)
    (before after : List Char) :
    splitWhere p (before ++ sep :: after) = splitWhere p before ++ splitWhere p after := by
  induction before with
  | nil =>
    obtain ⟨piece, pieces, hafter⟩ := List.exists_cons_of_ne_nil (splitWhere_ne_nil p after)
    simp [splitWhere, hafter, hsep]
  | cons c rest ih =>
    obtain ⟨piece, pieces, hrest⟩ := List.exists_cons_of_ne_nil (splitWhere_ne_nil p rest)
    rw [List.cons_append, splitWhere, ih, splitWhere, hrest]
    cases hc : p c <;> simp

/-- What has no separator stays with the first piece of what comes after it. -/
theorem splitWhere_append {p : Char → Bool} {before : List Char}
    (hbefore : ∀ c ∈ before, p c = false) (after : List Char) :
    splitWhere p (before ++ after) = (splitWhere p after).modifyHead (before ++ ·) := by
  obtain ⟨piece, pieces, hafter⟩ := List.exists_cons_of_ne_nil (splitWhere_ne_nil p after)
  induction before with
  | nil => simp [hafter]
  | cons c rest ih =>
    rw [List.forall_mem_cons] at hbefore
    rw [List.cons_append, splitWhere, ih hbefore.2, hafter]
    simp [hbefore.1]

/-- No piece has a separator. -/
theorem not_of_mem_splitWhere {p : Char → Bool} {cs : List Char} :
    ∀ piece ∈ splitWhere p cs, ∀ c ∈ piece, p c = false := by
  induction cs with
  | nil => simp [splitWhere]
  | cons c rest ih =>
    obtain ⟨first, others, hrest⟩ := List.exists_cons_of_ne_nil (splitWhere_ne_nil p rest)
    rw [hrest, List.forall_mem_cons] at ih
    rw [splitWhere, hrest]
    cases hc : p c with
    | false => simpa [hc] using ih
    | true => simpa using ih

/-- All pieces are empty just where there is nothing but separators. -/
theorem forall_mem_splitWhere_eq_nil_iff {p : Char → Bool} {cs : List Char} :
    (∀ piece ∈ splitWhere p cs, piece = []) ↔ ∀ c ∈ cs, p c = true := by
  induction cs with
  | nil => simp [splitWhere]
  | cons c rest ih =>
    obtain ⟨first, others, hrest⟩ := List.exists_cons_of_ne_nil (splitWhere_ne_nil p rest)
    rw [hrest, List.forall_mem_cons] at ih
    rw [splitWhere, hrest, List.forall_mem_cons, ← ih]
    cases hc : p c <;> simp

theorem splitChar_of_notMem {sep : Char} {s : String} (hs : sep ∉ s.toList) :
    splitChar sep s = [s] := by
  have hwhole : splitWhere (· == sep) s.toList = [s.toList] :=
    splitWhere_of_forall_not fun c hc => beq_eq_false_iff_ne.mpr fun heq => hs (heq ▸ hc)
  simp [splitChar, hwhole]

theorem splitChar_append_singleton {sep : Char} {first : String} (hfirst : sep ∉ first.toList)
    (rest : String) :
    splitChar sep (first ++ String.singleton sep ++ rest) = first :: splitChar sep rest := by
  have hwhole := splitChar_of_notMem hfirst
  rw [splitChar] at hwhole
  rw [splitChar, String.toList_append, String.toList_append, String.toList_singleton,
    List.append_assoc, List.singleton_append,
    splitWhere_append_cons (p := (· == sep)) (beq_self_eq_true sep), List.map_append, hwhole]
  rfl

/-- The first piece comes before the first separator, and the others are those of what follows it. -/
theorem splitChar_eq_cons_iff {sep : Char} {s first : String} {others : List String} :
    splitChar sep s = first :: others ↔
      sep ∉ first.toList ∧ (others = [] ∧ s = first ∨
        ∃ rest, s = first ++ String.singleton sep ++ rest ∧ splitChar sep rest = others) := by
  constructor
  · intro hsplit
    by_cases hmem : sep ∈ s.toList
    · obtain ⟨before, after, hs, hbefore⟩ := List.eq_append_cons_of_mem hmem
      have hcut : s = String.ofList before ++ String.singleton sep ++ String.ofList after := by
        rw [← String.toList_inj, hs]
        simp
      rw [hcut, splitChar_append_singleton (by simpa using hbefore)] at hsplit
      obtain ⟨rfl, rfl⟩ := List.cons.inj hsplit
      exact ⟨by simpa using hbefore, .inr ⟨_, hcut, rfl⟩⟩
    · rw [splitChar_of_notMem hmem] at hsplit
      obtain ⟨rfl, rfl⟩ := List.cons.inj hsplit
      exact ⟨hmem, .inl ⟨rfl, rfl⟩⟩
  · rintro ⟨hfirst, ⟨rfl, rfl⟩ | ⟨rest, rfl, rfl⟩⟩
    · exact splitChar_of_notMem hfirst
    · exact splitChar_append_singleton hfirst rest

/-- Pieces without the separator come apart again where they were joined. -/
theorem splitChar_intercalate (sep : Char) {pieces : List String} (hne : pieces ≠ [])
    (hpieces : ∀ piece ∈ pieces, sep ∉ piece.toList) :
    splitChar sep (String.intercalate (String.singleton sep) pieces) = pieces := by
  induction pieces with
  | nil => exact absurd rfl hne
  | cons piece rest ih =>
    rw [List.forall_mem_cons] at hpieces
    cases rest with
    | nil => rw [String.intercalate_singleton, splitChar_of_notMem hpieces.1]
    | cons next others =>
      rw [String.intercalate_cons_cons, splitChar_append_singleton hpieces.1,
        ih (List.cons_ne_nil next others) hpieces.2]

end ControlPoint.Text
