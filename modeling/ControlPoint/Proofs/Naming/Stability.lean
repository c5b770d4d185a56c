import Mathlib
import ControlPoint.Proofs.Naming.Identifier

/-!
Names are made once. What was made of a text is made into itself again, so a name may be extended,
given out by a scope and made into a name once more by whoever uses it. The two forms of a name
differ in case alone, except where there was nothing to make a name of.
-/

namespace ControlPoint.Naming

open Text

/-- What is made of a text is made of itself. -/
theorem sanitize_sanitize (form : Form) (raw : String) :
    sanitize form (sanitize form raw) = sanitize form raw := by
  cases form with
  | type => exact sanitize_of_isTypeName (sanitize_isTypeName raw)
  | parameter =>
    exact sanitize_of_isLowered (sanitize_isIdentifier .parameter raw) (sanitize_isLowered raw)

/-- The name of a type stays as it is with a word behind it, and only with a word. -/
theorem sanitize_append_eq_iff (raw suffix : String) :
    sanitize .type (sanitize .type raw ++ suffix) = sanitize .type raw ++ suffix ↔
      IsWord suffix := by
  constructor
  · intro hsame
    have hword := (sanitize_isIdentifier .type (sanitize .type raw ++ suffix)).isWord
    rw [hsame] at hword
    intro c hc
    exact hword c (by simp [hc])
  · intro hsuffix
    exact sanitize_of_isTypeName ((sanitize_isTypeName raw).append hsuffix)

/-! ### The two forms -/

/-- An underscore goes before a digit in either case. -/
theorem map_toLower_guardDigit (cs : List Char) :
    (guardDigit cs).map Char.toLower = guardDigit (cs.map Char.toLower) := by
  cases cs with
  | nil => rfl
  | cons c rest =>
    by_cases hc : c.isDigit = true
    · simp [guardDigit, hc, show '_'.toLower = '_' by decide]
    · simp [guardDigit, hc]

/-- The characters of a text that a name can be made of. -/
def wordChars (raw : String) : List Char :=
  raw.toList.filter isWordChar

theorem wordChars_eq_nil_iff (raw : String) :
    wordChars raw = [] ↔ ¬ ∃ c ∈ raw.toList, isWordChar c = true := by
  simp [wordChars]

theorem sanitize_of_wordChars_eq_nil (form : Form) {raw : String} (hnone : wordChars raw = []) :
    sanitize form raw = form.placeholder := by
  have hkept := map_toLower_kept raw.toList
  rw [← wordChars, hnone, List.map_nil, List.map_eq_nil_iff] at hkept
  rw [sanitize, hkept]

/-- Up to its case, a name is made of the same characters in either form. -/
theorem lowerAscii_sanitize (form : Form) {raw : String} (hsome : wordChars raw ≠ []) :
    lowerAscii (sanitize form raw) =
      String.ofList (guardDigit ((wordChars raw).map Char.toLower)) := by
  have hkept := map_toLower_kept raw.toList
  rw [← wordChars] at hkept
  unfold sanitize
  split
  · rename_i hnil
    rw [hnil, List.map_nil, eq_comm, List.map_eq_nil_iff] at hkept
    exact absurd hkept hsome
  · rename_i c cs hcons
    rw [hcons] at hkept
    rw [lowerAscii, String.toList_ofList, map_toLower_guardDigit, map_toLower_shapeHead, hkept]

/-- The forms of a name agree up to case just if there is something to make a name of. -/
theorem sameIgnoringCase_sanitize_iff (raw : String) :
    sameIgnoringCase (sanitize .type raw) (sanitize .parameter raw) = true ↔
      ∃ c ∈ raw.toList, isWordChar c = true := by
  by_cases hnone : wordChars raw = []
  · rw [sanitize_of_wordChars_eq_nil .type hnone, sanitize_of_wordChars_eq_nil .parameter hnone]
    exact iff_of_false (by decide) ((wordChars_eq_nil_iff raw).mp hnone)
  · rw [sameIgnoringCase, lowerAscii_sanitize .type hnone, lowerAscii_sanitize .parameter hnone]
    exact iff_of_true (beq_self_eq_true _)
      (not_not.mp (mt (wordChars_eq_nil_iff raw).mpr hnone))

/-- Making a name is stable: what was made is left as it is in either form; a type's name with a
    text behind it is left as it is just if that text is a word; and the two forms of a name agree
    up to case just if the text has a letter, a digit or an underscore. -/
theorem sanitize_isStable (raw : String) :
    (∀ form, sanitize form (sanitize form raw) = sanitize form raw) ∧
      (∀ suffix, sanitize .type (sanitize .type raw ++ suffix) = sanitize .type raw ++ suffix ↔
        IsWord suffix) ∧
      (sameIgnoringCase (sanitize .type raw) (sanitize .parameter raw) = true ↔
        ∃ c ∈ raw.toList, isWordChar c = true) := by
  refine ⟨fun form => ?stable, fun suffix => ?extended, ?forms⟩
  case stable => exact sanitize_sanitize form raw
  case extended => exact sanitize_append_eq_iff raw suffix
  case forms => exact sameIgnoringCase_sanitize_iff raw

example : sanitize .type ("URI meta" ++ "Data2") = "URIMetaData2" ∧
    sanitize .parameter "URI meta" = "uriMeta" := by decide

end ControlPoint.Naming
