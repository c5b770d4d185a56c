import Mathlib
import ControlPoint.Class.Options
import ControlPoint.Proofs.Language.Usable
import ControlPoint.Proofs.Text.Cut

/-!
The namespace of a class can stand in code, as the identifiers do that it is put together of: it comes
apart at its full stops into these identifiers again, whatever the namespace asked for.
-/

namespace ControlPoint

open Naming Text

/-! ### Full stops in names -/

theorem Naming.IsWord.dot_not_mem {text : String} (hword : IsWord text) : '.' ∉ text.toList :=
  fun hdot => absurd (hword '.' hdot) (by decide)

namespace Language

private theorem keyword_dot (l : Language) :
    ∀ word ∈ l.keywords, '.' ∉ (l.caseRule.fold word).toList := by
  cases l <;> decide +kernel

/-- A full stop has no case. -/
theorem dot_mem_fold (l : Language) {name : String} (hdot : '.' ∈ name.toList) :
    '.' ∈ (l.caseRule.fold name).toList := by
  cases l with
  | csharp => exact hdot
  | visualBasic =>
    rw [caseRule, CaseRule.fold, lowerAscii, String.toList_ofList]
    exact List.mem_map.mpr ⟨'.', hdot, by decide⟩

theorem dot_not_mem_of_isKeyword {l : Language} {word : String} (hword : l.isKeyword word = true) :
    '.' ∉ word.toList := by
  obtain ⟨reserved, hreserved, hsame⟩ := List.any_eq_true.mp hword
  intro hdot
  apply keyword_dot l reserved hreserved
  rw [eq_of_beq hsame]
  exact l.dot_mem_fold hdot

theorem dot_not_mem_escapeReserved {l : Language} {word : String}
    (hword : l.isKeyword word = true) : '.' ∉ (l.escapeReserved word).toList := by
  have hdot := dot_not_mem_of_isKeyword hword
  cases l <;> simpa [escapeReserved] using hdot

/-- What can stand in code as a name has no full stop. -/
theorem IsUsable.dot_not_mem {l : Language} {written : String} (husable : l.IsUsable written) :
    '.' ∉ written.toList := by
  rcases husable with ⟨word, hword, rfl⟩ | ⟨-, hidentifier, -⟩
  · exact dot_not_mem_escapeReserved hword
  · exact hidentifier.isWord.dot_not_mem

/-- An underscore that cannot stand alone has no full stop either. -/
theorem dot_not_mem_identifier (l : Language) (form : Form) (raw : String) :
    '.' ∉ (l.identifier form raw).toList := by
  rw [identifier, escape]
  split
  · exact dot_not_mem_escapeReserved ‹_›
  · exact (sanitize_isIdentifier form raw).isWord.dot_not_mem

/-- The written name is names of types with full stops between them, all of which can stand in
    code. -/
def IsUsableNamespace (l : Language) (written : String) : Prop :=
  ∃ segments, segments ≠ [] ∧ written = String.intercalate "." segments ∧
    ∀ segment ∈ segments, l.IsUsable segment ∧ IsRaised segment

end Language

/-! ### Namespaces -/

namespace Class

/-- The segments asked for: those that are not blank, or the namespace that is taken where there are
    none. -/
def Options.namespaceSegments (o : Options) : List String :=
  let segments := (splitChar '.' o.namespacePath).filter fun segment => !isBlankText segment
  if segments.isEmpty then [defaultNamespace] else segments

theorem Options.namespaceSegments_ne_nil (o : Options) : o.namespaceSegments ≠ [] := by
  rw [namespaceSegments]
  split
  · simp
  · rename_i hsome
    exact fun hnil => hsome (List.isEmpty_iff.mpr hnil)

theorem identifier_defaultNamespace (l : Language) :
    l.identifier .type defaultNamespace = defaultNamespace := by
  cases l <;> decide +kernel

/-- The default is taken for a segment like any other. -/
theorem Options.namespaceName_eq (o : Options) (l : Language) :
    o.namespaceName l = String.intercalate "." (o.namespaceSegments.map (l.identifier .type)) := by
  rw [namespaceName, namespaceSegments]
  split
  · rw [List.map_singleton, identifier_defaultNamespace, String.intercalate_singleton]
  · rfl

/-- The namespace comes apart into the identifiers of its segments. -/
theorem Options.splitChar_namespaceName (o : Options) (l : Language) :
    splitChar '.' (o.namespaceName l) = o.namespaceSegments.map (l.identifier .type) := by
  rw [namespaceName_eq]
  refine splitChar_intercalate '.' ?_ ?_
  · simpa using o.namespaceSegments_ne_nil
  · intro written hwritten
    obtain ⟨segment, -, rfl⟩ := List.mem_map.mp hwritten
    exact l.dot_not_mem_identifier .type segment

/-- A segment that becomes an underscore is not blank, so it is always asked for. -/
theorem Options.forall_not_isLoneUnderscore_iff (o : Options) :
    (∀ segment ∈ o.namespaceSegments, ¬ IsLoneUnderscore segment) ↔
      ∀ segment ∈ splitChar '.' o.namespacePath, ¬ IsLoneUnderscore segment := by
  have hblank {segment : String} (hlone : IsLoneUnderscore segment) :
      isBlankText segment = false := by
    have hmem : '_' ∈ segment.toList.filter isWordChar := by
      rw [hlone]
      exact List.mem_singleton_self '_'
    exact List.all_eq_false.mpr ⟨'_', List.mem_of_mem_filter hmem, by decide⟩
  have hdefault : ¬ IsLoneUnderscore defaultNamespace := by decide
  rw [namespaceSegments]
  split
  · rename_i hnone
    have hempty := List.filter_eq_nil_iff.mp (List.isEmpty_iff.mp hnone)
    refine iff_of_true (by simpa using hdefault) fun segment hsegment hlone => ?_
    exact hempty segment hsegment (by simp [hblank hlone])
  · constructor
    · intro hall segment hsegment hlone
      exact hall segment (List.mem_filter.mpr ⟨hsegment, by simp [hblank hlone]⟩) hlone
    · exact fun hall segment hsegment => hall segment (List.mem_of_mem_filter hsegment)

theorem Options.isUsableNamespace_iff (o : Options) (l : Language) :
    l.IsUsableNamespace (o.namespaceName l) ↔
      ∀ segment ∈ o.namespaceSegments, l.IsUsable (l.identifier .type segment) := by
  constructor
  · rintro ⟨written, hne, heq, husable⟩ segment hsegment
    have hsplit := o.splitChar_namespaceName l
    rw [heq] at hsplit
    have hwritten := splitChar_intercalate '.' hne fun name hname =>
      (husable name hname).1.dot_not_mem
    rw [show String.singleton '.' = "." from rfl, hsplit] at hwritten
    exact (husable _ (hwritten ▸ List.mem_map_of_mem hsegment)).1
  · intro husable
    refine ⟨_, by simpa using o.namespaceSegments_ne_nil, o.namespaceName_eq l, ?_⟩
    intro written hwritten
    obtain ⟨segment, hsegment, rfl⟩ := List.mem_map.mp hwritten
    exact ⟨husable segment hsegment, l.identifier_isRaised segment⟩

/-- The identifier made of a text can stand in code, in the case of its form, and so can the namespace
    made of the one asked for. What keeps them from it, in Visual Basic alone, is a text or a segment of
    which nothing but an underscore is kept. -/
theorem Options.identifier_namespaceName_isUsable_iff (o : Options) (l : Language) :
    (∀ form raw, l.IsUsable (l.identifier form raw) ↔
      (l = .visualBasic → ¬ IsLoneUnderscore raw)) ∧
    (∀ raw, IsRaised (l.identifier .type raw) ∧ IsLowered (l.identifier .parameter raw)) ∧
    (l.IsUsableNamespace (o.namespaceName l) ↔
      (l = .visualBasic → ∀ segment ∈ splitChar '.' o.namespacePath, ¬ IsLoneUnderscore segment)) := by
  refine ⟨l.identifier_isUsable_iff, fun raw => ⟨l.identifier_isRaised raw,
    l.identifier_isLowered raw⟩, ?_⟩
  rw [o.isUsableNamespace_iff, ← o.forall_not_isLoneUnderscore_iff]
  simp only [l.identifier_isUsable_iff]
  exact ⟨fun h hl segment hsegment => h segment hsegment hl,
    fun h segment hsegment hl => h hl segment hsegment⟩

/-- In Visual Basic an underscore stays as it is, as a name and as a namespace. -/
theorem underscore_not_isUsable :
    Language.visualBasic.identifier .type "_" = "_" ∧
      ¬ Language.visualBasic.IsUsable (Language.visualBasic.identifier .type "_") := by
  rw [Language.identifier_isUsable_iff]
  decide +kernel

end Class

end ControlPoint
