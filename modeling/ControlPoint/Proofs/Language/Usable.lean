import Mathlib
import ControlPoint.Proofs.Language.Escape

/-!
Which written names can stand in code as they are. What is made of a text is a reserved word between
its marks or an identifier that is none, whatever the text. In Visual Basic that is not enough: an
underscore alone is no name there, and it is what is made of a text of which nothing else is kept.
-/

namespace ControlPoint

open Naming Text

/-! ### Texts that become an underscore -/

namespace Naming

/-- Nothing is kept of the text but one underscore. -/
def IsLoneUnderscore (raw : String) : Prop :=
  raw.toList.filter isWordChar = ['_']

instance (raw : String) : Decidable (IsLoneUnderscore raw) :=
  inferInstanceAs (Decidable (raw.toList.filter isWordChar = ['_']))

/-- An underscore has no case. -/
theorem map_toLower_eq_underscore_iff (cs : List Char) :
    cs.map Char.toLower = ['_'] ↔ cs = ['_'] := by
  have hchar (c : Char) : c.toLower = '_' ↔ c = '_' := toLower_eq_iff (by decide)
  simp [List.map_eq_singleton_iff, hchar]

/-- The underscore before a digit does not stand alone. -/
theorem guardDigit_eq_underscore_iff (cs : List Char) : guardDigit cs = ['_'] ↔ cs = ['_'] := by
  cases cs with
  | nil => simp [guardDigit]
  | cons c rest =>
    by_cases hc : c.isDigit = true
    · have hne : c ≠ '_' := by
        rintro rfl
        exact absurd hc (by decide)
      simp [guardDigit, hc, hne]
    · simp [guardDigit, hc]

/-- An underscore is made of the texts of which nothing else is kept, and of no others. -/
theorem sanitize_eq_underscore_iff (form : Form) (raw : String) :
    sanitize form raw = "_" ↔ IsLoneUnderscore raw := by
  -- case is all that raising and lowering change, and an underscore has none
  have hkept : keepWord false false (trimChars raw.toList) = ['_'] ↔ IsLoneUnderscore raw := by
    rw [← map_toLower_eq_underscore_iff, map_toLower_kept, map_toLower_eq_underscore_iff,
      IsLoneUnderscore]
  rw [← hkept, ← String.toList_inj]
  unfold sanitize
  split
  · rename_i hnil
    rw [hnil]
    cases form <;> decide
  · rename_i c cs hcons
    rw [hcons, String.toList_ofList, ← map_toLower_eq_underscore_iff (c :: cs),
      ← map_toLower_shapeHead form, map_toLower_eq_underscore_iff]
    exact guardDigit_eq_underscore_iff _

/-- The name starts with no small letter. -/
def IsRaised (name : String) : Prop :=
  ∀ c ∈ name.toList.head?, c.isLower = false

theorem IsTypeName.isRaised {name : String} (hname : IsTypeName name) : IsRaised name := by
  obtain ⟨c, cs, hchars, -, hupper, -⟩ := hname
  rw [IsRaised, hchars, List.head?_cons]
  rintro _ ⟨⟩
  rw [← hupper]
  simp

end Naming

/-! ### Names that can stand in code -/

namespace Language

/-- The written name can stand in code: it is a reserved word between its marks, or an identifier that
    is no reserved word. In Visual Basic an underscore alone is no name. -/
def IsUsable (l : Language) (written : String) : Prop :=
  (∃ word, l.isKeyword word = true ∧ written = l.escapeReserved word) ∨
    (l.isKeyword written = false ∧ IsIdentifier written ∧ (l = visualBasic → written ≠ "_"))

theorem isKeyword_underscore (l : Language) : l.isKeyword "_" = false := by
  cases l <;> decide +kernel

/-- Reserved words apart, an identifier is written as it stands. -/
theorem escape_isUsable_iff (l : Language) {name : String} (hname : IsIdentifier name) :
    l.IsUsable (l.escape name) ↔ (l = visualBasic → name ≠ "_") := by
  by_cases hreserved : l.isKeyword name = true
  · have hne : name ≠ "_" := by
      rintro rfl
      exact absurd hreserved (by simp [isKeyword_underscore])
    rw [escape, if_pos hreserved]
    exact iff_of_true (.inl ⟨name, hreserved, rfl⟩) fun _ => hne
  · rw [escape, if_neg hreserved]
    constructor
    · rintro (⟨word, -, rfl⟩ | ⟨-, -, hne⟩)
      · exact absurd (escapeReserved_head l word) (head_ne_escapeMark l hname)
      · exact hne
    · exact fun hne => .inr ⟨by simpa using hreserved, hname, hne⟩

/-- What is made of a text can stand in code, but for an underscore in Visual Basic. -/
theorem identifier_isUsable_iff (l : Language) (form : Form) (raw : String) :
    l.IsUsable (l.identifier form raw) ↔ (l = visualBasic → ¬ IsLoneUnderscore raw) := by
  rw [identifier, escape_isUsable_iff l (sanitize_isIdentifier form raw), Ne,
    sanitize_eq_underscore_iff]

private theorem escapeMark_case (l : Language) :
    l.escapeMark.isLower = false ∧ l.escapeMark.isUpper = false := by
  cases l <;> decide

/-- The marks of a reserved word have no case. -/
theorem head_escape (l : Language) (name : String) :
    (l.escape name).toList.head? = name.toList.head? ∨
      (l.escape name).toList.head? = some l.escapeMark := by
  unfold escape
  split
  · exact .inr (escapeReserved_head l name)
  · exact .inl rfl

theorem identifier_isRaised (l : Language) (raw : String) :
    IsRaised (l.identifier .type raw) := by
  intro c hc
  rcases l.head_escape (sanitize .type raw) with hhead | hhead
  · exact (sanitize_isTypeName raw).isRaised c (hhead ▸ hc)
  · obtain rfl := Option.some.inj (hhead.symm.trans hc)
    exact l.escapeMark_case.1

theorem identifier_isLowered (l : Language) (raw : String) :
    IsLowered (l.identifier .parameter raw) := by
  intro c hc
  rcases l.head_escape (sanitize .parameter raw) with hhead | hhead
  · exact sanitize_isLowered raw c (hhead ▸ hc)
  · obtain rfl := Option.some.inj (hhead.symm.trans hc)
    exact l.escapeMark_case.2

end Language

end ControlPoint
