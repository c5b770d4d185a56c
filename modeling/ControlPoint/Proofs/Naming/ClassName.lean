import Mathlib
import ControlPoint.Naming.ClassName
import ControlPoint.Proofs.Language.Escape

namespace ControlPoint.Naming

open Text

/-- A name that ends with the word for a kind of class, with a number after it or without. -/
def IsNumbered (kind name : String) : Prop :=
  ∃ base suffix, name = base ++ kind ++ suffix ∧ ∀ c ∈ suffix.toList, c.isDigit = true

theorem isNumbered_freeName (s : Scope) (base kind : String) :
    IsNumbered kind (s.freeName (base ++ kind)) := by
  obtain ⟨suffix, heq, hdigits⟩ := s.freeName_eq (base ++ kind)
  exact ⟨base, suffix, heq, hdigits⟩

/-- The letters of a name in small print from its end on, without the digits there. -/
def lettersBack (name : String) : List Char :=
  (name.toList.map Char.toLower).reverse.dropWhile Char.isDigit

/-- A number at the end of a name hides nothing of the word before it. -/
theorem IsNumbered.prefix_lettersBack {kind name : String} (hname : IsNumbered kind name)
    {last : Char} {others : List Char}
    (hkind : (kind.toList.map Char.toLower).reverse = last :: others)
    (hlast : last.isDigit = false) : last :: others <+: lettersBack name := by
  obtain ⟨base, suffix, rfl, hdigits⟩ := hname
  have hsuffix : ∀ c ∈ (suffix.toList.map Char.toLower).reverse, c.isDigit = true := by
    intro c hc
    obtain ⟨d, hd, rfl⟩ := List.mem_map.mp (List.mem_reverse.mp hc)
    rw [isDigit_toLower]
    exact hdigits d hd
  simp only [lettersBack, String.toList_append, List.map_append, List.reverse_append, hkind]
  rw [List.dropWhile_append_of_pos hsuffix, List.cons_append,
    List.dropWhile_cons_of_neg (by simp [hlast])]
  exact List.prefix_append (last :: others) _

end ControlPoint.Naming

namespace ControlPoint.Language

open Naming Text

private theorem lettersBack_keyword (l : Language) : ∀ word ∈ l.keywords,
    ¬ "ecived".toList <+: lettersBack word ∧ ¬ "ecivres".toList <+: lettersBack word := by
  cases l <;> decide +kernel

theorem lettersBack_eq_of_fold_eq {l : Language} {a b : String}
    (h : l.caseRule.fold a = l.caseRule.fold b) : lettersBack a = lettersBack b := by
  have hlower : lowerAscii a = lowerAscii b := by
    cases l with
    | csharp => exact congrArg lowerAscii h
    | visualBasic => exact h
  have hchars := congrArg String.toList hlower
  simp only [lowerAscii, String.toList_ofList] at hchars
  rw [lettersBack, hchars, lettersBack]

/-- No reserved word names a class of a device or of a service. -/
theorem escape_of_isNumbered (l : Language) {name : String}
    (hname : IsNumbered "Device" name ∨ IsNumbered "Service" name) : l.escape name = name := by
  rw [escape, if_neg]
  rw [isKeyword, List.any_eq_true]
  rintro ⟨word, hword, heq⟩
  obtain ⟨hdevice, hservice⟩ := l.lettersBack_keyword word hword
  rw [lettersBack_eq_of_fold_eq (eq_of_beq heq)] at hdevice hservice
  rcases hname with hname | hname
  · exact hdevice (hname.prefix_lettersBack rfl (by decide))
  · exact hservice (hname.prefix_lettersBack rfl (by decide))

end ControlPoint.Language
