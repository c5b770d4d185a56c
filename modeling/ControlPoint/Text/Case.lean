/-!
Letter case of ASCII texts. Only the letters `A` to `Z` and `a` to `z` have a case here; every other
character, accented letters included, is its own lower and upper form.
-/

namespace ControlPoint.Text

/-- The text with `A` to `Z` replaced by `a` to `z`. -/
def lowerAscii (s : String) : String :=
  String.ofList (s.toList.map Char.toLower)

/-- Equality of texts up to the case of ASCII letters. -/
def sameIgnoringCase (s t : String) : Bool :=
  lowerAscii s == lowerAscii t

theorem sameIgnoringCase_refl (s : String) : sameIgnoringCase s s = true := by
  simp [sameIgnoringCase]

theorem sameIgnoringCase_comm (s t : String) : sameIgnoringCase s t = sameIgnoringCase t s := by
  simp [sameIgnoringCase, Bool.beq_comm]

end ControlPoint.Text
