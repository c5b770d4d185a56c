import ControlPoint.Language.Basic
import ControlPoint.Text.Blank

/-!
The words for languages that users may choose from.
-/

namespace ControlPoint

open Text

/-- A word that names no language, in lower case. -/
structure UnknownLanguage where
  word : String
  deriving DecidableEq, Repr

def UnknownLanguage.message (u : UnknownLanguage) : String :=
  "Unknown language " ++ u.word ++ ", expected csharp or vb"

/-- The language that a text names, whatever the case of its letters and the blanks around it. -/
def Language.read (text : String) : Except UnknownLanguage Language :=
  let word := lowerAscii (trim text)
  if ["csharp", "cs", "c#"].contains word then .ok .csharp
  else if ["vb", "visualbasic", "vb.net"].contains word then .ok .visualBasic
  else .error ⟨word⟩

end ControlPoint
