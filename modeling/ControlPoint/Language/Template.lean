import ControlPoint.Language.CSharp
import ControlPoint.Language.VisualBasic
import ControlPoint.Language.Basic

/-!
The templates of the languages, and what can go wrong when one is filled.
-/

namespace ControlPoint

open Template

/-- A template was filled without a value that it prints. -/
structure MissingValue where
  kind : Kind
  name : String
  deriving DecidableEq, Repr

namespace Language

/-- The template of a language for a part of a class. -/
def template : Language → Kind → Template
  | csharp => csharpTemplate
  | visualBasic => visualBasicTemplate

/-- The text of a part of a class. -/
def render (l : Language) (kind : Kind) (fields : Fields) : Except MissingValue String :=
  ((l.template kind).render fields).mapError (MissingValue.mk kind)

end Language

end ControlPoint
