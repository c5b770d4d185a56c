import ControlPoint.Number.Shortest

/-!
The values that fill templates: how a value is printed in place, and which values a condition takes
for false.
-/

namespace ControlPoint.Template

open Number

/-- A value given to a template. -/
inductive Value
  | null
  | flag (b : Bool)
  | whole (n : Int)
  | real (x : Binary64)
  | text (s : String)
  | list (items : List Value)
  | record (fields : List (String × Value))

instance : Inhabited Value := ⟨.null⟩

namespace Value

mutual

/-- A value in place: nothing for `null`, items between brackets, and no more than a word for a
    record. -/
def print : Value → String
  | null => ""
  | flag b => if b then "true" else "false"
  | whole n => toString n
  | real x => x.finiteText
  | text s => s
  | list items => "[" ++ String.intercalate ", " (printAll items) ++ "]"
  | record _ => "[object]"

/-- Values in place, one by one. -/
def printAll : List Value → List String
  | [] => []
  | v :: rest => v.print :: printAll rest

end

/-- What a condition takes for true: all but `null`, zero and what is empty. A number too small for
    full precision counts as zero. -/
def holds : Value → Bool
  | null => false
  | flag b => b
  | whole n => n != 0
  | real x => x.isNormal
  | text s => s != ""
  | list items => !items.isEmpty
  | record fields => !fields.isEmpty

/-- The text of a value that is a text, else the empty text. -/
def asText : Value → String
  | text s => s
  | _ => ""

instance : Coe String Value := ⟨text⟩

instance : Coe Bool Value := ⟨flag⟩

end Value

/-- Values by name. -/
abbrev Fields := List (String × Value)

/-- The value of a name. -/
def Fields.value? (fields : Fields) (name : String) : Option Value :=
  (fields.find? fun (k, _) => k == name).map Prod.snd

end ControlPoint.Template
