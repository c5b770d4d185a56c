import ControlPoint.Template.Value
import ControlPoint.Text.Lines

/-!
Templates: texts with places for values. A value that is missing where it would be printed is an
error, and nothing else is; a condition takes what is missing for false, and what lays out lines
takes it for an empty text.
-/

namespace ControlPoint

open Text

namespace Template

/-- A place in a template that depends on no condition. -/
inductive Piece
  /-- The same text always. -/
  | text (s : String)
  /-- The value of a name. -/
  | slot (name : String)
  /-- The lines of a text, all but blank ones moved in by levels of four spaces. -/
  | indented (name : String) (levels : Nat)
  /-- The lines of a text, each after a mark. -/
  | marked (name mark : String)
  deriving DecidableEq, Repr

/-- A place in a template, or the choice between two texts by the value of a name. -/
inductive Part
  | piece (p : Piece)
  | choice (condition : String) (yes no : List Piece)
  deriving DecidableEq, Repr

instance : Coe String Piece := ⟨.text⟩

instance : Coe Piece Part := ⟨.piece⟩

end Template

/-- A text with places for values. -/
abbrev Template := List Template.Part

namespace Template

/-- A template in lines. -/
def ofLines : List (List Part) → Template
  | [] => []
  | [line] => line
  | line :: rest => line ++ (("\n" : Piece) : Part) :: ofLines rest

/-- Four spaces for each level. -/
def indentation (levels : Nat) : String :=
  String.ofList (List.replicate (4 * levels) ' ')

/-- The text of a name's value, empty if there is no such value or it is no text. -/
def Fields.textOf (fields : Fields) (name : String) : String :=
  match fields.value? name with
  | some v => v.asText
  | none => ""

/-- Whether the value of a name is there and a condition takes it for true. -/
def Fields.holds (fields : Fields) (name : String) : Bool :=
  match fields.value? name with
  | some v => v.holds
  | none => false

/-- The text at a place, or the name whose value is missing. -/
def Piece.render (fields : Fields) : Piece → Except String String
  | text s => .ok s
  | slot name =>
    match fields.value? name with
    | some v => .ok v.print
    | none => .error name
  | indented name levels => .ok (markLines (fields.textOf name) (indentation levels) true)
  | marked name mark => .ok (markLines (fields.textOf name) mark false)

/-- The texts of places one after another, or the first name whose value is missing. -/
def renderPieces (fields : Fields) : List Piece → Except String String
  | [] => .ok ""
  | p :: rest => do
    let here ← p.render fields
    let after ← renderPieces fields rest
    return here ++ after

/-- The text of a part; of a choice, only the side that is taken is looked at. -/
def Part.render (fields : Fields) : Part → Except String String
  | piece p => p.render fields
  | choice condition yes no => renderPieces fields (if fields.holds condition then yes else no)

end Template

/-- The text of a template with its places filled, or the first name whose value is missing. -/
def Template.render (fields : Template.Fields) : Template → Except String String
  | [] => .ok ""
  | p :: rest => do
    let here ← p.render fields
    let after ← Template.render fields rest
    return here ++ after

end ControlPoint
