import ControlPoint.Text.Blank

/-!
Lines of a text, as they are ended by a line feed with at most one carriage return before it. A text
that ends in a line feed has no empty last line.
-/

namespace ControlPoint.Text

/-- A line without the one carriage return that stood before its line feed. -/
def dropReturn (line : List Char) : List Char :=
  match line.reverse with
  | '\r' :: rest => rest.reverse
  | _ => line

/-- The lines of a text: `line` is the current line so far, reversed. A last line without a line
    feed keeps its carriage return. -/
def linesFrom (line : List Char) : List Char → List (List Char)
  | [] => if line.isEmpty then [] else [line.reverse]
  | '\n' :: rest => dropReturn line.reverse :: linesFrom [] rest
  | c :: rest => linesFrom (c :: line) rest

/-- The lines of a text. -/
def lines (s : String) : List String :=
  (linesFrom [] s.toList).map String.ofList

/-- Every line of `text` with `mark` before it; where `skipBlank` holds, a blank line becomes empty
    instead. -/
def markLines (text mark : String) (skipBlank : Bool) : String :=
  String.intercalate "\n" ((lines text).map fun line =>
    if skipBlank && isBlankText line then "" else mark ++ line)

end ControlPoint.Text
