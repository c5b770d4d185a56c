import ControlPoint.Xml.Element

/-!
Elements as written: every element on a line of its own, two spaces further in than the one around it,
with a text right between its tags. Names are written as they are.
-/

namespace ControlPoint.Xml

/-- A character of a text. -/
def escapedInText (c : Char) : List Char :=
  if c == '&' then "&amp;".toList
  else if c == '<' then "&lt;".toList
  else if c == '>' then "&gt;".toList
  else [c]

/-- A character of an attribute's value. -/
def escapedInValue (c : Char) : List Char :=
  if c == '"' then "&quot;".toList
  else if c == '\'' then "&apos;".toList
  else if c == '\n' then "&#xA;".toList
  else if c == '\r' then "&#xD;".toList
  else escapedInText c

/-- A name and attributes, as they stand in a tag. -/
def tagText (name : String) (attributes : List (String × String)) : List Char :=
  name.toList ++ attributes.flatMap fun (key, value) =>
    ' ' :: key.toList ++ '=' :: '"' :: value.toList.flatMap escapedInValue ++ ['"']

/-- The beginning of a line at a depth. -/
def lineStart (depth : Nat) : List Char :=
  '\n' :: List.replicate (2 * depth) ' '

namespace Element

mutual

/-- The text of an element at a depth. -/
def textAt (depth : Nat) : Element → List Char
  | mk name attributes none [] => '<' :: tagText name attributes ++ " />".toList
  | mk name attributes (some text) [] =>
    '<' :: tagText name attributes ++ '>' :: text.toList.flatMap escapedInText ++
      "</".toList ++ name.toList ++ ['>']
  | mk name attributes text (child :: rest) =>
    '<' :: tagText name attributes ++ '>' :: (text.getD "").toList.flatMap escapedInText ++
      linesAt (depth + 1) (child :: rest) ++ lineStart depth ++
      "</".toList ++ name.toList ++ ['>']
termination_by structural e => e

/-- The text of elements that stand on lines of their own. -/
def linesAt (depth : Nat) : List Element → List Char
  | [] => []
  | e :: rest => lineStart depth ++ textAt depth e ++ linesAt depth rest
termination_by structural elements => elements

end

/-- The document whose only element is `e`. -/
def document (e : Element) : String :=
  String.ofList ("<?xml version=\"1.0\" encoding=\"UTF-8\"?>\n".toList ++ textAt 0 e)

end Element

end ControlPoint.Xml
