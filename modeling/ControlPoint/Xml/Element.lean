import ControlPoint.Xml.Character
import ControlPoint.Text.Blank

/-!
Elements of XML documents, as far as messages need them: a name, attributes, the element's own text and
the elements inside. Where texts and elements alternate, the texts are kept as one, and so are the
elements.
-/

namespace ControlPoint.Xml

/-- An element. An element without any text is told from one with an empty text. -/
inductive Element where
  | mk (name : String) (attributes : List (String × String)) (text : Option String)
      (children : List Element)

namespace Element

/-- The name as written, with its prefix. -/
def name : Element → String
  | mk name _ _ _ => name

def attributes : Element → List (String × String)
  | mk _ attributes _ _ => attributes

def text : Element → Option String
  | mk _ _ text _ => text

/-- The elements immediately inside. -/
def children : Element → List Element
  | mk _ _ _ children => children

/-- The name without its prefix. -/
def localName (e : Element) : String :=
  Xml.localName e.name

/-- The element's own text without white space around it, empty if there is none. -/
def content (e : Element) : String :=
  match e.text with
  | some text => Text.trim text
  | none => ""

/-- The first element immediately inside that has a local name. -/
def child? (name : String) (e : Element) : Option Element :=
  e.children.find? fun c => c.localName == name

mutual

/-- The first element with a local name among an element and all inside it, each before those inside
    it. -/
def first? (name : String) : Element → Option Element
  | mk full attributes text children =>
    if Xml.localName full == name then some (mk full attributes text children)
    else firstIn? name children
termination_by structural e => e

/-- The first element with a local name in a list of branches. -/
def firstIn? (name : String) : List Element → Option Element
  | [] => none
  | e :: rest =>
    match first? name e with
    | some found => some found
    | none => firstIn? name rest
termination_by structural branches => branches

end

/-- The first element with a local name inside an element, at any depth. -/
def descendant? (name : String) (e : Element) : Option Element :=
  firstIn? name e.children

/-- An element that holds a text and nothing else. -/
def ofText (name text : String) : Element :=
  mk name [] (some text) []

end Element

end ControlPoint.Xml
