import ControlPoint.Text.Blank

/-!
Identifiers made of arbitrary texts: the letters, digits and underscores of ASCII are kept, and a
letter that follows something dropped becomes a capital. The head of a type's name is raised, that
of a parameter's name lowered.
-/

namespace ControlPoint.Naming

open Text

/-- What an identifier names. -/
inductive Form
  | type
  | parameter
  deriving DecidableEq, Repr

/-- The characters of identifiers: letters, digits and the underscore of ASCII. -/
def isWordChar (c : Char) : Bool :=
  c.isAlphanum || c == '_'

/-- Keeps the characters of identifiers. `started` tells whether one was kept before, `dropped`
    whether something was dropped since. -/
def keepWord (started dropped : Bool) : List Char → List Char
  | [] => []
  | c :: rest =>
    if isWordChar c then (if started && dropped then c.toUpper else c) :: keepWord true false rest
    else keepWord started true rest

/-- Raises the first character. -/
def raiseHead : List Char → List Char
  | [] => []
  | c :: rest => c.toUpper :: rest

/-- How many capitals at the head of a name are lowered: all of a leading acronym, but not the
    capital that starts the word after it. -/
def lowerCount (cs : List Char) : Nat :=
  let run := (cs.takeWhile Char.isUpper).length
  match cs[run]? with
  | some c => if c.isLower && 1 < run then run - 1 else run
  | none => run

/-- Lowers the capital or the acronym at the head. -/
def lowerHead (cs : List Char) : List Char :=
  (cs.take (lowerCount cs)).map Char.toLower ++ cs.drop (lowerCount cs)

/-- A name in one of the two forms, made of kept characters. -/
def shapeHead : Form → List Char → List Char
  | .type, cs => raiseHead cs
  | .parameter, cs => lowerHead cs

/-- An underscore goes before a leading digit. -/
def guardDigit : List Char → List Char
  | [] => []
  | c :: rest => if c.isDigit then '_' :: c :: rest else c :: rest

/-- The name of what has no character to make a name of. -/
def Form.placeholder : Form → String
  | .type => "Empty"
  | .parameter => "arg"

/-- The identifier made of a text, without regard to reserved words. -/
def sanitize (form : Form) (raw : String) : String :=
  match keepWord false false (trimChars raw.toList) with
  | [] => form.placeholder
  | c :: cs => String.ofList (guardDigit (shapeHead form (c :: cs)))

end ControlPoint.Naming
