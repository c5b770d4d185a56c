import ControlPoint.Text.Split

/-!
The characters of XML documents: those that a document may hold, those that names are made of, and the
parts of names divided by a colon.
-/

namespace ControlPoint.Xml

open Text

/-- The edition of XML that a document declares. -/
inductive Version
  | first
  | second
  deriving DecidableEq, Repr

/-- A character in one of the given ranges. -/
def isWithin (ranges : List (Nat × Nat)) (c : Char) : Bool :=
  ranges.any fun (first, last) => first ≤ c.toNat && c.toNat ≤ last

/-- A character that a reference may stand for. -/
def Version.allows (version : Version) (c : Char) : Bool :=
  match version with
  | .first =>
    c == '\t' || c == '\n' || c == '\r' || isWithin [(0x20, 0xFFFD), (0x10000, 0x10FFFF)] c
  | .second => isWithin [(0x1, 0xFFFD), (0x10000, 0x10FFFF)] c

/-- A character that may stand in a document as it is. The second edition allows more control
    characters than the first, but only by reference. -/
def Version.allowsPlain (version : Version) (c : Char) : Bool :=
  match version with
  | .first => version.allows c
  | .second => version.allows c &&
      !isWithin [(0x1, 0x8), (0xB, 0xC), (0xE, 0x1F), (0x7F, 0x84), (0x86, 0x9F)] c

/-- A character that a name may begin with. -/
def isNameStart (c : Char) : Bool :=
  c.isAlpha || c == '_' || c == ':' || isWithin
    [(0xC0, 0xD6), (0xD8, 0xF6), (0xF8, 0x2FF), (0x370, 0x37D), (0x37F, 0x1FFF), (0x200C, 0x200D),
      (0x2070, 0x218F), (0x2C00, 0x2FEF), (0x3001, 0xD7FF), (0xF900, 0xFDCF), (0xFDF0, 0xFFFD),
      (0x10000, 0xEFFFF)] c

/-- A character that a name may go on with. -/
def isNameChar (c : Char) : Bool :=
  isNameStart c || c.isDigit || c == '-' || c == '.' || c == '\u00B7' ||
    isWithin [(0x300, 0x36F), (0x203F, 0x2040)] c

/-- A name. -/
def isName (cs : List Char) : Bool :=
  match cs with
  | [] => false
  | c :: rest => isNameStart c && rest.all isNameChar

/-- A name with at most one colon, neither first nor last. -/
def isQualifiedName (cs : List Char) : Bool :=
  isName cs &&
    match splitWhere (· == ':') cs with
    | [_] => true
    | [scope, name] => !scope.isEmpty && !name.isEmpty
    | _ => false

/-- The part of a qualified name after its colon, if it has one, and else the whole name. -/
def localName (name : String) : String :=
  match cutAt ':' name.toList with
  | some (_, after) => String.ofList after
  | none => name

/-- The part of a qualified name before its colon, empty if it has none. -/
def scopeName (name : String) : String :=
  match cutAt ':' name.toList with
  | some (before, _) => String.ofList before
  | none => ""

end ControlPoint.Xml
