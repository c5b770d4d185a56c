import ControlPoint.Text.Blank
import ControlPoint.Text.Decimal
import ControlPoint.Text.Split

/-!
Uniform resource names of types and identifiers, `urn:domain:kind:name:version`, and the short names
taken from them.
-/

namespace ControlPoint.Description

open Text

/-- A name in parts. The version is there if the part after the name is a number of 32 bits. -/
structure Urn where
  domain : String
  kind : String
  name : String
  version : Option Nat
  deriving DecidableEq, Repr

/-- Reads the parts of a text that starts with `urn:` and goes on with a domain, a kind and a
    name that is not empty. What comes after the version is passed over. -/
def Urn.parse? (text : String) : Option Urn := do
  let rest ← afterStart "urn:".toList (trimChars text.toList)
  match (splitWhere (· == ':') rest).map String.ofList with
  | domain :: kind :: name :: more =>
    if name == "" then none
    else some ⟨domain, kind, name, more.head?.bind decimal32?⟩
  | _ => none

/-- The name part of a type or identifier; of a text that is no such name, the last piece between
    colons and slashes that is not empty. -/
def shortName (text : String) : String :=
  match Urn.parse? text with
  | some urn => urn.name
  | none =>
    let pieces := splitWhere (fun c => c == ':' || c == '/') (trimChars text.toList)
    match pieces.reverse.find? (fun piece => !piece.isEmpty) with
    | some piece => String.ofList piece
    | none => ""

end ControlPoint.Description
