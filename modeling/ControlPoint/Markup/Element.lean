import ControlPoint.Text.Blank
import ControlPoint.Text.Case

/-!
Elements: the local name and the attributes of a tag. Looking up an attribute never fails; what is
absent is the empty text or the caller's default.
-/

namespace ControlPoint.Markup

open Text

/-- The local name of an element with its attributes, in the order in which their names were first
    given. -/
structure Element where
  name : String
  attributes : List (String × String)
  deriving DecidableEq, Repr

instance : Inhabited Element := ⟨⟨"", []⟩⟩

/-- Puts a pair into a list of pairs: an entry of the same key is replaced at its place, else the
    pair comes last. -/
def putPair {α : Type} (key : String) (value : α) : List (String × α) → List (String × α)
  | [] => [(key, value)]
  | (k, v) :: rest => if k == key then (k, value) :: rest else (k, v) :: putPair key value rest

/-- Adds an attribute or replaces the value of an attribute of exactly that name. -/
def Element.setAttribute (e : Element) (key value : String) : Element :=
  { e with attributes := putPair key value e.attributes }

/-- The value of an attribute, empty if there is none. A name in exactly this spelling goes before
    one that differs in case. -/
def Element.attribute (e : Element) (key : String) : String :=
  match e.attributes.find? (fun (k, _) => k == key) with
  | some (_, value) => value
  | none =>
    match e.attributes.find? (fun (k, _) => sameIgnoringCase k key) with
    | some (_, value) => value
    | none => ""

/-- The value of an attribute, or `default` where it is absent or empty. -/
def Element.attributeOr (e : Element) (key default : String) : String :=
  let value := e.attribute key
  if value == "" then default else value

/-- Reads a yes-or-no word. -/
def readSwitch? (word : String) : Option Bool :=
  let w := lowerAscii (trim word)
  if w == "yes" || w == "true" || w == "1" then some true
  else if w == "no" || w == "false" || w == "0" then some false
  else none

/-- The yes-or-no value of an attribute, or `default` where it is absent or another word. -/
def Element.switch (e : Element) (key : String) (default : Bool) : Bool :=
  (readSwitch? (e.attribute key)).getD default

end ControlPoint.Markup
