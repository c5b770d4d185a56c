import ControlPoint.Text.Split
import ControlPoint.Url.Percent
import ControlPoint.Yaml.Scalar

/-!
The tokens of YAML documents, and the reading of those that stand for themselves: anchors, tags and
directives.
-/

namespace ControlPoint.Yaml

open Text

/-- A token. Blocks have no marks of their own; their beginnings and ends follow from the
    indentation. -/
inductive Token
  | version (major minor : Nat)
  | handle (name leading : String)
  | documentStart
  | documentEnd
  | sequenceBlock
  | mappingBlock
  | blockEnd
  | sequenceOpen
  | sequenceClose
  | mappingOpen
  | mappingClose
  | item
  | comma
  | key
  | value
  | anchor (name : String)
  | reference (name : String)
  | tag (handle suffix : String)
  | scalar (text : String) (isPlain : Bool)
  deriving DecidableEq, Repr

/-! ### Anchors -/

/-- The name after the mark of an anchor or a reference, and the place after it. -/
def anchorName (p : Place) : Option (String × Place) :=
  let p := p.skip 1
  let name := p.rest.takeWhile isWordChar
  let p := p.skip name.length
  let closed := endsWord p.rest || p.rest.head?.any fun c =>
    ['?', ':', ',', ']', '\x7d', '%', '@', '\x60'].contains c
  if !name.isEmpty && closed then some (String.ofList name, p) else none

/-! ### Tags -/

/-- A character of a tag. In a tag between angle brackets, and in what a handle stands for, there are
    some more. -/
def isTagChar (verbatim : Bool) (c : Char) : Bool :=
  isWordChar c ||
    [';', '/', '?', ':', '@', '&', '=', '+', '$', '.', '%', '!', '~', '*', '\'', '(', ')'].contains c ||
    (verbatim && [',', '[', ']'].contains c)

/-- A percent sign stands only in front of two hexadecimal digits. -/
def areEscapesWhole : List Char → Bool
  | [] => true
  | '%' :: a :: b :: rest =>
    (Markup.digitValue? 16 a).isSome && (Markup.digitValue? 16 b).isSome && areEscapesWhole rest
  | '%' :: _ => false
  | _ :: rest => areEscapesWhole rest

/-- The text of a tag with its escapes resolved, if they stand for whole characters. -/
def tagText? (raw : List Char) : Option String :=
  if areEscapesWhole raw then
    String.fromUTF8? ⟨(Url.percentDecode raw).toArray⟩
  else none

/-- The text of a tag at a place, after what is already read of it, and the place after it. -/
def tagRun (verbatim : Bool) (before : List Char) (p : Place) : Option (String × Place) := do
  let run := p.rest.takeWhile (isTagChar verbatim)
  let text ← tagText? run
  if before.isEmpty && run.isEmpty then none
  else some (String.ofList (before.drop 1) ++ text, p.skip run.length)

/-- The handle at a place: an exclamation mark, word characters, and a closing exclamation mark if there
    is one. -/
def tagHandle (p : Place) : List Char × Place :=
  let name := (p.rest.drop 1).takeWhile isWordChar
  let p := p.skip (1 + name.length)
  match p.rest with
  | '!' :: _ => ('!' :: name ++ ['!'], p.skip 1)
  | _ => ('!' :: name, p)

/-- Whether a handle is closed by a mark of its own. -/
def isClosedHandle (handle : List Char) : Bool :=
  1 < handle.length && handle.getLast? == some '!'

/-- The tag at a place, and the place after it. Between angle brackets it stands for itself, which is
    told by the empty handle. -/
def cutTag (inFlow : Bool) (p : Place) : Option (Token × Place) := do
  let (token, p) ← match p.rest.drop 1 with
    | '<' :: _ => do
      let (text, p) ← tagRun true [] (p.skip 2)
      match p.rest with
      | '>' :: _ => some (Token.tag "" text, p.skip 1)
      | _ => none
    | _ => do
      let (handle, p) := tagHandle p
      if isClosedHandle handle then
        let (suffix, p) ← tagRun false [] p
        some (Token.tag (String.ofList handle) suffix, p)
      else
        let (suffix, p) ← tagRun false handle p
        some (if suffix == "" then Token.tag "" "!" else Token.tag "!" suffix, p)
  if endsWord p.rest || (inFlow && p.rest.head? == some ',') then some (token, p) else none

/-! ### Directives -/

/-- The number at a place, of at most nine digits, and the place after it. -/
def versionNumber (p : Place) : Option (Nat × Place) :=
  let digits := p.rest.takeWhile Char.isDigit
  if digits.isEmpty || 9 < digits.length then none
  else some (Nat.ofDigitChars 10 digits 0, p.skip digits.length)

/-- The directive that names the edition of YAML, after its name. -/
def versionDirective (p : Place) : Option (Token × Place) := do
  let (major, p) ← versionNumber (p.skipWhile isBlank)
  match p.rest with
  | '.' :: _ => do
    let (minor, p) ← versionNumber (p.skip 1)
    some (.version major minor, p)
  | _ => none

/-- The directive that says what a handle stands for, after its name. -/
def handleDirective (p : Place) : Option (Token × Place) := do
  let p := p.skipWhile isBlank
  match p.rest with
  | '!' :: _ =>
    let (handle, p) := tagHandle p
    if (isClosedHandle handle || handle == ['!']) && p.rest.head?.any isBlank then
      let (leading, p) ← tagRun true [] (p.skipWhile isBlank)
      if endsWord p.rest then some (.handle (String.ofList handle) leading, p) else none
    else none
  | _ => none

/-- The directive at a place, and the place on the next line. -/
def cutDirective (p : Place) : Option (Token × Place) := do
  let p := p.skip 1
  let name := String.ofList (p.rest.takeWhile isWordChar)
  let p := p.skipWhile isWordChar
  if !endsWord p.rest then none
  let (token, p) ←
    if name == "YAML" then versionDirective p
    else if name == "TAG" then handleDirective p
    else none
  let p ← p.lineRest?
  match p.lineBreak? with
  | some (_, after) => some (token, after)
  | none => some (token, p)

end ControlPoint.Yaml
