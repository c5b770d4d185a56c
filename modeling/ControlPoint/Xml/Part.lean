import ControlPoint.Markup.Reference
import ControlPoint.Text.Blank
import ControlPoint.Text.Case
import ControlPoint.Xml.Character

/-!
The parts of an XML document, read strictly: tags, texts, sections and what carries no content. A
document with any fault has no parts at all; which fault it is makes no difference here.
-/

namespace ControlPoint.Xml

open Text

/-- One part of a document. A text is as written; all else is resolved. -/
inductive Part
  | start (name : String) (attributes : List (String × String))
  | empty (name : String) (attributes : List (String × String))
  | close (name : String)
  | text (raw : List Char)
  | verbatim (chars : List Char)
  | aside
  | doctype
  deriving DecidableEq, Repr

/-- The character that a reference stands for. -/
def referenced? (version : Version) (name : List Char) : Option Char :=
  match name with
  | '#' :: digits =>
    match Markup.numericReference digits with
    | .ok c => if version.allows c then some c else none
    | .error _ => none
  | _ => Markup.predefinedEntity? (String.ofList name)

/-- A text with its references resolved. `pending` holds what stands since an ampersand,
    reversed. -/
def resolveFrom (version : Version) (pending : Option (List Char)) :
    List Char → Option (List Char)
  | [] => if pending.isNone then some [] else none
  | c :: rest =>
    match pending with
    | none =>
      if c == '&' then resolveFrom version (some []) rest
      else if version.allowsPlain c then (resolveFrom version none rest).map (c :: ·)
      else none
    | some name =>
      if c == ';' then
        match referenced? version name.reverse with
        | some resolved => (resolveFrom version none rest).map (resolved :: ·)
        | none => none
      else resolveFrom version (some (c :: name)) rest

/-- A text with its references resolved. -/
def resolved? (version : Version) (raw : List Char) : Option (List Char) :=
  resolveFrom version none raw

/-- The name at the beginning of a text, and what follows it. -/
def cutName (cs : List Char) : Option (List Char × List Char) :=
  let name := cs.takeWhile isNameChar
  if isName name then some (name, cs.dropWhile isNameChar) else none

/-- The qualified name at the beginning of a text, and what follows it. -/
def cutQualifiedName (cs : List Char) : Option (List Char × List Char) := do
  let (name, rest) ← cutName cs
  if isQualifiedName name then some (name, rest) else none

/-- The value between quotes at the beginning of a text, and what follows it. -/
def cutQuoted (version : Version) (cs : List Char) : Option (List Char × List Char) :=
  match cs with
  | [] => none
  | quote :: rest =>
    if quote == '"' || quote == '\'' then do
      let (raw, rest) ← cutAt quote rest
      if raw.contains '<' then none
      let value ← resolved? version raw
      some (value, rest)
    else none

/-- The equals sign and the quoted value after an attribute's name, and what follows them. -/
def cutValue (version : Version) (cs : List Char) : Option (List Char × List Char) :=
  match cs.dropWhile isMarkupBlank with
  | '=' :: rest => cutQuoted version (rest.dropWhile isMarkupBlank)
  | _ => none

/-- The attributes in a tag after its name, whether the tag is of an empty element, and what follows
    the tag. White space stands before every attribute. An attribute takes at least four characters,
    so `fuel` beyond their number is never used up. -/
def attributesFrom (version : Version) :
    (fuel : Nat) → List Char → Option (List (String × String) × Bool × List Char)
  | 0, _ => none
  | fuel + 1, cs =>
    match cs, cs.dropWhile isMarkupBlank with
    | _, '>' :: rest => some ([], false, rest)
    | _, '/' :: '>' :: rest => some ([], true, rest)
    | first :: _, inside =>
      if isMarkupBlank first then do
        let (name, rest) ← cutQualifiedName inside
        let (value, rest) ← cutValue version rest
        let (others, isEmpty, rest) ← attributesFrom version fuel rest
        some ((String.ofList name, String.ofList value) :: others, isEmpty, rest)
      else none
    | [], _ => none

/-- A part and what follows it, given what follows the bracket of a start tag. -/
def cutStartTag (version : Version) (tail : List Char) : Option (Part × List Char) := do
  let (name, rest) ← cutQualifiedName tail
  let (attributes, isEmpty, rest) ← attributesFrom version (rest.length + 1) rest
  let name := String.ofList name
  some (if isEmpty then .empty name attributes else .start name attributes, rest)

/-- A part and what follows it, given what follows `</`. -/
def cutCloseTag (tail : List Char) : Option (Part × List Char) := do
  let (name, rest) ← cutQualifiedName tail
  match rest.dropWhile isMarkupBlank with
  | '>' :: rest => some (.close (String.ofList name), rest)
  | _ => none

/-- A comment and what follows it, given what follows `<!--`. Two hyphens end it. -/
def cutComment (version : Version) (tail : List Char) : Option (Part × List Char) := do
  let (inside, rest) ← cutAtWord "--".toList tail
  match rest with
  | '>' :: rest => if inside.all version.allows then some (.aside, rest) else none
  | _ => none

/-- A section and what follows it, given what follows `<![CDATA[`. -/
def cutSection (version : Version) (tail : List Char) : Option (Part × List Char) := do
  let (inside, rest) ← cutAtWord "]]>".toList tail
  if inside.all version.allows then some (.verbatim inside, rest) else none

/-- A processing instruction and what follows it, given what follows `<?`. None is called `xml`. -/
def cutInstruction (version : Version) (tail : List Char) : Option (Part × List Char) := do
  let (name, rest) ← cutName tail
  if sameIgnoringCase (String.ofList name) "xml" then none
  match rest with
  | '?' :: '>' :: rest => some (.aside, rest)
  | blank :: rest =>
    let (inside, rest) ← cutAtWord "?>".toList rest
    if isMarkupBlank blank && inside.all version.allows then some (.aside, rest) else none
  | [] => none

/-- What follows the bracket that closes a document type. `depth` counts open square brackets and
    `quote` is the quote that is open. -/
def afterDoctype (depth : Nat) (quote : Option Char) : List Char → Option (List Char)
  | [] => none
  | c :: rest =>
    match quote with
    | some q => afterDoctype depth (if c == q then none else some q) rest
    | none =>
      if c == '"' || c == '\'' then afterDoctype depth (some c) rest
      else if c == '[' then afterDoctype (depth + 1) none rest
      else if c == ']' then afterDoctype (depth - 1) none rest
      else if c == '>' && depth == 0 then some rest
      else afterDoctype depth none rest

/-- A document type and what follows it, given what follows `<!DOCTYPE`. -/
def cutDoctype (tail : List Char) : Option (Part × List Char) := do
  match tail with
  | blank :: rest =>
    if isMarkupBlank blank then
      let (_, rest) ← cutName (rest.dropWhile isMarkupBlank)
      let rest ← afterDoctype 0 none rest
      some (.doctype, rest)
    else none
  | [] => none

/-- A part and what follows it, given what follows `<!`. -/
def cutDeclaration (version : Version) (tail : List Char) : Option (Part × List Char) :=
  match afterStart "--".toList tail, afterStart "[CDATA[".toList tail,
      afterStart "DOCTYPE".toList tail with
  | some rest, _, _ => cutComment version rest
  | _, some rest, _ => cutSection version rest
  | _, _, some rest => cutDoctype rest
  | none, none, none => none

/-- The part at the beginning of a non-empty text, and what follows it. -/
def cutPart (version : Version) (cs : List Char) : Option (Part × List Char) :=
  match cs with
  | '<' :: '/' :: tail => cutCloseTag tail
  | '<' :: '!' :: tail => cutDeclaration version tail
  | '<' :: '?' :: tail => cutInstruction version tail
  | '<' :: tail => cutStartTag version tail
  | _ => some (.text (cs.takeWhile (· != '<')), cs.dropWhile (· != '<'))

/-- The parts of a document. Each takes at least one character, so `fuel` beyond their number is never
    used up. -/
def partsFrom (version : Version) : (fuel : Nat) → List Char → Option (List Part)
  | 0, _ => none
  | _ + 1, [] => some []
  | fuel + 1, cs => do
    let (part, rest) ← cutPart version cs
    let others ← partsFrom version fuel rest
    some (part :: others)

/-- The parts of a document. -/
def parts? (version : Version) (cs : List Char) : Option (List Part) :=
  partsFrom version (cs.length + 1) cs

end ControlPoint.Xml
