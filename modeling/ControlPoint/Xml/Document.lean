import ControlPoint.Markup.Event
import ControlPoint.Xml.Element
import ControlPoint.Xml.Part

/-!
The reading of XML documents: the declaration, the tree of elements, and the prefixes of names, each of
which has to be declared around the place of its use. A text of nothing but white space between two
pieces of markup does not count, unless it follows a section with something in it. More than one
element may stand at the top; the first is the one that counts.
-/

namespace ControlPoint.Xml

open Text

/-! ### The declaration -/

/-- A word with a quoted value after white space, as it stands in a declaration, and what follows. -/
def cutSetting (word : String) (cs : List Char) : Option (String × List Char) := do
  match cs with
  | [] => none
  | blank :: _ =>
    if isMarkupBlank blank then
      let rest ← afterStart word.toList (cs.dropWhile isMarkupBlank)
      let (value, rest) ← cutValue .first rest
      some (String.ofList value, rest)
    else none

/-- The character sets in which a document may say that it is written. -/
def knownEncodings : List String :=
  ["utf-8", "utf8", "iso-8859-1", "latin1", "ascii", "us-ascii"]

/-- What follows the setting of a character set, if there is one. -/
def afterEncoding (cs : List Char) : Option (List Char) :=
  match cutSetting "encoding" cs with
  | some (value, rest) => if knownEncodings.contains (lowerAscii value) then some rest else none
  | none => some cs

/-- What follows the setting that says whether a document stands alone, if there is one. -/
def afterStandalone (cs : List Char) : Option (List Char) :=
  match cutSetting "standalone" cs with
  | some (value, rest) => if value == "yes" || value == "no" then some rest else none
  | none => some cs

/-- The edition named by a declaration. -/
def Version.ofText? (text : String) : Option Version :=
  if text == "1.0" then some .first else if text == "1.1" then some .second else none

/-- The edition that a document declares, and what follows the declaration. Without a declaration it
    is the first edition. -/
def cutXmlDeclaration (cs : List Char) : Option (Version × List Char) := do
  match afterStart "<?xml".toList cs with
  | none => some (.first, cs)
  | some rest =>
    if (rest.head?.map isMarkupBlank).getD false then
      let (text, rest) ← cutSetting "version" rest
      let version ← Version.ofText? text
      let rest ← afterEncoding rest
      let rest ← afterStandalone rest
      let rest ← afterStart "?>".toList (rest.dropWhile isMarkupBlank)
      some (version, rest)
    else some (.first, cs)

/-! ### The tree -/

/-- An element that is still open: what stands in its start tag, and its texts and the elements inside
    it so far, both reversed. -/
structure OpenElement where
  name : String
  attributes : List (String × String)
  texts : List (List Char)
  children : List Element

/-- The element as it is when its close tag comes. -/
def OpenElement.finish (o : OpenElement) : Element :=
  .mk o.name o.attributes
    (if o.texts.isEmpty then none else some (String.ofList o.texts.reverse.flatten))
    o.children.reverse

/-- A tree under construction: the elements still open, innermost first; the finished ones at the top,
    reversed; whether a document type came; and whether a section with something in it came last. -/
structure Building where
  opened : List OpenElement
  roots : List Element
  hasDoctype : Bool
  keepsBlank : Bool

namespace Building

/-- The tree before the first part. -/
def start : Building :=
  ⟨[], [], false, false⟩

/-- Adds a finished element. -/
def addElement (b : Building) (e : Element) : Building :=
  match b.opened with
  | [] => { b with roots := e :: b.roots, keepsBlank := false }
  | o :: outer =>
    { b with opened := { o with children := e :: o.children } :: outer, keepsBlank := false }

/-- Adds a text to the innermost open element, if it counts. -/
def addText (version : Version) (b : Building) (raw : List Char) : Option Building :=
  match b.opened with
  | [] => if raw.all isMarkupBlank then some { b with keepsBlank := false } else none
  | o :: outer => do
    if (cutAtWord "]]>".toList raw).isSome then none
    let text ← resolved? version raw
    if text.all isMarkupBlank && !b.keepsBlank then some { b with keepsBlank := false }
    else some { b with opened := { o with texts := text :: o.texts } :: outer, keepsBlank := false }

/-- A list of attributes without a name that comes twice. Declarations of prefixes may do so. -/
def areDistinct : List (String × String) → Bool
  | [] => true
  | (name, _) :: rest =>
    (name == "xmlns" || scopeName name == "xmlns" || rest.all fun (other, _) => other != name) &&
      areDistinct rest

/-- Adds a part. -/
def add (version : Version) (b : Building) (part : Part) : Option Building :=
  match part with
  | .start name attributes =>
    if areDistinct attributes then
      some { b with opened := ⟨name, attributes, [], []⟩ :: b.opened, keepsBlank := false }
    else none
  | .empty name attributes =>
    if areDistinct attributes then some (b.addElement (.mk name attributes none [])) else none
  | .close name =>
    match b.opened with
    | [] => none
    | o :: outer =>
      if o.name == name then some ({ b with opened := outer }.addElement o.finish) else none
  | .text raw => b.addText version raw
  | .verbatim chars =>
    match b.opened with
    | [] => none
    | o :: outer => some { b with
        opened := { o with texts := chars :: o.texts } :: outer
        keepsBlank := !chars.all isMarkupBlank }
  | .aside => some { b with keepsBlank := false }
  | .doctype =>
    if b.opened.isEmpty && b.roots.isEmpty && !b.hasDoctype then
      some { b with hasDoctype := true, keepsBlank := false }
    else none

/-- Adds parts, one after another. -/
def addAll (version : Version) (b : Building) : List Part → Option Building
  | [] => some b
  | part :: rest => do addAll version (← b.add version part) rest

end Building

/-! ### Prefixes -/

/-- The names of namespaces by prefix, the innermost declaration first. The empty prefix is that of
    names without one. -/
abbrev Prefixes := List (String × String)

/-- The namespaces whose prefixes no document declares. -/
def reservedNamespaces : List (String × String) :=
  [("xml", "http://www.w3.org/XML/1998/namespace"), ("xmlns", "http://www.w3.org/2000/xmlns/")]

/-- The prefix that an attribute declares. -/
def declaredPrefix? (name : String) : Option String :=
  if name == "xmlns" then some ""
  else if scopeName name == "xmlns" then some (localName name)
  else none

/-- Whether a prefix may stand for a namespace. -/
def isDeclarable (scope namespaceName : String) : Bool :=
  if scope == "" then
    reservedNamespaces.all fun (name, uri) => namespaceName != name && namespaceName != uri
  else if scope == "xmlns" then false
  else if scope == "xml" then reservedNamespaces.contains (scope, namespaceName)
  else namespaceName != ""

/-- The prefixes declared in a tag. -/
def declarations (attributes : List (String × String)) : Prefixes :=
  attributes.filterMap fun (name, value) => (declaredPrefix? name).map fun scope => (scope, value)

/-- Whether a prefix is declared. A name without one needs no declaration. -/
def isDeclared (known : Prefixes) (scope : String) : Bool :=
  scope == "" || known.any fun (name, _) => name == scope

/-- Whether a tag declares only what may be declared and uses only what is. -/
def isTagScoped (known : Prefixes) (name : String) (attributes : List (String × String)) : Bool :=
  (declarations attributes).all (fun (scope, uri) => isDeclarable scope uri) &&
    !reservedNamespaces.any (fun (reserved, _) => scopeName name == reserved) &&
    isDeclared known (scopeName name) &&
    attributes.all fun (key, _) => (declaredPrefix? key).isSome || isDeclared known (scopeName key)

mutual

/-- Whether all names in an element have their prefixes declared. -/
def isScoped (known : Prefixes) : Element → Bool
  | .mk name attributes _ children =>
    isTagScoped (declarations attributes ++ known) name attributes &&
      areScoped (declarations attributes ++ known) children
termination_by structural e => e

/-- Whether all names in elements have their prefixes declared. -/
def areScoped (known : Prefixes) : List Element → Bool
  | [] => true
  | e :: rest => isScoped known e && areScoped known rest
termination_by structural elements => elements

end

/-! ### Whole documents -/

/-- The elements at the top of a document without a byte order mark, in order. -/
def topElements? (cs : List Char) : Option (List Element) := do
  let (version, rest) ← cutXmlDeclaration cs
  let parts ← parts? version rest
  let b ← Building.start.addAll version parts
  if b.opened.isEmpty && areScoped reservedNamespaces b.roots.reverse then some b.roots.reverse
  else none

/-- The first element at the top of a document, if the whole document is without fault. -/
def read? (document : String) : Option Element := do
  let elements ← topElements? (Markup.withoutMark document)
  elements.head?

end ControlPoint.Xml
