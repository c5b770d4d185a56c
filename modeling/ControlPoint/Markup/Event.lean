import ControlPoint.Markup.Attribute

/-!
A document as a sequence of events: tags, running text, references, and the parts that carry no
content. Close tags are compared with the open ones by their whole name; elements that are still
open at the end of the document are nobody's fault here.
-/

namespace ControlPoint.Markup

open Text

/-- One part of a document, with its text as written. -/
inductive Event
  | start (inside : List Char)
  | empty (inside : List Char)
  | close (name : List Char)
  | text (chars : List Char)
  | verbatim (chars : List Char)
  | reference (name : List Char)
  | comment
  | instruction
  | doctype
  deriving DecidableEq, Repr

/-- A place between two events: what is left, its byte offset, and the names of the open elements,
    innermost first. -/
structure Cursor where
  rest : List Char
  offset : Nat
  opened : List (List Char)

/-- What stands at a place: an event with the place after it, a fault with its position, or
    nothing. -/
inductive Step
  | event (e : Event) (after : Cursor)
  | fault (position : Nat) (fault : Fault)
  | finished

/-- What stands before and after the first closing bracket outside quotes. -/
def cutTag (quote : Option Char) : List Char → Option (List Char × List Char)
  | [] => none
  | c :: rest =>
    match quote with
    | some q =>
      (cutTag (if c == q then none else some q) rest).map fun (a, b) => (c :: a, b)
    | none =>
      if c == '>' then some ([], rest)
      else
        (cutTag (if c == '"' || c == '\'' then some c else none) rest).map
          fun (a, b) => (c :: a, b)

/-- What stands before and after the closing bracket that balances `depth` open brackets and the one
    before the text. -/
def cutBalanced (depth : Nat) : List Char → Option (List Char × List Char)
  | [] => none
  | c :: rest =>
    if c == '<' then (cutBalanced (depth + 1) rest).map fun (a, b) => (c :: a, b)
    else if c == '>' then
      match depth with
      | 0 => some ([], rest)
      | depth + 1 => (cutBalanced depth rest).map fun (a, b) => (c :: a, b)
    else (cutBalanced depth rest).map fun (a, b) => (c :: a, b)

/-- The event of a close tag, given what follows `</`. -/
def closeStep (place : Cursor) (tail : List Char) : Step :=
  match cutTag none tail with
  | none => .fault place.offset .tagOpen
  | some (inside, rest) =>
    let trimmed := (inside.reverse.dropWhile isMarkupBlank).reverse
    let name := if trimmed.isEmpty then inside else trimmed
    match place.opened with
    | [] => .fault place.offset (.unmatchedClose (String.ofList name))
    | expected :: opened =>
      if name = expected then
        .event (.close name) ⟨rest, place.offset + byteLength inside + 3, opened⟩
      else
        .fault place.offset (.mismatchedClose (String.ofList expected) (String.ofList name))

/-- The event of a start tag or an empty tag, given what follows `<`. -/
def openStep (place : Cursor) (tail : List Char) : Step :=
  match cutTag none tail with
  | none => .fault place.offset .tagOpen
  | some (inside, rest) =>
    let offset := place.offset + byteLength inside + 2
    match inside.reverse with
    | '/' :: reversed => .event (.empty reversed.reverse) ⟨rest, offset, place.opened⟩
    | _ => .event (.start inside) ⟨rest, offset, tagName inside :: place.opened⟩

/-- The event of a document type declaration, given what follows `<!`. The word `DOCTYPE` may be in
    any case. -/
def doctypeStep (place : Cursor) (tail : List Char) : Step :=
  match cutBalanced 0 tail with
  | none => .fault place.offset .doctypeOpen
  | some (inside, rest) =>
    if sameIgnoringCase (String.ofList (inside.take 7)) "doctype" then
      let offset := place.offset + byteLength inside + 3
      if (inside.drop 7).all isMarkupBlank then .fault (offset - 1) .doctypeUnnamed
      else .event .doctype ⟨rest, offset, place.opened⟩
    else .fault place.offset .doctypeOpen

/-- The event of markup that starts with `<!`, given what follows these two characters. -/
def declarationStep (place : Cursor) (tail : List Char) : Step :=
  match tail with
  | '[' :: _ =>
    match afterStart "[CDATA[".toList tail with
    | none => .fault place.offset .sectionOpen
    | some content =>
      match cutAtWord "]]>".toList content with
      | none => .fault place.offset .sectionOpen
      | some (chars, rest) =>
        .event (.verbatim chars) ⟨rest, place.offset + byteLength chars + 12, place.opened⟩
  | '-' :: _ =>
    match afterStart "--".toList tail with
    | none => .fault place.offset .commentOpen
    | some content =>
      match cutAtWord "-->".toList content with
      | none => .fault place.offset .commentOpen
      | some (chars, rest) =>
        .event .comment ⟨rest, place.offset + byteLength chars + 7, place.opened⟩
  | 'D' :: _ => doctypeStep place tail
  | 'd' :: _ => doctypeStep place tail
  | _ => .fault place.offset .unknownMarkup

/-- The event of a processing instruction, given what follows `<?`. -/
def instructionStep (place : Cursor) (tail : List Char) : Step :=
  match tail with
  | '>' :: _ => .fault place.offset .instructionOpen
  | _ =>
    match cutAtWord "?>".toList tail with
    | none => .fault place.offset .instructionOpen
    | some (inside, rest) =>
      .event .instruction ⟨rest, place.offset + byteLength inside + 4, place.opened⟩

/-- The event of a reference, given what follows the ampersand. -/
def referenceStep (place : Cursor) (tail : List Char) : Step :=
  let stops := fun c => c == ';' || c == '&' || c == '<'
  let name := tail.takeWhile fun c => !stops c
  match tail.dropWhile fun c => !stops c with
  | ';' :: rest =>
    .event (.reference name) ⟨rest, place.offset + byteLength name + 2, place.opened⟩
  | _ => .fault place.offset .referenceOpen

/-- What stands at a place of a document. -/
def Cursor.step (place : Cursor) : Step :=
  match place.rest with
  | [] => .finished
  | '<' :: '!' :: tail => declarationStep place tail
  | '<' :: '?' :: tail => instructionStep place tail
  | '<' :: '/' :: tail => closeStep place tail
  | '<' :: tail => openStep place tail
  | '&' :: tail => referenceStep place tail
  | cs =>
    let isText := fun c => !(c == '<' || c == '&')
    let chars := cs.takeWhile isText
    .event (.text chars) ⟨cs.dropWhile isText, place.offset + byteLength chars, place.opened⟩

/-- A document as read: its events, each with the offset after it, and how the reading ended: at the
    end of the document, or at a fault with its position. -/
structure Reading where
  events : List (Event × Nat)
  ending : Except (Nat × Fault) Nat

/-- The reading from a place on. Every event takes at least one character, so `fuel` beyond the
    number of characters left is never used up. -/
def Cursor.readAll : (fuel : Nat) → Cursor → Reading
  | 0, place => ⟨[], .ok place.offset⟩
  | fuel + 1, place =>
    match place.step with
    | .finished => ⟨[], .ok place.offset⟩
    | .fault position fault => ⟨[], .error (position, fault)⟩
    | .event e after =>
      let reading := Cursor.readAll fuel after
      ⟨(e, after.offset) :: reading.events, reading.ending⟩

/-- The document without a byte order mark; positions count from there. -/
def withoutMark (document : String) : List Char :=
  match document.toList with
  | '\uFEFF' :: rest => rest
  | cs => cs

/-- The reading of a document. -/
def Reading.ofDocument (document : String) : Reading :=
  let cs := withoutMark document
  Cursor.readAll (cs.length + 1) ⟨cs, 0, []⟩

end ControlPoint.Markup
