import ControlPoint.Markup.Event

/-!
A document as a sequence of tokens: tags with their decoded attributes, and texts. Everything that
runs between two tags, across comments and instructions, is one text, cut of white space at both
ends; a blank text is no token.
-/

namespace ControlPoint.Markup

open Text

/-- A tag, or the text between two tags. -/
inductive Token
  | start (element : Element)
  | empty (element : Element)
  | close (name : String)
  | text (text : String)
  deriving DecidableEq, Repr

/-- The local name of a tag's element. -/
def Token.elementName? : Token → Option String
  | .start e => some e.name
  | .empty e => some e.name
  | .close name => some name
  | .text _ => none

/-- Whether a token is a text. -/
def Token.isText : Token → Bool
  | .text _ => true
  | _ => false

/-- What an event adds to a document: a tag, characters of running text, or nothing. -/
inductive Content
  | tag (token : Token)
  | chars (chars : List Char)
  | nothing
  deriving DecidableEq, Repr

/-- The content of an event, with attributes and references decoded. -/
def Event.content : Event → Except Fault Content
  | .start inside => (Element.ofTag inside).map fun e => .tag (.start e)
  | .empty inside => (Element.ofTag inside).map fun e => .tag (.empty e)
  | .close name => .ok (.tag (.close (String.ofList (localName name))))
  | .text chars => .ok (.chars chars)
  | .verbatim chars => .ok (.chars chars)
  | .reference name => (resolveReference name).map .chars
  | .comment => .ok .nothing
  | .instruction => .ok .nothing
  | .doctype => .ok .nothing

/-- The token for the characters gathered between two tags, if they are not blank. -/
def textToken (gathered : List Char) : List Token :=
  match trimChars gathered with
  | [] => []
  | cs => [.text (String.ofList cs)]

/-- A document as scanned: its tokens, each with the offset at which it was known to be complete,
    and how the scanning ended. -/
structure Scan where
  tokens : List (Token × Nat)
  ending : Except (Nat × Fault) Nat

/-- The scan of a reading from an event on, with the characters gathered since the last tag. -/
def Scan.ofEvents (gathered : List Char) (ending : Except (Nat × Fault) Nat) :
    List (Event × Nat) → Scan
  | [] =>
    match ending with
    | .ok stop => ⟨(textToken gathered).map (·, stop), .ok stop⟩
    | .error fault => ⟨[], .error fault⟩
  | (event, stop) :: rest =>
    match event.content with
    | .error fault => ⟨[], .error (stop, fault)⟩
    | .ok .nothing => Scan.ofEvents gathered ending rest
    | .ok (.chars cs) => Scan.ofEvents (gathered ++ cs) ending rest
    | .ok (.tag token) =>
      let scan := Scan.ofEvents [] ending rest
      ⟨(textToken gathered ++ [token]).map (·, stop) ++ scan.tokens, scan.ending⟩

/-- The scan of a document. -/
def Scan.ofDocument (document : String) : Scan :=
  let reading := Reading.ofDocument document
  Scan.ofEvents [] reading.ending reading.events

end ControlPoint.Markup
