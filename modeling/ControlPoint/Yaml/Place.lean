/-!
Places in YAML documents: what is left of the text, with the line and the column that it starts at, and
the classes of characters that the reading asks for.
-/

namespace ControlPoint.Yaml

/-- A space or a tab. -/
def isBlank (c : Char) : Bool :=
  c == ' ' || c == '\t'

/-- A character that ends a line. -/
def isBreak (c : Char) : Bool :=
  c == '\n' || c == '\r' || c == '\u0085' || c == '\u2028' || c == '\u2029'

/-- A character that may stand in a document. -/
def isAllowed (c : Char) : Bool :=
  c == '\t' || c == '\n' || c == '\r' || c == '\u0085' ||
    (' ' ≤ c && c ≤ '~') || ('\u00A0' ≤ c && c ≤ '\uFFFD') || '\uFFFF' < c

/-- A character of the names of anchors, handles and directives. -/
def isWordChar (c : Char) : Bool :=
  c.isAlphanum || c == '_' || c == '-'

/-- Whether a text is at its end or goes on with a blank or a line break. -/
def endsWord (cs : List Char) : Bool :=
  match cs with
  | [] => true
  | c :: _ => isBlank c || isBreak c

/-- Whether a text is at its end or goes on with a line break. -/
def endsLine (cs : List Char) : Bool :=
  match cs with
  | [] => true
  | c :: _ => isBreak c

/-- A place in a document. All three numbers count characters and lines from zero. -/
structure Place where
  rest : List Char
  index : Nat
  line : Nat
  column : Nat

namespace Place

/-- The place after some characters of the same line. -/
def skip (p : Place) (count : Nat) : Place :=
  { p with rest := p.rest.drop count, index := p.index + count, column := p.column + count }

/-- The place after the characters of a kind, none of which ends a line. -/
def skipWhile (p : Place) (kind : Char → Bool) : Place :=
  p.skip (p.rest.takeWhile kind).length

/-- The place after a line break of some characters. -/
def nextLine (p : Place) (count : Nat) : Place :=
  ⟨p.rest.drop count, p.index + count, p.line + 1, 0⟩

/-- The line break at a place, as it counts in a text, and the place after it. All but two kinds of
    line breaks count as a line feed. -/
def lineBreak? (p : Place) : Option (Char × Place) :=
  match p.rest with
  | '\r' :: '\n' :: _ => some ('\n', p.nextLine 2)
  | c :: _ =>
    if c == '\u2028' || c == '\u2029' then some (c, p.nextLine 1)
    else if isBreak c then some ('\n', p.nextLine 1)
    else none
  | [] => none

/-- Whether a place is at the beginning of a line with the given three characters and nothing else,
    as far as the next blank. -/
def isMarker (mark : List Char) (p : Place) : Bool :=
  p.column == 0 && p.rest.take 3 == mark && endsWord (p.rest.drop 3)

/-- Whether a document begins or ends here by a marker. -/
def isDocumentMarker (p : Place) : Bool :=
  p.isMarker ['-', '-', '-'] || p.isMarker ['.', '.', '.']

end Place

end ControlPoint.Yaml
