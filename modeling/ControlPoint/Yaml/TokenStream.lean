import ControlPoint.Yaml.Token

/-!
The tokens of a whole text. Blocks follow from the columns at which their entries begin, and a key is
known as one only at the colon after it, so the tokens that go before a key are put in afterwards.
-/

namespace ControlPoint.Yaml

/-- A place where a key may begin, and the number of tokens before it. At the column of an open block
    nothing but a key can stand. -/
structure KeyStart where
  place : Place
  number : Nat
  isRequired : Bool

/-- Whether the colon after a key can still come. It must stand in the line of the key, and not too far
    behind it. -/
def KeyStart.reaches (k : KeyStart) (p : Place) : Bool :=
  p.line ≤ k.place.line && p.index ≤ k.place.index + 1024

/-- The tokens up to a place in a text: the columns of the open blocks and the keys that may have begun
    between the open brackets, innermost first, and whether a key may begin here. -/
structure TokenStream where
  place : Place
  tokens : List Token
  blocks : List Nat
  keyStart : Option KeyStart
  outerStarts : List (Option KeyStart)
  keyAllowed : Bool

namespace TokenStream

/-- The stream at the beginning of a text. -/
def ofChars (cs : List Char) : TokenStream :=
  ⟨⟨cs, 0, 0, 0⟩, [], [], none, [], true⟩

/-- Whether a bracket is open. -/
def inFlow (s : TokenStream) : Bool :=
  !s.outerStarts.isEmpty

/-- The column of the innermost block, negative if there is none. -/
def indent (s : TokenStream) : Int :=
  match s.blocks with
  | [] => -1
  | column :: _ => column

/-- The stream after one more token, at the same place. -/
def push (s : TokenStream) (t : Token) : TokenStream :=
  { s with tokens := s.tokens ++ [t] }

/-- The stream after a token that is written with some characters. -/
def take (s : TokenStream) (t : Token) (width : Nat) : TokenStream :=
  { s.push t with place := s.place.skip width }

/-- The stream with its last word on whether a key may begin. -/
def allowKey (s : TokenStream) (allowed : Bool) : TokenStream :=
  { s with keyAllowed := allowed }

/-! ### Keys -/

/-- Gives up the key that may have begun, which fails if there must be one. -/
def forgetKey (s : TokenStream) : Option TokenStream :=
  if s.keyStart.any KeyStart.isRequired then none else some { s with keyStart := none }

/-- Notes that a key may begin with the next token. -/
def noteKey (s : TokenStream) : Option TokenStream :=
  if s.keyAllowed then do
    let start := ⟨s.place, s.tokens.length, !s.inFlow && s.indent == s.place.column⟩
    let s ← s.forgetKey
    some { s with keyStart := some start }
  else some s

/-- Gives up the keys whose colon cannot come any more. -/
def dropStaleKeys (s : TokenStream) : Option TokenStream := do
  let current (start : Option KeyStart) : Option (Option KeyStart) :=
    match start with
    | some k => if k.reaches s.place then some start else if k.isRequired then none else some none
    | none => some none
  let keyStart ← current s.keyStart
  let outerStarts ← s.outerStarts.mapM current
  some { s with keyStart := keyStart, outerStarts := outerStarts }

/-! ### Blocks -/

/-- Closes the blocks that are indented further than a column. Between brackets there are none. -/
def closeBlocks (s : TokenStream) (column : Int) : TokenStream :=
  if s.inFlow then s
  else
    let closed := s.blocks.takeWhile fun block : Nat => column < block
    { s with
      tokens := s.tokens ++ closed.map fun _ => Token.blockEnd
      blocks := s.blocks.drop closed.length }

/-- Opens a block at a column, unless it is open. Its token becomes the one of the given number. -/
def openBlock (s : TokenStream) (t : Token) (number column : Nat) : TokenStream :=
  if !s.inFlow && s.indent < column then
    { s with tokens := s.tokens.insertIdx number t, blocks := column :: s.blocks }
  else s

/-- Opens a block for an entry at the current place. Outside of brackets, one can begin only where a
    key can. -/
def openHere (s : TokenStream) (t : Token) : Option TokenStream :=
  if s.inFlow then some s
  else if s.keyAllowed then some (s.openBlock t s.tokens.length s.place.column)
  else none

/-! ### Tokens -/

/-- Reads a directive. -/
def directive (s : TokenStream) : Option TokenStream := do
  let s ← (s.closeBlocks (-1)).forgetKey
  let (token, p) ← cutDirective s.place
  some { s.push token with place := p, keyAllowed := false }

/-- Reads a document marker. -/
def marker (s : TokenStream) (t : Token) : Option TokenStream := do
  let s ← (s.closeBlocks (-1)).forgetKey
  some ((s.allowKey false).take t 3)

/-- Reads an opening bracket. -/
def openBracket (s : TokenStream) (t : Token) : Option TokenStream := do
  let s ← s.noteKey
  some ({ s with
    keyStart := none
    outerStarts := s.keyStart :: s.outerStarts
    keyAllowed := true }.take t 1)

/-- Reads a closing bracket. -/
def closeBracket (s : TokenStream) (t : Token) : Option TokenStream := do
  let s ← s.forgetKey
  some ({ s with
    keyStart := s.outerStarts.head?.join
    outerStarts := s.outerStarts.tail
    keyAllowed := false }.take t 1)

/-- Reads a comma. -/
def comma (s : TokenStream) : Option TokenStream := do
  let s ← s.forgetKey
  some ((s.allowKey true).take .comma 1)

/-- Reads the mark of an item. -/
def item (s : TokenStream) : Option TokenStream := do
  let s ← s.openHere .sequenceBlock
  let s ← s.forgetKey
  some ((s.allowKey true).take .item 1)

/-- Reads the mark of a key. -/
def key (s : TokenStream) : Option TokenStream := do
  let s ← s.openHere .mappingBlock
  let s ← s.forgetKey
  some ((s.allowKey !s.inFlow).take .key 1)

/-- Reads the mark of a value. What was noted as a key now is one. -/
def value (s : TokenStream) : Option TokenStream := do
  let s ← match s.keyStart with
    | some k =>
      let s := { s with tokens := s.tokens.insertIdx k.number Token.key, keyStart := none }
      some ((s.openBlock .mappingBlock k.number k.place.column).allowKey false)
    | none => (s.openHere .mappingBlock).map fun s => s.allowKey !s.inFlow
  some (s.take .value 1)

/-- Reads a token that a key may begin with and that is followed by nothing but the colon. -/
def within (s : TokenStream) (cut : Place → Option (Token × Place)) : Option TokenStream := do
  let s ← s.noteKey
  let (token, p) ← cut s.place
  some { s.push token with place := p, keyAllowed := false }

/-- Reads a block of lines. -/
def block (s : TokenStream) (folded : Bool) : Option TokenStream := do
  let s ← s.forgetKey
  let (text, p) ← blockScalar folded s.indent s.place
  some { s.push (.scalar (String.ofList text) false) with place := p, keyAllowed := true }

/-- Reads a quoted scalar. -/
def quoted (s : TokenStream) (single : Bool) : Option TokenStream :=
  s.within fun p => do
    let (text, p) ← quotedScalar single p
    some (.scalar (String.ofList text) false, p)

/-- Reads a plain scalar. After the end of a line a key may begin again. -/
def plain (s : TokenStream) : Option TokenStream := do
  let s ← s.noteKey
  let (text, breaksLine, p) ← plainScalar s.inFlow (s.indent + 1).toNat s.place
  some { s.push (.scalar (String.ofList text) true) with place := p, keyAllowed := breaksLine }

/-- Whether a plain scalar can begin with a text. -/
def startsPlain (inFlow : Bool) (cs : List Char) : Bool :=
  match cs with
  | [] => false
  | c :: rest =>
    if c == '-' then !rest.head?.any isBlank
    else if c == '?' || c == ':' then !inFlow && !endsWord rest
    else !(endsWord cs || [',', '[', ']', '\x7b', '\x7d', '#', '&', '*', '!', '|', '>', '\'', '"', '%',
      '@', '\x60'].contains c)

/-- Reads the next token, which begins at the place. -/
def readToken (s : TokenStream) : Option TokenStream :=
  let p := s.place
  let alone := endsWord (p.rest.drop 1)
  if p.isMarker ['-', '-', '-'] then s.marker .documentStart
  else if p.isMarker ['.', '.', '.'] then s.marker .documentEnd
  else
    match p.rest.head? with
    | some '[' => s.openBracket .sequenceOpen
    | some '\x7b' => s.openBracket .mappingOpen
    | some ']' => s.closeBracket .sequenceClose
    | some '\x7d' => s.closeBracket .mappingClose
    | some ',' => s.comma
    | some '*' => s.within fun p => (anchorName p).map fun (name, p) => (.reference name, p)
    | some '&' => s.within fun p => (anchorName p).map fun (name, p) => (.anchor name, p)
    | some '!' => s.within (cutTag s.inFlow)
    | some '\'' => s.quoted true
    | some '"' => s.quoted false
    | some c =>
      if c == '%' && p.column == 0 then s.directive
      else if c == '-' && alone then s.item
      else if c == '?' && (s.inFlow || alone) then s.key
      else if c == ':' && (s.inFlow || alone) then s.value
      else if (c == '|' || c == '>') && !s.inFlow then s.block (c == '>')
      else if startsPlain s.inFlow p.rest then s.plain
      else none
    | none => none

/-! ### The whole text -/

/-- Goes on to the beginning of the next token, over blanks, comments and line breaks. A tab does not
    stand where a key may begin. Outside of brackets, a new line may begin with a key. -/
def toToken : (fuel : Nat) → TokenStream → TokenStream
  | 0, s => s
  | fuel + 1, s =>
    let tabs := s.inFlow || !s.keyAllowed
    let p := s.place.skipWhile fun c => c == ' ' || (tabs && c == '\t')
    let p := if p.rest.head? == some '#' then p.skipWhile fun c => !isBreak c else p
    match p.lineBreak? with
    | some (_, after) => toToken fuel { s with place := after, keyAllowed := s.keyAllowed || !s.inFlow }
    | none => { s with place := p }

/-- Reads the tokens from a place on. -/
def readAll : (fuel : Nat) → TokenStream → Option TokenStream
  | 0, _ => none
  | fuel + 1, s => do
    let s ← (s.toToken (s.place.rest.length + 1)).dropStaleKeys
    let s := s.closeBlocks s.place.column
    if s.place.rest.isEmpty then (s.closeBlocks (-1)).forgetKey
    else
      let s ← s.readToken
      readAll fuel s

end TokenStream

/-- The tokens of a text, if there are any such. A byte order mark counts as a column. -/
def tokens? (text : String) : Option (List Token) := do
  let cs := text.toList
  if !cs.all isAllowed then none
  let s := TokenStream.ofChars cs
  let s := if cs.head? == some '\uFEFF' then { s with place := s.place.skip 1 } else s
  let s ← TokenStream.readAll (cs.length + 1) s
  some s.tokens

end ControlPoint.Yaml
