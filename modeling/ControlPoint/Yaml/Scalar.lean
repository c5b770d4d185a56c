import ControlPoint.Markup.Reference
import ControlPoint.Yaml.Place

/-!
Scalars in YAML documents: plain ones, quoted ones and blocks of lines. Each reading gives the text, with
lines folded as its kind of scalar asks for, and the place after it.
-/

namespace ControlPoint.Yaml

/-! ### Gaps -/

/-- What stands between two words of a scalar: blanks within a line, or the first line break and the
    further ones. -/
structure Gap where
  blanks : List Char
  first : Option (List Char)
  others : List Char

namespace Gap

/-- No gap. -/
def none : Gap :=
  ⟨[], .none, []⟩

/-- What a gap leaves in the text. One line break is folded into a space; of more, the first is
    dropped. -/
def text (g : Gap) : List Char :=
  match g.first with
  | .none => g.blanks
  | some ['\n'] => if g.others.isEmpty then [' '] else g.others
  | some first => first ++ g.others

/-- Whether a gap goes over the end of a line. -/
def breaksLine (g : Gap) : Bool :=
  g.first.isSome

/-- Reads on in a gap. In front of the text of a line there is no tab before the column `margin`. -/
def read (margin : Nat) : (fuel : Nat) → Gap → Place → Option (Gap × Place)
  | 0, _, _ => .none
  | fuel + 1, g, p =>
    match p.lineBreak? with
    | some (c, after) =>
      if g.breaksLine then read margin fuel { g with others := g.others ++ [c] } after
      else read margin fuel ⟨[], some [c], g.others⟩ after
    | .none =>
      match p.rest with
      | [] => some (g, p)
      | c :: _ =>
        if !isBlank c then some (g, p)
        else if !g.breaksLine then
          read margin fuel { g with blanks := g.blanks ++ [c] } (p.skip 1)
        else if c == '\t' && p.column < margin then .none
        else read margin fuel g (p.skip 1)

end Gap

/-! ### Plain scalars -/

/-- The beginning of a text that belongs to a plain scalar. Between brackets a colon must not stand
    right before another mark. -/
def plainRun (inFlow : Bool) : List Char → Option (List Char)
  | [] => some []
  | c :: rest =>
    let mark := rest.head?.any fun next => [',', '?', '[', ']', '\x7b', '\x7d'].contains next
    if endsWord (c :: rest) then some []
    else if inFlow && c == ':' && mark then none
    else if c == ':' && endsWord rest then some []
    else if inFlow && [',', '[', ']', '\x7b', '\x7d'].contains c then some []
    else (plainRun inFlow rest).map (c :: ·)

/-- Reads on in a plain scalar of which `text` is read, up to a gap. The last gap does not belong to the
    text; whether it goes over the end of a line is told. A line that starts before the column
    `margin` ends the scalar, except between brackets. -/
def plainFrom (inFlow : Bool) (margin : Nat) :
    (fuel : Nat) → List Char → Gap → Place → Option (List Char × Bool × Place)
  | 0, _, _, _ => none
  | fuel + 1, text, gap, p =>
    if p.isDocumentMarker || p.rest.head? == some '#' then some (text, gap.breaksLine, p)
    else do
      let run ← plainRun inFlow p.rest
      let (text, gap) := if run.isEmpty then (text, gap) else (text ++ gap.text ++ run, Gap.none)
      let p := p.skip run.length
      if p.rest.isEmpty || !endsWord p.rest then some (text, gap.breaksLine, p)
      else
        let (gap, p) ← gap.read margin (p.rest.length + 1) p
        if !inFlow && p.column < margin then some (text, gap.breaksLine, p)
        else plainFrom inFlow margin fuel text gap p

/-- The plain scalar at a place, whether a line ends after it, and the place after it. -/
def plainScalar (inFlow : Bool) (margin : Nat) (p : Place) : Option (List Char × Bool × Place) :=
  plainFrom inFlow margin (p.rest.length + 1) [] Gap.none p

/-! ### Quoted scalars -/

/-- The characters that a backslash and one more character stand for. -/
def shortEscapes : List (Char × Char) :=
  [('0', '\x00'), ('a', '\x07'), ('b', '\x08'), ('t', '\t'), ('\t', '\t'), ('n', '\n'),
    ('v', '\x0B'), ('f', '\x0C'), ('r', '\r'), ('e', '\x1B'), (' ', ' '), ('"', '"'), ('/', '/'),
    ('\\', '\\'), ('N', '\u0085'), ('_', '\u00A0'), ('L', '\u2028'), ('P', '\u2029')]

/-- The number of hexadecimal digits after a backslash and a letter. -/
def escapeWidth? (c : Char) : Option Nat :=
  if c == 'x' then some 2 else if c == 'u' then some 4 else if c == 'U' then some 8 else none

/-- The number that hexadecimal digits stand for. -/
def hexValue? (digits : List Char) : Option Nat :=
  digits.foldlM (fun n c => (Markup.digitValue? 16 c).map (16 * n + ·)) 0

/-- The character that an escape stands for, given what follows the backslash, and the number of
    characters that follow it. -/
def escaped? (cs : List Char) : Option (Char × Nat) := do
  match cs with
  | [] => none
  | c :: rest =>
    match escapeWidth? c with
    | some width =>
      let code ← hexValue? (rest.take width)
      if width ≤ rest.length && code.isValidChar then some (Char.ofNat code, width + 1) else none
    | none => (shortEscapes.find? fun (key, _) => key == c).map fun (_, value) => (value, 1)

/-- What follows some characters of a quoted scalar without a gap: its end, a gap, or a line break that
    a backslash takes out of the text. -/
inductive RunEnd
  | quote
  | gap
  | escapedBreak
  deriving DecidableEq

/-- The characters up to the next gap of a quoted scalar, what follows them, and the place of that. -/
def quotedRun (single : Bool) : (fuel : Nat) → List Char → Place → Option (List Char × RunEnd × Place)
  | 0, _, _ => none
  | fuel + 1, text, p =>
    if endsWord p.rest then some (text, .gap, p)
    else
      match single, p.rest with
      | true, '\'' :: '\'' :: _ => quotedRun single fuel (text ++ ['\'']) (p.skip 2)
      | true, '\'' :: _ => some (text, .quote, p)
      | false, '"' :: _ => some (text, .quote, p)
      | false, '\\' :: rest =>
        match (p.skip 1).lineBreak? with
        | some (_, after) => some (text, .escapedBreak, after)
        | none => do
          let (c, count) ← escaped? rest
          quotedRun single fuel (text ++ [c]) (p.skip (count + 1))
      | _, c :: _ => quotedRun single fuel (text ++ [c]) (p.skip 1)
      | _, [] => none

/-- Reads on in a quoted scalar of which `text` is read. -/
def quotedFrom (single : Bool) : (fuel : Nat) → List Char → Place → Option (List Char × Place)
  | 0, _, _ => none
  | fuel + 1, text, p =>
    if p.isDocumentMarker || p.rest.isEmpty then none
    else do
      let (run, stop, p) ← quotedRun single (p.rest.length + 1) [] p
      match stop with
      | .quote => some (text ++ run, p.skip 1)
      | .gap =>
        let (gap, p) ← Gap.none.read 0 (p.rest.length + 1) p
        quotedFrom single fuel (text ++ run ++ gap.text) p
      | .escapedBreak =>
        if p.rest.head? == some '"' then some (text ++ run, p.skip 1)
        else
          let (gap, p) ← Gap.read 0 (p.rest.length + 1) ⟨[], some [], []⟩ p
          quotedFrom single fuel (text ++ run ++ gap.text) p

/-- The quoted scalar at a place and the place after it. -/
def quotedScalar (single : Bool) (p : Place) : Option (List Char × Place) :=
  quotedFrom single (p.rest.length + 1) [] (p.skip 1)

/-! ### Blocks of lines -/

/-- What becomes of the line breaks at the end of a block. -/
inductive Chomp
  | strip
  | clip
  | keep
  deriving DecidableEq

/-- The way to chomp that a mark stands for. -/
def Chomp.ofMark? (c : Char) : Option Chomp :=
  if c == '+' then some .keep else if c == '-' then some .strip else none

/-- The head of a block: how it is chomped and how far it is indented, zero if that is left open, and
    the place after it. -/
def blockHead (p : Place) : Option (Chomp × Nat × Place) :=
  let indentation (p : Place) : Option (Nat × Place) :=
    match p.rest with
    | c :: _ =>
      if c == '0' then none
      else if c.isDigit then some (c.toNat - '0'.toNat, p.skip 1)
      else some (0, p)
    | [] => some (0, p)
  let mark (p : Place) : Option (Chomp × Place) :=
    (p.rest.head?.bind Chomp.ofMark?).map fun chomp => (chomp, p.skip 1)
  match mark p with
  | some (chomp, p) => do
    let (count, p) ← indentation p
    some (chomp, count, p)
  | none => do
    let (count, p) ← indentation p
    let (chomp, p) := (if count == 0 then none else mark p).getD (.clip, p)
    some (chomp, count, p)

/-- Reads on over empty lines in front of the text of a block. `indent` is the indentation of the block,
    zero if it is still open, and `widest` the widest one seen. -/
def emptyLines (indent : Nat) :
    (fuel : Nat) → (widest : Nat) → List Char → Place → Option (Nat × List Char × Place)
  | 0, _, _, _ => none
  | fuel + 1, widest, breaks, p =>
    let spaces := (p.rest.takeWhile (· == ' ')).length
    let p := p.skip (if indent == 0 then spaces else min spaces (indent - p.column))
    let widest := max widest p.column
    if (indent == 0 || p.column < indent) && p.rest.head? == some '\t' then none
    else
      match p.lineBreak? with
      | some (c, after) => emptyLines indent fuel widest (breaks ++ [c]) after
      | none => some (widest, breaks, p)

/-- A block of which some lines are read: the text, the line break after it, the line breaks after
    that, and whether the last line starts with a blank. -/
structure Block where
  text : List Char
  lastBreak : List Char
  others : List Char
  startsBlank : Bool

/-- The text of a block at the beginning of a line. In a folded block, a line break between two lines
    that do not start with a blank is a space. -/
def Block.joined (b : Block) (folded startsBlank : Bool) : List Char :=
  if folded && b.lastBreak == ['\n'] && !b.startsBlank && !startsBlank then
    b.text ++ (if b.others.isEmpty then [' '] else b.others)
  else b.text ++ b.lastBreak ++ b.others

/-- Reads on in a block, line by line. -/
def Block.readFrom (folded : Bool) (indent : Nat) :
    (fuel : Nat) → Block → Place → Option (Block × Place)
  | 0, _, _ => none
  | fuel + 1, b, p =>
    if p.column != indent || p.rest.isEmpty then some (b, p)
    else do
      let startsBlank := p.rest.head?.any isBlank
      let line := p.rest.takeWhile fun c => !isBreak c
      let p := p.skip line.length
      let (lastBreak, p) := match p.lineBreak? with
        | some (c, after) => ([c], after)
        | none => ([], p)
      let (_, others, p) ← emptyLines indent (p.rest.length + 1) 0 [] p
      Block.readFrom folded indent fuel
        ⟨b.joined folded startsBlank ++ line, lastBreak, others, startsBlank⟩ p

/-- The text of a whole block. -/
def Block.chomped (b : Block) (chomp : Chomp) : List Char :=
  match chomp with
  | .strip => b.text
  | .clip => b.text ++ b.lastBreak
  | .keep => b.text ++ b.lastBreak ++ b.others

/-- The place after the blanks and the comment at the end of a line, if nothing else stands there. -/
def Place.lineRest? (p : Place) : Option Place :=
  let p := p.skipWhile isBlank
  let p := if p.rest.head? == some '#' then p.skipWhile fun c => !isBreak c else p
  if endsLine p.rest then some p else none

/-- The block of lines at a place and the place after it. `outer` is the indentation of what the block
    is in, negative outside of everything. -/
def blockScalar (folded : Bool) (outer : Int) (p : Place) : Option (List Char × Place) := do
  let (chomp, count, p) ← blockHead (p.skip 1)
  let p ← p.lineRest?
  let p := match p.lineBreak? with
    | some (_, after) => after
    | none => p
  let given := if count == 0 then 0 else (max outer 0).toNat + count
  let (widest, others, p) ← emptyLines given (p.rest.length + 1) 0 [] p
  let indent := if given == 0 then max widest (max (outer + 1).toNat 1) else given
  let (b, p) ← Block.readFrom folded indent (p.rest.length + 1) ⟨[], [], others, false⟩ p
  some (b.chomped chomp, p)

end ControlPoint.Yaml
