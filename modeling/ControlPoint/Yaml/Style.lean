import ControlPoint.Yaml.Place
import ControlPoint.Yaml.Plain

/-!
The ways in which texts are written in YAML documents. A text is written plainly where it then reads as the
same text, and between quotation marks or as a block of lines otherwise.
-/

namespace ControlPoint.Yaml

/-- The ways to write a text. -/
inductive Style
  | plain
  | single
  | double
  | literal
  deriving DecidableEq, Repr

/-! ### Classes of characters -/

/-- A character that need not be escaped. -/
def isPrintable (c : Char) : Bool :=
  c == '\n' || (' ' ≤ c && c ≤ '~') || ('\u00A0' ≤ c && c ≤ '\uFFFD' && c != '\uFEFF') || '\uFFFF' < c

/-- Whether some character of the first kind stands right before one of the second. -/
def isFollowed (first second : Char → Bool) : List Char → Bool
  | [] => false
  | c :: rest => (first c && rest.head?.any second) || isFollowed first second rest

/-- A space or a character that ends a line. -/
def isGap (c : Char) : Bool :=
  c == ' ' || isBreak c

/-! ### What a text needs -/

/-- Whether a text begins like something other than a plain scalar. -/
def startsMarked (cs : List Char) : Bool :=
  match cs with
  | [] => false
  | c :: rest =>
    cs.take 3 == ['-', '-', '-'] || cs.take 3 == ['.', '.', '.'] ||
      ['#', ',', '[', ']', '\x7b', '\x7d', '&', '*', '!', '|', '>', '\'', '"', '%', '@', '\x60'].contains c ||
      (['?', ':', '-'].contains c && endsWord rest)

/-- Whether a text has a colon at the end of a word or a number sign at the beginning of one. -/
def hasInnerMark : List Char → Bool
  | [] => false
  | c :: rest =>
    (match rest with
      | ':' :: after => endsWord after
      | '#' :: _ => endsWord [c]
      | _ => false) || hasInnerMark rest

/-- Whether a text can only be written with escapes. -/
def needsEscapes (cs : List Char) : Bool :=
  !cs.all isPrintable || isFollowed (· == ' ') isBreak cs

/-- Whether a text can be written plainly, whatever it then reads as. -/
def canBePlain (cs : List Char) : Bool :=
  !needsEscapes cs && !cs.any isBreak && !cs.head?.any isGap && !cs.getLast?.any isGap &&
    !startsMarked cs && !hasInnerMark cs

/-- Whether a text can be written between single quotation marks. -/
def canBeSingle (cs : List Char) : Bool :=
  !needsEscapes cs && !isFollowed isBreak (· == ' ') cs

/-- Whether a text can be written as a block of lines. -/
def canBeLiteral (cs : List Char) : Bool :=
  !needsEscapes cs && cs.getLast? != some ' '

/-- Whether a text that is written plainly would read as something else, or nearly so. -/
def isAmbiguous (s : String) : Bool :=
  match plainValue? s with
  | some (.text _) => isZeroPadded (cutSign s.toList).2
  | some _ => true
  | none => false

/-- The way in which a text is written. -/
def styleOf (s : String) : Style :=
  let cs := s.toList
  if cs.contains '\n' then if canBeLiteral cs then .literal else .double
  else if canBePlain cs && !isAmbiguous s then .plain
  else if canBeSingle cs then .single
  else .double

/-! ### Quoted texts -/

/-- The letter that stands for a character after a backslash. -/
def escapeLetter? (c : Char) : Option Char :=
  ([('\x00', '0'), ('\x07', 'a'), ('\x08', 'b'), ('\t', 't'), ('\n', 'n'), ('\x0B', 'v'), ('\x0C', 'f'),
    ('\r', 'r'), ('\x1B', 'e'), ('"', '"'), ('\\', '\\'), ('\u0085', 'N'), ('\u00A0', '_'),
    ('\u2028', 'L'), ('\u2029', 'P')].find? fun (known, _) => known == c).map Prod.snd

/-- A number in upper-case hexadecimal digits, with zeros in front up to a width. -/
def hexDigits (width n : Nat) : List Char :=
  let digits := (Nat.toDigits 16 n).map Char.toUpper
  List.replicate (width - digits.length) '0' ++ digits

/-- A character between double quotation marks. -/
def escapedChar (c : Char) : List Char :=
  if isPrintable c && !isBreak c && c != '"' && c != '\\' then [c]
  else
    match escapeLetter? c with
    | some letter => ['\\', letter]
    | none =>
      let n := c.toNat
      if n < 0x100 then '\\' :: 'x' :: hexDigits 2 n
      else if n < 0x10000 then '\\' :: 'u' :: hexDigits 4 n
      else '\\' :: 'U' :: hexDigits 8 n

/-- A text between double quotation marks. -/
def doubleQuoted (cs : List Char) : List Char :=
  '"' :: cs.flatMap escapedChar ++ ['"']

/-- The inside of a text between single quotation marks. What goes on after line breaks is indented. -/
def singleInside (indent : Nat) (afterBreak : Bool) : List Char → List Char
  | [] => if afterBreak then List.replicate indent ' ' else []
  | c :: rest =>
    if isBreak c then c :: singleInside indent true rest
    else
      let start := if afterBreak then List.replicate indent ' ' else []
      let mark := if c == '\'' then ['\'', '\''] else [c]
      start ++ mark ++ singleInside indent false rest

/-- A text between single quotation marks. -/
def singleQuoted (indent : Nat) (cs : List Char) : List Char :=
  '\'' :: singleInside indent false cs ++ ['\'']

/-! ### Blocks of lines -/

/-- The head of a block of lines: its mark, a number if it does not start with a visible character, and
    what becomes of the line breaks at its end. -/
def literalHead (cs : List Char) : List Char :=
  let number := if cs.head?.any isGap then ['2'] else []
  let chomp := match cs.reverse with
    | [] => ['-']
    | c :: before =>
      if !isBreak c then ['-']
      else if before.isEmpty || before.head?.any isBreak then ['+']
      else []
  '|' :: number ++ chomp

/-- The lines of a block, of which those with any character are indented. -/
def literalLines (indent : Nat) (afterBreak : Bool) : List Char → List Char
  | [] => []
  | c :: rest =>
    if isBreak c then c :: literalLines indent true rest
    else (if afterBreak then List.replicate indent ' ' else []) ++ c :: literalLines indent false rest

/-- A text as a block of lines. -/
def literal (indent : Nat) (cs : List Char) : List Char :=
  literalHead cs ++ '\n' :: literalLines indent true cs

/-- A text as it is written, where further lines have the given indentation. -/
def writtenText (indent : Nat) (s : String) : List Char :=
  match styleOf s with
  | .plain => s.toList
  | .single => singleQuoted indent s.toList
  | .double => doubleQuoted s.toList
  | .literal => literal indent s.toList

end ControlPoint.Yaml
