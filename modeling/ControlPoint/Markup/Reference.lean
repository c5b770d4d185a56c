import ControlPoint.Markup.Fault
import ControlPoint.Text.Split

/-!
Entities and character references. The five predefined entities and numeric references stand for
characters; what else is written between an ampersand and a semicolon is unknown.
-/

namespace ControlPoint.Markup

/-- The value of a digit in a base up to sixteen. -/
def digitValue? (base : Nat) (c : Char) : Option Nat :=
  let value :=
    if c.isDigit then some (c.toNat - '0'.toNat)
    else if 'a' ≤ c && c ≤ 'f' then some (c.toNat - 'a'.toNat + 10)
    else if 'A' ≤ c && c ≤ 'F' then some (c.toNat - 'A'.toNat + 10)
    else none
  value.filter (· < base)

/-- Reads digits from left to right; the first character that is no digit or makes the number
    exceed 32 bits decides the fault. -/
def codeFrom (base value : Nat) : List Char → Except ReferenceFault Nat
  | [] => .ok value
  | c :: rest =>
    match digitValue? base c with
    | none => .error .digit
    | some d =>
      let next := value * base + d
      if next < Nat.pow 2 32 then codeFrom base next rest else .error .tooLarge

/-- The number written by `digits` in a base; a sign is no digit. -/
def readCode (base : Nat) (digits : List Char) : Except ReferenceFault Nat :=
  match digits with
  | [] => .error .empty
  | '+' :: _ => .error .sign
  | '-' :: _ => .error .sign
  | _ => codeFrom base 0 digits

/-- The character of a numeric reference, given what follows the number sign. Only a lower-case `x`
    makes the number hexadecimal. -/
def numericReference (digits : List Char) : Except ReferenceFault Char := do
  let code ← match digits with
    | 'x' :: hex => readCode 16 hex
    | _ => readCode 10 digits
  if code = 0 then .error .zero
  else if code.isValidChar then .ok (Char.ofNat code)
  else .error (.notScalar code)

/-- The character of a predefined entity. -/
def predefinedEntity? (name : String) : Option Char :=
  if name == "lt" then some '<'
  else if name == "gt" then some '>'
  else if name == "amp" then some '&'
  else if name == "apos" then some '\''
  else if name == "quot" then some '"'
  else none

/-- The characters for a reference in running text. An unknown entity stays as it is written. -/
def resolveReference (name : List Char) : Except Fault (List Char) :=
  match name with
  | '#' :: digits => (numericReference digits).mapError .reference |>.map ([·])
  | _ =>
    match predefinedEntity? (String.ofList name) with
    | some c => .ok [c]
    | none => .ok ('&' :: name ++ [';'])

/-- The number of bytes that a text takes in UTF-8. -/
def byteLength (cs : List Char) : Nat :=
  cs.foldl (fun sum c => sum + c.utf8Size) 0

/-- Resolves the references in an attribute's value. `pending` holds what stands since the last
    ampersand, reversed, with the offset of that ampersand; `offset` is the place reached. A
    reference ends at the first semicolon and must not contain another ampersand. -/
def unescapeFrom (total offset : Nat) (pending : Option (Nat × List Char)) :
    List Char → Except Fault (List Char)
  | [] =>
    match pending with
    | some (start, _) => .error (.entityOpen start total)
    | none => .ok []
  | c :: rest =>
    let next := offset + c.utf8Size
    match pending with
    | none =>
      if c == '&' then unescapeFrom total next (some (offset, [])) rest
      else (unescapeFrom total next none rest).map (c :: ·)
    | some (start, name) =>
      if c == '&' then .error (.entityOpen start total)
      else if c == ';' then
        match name.reverse with
        | '#' :: digits =>
          match numericReference digits with
          | .error fault => .error (.reference fault)
          | .ok resolved => (unescapeFrom total next none rest).map (resolved :: ·)
        | entity =>
          match predefinedEntity? (String.ofList entity) with
          | none => .error (.unknownEntity (start + 1) offset (String.ofList entity))
          | some resolved => (unescapeFrom total next none rest).map (resolved :: ·)
      else unescapeFrom total next (some (start, c :: name)) rest

/-- The value of an attribute with its references resolved. -/
def unescapeValue (raw : List Char) : Except Fault (List Char) :=
  unescapeFrom (byteLength raw) 0 none raw

end ControlPoint.Markup
