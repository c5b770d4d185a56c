import ControlPoint.Markup.Reference
import ControlPoint.Yaml.Value

/-!
What scalars stand for: null, true and false, numbers, and texts for all the rest.
-/

namespace ControlPoint.Yaml

open Number

/-- The words for null. -/
def nullWords : List String :=
  ["null", "Null", "NULL", "~"]

/-- What a word for true or false stands for. -/
def flagOf? (s : String) : Option Bool :=
  if ["true", "True", "TRUE"].contains s then some true
  else if ["false", "False", "FALSE"].contains s then some false
  else none

/-! ### Numbers -/

/-- The number of some digits, at least one. -/
def numberOf? (base : Nat) (digits : List Char) : Option Nat :=
  if digits.isEmpty then none
  else digits.foldlM (fun n c => (Markup.digitValue? base c).map (base * n + ·)) 0

/-- A zero and further digits. They are the text of an identifier and not a number. -/
def isZeroPadded (digits : List Char) : Bool :=
  match digits with
  | '0' :: rest => !rest.isEmpty && rest.all Char.isDigit
  | _ => false

/-- A whole number without a sign: decimal, or in one of three bases after a zero and a letter. -/
def unsigned? (cs : List Char) : Option Nat :=
  match cs with
  | '0' :: 'x' :: digits => numberOf? 16 digits
  | '0' :: 'o' :: digits => numberOf? 8 digits
  | '0' :: 'b' :: digits => numberOf? 2 digits
  | _ => if isZeroPadded cs then none else numberOf? 10 cs

/-- A sign, if there is one, and what follows it. -/
def cutSign (cs : List Char) : Option Char × List Char :=
  match cs with
  | '+' :: rest => (some '+', rest)
  | '-' :: rest => (some '-', rest)
  | _ => (none, cs)

/-- A whole number that fits 128 bits. -/
def whole? (s : String) : Option Int := do
  let (sign, rest) := cutSign s.toList
  let n ← unsigned? rest
  if sign == some '-' then if n ≤ Nat.pow 2 127 then some (-Int.ofNat n) else none
  else if n < Nat.pow 2 128 then some (Int.ofNat n)
  else none

/-- Whether a whole number fits 64 bits. A larger one cannot be a value. -/
def isHeld (n : Int) : Bool :=
  -Int.ofNat (Nat.pow 2 63) ≤ n && n < Int.ofNat (Nat.pow 2 64)

/-- A number that need not be whole. The infinities and what is not a number are words with a point. -/
def real? (s : String) : Option Binary64 :=
  let (sign, rest) := cutSign s.toList
  if [".inf", ".Inf", ".INF"].contains (String.ofList rest) then
    some (Binary64.ofMagnitude (sign == some '-') Binary64.infinityBits)
  else if [".nan", ".NaN", ".NAN"].contains s then some Binary64.nan
  else (Binary64.read? s).filter fun x => !x.isNaN && !x.isInfinite

/-! ### Scalars -/

/-- What a plain scalar stands for. A whole number that is too large stands for nothing. -/
def plainValue? (s : String) : Option Value :=
  if s == "" || nullWords.contains s then some .null
  else
    match flagOf? s with
    | some b => some (.flag b)
    | none =>
      match whole? s with
      | some n => if isHeld n then some (.whole n) else none
      | none =>
        if isZeroPadded (cutSign s.toList).2 then some (.text s)
        else some (((real? s).map Value.real).getD (.text s))

/-- What a scalar without a tag stands for. -/
def untaggedValue? (s : String) (isPlain : Bool) : Option Value :=
  if isPlain then plainValue? s else some (.text s)

/-- What a scalar stands for that a tag of YAML itself makes a text, a number or a word. -/
def coreValue? (tag s : String) : Option Value :=
  if tag == "tag:yaml.org,2002:bool" then (flagOf? s).map Value.flag
  else if tag == "tag:yaml.org,2002:int" then ((whole? s).filter isHeld).map Value.whole
  else if tag == "tag:yaml.org,2002:float" then (real? s).map Value.real
  else if tag == "tag:yaml.org,2002:null" then
    if nullWords.contains s then some .null else none
  else some (.text s)

end ControlPoint.Yaml
