import ControlPoint.Text.Case
import ControlPoint.Text.Decimal
import ControlPoint.Text.Split

/-!
Binary floating-point numbers of 64 bits, as their bit patterns. A decimal text is read exactly and
rounded once, to the nearest number, a half to the even neighbour; beyond the largest number lies
infinity.
-/

namespace ControlPoint.Number

open Text

/-- A floating-point number: one bit for the sign, eleven for the exponent, fifty-two for the
    fraction. -/
structure Binary64 where
  bits : UInt64
  deriving DecidableEq, Repr

namespace Binary64

/-- The pattern of positive infinity. -/
def infinityBits : Nat := 0x7FF * Nat.pow 2 52

/-- The pattern without its sign. -/
def magnitude (x : Binary64) : Nat := x.bits.toNat % Nat.pow 2 63

def isNegative (x : Binary64) : Bool := Nat.pow 2 63 ≤ x.bits.toNat

def isNaN (x : Binary64) : Bool := infinityBits < x.magnitude

def isInfinite (x : Binary64) : Bool := x.magnitude == infinityBits

/-- Neither zero nor infinite, and of full precision. -/
def isNormal (x : Binary64) : Bool :=
  Nat.pow 2 52 ≤ x.magnitude && x.magnitude < infinityBits

/-- A number with an unsigned pattern and a sign. -/
def ofMagnitude (negative : Bool) (magnitude : Nat) : Binary64 :=
  ⟨(magnitude + if negative then Nat.pow 2 63 else 0).toUInt64⟩

def nan : Binary64 := ⟨0x7FF8000000000000⟩

/-- A quotient rounded to the nearest whole number, a half to the even neighbour. -/
def roundHalfEven (num den : Nat) : Nat :=
  let q := num / den
  let twice := 2 * (num % den)
  if twice < den then q
  else if den < twice then q + 1
  else if q % 2 = 0 then q else q + 1

/-- The quotient of two numbers times a power of two, as a quotient. -/
def scale (num den : Nat) (power : Int) : Nat × Nat :=
  if 0 ≤ power then (num * Nat.pow 2 power.toNat, den) else (num, den * Nat.pow 2 (-power).toNat)

/-- The unsigned pattern of the number nearest to `num / den`. The exponent is chosen so that the
    fraction has 53 binary places, or fewer for the smallest numbers. -/
def nearestMagnitude (num den : Nat) : Nat :=
  if num = 0 then 0
  else
    let least : Int := max (Int.ofNat num.log2 - Int.ofNat den.log2 - 53) (-1074)
    let (n, d) := scale num den (-least)
    let exponent := if n / d < Nat.pow 2 53 then least else least + 1
    let (n, d) := scale num den (-exponent)
    min ((exponent + 1074).toNat * Nat.pow 2 52 + roundHalfEven n d) infinityBits

/-- The unsigned pattern of the number nearest to `mantissa` times ten to a power. Exponents so
    large or small that the result is infinity or zero are answered without the power. -/
def ofDecimal (mantissa : Nat) (power : Int) : Nat :=
  let length := Int.ofNat (Nat.toDigits 10 mantissa).length
  if mantissa = 0 then 0
  else if 400 < length + power then infinityBits
  else if length + power < -400 then 0
  else if 0 ≤ power then nearestMagnitude (mantissa * Nat.pow 10 power.toNat) 1
  else nearestMagnitude mantissa (Nat.pow 10 (-power).toNat)

/-- The exponent after `e`: an optional sign and at least one digit. -/
def readExponent? (cs : List Char) : Option Int :=
  match cs with
  | '+' :: rest => (digits? rest).map Int.ofNat
  | '-' :: rest => (digits? rest).map fun n => -Int.ofNat n
  | _ => (digits? cs).map Int.ofNat

/-- The unsigned pattern for digits with at most one point among them, at least one digit in all,
    and an exponent. -/
def readDecimal? (cs : List Char) : Option Nat := do
  let whole := cs.takeWhile Char.isDigit
  let afterWhole := cs.dropWhile Char.isDigit
  let (fraction, rest) := match afterWhole with
    | '.' :: tail => (tail.takeWhile Char.isDigit, tail.dropWhile Char.isDigit)
    | _ => ([], afterWhole)
  let mantissa ← digits? (whole ++ fraction)
  let exponent ← match rest with
    | [] => some 0
    | 'e' :: tail => readExponent? tail
    | 'E' :: tail => readExponent? tail
    | _ => none
  return ofDecimal mantissa (exponent - Int.ofNat fraction.length)

/-- Reads an unsigned number: a decimal one, or a word for infinity or for no number. -/
def readUnsigned? (cs : List Char) : Option Nat :=
  let word := lowerAscii (String.ofList cs)
  if word == "inf" || word == "infinity" then some infinityBits
  else if word == "nan" then some nan.magnitude
  else readDecimal? cs

/-- Reads a floating-point number: an optional sign, then digits or a word, and nothing else. -/
def read? (s : String) : Option Binary64 :=
  match s.toList with
  | '-' :: rest => (readUnsigned? rest).map (ofMagnitude true)
  | '+' :: rest => (readUnsigned? rest).map (ofMagnitude false)
  | cs => (readUnsigned? cs).map (ofMagnitude false)

/-- The rank of a number in the order of values; the two zeros share one. -/
def rank (x : Binary64) : Int :=
  if x.isNegative then -Int.ofNat x.magnitude else Int.ofNat x.magnitude

/-- The order of values. What is not a number is below and above nothing. -/
def le (x y : Binary64) : Bool :=
  !x.isNaN && !y.isNaN && x.rank ≤ y.rank

/-- Equality of values, where what is not a number equals itself. -/
def sameValue (x y : Binary64) : Bool :=
  if x.isNaN then y.isNaN else !y.isNaN && x.rank == y.rank

/-- The number nearest to a natural number. -/
def ofNat (n : Nat) : Binary64 := ofMagnitude false (nearestMagnitude n 1)

end Binary64

end ControlPoint.Number
