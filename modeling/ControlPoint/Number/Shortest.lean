import ControlPoint.Number.Binary64

/-!
The shortest decimal text of a floating-point number: the fewest digits that read back as the same
number, of these the nearest to it.
-/

namespace ControlPoint.Number

namespace Binary64

/-- The value of a positive finite number as `mantissa * 2 ^ power`. -/
def mantissaPower (x : Binary64) : Nat × Int :=
  let fraction := x.magnitude % Nat.pow 2 52
  let exponent := x.magnitude / Nat.pow 2 52
  if exponent = 0 then (fraction, -1074)
  else (Nat.pow 2 52 + fraction, Int.ofNat exponent - 1075)

/-- Ten to a power, as a quotient. -/
def tenTo (power : Int) : Nat × Nat :=
  if 0 ≤ power then (Nat.pow 10 power.toNat, 1) else (1, Nat.pow 10 (-power).toNat)

/-- A quotient times a power of two, divided by a power of ten, as a quotient. -/
def inUnits (quarters : Nat) (power : Int) (unit : Int) : Nat × Nat :=
  let (n, d) := scale quarters 4 power
  let (tn, td) := tenTo unit
  (n * td, d * tn)

/-- A whole number of units of ten to `unit` that lies in the interval which rounds to the number,
    the nearest if there are two. -/
def candidate? (x : Binary64) (unit : Int) : Option Nat :=
  let (m, power) := x.mantissaPower
  let even := m % 2 = 0
  let lowest :=
    if x.magnitude % Nat.pow 2 52 = 0 && Nat.pow 2 52 < x.magnitude then 4 * m - 1 else 4 * m - 2
  let (vn, d) := inUnits (4 * m) power unit
  let (ln, _) := inUnits lowest power unit
  let (hn, _) := inUnits (4 * m + 2) power unit
  let inside (c : Nat) : Bool :=
    if even then ln ≤ c * d && c * d ≤ hn else ln < c * d && c * d < hn
  let low := vn / d
  let high := low + 1
  match 0 < low && inside low, inside high with
  | true, true =>
    let below := vn - low * d
    let above := high * d - vn
    if below < above then some low
    else if above < below then some high
    else if low % 2 = 0 then some low else some high
  | true, false => some low
  | false, true => some high
  | false, false => none

/-- The largest power of ten that is at most the number, found by counting down from `start`. -/
def leadingPower (x : Binary64) : (fuel : Nat) → (start : Int) → Int
  | 0, power => power
  | fuel + 1, power =>
    let (m, two) := x.mantissaPower
    let (n, d) := inUnits (4 * m) two power
    if d ≤ n then power else leadingPower x fuel (power - 1)

/-- The digits of the shortest decimal and the power of ten of its last digit, trying one digit more
    at each turn; seventeen always suffice. -/
def shortestFrom (x : Binary64) (leading : Int) : (fuel : Nat) → (count : Nat) → Nat × Int
  | 0, _ => (0, 0)
  | fuel + 1, count =>
    let unit := leading - Int.ofNat count + 1
    match candidate? x unit with
    | some c => (c, unit)
    | none => shortestFrom x leading fuel (count + 1)

/-- Drops zeros at the end of a number's digits. -/
def stripZeros : (fuel : Nat) → Nat → Int → Nat × Int
  | 0, c, unit => (c, unit)
  | fuel + 1, c, unit =>
    if c ≠ 0 ∧ c % 10 = 0 then stripZeros fuel (c / 10) (unit + 1) else (c, unit)

/-- The digits of the shortest decimal of a positive finite number, without zeros at the end, and
    the power of ten of the last one. -/
def shortest (x : Binary64) : Nat × Int :=
  let (m, power) := x.mantissaPower
  let start := (Int.ofNat m.log2 + power) * 30103 / 100000 + 2
  let leading := leadingPower x 8 start
  let (c, unit) := shortestFrom x leading 17 1
  stripZeros 20 c unit

/-- The text of a finite number: positional with a point for numbers from `1e-5` to below `1e16`,
    with an exponent otherwise. -/
def finiteText (x : Binary64) : String :=
  let sign := if x.isNegative then "-" else ""
  if x.magnitude = 0 then sign ++ "0.0"
  else
    let (c, unit) := x.shortest
    let digits := Nat.toDigits 10 c
    let point := Int.ofNat digits.length + unit
    let text : List Char :=
      if 0 ≤ unit ∧ point ≤ 16 then digits ++ List.replicate unit.toNat '0' ++ ['.', '0']
      else if 0 < point ∧ point ≤ 16 then
        digits.take point.toNat ++ '.' :: digits.drop point.toNat
      else if -5 < point ∧ point ≤ 0 then
        '0' :: '.' :: List.replicate (-point).toNat '0' ++ digits
      else
        let exponent := 'e' :: (toString (point - 1)).toList
        match digits with
        | [d] => d :: exponent
        | d :: rest => d :: '.' :: rest ++ exponent
        | [] => []
    sign ++ String.ofList text

end Binary64

end ControlPoint.Number
