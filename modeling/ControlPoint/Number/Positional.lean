import ControlPoint.Number.Shortest

/-!
The shortest decimal text of a floating-point number without an exponent, whatever its size.
-/

namespace ControlPoint.Number

namespace Binary64

/-- The text of a finite number: its shortest digits, zeros where none are left, and a point only in front
    of a fraction. -/
def positionalText (x : Binary64) : String :=
  let sign := if x.isNegative then "-" else ""
  if x.magnitude = 0 then sign ++ "0"
  else
    let (c, unit) := x.shortest
    let digits := Nat.toDigits 10 c
    let point := Int.ofNat digits.length + unit
    let text : List Char :=
      if 0 ≤ unit then digits ++ List.replicate unit.toNat '0'
      else if 0 < point then digits.take point.toNat ++ '.' :: digits.drop point.toNat
      else '0' :: '.' :: List.replicate (-point).toNat '0' ++ digits
    sign ++ String.ofList text

end Binary64

end ControlPoint.Number
