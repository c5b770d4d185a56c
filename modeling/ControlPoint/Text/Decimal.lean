/-!
Unsigned decimal numbers in texts: an optional plus sign and ASCII digits, at least one, below a
bound. There are no blanks, and nothing else is a number.
-/

namespace ControlPoint.Text

/-- The value of a run of ASCII digits, `none` if another character occurs or there is no digit. -/
def digits? (cs : List Char) : Option Nat :=
  if !cs.isEmpty && cs.all Char.isDigit then some (Nat.ofDigitChars 10 cs 0) else none

/-- Reads an unsigned decimal number below `bound`. -/
def decimalBelow? (bound : Nat) (s : String) : Option Nat :=
  let cs := match s.toList with
    | '+' :: rest => rest
    | cs => cs
  match digits? cs with
  | some n => if n < bound then some n else none
  | none => none

/-- Reads a number that fits 32 bits. -/
def decimal32? (s : String) : Option Nat :=
  decimalBelow? (Nat.pow 2 32) s

/-- Reads a number that fits 64 bits. -/
def decimal64? (s : String) : Option Nat :=
  decimalBelow? (Nat.pow 2 64) s

end ControlPoint.Text
