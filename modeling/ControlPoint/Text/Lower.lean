import ControlPoint.Text.CaseTable

/-!
Texts in lower case, by the case of all letters and not only of those of ASCII.
-/

namespace ControlPoint.Text

/-- Whether a character is in one of some ranges. -/
def isInRanges (ranges : List (Nat × Nat)) (c : Char) : Bool :=
  ranges.any fun (first, last) => first ≤ c.toNat && c.toNat ≤ last

/-- The lower-case letter of a character, the character itself if it has none. -/
def lowerChar (c : Char) : Char :=
  let run := lowerRuns.find? fun (first, last, step, _) =>
    first ≤ c.toNat && c.toNat ≤ last && (c.toNat - first) % step == 0
  match run with
  | some (_, _, _, distance) => Char.ofNat (Int.ofNat c.toNat + distance).toNat
  | none => c

/-- Whether the first character that is not passed over is a letter with a case. -/
def meetsCased (cs : List Char) : Bool :=
  match cs.dropWhile (isInRanges caseIgnorableRanges) with
  | c :: _ => isInRanges casedRanges c
  | [] => false

/-- A text in lower case; `before` is what stands before it, reversed. A capital sigma at the end of a
    word becomes the sigma for that place, and the dot on a capital `I` stays. -/
def lowerFrom (before : List Char) : List Char → List Char
  | [] => []
  | c :: rest =>
    let lowered :=
      if c == '\u03A3' then
        [if meetsCased before && !meetsCased rest then '\u03C2' else '\u03C3']
      else if c == '\u0130' then ['i', '\u0307']
      else [lowerChar c]
    lowered ++ lowerFrom (c :: before) rest

/-- The text in lower case. -/
def lower (s : String) : String :=
  String.ofList (lowerFrom [] s.toList)

end ControlPoint.Text
