/-!
Cutting of texts at separators: at every occurrence of a character, at the first or last one, and at
every occurrence of a word.
-/

namespace ControlPoint.Text

/-- The pieces between the characters satisfying `p`; there is always one more piece than there are
    such characters. -/
def splitWhere (p : Char → Bool) : List Char → List (List Char)
  | [] => [[]]
  | c :: rest =>
    match splitWhere p rest with
    | [] => [[c]]
    | piece :: pieces => if p c then [] :: piece :: pieces else (c :: piece) :: pieces

/-- The pieces of a text between occurrences of `sep`. -/
def splitChar (sep : Char) (s : String) : List String :=
  (splitWhere (· == sep) s.toList).map String.ofList

/-- What stands before and after the first occurrence of `sep`. -/
def cutAt (sep : Char) : List Char → Option (List Char × List Char)
  | [] => none
  | c :: rest => if c == sep then some ([], rest) else (cutAt sep rest).map fun (a, b) => (c :: a, b)

/-- What stands before and after the last occurrence of `sep`. -/
def cutAtLast (sep : Char) (cs : List Char) : Option (List Char × List Char) :=
  (cutAt sep cs.reverse).map fun (a, b) => (b.reverse, a.reverse)

/-- The rest of a text after a given beginning. -/
def afterStart (start : List Char) (cs : List Char) : Option (List Char) :=
  match start, cs with
  | [], cs => some cs
  | _ :: _, [] => none
  | a :: as, c :: cs => if a == c then afterStart as cs else none

/-- What stands before and after the first occurrence of the word `stop`. -/
def cutAtWord (stop : List Char) : List Char → Option (List Char × List Char)
  | [] => if stop.isEmpty then some ([], []) else none
  | c :: rest =>
    match afterStart stop (c :: rest) with
    | some after => some ([], after)
    | none => (cutAtWord stop rest).map fun (a, b) => (c :: a, b)

/-- The pieces between occurrences of a non-empty word, read from left to right; `skip` counts the
    characters of the word still to be passed over. -/
def splitWordFrom (sep : List Char) (skip : Nat) : List Char → List (List Char)
  | [] => [[]]
  | c :: rest =>
    match skip with
    | skip + 1 => splitWordFrom sep skip rest
    | 0 =>
      match afterStart sep (c :: rest) with
      | some _ => [] :: splitWordFrom sep (sep.length - 1) rest
      | none =>
        match splitWordFrom sep 0 rest with
        | [] => [[c]]
        | piece :: pieces => (c :: piece) :: pieces

/-- The pieces of a text between occurrences of the non-empty word `sep`. -/
def splitWord (sep s : String) : List String :=
  (splitWordFrom sep.toList 0 s.toList).map String.ofList

end ControlPoint.Text
