import ControlPoint.Markup.Element
import ControlPoint.Markup.Reference

/-!
The inside of a start tag: a name up to the first white space, then attributes. An attribute is a
key, an equals sign and a quoted value; white space may stand around the sign and need not stand
between attributes.
-/

namespace ControlPoint.Markup

open Text

/-- The name at the beginning of a tag's inside. -/
def tagName (inside : List Char) : List Char :=
  inside.takeWhile fun c => !isMarkupBlank c

/-- What follows the first colon of a qualified name, or the whole name. -/
def localName (name : List Char) : List Char :=
  match cutAt ':' name with
  | some (_, after) => after
  | none => name

/-- An attribute as written: the key with its byte offset in the tag's inside, and the raw value. -/
structure RawAttribute where
  start : Nat
  key : List Char
  value : List Char
  deriving DecidableEq, Repr

/-- The attribute at the beginning of `cs`, which stands at byte `offset` of a tag's inside of
    `total` bytes, with what follows it and the byte reached. `none` where only white space is
    left. Keys in `seen` must not come again. -/
def nextAttribute (total : Nat) (seen : List RawAttribute) (offset : Nat) (cs : List Char) :
    Except AttributeFault (Option (RawAttribute × Nat × List Char)) :=
  let blank := cs.takeWhile isMarkupBlank
  let start := offset + byteLength blank
  match cs.dropWhile isMarkupBlank with
  | [] => .ok none
  | first :: tail =>
    let key := first :: tail.takeWhile fun c => !(c == '=' || isMarkupBlank c)
    let keyStop := start + byteLength key
    let gap := (tail.dropWhile fun c => !(c == '=' || isMarkupBlank c))
    let equals := keyStop + byteLength (gap.takeWhile isMarkupBlank)
    match gap.dropWhile isMarkupBlank with
    | '=' :: tail =>
      match seen.find? (·.key == key) with
      | some earlier => .error (.duplicate start earlier.start)
      | none =>
        let quoteAt := equals + 1 + byteLength (tail.takeWhile isMarkupBlank)
        match tail.dropWhile isMarkupBlank with
        | [] => .error (.missingValue total)
        | quote :: tail =>
          if quote == '"' || quote == '\'' then
            match cutAt quote tail with
            | some (value, rest) =>
              .ok (some (⟨start, key, value⟩, quoteAt + byteLength value + 2, rest))
            | none => .error (.openQuote total quote)
          else .error (.unquoted quoteAt)
    | [] => .error (.missingEquals total)
    | _ :: _ => .error (.missingEquals equals)

/-- The element of a tag, from its inside. The attributes are read one after another, so of two
    faults the one that stands first is reported; `fuel` exceeds the number of attributes left. -/
def addAttributes (total : Nat) : (fuel : Nat) → (seen : List RawAttribute) → (offset : Nat) →
    List Char → Element → Except Fault Element
  | 0, _, _, _, e => .ok e
  | fuel + 1, seen, offset, cs, e =>
    match nextAttribute total seen offset cs with
    | .error fault => .error (.attribute fault)
    | .ok none => .ok e
    | .ok (some (a, offset, rest)) =>
      match unescapeValue a.value with
      | .error fault => .error fault
      | .ok value =>
        addAttributes total fuel (seen ++ [a]) offset rest
          (e.setAttribute (String.ofList (localName a.key)) (String.ofList value))

/-- The element written by a tag, given what stands between its brackets. -/
def Element.ofTag (inside : List Char) : Except Fault Element :=
  let name := tagName inside
  addAttributes (byteLength inside) (inside.length + 1) [] (byteLength name)
    (inside.drop name.length) ⟨String.ofList (localName name), []⟩

end ControlPoint.Markup
