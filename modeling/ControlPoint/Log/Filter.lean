import ControlPoint.Log
import ControlPoint.Text.Blank
import ControlPoint.Text.Case
import ControlPoint.Text.Decimal
import ControlPoint.Text.Split

/-!
Filters of reports, as users write them: directives divided by commas, each with a level and perhaps with the
part of the program or the span of work that it is for.
-/

namespace ControlPoint.Log

open Text

/-- How much an entry matters, as a number: the less, the more. -/
def Level.rank : Level → Nat
  | .error => 1
  | .warn => 2
  | .info => 3
  | .debug => 4

/-- A directive lets entries pass up to a rank. It may be for a part of the program alone. -/
structure Directive where
  target : Option String
  rank : Nat
  deriving DecidableEq, Repr

/-- The directives of a filter. -/
abbrev Filter := List Directive

/-- The rank of all entries. -/
def highestRank : Nat := 5

/-- The rank that a word or a digit stands for. -/
def rankOf? (word : String) : Option Nat :=
  match decimal64? word with
  | some n => if n ≤ highestRank then some n else none
  | none => ["off", "error", "warn", "info", "debug", "trace"].findIdx? (· == lowerAscii word)

/-- The rank after an equals sign. Nothing stands for all entries. -/
def rankAfter? (word : String) : Option Nat :=
  if word == "" then some highestRank else rankOf? word

/-- A character with which the name of a part of the program begins. -/
def startsTarget (c : Char) : Bool :=
  c.isAlphanum || '\x7f' < c || c == '-' || c == ':' || c == '_'

/-- What follows the span between brackets, of which the first bracket is read. In the span there may be
    one field between braces, at its end. -/
def afterSpan? (cs : List Char) : Option (List Char) :=
  match cs.dropWhile fun c => c != ']' && c != '\x7b' with
  | ']' :: rest => some rest
  | _ :: inside =>
    match cutAt '\x7d' inside with
    | some (field, ']' :: rest) => if field.isEmpty then none else some rest
    | _ => none
  | [] => none

/-- Reads a directive. Blanks in front of it do not count, but make the level begin too early. A directive
    for a span is never one for all parts of the program, even if no part is named in front of it. -/
def Directive.read? (s : String) : Option Directive := do
  let cs := trimChars s.toList
  let isName (c : Char) : Bool := c != '=' && c != '['
  let name := cs.takeWhile isName
  let levelAt (rest : List Char) : Option Nat :=
    rankAfter? (String.ofList (s.toList.drop (cs.length - rest.length)))
  let first ← cs.head?
  if first != '[' && !startsTarget first then none
  let target := if name.isEmpty then none else some (String.ofList name)
  match cs.dropWhile isName with
  | [] =>
    match rankOf? s with
    | some rank => some ⟨none, rank⟩
    | none => some ⟨some s, highestRank⟩
  | '=' :: rest => (levelAt rest).map fun rank => ⟨target, rank⟩
  | _ :: rest =>
    let part := some (String.ofList name)
    match ← afterSpan? rest with
    | [] => some ⟨part, highestRank⟩
    | '=' :: rest => (levelAt rest).map fun rank => ⟨part, rank⟩
    | _ => none

/-- Reads a filter. Empty directives do not count. -/
def Filter.read? (s : String) : Option Filter :=
  ((splitChar ',' s).filter (· != "")).mapM Directive.read?

/-- Whether a filter lets an entry pass. The last directive for all parts of the program counts; without
    one, only errors pass. -/
def Filter.admits (f : Filter) (e : Entry) : Bool :=
  let rank := match (List.filter (fun (d : Directive) => d.target.isNone) f).getLast? with
    | some d => d.rank
    | none => Level.error.rank
  e.level.rank ≤ rank

end ControlPoint.Log
