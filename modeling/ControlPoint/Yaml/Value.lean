import ControlPoint.Number.Binary64

/-!
The values of YAML documents, and when two of them count as one key. The entries of a mapping keep their
order.
-/

namespace ControlPoint.Yaml

open Number

/-- A value of a document. A tag is kept without its exclamation mark. -/
inductive Value
  | null
  | flag (b : Bool)
  | whole (n : Int)
  | real (x : Binary64)
  | text (s : String)
  | sequence (items : List Value)
  | mapping (entries : List (Value × Value))
  | tagged (tag : String) (value : Value)
  deriving Repr

/-- The entries of a mapping. -/
abbrev Entries := List (Value × Value)

namespace Value

instance : Inhabited Value := ⟨.null⟩

mutual

/-- Whether two values count as one. A whole number is never the same as one with a fraction, and the
    order of entries does not matter. -/
def same : Value → Value → Bool
  | null, null => true
  | flag a, flag b => a == b
  | whole a, whole b => a == b
  | real a, real b => a.sameValue b
  | text a, text b => a == b
  | sequence xs, sequence ys => sameItems xs ys
  | mapping xs, mapping ys => xs.length == ys.length && sameEntries xs ys
  | tagged s x, tagged t y => s == t && same x y
  | _, _ => false

/-- Whether two lists of values count as one. -/
def sameItems : List Value → List Value → Bool
  | [], [] => true
  | x :: xs, y :: ys => same x y && sameItems xs ys
  | _, _ => false

/-- Whether every entry of a mapping is also one of another mapping. -/
def sameEntries : List (Value × Value) → List (Value × Value) → Bool
  | [], _ => true
  | (key, value) :: rest, ys =>
    (ys.any fun (otherKey, other) => same key otherKey && same value other) && sameEntries rest ys

end

end Value

namespace Entries

/-- The value of a key. -/
def get? (entries : Entries) (key : Value) : Option Value :=
  (entries.find? fun entry => key.same entry.1).map Prod.snd

/-- Whether a key has a value. -/
def has (entries : Entries) (key : Value) : Bool :=
  entries.any fun entry => key.same entry.1

/-- Gives a value to a key. A key that is there keeps its place, a new one comes last. -/
def insert : Entries → Value → Value → Entries
  | [], key, value => [(key, value)]
  | (k, v) :: rest, key, value =>
    if key.same k then (k, value) :: rest else (k, v) :: insert rest key value

end Entries

end ControlPoint.Yaml
