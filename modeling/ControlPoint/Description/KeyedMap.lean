import ControlPoint.Description.NodeKind
import ControlPoint.Log
import ControlPoint.Naming.Fresh

/-!
Collections of described items by identity, in the order in which their keys first came up. A later
item of the same identity takes the place of the earlier one; an item without an identity is filed
under a numbered key of its kind that is free at that moment.
-/

namespace ControlPoint.Description

open Markup Text

/-- Items that have a kind and say what identifies them; the identity may be empty. -/
class Described (α : Type) where
  kind : NodeKind
  identity : α → String

/-- Items under their keys. `unnamed` is the last number tried for an item without an identity. -/
structure KeyedMap (α : Type) where
  entries : List (String × α)
  unnamed : Nat

namespace KeyedMap

variable {α : Type}

def empty : KeyedMap α := ⟨[], 0⟩

instance : Inhabited (KeyedMap α) := ⟨empty⟩

def keys (m : KeyedMap α) : List String := m.entries.map Prod.fst

def values (m : KeyedMap α) : List α := m.entries.map Prod.snd

def size (m : KeyedMap α) : Nat := m.entries.length

def isEmpty (m : KeyedMap α) : Bool := m.entries.isEmpty

/-- The item filed under a key. -/
def get? (m : KeyedMap α) (key : String) : Option α :=
  (m.entries.find? fun (k, _) => k == key).map Prod.snd

/-- The item at a rank. -/
def at? (m : KeyedMap α) (index : Nat) : Option α :=
  m.entries[index]?.map Prod.snd

/-- The rank of a key. -/
def indexOf? (m : KeyedMap α) (key : String) : Option Nat :=
  m.keys.findIdx? (· == key)

def contains (m : KeyedMap α) (key : String) : Bool :=
  m.keys.any (· == key)

/-- The key of the n-th item of a kind without an identity. -/
def numberedKey (kind : NodeKind) (n : Nat) : String :=
  kind.elementName ++ "#" ++ toString n

/-- The first number above the last one tried whose key is free. Among as many numbers as there are
    entries and one more, one is free. -/
def nextUnnamed (m : KeyedMap α) (kind : NodeKind) : Nat :=
  Naming.firstFree (fun n => !m.contains (numberedKey kind n)) (m.size + 1) (m.unnamed + 1)

/-- The key under which the next item is filed: its identity cut of white space, else a numbered
    key. -/
def keyFor [Described α] (m : KeyedMap α) (item : α) : String :=
  let identity := trim (Described.identity item)
  if identity == "" then numberedKey (Described.kind α) (m.nextUnnamed (Described.kind α))
  else identity

/-- Files an item under its key. -/
def insert [Described α] (m : KeyedMap α) (item : α) : KeyedMap α where
  entries := putPair (m.keyFor item) item m.entries
  unnamed :=
    if trim (Described.identity item) == "" then m.nextUnnamed (Described.kind α) else m.unnamed

/-- What filing an item reports: whether it takes the place of an earlier one. -/
def insertLog [Described α] (m : KeyedMap α) (item : α) : List Log.Entry :=
  let key := m.keyFor item
  if m.contains key then
    [Log.debug "Duplicate identity, keeping the last declaration"
      [("kind", (Described.kind α).elementName), ("key", key)]]
  else []

/-- Files items one after another. -/
def insertAll [Described α] (m : KeyedMap α) (items : List α) : KeyedMap α :=
  items.foldl insert m

/-- What filing items one after another reports. -/
def insertAllLog [Described α] (m : KeyedMap α) : List α → List Log.Entry
  | [] => []
  | item :: rest => m.insertLog item ++ insertAllLog (m.insert item) rest

/-- Changes every item without changing its key. -/
def mapValues (f : α → α) (m : KeyedMap α) : KeyedMap α :=
  { m with entries := m.entries.map fun (k, a) => (k, f a) }

end KeyedMap

end ControlPoint.Description
