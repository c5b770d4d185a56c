import ControlPoint.Yaml.Node
import ControlPoint.Yaml.Plain

/-!
The reading of YAML documents as values.
-/

namespace ControlPoint.Yaml

/-! ### Nodes -/

mutual

/-- The nodes of a tree that can be referred to, with their numbers, in the order in which they begin. -/
def Node.anchored : Node → List (Nat × Node)
  | .reference _ => []
  | n@(.scalar anchor ..) => here anchor n
  | n@(.sequence anchor _ items) => here anchor n ++ anchoredItems items
  | n@(.mapping anchor _ entries) => here anchor n ++ anchoredEntries entries
where
  /-- A node under its own number. -/
  here (anchor : Option Nat) (n : Node) : List (Nat × Node) :=
    (anchor.map fun number => (number, n)).toList

/-- The nodes of some trees that can be referred to. -/
def anchoredItems : List Node → List (Nat × Node)
  | [] => []
  | item :: rest => item.anchored ++ anchoredItems rest

/-- The nodes of some entries that can be referred to. -/
def anchoredEntries : List (Node × Node) → List (Nat × Node)
  | [] => []
  | (key, value) :: rest => key.anchored ++ value.anchored ++ anchoredEntries rest

end

mutual

/-- The size of a tree: one for a leaf, two and the sizes of its parts for any other node. -/
def Node.weight : Node → Nat
  | .reference _ => 1
  | .scalar .. => 1
  | .sequence _ _ items => 2 + weightOfItems items
  | .mapping _ _ entries => 2 + weightOfEntries entries

/-- The size of some trees. -/
def weightOfItems : List Node → Nat
  | [] => 0
  | item :: rest => item.weight + weightOfItems rest

/-- The size of some entries. -/
def weightOfEntries : List (Node × Node) → Nat
  | [] => 0
  | (key, value) :: rest => key.weight + value.weight + weightOfEntries rest

end

/-! ### Values -/

/-- The name of a tag of the document's own, which begins with an exclamation mark. The next one is
    not part of it either, if anything follows. -/
def ownTag? (tag : Option String) : Option String :=
  match tag.map String.toList with
  | some ('!' :: '!' :: c :: rest) => some (String.ofList (c :: rest))
  | some ('!' :: rest) => some (String.ofList rest)
  | _ => none

/-- A value under a tag of the document's own, if there is one. The tag must have a name. -/
def withTag (tag : Option String) (value : Value) : Option Value :=
  match ownTag? tag with
  | some name => if name == "" then none else some (.tagged name value)
  | none => some value

/-- What a scalar stands for. -/
def scalarValue? (tag : Option String) (text : String) (isPlain : Bool) : Option Value :=
  match tag with
  | none => untaggedValue? text isPlain
  | some name =>
    if (ownTag? tag).isSome then (untaggedValue? text isPlain).bind (withTag tag)
    else coreValue? name text

/-- A part of the building of values, with the number of references that may still be followed. -/
abbrev Building := StateT Nat Option

/-- The node that a reference refers to; of several with its number, the last. -/
def target (anchored : List (Nat × Node)) (n : Node) : Building Node :=
  match n with
  | .reference number => do
    let left ← get
    if left = 0 then failure
    set (left - 1)
    match anchored.reverse.find? fun (known, _) => known == number with
    | some (_, node) => return node
    | none => failure
  | _ => return n

/-- Adds an entry to a mapping, in which no key stands twice. -/
def addEntry (entries : Entries) (key value : Value) : Option Entries :=
  if entries.has key then none else some (entries ++ [(key, value)])

/-- The value of a node in which collections are nested at most as deep as given. -/
def build (anchored : List (Nat × Node)) : (depth : Nat) → Node → Building Value
  | depth, n => do
    match ← target anchored n, depth with
    | .scalar _ tag text isPlain, _ => scalarValue? tag text isPlain
    | .sequence _ tag items, depth + 1 =>
      let values ← items.mapM (build anchored depth)
      withTag tag (.sequence values)
    | .mapping _ tag entries, depth + 1 =>
      let values ← entries.foldlM (fun (done : Entries) (key, value) => do
        let key ← build anchored depth key
        let value ← build anchored depth value
        addEntry done key value) []
      withTag tag (.mapping values)
    | _, _ => failure

/-- The value of a document. Collections are nested at most 128 deep, and references are followed at
    most a hundred times as often as the document is large. -/
def Value.read? (text : String) : Option Value := do
  let root ← Node.read? text
  (build root.anchored 128 root).run' (100 * root.weight)

end ControlPoint.Yaml
