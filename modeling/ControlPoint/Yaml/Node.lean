import ControlPoint.Yaml.TokenStream

/-!
The nodes of YAML documents, as they are written: tags and references are told apart from contents, and no
scalar is yet taken for a number.
-/

namespace ControlPoint.Yaml

/-- A node. One that has an anchor can be referred to by the number of the anchor. -/
inductive Node
  | reference (number : Nat)
  | scalar (anchor : Option Nat) (tag : Option String) (text : String) (isPlain : Bool)
  | sequence (anchor : Option Nat) (tag : Option String) (items : List Node)
  | mapping (anchor : Option Nat) (tag : Option String) (entries : List (Node × Node))
  deriving Repr

namespace Node

instance : Inhabited Node := ⟨.reference 0⟩

/-- What stands where nothing is written. -/
def empty : Node :=
  scalar none none "" true

end Node

/-! ### Reading -/

/-- What is still to be read of a document, the numbers of the anchors by name, and what the handles
    stand for. -/
structure NodeReader where
  tokens : List Token
  anchors : List (String × Nat)
  handles : List (String × String)

namespace NodeReader

/-- A part of the reading, which fails where a document is not well-formed. -/
abbrev Reading := StateT NodeReader Option

/-- The next token. -/
def next? : Reading (Option Token) := do
  return (← get).tokens.head?

/-- Goes over the next token. -/
def drop : Reading Unit :=
  modify fun r => { r with tokens := r.tokens.tail }

/-- Goes over the next token if it is the given one, and tells whether it was. -/
def dropIf (t : Token) : Reading Bool := do
  if (← next?) == some t then
    drop
    return true
  else return false

/-- The number of a new anchor: how many names there are before it. A name that is given again gets a
    new number, which the next new name may share. -/
def define (name : String) : Reading Nat := do
  let r ← get
  let number := r.anchors.length
  let others := r.anchors.filter fun (known, _) => known != name
  set { r with anchors := (name, number) :: others }
  return number

/-- The text of a tag, with what its handle stands for. -/
def tagOf (handle suffix : String) : Reading String := do
  if handle == "" then return suffix
  else
    let r ← get
    match r.handles.find? fun (known, _) => known == handle with
    | some (_, leading) => return leading ++ suffix
    | none => failure

/-- The anchor in front of a node. -/
def anchor? : Reading (Option Nat) := do
  match ← next? with
  | some (.anchor name) =>
    drop
    return some (← define name)
  | _ => return none

/-- The tag in front of a node. -/
def tag? : Reading (Option String) := do
  match ← next? with
  | some (.tag handle suffix) =>
    drop
    return some (← tagOf handle suffix)
  | _ => return none

/-- The anchor and the tag in front of a node, in either order. -/
def properties : Reading (Option Nat × Option String) := do
  match ← anchor? with
  | some anchor => return (some anchor, ← tag?)
  | none =>
    let tag ← tag?
    let anchor ← if tag.isSome then anchor? else pure none
    return (anchor, tag)

/-- A mapping of one entry. -/
def pair (key value : Node) : Node :=
  .mapping none none [(key, value)]

mutual

/-- Reads a node. Outside of brackets it may be a block, and where there is a key or its value, a
    sequence without any indentation. -/
def node (fuel : Nat) (inBlock bare : Bool) : Reading Node :=
  match fuel with
  | 0 => failure
  | fuel + 1 => do
    if let some (.reference name) := ← next? then
      drop
      match (← get).anchors.find? fun (known, _) => known == name with
      | some (_, number) => return .reference number
      | none => failure
    else
      let (anchor, tag) ← properties
      match ← next? with
      | some (.scalar text isPlain) =>
        drop
        return .scalar anchor (tag.filter (· != "!")) text isPlain
      | some .sequenceOpen =>
        drop
        return .sequence anchor tag (← flowItems fuel true)
      | some .mappingOpen =>
        drop
        return .mapping anchor tag (← flowEntries fuel true)
      | some .item =>
        if bare then return .sequence anchor tag (← bareItems fuel)
        else unwritten anchor tag
      | some .sequenceBlock =>
        if inBlock then
          drop
          return .sequence anchor tag (← blockItems fuel)
        else unwritten anchor tag
      | some .mappingBlock =>
        if inBlock then
          drop
          return .mapping anchor tag (← blockEntries fuel)
        else unwritten anchor tag
      | _ => unwritten anchor tag
where
  /-- A node of which nothing but an anchor or a tag is written. -/
  unwritten (anchor : Option Nat) (tag : Option String) : Reading Node :=
    if anchor.isSome || tag.isSome then return .scalar anchor tag "" true else failure

/-- Reads a node unless one of the given tokens comes first. -/
def nodeUnless (fuel : Nat) (stops : List (Option Token)) (inBlock bare : Bool) : Reading Node :=
  match fuel with
  | 0 => failure
  | fuel + 1 => do
    if stops.contains (← next?) then return .empty else node fuel inBlock bare

/-- Reads the items of a block. -/
def blockItems (fuel : Nat) : Reading (List Node) :=
  match fuel with
  | 0 => failure
  | fuel + 1 => do
    if ← dropIf .item then
      let item ← nodeUnless fuel [some .item, some .blockEnd] true false
      return item :: (← blockItems fuel)
    else if ← dropIf .blockEnd then return []
    else failure

/-- Reads the items of a sequence that is not indented, which ends where there is no further item. -/
def bareItems (fuel : Nat) : Reading (List Node) :=
  match fuel with
  | 0 => failure
  | fuel + 1 => do
    if ← dropIf .item then
      let stops := [some .item, some .key, some .value, some .blockEnd]
      let item ← nodeUnless fuel stops true false
      return item :: (← bareItems fuel)
    else return []

/-- Reads the entries of a block. -/
def blockEntries (fuel : Nat) : Reading (List (Node × Node)) :=
  match fuel with
  | 0 => failure
  | fuel + 1 => do
    let stops := [some .key, some .value, some .blockEnd]
    if ← dropIf .key then
      let key ← nodeUnless fuel stops true true
      let value ← if ← dropIf .value then nodeUnless fuel stops true true else pure .empty
      return (key, value) :: (← blockEntries fuel)
    else if ← dropIf .blockEnd then return []
    else failure

/-- Reads the items between brackets. A key makes the item a mapping of one entry. A token that stands in
    place of the key is passed over. -/
def flowItems (fuel : Nat) (isFirst : Bool) : Reading (List Node) :=
  match fuel with
  | 0 => failure
  | fuel + 1 => do
    if ← dropIf .sequenceClose then return []
    if !isFirst && !(← dropIf .comma) then failure
    if ← dropIf .key then
      let key ←
        if [some .value, some .comma, some .sequenceClose].contains (← next?) then
          drop
          pure .empty
        else node fuel false false
      let value ←
        if ← dropIf .value then
          nodeUnless fuel [some .comma, some .sequenceClose] false false
        else pure .empty
      return pair key value :: (← flowItems fuel false)
    else if ← dropIf .sequenceClose then return []
    else
      let item ← node fuel false false
      return item :: (← flowItems fuel false)

/-- Reads the entries between braces. -/
def flowEntries (fuel : Nat) (isFirst : Bool) : Reading (List (Node × Node)) :=
  match fuel with
  | 0 => failure
  | fuel + 1 => do
    if ← dropIf .mappingClose then return []
    if !isFirst && !(← dropIf .comma) then failure
    if ← dropIf .key then
      let key ← nodeUnless fuel [some .value, some .comma, some .mappingClose] false false
      let value ←
        if ← dropIf .value then
          nodeUnless fuel [some .comma, some .mappingClose] false false
        else pure .empty
      return (key, value) :: (← flowEntries fuel false)
    else if ← dropIf .mappingClose then return []
    else
      let key ← node fuel false false
      return (key, .empty) :: (← flowEntries fuel false)

end

/-! ### Documents -/

/-- The handles that need no directive. -/
def commonHandles : List (String × String) :=
  [("!", "!"), ("!!", "tag:yaml.org,2002:")]

/-- Reads directives. Each edition of YAML but 1.1 and 1.2 is refused, and so is what is said twice. -/
def directives (fuel : Nat) (versionSeen : Bool) : Reading Unit :=
  match fuel with
  | 0 => failure
  | fuel + 1 => do
    match ← next? with
    | some (.version major minor) =>
      if versionSeen || major != 1 || (minor != 1 && minor != 2) then failure
      drop
      directives fuel true
    | some (.handle name leading) =>
      if (← get).handles.any fun (known, _) => known == name then failure
      drop
      modify fun r => { r with handles := (name, leading) :: r.handles }
      directives fuel versionSeen
    | _ => return ()

/-- Whether a document begins here by a directive or a marker, or there is nothing any more. -/
def startsHere (t : Option Token) : Bool :=
  match t with
  | some (.version ..) | some (.handle ..) | some .documentStart | none => true
  | _ => false

/-- Reads the only document. Nothing but marks of its end follow it. -/
def document : Reading Node := do
  let fuel := 3 * ((← get).tokens.length + 1)
  let start ← next?
  let isMarked := startsHere start
  if isMarked && start.isSome then
    directives fuel false
    if !(← dropIf .documentStart) then failure
  modify fun r => { r with handles := r.handles ++ commonHandles }
  let first ← next?
  let isEmpty := isMarked && (startsHere first || first == some .documentEnd)
  let root ← if isEmpty then pure Node.empty else node fuel true false
  let rest := (← get).tokens
  if rest.all (· == .documentEnd) then return root else failure

end NodeReader

/-- The root of the only document of a text. -/
def Node.read? (text : String) : Option Node := do
  let tokens ← tokens? text
  NodeReader.document.run' ⟨tokens, [], []⟩

end ControlPoint.Yaml
