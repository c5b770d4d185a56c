import ControlPoint.Number.Shortest
import ControlPoint.Yaml.Style

/-!
Values as YAML documents: one entry or item on each line, in blocks that are indented by two columns. A
sequence under a key is not indented.
-/

namespace ControlPoint.Yaml

open Number

/-! ### Scalars -/

/-- A number that need not be whole, as it is written. -/
def realText (x : Binary64) : String :=
  if x.isNaN then ".nan"
  else if x.isInfinite then if x.isNegative then "-.inf" else ".inf"
  else x.finiteText

/-- A tag as it is written. What cannot stand in a tag is escaped byte by byte. -/
def writtenTag (tag : String) : List Char :=
  let isPlain (c : Char) : Bool := c.isAlphanum ||
    ['-', '_', ';', '/', '?', ':', '@', '&', '=', '+', '$', ',', '.', '~', '*', '\'', '(', ')', '[',
      ']'].contains c
  '!' :: tag.toList.flatMap fun c =>
    if isPlain c then [c]
    else (String.singleton c).toUTF8.toList.flatMap fun byte => '%' :: hexDigits 2 byte.toNat

namespace Value

/-- Whether a value is written within a line, or as a text: all but collections with something in
    them. -/
def isLeaf : Value → Bool
  | sequence items => items.isEmpty
  | mapping entries => entries.isEmpty
  | tagged _ value => isLeaf value
  | _ => true

/-- A leaf as it is written, where further lines have the given indentation. -/
def leafText (indent : Nat) : Value → List Char
  | null => "null".toList
  | flag b => (if b then "true" else "false").toList
  | whole n => (toString n).toList
  | real x => (realText x).toList
  | text s => writtenText indent s
  | sequence _ => ['[', ']']
  | mapping _ => ['\x7b', '\x7d']
  | tagged tag value => writtenTag tag ++ ' ' :: leafText indent value

/-- The value without its tags. -/
def untagged : Value → Value
  | tagged _ value => untagged value
  | value => value

/-- The number of bytes that count for a key: those of its tags and of its text. -/
def keySize : Value → Nat
  | text s => s.utf8ByteSize
  | sequence _ => 0
  | mapping _ => 0
  | tagged tag value => 1 + tag.utf8ByteSize + keySize value
  | value => (leafText 0 value).length

/-- Whether a value is written in front of the colon of its entry. One that has several lines or more
    than 128 bytes gets a line and a mark of its own. -/
def isShortKey (key : Value) : Bool :=
  let isOneLine := match key.untagged with
    | text s => !s.toList.any isBreak
    | _ => true
  key.isLeaf && isOneLine && key.keySize ≤ 128

end Value

/-! ### Documents -/

/-- What stands in front of a value: nothing, the mark of an item, its key, or the mark of a key or value
    that has a line of its own. -/
inductive Lead
  | nothing
  | item
  | key
  | mark
  deriving DecidableEq

/-- The end of a line, unless a block of lines has ended one already. -/
def closeLine (cs : List Char) : List Char :=
  if cs.getLast?.any isBreak then cs else cs ++ ['\n']

/-- A line break and an indentation. -/
def newLine (indent : Nat) : List Char :=
  '\n' :: List.replicate indent ' '

/-- How far a collection is indented, given what stands in front of it, inside of a collection with the
    given indentation, and whether it begins a line of its own. -/
def innerIndent (lead : Lead) (indent : Nat) (isSequence alone : Bool) : Nat :=
  match lead with
  | .nothing => 0
  | .item => indent + 2
  | .key => if isSequence then indent else indent + 2
  | .mark => if isSequence && alone then indent else indent + 2

/-- Further lines of a collection, if there are any. -/
def furtherLines (indent : Nat) (lines : List Char) : List Char :=
  if lines.isEmpty then [] else List.replicate indent ' ' ++ lines

/-- The space in front of a value. -/
def gapAfter (lead : Lead) : List Char :=
  if lead = .nothing then [] else [' ']

mutual

/-- A value after what stands in front of it, inside of a collection with the given indentation. `alone`
    tells that a collection begins a line of its own, as it does after a tag. -/
def writtenAfter (lead : Lead) (indent : Nat) (alone : Bool) : Value → List Char
  | .sequence (item :: items) =>
    let inner := innerIndent lead indent true alone
    startOf inner ++ writtenItems inner (item :: items)
  | .mapping (entry :: entries) =>
    let inner := innerIndent lead indent false alone
    startOf inner ++ writtenEntries inner (entry :: entries)
  | .tagged tag value =>
    let inner :=
      if value.isLeaf then ' ' :: value.leafText (indent + 2) else writtenAfter lead indent true value
    gapAfter lead ++ writtenTag tag ++ inner
  | value => gapAfter lead ++ value.leafText (indent + 2)
where
  /-- The beginning of a collection with the given indentation. -/
  startOf (inner : Nat) : List Char :=
    if alone || lead = .key then newLine inner else gapAfter lead

/-- The items of a sequence. The first goes on in a line that has begun. -/
def writtenItems (indent : Nat) : List Value → List Char
  | [] => []
  | item :: rest =>
    closeLine ('-' :: writtenAfter .item indent false item) ++
      furtherLines indent (writtenItems indent rest)

/-- The entries of a mapping. The first goes on in a line that has begun. -/
def writtenEntries (indent : Nat) : List (Value × Value) → List Char
  | [] => []
  | (key, value) :: rest =>
    let entry :=
      if key.isShortKey then
        key.leafText (indent + 2) ++ ':' :: writtenAfter .key indent false value
      else
        closeLine ('?' :: writtenAfter .mark indent false key) ++ List.replicate indent ' ' ++
          ':' :: writtenAfter .mark indent false value
    closeLine entry ++ furtherLines indent (writtenEntries indent rest)

end

/-- The document of a value. -/
def Value.document (v : Value) : String :=
  String.ofList (closeLine (writtenAfter .nothing 0 false v))

end ControlPoint.Yaml
