import ControlPoint.Description.Document

/-!
The reading of a description by one call for each node. A call takes the tokens of its element from
those that are left, up to the tag that closes the element, and makes a call for every child node on
its way. The path of the open nodes is handed from call to call.
-/

namespace ControlPoint.Markup

/-- The element that a token opens, and whether the token closes it at once. -/
def Token.opening : Token → Element × Bool
  | .start e => (e, false)
  | .empty e => (e, true)
  | .close name => (⟨name, []⟩, true)
  | .text _ => (default, true)

end ControlPoint.Markup

namespace ControlPoint.Description

open Markup

/-- The open nodes with their elements, innermost first. -/
abbrev NodePath := List (NodeKind × Element)

/-- The kind of the node that is so many generations above the innermost one. -/
def NodePath.ancestor? (path : NodePath) (generations : Nat) : Option NodeKind :=
  path[generations]?.map Prod.fst

/-- The kind of child node that a token opens in the innermost node. A device in a list of devices
    is a child only if the list belongs to a device. -/
def Frame.childKindAt? (f : Frame) (path : NodePath) (token : Token) : Option NodeKind :=
  (f.childKind? token).filter fun kind =>
    !(kind == .device && f.kind == .deviceList && path.ancestor? 1 != some .device)

/-- A reader of nodes: the tokens that are left, how the scan ends behind them, and the path of the
    open nodes. -/
structure Reader where
  left : List Token
  ending : Except (Nat × Fault) Nat
  path : NodePath

namespace Reader

/-- A node with the reader behind it, to which no more tokens are left than a number. -/
abbrev Outcome (bound : Nat) :=
  Except (Nat × Fault) (Node × { after : Reader // after.left.length ≤ bound })

mutual

/-- Reads the node of an element whose tag has just been taken. -/
def boundedNode (kind : NodeKind) (e : Element) (isEmpty : Bool) (r : Reader) :
    Outcome r.left.length :=
  if isEmpty then .ok (.ofElement kind e, ⟨r, Nat.le_refl _⟩)
  else boundedInside (.ofElement kind e) { r with path := (kind, e) :: r.path }
termination_by (r.left.length, 1)

/-- Reads on in the innermost node, up to the tag that closes it or the end of the tokens. -/
def boundedInside (f : Frame) (r : Reader) : Outcome r.left.length :=
  match r with
  | ⟨[], ending, path⟩ =>
    ending.map fun stop => (f.node, ⟨⟨[], .ok stop, path.tail⟩, Nat.le_refl _⟩)
  | ⟨token :: rest, ending, path⟩ =>
    if f.isClosedBy token then
      .ok (f.node, ⟨⟨rest, ending, path.tail⟩, Nat.le_succ _⟩)
    else
      match f.childKindAt? path token with
      | some kind => do
        let (child, after) ← boundedNode kind token.opening.1 token.opening.2 ⟨rest, ending, path⟩
        let (node, last) ← boundedInside (f.adopt child) after.1
        return (node, ⟨last.1, Nat.le_succ_of_le (Nat.le_trans last.2 after.2)⟩)
      | none => do
        let (node, last) ← boundedInside (f.pass token) ⟨rest, ending, path⟩
        return (node, ⟨last.1, Nat.le_succ_of_le last.2⟩)
termination_by (r.left.length, 0)
decreasing_by
  · decreasing_tactic
  · exact Prod.Lex.left _ _ (Nat.lt_succ_of_le after.2)
  · decreasing_tactic

end

/-- Reads the node of an element whose tag has just been taken. -/
def readNode (kind : NodeKind) (e : Element) (isEmpty : Bool) (r : Reader) :
    Except (Nat × Fault) (Node × Reader) :=
  (r.boundedNode kind e isEmpty).map fun (node, after) => (node, after.1)

/-- Reads on in the innermost node, up to the tag that closes it or the end of the tokens. -/
def readInside (f : Frame) (r : Reader) : Except (Nat × Fault) (Node × Reader) :=
  (boundedInside f r).map fun (node, after) => (node, after.1)

/-- Takes tokens up to the first element of a kind and reads its node. -/
def readRoot (rootKind : NodeKind) (r : Reader) : Except DocumentError Node :=
  match r with
  | ⟨[], .ok _, _⟩ => .error (.missingRoot rootKind)
  | ⟨[], .error (position, fault), _⟩ => .error (.markup position fault)
  | ⟨token :: rest, ending, path⟩ =>
    if rootKind.opensAt token then
      match readNode rootKind token.opening.1 token.opening.2 ⟨rest, ending, path⟩ with
      | .ok (node, _) => .ok node
      | .error (position, fault) => .error (.markup position fault)
    else readRoot rootKind ⟨rest, ending, path⟩
termination_by r.left.length

/-- A reader at the beginning of a scan. -/
def ofScan (scan : Scan) : Reader :=
  ⟨scan.tokens.map Prod.fst, scan.ending, []⟩

end Reader

end ControlPoint.Description
