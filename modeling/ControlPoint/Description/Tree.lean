import ControlPoint.Description.Node

/-!
The reading of a description from tokens. Each open structuring element is a frame with the node
read so far; elements that mean nothing where they stand are passed over with all they hold. A node
takes only the texts of its immediate child elements. The end of the tokens closes whatever is still
open.
-/

namespace ControlPoint.Description

open Markup

/-- An open structuring element: its node so far, and the names of the other elements that are open
    inside it, innermost first. -/
structure Frame where
  kind : NodeKind
  element : Element
  node : Node
  inner : List String

/-- How far the reading of a description has come: before its root element, inside it with the
    innermost frame first, or behind it. -/
inductive Progress
  | before
  | within (top : Frame) (outer : List Frame)
  | complete (node : Node)

namespace Frame

/-- The frame of a structuring element that has just been opened. -/
def ofElement (kind : NodeKind) (element : Element) : Frame :=
  ⟨kind, element, .ofElement kind element, []⟩

/-- Whether a token closes the frame's element. Inside other elements nothing does. -/
def isClosedBy (f : Frame) (token : Token) : Bool :=
  f.inner.isEmpty && f.kind.closesAt token

/-- The kind of child node that a token opens in the frame. Inside other elements there is none. -/
def childKind? (f : Frame) (token : Token) : Option NodeKind :=
  if f.inner.isEmpty then f.kind.childKind? token else none

/-- The frame's node after the tag of an element that is no child node. -/
def nodeAfterTag (f : Frame) (name : String) : Node :=
  if f.inner.isEmpty then (f.node.takeMark? name).getD f.node else f.node

/-- The node with a text taken, if the text stands immediately inside a child element that is one of
    the node's fields. -/
def takeText? (f : Frame) (text : String) : Option Node :=
  match f.inner with
  | [field] => f.node.takeText? field text
  | _ => none

/-- The frame after a token that neither closes it nor opens a child node. -/
def pass (f : Frame) : Token → Frame
  | .start e => { f with node := f.nodeAfterTag e.name, inner := e.name :: f.inner }
  | .empty e => { f with node := f.nodeAfterTag e.name }
  | .close _ => { f with inner := f.inner.tail }
  | .text text => { f with node := (f.takeText? text).getD f.node }

/-- The frame after a finished child node. -/
def adopt (f : Frame) (child : Node) : Frame :=
  { f with node := f.node.adopt child }

end Frame

/-- The names of the open structuring elements, outermost first. -/
def framePath (top : Frame) (outer : List Frame) : String :=
  String.intercalate "/" ((top :: outer).reverse.map fun f => f.element.name)

namespace Progress

/-- Closes the innermost frame and hands its node to the next one. -/
def close (top : Frame) : List Frame → Progress
  | [] => complete top.node
  | parent :: outer => within (parent.adopt top.node) outer

/-- Opens an element as a node of a kind, inside the frames given. An empty element is finished at
    once. -/
def enter (kind : NodeKind) (token : Token) (outer : List Frame) : Progress :=
  match token with
  | .start e => within (.ofElement kind e) outer
  | .empty e => close (.ofElement kind e) outer
  | .close _ => before
  | .text _ => before

/-- The progress after one more token of a description whose root element has the kind `rootKind`. -/
def step (rootKind : NodeKind) (p : Progress) (token : Token) : Progress :=
  match p with
  | before => if rootKind.opensAt token then enter rootKind token [] else before
  | within top outer =>
    if top.isClosedBy token then close top outer
    else
      match top.childKind? token with
      | some kind => enter kind token (top :: outer)
      | none => within (top.pass token) outer
  | complete node => complete node

/-- Closes all frames from the innermost outwards, with their nodes handed on. -/
def closeAll (top : Frame) : List Frame → Node
  | [] => top.node
  | parent :: outer => closeAll (parent.adopt top.node) outer

/-- The node of the root element once no more tokens come, `none` if there was no root element. -/
def finish? : Progress → Option Node
  | before => none
  | within top outer => some (closeAll top outer)
  | complete node => some node

/-- Whether the root element has been closed, so that what follows it is not read. -/
def isComplete : Progress → Bool
  | complete _ => true
  | _ => false

/-- What the handing on of a frame's node reports. -/
def closeLog (top : Frame) : List Frame → List Log.Entry
  | [] => []
  | parent :: _ => parent.node.adoptLog top.node

/-- What the closing of all frames reports. -/
def closeAllLog (top : Frame) : List Frame → List Log.Entry
  | [] => []
  | parent :: outer =>
    parent.node.adoptLog top.node ++ closeAllLog (parent.adopt top.node) outer

/-- What the opening of an element as a node reports. -/
def enterLog (kind : NodeKind) (token : Token) (outer : List Frame) : List Log.Entry :=
  match token with
  | .empty e => closeLog (.ofElement kind e) outer
  | _ => []

/-- What a token reports that neither closes the innermost frame nor opens a child node: an empty
    element or a text that means nothing. -/
def passLog (top : Frame) (outer : List Frame) : Token → List Log.Entry
  | .empty e =>
    if top.inner.isEmpty && (top.node.takeMark? e.name).isNone then
      [Log.debug "Skipping unknown element" [("path", framePath top outer), ("element", e.name)]]
    else []
  | .text text =>
    if (top.takeText? text).isNone then
      [Log.debug "Skipping unused text"
        [("path", framePath top outer), ("element", top.inner.head?.getD "")]]
    else []
  | _ => []

/-- What one more token reports. -/
def stepLog (p : Progress) (token : Token) : List Log.Entry :=
  match p with
  | before => []
  | within top outer =>
    if top.isClosedBy token then closeLog top outer
    else
      match top.childKind? token with
      | some kind => enterLog kind token (top :: outer)
      | none => passLog top outer token
  | complete _ => []

/-- What the end of the tokens reports. -/
def finishLog : Progress → List Log.Entry
  | before => []
  | within top outer => closeAllLog top outer
  | complete _ => []

/-- The progress after a list of tokens. -/
def run (rootKind : NodeKind) (p : Progress) (tokens : List Token) : Progress :=
  tokens.foldl (step rootKind) p

/-- What a list of tokens reports. -/
def runLog (rootKind : NodeKind) (p : Progress) : List Token → List Log.Entry
  | [] => []
  | token :: rest => stepLog p token ++ runLog rootKind (step rootKind p token) rest

end Progress

end ControlPoint.Description
