import Mathlib
import ControlPoint.Description.Document
import ControlPoint.Proofs.Markup.Nesting

namespace ControlPoint.Description

open Markup Text

/-- The kind of child that an element of this name is inside an element of a kind. -/
def NodeKind.childNamed? (kind : NodeKind) (name : String) : Option NodeKind :=
  kind.childKinds.find? fun child => child.isNamed name

theorem NodeKind.isNamed_of_childNamed? {kind child : NodeKind} {name : String}
    (hchild : kind.childNamed? name = some child) : child.isNamed name = true := by
  simpa using List.find?_some hchild

namespace Node

@[simp] theorem kind_adopt (parent child : Node) : (parent.adopt child).kind = parent.kind := by
  cases parent <;> cases child <;> rfl

theorem kind_takeText? {node taken : Node} {name text : String}
    (htaken : node.takeText? name text = some taken) : taken.kind = node.kind := by
  unfold takeText? at htaken
  cases node
  case scpd | actionList | argumentList | serviceStateTable | deviceList | serviceList | iconList =>
    cases htaken
  case device info embedded =>
    obtain ⟨info, -, rfl⟩ := Option.map_eq_some_iff.mp htaken
    rfl
  case service s =>
    obtain ⟨s, -, rfl⟩ := Option.map_eq_some_iff.mp htaken
    rfl
  case icon i =>
    obtain ⟨i, -, rfl⟩ := Option.map_eq_some_iff.mp htaken
    rfl
  all_goals
    dsimp only at htaken
    split at htaken <;> simp only [Option.some.injEq, reduceCtorEq] at htaken <;> subst htaken <;>
      simp only [kind]

theorem kind_takeMark? {node marked : Node} {name : String}
    (hmarked : node.takeMark? name = some marked) : marked.kind = node.kind := by
  cases node
  case argument a =>
    rw [takeMark?] at hmarked
    split at hmarked
    · cases hmarked
      rfl
    · cases hmarked
  all_goals cases hmarked

/-- The node with a text taken if it has a field of the name. -/
def withText (node : Node) (name text : String) : Node :=
  (node.takeText? name text).getD node

/-- The node with a mark taken if the name is one. -/
def withMark (node : Node) (name : String) : Node :=
  (node.takeMark? name).getD node

@[simp] theorem kind_withText (node : Node) (name text : String) :
    (node.withText name text).kind = node.kind := by
  unfold withText
  cases htaken : node.takeText? name text with
  | none => rfl
  | some taken => exact kind_takeText? htaken

@[simp] theorem kind_withMark (node : Node) (name : String) :
    (node.withMark name).kind = node.kind := by
  unfold withMark
  cases hmarked : node.takeMark? name with
  | none => rfl
  | some marked => exact kind_takeMark? hmarked

/-! ### Reading trees -/

/-- The node after all that stands inside a child element that is no node: the element's own texts
    are taken, and nothing of what is inside other elements. -/
def readField (node : Node) (name : String) : List Tree → Node
  | [] => node
  | .text s :: rest => (node.withText name s).readField name rest
  | .empty _ :: rest => node.readField name rest
  | .element _ _ :: rest => node.readField name rest

mutual

/-- The node after one of the trees inside its element. -/
def readTree (node : Node) : Tree → Node
  | .text _ => node
  | .empty e =>
    match node.kind.childNamed? e.name with
    | some kind => node.adopt (.ofElement kind e)
    | none => node.withMark e.name
  | .element e inside =>
    match node.kind.childNamed? e.name with
    | some kind => node.adopt (readForest (.ofElement kind e) inside)
    | none => (node.withMark e.name).readField e.name inside
termination_by structural t => t

/-- The node after trees inside its element. -/
def readForest (node : Node) : List Tree → Node
  | [] => node
  | t :: rest => readForest (readTree node t) rest
termination_by structural ts => ts

end

@[simp] theorem readForest_nil (node : Node) : node.readForest [] = node := rfl

@[simp] theorem readForest_cons (node : Node) (t : Tree) (rest : List Tree) :
    node.readForest (t :: rest) = (node.readTree t).readForest rest := rfl

theorem readForest_eq_foldl (node : Node) (ts : List Tree) :
    node.readForest ts = ts.foldl readTree node := by
  induction ts generalizing node with
  | nil => rfl
  | cons t rest ih => exact ih (node.readTree t)

theorem readForest_append (node : Node) (first second : List Tree) :
    node.readForest (first ++ second) = (node.readForest first).readForest second := by
  simp only [readForest_eq_foldl, List.foldl_append]

theorem readField_append (node : Node) (name : String) (first second : List Tree) :
    node.readField name (first ++ second) = (node.readField name first).readField name second := by
  induction first generalizing node with
  | nil => rfl
  | cons t rest ih => cases t <;> exact ih _

@[simp] theorem kind_readField (node : Node) (name : String) (ts : List Tree) :
    (node.readField name ts).kind = node.kind := by
  induction ts generalizing node with
  | nil => rfl
  | cons t rest ih => cases t <;> simp [readField, ih]

@[simp] theorem kind_readTree (node : Node) (t : Tree) : (node.readTree t).kind = node.kind := by
  cases t with
  | text s => rfl
  | empty e =>
    rw [readTree]
    split <;> simp
  | element e inside =>
    rw [readTree]
    split <;> simp

@[simp] theorem kind_readForest (node : Node) (ts : List Tree) :
    (node.readForest ts).kind = node.kind := by
  induction ts generalizing node with
  | nil => rfl
  | cons t rest ih => simp [ih]

end Node

/-! ### Tokens of a frame -/

namespace Frame

variable {f g h : Frame}

@[simp] theorem isClosedBy_start (f : Frame) (e : Element) : f.isClosedBy (.start e) = false := by
  simp [isClosedBy, NodeKind.closesAt]

@[simp] theorem isClosedBy_empty (f : Frame) (e : Element) : f.isClosedBy (.empty e) = false := by
  simp [isClosedBy, NodeKind.closesAt]

@[simp] theorem isClosedBy_text (f : Frame) (s : String) : f.isClosedBy (.text s) = false := by
  simp [isClosedBy, NodeKind.closesAt]

theorem isClosedBy_close (hinner : f.inner = []) {name : String}
    (hname : f.kind.isNamed name = true) : f.isClosedBy (.close name) = true := by
  simp [isClosedBy, hinner, NodeKind.closesAt, hname]

theorem isClosedBy_of_inner (hinner : f.inner ≠ []) (token : Token) :
    f.isClosedBy token = false := by
  simp [isClosedBy, hinner]

theorem childKind?_of_inner (hinner : f.inner ≠ []) (token : Token) :
    f.childKind? token = none := by
  simp [childKind?, hinner]

theorem childKind?_eq (hinner : f.inner = []) (token : Token) :
    f.childKind? token = f.kind.childKind? token := by
  simp [childKind?, hinner]

@[simp] theorem childKind?_text (f : Frame) (s : String) : f.childKind? (.text s) = none := by
  simp [childKind?, NodeKind.childKind?, NodeKind.opensAt]

theorem pass_start (hinner : f.inner = []) (e : Element) :
    f.pass (.start e) = { f with node := f.node.withMark e.name, inner := [e.name] } := by
  simp [pass, nodeAfterTag, hinner, Node.withMark]

theorem pass_empty (hinner : f.inner = []) (e : Element) :
    f.pass (.empty e) = { f with node := f.node.withMark e.name } := by
  simp [pass, nodeAfterTag, hinner, Node.withMark]

theorem pass_text (hinner : f.inner = []) (s : String) : f.pass (.text s) = f := by
  have htaken : f.takeText? s = none := by
    rw [takeText?, hinner]
  rw [pass, htaken]
  rfl

/-! ### What stands in elements that are no nodes -/

/-- Tokens that a frame passes over while an element that is no node is open in it, and the frame
    behind them. -/
inductive Passes : Frame → List Token → Frame → Prop
  | nil (f : Frame) : Passes f [] f
  | cons {f g : Frame} {token : Token} {rest : List Token} (hinner : f.inner ≠ [])
      (hrest : Passes (f.pass token) rest g) : Passes f (token :: rest) g

theorem Passes.append {first second : List Token} (hfirst : f.Passes first g)
    (hsecond : g.Passes second h) : f.Passes (first ++ second) h := by
  induction hfirst with
  | nil => exact hsecond
  | cons hinner _ ih => exact .cons hinner (ih hsecond)

/-- What stands two levels below a node is passed over. -/
theorem passes_deep (hinner : 2 ≤ f.inner.length) (ts : List Tree) :
    f.Passes (Tree.forestTokens ts) f := by
  induction ts using Tree.forest_induction generalizing f with
  | nil => exact .nil f
  | text s rest ih =>
    have hpass : f.pass (.text s) = f := by
      have htaken : f.takeText? s = none := by
        unfold Frame.takeText?
        split
        case h_1 field hfield => simp [hfield] at hinner
        case h_2 => rfl
      rw [Frame.pass, htaken]
      rfl
    refine .cons (List.ne_nil_of_length_pos (by omega)) ?_
    rw [hpass]
    exact ih hinner
  | empty e rest ih =>
    have hne : f.inner ≠ [] := List.ne_nil_of_length_pos (by omega)
    have hpass : f.pass (.empty e) = f := by
      simp [Frame.pass, Frame.nodeAfterTag, hne]
    refine .cons hne ?_
    rw [hpass]
    exact ih hinner
  | element e inside rest ihInside ih =>
    have hne : f.inner ≠ [] := List.ne_nil_of_length_pos (by omega)
    have hpass : f.pass (.start e) = { f with inner := e.name :: f.inner } := by
      simp [Frame.pass, Frame.nodeAfterTag, hne]
    rw [Tree.forestTokens_element]
    refine .cons hne ?_
    rw [hpass]
    exact (ihInside (by simp; omega)).append (.cons (by simp) (ih hinner))

/-- What stands in a child element that is no node is read as a field. -/
theorem passes_field {name : String} (hinner : f.inner = [name]) (ts : List Tree) :
    f.Passes (Tree.forestTokens ts) { f with node := f.node.readField name ts } := by
  have hne : f.inner ≠ [] := by simp [hinner]
  induction ts generalizing f with
  | nil => exact .nil f
  | cons t rest ih =>
    cases t with
    | text s =>
      have hpass : f.pass (.text s) = { f with node := f.node.withText name s } := by
        simp [Frame.pass, Frame.takeText?, hinner, Node.withText]
      refine .cons hne ?_
      rw [hpass]
      refine ih ?_ ?_
      · exact hinner
      · exact hne
    | empty e =>
      have hpass : f.pass (.empty e) = f := by
        simp [Frame.pass, Frame.nodeAfterTag, hne]
      refine .cons hne ?_
      rw [hpass]
      exact ih hinner hne
    | element e inside =>
      have hpass : f.pass (.start e) = { f with inner := e.name :: f.inner } := by
        simp [Frame.pass, Frame.nodeAfterTag, hne]
      rw [Tree.forestTokens_element]
      refine .cons hne ?_
      rw [hpass]
      exact (passes_deep (by simp [hinner]) inside).append (.cons (by simp) (ih hinner hne))

/-- A child element that is no node is read as a field up to its end, where it is open no more. -/
theorem passes_closed (hinner : f.inner = []) (name : String) (inside : List Tree) :
    Passes { f with inner := [name] } (Tree.forestTokens inside ++ [.close name])
      { f with node := f.node.readField name inside } := by
  have hclose (node : Node) : pass { f with node, inner := [name] } (.close name) =
      { f with node } := by
    simp [Frame.pass, hinner]
  refine (passes_field rfl inside).append (.cons (by simp) ?_)
  rw [hclose]
  exact .nil _

end Frame

/-! ### What the tokens of trees do -/

namespace Progress

variable {rootKind : NodeKind} {f : Frame} {outer : List Frame}

theorem run_append (rootKind : NodeKind) (p : Progress) (first second : List Token) :
    run rootKind p (first ++ second) = run rootKind (run rootKind p first) second :=
  List.foldl_append

@[simp] theorem run_cons (rootKind : NodeKind) (p : Progress) (token : Token) (rest : List Token) :
    run rootKind p (token :: rest) = run rootKind (step rootKind p token) rest := rfl

@[simp] theorem run_nil (rootKind : NodeKind) (p : Progress) : run rootKind p [] = p := rfl

/-- What follows the root element is not read. -/
theorem run_complete (rootKind : NodeKind) (node : Node) (tokens : List Token) :
    run rootKind (complete node) tokens = complete node := by
  induction tokens with
  | nil => rfl
  | cons token rest ih => exact ih

/-- Inside an element that is no node, no token opens or closes a node. -/
theorem step_of_inner (hinner : f.inner ≠ []) (token : Token) :
    step rootKind (within f outer) token = within (f.pass token) outer := by
  simp [step, Frame.isClosedBy_of_inner hinner, Frame.childKind?_of_inner hinner]

theorem run_of_passes {g : Frame} {tokens : List Token} (hpasses : f.Passes tokens g) :
    run rootKind (within f outer) tokens = within g outer := by
  induction hpasses with
  | nil => rfl
  | cons hinner _ ih => rw [run_cons, step_of_inner hinner, ih]

/-- Immediately inside a node's element, a tag opens a child node or means what its name means. -/
theorem step_start (hinner : f.inner = []) (e : Element) :
    step rootKind (within f outer) (.start e) =
      match f.kind.childNamed? e.name with
      | some kind => within (.ofElement kind e) (f :: outer)
      | none => within { f with node := f.node.withMark e.name, inner := [e.name] } outer := by
  rw [step, Frame.isClosedBy_start, Frame.childKind?_eq hinner, Frame.pass_start hinner]
  rfl

theorem step_empty (hinner : f.inner = []) (e : Element) :
    step rootKind (within f outer) (.empty e) =
      match f.kind.childNamed? e.name with
      | some kind => within (f.adopt (.ofElement kind e)) outer
      | none => within { f with node := f.node.withMark e.name } outer := by
  rw [step, Frame.isClosedBy_empty, Frame.childKind?_eq hinner, Frame.pass_empty hinner]
  rfl

theorem step_text (hinner : f.inner = []) (s : String) :
    step rootKind (within f outer) (.text s) = within f outer := by
  rw [step, Frame.isClosedBy_text, Frame.childKind?_text, Frame.pass_text hinner]
  rfl

theorem step_close (hinner : f.inner = []) {name : String} (hname : f.kind.isNamed name = true) :
    step rootKind (within f outer) (.close name) = close f outer := by
  rw [step, Frame.isClosedBy_close hinner hname]
  rfl

/-- What stands in a node's element does what reading it as trees does. -/
theorem run_forestTokens (hinner : f.inner = []) (hkind : f.node.kind = f.kind) (ts : List Tree) :
    run rootKind (within f outer) (Tree.forestTokens ts) =
      within { f with node := f.node.readForest ts } outer := by
  induction ts using Tree.forest_induction generalizing f outer with
  | nil => rfl
  | text s rest ih =>
    rw [Tree.forestTokens_text, run_cons, step_text hinner, ih hinner hkind]
    rfl
  | empty e rest ih =>
    rw [Tree.forestTokens_empty, run_cons, step_empty hinner, Node.readForest_cons, Node.readTree,
      hkind]
    cases f.kind.childNamed? e.name with
    | none =>
      refine ih ?_ ?_
      · exact hinner
      · simpa using hkind
    | some kind =>
      refine ih ?_ ?_
      · exact hinner
      · simpa [Frame.adopt] using hkind
  | element e inside rest ihInside ih =>
    rw [Tree.forestTokens_element, run_cons, step_start hinner, Node.readForest_cons, Node.readTree,
      hkind]
    cases hchild : f.kind.childNamed? e.name with
    | none =>
      have hpasses := Frame.passes_closed (f := { f with node := f.node.withMark e.name }) hinner
        e.name inside
      dsimp only
      rw [List.append_cons, run_append, run_of_passes hpasses]
      refine ih ?_ ?_
      · exact hinner
      · simpa using hkind
    | some kind =>
      dsimp only
      rw [run_append, ihInside rfl (Node.kind_ofElement kind e), run_cons,
        step_close rfl (NodeKind.isNamed_of_childNamed? hchild)]
      refine ih ?_ ?_
      · exact hinner
      · simpa [Frame.adopt] using hkind

theorem run_ofElement (rootKind kind : NodeKind) (e : Element) (outer : List Frame)
    (inside : List Tree) :
    run rootKind (within (.ofElement kind e) outer) (Tree.forestTokens inside) =
      within ⟨kind, e, (Node.ofElement kind e).readForest inside, []⟩ outer :=
  run_forestTokens rfl (Node.kind_ofElement kind e) inside

end Progress

/-! ### The root element -/

/-- No token opens an element of the kind. -/
def NodeKind.AbsentFrom (kind : NodeKind) (tokens : List Token) : Prop :=
  ∀ token ∈ tokens, kind.opensAt token = false

instance (kind : NodeKind) (tokens : List Token) : Decidable (kind.AbsentFrom tokens) :=
  inferInstanceAs (Decidable (∀ token ∈ tokens, kind.opensAt token = false))

/-- What comes before the root element is not read. -/
theorem Progress.run_before {rootKind : NodeKind} {tokens : List Token}
    (habsent : rootKind.AbsentFrom tokens) : run rootKind before tokens = before := by
  induction tokens with
  | nil => rfl
  | cons token rest ih =>
    rw [NodeKind.AbsentFrom, List.forall_mem_cons] at habsent
    rw [run_cons, step, habsent.1]
    exact ih habsent.2

/-- The opening of the root element. -/
theorem Progress.step_before {rootKind : NodeKind} {e : Element}
    (hroot : rootKind.isNamed e.name = true) :
    step rootKind before (.start e) = within (.ofElement rootKind e) [] := by
  simp [step, NodeKind.opensAt, hroot, enter]

/-- A root element is complete at its own end, with what reading it as trees gives. -/
theorem Progress.run_root_element {rootKind : NodeKind} {before : List Token} {e : Element}
    (hbefore : rootKind.AbsentFrom before) (hname : rootKind.isNamed e.name = true)
    (inside : List Tree) (rest : List Token) :
    run rootKind .before (before ++ ((Tree.element e inside).tokens ++ rest)) =
      complete ((Node.ofElement rootKind e).readForest inside) := by
  rw [run_append, run_before hbefore, Tree.tokens, List.cons_append, List.append_assoc, run_cons,
    step_before hname, run_append, run_ofElement, List.singleton_append, run_cons,
    step_close (f := ⟨rootKind, e, _, []⟩) rfl hname, close, run_complete]

theorem Progress.run_root_empty {rootKind : NodeKind} {before : List Token} {e : Element}
    (hbefore : rootKind.AbsentFrom before) (hname : rootKind.isNamed e.name = true)
    (rest : List Token) :
    run rootKind .before (before ++ ((Tree.empty e).tokens ++ rest)) =
      complete (.ofElement rootKind e) := by
  have hstep : step rootKind .before (.empty e) = complete (.ofElement rootKind e) := by
    simp [step, NodeKind.opensAt, hname, enter, close, Frame.ofElement]
  rw [run_append, run_before hbefore, Tree.tokens, List.singleton_append, run_cons, hstep,
    run_complete]

/-- The tree is the first element of the kind among the tokens, with all that stands inside it and
    its end. -/
def NodeKind.IsRoot (kind : NodeKind) (root : Tree) (tokens : List Token) : Prop :=
  ∃ before e rest, tokens = before ++ (root.tokens ++ rest) ∧ kind.AbsentFrom before ∧
    root.top? = some e ∧ kind.isNamed e.name = true

/-- The reading of tokens comes to its end with the root, at what stands inside it. -/
theorem Progress.run_of_isRoot {kind : NodeKind} {root : Tree} {tokens : List Token} {e : Element}
    (hroot : kind.IsRoot root tokens) (htop : root.top? = some e) :
    run kind .before tokens = complete ((Node.ofElement kind e).readForest root.inside) := by
  obtain ⟨before, e', rest, rfl, habsent, htop', hname⟩ := hroot
  obtain rfl := Option.some.inj (htop.symm.trans htop')
  cases root with
  | text s => cases htop
  | empty e' =>
    obtain rfl := Option.some.inj htop
    exact run_root_empty habsent hname rest
  | element e' inside =>
    obtain rfl := Option.some.inj htop
    exact run_root_element habsent hname inside rest

theorem Node.finish?_of_ofScan {rootKind : NodeKind} {scan : Scan} {node : Node}
    (hnode : Node.ofScan rootKind scan = .ok node) :
    (Progress.run rootKind .before (scan.tokens.map Prod.fst)).finish? = some node := by
  rw [Node.ofScan] at hnode
  split at hnode
  · cases hnode
  · split at hnode
    case h_1 root hfinish =>
      cases hnode
      exact hfinish
    case h_2 => cases hnode

theorem Node.ofScan_of_isRoot {kind : NodeKind} {root : Tree} {scan : Scan} {e : Element}
    (hroot : kind.IsRoot root (scan.tokens.map Prod.fst)) (htop : root.top? = some e) :
    Node.ofScan kind scan = .ok ((ofElement kind e).readForest root.inside) := by
  rw [ofScan, Progress.run_of_isRoot hroot htop]
  rfl

end ControlPoint.Description
