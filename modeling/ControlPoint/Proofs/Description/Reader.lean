import Mathlib
import ControlPoint.Description.Reader
import ControlPoint.Proofs.Description.Edits

/-!
What one call for each node takes from the tokens that are left: its element, whatever stands in it,
and nothing else. What the calls read is what the frames read.
-/

namespace ControlPoint.Description

open Markup Text

namespace Reader

/-! ### One call -/

@[simp] theorem readNode_empty (kind : NodeKind) (e : Element) (r : Reader) :
    readNode kind e true r = .ok (.ofElement kind e, r) := by
  rw [readNode, boundedNode]
  rfl

theorem readNode_start (kind : NodeKind) (e : Element) (r : Reader) :
    readNode kind e false r =
      readInside (.ofElement kind e) { r with path := (kind, e) :: r.path } := by
  rw [readNode, boundedNode]
  rfl

theorem readInside_nil (f : Frame) (ending : Except (Nat × Fault) Nat) (path : NodePath) :
    readInside f ⟨[], ending, path⟩ =
      ending.map fun stop => (f.node, ⟨[], .ok stop, path.tail⟩) := by
  rw [readInside, boundedInside]
  cases ending <;> rfl

theorem readInside_cons (f : Frame) (token : Token) (rest : List Token)
    (ending : Except (Nat × Fault) Nat) (path : NodePath) :
    readInside f ⟨token :: rest, ending, path⟩ =
      if f.isClosedBy token then .ok (f.node, ⟨rest, ending, path.tail⟩)
      else
        match f.childKindAt? path token with
        | some kind =>
          (readNode kind token.opening.1 token.opening.2 ⟨rest, ending, path⟩).bind
            fun x => readInside (f.adopt x.1) x.2
        | none => readInside (f.pass token) ⟨rest, ending, path⟩ := by
  rw [readInside, boundedInside]
  split
  · rfl
  · cases f.childKindAt? path token with
    | none =>
      dsimp only
      rw [readInside]
      cases boundedInside (f.pass token) ⟨rest, ending, path⟩ <;> rfl
    | some kind =>
      dsimp only
      rw [readNode]
      cases boundedNode kind token.opening.1 token.opening.2 ⟨rest, ending, path⟩ with
      | error fault => rfl
      | ok x =>
        simp only [Except.map, Except.bind, bind]
        rw [readInside]
        cases boundedInside (f.adopt x.1) x.2.1 <;> rfl

end Reader

/-! ### Where a node stands -/

/-- A list of devices that stands in no device. -/
def NodeKind.IsAstray (kind : NodeKind) (above : NodePath) : Prop :=
  kind = .deviceList ∧ above.ancestor? 0 ≠ some .device

instance (kind : NodeKind) (above : NodePath) : Decidable (kind.IsAstray above) :=
  inferInstanceAs (Decidable (_ ∧ _))

theorem NodeKind.eq_device_of_childKind? {kind : NodeKind} {token : Token}
    (hchild : kind.childKind? token = some .deviceList) : kind = .device := by
  have hmem := List.mem_of_find?_eq_some hchild
  revert hmem
  cases kind <;> decide

/-- A child node is never astray. -/
theorem NodeKind.not_isAstray_child {kind child : NodeKind} {token : Token}
    (hchild : kind.childKind? token = some child) (e : Element) (above : NodePath) :
    ¬ child.IsAstray ((kind, e) :: above) := by
  rintro ⟨rfl, hparent⟩
  exact hparent (congrArg some (NodeKind.eq_device_of_childKind? hchild))

namespace Frame

variable {f : Frame} {above : NodePath}

theorem eq_some_of_childKind? {token : Token} {kind : NodeKind}
    (hchild : f.childKind? token = some kind) : f.kind.childKind? token = some kind := by
  rw [childKind?] at hchild
  split at hchild
  · exact hchild
  · cases hchild

theorem childKindAt?_of_not_isAstray (hplace : ¬ f.kind.IsAstray above) (token : Token) :
    f.childKindAt? ((f.kind, f.element) :: above) token = f.childKind? token := by
  have hparent : NodePath.ancestor? ((f.kind, f.element) :: above) 1 = above.ancestor? 0 := rfl
  rw [NodeKind.IsAstray, not_and_not_right] at hplace
  rw [childKindAt?, hparent]
  cases hchild : f.childKind? token with
  | none => rfl
  | some kind =>
    refine Option.filter_some_pos ?_
    by_cases hlist : f.kind = .deviceList
    · simp [hplace hlist]
    · simp [hlist]

theorem childKindAt?_of_inner (hinner : f.inner = []) (hplace : ¬ f.kind.IsAstray above)
    (token : Token) :
    f.childKindAt? ((f.kind, f.element) :: above) token = f.kind.childKind? token := by
  rw [childKindAt?_of_not_isAstray hplace, childKind?_eq hinner]

/-- A list of devices that is astray has no child nodes. -/
theorem childKindAt?_of_isAstray (hplace : f.kind.IsAstray above) (token : Token) :
    f.childKindAt? ((f.kind, f.element) :: above) token = none := by
  obtain ⟨hlist, hparent⟩ := hplace
  have habove : NodePath.ancestor? ((f.kind, f.element) :: above) 1 = above.ancestor? 0 := rfl
  rw [childKindAt?, habove, Option.filter_eq_none_iff]
  intro kind hchild
  have hopen := eq_some_of_childKind? hchild
  have hdevice : kind = .device := by
    rw [hlist] at hopen
    simpa [NodeKind.childKinds] using List.mem_of_find?_eq_some hopen
  simp [hdevice, hlist, hparent]

end Frame

namespace Reader

variable {f : Frame} {ending : Except (Nat × Fault) Nat} {path above : NodePath} {e : Element}

/-! ### Tokens of one frame -/

theorem readInside_of_passes {g : Frame} {tokens : List Token} (hpasses : f.Passes tokens g)
    (rest : List Token) :
    readInside f ⟨tokens ++ rest, ending, path⟩ = readInside g ⟨rest, ending, path⟩ := by
  induction hpasses with
  | nil => rfl
  | cons hinner _ ih =>
    rw [List.cons_append, readInside_cons, Frame.isClosedBy_of_inner hinner, Frame.childKindAt?,
      Frame.childKind?_of_inner hinner]
    exact ih

theorem readInside_close (hinner : f.inner = []) {name : String}
    (hname : f.kind.isNamed name = true) (rest : List Token) :
    readInside f ⟨.close name :: rest, ending, path⟩ = .ok (f.node, ⟨rest, ending, path.tail⟩) := by
  rw [readInside_cons, Frame.isClosedBy_close hinner hname]
  rfl

theorem readInside_text (hinner : f.inner = []) (s : String) (rest : List Token) :
    readInside f ⟨.text s :: rest, ending, path⟩ = readInside f ⟨rest, ending, path⟩ := by
  rw [readInside_cons, Frame.isClosedBy_text, Frame.childKindAt?, Frame.childKind?_text,
    Frame.pass_text hinner]
  rfl

/-- A start tag that opens no child node means what its name means, and opens an element that is no
    node. -/
theorem readInside_start (hinner : f.inner = []) (hchild : f.childKindAt? path (.start e) = none)
    (rest : List Token) :
    readInside f ⟨.start e :: rest, ending, path⟩ =
      readInside { f with node := f.node.withMark e.name, inner := [e.name] }
        ⟨rest, ending, path⟩ := by
  rw [readInside_cons, Frame.isClosedBy_start, hchild, Frame.pass_start hinner]
  rfl

theorem readInside_empty (hinner : f.inner = []) (hchild : f.childKindAt? path (.empty e) = none)
    (rest : List Token) :
    readInside f ⟨.empty e :: rest, ending, path⟩ =
      readInside { f with node := f.node.withMark e.name } ⟨rest, ending, path⟩ := by
  rw [readInside_cons, Frame.isClosedBy_empty, hchild, Frame.pass_empty hinner]
  rfl

/-- An element that opens no child node is read as a field up to its end. -/
theorem readInside_element (hinner : f.inner = []) (hchild : f.childKindAt? path (.start e) = none)
    (inside : List Tree) (rest : List Token) :
    readInside f ⟨.start e :: (Tree.forestTokens inside ++ .close e.name :: rest), ending, path⟩ =
      readInside { f with node := (f.node.withMark e.name).readField e.name inside }
        ⟨rest, ending, path⟩ := by
  have hpasses := Frame.passes_closed (f := { f with node := f.node.withMark e.name }) hinner e.name
    inside
  rw [readInside_start hinner hchild, List.append_cons]
  exact readInside_of_passes hpasses rest

/-- A child node is read by a call of its own. -/
theorem readInside_child {token : Token} {kind : NodeKind} {rest : List Token} {child : Node}
    {after : Reader} (hclosed : f.isClosedBy token = false)
    (hchild : f.childKindAt? path token = some kind)
    (hread : readNode kind token.opening.1 token.opening.2 ⟨rest, ending, path⟩ =
      .ok (child, after)) :
    readInside f ⟨token :: rest, ending, path⟩ = readInside (f.adopt child) after := by
  rw [readInside_cons, hclosed, hchild]
  dsimp only
  rw [hread]
  rfl

/-! ### Trees -/

/-- A call takes what stands in its element and the tag that closes it, where nothing in the element
    ends the reading of the element. -/
theorem readNode_of_inside {kind : NodeKind} {node : Node} {inside : List Tree}
    (hname : kind.isNamed e.name = true)
    (hinside : ∀ rest, readInside (.ofElement kind e)
      ⟨Tree.forestTokens inside ++ rest, ending, (kind, e) :: path⟩ =
        readInside ⟨kind, e, node, []⟩ ⟨rest, ending, (kind, e) :: path⟩) (rest : List Token) :
    readNode kind e false ⟨Tree.forestTokens inside ++ .close e.name :: rest, ending, path⟩ =
      .ok (node, ⟨rest, ending, path⟩) := by
  rw [readNode_start, hinside, readInside_close (f := ⟨kind, e, node, []⟩) rfl hname]
  rfl

/-- What stands in a node's element is read as trees, whatever follows it. -/
theorem readInside_forestTokens (hinner : f.inner = []) (hkind : f.node.kind = f.kind)
    (hplace : ¬ f.kind.IsAstray above) (ts : List Tree) (rest : List Token) :
    readInside f ⟨Tree.forestTokens ts ++ rest, ending, (f.kind, f.element) :: above⟩ =
      readInside { f with node := f.node.readForest ts }
        ⟨rest, ending, (f.kind, f.element) :: above⟩ := by
  induction ts using Tree.forest_induction generalizing f above rest with
  | nil => rfl
  | text s later ih =>
    rw [Tree.forestTokens_text, List.cons_append, readInside_text hinner]
    exact ih hinner hkind hplace rest
  | empty e later ih =>
    have hat := Frame.childKindAt?_of_inner hinner hplace (.empty e)
    rw [Tree.forestTokens_empty, List.cons_append, Node.readForest_cons, Node.readTree, hkind]
    cases hchild : f.kind.childNamed? e.name with
    | none =>
      rw [readInside_empty hinner (hat.trans hchild)]
      refine ih ?_ ?_ ?_ rest
      · exact hinner
      · simpa using hkind
      · exact hplace
    | some kind =>
      rw [readInside_child (Frame.isClosedBy_empty f e) (hat.trans hchild)
        (readNode_empty kind e _)]
      refine ih ?_ ?_ ?_ rest
      · exact hinner
      · simpa [Frame.adopt] using hkind
      · exact hplace
  | element e inside later ihInside ih =>
    have hat := Frame.childKindAt?_of_inner hinner hplace (.start e)
    rw [Tree.forestTokens_element, List.cons_append, List.append_assoc, List.cons_append,
      Node.readForest_cons, Node.readTree, hkind]
    cases hchild : f.kind.childNamed? e.name with
    | none =>
      rw [readInside_element hinner (hat.trans hchild)]
      refine ih ?_ ?_ ?_ rest
      · exact hinner
      · simpa using hkind
      · exact hplace
    | some kind =>
      have hname := NodeKind.isNamed_of_childNamed? hchild
      have hopen : f.kind.childKind? (.start e) = some kind := hchild
      have hread := readNode_of_inside hname (ihInside (f := .ofElement kind e) rfl
        (Node.kind_ofElement kind e) (NodeKind.not_isAstray_child hopen f.element above))
        (Tree.forestTokens later ++ rest)
      rw [readInside_child (Frame.isClosedBy_start f e) (hat.trans hchild) hread]
      refine ih ?_ ?_ ?_ rest
      · exact hinner
      · simpa [Frame.adopt] using hkind
      · exact hplace

end Reader

/-! ### Lists of devices that are astray -/

namespace Reader

variable {f : Frame} {ending : Except (Nat × Fault) Nat} {above : NodePath}

/-- A list of devices that is astray stays as it is, whatever stands in it. -/
theorem readInside_forestTokens_of_isAstray (hinner : f.inner = []) (hkind : f.node.kind = f.kind)
    (hplace : f.kind.IsAstray above) (ts : List Tree) (rest : List Token) :
    readInside f ⟨Tree.forestTokens ts ++ rest, ending, (f.kind, f.element) :: above⟩ =
      readInside f ⟨rest, ending, (f.kind, f.element) :: above⟩ := by
  have hlist : f.node.kind = .deviceList := hkind.trans hplace.1
  have hfield (e : Element) : lowerAscii e.name ∉ f.node.kind.fieldNames := by
    simp [hlist, NodeKind.fieldNames]
  have hmark (e : Element) : lowerAscii e.name ∉ f.node.kind.markNames := by
    simp [hlist, NodeKind.markNames]
  induction ts with
  | nil => rfl
  | cons t later ih =>
    cases t with
    | text s =>
      rw [Tree.forestTokens_text, List.cons_append, readInside_text hinner, ih]
    | empty e =>
      rw [Tree.forestTokens_empty, List.cons_append,
        readInside_empty hinner (Frame.childKindAt?_of_isAstray hplace _),
        Node.withMark_of_notMem (hmark e), ih]
    | element e inside =>
      rw [Tree.forestTokens_element, List.cons_append, List.append_assoc, List.cons_append,
        readInside_element hinner (Frame.childKindAt?_of_isAstray hplace _),
        Node.withMark_of_notMem (hmark e), Node.readField_of_notMem (hfield e), ih]

end Reader

/-! ### The calls and the frames -/

/-- The path of open frames. -/
def nodePath (frames : List Frame) : NodePath :=
  frames.map fun f => (f.kind, f.element)

@[simp] theorem Frame.kind_pass (f : Frame) (token : Token) : (f.pass token).kind = f.kind := by
  cases token <;> rfl

@[simp] theorem Frame.element_pass (f : Frame) (token : Token) :
    (f.pass token).element = f.element := by
  cases token <;> rfl

namespace Reader

/-- Whatever the tokens are, a call that ends well has put back the path, and has left the end of
    the scan as it was. -/
theorem eq_of_readInside (f : Frame) (tokens : List Token) (ending : Except (Nat × Fault) Nat)
    (path : NodePath) {node : Node} {after : Reader}
    (hread : readInside f ⟨tokens, ending, path⟩ = .ok (node, after)) :
    after = ⟨after.left, ending, path.tail⟩ ∧ after.left.length ≤ tokens.length := by
  match tokens with
  | [] =>
    rw [readInside_nil] at hread
    cases ending with
    | error fault => cases hread
    | ok stop =>
      cases hread
      exact ⟨rfl, Nat.le_refl 0⟩
  | token :: rest =>
    rw [readInside_cons] at hread
    split at hread
    · cases hread
      exact ⟨rfl, Nat.le_succ _⟩
    · split at hread
      case h_1 kind _ =>
        cases hempty : token.opening.2 with
        | true =>
          rw [hempty, readNode_empty] at hread
          exact (eq_of_readInside _ rest ending path hread).imp_right Nat.le_succ_of_le
        | false =>
          rw [hempty, readNode_start] at hread
          cases hchild : readInside (.ofElement kind token.opening.1)
            ⟨rest, ending, (kind, token.opening.1) :: path⟩ with
          | error fault =>
            rw [hchild] at hread
            cases hread
          | ok x =>
            obtain ⟨child, inner⟩ := x
            rw [hchild] at hread
            obtain ⟨hinner, hle⟩ := eq_of_readInside _ rest ending _ hchild
            rw [hinner] at hread
            obtain ⟨hafter, hlength⟩ := eq_of_readInside _ inner.left ending path hread
            exact ⟨hafter, Nat.le_succ_of_le (hlength.trans hle)⟩
      case h_2 =>
        exact (eq_of_readInside _ rest ending path hread).imp_right Nat.le_succ_of_le
termination_by tokens.length
decreasing_by all_goals simp <;> omega

theorem eq_of_readNode {kind : NodeKind} {e : Element} {isEmpty : Bool} {tokens : List Token}
    {ending : Except (Nat × Fault) Nat} {path : NodePath} {node : Node} {after : Reader}
    (hread : readNode kind e isEmpty ⟨tokens, ending, path⟩ = .ok (node, after)) :
    after = ⟨after.left, ending, path⟩ ∧ after.left.length ≤ tokens.length := by
  cases isEmpty with
  | true =>
    rw [readNode_empty] at hread
    cases hread
    exact ⟨rfl, Nat.le_refl _⟩
  | false =>
    rw [readNode_start] at hread
    exact eq_of_readInside _ tokens ending _ hread

end Reader

namespace Progress

/-- What a reading has come to where the tokens end. -/
def outcome (rootKind : NodeKind) (ending : Except (Nat × Fault) Nat) (p : Progress) :
    Except DocumentError Node :=
  match p.isComplete, ending with
  | false, .error (position, fault) => .error (.markup position fault)
  | _, _ =>
    match p.finish? with
    | some node => .ok node
    | none => .error (.missingRoot rootKind)

/-- What the reading comes to behind a call for the innermost node. -/
def outcomeBehind (rootKind : NodeKind) (outer : List Frame) :
    Except (Nat × Fault) (Node × Reader) → Except DocumentError Node
  | .error (position, fault) => .error (.markup position fault)
  | .ok (node, after) =>
    match outer with
    | [] => .ok node
    | parent :: outer =>
      (run rootKind (within (parent.adopt node) outer) after.left).outcome rootKind after.ending

theorem outcome_run_close (rootKind : NodeKind) (ending : Except (Nat × Fault) Nat) (f : Frame)
    (outer : List Frame) (rest : List Token) (path : NodePath) :
    (run rootKind (close f outer) rest).outcome rootKind ending =
      outcomeBehind rootKind outer (.ok (f.node, ⟨rest, ending, path⟩)) := by
  cases outer with
  | nil =>
    rw [close, run_complete]
    cases ending <;> rfl
  | cons parent outer => rfl

/-- The frames read on in the innermost node as the call for it does. -/
theorem outcome_run_within (rootKind : NodeKind) (f : Frame) (outer : List Frame)
    (tokens : List Token) (ending : Except (Nat × Fault) Nat)
    (hplace : ¬ f.kind.IsAstray (nodePath outer)) :
    (run rootKind (within f outer) tokens).outcome rootKind ending =
      outcomeBehind rootKind outer
        (Reader.readInside f ⟨tokens, ending, nodePath (f :: outer)⟩) := by
  match tokens with
  | [] =>
    rw [Reader.readInside_nil]
    cases ending with
    | error fault => rfl
    | ok stop => cases outer <;> rfl
  | token :: rest =>
    have hat : f.childKindAt? (nodePath (f :: outer)) token = f.childKind? token :=
      Frame.childKindAt?_of_not_isAstray hplace token
    rw [run_cons, step, Reader.readInside_cons, hat]
    split
    · exact outcome_run_close rootKind ending f outer rest _
    · cases hchild : f.childKind? token with
      | none =>
        have hpass := outcome_run_within rootKind (f.pass token) outer rest ending
          (by simpa using hplace)
        simpa [nodePath] using hpass
      | some kind =>
        -- behind the child the innermost node is the frame's own again
        have hadopt (child : Node) (later : List Token) (hle : later.length ≤ rest.length) :=
          outcome_run_within rootKind (f.adopt child) outer later ending hplace
        have hopen := Frame.eq_some_of_childKind? hchild
        have hopens : kind.opensAt token = true := by simpa using List.find?_some hopen
        dsimp only
        cases token with
        | text s => cases hopens
        | close name => cases hopens
        | empty e =>
          dsimp only [Token.opening]
          rw [Reader.readNode_empty]
          exact hadopt (.ofElement kind e) rest (Nat.le_refl _)
        | start e =>
          have hinside : (run rootKind (within (.ofElement kind e) (f :: outer)) rest).outcome
              rootKind ending = outcomeBehind rootKind (f :: outer)
                (Reader.readNode kind e false ⟨rest, ending, nodePath (f :: outer)⟩) := by
            rw [Reader.readNode_start]
            exact outcome_run_within rootKind (.ofElement kind e) (f :: outer) rest ending
              (NodeKind.not_isAstray_child hopen f.element (nodePath outer))
          dsimp only [enter, Token.opening]
          rw [hinside]
          cases hread : Reader.readNode kind e false ⟨rest, ending, nodePath (f :: outer)⟩ with
          | error fault => rfl
          | ok x =>
            obtain ⟨child, after⟩ := x
            obtain ⟨hafter, hle⟩ := Reader.eq_of_readNode hread
            rw [hafter]
            exact hadopt child after.left hle
termination_by tokens.length
decreasing_by all_goals simp <;> omega

/-- Before the root element the frames and the calls pass over the same tokens. -/
theorem outcome_run_before {rootKind : NodeKind} (hroot : rootKind ≠ .deviceList)
    (tokens : List Token) (ending : Except (Nat × Fault) Nat) :
    (run rootKind before tokens).outcome rootKind ending =
      Reader.readRoot rootKind ⟨tokens, ending, []⟩ := by
  induction tokens with
  | nil =>
    rw [Reader.readRoot.eq_def]
    cases ending <;> rfl
  | cons token rest ih =>
    rw [run_cons, step, Reader.readRoot.eq_def]
    dsimp only
    split
    case isFalse => exact ih
    case isTrue hopens =>
      cases token with
      | text s => cases hopens
      | close name => cases hopens
      | empty e =>
        dsimp only [Token.opening]
        rw [Reader.readNode_empty]
        exact outcome_run_close rootKind ending (.ofElement rootKind e) [] rest []
      | start e =>
        have hinside : (run rootKind (within (.ofElement rootKind e) []) rest).outcome
            rootKind ending = outcomeBehind rootKind []
              (Reader.readNode rootKind e false ⟨rest, ending, []⟩) := by
          rw [Reader.readNode_start]
          exact outcome_run_within rootKind (.ofElement rootKind e) [] rest ending
            fun hastray => hroot hastray.1
        dsimp only [enter, Token.opening]
        rw [hinside]
        cases Reader.readNode rootKind e false ⟨rest, ending, []⟩ <;> rfl

end Progress

/-- The calls read what the frames do. No document has a list of devices as its root. -/
theorem Node.ofScan_eq_readRoot {rootKind : NodeKind} (hroot : rootKind ≠ .deviceList)
    (scan : Scan) : Node.ofScan rootKind scan = (Reader.ofScan scan).readRoot rootKind :=
  Progress.outcome_run_before hroot (scan.tokens.map Prod.fst) scan.ending

namespace Reader

/-- A description is read by the call for its root. In a well-nested stream that has just passed a
    start tag of its kind, the call for a node takes the tokens up to the tag that closes the element
    and no more. It gives the node every tree among them once, whatever elements the tree nests, and
    leaves the path as it was. Only a list of devices that stands in no device takes none of the
    trees. -/
theorem readRoot_eq_and_readNode_of_wellNested :
    (∀ scan, Node.ofScan .scpd scan = (Reader.ofScan scan).readRoot .scpd) ∧
    (∀ scan, Node.ofScan .root scan = (Reader.ofScan scan).readRoot .root) ∧
    ∀ (kind : NodeKind) (e : Element) (r : Reader) (before : List Token),
      kind.isNamed e.name = true → WellNested (before ++ .start e :: r.left) →
      ∃ siblings rest, r.left = Tree.forestTokens siblings ++ .close e.name :: rest ∧
        readNode kind e false r =
          .ok (if kind.IsAstray r.path then .ofElement kind e
            else siblings.foldl Node.readTree (.ofElement kind e), { r with left := rest }) := by
  refine ⟨Node.ofScan_eq_readRoot (by decide), Node.ofScan_eq_readRoot (by decide),
    fun kind e r before hname hnested => ?_⟩
  rw [WellNested, openNames?_append] at hnested
  obtain ⟨opened, -, hleft⟩ := Option.bind_eq_some_iff.mp hnested
  rw [openNames?_start] at hleft
  rcases forestPrefix_or_close r.left hleft with hpart | ⟨siblings, name, outer, rest, hopened, h⟩
  · -- the element would still be open at the end
    obtain ⟨inside, hinside, -⟩ := hpart.openNames?
    simp [hinside] at hleft
  · obtain ⟨rfl, rfl⟩ := List.cons.inj hopened
    obtain ⟨left, ending, path⟩ := r
    obtain ⟨rfl, -⟩ := h
    refine ⟨siblings, rest, rfl, ?_⟩
    rw [← Node.readForest_eq_foldl]
    split
    case isTrue hplace =>
      exact readNode_of_inside hname
        (readInside_forestTokens_of_isAstray rfl (Node.kind_ofElement kind e) hplace siblings) rest
    case isFalse hplace =>
      exact readNode_of_inside hname
        (readInside_forestTokens rfl (Node.kind_ofElement kind e) hplace siblings) rest

/-- The tag of a list of actions. -/
def actionListTag : Element :=
  ⟨"actionList", []⟩

/-- A reader behind the tag of a list of two actions. The first holds an element that is no part of
    it, which holds such a list and such an action again. -/
def inActionList : Reader :=
  ⟨[.start ⟨"action", []⟩, .start ⟨"vendor", []⟩, .start actionListTag, .start ⟨"action", []⟩,
      .close "action", .close "actionList", .close "vendor", .close "action",
      .empty ⟨"ACTION", []⟩, .close "actionList", .close "scpd"],
    .ok 0, [(.scpd, ⟨"scpd", []⟩)]⟩

theorem readNode_inActionList :
    NodeKind.isNamed .actionList actionListTag.name = true ∧
    WellNested ([Token.start ⟨"scpd", []⟩] ++ .start actionListTag :: inActionList.left) ∧
    ∃ siblings rest,
      inActionList.left = Tree.forestTokens siblings ++ .close actionListTag.name :: rest ∧
      readNode .actionList actionListTag false inActionList =
        .ok (if NodeKind.IsAstray .actionList inActionList.path
          then .ofElement .actionList actionListTag
          else siblings.foldl Node.readTree (.ofElement .actionList actionListTag),
          { inActionList with left := rest }) := by
  have hname : NodeKind.isNamed .actionList actionListTag.name = true := by decide
  have hnested : WellNested ([Token.start ⟨"scpd", []⟩] ++
      .start actionListTag :: inActionList.left) := by decide
  refine ⟨hname, hnested, ?_⟩
  exact readRoot_eq_and_readNode_of_wellNested.2.2 _ _ _ _ hname hnested

end Reader

end ControlPoint.Description
