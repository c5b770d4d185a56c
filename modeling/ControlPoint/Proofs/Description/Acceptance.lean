import Mathlib
import ControlPoint.Proofs.Description.Reading
import ControlPoint.Proofs.Markup.Scan

namespace ControlPoint.Description

open Markup

/-- The document was scanned to its end without a fault, and every element is closed there that it
    opens. -/
structure Scan.IsWellFormed (scan : Scan) : Prop where
  ending : ∃ stop, scan.ending = .ok stop
  nested : WellNested (scan.tokens.map Prod.fst)

/-- Some token opens an element of the kind. -/
def NodeKind.OccursIn (kind : NodeKind) (tokens : List Token) : Prop :=
  ∃ token ∈ tokens, kind.opensAt token = true

/-- The first element of the kind is among the tokens with all that stands inside it and its end. -/
def NodeKind.IsWholeIn (kind : NodeKind) (tokens : List Token) : Prop :=
  ∃ before root e rest, tokens = before ++ (Tree.tokens root ++ rest) ∧ kind.AbsentFrom before ∧
    root.top? = some e ∧ kind.isNamed e.name = true

theorem NodeKind.IsWholeIn.occursIn {kind : NodeKind} {tokens : List Token}
    (hwhole : kind.IsWholeIn tokens) : kind.OccursIn tokens := by
  obtain ⟨before, root, e, rest, rfl, -, htop, hname⟩ := hwhole
  cases root with
  | text s => cases htop
  | empty e' =>
    obtain rfl := Option.some.inj htop
    exact ⟨.empty e', by simp [Tree.tokens], hname⟩
  | element e' inside =>
    obtain rfl := Option.some.inj htop
    exact ⟨.start e', by simp [Tree.tokens], hname⟩

namespace Progress

variable {rootKind : NodeKind} {f : Frame} {outer : List Frame}

/-- Tokens of trees leave the frames as they are but for the innermost node. -/
theorem run_forestTokens_within (outer : List Frame)
    (hkind : f.inner = [] → f.node.kind = f.kind) (ts : List Tree) :
    ∃ f' : Frame, run rootKind (within f outer) (Tree.forestTokens ts) = within f' outer ∧
      f'.inner = f.inner := by
  match hinner : f.inner with
  | [] => exact ⟨_, run_forestTokens hinner (hkind hinner) ts, hinner⟩
  | [name] => exact ⟨_, run_of_passes (Frame.passes_field hinner ts), hinner⟩
  | name :: name' :: names =>
    exact ⟨f, run_of_passes (Frame.passes_deep (by simp [hinner]) ts), hinner⟩

/-- Tokens that close nothing but what they open themselves close none of the frames. -/
theorem run_forestPrefix {tokens : List Token} (hpart : ForestPrefix tokens)
    (hkind : f.inner = [] → f.node.kind = f.kind) :
    ∃ top outer', run rootKind (within f outer) tokens = within top outer' := by
  induction hpart generalizing f outer with
  | whole ts =>
    obtain ⟨f', hrun, -⟩ := run_forestTokens_within outer hkind ts
    exact ⟨f', outer, hrun⟩
  | cut ts e _ ih =>
    obtain ⟨f', hrun, -⟩ := run_forestTokens_within outer hkind ts
    rw [run_append, hrun, run_cons]
    by_cases hinner : f'.inner = []
    · rw [step_start hinner]
      cases f'.kind.childNamed? e.name with
      | none => exact ih (by simp)
      | some kind => exact ih fun _ => Node.kind_ofElement kind e
    · rw [step_of_inner hinner]
      exact ih (by simp [Frame.pass])

/-- Where nothing is closed but what is open, the reading comes to one of three ends: the root's
    element is absent, it is still open, or it is there as a whole. -/
theorem run_cases (rootKind : NodeKind) {tokens : List Token}
    (hopen : ∃ final, openNames? [] tokens = some final) :
    rootKind.AbsentFrom tokens ∧ run rootKind before tokens = before ∨
      rootKind.OccursIn tokens ∧ (∃ top outer, run rootKind before tokens = within top outer) ∨
      rootKind.IsWholeIn tokens ∧ ∃ node, run rootKind before tokens = complete node := by
  -- what happens is decided by what follows the first token that opens the root's element
  cases hfind : tokens.find? rootKind.opensAt with
  | none =>
    have habsent : rootKind.AbsentFrom tokens := by simpa [NodeKind.AbsentFrom] using hfind
    exact .inl ⟨habsent, run_before habsent⟩
  | some token =>
    obtain ⟨hopens, first, rest, htokens, hfirst⟩ := List.find?_eq_some_iff_append.mp hfind
    have habsent : rootKind.AbsentFrom first := by simpa [NodeKind.AbsentFrom] using hfirst
    subst htokens
    cases token with
    | text s => cases hopens
    | close name => cases hopens
    | empty e =>
      refine .inr (.inr ⟨⟨first, .empty e, e, rest, rfl, habsent, rfl, hopens⟩, ?_⟩)
      exact ⟨_, run_root_empty habsent hopens rest⟩
    | start e =>
      obtain ⟨final, hfinal⟩ := hopen
      rw [openNames?_append] at hfinal
      obtain ⟨opened, -, hrest⟩ := Option.bind_eq_some_iff.mp hfinal
      rcases forestPrefix_or_close rest hrest with hpart | ⟨ts, name, outer, after, hname, h⟩
      · refine .inr (.inl ⟨⟨_, List.mem_append_right _ (List.mem_cons_self ..), hopens⟩, ?_⟩)
        rw [run_append, run_before habsent, run_cons, step_before hopens]
        exact run_forestPrefix hpart fun _ => Node.kind_ofElement rootKind e
      · obtain ⟨rfl, -⟩ := List.cons.inj hname
        have hwhole : first ++ .start e :: rest =
            first ++ ((Tree.element e ts).tokens ++ after) := by
          rw [h.1, Tree.tokens]
          simp
        refine .inr (.inr ⟨⟨first, .element e ts, e, after, hwhole, habsent, rfl, hopens⟩, ?_⟩)
        rw [hwhole]
        exact ⟨_, run_root_element habsent hopens ts after⟩

/-- A root element that is there as a whole is read to its end. -/
theorem run_of_isWholeIn {tokens : List Token} (hwhole : rootKind.IsWholeIn tokens) :
    ∃ node, run rootKind before tokens = complete node := by
  obtain ⟨first, root, e, rest, rfl, habsent, htop, hname⟩ := hwhole
  exact ⟨_, run_of_isRoot ⟨first, e, rest, rfl, habsent, htop, hname⟩ htop⟩

end Progress

/-- A node is read of a scan just if the root's element occurs and, should the scan have ended at a
    fault, is there as a whole. -/
theorem Node.ofScan_isOk_iff (rootKind : NodeKind) {scan : Scan}
    (hopen : ∃ final, openNames? [] (scan.tokens.map Prod.fst) = some final) :
    (∃ node, Node.ofScan rootKind scan = .ok node) ↔
      rootKind.OccursIn (scan.tokens.map Prod.fst) ∧
        ((∃ stop, scan.ending = .ok stop) ∨ rootKind.IsWholeIn (scan.tokens.map Prod.fst)) := by
  rw [Node.ofScan]
  rcases Progress.run_cases rootKind hopen with ⟨habsent, hrun⟩ | ⟨hoccurs, top, outer, hrun⟩ |
    ⟨hwhole, node, hrun⟩
  case inl =>
    have hnot : ¬ rootKind.OccursIn (scan.tokens.map Prod.fst) := by
      rintro ⟨token, htoken, hopens⟩
      exact absurd (habsent token htoken) (by simp [hopens])
    rw [hrun]
    cases scan.ending <;> simp [Progress.isComplete, Progress.finish?, hnot]
  case inr.inl =>
    have hnot : ¬ rootKind.IsWholeIn (scan.tokens.map Prod.fst) := by
      intro hwhole
      obtain ⟨node, hcomplete⟩ := Progress.run_of_isWholeIn hwhole
      rw [hrun] at hcomplete
      cases hcomplete
    rw [hrun]
    cases scan.ending <;> simp [Progress.isComplete, Progress.finish?, hnot, hoccurs]
  case inr.inr =>
    rw [hrun]
    cases scan.ending <;>
      simp [Progress.isComplete, Progress.finish?, hwhole, hwhole.occursIn]

/-! ### The kind of the root's node -/

namespace Progress

theorem kind_closeAll {top top' : Frame} (htop : top.node.kind = top'.node.kind)
    (outer : List Frame) : (closeAll top outer).kind = (closeAll top' outer).kind := by
  induction outer generalizing top top' with
  | nil => exact htop
  | cons parent outer ih => exact ih (by simp [Frame.adopt])

/-- The node of the root has its kind, as far as it has been read. -/
def HasKind (kind : NodeKind) : Progress → Prop
  | before => True
  | within top outer => (closeAll top outer).kind = kind
  | complete node => node.kind = kind

variable {rootKind : NodeKind}

theorem hasKind_close {top : Frame} {outer : List Frame}
    (hkind : (closeAll top outer).kind = rootKind) : (close top outer).HasKind rootKind := by
  cases outer <;> exact hkind

theorem hasKind_enter {kind : NodeKind} {token : Token} {outer : List Frame}
    (hkind : ∀ e, (closeAll (.ofElement kind e) outer).kind = rootKind) :
    (enter kind token outer).HasKind rootKind := by
  cases token with
  | start e => exact hkind e
  | empty e => exact hasKind_close (hkind e)
  | close name => trivial
  | text s => trivial

theorem kind_pass (f : Frame) (token : Token) : (f.pass token).node.kind = f.node.kind := by
  have htag (name : String) : (f.nodeAfterTag name).kind = f.node.kind := by
    unfold Frame.nodeAfterTag
    split
    · exact Node.kind_withMark f.node name
    · rfl
  cases token with
  | start e => exact htag e.name
  | empty e => exact htag e.name
  | close name => rfl
  | text s =>
    change ((f.takeText? s).getD f.node).kind = f.node.kind
    unfold Frame.takeText?
    split
    · exact Node.kind_withText f.node _ s
    · rfl

theorem HasKind.step {p : Progress} (hkind : p.HasKind rootKind) (token : Token) :
    (p.step rootKind token).HasKind rootKind := by
  cases p with
  | before =>
    rw [Progress.step]
    split
    · exact hasKind_enter fun e => Node.kind_ofElement rootKind e
    · trivial
  | within top outer =>
    rw [Progress.step]
    split
    · exact hasKind_close hkind
    · split
      · refine hasKind_enter fun e => ?_
        rw [closeAll, ← hkind]
        exact kind_closeAll (by simp [Frame.adopt]) outer
      · rw [HasKind, ← hkind]
        exact kind_closeAll (kind_pass top token) outer
  | complete node => exact hkind

theorem hasKind_run (rootKind : NodeKind) (tokens : List Token) :
    (run rootKind before tokens).HasKind rootKind := by
  have hrun (p : Progress) (hkind : p.HasKind rootKind) :
      (run rootKind p tokens).HasKind rootKind := by
    induction tokens generalizing p with
    | nil => exact hkind
    | cons token rest ih => exact ih _ (hkind.step token)
  exact hrun before trivial

theorem HasKind.of_finish? {p : Progress} {node : Node} (hkind : p.HasKind rootKind)
    (hfinish : p.finish? = some node) : node.kind = rootKind := by
  cases p with
  | before => cases hfinish
  | within top outer =>
    obtain rfl := Option.some.inj hfinish
    exact hkind
  | complete root =>
    obtain rfl := Option.some.inj hfinish
    exact hkind

end Progress

theorem Node.kind_of_ofScan {rootKind : NodeKind} {scan : Scan} {node : Node}
    (hnode : Node.ofScan rootKind scan = .ok node) : node.kind = rootKind := by
  have hkind := Progress.hasKind_run rootKind (scan.tokens.map Prod.fst)
  exact hkind.of_finish? (finish?_of_ofScan hnode)

/-! ### Documents -/

theorem ServiceDescription.ofScan_eq_ok_iff {scan : Scan} {s : ServiceDescription} :
    ServiceDescription.ofScan scan = .ok s ↔
      ∃ read, Node.ofScan .scpd scan = .ok (.scpd read) ∧ read.resolveReferences = s := by
  rw [ServiceDescription.ofScan]
  cases hnode : Node.ofScan .scpd scan with
  | error e =>
    constructor
    · intro hs
      cases hs
    · rintro ⟨read, hread, -⟩
      cases hread
  | ok node =>
    have hkind := Node.kind_of_ofScan hnode
    cases node with
    | scpd read =>
      constructor
      · intro hs
        exact ⟨read, rfl, Except.ok.inj hs⟩
      · rintro ⟨read', hread, rfl⟩
        cases hread
        rfl
    | _ => cases hkind

theorem DeviceDescription.ofScan_eq_ok_iff {scan : Scan} {d : DeviceDescription} :
    DeviceDescription.ofScan scan = .ok d ↔ Node.ofScan .root scan = .ok (.root d) := by
  rw [DeviceDescription.ofScan]
  cases hnode : Node.ofScan .root scan with
  | error e =>
    constructor <;> intro h <;> cases h
  | ok node =>
    have hkind := Node.kind_of_ofScan hnode
    cases node with
    | root read =>
      constructor
      · intro hd
        cases hd
        rfl
      · intro hd
        cases hd
        rfl
    | _ => cases hkind

theorem ServiceDescription.ofScan_isOk_iff (scan : Scan) :
    (∃ s, ServiceDescription.ofScan scan = .ok s) ↔ ∃ node, Node.ofScan .scpd scan = .ok node := by
  constructor
  · rintro ⟨s, hs⟩
    obtain ⟨read, hread, -⟩ := ofScan_eq_ok_iff.mp hs
    exact ⟨_, hread⟩
  · rintro ⟨node, hnode⟩
    have hkind := Node.kind_of_ofScan hnode
    cases node with
    | scpd read => exact ⟨_, ofScan_eq_ok_iff.mpr ⟨read, hnode, rfl⟩⟩
    | _ => cases hkind

theorem DeviceDescription.ofScan_isOk_iff (scan : Scan) :
    (∃ d, DeviceDescription.ofScan scan = .ok d) ↔ ∃ node, Node.ofScan .root scan = .ok node := by
  constructor
  · rintro ⟨d, hd⟩
    exact ⟨_, ofScan_eq_ok_iff.mp hd⟩
  · rintro ⟨node, hnode⟩
    have hkind := Node.kind_of_ofScan hnode
    cases node with
    | root read => exact ⟨read, ofScan_eq_ok_iff.mpr hnode⟩
    | _ => cases hkind

/-- A document is taken for a description just if its root element occurs in it and, should there be
    a fault in the document, is closed before the fault. So neither a document that ends inside its
    root element nor one with a fault behind it is turned down. -/
theorem parse_isOk_iff (document : String) :
    let scan := Scan.ofDocument document
    let tokens := scan.tokens.map Prod.fst
    ((∃ s, ServiceDescription.parse document = .ok s) ↔
        NodeKind.scpd.OccursIn tokens ∧
          ((∃ stop, scan.ending = .ok stop) ∨ NodeKind.scpd.IsWholeIn tokens)) ∧
      ((∃ d, DeviceDescription.parse document = .ok d) ↔
        NodeKind.root.OccursIn tokens ∧
          ((∃ stop, scan.ending = .ok stop) ∨ NodeKind.root.IsWholeIn tokens)) := by
  have hopen := openNames?_ofDocument document
  exact ⟨(ServiceDescription.ofScan_isOk_iff _).trans (Node.ofScan_isOk_iff .scpd hopen),
    (DeviceDescription.ofScan_isOk_iff _).trans (Node.ofScan_isOk_iff .root hopen)⟩

/-- A document that breaks off between two actions is taken for the description of a service that has
    the first of them only. -/
theorem parse_of_cut_document :
    let whole := "<scpd><actionList><action><name>Play</name></action>" ++
      "<action><name>Stop</name></action></actionList></scpd>"
    let cut := "<scpd><actionList><action><name>Play</name></action>"
    cut.toList <+: whole.toList ∧ Scan.IsWellFormed (Scan.ofDocument whole) ∧
      ¬ Scan.IsWellFormed (Scan.ofDocument cut) ∧
      (ServiceDescription.parse whole).map (fun s => s.actions.keys) = .ok ["Play", "Stop"] ∧
      (ServiceDescription.parse cut).map (fun s => s.actions.keys) = .ok ["Play"] := by
  refine ⟨by decide, ⟨⟨106, by decide +kernel⟩, by decide +kernel⟩, ?_, by decide +kernel,
    by decide +kernel⟩
  intro hcut
  exact absurd hcut.nested (by decide +kernel)

end ControlPoint.Description
