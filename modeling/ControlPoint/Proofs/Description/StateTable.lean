import Mathlib
import ControlPoint.Proofs.Description.Acceptance
import ControlPoint.Proofs.Description.KeyedMap

namespace ControlPoint.Description

open Markup Text

/-! ### What reading keeps -/

/-- The property holds of a node of which only the tag has been read, and what a node takes leaves
    it in force. -/
structure Node.IsKept (P : Node → Prop) : Prop where
  ofElement : ∀ kind e, P (.ofElement kind e)
  withText : ∀ node name text, trim text = text → P node → P (node.withText name text)
  withMark : ∀ node name, P node → P (node.withMark name)
  adopt : ∀ parent child, P parent → P child → P (parent.adopt child)

namespace Progress

/-- The property holds of all nodes that are being read. -/
def All (P : Node → Prop) : Progress → Prop
  | before => True
  | within top outer => P top.node ∧ ∀ f ∈ outer, P f.node
  | complete node => P node

variable {P : Node → Prop} {top : Frame} {outer : List Frame}

theorem all_close (hkept : Node.IsKept P) (htop : P top.node) (houter : ∀ f ∈ outer, P f.node) :
    (close top outer).All P := by
  cases outer with
  | nil => exact htop
  | cons parent outer =>
    rw [List.forall_mem_cons] at houter
    exact ⟨hkept.adopt _ _ houter.1 htop, houter.2⟩

theorem all_enter (hkept : Node.IsKept P) (houter : ∀ f ∈ outer, P f.node) (kind : NodeKind)
    (token : Token) : (enter kind token outer).All P := by
  cases token with
  | start e => exact ⟨hkept.ofElement kind e, houter⟩
  | empty e => exact all_close hkept (hkept.ofElement kind e) houter
  | close name => trivial
  | text s => trivial

theorem holds_pass (hkept : Node.IsKept P) (htop : P top.node) {token : Token}
    (htoken : token.IsTrimmed) : P (top.pass token).node := by
  have htag (name : String) : P (top.nodeAfterTag name) := by
    unfold Frame.nodeAfterTag
    split
    · exact hkept.withMark _ name htop
    · exact htop
  cases token with
  | start e => exact htag e.name
  | empty e => exact htag e.name
  | close name => exact htop
  | text s =>
    change P ((top.takeText? s).getD top.node)
    unfold Frame.takeText?
    split
    case h_1 field _ => exact hkept.withText _ field s htoken htop
    case h_2 => exact htop

theorem All.step {p : Progress} (hkept : Node.IsKept P) (hp : p.All P) (rootKind : NodeKind)
    {token : Token} (htoken : token.IsTrimmed) : (p.step rootKind token).All P := by
  cases p with
  | before =>
    rw [Progress.step]
    split
    · exact all_enter hkept (by simp) rootKind token
    · trivial
  | within top outer =>
    obtain ⟨htop, houter⟩ := hp
    rw [Progress.step]
    split
    · exact all_close hkept htop houter
    · split
      case h_1 kind _ => exact all_enter hkept (List.forall_mem_cons.mpr ⟨htop, houter⟩) kind token
      case h_2 => exact ⟨holds_pass hkept htop htoken, houter⟩
  | complete node => exact hp

theorem All.run {p : Progress} (hkept : Node.IsKept P) (hp : p.All P) (rootKind : NodeKind)
    {tokens : List Token} (htokens : ∀ token ∈ tokens, token.IsTrimmed) :
    (run rootKind p tokens).All P := by
  induction tokens generalizing p with
  | nil => exact hp
  | cons token rest ih =>
    rw [List.forall_mem_cons] at htokens
    exact ih (hp.step hkept rootKind htokens.1) htokens.2

theorem holds_closeAll (hkept : Node.IsKept P) (htop : P top.node)
    (houter : ∀ f ∈ outer, P f.node) : P (closeAll top outer) := by
  induction outer generalizing top with
  | nil => exact htop
  | cons parent outer ih =>
    rw [List.forall_mem_cons] at houter
    exact ih (hkept.adopt _ _ houter.1 htop) houter.2

theorem All.of_finish? {p : Progress} {node : Node} (hkept : Node.IsKept P) (hp : p.All P)
    (hfinish : p.finish? = some node) : P node := by
  cases p with
  | before => cases hfinish
  | within top outer =>
    obtain rfl := Option.some.inj hfinish
    exact holds_closeAll hkept hp.1 hp.2
  | complete root =>
    obtain rfl := Option.some.inj hfinish
    exact hp

end Progress

/-- What reading keeps holds of the node that a document is read as. -/
theorem Node.IsKept.of_ofScan {P : Node → Prop} (hkept : IsKept P) {rootKind : NodeKind}
    {document : String} {node : Node}
    (hnode : Node.ofScan rootKind (.ofDocument document) = .ok node) : P node := by
  have hall := Progress.All.run hkept (p := .before) trivial rootKind (isTrimmed_ofDocument document)
  exact hall.of_finish? hkept (finish?_of_ofScan hnode)

/-! ### The table of state variables -/

/-- No name in the table has white space around it, and no two variables in it have one name unless
    they have none. -/
structure KeyedMap.IsStateTable (table : KeyedMap StateVariable) : Prop where
  keyed : table.Keyed
  named : ∀ v ∈ table.values, trim v.name = v.name

namespace KeyedMap

theorem isStateTable_empty : (empty : KeyedMap StateVariable).IsStateTable where
  keyed := keyed_empty
  named := by simp [values, empty]

variable {table : KeyedMap StateVariable}

theorem IsStateTable.insertAll (htable : table.IsStateTable) {items : List StateVariable}
    (hitems : ∀ v ∈ items, trim v.name = v.name) : (table.insertAll items).IsStateTable where
  keyed := htable.keyed.insertAll items
  named := by
    intro v hv
    rcases mem_values_insertAll hv with hitem | hold
    · exact hitems v hitem
    · exact htable.named v hold

theorem IsStateTable.insert (htable : table.IsStateTable) {v : StateVariable}
    (hv : trim v.name = v.name) : (table.insert v).IsStateTable :=
  htable.insertAll (List.forall_mem_singleton.mpr hv)

theorem IsStateTable.names_nodup (htable : table.IsStateTable) :
    ((table.values.map StateVariable.name).filter (· != "")).Nodup := by
  have hnames : table.values.map StateVariable.name =
      table.values.map fun v => trim (Described.identity v) :=
    List.map_congr_left fun v hv => (htable.named v hv).symm
  rw [hnames]
  exact htable.keyed.identities_nodup

end KeyedMap

namespace Node

/-- What the node knows of state variables can stand in a table of them. -/
def HasStateTable : Node → Prop
  | scpd s => s.stateVariables.IsStateTable
  | serviceStateTable table => table.IsStateTable
  | stateVariable v => trim v.name = v.name
  | _ => True

theorem hasStateTable_of_kind {node : Node}
    (hkind : node.kind ∉ [NodeKind.scpd, NodeKind.serviceStateTable, NodeKind.stateVariable]) :
    node.HasStateTable := by
  cases node
  case scpd | serviceStateTable | stateVariable => simp [kind] at hkind
  all_goals trivial

theorem hasStateTable_ofElement (kind : NodeKind) (e : Element) :
    (ofElement kind e).HasStateTable := by
  cases kind
  case scpd | serviceStateTable => exact KeyedMap.isStateTable_empty
  case stateVariable =>
    change trim "" = ""
    decide
  all_goals trivial

theorem HasStateTable.withText {node : Node} (hnode : node.HasStateTable) {text : String}
    (htext : trim text = text) (name : String) : (node.withText name text).HasStateTable := by
  cases node
  case scpd | serviceStateTable => exact hnode
  case stateVariable v =>
    unfold Node.withText takeText?
    dsimp only
    split
    · exact htext
    all_goals exact hnode
  all_goals
    apply hasStateTable_of_kind
    rw [kind_withText]
    simp [kind]

theorem HasStateTable.withMark {node : Node} (hnode : node.HasStateTable) (name : String) :
    (node.withMark name).HasStateTable := by
  cases node
  case argument a =>
    apply hasStateTable_of_kind
    rw [kind_withMark]
    simp [kind]
  all_goals exact hnode

theorem HasStateTable.adopt {parent child : Node} (hparent : parent.HasStateTable)
    (hchild : child.HasStateTable) : (parent.adopt child).HasStateTable := by
  cases parent
  case scpd s =>
    cases child
    case serviceStateTable table => exact KeyedMap.IsStateTable.insertAll hparent hchild.named
    all_goals exact hparent
  case serviceStateTable table =>
    cases child
    case stateVariable v => exact KeyedMap.IsStateTable.insert hparent hchild
    all_goals exact hparent
  case stateVariable v =>
    cases child
    all_goals exact hparent
  all_goals
    apply hasStateTable_of_kind
    rw [kind_adopt]
    simp [kind]

theorem isKept_hasStateTable : IsKept HasStateTable where
  ofElement := hasStateTable_ofElement
  withText _ name _ htext hnode := hnode.withText htext name
  withMark _ name hnode := hnode.withMark name
  adopt _ _ hparent hchild := hparent.adopt hchild

end Node

theorem ServiceDescription.isStateTable_of_parse {document : String} {s : ServiceDescription}
    (hs : ServiceDescription.parse document = .ok s) : s.stateVariables.IsStateTable := by
  obtain ⟨read, hread, rfl⟩ := ofScan_eq_ok_iff.mp hs
  exact Node.isKept_hasStateTable.of_ofScan hread

/-- The variables whose changes are announced. -/
def ServiceDescription.evented (s : ServiceDescription) : List StateVariable :=
  s.stateVariables.values.filter StateVariable.sendsEvents

theorem ServiceDescription.evented_names_nodup {document : String} {s : ServiceDescription}
    (hs : ServiceDescription.parse document = .ok s) :
    ((s.evented.map StateVariable.name).filter fun name => name != "").Nodup := by
  have hnames := (isStateTable_of_parse hs).names_nodup
  exact hnames.sublist ((List.filter_sublist.map _).filter _)

end ControlPoint.Description
