import Mathlib
import ControlPoint.Proofs.Description.Edits
import ControlPoint.Proofs.Description.Ranks
import ControlPoint.Proofs.Description.StateTable

/-!
The variables that arguments refer to. A reference is looked up among the keys of the state table,
which are names but for those given to variables without one; and the table is that of all elements
that declare variables, wherever they stand between the lists of actions.
-/

namespace ControlPoint.Description

open Markup Text

/-! ### Child nodes -/

/-- The kind of child node that a tree stands for inside an element of a kind. -/
def NodeKind.childAt? (kind : NodeKind) (t : Tree) : Option NodeKind :=
  t.top?.bind fun e => kind.childNamed? e.name

namespace Node

/-- The child node that a tree is read as inside an element of a kind. -/
def ofTree? (kind : NodeKind) (t : Tree) : Option Node :=
  t.top?.bind fun e => (kind.childNamed? e.name).map fun child =>
    (ofElement child e).readForest t.inside

theorem kind_ofTree? (kind : NodeKind) (t : Tree) :
    (ofTree? kind t).map Node.kind = kind.childAt? t := by
  rw [ofTree?, NodeKind.childAt?]
  cases t.top? with
  | none => rfl
  | some e => simp [Function.comp_def, kind_ofElement]

theorem readTree_of_ofTree? {node child : Node} {kind : NodeKind} {t : Tree}
    (hchild : ofTree? kind t = some child) (hkind : node.kind = kind) :
    node.readTree t = node.adopt child := by
  subst hkind
  obtain ⟨e, htop, hnode⟩ := Option.bind_eq_some_iff.mp hchild
  obtain ⟨kind, hkind, rfl⟩ := Option.map_eq_some_iff.mp hnode
  cases t with
  | text s => cases htop
  | empty e' =>
    obtain rfl := Option.some.inj htop
    rw [readTree, hkind]
    rfl
  | element e' inside =>
    obtain rfl := Option.some.inj htop
    rw [readTree, hkind]
    rfl

/-- A node that takes neither texts nor marks takes only what its child nodes are. -/
theorem readTree_of_ofTree?_eq_none {node : Node} {kind : NodeKind} {t : Tree}
    (hchild : ofTree? kind t = none) (hkind : node.kind = kind) (hfields : kind.fieldNames = [])
    (hmarks : kind.markNames = []) : node.readTree t = node := by
  subst hkind
  cases htop : t.top? with
  | none =>
    cases t with
    | text s => rfl
    | empty e => cases htop
    | element e inside => cases htop
  | some e =>
    have hnamed : node.kind.childNamed? e.name = none := by simpa [ofTree?, htop] using hchild
    have hothers : ∀ child ∈ node.kind.childKinds,
        sameIgnoringCase e.name child.elementName = false := by
      simpa [NodeKind.childNamed?, NodeKind.isNamed] using hnamed
    exact readTree_of_ignores htop ⟨hothers, by simp [hfields], by simp [hmarks]⟩

/-- The state variable that a node is. -/
def stateVariable? : Node → Option StateVariable
  | stateVariable v => some v
  | _ => none

end Node

/-- The state variables that an element declares, in order. -/
def variablesOf (table : Tree) : List StateVariable :=
  table.inside.filterMap fun t => (Node.ofTree? .serviceStateTable t).bind Node.stateVariable?

theorem readForest_serviceStateTable (m : KeyedMap StateVariable) (ts : List Tree) :
    (Node.serviceStateTable m).readForest ts = .serviceStateTable (m.insertAll
      (ts.filterMap fun t => (Node.ofTree? .serviceStateTable t).bind Node.stateVariable?)) := by
  induction ts generalizing m with
  | nil => rfl
  | cons t rest ih =>
    rw [Node.readForest_cons, List.filterMap_cons]
    cases hchild : Node.ofTree? .serviceStateTable t with
    | none =>
      rw [Node.readTree_of_ofTree?_eq_none hchild rfl rfl rfl]
      exact ih m
    | some child =>
      rw [Node.readTree_of_ofTree? hchild rfl]
      cases child with
      | stateVariable v => exact ih (m.insert v)
      | _ => exact ih m

/-- Whether a tree inside the root element of a service declares state variables. -/
def isStateTable (t : Tree) : Bool :=
  NodeKind.scpd.childAt? t == some .serviceStateTable

/-- The elements in a root element that declare state variables, in order. -/
def stateTables (root : Tree) : List Tree :=
  root.inside.filter isStateTable

/-- What stands in a root element but declares no state variables, in order. -/
def otherParts (root : Tree) : List Tree :=
  root.inside.filter fun t => !isStateTable t

/-- The state variables that are declared in a root element, for each table in order. -/
def declaredTables (root : Tree) : List (List StateVariable) :=
  (stateTables root).map variablesOf

theorem ofTree?_of_isStateTable {t : Tree} (ht : isStateTable t = true) :
    Node.ofTree? .scpd t = some (.serviceStateTable (KeyedMap.empty.insertAll (variablesOf t))) := by
  rw [isStateTable, beq_iff_eq] at ht
  obtain ⟨e, htop, hnamed⟩ := Option.bind_eq_some_iff.mp ht
  rw [Node.ofTree?, htop, Option.bind_some, hnamed, Option.map_some]
  exact congrArg some (readForest_serviceStateTable KeyedMap.empty t.inside)

theorem readTree_of_isStateTable (s : ServiceDescription) {t : Tree} (ht : isStateTable t = true) :
    (Node.scpd s).readTree t =
      .scpd { s with stateVariables :=
        s.stateVariables.insertAll (KeyedMap.empty.insertAll (variablesOf t)).values } :=
  Node.readTree_of_ofTree? (ofTree?_of_isStateTable ht) rfl

/-- What declares no state variables leaves these alone, and what it does is the same whatever they
    are. -/
theorem readTree_of_not_isStateTable (s : ServiceDescription) {t : Tree}
    (ht : isStateTable t = false) :
    ∃ s' : ServiceDescription, ∀ m, (Node.scpd { s with stateVariables := m }).readTree t =
      .scpd { s' with stateVariables := m } := by
  have hkind := Node.kind_ofTree? .scpd t
  cases hchild : Node.ofTree? .scpd t with
  | none => exact ⟨s, fun m => Node.readTree_of_ofTree?_eq_none hchild rfl rfl rfl⟩
  | some child =>
    have hread (m : KeyedMap StateVariable) :
        (Node.scpd { s with stateVariables := m }).readTree t =
          (Node.scpd { s with stateVariables := m }).adopt child :=
      Node.readTree_of_ofTree? hchild rfl
    cases child with
    | specVersion v => exact ⟨{ s with specVersion := v }, hread⟩
    | actionList actions =>
      exact ⟨{ s with actions := s.actions.insertAll actions.values }, hread⟩
    | serviceStateTable table =>
      rw [hchild] at hkind
      rw [isStateTable, ← hkind] at ht
      cases ht
    | _ => exact ⟨s, hread⟩

/-- An element that declares state variables may as well be read after others that declare none. -/
theorem readForest_readTree_comm (s : ServiceDescription) {t : Tree} (ht : isStateTable t = true)
    {others : List Tree} (hothers : ∀ other ∈ others, isStateTable other = false) :
    ((Node.scpd s).readTree t).readForest others = ((Node.scpd s).readForest others).readTree t := by
  induction others generalizing s with
  | nil => rfl
  | cons other rest ih =>
    rw [List.forall_mem_cons] at hothers
    obtain ⟨s', hother⟩ := readTree_of_not_isStateTable s hothers.1
    have hafter := ih { s' with stateVariables := s.stateVariables } hothers.2
    rw [readTree_of_isStateTable _ ht] at hafter
    rw [readTree_of_isStateTable s ht, Node.readForest_cons, Node.readForest_cons, hother,
      hother s.stateVariables]
    exact hafter

/-- The elements that declare state variables may all stand behind the others. -/
theorem readForest_filter (s : ServiceDescription) (ts : List Tree) :
    (Node.scpd s).readForest ts =
      ((Node.scpd s).readForest (ts.filter fun t => !isStateTable t)).readForest
        (ts.filter isStateTable) := by
  induction ts generalizing s with
  | nil => rfl
  | cons t rest ih =>
    cases ht : isStateTable t with
    | true =>
      have hothers : ∀ other ∈ rest.filter fun t => !isStateTable t, isStateTable other = false := by
        simp
      have hmoved := readForest_readTree_comm s ht hothers
      rw [readTree_of_isStateTable s ht] at hmoved
      rw [Node.readForest_cons, readTree_of_isStateTable s ht, ih, hmoved,
        List.filter_cons_of_neg (by simp [ht]), List.filter_cons_of_pos ht, Node.readForest_cons]
    | false =>
      obtain ⟨s', hread⟩ := readTree_of_not_isStateTable s ht
      rw [List.filter_cons_of_pos (by simp [ht]), List.filter_cons_of_neg (by simp [ht]),
        Node.readForest_cons, Node.readForest_cons, hread s.stateVariables]
      exact ih _

theorem exists_readForest_scpd (s : ServiceDescription) (ts : List Tree) :
    ∃ read, (Node.scpd s).readForest ts = .scpd read ∧
      read.stateVariables = s.stateVariables.insertAll
        (KeyedMap.filedParts ((ts.filter isStateTable).map variablesOf)) := by
  induction ts generalizing s with
  | nil => exact ⟨s, rfl, rfl⟩
  | cons t rest ih =>
    rw [Node.readForest_cons]
    cases ht : isStateTable t with
    | true =>
      rw [readTree_of_isStateTable s ht, List.filter_cons_of_pos ht, List.map_cons,
        KeyedMap.filedParts, List.flatMap_cons, KeyedMap.insertAll_append]
      exact ih _
    | false =>
      obtain ⟨s', hread⟩ := readTree_of_not_isStateTable s ht
      rw [hread s.stateVariables, List.filter_cons_of_neg (by simp [ht])]
      exact ih _

/-! ### The root element -/

/-- An element of the kind is absent from the tokens, or the first one is there as a whole. -/
def NodeKind.IsUncutIn (kind : NodeKind) (tokens : List Token) : Prop :=
  kind.AbsentFrom tokens ∨ ∃ root, kind.IsRoot root tokens

theorem NodeKind.IsUncutIn.append {kind : NodeKind} {first second : List Token}
    (hfirst : kind.IsUncutIn first) (hsecond : kind.IsUncutIn second) :
    kind.IsUncutIn (first ++ second) := by
  rcases hfirst with habsent | ⟨root, before, e, rest, rfl, hbefore, hroot⟩
  · rcases hsecond with hlater | ⟨root, before, e, rest, rfl, hbefore, hroot⟩
    · exact .inl (List.forall_mem_append.mpr ⟨habsent, hlater⟩)
    · refine .inr ⟨root, first ++ before, e, rest, by simp, ?_, hroot⟩
      exact List.forall_mem_append.mpr ⟨habsent, hbefore⟩
  · exact .inr ⟨root, before, e, rest ++ second, by simp, hbefore, hroot⟩

theorem NodeKind.isUncutIn_singleton {kind : NodeKind} {token : Token}
    (htoken : kind.opensAt token = false) : kind.IsUncutIn [token] :=
  .inl (List.forall_mem_singleton.mpr htoken)

theorem NodeKind.isUncutIn_tokens {kind : NodeKind} {t : Tree} {e : Element}
    (htop : t.top? = some e) (hname : kind.isNamed e.name = true) : kind.IsUncutIn t.tokens :=
  .inr ⟨t, [], e, [], by simp, by simp [AbsentFrom], htop, hname⟩

/-- In trees no element is cut. -/
theorem NodeKind.isUncutIn_forestTokens (kind : NodeKind) (ts : List Tree) :
    kind.IsUncutIn (Tree.forestTokens ts) := by
  induction ts using Tree.forest_induction with
  | nil => exact .inl (by simp [AbsentFrom])
  | text s rest ih => exact (isUncutIn_singleton rfl).append ih
  | empty e rest ih =>
    cases hname : kind.isNamed e.name with
    | true => exact (isUncutIn_tokens (t := .empty e) rfl hname).append ih
    | false =>
      have hempty : kind.IsUncutIn [.empty e] := isUncutIn_singleton hname
      exact hempty.append ih
  | element e inside rest ihInside ih =>
    cases hname : kind.isNamed e.name with
    | true => exact (isUncutIn_tokens (t := .element e inside) rfl hname).append ih
    | false =>
      have hstart : kind.IsUncutIn [.start e] := isUncutIn_singleton hname
      have hclose : kind.IsUncutIn [.close e.name] := isUncutIn_singleton rfl
      exact (hstart.append (ihInside.append hclose)).append ih

theorem NodeKind.exists_isRoot {kind : NodeKind} {tokens : List Token} (hnested : WellNested tokens)
    (hoccurs : kind.OccursIn tokens) : ∃ root, kind.IsRoot root tokens := by
  obtain ⟨ts, rfl⟩ := (wellNested_iff tokens).mp hnested
  rcases kind.isUncutIn_forestTokens ts with habsent | hroot
  · obtain ⟨token, htoken, hopens⟩ := hoccurs
    rw [habsent token htoken] at hopens
    cases hopens
  · exact hroot

/-- What a document is read as, from its root element. -/
theorem ServiceDescription.parse_of_isRoot {document : String} {root : Tree} {e : Element}
    (hroot : NodeKind.scpd.IsRoot root ((Scan.ofDocument document).tokens.map Prod.fst))
    (htop : root.top? = some e) :
    ∃ read, (Node.scpd (.blank e)).readForest root.inside = .scpd read ∧
      read.stateVariables = KeyedMap.empty.insertAll (KeyedMap.filedParts (declaredTables root)) ∧
      ServiceDescription.parse document = .ok read.resolveReferences := by
  obtain ⟨read, hread, hvariables⟩ := exists_readForest_scpd (.blank e) root.inside
  refine ⟨read, hread, hvariables, ofScan_eq_ok_iff.mpr ⟨read, ?_, rfl⟩⟩
  rw [← hread]
  exact Node.ofScan_of_isRoot hroot htop

/-! ### References -/

/-- The argument refers to the variable whose name the text of the reference is, and to none if there
    is no such variable. -/
def Argument.IsResolvedIn (a : Argument) (table : KeyedMap StateVariable) : Prop :=
  ∀ i, a.related = some i ↔
    ∃ v, table.at? i = some v ∧ v.name ≠ "" ∧ v.name = trim a.relatedStateVariable

theorem ServiceDescription.related_of_resolveReferences {s : ServiceDescription} {action : Action}
    (haction : action ∈ s.resolveReferences.actions.values) {a : Argument}
    (ha : a ∈ action.arguments) :
    a.related = s.stateVariables.indexOf? (trim a.relatedStateVariable) := by
  simp only [resolveReferences, KeyedMap.mapValues, KeyedMap.values, List.map_map,
    List.mem_map] at haction
  obtain ⟨entry, -, rfl⟩ := haction
  obtain ⟨declared, -, rfl⟩ := List.mem_map.mp ha
  rfl

/-- A variable with a name stands under it. -/
theorem KeyedMap.IsStateTable.key_eq {table : KeyedMap StateVariable} (htable : table.IsStateTable)
    {key : String} {v : StateVariable} (hentry : (key, v) ∈ table.entries) (hname : v.name ≠ "") :
    key = v.name := by
  have htrimmed : Described.name v = v.name := htable.named v (List.mem_map_of_mem hentry)
  have hnamed : Described.name v ≠ "" := by rwa [htrimmed]
  exact (htable.keyed.identified _ hentry hnamed).trans htrimmed

/-- A reference is looked up by its text just if this is no key of a variable without a name. -/
theorem Argument.isResolvedIn_iff {table : KeyedMap StateVariable} (htable : table.IsStateTable)
    {a : Argument} (ha : a.related = table.indexOf? (trim a.relatedStateVariable)) :
    a.IsResolvedIn table ↔
      ∀ v, table.get? (trim a.relatedStateVariable) = some v → v.name ≠ "" := by
  have hrank (i : Nat) : a.related = some i ↔
      ∃ v, table.entries[i]? = some (trim a.relatedStateVariable, v) := by
    rw [ha, htable.keyed.indexOf?_eq_some_iff]
  constructor
  · intro hresolved v hfound
    obtain ⟨i, hi⟩ := List.mem_iff_getElem?.mp (htable.keyed.get?_eq_some_iff.mp hfound)
    obtain ⟨v', hv', hname, -⟩ := (hresolved i).mp ((hrank i).mpr ⟨v, hi⟩)
    obtain rfl := Option.some.inj ((KeyedMap.at?_eq_some_iff.mpr ⟨_, hi⟩).symm.trans hv')
    exact hname
  · intro hnamed i
    constructor
    · intro hi
      obtain ⟨v, hentry⟩ := (hrank i).mp hi
      have hname : v.name ≠ "" :=
        hnamed v (htable.keyed.get?_eq_some_iff.mpr (List.mem_of_getElem? hentry))
      exact ⟨v, KeyedMap.at?_eq_some_iff.mpr ⟨_, hentry⟩, hname,
        (htable.key_eq (List.mem_of_getElem? hentry) hname).symm⟩
    · rintro ⟨v, hv, hname, hsame⟩
      obtain ⟨key, hentry⟩ := KeyedMap.at?_eq_some_iff.mp hv
      have hkey := (htable.key_eq (List.mem_of_getElem? hentry) hname).trans hsame
      exact (hrank i).mpr ⟨v, hkey ▸ hentry⟩

/-- In a well-formed document: an argument refers to the variable whose name its reference is, and to
    none if there is no such variable, just if the reference is no key of a variable without a name;
    under a name stands the last variable that was declared with it; the variables have the ranks of
    their first declarations just if none without a name is replaced, neither in its own table nor
    among those of all tables; and all this is the same for every document that has the same tables
    in the same order at other places between the same other parts. -/
theorem ServiceDescription.references_of_parse {document : String} {s : ServiceDescription}
    (hformed : Scan.IsWellFormed (Scan.ofDocument document))
    (hs : ServiceDescription.parse document = .ok s) :
    ∃ root, NodeKind.scpd.IsRoot root ((Scan.ofDocument document).tokens.map Prod.fst) ∧
      (∀ action ∈ s.actions.values, ∀ a ∈ action.arguments,
        (a.IsResolvedIn s.stateVariables ↔
          ∀ v, s.stateVariables.get? (trim a.relatedStateVariable) = some v → v.name ≠ "")) ∧
      (∀ name, name ≠ "" →
        (s.stateVariables.values.filter fun v => Described.name v == name) =
          ((declaredTables root).flatten.filter fun v =>
            Described.name v == name).getLast?.toList) ∧
      (s.stateVariables.values.map Described.name =
          firstUses ((declaredTables root).flatten.map Described.name) ↔
        (∀ table ∈ declaredTables root, KeyedMap.KeepsUnnamed table) ∧
          KeyedMap.KeepsUnnamed (KeyedMap.filedParts (declaredTables root))) ∧
      ∀ document' root',
        NodeKind.scpd.IsRoot root' ((Scan.ofDocument document').tokens.map Prod.fst) →
        root'.top? = root.top? → stateTables root' = stateTables root →
        otherParts root' = otherParts root → ServiceDescription.parse document' = .ok s := by
  have hoccurs := ((parse_isOk_iff document).1.mp ⟨s, hs⟩).1
  obtain ⟨root, hroot⟩ := NodeKind.exists_isRoot hformed.nested hoccurs
  obtain ⟨e, htop⟩ : ∃ e, root.top? = some e := by
    obtain ⟨_, e, _, _, _, htop, _⟩ := hroot
    exact ⟨e, htop⟩
  obtain ⟨read, hread, hvariables, hparse⟩ := parse_of_isRoot hroot htop
  obtain rfl := Except.ok.inj (hs.symm.trans hparse)
  refine ⟨root, hroot, ?arguments, ?names, ?ranks, ?places⟩
  case arguments =>
    intro action haction a ha
    exact Argument.isResolvedIn_iff (isStateTable_of_parse hs)
      (related_of_resolveReferences haction ha)
  case names =>
    intro name hname
    change (read.stateVariables.values.filter _) = _
    rw [hvariables]
    exact KeyedMap.filter_values_filedParts hname (declaredTables root)
  case ranks =>
    change read.stateVariables.values.map _ = _ ↔ _
    rw [hvariables]
    exact KeyedMap.names_filedParts_iff (declaredTables root)
  case places =>
    intro document' root' hroot' htop' htables hothers
    obtain ⟨read', hread', -, hparse'⟩ := parse_of_isRoot hroot' (htop'.trans htop)
    unfold stateTables at htables
    unfold otherParts at hothers
    rw [readForest_filter, htables, hothers, ← readForest_filter, hread] at hread'
    obtain rfl := Node.scpd.inj hread'
    exact hparse'

theorem Scan.Yields.isWellFormed {scan : Scan} {ts : List Tree} (hscan : Scan.Yields scan ts) :
    Scan.IsWellFormed scan :=
  ⟨hscan.ending, (wellNested_iff _).mpr ⟨ts, hscan.tokens.symm⟩⟩

namespace LookUp

/-- A service's document with one reference and some variables. -/
def document (reference table : String) : String :=
  "<scpd><actionList><action><argumentList><argument><relatedStateVariable>" ++ reference ++
    "</relatedStateVariable></argument></argumentList></action></actionList><serviceStateTable>" ++
    table ++ "</serviceStateTable></scpd>"

/-- The trees of the document. -/
def trees (reference : String) (table : List Tree) : List Tree :=
  [.element ⟨"scpd", []⟩
    [.element ⟨"actionList", []⟩ [.element ⟨"action", []⟩ [.element ⟨"argumentList", []⟩
      [.element ⟨"argument", []⟩ [.element ⟨"relatedStateVariable", []⟩ [.text reference]]]]],
    .element ⟨"serviceStateTable", []⟩ table]]

/-- A document in which a variable without a name comes before the one that is referred to. -/
def found : String :=
  document " B " "<stateVariable/><stateVariable><name>B</name></stateVariable>"

def foundTrees : List Tree :=
  trees "B" [.empty ⟨"stateVariable", []⟩,
    .element ⟨"stateVariable", []⟩ [.element ⟨"name", []⟩ [.text "B"]]]

/-- A document with a reference that is the key of a variable without a name. -/
def numbered : String :=
  document "stateVariable#1" "<stateVariable/>"

def numberedTrees : List Tree :=
  trees "stateVariable#1" [.empty ⟨"stateVariable", []⟩]

/-- All references of a service with what they are related to. -/
def references (s : ServiceDescription) : List (String × Option Nat) :=
  (s.actions.values.flatMap Action.arguments).map fun a => (a.relatedStateVariable, a.related)

/-- No reference of a service is a key of a variable without a name. -/
def findsNames (s : ServiceDescription) : Bool :=
  (s.actions.values.flatMap Action.arguments).all fun a =>
    (s.stateVariables.get? (trim a.relatedStateVariable)).all fun v => v.name != ""

theorem yields_found : Scan.Yields (Scan.ofDocument found) foundTrees := by
  have hscan : (Scan.ofDocument found).tokens.map Prod.fst = Tree.forestTokens foundTrees ∧
      (Scan.ofDocument found).ending = .ok 253 := by decide +kernel
  exact ⟨hscan.1, _, hscan.2⟩

theorem yields_numbered : Scan.Yields (Scan.ofDocument numbered) numberedTrees := by
  have hscan : (Scan.ofDocument numbered).tokens.map Prod.fst = Tree.forestTokens numberedTrees ∧
      (Scan.ofDocument numbered).ending = .ok 220 := by decide +kernel
  exact ⟨hscan.1, _, hscan.2⟩

theorem references_of_found :
    Scan.IsWellFormed (Scan.ofDocument found) ∧
      ∃ s, ServiceDescription.parse found = .ok s ∧ references s = [("B", some 1)] ∧
        ∀ action ∈ s.actions.values, ∀ a ∈ action.arguments, a.IsResolvedIn s.stateVariables := by
  have hformed := yields_found.isWellFormed
  have hread : (ServiceDescription.parse found).map (fun s => (references s, findsNames s)) =
      .ok ([("B", some 1)], true) := by
    rw [ServiceDescription.parse, ServiceDescription.ofScan, Node.ofScan_of_yields yields_found]
    decide +kernel
  obtain ⟨s, hs, hfound⟩ := exists_of_map_eq_ok hread
  obtain ⟨hrelated, hnames⟩ := Prod.mk.inj hfound
  obtain ⟨_, -, harguments, -⟩ := ServiceDescription.references_of_parse hformed hs
  refine ⟨hformed, s, hs, hrelated, fun action haction a ha => ?_⟩
  refine (harguments action haction a ha).mpr fun v hv => ?_
  have hall := List.all_eq_true.mp hnames a (List.mem_flatMap.mpr ⟨action, haction, ha⟩)
  simpa [hv] using hall

/-- A reference that is the key of a variable without a name is related to this one. -/
theorem numberedKey_isRelated :
    Scan.IsWellFormed (Scan.ofDocument numbered) ∧
      (ServiceDescription.parse numbered).map (fun s => (references s,
        s.stateVariables.values.map StateVariable.name)) =
          .ok ([("stateVariable#1", some 0)], [""]) := by
  refine ⟨yields_numbered.isWellFormed, ?_⟩
  rw [ServiceDescription.parse, ServiceDescription.ofScan, Node.ofScan_of_yields yields_numbered]
  decide +kernel

end LookUp

end ControlPoint.Description
