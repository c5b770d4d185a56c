import Mathlib
import ControlPoint.Proofs.Class.Enumeration
import ControlPoint.Proofs.Class.Marshalling
import ControlPoint.Proofs.Description.StateTable

namespace ControlPoint

open Description Naming Template

/-- The branch that makes a call where a notification has the name for which the label stands. -/
def Language.branchText : Language → String → String → String
  | csharp, label, call => "case " ++ label ++ ":\n    " ++ call ++ ";\n    break;"
  | visualBasic, label, call => "Case " ++ label ++ "\n    " ++ call

namespace Class

namespace Block

/-- The name for which the constant stands that labels a branch. -/
def label? (l : Language) (blocks : List Block) (branch : Block) : Option String :=
  constantValue? l blocks (branch.text l "constant")

section Execution

variable {V : Type} (l : Language) (r : Runtime V)

/-- The call that a branch makes: the raiser, and the value as the raiser is given it. -/
def raise (branch : Block) (value : V) : String × V :=
  (branch.text l "raiser",
    if (branch.values l).holds "enumerated" then
      r.call (branch.text l "parse_function") (r.toText value)
    else r.toType (branch.text l "type") value)

/-- The calls for a notification, one by each branch that has the name for its label. -/
def notify (blocks : List Block) (b : Block) (name : String) (value : V) : List (String × V) :=
  (b.inner.filter fun branch => branch.label? l blocks == some name).map fun branch =>
    branch.raise l r value

end Execution

end Block

/-- What a notified value is for a variable. -/
def VariableMembers.observed {V : Type} (r : Runtime V) (v : VariableMembers) (value : V) : V :=
  match v.enumeration with
  | some e => r.call e.parseFunction (r.toText value)
  | none => r.toType v.exposedType value

/-- The expression for it in a branch. -/
def VariableMembers.observedText (l : Language) (v : VariableMembers) : String :=
  match v.enumeration with
  | some e => e.parseFunction ++ "(" ++ l.textCastText "vaValue" ++ ")"
  | none => l.castText v.exposedType "vaValue"

/-- Just one block declares the member, and it is there for the variable. -/
def IsDeclaredFor (l : Language) (blocks : List Block) (v : StateVariable) (kind : Kind)
    (name : String) : Prop :=
  ∃ b : Block, b.IsSoleDeclaration l memberPlaces blocks name ∧ b.kind = kind ∧ b.subject = v.name

/-- The branch is the one of a variable: it is labelled with the variable's name and hands what the
    value is for this variable on to the raiser of the variable's event. -/
structure Block.Dispatches (l : Language) (blocks : List Block) (v : VariableMembers) (e : Event)
    (branch : Block) : Prop where
  label : branch.label? l blocks = some v.source.name
  raises {V : Type} (r : Runtime V) (value : V) :
    branch.raise l r value = (e.raiser, v.observed r value)
  written : branch.written l =
    l.branchText v.constant (e.raiser ++ "(" ++ v.observedText l ++ ")")
  raiser : IsDeclaredFor l blocks v.source .eventRaiser e.raiser
  enumerated : v.enumeration.isSome = v.source.isEnumerated
  plain : v.enumeration = none → v.exposedType = l.typeFor v.source.dataType?
  parse : ∀ f ∈ v.enumeration, v.exposedType = f.name ∧
    IsDeclaredFor l blocks v.source .enumeration f.name ∧
    IsDeclaredFor l blocks v.source .enumParse f.parseFunction

/-- A notification of the variable's name makes the call of the variable's raiser and no other. -/
def Block.Reaches (l : Language) (blocks : List Block) (b : Block) (v : VariableMembers)
    (e : Event) : Prop :=
  ∀ {V : Type} (r : Runtime V) (value : V),
    b.notify l r blocks v.source.name value = [(e.raiser, v.observed r value)]

namespace ServiceClass

/-- The block of the branch for a variable. -/
def branchBlock (v : VariableMembers) (e : Event) : Block :=
  ⟨.dispatchBranch, v.source.name,
    [("constant", v.constant), ("raiser", e.raiser), ("type", v.exposedType),
      ("enumerated", v.enumeration.isSome), ("parse_function", parseFunction v.enumeration)]⟩

/-- The block of the place where notifications arrive. -/
def dispatcherBlock (c : ServiceClass) : Block :=
  ⟨.dispatcher, "", [("branches", .joined "\n" (c.evented.map fun v => branchCode v.1 v.2))]⟩

variable (c : ServiceClass) (o : Options)

theorem inner_dispatcherBlock :
    c.dispatcherBlock.inner = c.evented.map fun v => branchBlock v.1 v.2 := by
  simp [dispatcherBlock, Block.inner, branchCode, branchBlock, List.flatMap_map,
    ← List.map_eq_flatMap]

/-- There is one place where notifications arrive. -/
theorem filter_dispatcher :
    ((c.code o).blocks.filter fun b => b.kind == .dispatcher) = [c.dispatcherBlock] := by
  let isDispatcher : Kind → Bool := fun kind => kind == .dispatcher
  -- the kinds of blocks in the other sections are enough to pass over them
  have hconstants := Code.filter_eq_nil isDispatcher
    (kinds_constants c.language o.visibility c.constants) (by decide)
  have henumerations := Code.filter_eq_nil isDispatcher (c.kinds_enumerations o) (by decide)
  have hproperties := Code.filter_eq_nil isDispatcher (c.kinds_properties o) (by decide)
  have hevents : (c.eventsCode o).flatMap
      (fun part => part.blocks.filter fun b => isDispatcher b.kind) = [c.dispatcherBlock] := by
    simp [isDispatcher, eventsCode, eventCodes, List.flatMap_map, dispatcherCode, dispatcherBlock,
      branchCode, docCode, List.filter_flatMap]
  have hmethods := Code.filter_eq_nil isDispatcher (c.kinds_methods o) (by decide)
  rw [c.filter_blocks o isDispatcher (by decide)]
  simp [sections, hconstants, henumerations, hproperties, hevents, hmethods]

variable {l : Language} {className : String} {s : ServiceDescription} {c : ServiceClass}

/-! ### The branch of a variable -/

theorem label?_branchBlock (hserves : c.Serves l className s) (o : Options) {v : VariableMembers}
    (hv : v ∈ c.members) (e : Event) :
    (branchBlock v e).label? c.language (c.code o).blocks = some v.source.name := by
  have hvalue := constantValue?_eq hserves o (hserves.members v hv).constant
  simpa [Block.label?, branchBlock] using hvalue

theorem raise_branchBlock {V : Type} (l : Language) (r : Runtime V) (v : VariableMembers) (e : Event)
    (value : V) : (branchBlock v e).raise l r value = (e.raiser, v.observed r value) := by
  cases henum : v.enumeration <;>
    simp [Block.raise, branchBlock, VariableMembers.observed, henum, parseFunction]

theorem written_branchBlock (l : Language) (v : VariableMembers) (e : Event) :
    (branchBlock v e).written l =
      l.branchText v.constant (e.raiser ++ "(" ++ v.observedText l ++ ")") := by
  apply Language.fill_of_render
  cases l <;> cases henum : v.enumeration <;>
    simp [branchBlock, Block.values, VariableMembers.observedText, henum, Template.render, Part.render, Piece.render, renderPieces,
      bind, Except.bind, pure, Except.pure, Language.template, Language.csharpTemplate,
      Language.visualBasicTemplate, ofLines, Code.fieldValues, Fields.value?, Fields.holds,
      Value.print, parseFunction, Language.branchText, Language.castText, Language.textCastText,
      String.append_assoc] <;>
    rfl

theorem raiser_isDeclaredFor (hserves : c.Serves l className s) (o : Options) {v : VariableMembers}
    {e : Event} (hv : (v, e) ∈ c.evented) :
    IsDeclaredFor c.language (c.code o).blocks v.source .eventRaiser e.raiser := by
  obtain ⟨hmember, hevent⟩ := c.mem_evented.mp hv
  refine ⟨_, eventCode_isSoleDeclaration hserves o hmember hevent
    (List.mem_cons_of_mem _ (List.mem_cons_self ..)) ?_, rfl, rfl⟩
  simp [Block.declared, memberPlaces]

theorem enumeration_isDeclaredFor (hserves : c.Serves l className s) (o : Options)
    {v : VariableMembers} (hv : v ∈ c.members) {f : EnumType} (hf : f ∈ v.enumeration) :
    IsDeclaredFor c.language (c.code o).blocks v.source .enumeration f.name ∧
      IsDeclaredFor c.language (c.code o).blocks v.source .enumParse f.parseFunction := by
  refine ⟨⟨_, enumerationCode_isSoleDeclaration hserves o hv hf (List.mem_cons_self ..) ?_, rfl,
      rfl⟩,
    ⟨_, enumerationCode_isSoleDeclaration hserves o hv hf
      (List.mem_cons_of_mem _ (List.mem_cons_self ..)) ?_, rfl, rfl⟩⟩
  all_goals simp [Block.declared, memberPlaces]

theorem branchBlock_dispatches (hserves : c.Serves l className s) (o : Options)
    {v : VariableMembers} {e : Event} (hv : (v, e) ∈ c.evented) :
    (branchBlock v e).Dispatches c.language (c.code o).blocks v e := by
  obtain ⟨hmember, -⟩ := c.mem_evented.mp hv
  have hmemberServes := hserves.members v hmember
  constructor
  case label => exact label?_branchBlock hserves o hmember e
  case raises => exact fun r value => raise_branchBlock c.language r v e value
  case written => exact written_branchBlock c.language v e
  case raiser => exact raiser_isDeclaredFor hserves o hv
  case enumerated => exact hmemberServes.enumerated
  case plain =>
    intro hnone
    rw [VariableMembers.exposedType, hnone, hserves.language]
    exact hmemberServes.plainType
  case parse =>
    intro f hf
    refine ⟨?_, enumeration_isDeclaredFor hserves o hmember hf⟩
    rw [VariableMembers.exposedType, Option.mem_def.mp hf]

/-! ### The notifications -/

theorem labels_dispatcherBlock (hserves : c.Serves l className s) (o : Options) :
    c.dispatcherBlock.inner.map (Block.label? c.language (c.code o).blocks) =
      (c.evented.map fun v => v.1.source.name).map some := by
  rw [inner_dispatcherBlock, List.map_map, List.map_map]
  apply List.map_congr_left
  rintro ⟨v, e⟩ hv
  exact label?_branchBlock hserves o (c.mem_evented.mp hv).1 e

theorem notify_dispatcherBlock (hserves : c.Serves l className s) (o : Options) {V : Type}
    (r : Runtime V) (name : String) (value : V) :
    c.dispatcherBlock.notify c.language r (c.code o).blocks name value =
      (c.evented.filter fun v => v.1.source.name == name).map fun v =>
        (v.2.raiser, v.1.observed r value) := by
  have hreached : (c.dispatcherBlock.inner.filter fun branch =>
        branch.label? c.language (c.code o).blocks == some name) =
      (c.evented.filter fun v => v.1.source.name == name).map fun v => branchBlock v.1 v.2 := by
    rw [inner_dispatcherBlock, List.filter_map]
    congr 1
    apply List.filter_congr
    rintro ⟨v, e⟩ hv
    rw [Function.comp_apply, label?_branchBlock hserves o (c.mem_evented.mp hv).1 e]
    rfl
  rw [Block.notify, hreached, List.map_map]
  apply List.map_congr_left
  intro v _
  exact raise_branchBlock c.language r v.1 v.2 value

/-- A notification reaches its variable alone just if no other evented variable has its name. -/
theorem reaches_iff (hserves : c.Serves l className s) (o : Options) {v : VariableMembers}
    {e : Event} (hv : (v, e) ∈ c.evented) :
    c.dispatcherBlock.Reaches c.language (c.code o).blocks v e ↔
      (c.evented.map fun v => v.1.source.name).count v.source.name ≤ 1 := by
  constructor
  · intro hreaches
    -- the number of calls tells already, so values of one kind will do
    let r : Runtime Unit := ⟨(), fun _ _ => (), id, fun _ _ => ()⟩
    have hcalls := congrArg List.length (hreaches r ())
    rw [notify_dispatcherBlock hserves, List.length_map, List.length_singleton] at hcalls
    rw [count_map_eq_length_filter]
    exact hcalls.le
  · intro hcount V r value
    have hsole := filter_key_eq_singleton (fun v => v.1.source.name) hv hcount
    rw [notify_dispatcherBlock hserves, hsole]
    rfl

/-! ### The variables that have an event -/

theorem evented_sources (hserves : c.Serves l className s) :
    (c.evented.map fun v => v.1.source) = s.evented := by
  have hevent : ∀ v ∈ c.members, v.event.isSome = v.source.sendsEvents :=
    fun v hv => (hserves.members v hv).event
  have hmembers : (c.evented.map fun v => v.1.source) =
      (c.members.filter fun v => v.event.isSome).map VariableMembers.source :=
    map_filterMap_pair c.members VariableMembers.event VariableMembers.source
  rw [hmembers, List.filter_congr hevent, ServiceDescription.evented, ← hserves.sources,
    List.filter_map, Function.comp_def]

theorem evented_names (hserves : c.Serves l className s) :
    (c.evented.map fun v => v.1.source.name) = s.evented.map StateVariable.name := by
  rw [← evented_sources hserves, List.map_map, Function.comp_def]

theorem raisers_distinct (hserves : c.Serves l className s) :
    (c.evented.map fun v => c.language.nameKey v.2.raiser).Nodup := by
  have hdistinct := hserves.namesApart.distinctBare
  rw [← hserves.language] at hdistinct
  have hnames : (c.evented.flatMap fun v => v.2.names).Sublist
      (c.members.flatMap VariableMembers.names) := by
    rw [evented, flatMap_filterMap_pair c.members VariableMembers.event fun _ e => e.names]
    exact List.Sublist.flatMap_right _ fun v _ => List.sublist_append_right ..
  have hraisers : (c.evented.map fun v => v.2.raiser).Sublist
      (c.evented.flatMap fun v => v.2.names) := by
    rw [List.map_eq_flatMap]
    exact List.Sublist.flatMap_right _ fun v _ => List.sublist_cons_self ..
  have hsublist : (c.evented.map fun v => v.2.raiser).Sublist c.memberNames :=
    hraisers.trans (hnames.trans (List.sublist_append_left ..))
  have hkeys := hdistinct.sublist (hsublist.map c.language.nameKey)
  rwa [List.map_map] at hkeys

/-- A class has one branch for every evented variable, in order, which is labelled with the
    variable's name and raises the variable's own event with what the value is for it. The labels are
    told apart, and every notification reaches its variable alone, just if no two of these variables
    are without a name. -/
theorem declare_dispatches_iff (l : Language) (className : String) {document : String}
    {s : ServiceDescription} (hs : ServiceDescription.parse document = .ok s)
    (answers : Option (List Answer)) (o : Options) :
    let c := declare l className s answers
    let blocks := (c.code o).blocks
    c.source o = .ok ((c.code o).text l) ∧
      (c.evented.map fun v => v.1.source) = s.evented ∧
      (c.evented.map fun v => l.nameKey v.2.raiser).Nodup ∧
      ∃ b : Block, (blocks.filter fun other => other.kind == .dispatcher) = [b] ∧
        List.Forall₂ (fun v branch => branch.Dispatches l blocks v.1 v.2) c.evented b.inner ∧
        (∀ v ∈ c.evented, v.1.source.name ≠ "" → b.Reaches l blocks v.1 v.2) ∧
        ((b.inner.map (Block.label? l blocks)).Nodup ∧
            (∀ v ∈ c.evented, b.Reaches l blocks v.1 v.2) ↔
          (s.evented.map StateVariable.name).count "" ≤ 1) := by
  have hserves := declare_serves l className s answers
  intro c blocks
  have hlanguage : c.language = l := hserves.language
  have hnames : (c.evented.map fun v => v.1.source.name) = s.evented.map StateVariable.name :=
    evented_names hserves
  have hothers := ServiceDescription.evented_names_nodup hs
  have hdistinct := nodup_iff_count_le_one_of_filter_ne hothers
  have hreaches {v : VariableMembers × Event} (hv : v ∈ c.evented)
      (hcount : (s.evented.map StateVariable.name).count v.1.source.name ≤ 1) :
      c.dispatcherBlock.Reaches c.language blocks v.1 v.2 := by
    rw [← hnames] at hcount
    exact (reaches_iff hserves o hv).mpr hcount
  rw [← hlanguage]
  refine ⟨c.source_eq o, evented_sources hserves, raisers_distinct hserves, c.dispatcherBlock,
    c.filter_dispatcher o, ?branches, ?named, ?exact⟩
  case branches =>
    rw [inner_dispatcherBlock, List.forall₂_map_right_iff, List.forall₂_same]
    exact fun v hv => branchBlock_dispatches hserves o hv
  case named =>
    intro v hv hname
    exact hreaches hv (count_le_one_of_filter_ne hothers hname)
  case exact =>
    rw [labels_dispatcherBlock hserves o, hnames, List.nodup_map_iff (Option.some_injective _),
      hdistinct]
    constructor
    · exact And.left
    · intro hcount
      refine ⟨hcount, fun v hv => hreaches hv ?_⟩
      exact List.nodup_iff_count_le_one.mp (hdistinct.mpr hcount) _

/-! ### Variables without a name -/

/-- A service with a variable that has a name, an evented one without and one without a name that
    is not evented. -/
def clock : String :=
  "<scpd><serviceStateTable><stateVariable><name>Hour</name></stateVariable><stateVariable/>" ++
    "<stateVariable sendEvents=\"no\"/></serviceStateTable></scpd>"

theorem clock_dispatches :
    ∃ s, ServiceDescription.parse clock = .ok s ∧ s.evented.map StateVariable.name = ["Hour", ""] ∧
      let c := declare .csharp "Clock" s none
      let blocks := (c.code { className := "Clock" }).blocks
      ∃ b : Block, (blocks.filter fun other => other.kind == .dispatcher) = [b] ∧
        (b.inner.map (Block.label? .csharp blocks)).Nodup ∧
        ∀ v ∈ c.evented, b.Reaches .csharp blocks v.1 v.2 := by
  have hparsed : (ServiceDescription.parse clock).map (fun s => s.evented.map StateVariable.name) =
      .ok ["Hour", ""] := by decide +kernel
  obtain ⟨s, hs, hnames⟩ := exists_of_map_eq_ok hparsed
  obtain ⟨-, -, -, b, hb, -, -, hexact⟩ :=
    declare_dispatches_iff .csharp "Clock" hs none { className := "Clock" }
  refine ⟨s, hs, hnames, b, hb, hexact.mpr ?_⟩
  rw [hnames]
  decide

/-- A service with two evented variables of different types, neither of which has a name. -/
def namelessClock : String :=
  "<scpd><serviceStateTable><stateVariable><dataType>string</dataType></stateVariable>" ++
    "<stateVariable><dataType>ui4</dataType></stateVariable></serviceStateTable></scpd>"

/-- In either language two branches have one label, and no notification reaches the raiser of one of
    the variables alone. -/
theorem namelessClock_not_dispatched :
    ∃ s, ServiceDescription.parse namelessClock = .ok s ∧
      s.evented.map (fun v => (v.name, v.dataTypeName)) = [("", "string"), ("", "ui4")] ∧
      ∀ (l : Language) (o : Options),
        let c := declare l "Clock" s none
        let blocks := (c.code o).blocks
        ∃ b : Block, (blocks.filter fun other => other.kind == .dispatcher) = [b] ∧
          b.inner.map (Block.label? l blocks) = [some "", some ""] ∧
          ∀ v ∈ c.evented, ¬ b.Reaches l blocks v.1 v.2 := by
  have hparsed : (ServiceDescription.parse namelessClock).map
      (fun s => s.evented.map fun v => (v.name, v.dataTypeName)) =
        .ok [("", "string"), ("", "ui4")] := by decide +kernel
  obtain ⟨s, hs, hevented⟩ := exists_of_map_eq_ok hparsed
  have hvariables : s.evented.map StateVariable.name = ["", ""] := by
    simpa [Function.comp_def] using congrArg (List.map Prod.fst) hevented
  refine ⟨s, hs, hevented, fun l o => ?_⟩
  have hserves := declare_serves l "Clock" s none
  intro c blocks
  have hlanguage : c.language = l := hserves.language
  have hnames : (c.evented.map fun v => v.1.source.name) = ["", ""] :=
    (evented_names hserves).trans hvariables
  rw [← hlanguage]
  refine ⟨c.dispatcherBlock, c.filter_dispatcher o, ?labels, ?calls⟩
  case labels =>
    rw [labels_dispatcherBlock hserves, hnames]
    rfl
  case calls =>
    intro v hv hreaches
    have hcount := (reaches_iff hserves o hv).mp hreaches
    have hmem : v.1.source.name ∈ ["", ""] := hnames ▸ List.mem_map_of_mem hv
    have hempty : v.1.source.name = "" := by simpa using hmem
    rw [hnames, hempty] at hcount
    exact absurd hcount (by decide)

end ServiceClass

end Class

end ControlPoint
