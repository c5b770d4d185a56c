import Mathlib
import ControlPoint.Class.Service
import ControlPoint.Proofs.Class.Constant
import ControlPoint.Proofs.Language.Escape

namespace ControlPoint.Class

open Description Naming

namespace Draft

/-- Between two states of a class in the making exactly some names were given out, which are written
    as listed, and no constant was lost or changed. -/
structure Declares (l : Language) (d : Draft) (written : List String) (d' : Draft) : Prop where
  names : ∃ bare, written = bare.map l.escape ∧ (∀ name ∈ bare, IsTypeName name) ∧
    d.members.Fresh bare ∧ d'.members = d.members.reserveAll bare
  constants : d.constants.Extends d'.constants
  valid : d.constants.Valid → d'.constants.Valid
  rule : d'.constants.names.rule = d.constants.names.rule

variable {l : Language} {d d' d'' : Draft}

theorem Declares.refl (l : Language) (d : Draft) : Declares l d [] d where
  names := ⟨[], rfl, by simp, trivial, rfl⟩
  constants := .refl _
  valid h := h
  rule := rfl

theorem Declares.trans {first second : List String} (hfirst : Declares l d first d')
    (hsecond : Declares l d' second d'') : Declares l d (first ++ second) d'' where
  names := by
    obtain ⟨bare, rfl, hbare, hfresh, hmembers⟩ := hfirst.names
    obtain ⟨bare', rfl, hbare', hfresh', hmembers'⟩ := hsecond.names
    refine ⟨bare ++ bare', by simp, ?_, ?_, ?_⟩
    · intro name hname
      rcases List.mem_append.mp hname with hname | hname
      · exact hbare name hname
      · exact hbare' name hname
    · rw [Scope.fresh_append, ← hmembers]
      exact ⟨hfresh, hfresh'⟩
    · rw [hmembers', hmembers, Scope.reserveAll_append]
  constants := hfirst.constants.trans hsecond.constants
  valid h := hsecond.valid (hfirst.valid h)
  rule := hsecond.rule.trans hfirst.rule

theorem declares_allocate (l : Language) (d : Draft) {base : String} (hbase : IsTypeName base) :
    Declares l d [l.escape (d.allocate base).1] (d.allocate base).2 where
  names := by
    refine ⟨[d.members.freeName base], rfl, ?_, d.members.fresh_freeName base, rfl⟩
    simpa using freeName_isTypeName d.members hbase
  constants := .refl _
  valid h := h
  rule := rfl

theorem allocate_isTypeName (d : Draft) {base : String} (hbase : IsTypeName base) :
    IsTypeName (d.allocate base).1 :=
  freeName_isTypeName d.members hbase

theorem declares_constant (l : Language) (d : Draft) (group name value comment : String) :
    Declares l d [] (d.constant group name value comment).2 where
  names := ⟨[], rfl, by simp, trivial, rfl⟩
  constants := d.constants.extends_get group name value comment
  valid h := h.get group name value comment
  rule := d.constants.get_rule group name value comment

theorem has_constant (d : Draft) (group name value comment : String) :
    (d.constant group name value comment).2.constants.Has
      (d.constant group name value comment).1 group value :=
  d.constants.has_get group name value comment

/-! ### Enumerations -/

theorem enumMembers_cons (l : Language) (d : Draft) (names : Scope) (group value : String)
    (rest : List String) :
    enumMembers l d names group (value :: rest) =
      let name := names.freeName (sanitize .type value)
      let first := d.constant group value value ""
      let others := enumMembers l first.2 (names.reserve name) group rest
      (⟨l.escape name, first.1⟩ :: others.1, others.2) := rfl

theorem declares_enumMembers (l : Language) (d : Draft) (names : Scope) (group : String)
    (values : List String) : Declares l d [] (enumMembers l d names group values).2 := by
  induction values generalizing d names with
  | nil => exact Declares.refl l d
  | cons value rest ih =>
    rw [enumMembers_cons]
    exact (declares_constant l d group value value "").trans (ih _ _)

theorem enumMembers_names (l : Language) (d : Draft) (names : Scope) (group : String)
    (values : List String) :
    (enumMembers l d names group values).1.map EnumMember.name =
      (names.freeNames (values.map (sanitize .type))).map l.escape := by
  induction values generalizing d names with
  | nil => rfl
  | cons value rest ih =>
    rw [enumMembers_cons, List.map_cons, List.map_cons, ih]
    rfl

/-- The scope in which the members of an enumeration are named. -/
def memberScope (l : Language) : Scope :=
  (Scope.empty l.caseRule).reserve unknownMember

theorem enumMembers_namesApart (l : Language) (d : Draft) (group : String) (values : List String) :
    l.NamesApart ((enumMembers l d (memberScope l) group values).1.map EnumMember.name)
      [unknownMember] := by
  rw [enumMembers_names]
  apply Language.namesApart_freeNames rfl
  · rw [List.forall_mem_map]
    exact fun value _ => sanitize_isIdentifier .type value
  · cases l <;> decide

/-- The members stand for the values, one for one. -/
theorem enumMembers_constants (l : Language) (d : Draft) (names : Scope) (group : String)
    (values : List String) :
    List.Forall₂ (fun m value =>
        (enumMembers l d names group values).2.constants.Has m.constant group value)
      (enumMembers l d names group values).1 values := by
  induction values generalizing d names with
  | nil => exact .nil
  | cons value rest ih =>
    rw [enumMembers_cons]
    refine .cons ?_ (ih _ _)
    exact (has_constant d group value value "").mono
      (declares_enumMembers l _ _ group rest).constants

end Draft

/-- The names that an enumeration declares beside its members. -/
def EnumType.names (e : EnumType) : List String :=
  [e.name, e.parseFunction, e.toStringFunction]

/-- The enumeration is the one of a variable: its members are named apart from each other and from
    the member for unknown values, and stand for the allowed values, one for one. -/
structure EnumType.Serves (l : Language) (p : ConstantPool) (v : StateVariable) (e : EnumType) :
    Prop where
  namesApart : l.NamesApart (e.members.map EnumMember.name) [unknownMember]
  constants : List.Forall₂
    (fun m value => p.Has m.constant (ConstantPool.allowedValues v.name) value)
    e.members v.valueList.eraseDups

theorem EnumType.Serves.mono {l : Language} {p q : ConstantPool} {v : StateVariable} {e : EnumType}
    (hext : p.Extends q) (hserves : e.Serves l p v) : e.Serves l q v where
  namesApart := hserves.namesApart
  constants := hserves.constants.imp fun _ _ hhas => hhas.mono hext

namespace Draft

theorem enumType_eq (l : Language) (d : Draft) (v : StateVariable) (base : String) :
    enumType l d v base =
      let name := d.allocate (base ++ "Enum")
      let parse := name.2.allocate ("Parse" ++ name.1)
      let write := parse.2.allocate (name.1 ++ "ToString")
      let members := enumMembers l write.2 (memberScope l) (ConstantPool.allowedValues v.name)
        v.valueList.eraseDups
      (⟨l.escape name.1, l.escape parse.1, l.escape write.1, members.1⟩, members.2) := rfl

theorem isTypeName_parse : IsTypeName "Parse" :=
  ⟨'P', ['a', 'r', 's', 'e'], by decide, by decide, by decide, List.all_eq_true.mp (by decide)⟩

theorem isTypeName_on : IsTypeName "On" :=
  ⟨'O', ['n'], by decide, by decide, by decide, List.all_eq_true.mp (by decide)⟩

theorem declares_enumType (l : Language) (d : Draft) (v : StateVariable) {base : String}
    (hbase : IsTypeName base) :
    Declares l d (enumType l d v base).1.names (enumType l d v base).2 := by
  have henum : IsTypeName (base ++ "Enum") := hbase.append (by decide)
  have hname := allocate_isTypeName d henum
  have hparse := isTypeName_parse.append hname.isWord
  have hwrite : IsTypeName ((d.allocate (base ++ "Enum")).1 ++ "ToString") :=
    hname.append (by decide)
  rw [enumType_eq]
  exact (declares_allocate l d henum).trans
    ((declares_allocate l _ hparse).trans
      ((declares_allocate l _ hwrite).trans
        (declares_enumMembers l _ _ _ v.valueList.eraseDups)))

theorem enumType_serves (l : Language) (d : Draft) (v : StateVariable) (base : String) :
    (enumType l d v base).1.Serves l (enumType l d v base).2.constants v := by
  rw [enumType_eq]
  exact ⟨enumMembers_namesApart l _ _ _, enumMembers_constants l _ _ _ _⟩

theorem enumType?_eq (l : Language) (d : Draft) (v : StateVariable) (base : String) :
    enumType? l d v base =
      if v.isEnumerated then (some (enumType l d v base).1, (enumType l d v base).2)
      else (none, d) := rfl

theorem allocateIf_eq (l : Language) (d : Draft) (wanted : Bool) (base : String) :
    allocateIf l d wanted base =
      if wanted then (some (l.escape (d.allocate base).1), (d.allocate base).2)
      else (none, d) := rfl

theorem declares_enumType? (l : Language) (d : Draft) (v : StateVariable) {base : String}
    (hbase : IsTypeName base) :
    Declares l d ((enumType? l d v base).1.toList.flatMap EnumType.names)
      (enumType? l d v base).2 := by
  rw [enumType?_eq]
  split
  · simpa using declares_enumType l d v hbase
  · exact Declares.refl l d

theorem declares_allocateIf (l : Language) (d : Draft) (wanted : Bool) {base : String}
    (hbase : IsTypeName base) :
    Declares l d (allocateIf l d wanted base).1.toList (allocateIf l d wanted base).2 := by
  rw [allocateIf_eq]
  split
  · exact declares_allocate l d hbase
  · exact Declares.refl l d

@[simp] theorem allocateIf_isSome (l : Language) (d : Draft) (wanted : Bool) (base : String) :
    (allocateIf l d wanted base).1.isSome = wanted := by
  rw [allocateIf_eq]
  cases wanted <;> rfl

end Draft

/-! ### Variables -/

def Event.names (e : Event) : List String :=
  [e.name, e.raiser]

/-- The names that a class declares for a variable, in the order in which they are given out. -/
def VariableMembers.names (m : VariableMembers) : List String :=
  m.enumeration.toList.flatMap EnumType.names ++ m.property.toList ++ m.textProperty.toList ++
    m.event.toList.flatMap Event.names

/-- What is declared for a variable goes with it: its constant stands for its name, and it has an
    enumeration, a property for the raw text and an event just where it should. -/
structure VariableMembers.Serves (l : Language) (p : ConstantPool) (m : VariableMembers) : Prop where
  constant : p.Has m.constant ConstantPool.variableNames m.source.name
  plainType : m.plainType = l.typeFor m.source.dataType?
  enumerated : m.enumeration.isSome = m.source.isEnumerated
  enumeration : ∀ e ∈ m.enumeration, e.Serves l p m.source
  textProperty : m.textProperty.isSome = (m.property.isSome && m.source.isEnumerated)
  event : m.event.isSome = m.source.sendsEvents

theorem VariableMembers.Serves.mono {l : Language} {p q : ConstantPool} {m : VariableMembers}
    (hext : p.Extends q) (hserves : m.Serves l p) : m.Serves l q where
  constant := hserves.constant.mono hext
  plainType := hserves.plainType
  enumerated := hserves.enumerated
  enumeration e he := (hserves.enumeration e he).mono hext
  textProperty := hserves.textProperty
  event := hserves.event

namespace Draft

theorem event?_eq (l : Language) (d : Draft) (v : StateVariable) (base : String) :
    event? l d v base =
      if v.sendsEvents then
        let name := d.allocate (base ++ "Changed")
        let raiser := name.2.allocate ("On" ++ name.1)
        (some ⟨l.escape name.1, l.escape raiser.1⟩, raiser.2)
      else (none, d) := rfl

theorem declares_event? (l : Language) (d : Draft) (v : StateVariable) {base : String}
    (hbase : IsTypeName base) :
    Declares l d ((event? l d v base).1.toList.flatMap Event.names) (event? l d v base).2 := by
  rw [event?_eq]
  split
  · have hchanged : IsTypeName (base ++ "Changed") := hbase.append (by decide)
    have hraiser := isTypeName_on.append (allocate_isTypeName d hchanged).isWord
    exact (declares_allocate l d hchanged).trans (declares_allocate l _ hraiser)
  · exact Declares.refl l d

theorem variableMembers_eq (l : Language) (d : Draft) (v : StateVariable) (accessible : Bool) :
    variableMembers l d v accessible =
      let base := sanitize .type v.name
      let constant := d.constant ConstantPool.variableNames v.name v.name v.dataTypeName
      let enumeration := enumType? l constant.2 v base
      let property := allocateIf l enumeration.2 accessible base
      let textProperty := allocateIf l property.2 (accessible && v.isEnumerated) (base ++ "AsString")
      let event := event? l textProperty.2 v base
      (⟨v, constant.1, l.typeFor v.dataType?, enumeration.1, property.1, textProperty.1, event.1⟩,
        event.2) := by
  unfold variableMembers
  with_reducible rfl

theorem enumType?_serves (l : Language) (d : Draft) (v : StateVariable) (base : String) :
    ∀ e ∈ (enumType? l d v base).1, e.Serves l (enumType? l d v base).2.constants v := by
  rw [enumType?_eq]
  split
  · intro e he
    obtain rfl := Option.some.inj he
    exact enumType_serves l d v base
  · simp

@[simp] theorem enumType?_isSome (l : Language) (d : Draft) (v : StateVariable) (base : String) :
    (enumType? l d v base).1.isSome = v.isEnumerated := by
  rw [enumType?_eq]
  cases v.isEnumerated <;> rfl

@[simp] theorem event?_isSome (l : Language) (d : Draft) (v : StateVariable) (base : String) :
    (event? l d v base).1.isSome = v.sendsEvents := by
  rw [event?_eq]
  cases v.sendsEvents <;> rfl

theorem variableMembers_spec (l : Language) (d : Draft) (v : StateVariable) (accessible : Bool) :
    Declares l d (variableMembers l d v accessible).1.names
        (variableMembers l d v accessible).2 ∧
      (variableMembers l d v accessible).1.Serves l
        (variableMembers l d v accessible).2.constants := by
  have hbase := sanitize_isTypeName v.name
  have htext : IsTypeName (sanitize .type v.name ++ "AsString") := hbase.append (by decide)
  simp only [variableMembers_eq, VariableMembers.names]
  -- one state after another, each known only by what its own step says of it
  have hconstant := declares_constant l d ConstantPool.variableNames v.name v.name v.dataTypeName
  have hhas := has_constant d ConstantPool.variableNames v.name v.name v.dataTypeName
  generalize d.constant _ _ _ _ = constant at hconstant hhas ⊢
  have henumeration := declares_enumType? l constant.2 v hbase
  have hserves := enumType?_serves l constant.2 v (sanitize .type v.name)
  have henumerated := enumType?_isSome l constant.2 v (sanitize .type v.name)
  generalize enumType? l _ _ _ = enumeration at henumeration hserves henumerated ⊢
  have hproperty := declares_allocateIf l enumeration.2 accessible hbase
  have hpropertySome := allocateIf_isSome l enumeration.2 accessible (sanitize .type v.name)
  generalize allocateIf l enumeration.2 _ _ = property at hproperty hpropertySome ⊢
  have htextProperty := declares_allocateIf l property.2 (accessible && v.isEnumerated) htext
  have htextSome := allocateIf_isSome l property.2 (accessible && v.isEnumerated)
    (sanitize .type v.name ++ "AsString")
  generalize allocateIf l property.2 _ _ = textProperty at htextProperty htextSome ⊢
  have hevent := declares_event? l textProperty.2 v hbase
  have heventSome := event?_isSome l textProperty.2 v (sanitize .type v.name)
  generalize event? l _ _ _ = event at hevent heventSome ⊢
  have hlater := hproperty.trans (htextProperty.trans hevent)
  constructor
  · exact hconstant.trans (((henumeration.trans hproperty).trans htextProperty).trans hevent)
  · exact {
      constant := hhas.mono (henumeration.trans hlater).constants
      plainType := by dsimp only
      enumerated := henumerated
      enumeration := fun e he => (hserves e he).mono hlater.constants
      textProperty := htextSome.trans (by rw [hpropertySome])
      event := heventSome }

theorem addVariables_cons (l : Language) (d : Draft) (v : StateVariable) (accessible : Bool)
    (rest : List (StateVariable × Bool)) :
    addVariables l d ((v, accessible) :: rest) =
      let first := variableMembers l d v accessible
      let others := addVariables l first.2 rest
      (first.1 :: others.1, others.2) := by
  rw [addVariables]

theorem addVariables_spec (l : Language) (d : Draft) (declared : List (StateVariable × Bool)) :
    Declares l d ((addVariables l d declared).1.flatMap VariableMembers.names)
        (addVariables l d declared).2 ∧
      ∀ m ∈ (addVariables l d declared).1,
        m.Serves l (addVariables l d declared).2.constants := by
  induction declared generalizing d with
  | nil => exact ⟨Declares.refl l d, by simp [addVariables]⟩
  | cons first rest ih =>
    obtain ⟨v, accessible⟩ := first
    obtain ⟨hfirst, hserves⟩ := variableMembers_spec l d v accessible
    obtain ⟨hrest, hrestServes⟩ := ih (variableMembers l d v accessible).2
    simp only [addVariables_cons, List.flatMap_cons, List.forall_mem_cons]
    exact ⟨hfirst.trans hrest, hserves.mono hrest.constants, hrestServes⟩

theorem addVariables_sources (l : Language) (d : Draft) (declared : List (StateVariable × Bool)) :
    (addVariables l d declared).1.map VariableMembers.source = declared.map Prod.fst := by
  induction declared generalizing d with
  | nil => rfl
  | cons first rest ih =>
    obtain ⟨v, accessible⟩ := first
    simp only [addVariables_cons, List.map_cons, ih, variableMembers_eq]

end Draft

/-! ### Actions -/

theorem parametersFrom_names (l : Language) (names : Scope) (arguments : List Argument) :
    (parametersFrom l names arguments).map Parameter.name =
      (names.freeNames (arguments.map fun a => sanitize .parameter a.name)).map l.escape := by
  induction arguments generalizing names with
  | nil => rfl
  | cons a rest ih =>
    rw [parametersFrom, List.map_cons, List.map_cons]
    exact congrArg (_ :: ·) (ih _)

/-- The parameters of a method are named apart from each other and from the variables that every
    method has. -/
theorem methodParameters_namesApart (l : Language) (a : Action) :
    l.NamesApart ((methodParameters l a).map Parameter.name) localNames := by
  rw [methodParameters, parametersFrom_names]
  apply Language.namesApart_freeNames (Scope.reserveAll_rule ..)
  · rw [List.forall_mem_map]
    exact fun a _ => sanitize_isIdentifier .parameter a.name
  · cases l <;> decide

/-- What is declared for an action goes with it: its constant stands for its name, and it has a
    parameter for every argument whose direction is known. -/
structure Method.Serves (l : Language) (p : ConstantPool) (m : Method) : Prop where
  constant : p.Has m.constant ConstantPool.actionNames m.source.name
  parameters : m.parameters = methodParameters l m.source

theorem Method.Serves.mono {l : Language} {p q : ConstantPool} {m : Method} (hext : p.Extends q)
    (hserves : m.Serves l p) : m.Serves l q where
  constant := hserves.constant.mono hext
  parameters := hserves.parameters

namespace Draft

theorem method_spec (l : Language) (d : Draft) (a : Action) :
    Declares l d [(method l d a).1.name] (method l d a).2 ∧
      (method l d a).1.Serves l (method l d a).2.constants := by
  have hconstant := declares_constant l d ConstantPool.actionNames a.name a.name ""
  have hhas := has_constant d ConstantPool.actionNames a.name a.name ""
  have hname := declares_allocate l (d.constant ConstantPool.actionNames a.name a.name "").2
    (sanitize_isTypeName a.name)
  exact ⟨hconstant.trans hname, hhas, rfl⟩

theorem methods_cons (l : Language) (d : Draft) (a : Action) (rest : List Action) :
    methods l d (a :: rest) =
      let first := method l d a
      let others := methods l first.2 rest
      (first.1 :: others.1, others.2) := rfl

theorem methods_spec (l : Language) (d : Draft) (actions : List Action) :
    Declares l d ((methods l d actions).1.map Method.name) (methods l d actions).2 ∧
      ∀ m ∈ (methods l d actions).1, m.Serves l (methods l d actions).2.constants := by
  induction actions generalizing d with
  | nil => exact ⟨Declares.refl l d, by simp [methods]⟩
  | cons a rest ih =>
    obtain ⟨hfirst, hserves⟩ := method_spec l d a
    obtain ⟨hrest, hrestServes⟩ := ih (method l d a).2
    simp only [methods_cons, List.map_cons, List.forall_mem_cons]
    exact ⟨hfirst.trans hrest, hserves.mono hrest.constants, hrestServes⟩

theorem methods_sources (l : Language) (d : Draft) (actions : List Action) :
    (methods l d actions).1.map Method.source = actions := by
  induction actions generalizing d with
  | nil => rfl
  | cons a rest ih => exact congrArg (a :: ·) (ih _)

end Draft

end ControlPoint.Class
