import Mathlib
import ControlPoint.Class.ServiceFile
import ControlPoint.Description.Document
import ControlPoint.Proofs.Class.ServiceNames

namespace ControlPoint.Class

open Description Naming

/-- Written names that stay out of the way of extra ones. -/
def Clear (l : Language) (extra written : List String) : Prop :=
  ∀ name ∈ written, ∀ other ∈ extra, l.nameKey name ≠ l.nameKey other

instance (l : Language) (extra written : List String) : Decidable (Clear l extra written) :=
  inferInstanceAs (Decidable (∀ name ∈ written, ∀ other ∈ extra, l.nameKey name ≠ l.nameKey other))

theorem clear_append {l : Language} {extra first second : List String} :
    Clear l extra (first ++ second) ↔ Clear l extra first ∧ Clear l extra second :=
  List.forall_mem_append

namespace Draft

/-- A class in the making that is ahead of another by some names: it has given them out besides. -/
structure Ahead (l : Language) (extra : List String) (a d : Draft) : Prop where
  rule : d.members.rule = l.caseRule
  ruleAhead : a.members.rule = l.caseRule
  constants : a.constants = d.constants
  contains_iff : ∀ name, a.members.contains name = true ↔
    (∃ other ∈ extra, l.caseRule.fold name = l.nameKey other) ∨ d.members.contains name = true

/-- Two classes in the making get the same thing, and one stays ahead of the other. -/
structure Along {α : Type} (l : Language) (extra : List String) (r r' : α × Draft) : Prop where
  same : r.1 = r'.1
  ahead : Ahead l extra r.2 r'.2

variable {l : Language} {extra : List String} {a d d' : Draft}

theorem Declares.members_rule {written : List String} (h : Declares l d written d') :
    d'.members.rule = d.members.rule := by
  obtain ⟨bare, -, -, -, hmembers⟩ := h.names
  rw [hmembers, Scope.reserveAll_rule]

/-- The names that were given out in between are those by which the later state is ahead. -/
theorem Declares.ahead {written : List String} (h : Declares l d written d')
    (hrule : d.members.rule = l.caseRule) (hconstants : d'.constants = d.constants) :
    Ahead l written d' d where
  rule := hrule
  ruleAhead := h.members_rule.trans hrule
  constants := hconstants
  contains_iff name := by
    obtain ⟨bare, rfl, hbare, -, hmembers⟩ := h.names
    rw [hmembers, Scope.contains_reserveAll_iff, hrule]
    simp only [List.mem_map, exists_exists_and_eq_and]
    refine or_congr_left (exists_congr fun other => and_congr_right fun hother => ?_)
    rw [l.nameKey_escape (hbare other hother).isIdentifier]

/-! ### One step, with a name more known and without -/

theorem Ahead.allocate (h : Ahead l extra a d) {base : String} (hbase : IsTypeName base)
    (hclear : Clear l extra [l.escape (d.allocate base).1]) :
    Along l extra (a.allocate base) (d.allocate base) := by
  have hname := allocate_isTypeName d hbase
  have hsame : a.members.freeName base = d.members.freeName base := by
    apply Scope.freeName_congr
    · exact fun name hname => (h.contains_iff name).mpr (.inr hname)
    · rw [Bool.eq_false_iff, Ne, h.contains_iff, Scope.freeName_not_contains]
      rintro (⟨other, hother, heq⟩ | hfalse)
      · apply hclear _ (List.mem_singleton_self _) other hother
        rw [l.nameKey_escape hname.isIdentifier, ← heq]
        rfl
      · exact absurd hfalse (by decide)
  refine ⟨hsame, h.rule, h.ruleAhead, h.constants, fun name => ?_⟩
  simp only [Draft.allocate, hsame, Scope.contains_reserve_iff, h.contains_iff, h.rule,
    h.ruleAhead, or_left_comm]

theorem Ahead.constant (h : Ahead l extra a d) (group name value comment : String) :
    Along l extra (a.constant group name value comment) (d.constant group name value comment) := by
  simp only [Draft.constant, h.constants]
  exact ⟨rfl, h.rule, h.ruleAhead, rfl, h.contains_iff⟩

theorem Ahead.enumMembers (h : Ahead l extra a d) (names : Scope) (group : String)
    (values : List String) :
    Along l extra (enumMembers l a names group values) (enumMembers l d names group values) := by
  induction values generalizing a d names with
  | nil => exact ⟨rfl, h⟩
  | cons value rest ih =>
    have hconstant := h.constant group value value ""
    have hrest := ih hconstant.ahead (names.reserve (names.freeName (sanitize .type value)))
    simp only [enumMembers_cons]
    exact ⟨by rw [hconstant.same, hrest.same], hrest.ahead⟩

theorem Ahead.enumType (h : Ahead l extra a d) (v : StateVariable) {base : String}
    (hbase : IsTypeName base) (hclear : Clear l extra (enumType l d v base).1.names) :
    Along l extra (enumType l a v base) (enumType l d v base) := by
  rw [enumType_eq] at hclear
  simp only [EnumType.names, Clear, List.forall_mem_cons] at hclear
  obtain ⟨hclearName, hclearParse, hclearWrite, -⟩ := hclear
  have henum : IsTypeName (base ++ "Enum") := hbase.append (by decide)
  have htypeName := allocate_isTypeName d henum
  have hname := h.allocate henum (by simpa [Clear] using hclearName)
  have hparse := hname.ahead.allocate (isTypeName_parse.append htypeName.isWord)
    (by simpa [Clear] using hclearParse)
  have hwrite := hparse.ahead.allocate
    (htypeName.append (by decide : IsWord "ToString")) (by simpa [Clear] using hclearWrite)
  have hmembers := hwrite.ahead.enumMembers (memberScope l) (ConstantPool.allowedValues v.name)
    v.valueList.eraseDups
  simp only [enumType_eq, hname.same]
  exact ⟨by rw [hparse.same, hwrite.same, hmembers.same], hmembers.ahead⟩

theorem Ahead.enumType? (h : Ahead l extra a d) (v : StateVariable) {base : String}
    (hbase : IsTypeName base)
    (hclear : Clear l extra ((enumType? l d v base).1.toList.flatMap EnumType.names)) :
    Along l extra (enumType? l a v base) (enumType? l d v base) := by
  simp only [enumType?_eq] at hclear ⊢
  split at hclear
  · have htype := h.enumType v hbase (by simpa using hclear)
    rw [if_pos ‹_›, if_pos ‹_›]
    exact ⟨congrArg some htype.same, htype.ahead⟩
  · rw [if_neg ‹_›, if_neg ‹_›]
    exact ⟨rfl, h⟩

theorem Ahead.allocateIf (h : Ahead l extra a d) (wanted : Bool) {base : String}
    (hbase : IsTypeName base) (hclear : Clear l extra (allocateIf l d wanted base).1.toList) :
    Along l extra (allocateIf l a wanted base) (allocateIf l d wanted base) := by
  cases wanted with
  | false => exact ⟨rfl, h⟩
  | true =>
    have hname := h.allocate hbase hclear
    exact ⟨congrArg (fun name => some (l.escape name)) hname.same, hname.ahead⟩

theorem Ahead.event? (h : Ahead l extra a d) (v : StateVariable) {base : String}
    (hbase : IsTypeName base)
    (hclear : Clear l extra ((event? l d v base).1.toList.flatMap Event.names)) :
    Along l extra (event? l a v base) (event? l d v base) := by
  simp only [event?_eq] at hclear ⊢
  split at hclear
  · simp only [Option.toList_some, List.flatMap_singleton, Event.names, Clear,
      List.forall_mem_cons] at hclear
    obtain ⟨hclearName, hclearRaiser, -⟩ := hclear
    have hchanged : IsTypeName (base ++ "Changed") := hbase.append (by decide)
    have hname := h.allocate hchanged (by simpa [Clear] using hclearName)
    have hraiser := hname.ahead.allocate
      (isTypeName_on.append (allocate_isTypeName d hchanged).isWord)
      (by simpa [Clear] using hclearRaiser)
    rw [if_pos ‹_›, if_pos ‹_›]
    simp only [hname.same]
    exact ⟨by rw [hraiser.same], hraiser.ahead⟩
  · rw [if_neg ‹_›, if_neg ‹_›]
    exact ⟨rfl, h⟩

theorem Ahead.variableMembers (h : Ahead l extra a d) (v : StateVariable) (accessible : Bool)
    (hclear : Clear l extra (variableMembers l d v accessible).1.names) :
    Along l extra (variableMembers l a v accessible) (variableMembers l d v accessible) := by
  have hbase := sanitize_isTypeName v.name
  have htext : IsTypeName (sanitize .type v.name ++ "AsString") := hbase.append (by decide)
  simp only [variableMembers_eq, VariableMembers.names, clear_append] at hclear ⊢
  obtain ⟨⟨⟨henumC, hpropertyC⟩, htextC⟩, heventC⟩ := hclear
  -- one state after another, each pair known only by what its own step says of it
  have hconstant := h.constant ConstantPool.variableNames v.name v.name v.dataTypeName
  generalize d.constant _ _ _ _ = constant at hconstant henumC hpropertyC htextC heventC ⊢
  generalize a.constant _ _ _ _ = constantAhead at hconstant ⊢
  have henum := hconstant.ahead.enumType? v hbase henumC
  generalize Draft.enumType? l constant.2 _ _ = enumeration at henum hpropertyC htextC heventC ⊢
  generalize Draft.enumType? l _ _ _ = enumerationAhead at henum ⊢
  have hproperty := henum.ahead.allocateIf accessible hbase hpropertyC
  generalize Draft.allocateIf l enumeration.2 _ _ = property at hproperty htextC heventC ⊢
  generalize Draft.allocateIf l enumerationAhead.2 _ _ = propertyAhead at hproperty ⊢
  have htextProperty := hproperty.ahead.allocateIf (accessible && v.isEnumerated) htext htextC
  generalize Draft.allocateIf l property.2 _ _ = textProperty at htextProperty heventC ⊢
  generalize Draft.allocateIf l propertyAhead.2 _ _ = textPropertyAhead at htextProperty ⊢
  have hevent := htextProperty.ahead.event? v hbase heventC
  generalize Draft.event? l textProperty.2 _ _ = event at hevent ⊢
  generalize Draft.event? l textPropertyAhead.2 _ _ = eventAhead at hevent ⊢
  exact ⟨by rw [hconstant.same, henum.same, hproperty.same, htextProperty.same, hevent.same],
    hevent.ahead⟩

theorem Ahead.addVariables (h : Ahead l extra a d) (declared : List (StateVariable × Bool))
    (hclear : Clear l extra ((addVariables l d declared).1.flatMap VariableMembers.names)) :
    Along l extra (addVariables l a declared) (addVariables l d declared) := by
  induction declared generalizing a d with
  | nil => exact ⟨rfl, h⟩
  | cons first rest ih =>
    obtain ⟨v, accessible⟩ := first
    simp only [addVariables_cons, List.flatMap_cons, clear_append] at hclear ⊢
    have hfirst := h.variableMembers v accessible hclear.1
    have hrest := ih hfirst.ahead hclear.2
    exact ⟨by rw [hfirst.same, hrest.same], hrest.ahead⟩

theorem Ahead.method (h : Ahead l extra a d) (action : Action)
    (hclear : Clear l extra [(method l d action).1.name]) :
    Along l extra (method l a action) (method l d action) := by
  have hconstant := h.constant ConstantPool.actionNames action.name action.name ""
  have hname := hconstant.ahead.allocate (sanitize_isTypeName action.name) hclear
  refine ⟨?_, hname.ahead⟩
  simp only [Draft.method, hconstant.same, hname.same]

theorem Ahead.methods (h : Ahead l extra a d) (actions : List Action)
    (hclear : Clear l extra ((methods l d actions).1.map Method.name)) :
    Along l extra (methods l a actions) (methods l d actions) := by
  induction actions generalizing a d with
  | nil => exact ⟨rfl, h⟩
  | cons action rest ih =>
    simp only [methods_cons, List.map_cons] at hclear ⊢
    obtain ⟨hclearFirst, hclearRest⟩ := List.forall_mem_cons.mp hclear
    have hfirst := h.method action (by simpa [Clear] using hclearFirst)
    have hrest := ih hfirst.ahead hclearRest
    exact ⟨by rw [hfirst.same, hrest.same], hrest.ahead⟩

end Draft

/-! ### What does not depend on names -/

/-- An enumeration with blanks for the names at the level of the class. -/
def EnumType.unnamed (e : EnumType) : EnumType :=
  ⟨"", "", "", e.members⟩

/-- What is declared for a variable, with blanks for the names at the level of the class. -/
def VariableMembers.unnamed (m : VariableMembers) : VariableMembers :=
  { m with
    enumeration := m.enumeration.map EnumType.unnamed
    property := m.property.map fun _ => ""
    textProperty := m.textProperty.map fun _ => ""
    event := m.event.map fun _ => ⟨"", ""⟩ }

/-- What is declared for a variable, less the properties if it is the one of that name. -/
def VariableMembers.withoutPropertiesOf (name : String) (m : VariableMembers) : VariableMembers :=
  if m.source.name = name then { m with property := none, textProperty := none } else m

/-- The properties that are declared for the variable of that name. -/
def VariableMembers.propertiesOf (name : String) (m : VariableMembers) : List String :=
  if m.source.name = name then m.property.toList ++ m.textProperty.toList else []

section Others

variable {name : String} {members : List VariableMembers}

theorem map_withoutPropertiesOf_of_ne (hothers : ∀ m ∈ members, m.source.name ≠ name) :
    members.map (VariableMembers.withoutPropertiesOf name) = members := by
  rw [List.map_congr_left (g := id), List.map_id]
  exact fun m hm => if_neg (hothers m hm)

theorem flatMap_propertiesOf_of_ne (hothers : ∀ m ∈ members, m.source.name ≠ name) :
    members.flatMap (VariableMembers.propertiesOf name) = [] := by
  rw [List.flatMap_eq_nil_iff]
  exact fun m hm => if_neg (hothers m hm)

end Others

theorem VariableMembers.names_perm (m : VariableMembers) (name : String) :
    (m.propertiesOf name ++ (m.withoutPropertiesOf name).names).Perm m.names := by
  unfold propertiesOf withoutPropertiesOf
  split
  · simp only [names, Option.toList_none, List.append_nil, ← List.append_assoc]
    apply List.Perm.append_right
    rw [List.append_assoc _ m.property.toList]
    exact List.perm_append_comm
  · rfl

theorem VariableMembers.unnamed_withoutPropertiesOf (name : String) (m : VariableMembers) :
    (m.withoutPropertiesOf name).unnamed = m.unnamed.withoutPropertiesOf name := by
  unfold withoutPropertiesOf
  by_cases h : m.source.name = name <;> simp [unnamed, h]

def Method.unnamed (m : Method) : Method :=
  { m with name := "" }

private theorem map_const_eq {α β : Type} (x : Option α) (b : β) :
    (x.map fun _ => b) = if x.isSome then some b else none := by
  cases x <;> rfl

namespace Draft

variable {l : Language} {a d : Draft}

theorem enumMembers_congr (h : a.constants = d.constants) (names : Scope) (group : String)
    (values : List String) :
    (enumMembers l a names group values).1 = (enumMembers l d names group values).1 ∧
      (enumMembers l a names group values).2.constants =
        (enumMembers l d names group values).2.constants := by
  induction values generalizing a d names with
  | nil => exact ⟨rfl, h⟩
  | cons value rest ih =>
    have hrest := @ih (a.constant group value value "").2 (d.constant group value value "").2
      (by simp only [constant, h]) (names.reserve (names.freeName (sanitize .type value)))
    simp only [enumMembers_cons, hrest]
    simp only [constant, h, and_self]

theorem enumType?_congr (h : a.constants = d.constants) (v : StateVariable) (base : String) :
    (enumType? l a v base).1.map EnumType.unnamed = (enumType? l d v base).1.map EnumType.unnamed ∧
      (enumType? l a v base).2.constants = (enumType? l d v base).2.constants := by
  simp only [enumType?_eq, enumType_eq]
  split
  · have hmembers (names names' : Scope) := enumMembers_congr (l := l) (a := ⟨a.constants, names⟩)
      (d := ⟨d.constants, names'⟩) h (memberScope l) (ConstantPool.allowedValues v.name)
      v.valueList.eraseDups
    exact ⟨congrArg (fun members => some (EnumType.mk "" "" "" members)) (hmembers _ _).1,
      (hmembers _ _).2⟩
  · exact ⟨rfl, h⟩

@[simp] theorem allocateIf_constants (l : Language) (d : Draft) (wanted : Bool) (base : String) :
    (allocateIf l d wanted base).2.constants = d.constants := by
  cases wanted <;> rfl

@[simp] theorem event?_constants (l : Language) (d : Draft) (v : StateVariable) (base : String) :
    (event? l d v base).2.constants = d.constants := by
  rw [event?_eq]
  split <;> rfl

/-- Which properties and events there are hangs on no name. -/
theorem variableMembers_unnamed (l : Language) (d : Draft) (v : StateVariable)
    (accessible : Bool) :
    (variableMembers l d v accessible).1.unnamed =
      let constant := d.constant ConstantPool.variableNames v.name v.name v.dataTypeName
      ⟨v, constant.1, l.typeFor v.dataType?,
        (enumType? l constant.2 v (sanitize .type v.name)).1.map EnumType.unnamed,
        if accessible then some "" else none,
        if accessible && v.isEnumerated then some "" else none,
        if v.sendsEvents then some ⟨"", ""⟩ else none⟩ := by
  simp only [variableMembers_eq, VariableMembers.unnamed, map_const_eq, allocateIf_isSome,
    event?_isSome]

theorem variableMembers_congr (h : a.constants = d.constants) (v : StateVariable) (name : String)
    {accessible accessible' : Bool} (hothers : v.name ≠ name → accessible = accessible') :
    ((variableMembers l a v accessible).1.withoutPropertiesOf name).unnamed =
      ((variableMembers l d v accessible').1.withoutPropertiesOf name).unnamed := by
  have hconstant :
      (a.constant ConstantPool.variableNames v.name v.name v.dataTypeName).2.constants =
        (d.constant ConstantPool.variableNames v.name v.name v.dataTypeName).2.constants := by
    simp only [constant, h]
  rw [VariableMembers.unnamed_withoutPropertiesOf, VariableMembers.unnamed_withoutPropertiesOf,
    variableMembers_unnamed, variableMembers_unnamed]
  dsimp only
  rw [(enumType?_congr hconstant v _).1]
  simp only [VariableMembers.withoutPropertiesOf, constant, h]
  split
  · rfl
  · rw [hothers ‹_›]

theorem variableMembers_constants (h : a.constants = d.constants) (v : StateVariable)
    (accessible accessible' : Bool) :
    (variableMembers l a v accessible).2.constants =
      (variableMembers l d v accessible').2.constants := by
  simp only [variableMembers_eq, event?_constants, allocateIf_constants]
  exact (enumType?_congr (by simp only [constant, h]) ..).2

theorem addVariables_congr (h : a.constants = d.constants) (name : String)
    (declared : List StateVariable) (first second : StateVariable → Bool)
    (hothers : ∀ v ∈ declared, v.name ≠ name → first v = second v) :
    ((addVariables l a (declared.map fun v => (v, first v))).1.map
        fun m => (m.withoutPropertiesOf name).unnamed) =
      ((addVariables l d (declared.map fun v => (v, second v))).1.map
        fun m => (m.withoutPropertiesOf name).unnamed) ∧
      (addVariables l a (declared.map fun v => (v, first v))).2.constants =
        (addVariables l d (declared.map fun v => (v, second v))).2.constants := by
  induction declared generalizing a d with
  | nil => exact ⟨rfl, h⟩
  | cons v rest ih =>
    obtain ⟨hv, hrestOthers⟩ := List.forall_mem_cons.mp hothers
    obtain ⟨hrest, hconstants⟩ :=
      ih (variableMembers_constants h v (first v) (second v)) hrestOthers
    simp only [List.map_cons, addVariables_cons]
    exact ⟨by rw [variableMembers_congr h v name hv, hrest], hconstants⟩

theorem methods_congr (h : a.constants = d.constants) (actions : List Action) :
    (methods l a actions).1.map Method.unnamed = (methods l d actions).1.map Method.unnamed ∧
      (methods l a actions).2.constants = (methods l d actions).2.constants := by
  induction actions generalizing a d with
  | nil => exact ⟨rfl, h⟩
  | cons action rest ih =>
    have hfirst : (method l a action).1.unnamed = (method l d action).1.unnamed := by
      simp only [method, Method.unnamed, constant, h]
    obtain ⟨hrest, hconstants⟩ := @ih (method l a action).2 (method l d action).2
      (by simp only [method, constant, allocate, h])
    simp only [methods_cons, List.map_cons]
    exact ⟨by rw [hfirst, hrest], hconstants⟩

theorem addVariables_append (l : Language) (d : Draft)
    (before after : List (StateVariable × Bool)) :
    addVariables l d (before ++ after) =
      let first := addVariables l d before
      let others := addVariables l first.2 after
      (first.1 ++ others.1, others.2) := by
  induction before generalizing d with
  | nil => rfl
  | cons first rest ih =>
    obtain ⟨v, accessible⟩ := first
    simp only [List.cons_append, addVariables_cons, ih]

end Draft

namespace ServiceClass

/-- What the class declares, with blanks for the names at its own level. -/
def unnamed (c : ServiceClass) : ServiceClass :=
  { c with
    members := c.members.map VariableMembers.unnamed
    methods := c.methods.map Method.unnamed }

/-- What the class declares, less the properties of the variable of that name. -/
def withoutPropertiesOf (name : String) (c : ServiceClass) : ServiceClass :=
  { c with members := c.members.map (VariableMembers.withoutPropertiesOf name) }

/-- The properties of the variable of that name. -/
def propertiesOf (name : String) (c : ServiceClass) : List String :=
  c.members.flatMap (VariableMembers.propertiesOf name)

theorem withAnswers_questions (s : ServiceDescription) (probe : String → Answer) :
    withAnswers s.stateVariables.values (some ((questions s).map probe)) =
      s.stateVariables.values.map fun v => (v, (probe v.name).isAccessible) := by
  apply List.ext_getElem
  · simp [withAnswers]
  · intro i hi _
    simp [withAnswers, questions] at hi ⊢
    simp [List.getElem?_eq_getElem hi]

/-- The class has the properties of the variable and what it has without them. -/
theorem memberNames_perm (c : ServiceClass) (name : String) :
    (c.propertiesOf name ++ (c.withoutPropertiesOf name).memberNames).Perm c.memberNames := by
  rw [memberNames, memberNames, ← List.append_assoc]
  apply List.Perm.append_right
  rw [propertiesOf, withoutPropertiesOf, List.flatMap_map]
  refine (List.flatMap_append_perm _ _ _).trans ?_
  exact List.Perm.flatMap_left _ fun m _ => m.names_perm name

/-- Where two classes have the same but for the properties, these are out of the way of the rest. -/
theorem clear_of_withoutPropertiesOf_eq {l : Language} {c c' : ServiceClass} {name : String}
    (hnodup : (c.memberNames.map l.nameKey).Nodup)
    (heq : c.withoutPropertiesOf name = c'.withoutPropertiesOf name) :
    Clear l (c.propertiesOf name) (c'.withoutPropertiesOf name).memberNames := by
  intro written hwritten property hproperty hsame
  rw [← heq] at hwritten
  rw [← ((c.memberNames_perm name).map l.nameKey).nodup_iff, List.map_append,
    List.nodup_append] at hnodup
  exact hnodup.2.2 _ (List.mem_map_of_mem hproperty) _ (List.mem_map_of_mem hwritten) hsame.symm

end ServiceClass

namespace Draft

variable {l : Language} {d : Draft}

/-- The state after an accessible variable is ahead by its properties. -/
theorem variableMembers_ahead (hrule : d.members.rule = l.caseRule) (v : StateVariable)
    (hclear : Clear l ((variableMembers l d v true).1.propertiesOf v.name)
      (variableMembers l d v false).1.names) :
    (variableMembers l d v true).1.withoutPropertiesOf v.name = (variableMembers l d v false).1 ∧
      Ahead l ((variableMembers l d v true).1.propertiesOf v.name) (variableMembers l d v true).2
        (variableMembers l d v false).2 := by
  have hbase := sanitize_isTypeName v.name
  have htext : IsTypeName (sanitize .type v.name ++ "AsString") := hbase.append (by decide)
  have hnone (d : Draft) (base : String) : allocateIf l d false base = (none, d) := rfl
  simp only [variableMembers_eq, VariableMembers.names, VariableMembers.propertiesOf,
    VariableMembers.withoutPropertiesOf, Bool.false_and, Bool.true_and, if_true, hnone,
    clear_append] at hclear ⊢
  obtain ⟨-, hclear⟩ := hclear
  have hstart := ((declares_constant l d ConstantPool.variableNames v.name v.name
    v.dataTypeName).trans (declares_enumType? l _ v hbase)).members_rule.trans hrule
  generalize d.constant _ _ _ _ = constant at hstart hclear ⊢
  generalize enumType? l _ _ _ = enumeration at hstart hclear ⊢
  have hahead := ((declares_allocateIf l enumeration.2 true hbase).trans
    (declares_allocateIf l _ v.isEnumerated htext)).ahead hstart (by simp)
  generalize allocateIf l enumeration.2 _ _ = property at hahead hclear ⊢
  generalize allocateIf l property.2 _ _ = textProperty at hahead hclear ⊢
  have hevent := hahead.event? v hbase hclear
  generalize Draft.event? l textProperty.2 _ _ = eventAhead at hevent ⊢
  generalize Draft.event? l enumeration.2 _ _ = event at hevent ⊢
  exact ⟨by rw [hevent.same], hevent.ahead⟩

theorem addVariables_source_ne {name : String} (l : Language) (d : Draft)
    {declared : List (StateVariable × Bool)} (hothers : ∀ x ∈ declared, x.1.name ≠ name) :
    ∀ m ∈ (addVariables l d declared).1, m.source.name ≠ name := by
  intro m hm
  have hsource := List.mem_map_of_mem (f := VariableMembers.source) hm
  rw [addVariables_sources] at hsource
  obtain ⟨x, hx, heq⟩ := List.mem_map.mp hsource
  rw [← heq]
  exact hothers x hx

/-- An inaccessible variable has no properties to leave out. -/
theorem variableMembers_false (l : Language) (d : Draft) (v : StateVariable) (name : String) :
    (variableMembers l d v false).1.withoutPropertiesOf name = (variableMembers l d v false).1 := by
  have hnone (d : Draft) (base : String) : allocateIf l d false base = (none, d) := rfl
  rw [VariableMembers.withoutPropertiesOf]
  split
  · simp only [variableMembers_eq, Bool.false_and, hnone]
  · rfl

/-- A variable among others: with its properties the class is ahead by these, and has the same but
    for them. -/
theorem addVariables_ahead (hrule : d.members.rule = l.caseRule) {v : StateVariable}
    {before after : List (StateVariable × Bool)} (hbefore : ∀ x ∈ before, x.1.name ≠ v.name)
    (hafter : ∀ x ∈ after, x.1.name ≠ v.name) :
    let r := addVariables l d (before ++ (v, true) :: after)
    let r' := addVariables l d (before ++ (v, false) :: after)
    let extra := r.1.flatMap (VariableMembers.propertiesOf v.name)
    let others := r'.1.map (VariableMembers.withoutPropertiesOf v.name)
    Clear l extra (others.flatMap VariableMembers.names) →
      r.1.map (VariableMembers.withoutPropertiesOf v.name) = others ∧ Ahead l extra r.2 r'.2 := by
  simp only [addVariables_append, addVariables_cons, List.flatMap_append, List.flatMap_cons,
    List.map_append, List.map_cons, variableMembers_false]
  have hbeforeNe := addVariables_source_ne l d hbefore
  have hbeforeRule := (addVariables_spec l d before).1.members_rule.trans hrule
  generalize addVariables l d before = first at hbeforeNe hbeforeRule ⊢
  have hafterNe (accessible : Bool) :=
    addVariables_source_ne l (variableMembers l first.2 v accessible).2 hafter
  rw [flatMap_propertiesOf_of_ne hbeforeNe, flatMap_propertiesOf_of_ne (hafterNe true),
    List.nil_append, List.append_nil, map_withoutPropertiesOf_of_ne hbeforeNe,
    map_withoutPropertiesOf_of_ne (hafterNe true), map_withoutPropertiesOf_of_ne (hafterNe false)]
  intro hclear
  rw [clear_append, clear_append] at hclear
  obtain ⟨-, hclearOne, hclearAfter⟩ := hclear
  obtain ⟨hone, hahead⟩ := variableMembers_ahead hbeforeRule v hclearOne
  have hrest := hahead.addVariables after hclearAfter
  exact ⟨by rw [hone, hrest.same], hrest.ahead⟩

end Draft

namespace ServiceClass

variable {l : Language} {className : String} {s : ServiceDescription} {v : StateVariable}
  {first second : String → Answer}

/-- All other members keep their names without the properties of a variable, if these names are out
    of the way of the properties. -/
theorem declare_withoutPropertiesOf_eq
    (hsole : (s.stateVariables.values.filter fun w => w.name = v.name) = [v])
    (hothers : ∀ name, name ≠ v.name → first name = second name)
    (hfirst : (first v.name).isAccessible = true) (hsecond : (second v.name).isAccessible = false)
    (hclear : Clear l
      ((declare l className s (some ((questions s).map first))).propertiesOf v.name)
      ((declare l className s (some ((questions s).map second))).withoutPropertiesOf
        v.name).memberNames) :
    (declare l className s (some ((questions s).map first))).withoutPropertiesOf v.name =
      (declare l className s (some ((questions s).map second))).withoutPropertiesOf v.name := by
  obtain ⟨before, after, hvalues, hbefore, -, hafter⟩ := List.filter_eq_cons_iff.mp hsole
  simp only [decide_eq_true_eq] at hbefore
  replace hafter : ∀ w ∈ after, w.name ≠ v.name := by simpa using hafter
  have hanswers (probe : String → Answer) :
      withAnswers s.stateVariables.values (some ((questions s).map probe)) =
        before.map (fun w => (w, (probe w.name).isAccessible)) ++
          (v, (probe v.name).isAccessible) ::
            after.map fun w => (w, (probe w.name).isAccessible) := by
    rw [withAnswers_questions, hvalues, List.map_append, List.map_cons]
  have hsameBefore : before.map (fun w => (w, (first w.name).isAccessible)) =
      before.map fun w => (w, (second w.name).isAccessible) :=
    List.map_congr_left fun w hw => by rw [hothers w.name (hbefore w hw)]
  have hsameAfter : after.map (fun w => (w, (first w.name).isAccessible)) =
      after.map fun w => (w, (second w.name).isAccessible) :=
    List.map_congr_left fun w hw => by rw [hothers w.name (hafter w hw)]
  have hrule : (start l (sanitize .type className)).members.rule = l.caseRule := by
    simp [start, Scope.empty]
  simp only [declare_eq, hanswers, hsameBefore, hsameAfter, hfirst, hsecond, propertiesOf,
    withoutPropertiesOf, memberNames, clear_append] at hclear ⊢
  have hne {declared : List StateVariable} (hdeclared : ∀ w ∈ declared, w.name ≠ v.name) :
      ∀ x ∈ declared.map fun w => (w, (second w.name).isAccessible), x.1.name ≠ v.name :=
    List.forall_mem_map.mpr hdeclared
  have hmembers := Draft.addVariables_ahead hrule (hne hbefore) (hne hafter)
  generalize Draft.addVariables l _ (_ ++ (v, true) :: _) = r at hmembers hclear ⊢
  generalize Draft.addVariables l _ (_ ++ (v, false) :: _) = r' at hmembers hclear ⊢
  obtain ⟨hsameMembers, hahead⟩ := hmembers hclear.1
  have hmethods := hahead.methods s.actions.values hclear.2
  rw [hsameMembers, hmethods.same, hmethods.ahead.constants]

/-- Two probes that find the same variables accessible lead to one class. -/
theorem declare_eq_of_isAccessible_eq
    (hsame : ∀ name, (first name).isAccessible = (second name).isAccessible) :
    declare l className s (some ((questions s).map first)) =
      declare l className s (some ((questions s).map second)) := by
  simp only [declare_eq, withAnswers_questions, hsame]

theorem declare_unnamed_eq {name : String}
    (hothers : ∀ other, other ≠ name → first other = second other) :
    ((declare l className s (some ((questions s).map first))).withoutPropertiesOf name).unnamed =
      ((declare l className s (some ((questions s).map second))).withoutPropertiesOf
        name).unnamed := by
  obtain ⟨hmembers, hconstants⟩ := Draft.addVariables_congr (l := l)
    (a := start l (sanitize .type className)) rfl name s.stateVariables.values
    (fun w => (first w.name).isAccessible) (fun w => (second w.name).isAccessible)
    fun w _ hw => congrArg Answer.isAccessible (hothers w.name hw)
  obtain ⟨hmethods, hall⟩ := Draft.methods_congr (l := l) hconstants s.actions.values
  simp only [declare_eq, withAnswers_questions, withoutPropertiesOf, unnamed, List.map_map,
    Function.comp_def, hmembers, hmethods, hall]

/-- Whatever a living service answers for a variable, the class has the same but for the properties
    of this variable and for names: the same constants, and of each kind of member the same. The
    names are the same as well if and only if those of its properties in one class are not the names
    of other members in the other class. -/
theorem declare_withoutPropertiesOf_eq_iff (l : Language) (className : String)
    (s : ServiceDescription) (test : Bool) {v : StateVariable}
    (hsole : (s.stateVariables.values.filter fun w => w.name = v.name) = [v])
    {first second : String → Answer}
    (hothers : ∀ name, name ≠ v.name → first name = second name) :
    let c := declare l className s ((tester test (some first)).map (questions s).map)
    let c' := declare l className s ((tester test (some second)).map (questions s).map)
    (c.withoutPropertiesOf v.name).unnamed = (c'.withoutPropertiesOf v.name).unnamed ∧
      (c.withoutPropertiesOf v.name = c'.withoutPropertiesOf v.name ↔
        Clear l (c.propertiesOf v.name) (c'.withoutPropertiesOf v.name).memberNames ∧
          Clear l (c'.propertiesOf v.name) (c.withoutPropertiesOf v.name).memberNames) := by
  intro c c'
  have hdistinct (answers : Option (List Answer)) :=
    (declare_serves l className s answers).namesApart.distinctBare
  have hforward (heq : c.withoutPropertiesOf v.name = c'.withoutPropertiesOf v.name) :=
    And.intro (clear_of_withoutPropertiesOf_eq (hdistinct _) heq)
      (clear_of_withoutPropertiesOf_eq (hdistinct _) heq.symm)
  cases test with
  | false => exact ⟨rfl, hforward, fun _ => rfl⟩
  | true =>
    refine ⟨declare_unnamed_eq hothers, hforward, fun ⟨hclear, hclear'⟩ => ?_⟩
    have hsame (hv : (first v.name).isAccessible = (second v.name).isAccessible) (name : String) :
        (first name).isAccessible = (second name).isAccessible := by
      by_cases hname : name = v.name
      · rw [hname, hv]
      · rw [hothers name hname]
    -- only where the answers differ in what they say of the variable is there something to show
    cases hfirst : (first v.name).isAccessible <;> cases hsecond : (second v.name).isAccessible
    case false.false =>
      exact congrArg (withoutPropertiesOf v.name)
        (declare_eq_of_isAccessible_eq (hsame (hfirst.trans hsecond.symm)))
    case true.true =>
      exact congrArg (withoutPropertiesOf v.name)
        (declare_eq_of_isAccessible_eq (hsame (hfirst.trans hsecond.symm)))
    case true.false => exact declare_withoutPropertiesOf_eq hsole hothers hfirst hsecond hclear
    case false.true =>
      have hothers' (name : String) (hname : name ≠ v.name) := (hothers name hname).symm
      exact (declare_withoutPropertiesOf_eq hsole hothers' hsecond hfirst hclear').symm

/-! ### A variable that does not answer -/

private theorem filter_name_of_map_eq {declared : List StateVariable} {name : String}
    (hnames : (declared.map StateVariable.name).count name = 1) :
    ∃ v, v.name = name ∧ (declared.filter fun w => w.name = v.name) = [v] := by
  have hcount := count_map_eq_length_filter StateVariable.name declared name
  rw [hnames] at hcount
  obtain ⟨v, hv⟩ := List.length_eq_one_iff.mp hcount.symm
  have hname : v.name = name := by
    have hmem : v ∈ declared.filter fun w => w.name == name := hv ▸ List.mem_singleton_self v
    simpa using (List.mem_filter.mp hmem).2
  refine ⟨v, hname, ?_⟩
  rw [hname, ← hv]
  exact List.filter_congr fun w _ => by rw [Bool.eq_iff_iff]; simp

/-- A living service that answers for every variable. -/
def answersAll : String → Answer :=
  fun _ => .value "0"

/-- A living service that answers for every variable but one. -/
def failsFor (name : String) : String → Answer :=
  fun other => if other = name then .failed "Invalid Action" else .value "0"

theorem answersAll_eq_failsFor {name other : String} (hne : other ≠ name) :
    answersAll other = failsFor name other :=
  (if_neg hne).symm

/-- A service with a variable whose enumeration takes the name of another variable. -/
def modes : String :=
  "<scpd><serviceStateTable><stateVariable><name>Mode</name><dataType>string</dataType>" ++
    "<allowedValueList><allowedValue>On</allowedValue><allowedValue>Off</allowedValue>" ++
    "</allowedValueList></stateVariable><stateVariable><name>ModeEnum</name>" ++
    "<dataType>string</dataType></stateVariable></serviceStateTable></scpd>"

theorem modes_withoutPropertiesOf :
    ∃ s, ServiceDescription.parse modes = .ok s ∧
      ∃ v, v.name = "Mode" ∧ (s.stateVariables.values.filter fun w => w.name = v.name) = [v] ∧
        let c := declare .csharp "Modes" s ((tester true (some answersAll)).map (questions s).map)
        let c' := declare .csharp "Modes" s
          ((tester true (some (failsFor "Mode"))).map (questions s).map)
        c.propertiesOf "Mode" = ["Mode", "ModeAsString"] ∧ c'.propertiesOf "Mode" = [] ∧
          c.withoutPropertiesOf "Mode" = c'.withoutPropertiesOf "Mode" := by
  have hparsed : (ServiceDescription.parse modes).map (fun s =>
      let c := declare .csharp "Modes" s ((tester true (some answersAll)).map (questions s).map)
      let c' := declare .csharp "Modes" s
        ((tester true (some (failsFor "Mode"))).map (questions s).map)
      ((s.stateVariables.values.map StateVariable.name).count "Mode",
        c.propertiesOf "Mode", c'.propertiesOf "Mode",
        decide (Clear .csharp (c.propertiesOf "Mode") (c'.withoutPropertiesOf "Mode").memberNames),
        decide (Clear .csharp (c'.propertiesOf "Mode") (c.withoutPropertiesOf "Mode").memberNames)))
      = .ok (1, ["Mode", "ModeAsString"], [], true, true) := by decide +kernel
  obtain ⟨s, hs⟩ : ∃ s, ServiceDescription.parse modes = .ok s := by
    cases hs : ServiceDescription.parse modes with
    | error e => rw [hs] at hparsed; cases hparsed
    | ok s => exact ⟨s, rfl⟩
  rw [hs] at hparsed
  have hfacts := Except.ok.inj hparsed
  simp only [Prod.mk.injEq, decide_eq_true_eq] at hfacts
  obtain ⟨hcount, hproperties, hnone, hclear, hclear'⟩ := hfacts
  obtain ⟨v, hv, hsole⟩ := filter_name_of_map_eq hcount
  have hsame := (declare_withoutPropertiesOf_eq_iff .csharp "Modes" s true hsole
    fun _ hne => answersAll_eq_failsFor (hv ▸ hne)).2
  rw [hv] at hsame
  exact ⟨s, hs, v, hv, hsole, hproperties, hnone, hsame.mpr ⟨hclear, hclear'⟩⟩

/-- A service with an action that is called like a variable. -/
def mute : String :=
  "<scpd><actionList><action><name>Mute</name></action></actionList><serviceStateTable>" ++
    "<stateVariable><name>Mute</name><dataType>boolean</dataType></stateVariable>" ++
    "</serviceStateTable></scpd>"

/-- In either language the action's method gets another name if the variable does not answer. -/
theorem mute_withoutPropertiesOf_ne :
    ∃ s, ServiceDescription.parse mute = .ok s ∧
      ∃ v, v.name = "Mute" ∧ (s.stateVariables.values.filter fun w => w.name = v.name) = [v] ∧
        (∀ name, name ≠ v.name → answersAll name = failsFor "Mute" name) ∧
        ∀ l,
          let c := declare l "Rendering" s
            ((tester true (some answersAll)).map (questions s).map)
          let c' := declare l "Rendering" s
            ((tester true (some (failsFor "Mute"))).map (questions s).map)
          c.methods.map Method.name = ["Mute2"] ∧ c'.methods.map Method.name = ["Mute"] ∧
            c.withoutPropertiesOf "Mute" ≠ c'.withoutPropertiesOf "Mute" := by
  have hparsed : (ServiceDescription.parse mute).map (fun s =>
      let names (l : Language) (probe : String → Answer) :=
        (declare l "Rendering" s ((tester true (some probe)).map (questions s).map)).methods.map
          Method.name
      ((s.stateVariables.values.map StateVariable.name).count "Mute",
        [Language.csharp, .visualBasic].map fun l =>
          (names l answersAll, names l (failsFor "Mute"))))
      = .ok (1, [(["Mute2"], ["Mute"]), (["Mute2"], ["Mute"])]) := by decide +kernel
  obtain ⟨s, hs⟩ : ∃ s, ServiceDescription.parse mute = .ok s := by
    cases hs : ServiceDescription.parse mute with
    | error e => rw [hs] at hparsed; cases hparsed
    | ok s => exact ⟨s, rfl⟩
  rw [hs] at hparsed
  have hfacts := Except.ok.inj hparsed
  simp only [List.map_cons, List.map_nil, Prod.mk.injEq, List.cons.injEq, and_true] at hfacts
  obtain ⟨hcount, ⟨hcsharp, hcsharp'⟩, hbasic, hbasic'⟩ := hfacts
  obtain ⟨v, hv, hsole⟩ := filter_name_of_map_eq hcount
  refine ⟨s, hs, v, hv, hsole, fun _ hne => answersAll_eq_failsFor (hv ▸ hne), fun l => ?_⟩
  intro c c'
  have hnames : c.methods.map Method.name = ["Mute2"] ∧ c'.methods.map Method.name = ["Mute"] := by
    cases l
    · exact ⟨hcsharp, hcsharp'⟩
    · exact ⟨hbasic, hbasic'⟩
  refine ⟨hnames.1, hnames.2, fun heq => ?_⟩
  have hsame : c.methods = c'.methods := (ServiceClass.mk.inj heq).2.2.2.1
  rw [hsame, hnames.2] at hnames
  exact absurd hnames.1 (by decide)

end ServiceClass

end ControlPoint.Class
