import Mathlib
import ControlPoint.Proofs.Class.Draft

namespace ControlPoint.Class

open Description Naming

/-- Where the name of a class is taken and then those of its template, all of them are, also in the
    way in which they are written. -/
theorem contains_imposed {l : Language} {name : String} (hname : IsIdentifier name)
    {reserved : List String} (hbare : ∀ imposed ∈ reserved, l.bareName imposed = imposed) :
    ∀ imposed ∈ l.escape name :: reserved,
      (((Scope.empty l.caseRule).reserve name).reserveAll reserved).contains
        (l.bareName imposed) = true := by
  rw [List.forall_mem_cons]
  constructor
  · rw [l.bareName_escape hname, Scope.contains_reserveAll_iff, Scope.contains_reserve_iff]
    exact .inr (.inl rfl)
  · intro imposed himposed
    rw [hbare imposed himposed, Scope.contains_reserveAll_iff]
    exact .inl ⟨imposed, himposed, rfl⟩

namespace ServiceClass

/-- The names that the class declares at its own level, in the order in which they are given out. -/
def memberNames (c : ServiceClass) : List String :=
  c.members.flatMap VariableMembers.names ++ c.methods.map Method.name

theorem withAnswers_sources (declared : List StateVariable) (answers : Option (List Answer)) :
    (withAnswers declared answers).map Prod.fst = declared := by
  cases answers with
  | none => simp [withAnswers, Function.comp_def]
  | some answers => simp [withAnswers, Function.comp_def, List.zipIdx_map_fst]

/-- The class goes with the description: it has members for every state variable and a method for
    every action, in order, and all names and constants are as they should be. -/
structure Serves (l : Language) (className : String) (s : ServiceDescription) (c : ServiceClass) :
    Prop where
  language : c.language = l
  name : c.name = sanitize .type className
  sources : c.members.map VariableMembers.source = s.stateVariables.values
  actions : c.methods.map Method.source = s.actions.values
  members : ∀ m ∈ c.members, m.Serves l c.constants
  methods : ∀ m ∈ c.methods, m.Serves l c.constants
  constants : c.constants.Valid
  rule : c.constants.names.rule = l.caseRule
  memberNames : ∀ written ∈ c.memberNames, ∃ name, IsTypeName name ∧ written = l.escape name
  namesApart : l.NamesApart c.memberNames (l.escape c.name :: reservedMembers)

theorem declare_eq (l : Language) (className : String) (s : ServiceDescription)
    (answers : Option (List Answer)) :
    declare l className s answers =
      let members := Draft.addVariables l (start l (sanitize .type className))
        (withAnswers s.stateVariables.values answers)
      let methods := Draft.methods l members.2 s.actions.values
      ⟨l, sanitize .type className, members.1, methods.1, methods.2.constants⟩ := by
  unfold declare
  with_reducible rfl

theorem declare_serves (l : Language) (className : String) (s : ServiceDescription)
    (answers : Option (List Answer)) :
    (declare l className s answers).Serves l className s := by
  have hname := sanitize_isIdentifier .type className
  simp only [declare_eq]
  obtain ⟨hmembers, hserves⟩ := Draft.addVariables_spec l (start l (sanitize .type className))
    (withAnswers s.stateVariables.values answers)
  have hsources := Draft.addVariables_sources l (start l (sanitize .type className))
    (withAnswers s.stateVariables.values answers)
  generalize Draft.addVariables _ _ _ = members at hmembers hsources hserves ⊢
  obtain ⟨hmethods, hmethodServes⟩ := Draft.methods_spec l members.2 s.actions.values
  have hmethodSources := Draft.methods_sources l members.2 s.actions.values
  generalize Draft.methods _ _ _ = methods at hmethods hmethodSources hmethodServes ⊢
  have hall := hmembers.trans hmethods
  exact {
    language := rfl
    name := rfl
    sources := hsources.trans (withAnswers_sources _ answers)
    actions := hmethodSources
    members := fun m hm => (hserves m hm).mono hmethods.constants
    methods := hmethodServes
    constants := hall.valid (ConstantPool.valid_empty _)
    rule := hall.rule
    memberNames := by
      obtain ⟨bare, hwritten, hbare, -⟩ := hall.names
      simp only [ServiceClass.memberNames, hwritten, List.forall_mem_map]
      exact fun name hname => ⟨name, hbare name hname, rfl⟩
    namesApart := by
      obtain ⟨bare, hwritten, hbare, hfresh, _⟩ := hall.names
      simp only [ServiceClass.memberNames, hwritten]
      exact Language.namesApart_of_fresh (by simp [Scope.empty])
        (fun name h => (hbare name h).isIdentifier) (contains_imposed hname (by cases l <;> decide))
        hfresh }

/-- Whatever a service describes and whatever a living one answers, no two names in a scope of its
    class get in each other's way: neither at the level of the class, where its own name and those of
    the template stand beside them, nor inside an enumeration, nor inside a method. -/
theorem declare_namesApart (l : Language) (className : String) (s : ServiceDescription)
    (answers : Option (List Answer)) :
    let c := declare l className s answers
    l.NamesApart c.memberNames (l.escape c.name :: reservedMembers) ∧
      (∀ v ∈ c.members, ∀ e ∈ v.enumeration,
        l.NamesApart (e.members.map EnumMember.name) [unknownMember]) ∧
      ∀ m ∈ c.methods, l.NamesApart (m.parameters.map Parameter.name) localNames := by
  have hserves := declare_serves l className s answers
  refine ⟨hserves.namesApart, ?_, ?_⟩
  · intro v hv e he
    exact ((hserves.members v hv).enumeration e he).namesApart
  · intro m hm
    rw [(hserves.methods m hm).parameters]
    exact methodParameters_namesApart l m.source

end ServiceClass

end ControlPoint.Class
