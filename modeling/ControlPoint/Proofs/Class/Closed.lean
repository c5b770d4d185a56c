import Mathlib
import ControlPoint.Proofs.Class.Declarations

namespace ControlPoint.Class

open Description Naming Template

/-- The block is in a region with the title. -/
def Block.IsInRegion (l : Language) (blocks : List Block) (title : String) (b : Block) : Prop :=
  ∃ region ∈ blocks, region.kind = .region ∧ region.text l "name" = title ∧ b ∈ region.inner

/-- Just one block declares the constant, in the region for constants, and it declares it for the
    value. -/
def ConstantIsDeclared (l : Language) (blocks : List Block) (name value : String) : Prop :=
  ∃ b : Block, b.IsSoleDeclaration l constantPlaces blocks name ∧
    b.IsInRegion l blocks "Constants" ∧ b.text l "literal" = l.literal value

/-- Just one block declares a member of the class with the name, and it is of the kind. -/
def MemberIsDeclared (l : Language) (blocks : List Block) (kind : Kind) (name : String) : Prop :=
  ∃ b : Block, b.IsSoleDeclaration l memberPlaces blocks name ∧ b.kind = kind

/-- Just one block declares the enumeration, and just one inside it the member. -/
def EnumMemberIsDeclared (l : Language) (blocks : List Block) (enumeration name : String) : Prop :=
  ∃ b : Block, b.IsSoleDeclaration l memberPlaces blocks enumeration ∧ b.kind = .enumeration ∧
    ∃ m : Block, m.IsSoleDeclaration l enumMemberPlaces b.inner name

/-- The type is one of the language's own or an enumeration of the class. -/
def TypeIsDeclared (l : Language) (blocks : List Block) (name : String) : Prop :=
  (∃ t, name = l.typeFor t) ∨ MemberIsDeclared l blocks .enumeration name

/-- Whatever the block writes that some block has to declare is declared, by one block only. -/
structure Block.IsResolved (l : Language) (blocks : List Block) (b : Block) : Prop where
  constant : b.Prints l "constant" → ConstantIsDeclared l blocks (b.text l "constant") b.subject
  enumeration : b.Prints l "enum_name" →
    MemberIsDeclared l blocks .enumeration (b.text l "enum_name")
  parse : b.Prints l "parse_function" →
    MemberIsDeclared l blocks .enumParse (b.text l "parse_function")
  write : b.Prints l "to_string_function" →
    MemberIsDeclared l blocks .enumToString (b.text l "to_string_function")
  event : b.Prints l "event_name" → MemberIsDeclared l blocks .event (b.text l "event_name")
  raiser : b.Prints l "raiser" → MemberIsDeclared l blocks .eventRaiser (b.text l "raiser")
  member : b.Prints l "member" →
    EnumMemberIsDeclared l blocks (b.text l "enum_name") (b.text l "member")
  unknownMember : b.Prints l "unknown_member" →
    EnumMemberIsDeclared l blocks (b.text l "enum_name") (b.text l "unknown_member")
  valueType : b.Prints l "type" → TypeIsDeclared l blocks (b.text l "type")
  returnType : b.Prints l "return_type" → TypeIsDeclared l blocks (b.text l "return_type")

/-- A constant that was given out is declared by one block, whose subject is its value, wherever the
    constants of a class are all that is declared as such, in the region for them. -/
theorem ConstantPool.Valid.exists_isSoleDeclaration {p : ConstantPool} (hvalid : p.Valid)
    {l : Language} (hrule : p.names.rule = l.caseRule) {blocks : List Block} {v : Visibility}
    (hdeclared : blocks.flatMap (Block.declared l constantPlaces) =
      p.declared.map Constant.identifier)
    (hregion : ∀ part ∈ p.code l v,
      let region := ServiceClass.sectionBlock ("Constants", p.code l v)
      region :: region.inner ⊆ blocks)
    {name groupName value : String} (hhas : p.Has name groupName value) :
    ∃ b : Block, b.IsSoleDeclaration l constantPlaces blocks name ∧
      b.IsInRegion l blocks "Constants" ∧ b.text l "literal" = l.literal value ∧
        b.subject = value := by
  obtain ⟨k, hlookup, rfl, rfl⟩ := hhas
  have hk := ConstantPool.lookup?_mem hlookup
  obtain ⟨group, hgroup, hmem⟩ := List.mem_flatMap.mp hk
  have hdistinct : ((blocks.flatMap (Block.declared l constantPlaces)).map l.nameKey).Nodup := by
    rw [hdeclared, List.map_map]
    have hkeys : p.declared.map (l.nameKey ∘ Constant.identifier) =
        p.declared.map fun k => p.names.rule.fold k.identifier := by
      apply List.map_congr_left
      intro k hk
      rw [hrule]
      exact congrArg _ (l.bareName_of_isIdentifier (hvalid.identifiers k hk))
    rw [hkeys]
    exact hvalid.distinct
  have hpart : ConstantPool.groupCode l v group ∈ p.code l v := List.mem_map_of_mem hgroup
  have hblock : (⟨.constant, k.value, [("scope", l.visibilityWord v), ("name", k.identifier),
      ("literal", l.literal k.value), ("comment", k.comment)]⟩ : Block) ∈
        (ConstantPool.groupCode l v group).blocks := by
    simp only [ConstantPool.groupCode, Code.blocks_block, Code.fieldBlocks_cons,
      Code.blocks_joined]
    apply List.mem_cons_of_mem
    refine List.mem_append_right _ (List.mem_append_left _ ?_)
    exact List.mem_flatMap.mpr ⟨_, List.mem_map_of_mem hmem, List.mem_cons_self ..⟩
  have hinner : _ ∈ (ServiceClass.sectionBlock ("Constants", p.code l v)).inner :=
    ServiceClass.mem_inner_sectionBlock hpart hblock
  refine ⟨_, Block.isSoleDeclaration_of_nodup hdistinct
    (hregion _ hpart (List.mem_cons_of_mem _ hinner)) ?_, ?_, ?_, rfl⟩
  · simp [Block.declared, constantPlaces]
  · refine ⟨_, hregion _ hpart (List.mem_cons_self ..), rfl, ?_, hinner⟩
    simp [ServiceClass.sectionBlock]
  · simp

namespace ServiceClass

variable {l : Language} {className : String} {s : ServiceDescription} {c : ServiceClass}

/-- A constant that was given out is declared by one block, whose subject is its value. -/
theorem constant_isSoleDeclaration (hserves : c.Serves l className s) (o : Options)
    {name groupName value : String} (hhas : c.constants.Has name groupName value) :
    ∃ b : Block, b.IsSoleDeclaration c.language constantPlaces (c.code o).blocks name ∧
      b.IsInRegion c.language (c.code o).blocks "Constants" ∧
        b.text c.language "literal" = c.language.literal value ∧ b.subject = value := by
  have hrule : c.constants.names.rule = c.language.caseRule := by
    rw [hserves.rule, hserves.language]
  exact hserves.constants.exists_isSoleDeclaration hrule (c.declared_constants o c.language)
    (fun _ hpart => c.sectionBlock_subset o (List.mem_cons_self ..) hpart) hhas

theorem constant_isDeclared (hserves : c.Serves l className s) (o : Options)
    {name group value : String} (hhas : c.constants.Has name group value) :
    ConstantIsDeclared c.language (c.code o).blocks name value := by
  obtain ⟨b, hsole, hregion, hliteral, -⟩ := constant_isSoleDeclaration hserves o hhas
  exact ⟨b, hsole, hregion, hliteral⟩

theorem member_isSoleDeclaration (hserves : c.Serves l className s) (o : Options) {b : Block}
    (hb : b ∈ (c.code o).blocks) {name : String}
    (hname : name ∈ b.declared c.language memberPlaces) :
    b.IsSoleDeclaration c.language memberPlaces (c.code o).blocks name := by
  have htext : ∀ v ∈ c.members, v.textProperty.isSome →
      v.enumeration.isSome ∧ v.property.isSome := by
    intro v hv hsome
    have hmember := hserves.members v hv
    rw [hmember.textProperty, Bool.and_eq_true] at hsome
    exact ⟨hmember.enumerated.trans hsome.2, hsome.1⟩
  have hperm := (c.declared_members_perm o c.language htext).map c.language.nameKey
  have hdistinct := hserves.namesApart.distinctBare
  rw [← hserves.language] at hdistinct
  exact Block.isSoleDeclaration_of_nodup (hperm.nodup_iff.mpr hdistinct) hb hname

theorem enumerationCodes_subset (o : Options) {v : VariableMembers} (hv : v ∈ c.members)
    {e : EnumType} (he : e ∈ v.enumeration) {part : Code} (hpart : part ∈ c.enumerationCodes o v e)
    {b : Block} (hb : b ∈ part.blocks) : b ∈ (c.code o).blocks := by
  have hsection : ("Enumerations", c.enumerationsCode o) ∈ c.sections o := by
    simp [sections]
  apply c.mem_blocks_of_part o hsection (List.mem_map_of_mem (c.mem_enumerated.mpr ⟨hv, he⟩))
  rw [Code.blocks_joined]
  exact List.mem_flatMap.mpr ⟨part, hpart, hb⟩

theorem eventCodes_subset (o : Options) {v : VariableMembers} (hv : v ∈ c.members)
    {e : Event} (he : e ∈ v.event) {part : Code} (hpart : part ∈ c.eventCodes o v e)
    {b : Block} (hb : b ∈ part.blocks) : b ∈ (c.code o).blocks := by
  have hsection : ("Events", c.eventsCode o) ∈ c.sections o := by
    simp [sections]
  apply c.mem_blocks_of_part o hsection
    (List.mem_append_left _ (List.mem_map_of_mem (c.mem_evented.mpr ⟨hv, he⟩)))
  rw [Code.blocks_joined]
  exact List.mem_flatMap.mpr ⟨part, hpart, hb⟩

theorem enumerationCode_isSoleDeclaration (hserves : c.Serves l className s) (o : Options)
    {v : VariableMembers} (hv : v ∈ c.members) {e : EnumType} (he : e ∈ v.enumeration) {kind : Kind}
    {subject : String} {fields : List (String × Code)}
    (hpart : .block kind subject fields ∈ c.enumerationCodes o v e) {name : String}
    (hname : name ∈ (Block.mk kind subject fields).declared c.language memberPlaces) :
    (Block.mk kind subject fields).IsSoleDeclaration c.language memberPlaces (c.code o).blocks name :=
  member_isSoleDeclaration hserves o
    (enumerationCodes_subset o hv he hpart (List.mem_cons_self ..)) hname

theorem eventCode_isSoleDeclaration (hserves : c.Serves l className s) (o : Options)
    {v : VariableMembers} (hv : v ∈ c.members) {e : Event} (he : e ∈ v.event) {kind : Kind}
    {subject : String} {fields : List (String × Code)}
    (hpart : .block kind subject fields ∈ c.eventCodes o v e) {name : String}
    (hname : name ∈ (Block.mk kind subject fields).declared c.language memberPlaces) :
    (Block.mk kind subject fields).IsSoleDeclaration c.language memberPlaces (c.code o).blocks name :=
  member_isSoleDeclaration hserves o (eventCodes_subset o hv he hpart (List.mem_cons_self ..)) hname

/-- The three members of the class that make up an enumeration are declared. -/
theorem enumeration_isDeclared (hserves : c.Serves l className s) (o : Options)
    {v : VariableMembers} (hv : v ∈ c.members) {e : EnumType} (he : e ∈ v.enumeration) :
    MemberIsDeclared c.language (c.code o).blocks .enumeration e.name ∧
      MemberIsDeclared c.language (c.code o).blocks .enumParse e.parseFunction ∧
        MemberIsDeclared c.language (c.code o).blocks .enumToString e.toStringFunction := by
  have hsole {kind : Kind} {subject : String} {fields : List (String × Code)}
      (hpart : .block kind subject fields ∈ c.enumerationCodes o v e) {name : String}
      (hname : name ∈ (Block.mk kind subject fields).declared c.language memberPlaces) :
      MemberIsDeclared c.language (c.code o).blocks kind name :=
    ⟨_, enumerationCode_isSoleDeclaration hserves o hv he hpart hname, rfl⟩
  refine ⟨hsole (List.mem_cons_self ..) ?_,
    hsole (List.mem_cons_of_mem _ (List.mem_cons_self ..)) ?_,
    hsole (List.mem_cons_of_mem _ (List.mem_cons_of_mem _ (List.mem_cons_self ..))) ?_⟩
  all_goals simp [Block.declared, memberPlaces]

/-- An event and its raiser are declared. -/
theorem event_isDeclared (hserves : c.Serves l className s) (o : Options)
    {v : VariableMembers} (hv : v ∈ c.members) {e : Event} (he : e ∈ v.event) :
    MemberIsDeclared c.language (c.code o).blocks .event e.name ∧
      MemberIsDeclared c.language (c.code o).blocks .eventRaiser e.raiser := by
  refine ⟨⟨_, eventCode_isSoleDeclaration hserves o hv he (List.mem_cons_self ..) ?_, rfl⟩,
    ⟨_, eventCode_isSoleDeclaration hserves o hv he
      (List.mem_cons_of_mem _ (List.mem_cons_self ..)) ?_, rfl⟩⟩
  all_goals simp [Block.declared, memberPlaces]

/-- The members of an enumeration and the one for unknown values are declared inside it. -/
theorem enumMember_isDeclared (hserves : c.Serves l className s) (o : Options)
    {v : VariableMembers} (hv : v ∈ c.members) {e : EnumType} (he : e ∈ v.enumeration)
    {name : String} (hname : name ∈ e.members.map EnumMember.name ++ [unknownMember]) :
    EnumMemberIsDeclared c.language (c.code o).blocks e.name name := by
  have hapart := ((hserves.members v hv).enumeration e he).namesApart
  rw [← hserves.language] at hapart
  have hdistinct : ((e.members.map EnumMember.name ++ [unknownMember]).map
      c.language.nameKey).Nodup := by
    rw [List.map_append, List.nodup_append]
    refine ⟨hapart.distinctBare, List.nodup_singleton _, ?_⟩
    intro a ha b hb
    obtain ⟨member, hmember, rfl⟩ := List.mem_map.mp ha
    obtain ⟨unknown, hunknown, rfl⟩ := List.mem_map.mp hb
    exact hapart.apartBare member hmember unknown hunknown
  refine ⟨_, member_isSoleDeclaration hserves o
    (enumerationCodes_subset o hv he (List.mem_cons_self ..) (List.mem_cons_self ..)) ?_, rfl, ?_⟩
  · simp [Block.declared, memberPlaces]
  · refine ⟨⟨.enumMember, name, [("name", name)]⟩, Block.isSoleDeclaration_of_nodup ?_ ?_ ?_⟩
    · simpa [Block.inner, docCode, memberCode, Block.declared, enumMemberPlaces,
        List.flatMap_map, ← List.map_eq_flatMap] using hdistinct
    · simpa [Block.inner, docCode, memberCode, List.flatMap_map, ← List.map_eq_flatMap, eq_comm]
        using hname
    · simp [Block.declared, enumMemberPlaces]

theorem unknownMember_isDeclared (hserves : c.Serves l className s) (o : Options)
    {v : VariableMembers} (hv : v ∈ c.members) {e : EnumType} (he : e ∈ v.enumeration) :
    EnumMemberIsDeclared c.language (c.code o).blocks e.name unknownMember :=
  enumMember_isDeclared hserves o hv he (List.mem_append_right _ (List.mem_singleton_self _))

theorem plainType_isDeclared (hserves : c.Serves l className s) (blocks : List Block)
    {v : VariableMembers} (hv : v ∈ c.members) :
    TypeIsDeclared c.language blocks v.plainType := by
  rw [(hserves.members v hv).plainType, hserves.language]
  exact .inl ⟨_, rfl⟩

theorem exposedType_isDeclared (hserves : c.Serves l className s) (o : Options)
    {v : VariableMembers} (hv : v ∈ c.members) :
    TypeIsDeclared c.language (c.code o).blocks v.exposedType := by
  unfold VariableMembers.exposedType
  split
  · exact .inr (enumeration_isDeclared hserves o hv ‹_›).1
  · exact plainType_isDeclared hserves _ hv

theorem argumentType_isDeclared (hserves : c.Serves l className s) (o : Options) (a : Argument) :
    TypeIsDeclared c.language (c.code o).blocks (c.argumentType a) := by
  unfold argumentType
  split
  case h_1 v hv =>
    obtain ⟨i, -, hv⟩ := Option.bind_eq_some_iff.mp hv
    exact exposedType_isDeclared hserves o (List.mem_of_getElem? hv)
  case h_2 => exact .inl ⟨none, rfl⟩

/-! ### What each block writes -/

/-- Most kinds of blocks write nothing that is declared elsewhere. -/
theorem isResolved_of_places {l : Language} {blocks : List Block} {b : Block}
    (hplaces : ∀ place ∈ b.kind.places, place ∉ ["constant", "enum_name", "parse_function",
      "to_string_function", "event_name", "raiser", "member", "unknown_member", "type",
      "return_type"]) : b.IsResolved l blocks := by
  constructor
  all_goals
    intro hprints
    exact absurd (by simp) (hplaces _ hprints.mem_places)

theorem resolved_groupCode (l : Language) (v : Visibility) (group : String × List Constant)
    {l' : Language} {blocks : List Block} :
    ∀ b ∈ (ConstantPool.groupCode l v group).blocks, b.IsResolved l' blocks := by
  simp only [ConstantPool.groupCode, ConstantPool.constantCode, Code.blocks_block,
    Code.fieldBlocks_cons, Code.blocks_joined, Code.blocks_value, Code.fieldBlocks_nil,
    List.append_nil, List.nil_append, List.forall_mem_cons, List.forall_mem_flatMap,
    List.forall_mem_map]
  refine ⟨isResolved_of_places (by simp [Kind.places]), fun k _ => ?_⟩
  exact ⟨isResolved_of_places (by simp [Kind.places]), by simp⟩

/-- The member at a position stands for the allowed value at that position. -/
theorem member_constant (hserves : c.Serves l className s) {v : VariableMembers}
    (hv : v ∈ c.members) {e : EnumType} (he : e ∈ v.enumeration) {m : EnumMember} {i : Nat}
    (hm : e.members[i]? = some m) :
    c.constants.Has m.constant (ConstantPool.allowedValues v.source.name)
      (v.source.valueList.eraseDups[i]?.getD "") := by
  have hconstants := ((hserves.members v hv).enumeration e he).constants
  rw [List.forall₂_iff_get] at hconstants
  obtain ⟨hlength, hconstants⟩ := hconstants
  obtain ⟨hi, rfl⟩ := List.getElem?_eq_some_iff.mp hm
  have hi' : i < v.source.valueList.eraseDups.length := hlength ▸ hi
  rw [List.getElem?_eq_getElem hi', Option.getD_some]
  exact hconstants i hi hi'

theorem resolved_docCode (l : Language) (blocks : List Block) (summary remarks : String) :
    ∀ b ∈ (docCode summary remarks).blocks, b.IsResolved l blocks := by
  simp only [docCode, Code.blocks_block, Code.fieldBlocks_cons, Code.blocks_value,
    Code.fieldBlocks_nil, List.append_nil, List.forall_mem_singleton]
  exact isResolved_of_places (by simp [Kind.places])

theorem resolved_case (hserves : c.Serves l className s) (o : Options) {v : VariableMembers}
    (hv : v ∈ c.members) {e : EnumType} (he : e ∈ v.enumeration) {kind : Kind}
    (hkind : kind.places = Kind.enumParseCase.places) {m : EnumMember} {i : Nat}
    (hm : e.members[i]? = some m) :
    (⟨kind, v.source.valueList.eraseDups[i]?.getD "",
      [("enum_name", e.name), ("member", m.name), ("constant", m.constant)]⟩ :
        Block).IsResolved c.language (c.code o).blocks := by
  constructor
  case constant =>
    intro _
    simpa using constant_isDeclared hserves o (member_constant hserves hv he hm)
  case enumeration =>
    intro _
    simpa using (enumeration_isDeclared hserves o hv he).1
  case member =>
    intro _
    have hname : m.name ∈ e.members.map EnumMember.name ++ [unknownMember] :=
      List.mem_append_left _ (List.mem_map_of_mem (List.mem_of_getElem? hm))
    simpa using enumMember_isDeclared hserves o hv he hname
  all_goals
    intro hprints
    have hmem : _ ∈ Kind.enumParseCase.places := hkind ▸ hprints.mem_places
    exact absurd hmem (by decide)

theorem resolved_branch (hserves : c.Serves l className s) (o : Options) {v : VariableMembers}
    (hv : v ∈ c.members) {e : Event} (he : e ∈ v.event) :
    (⟨.dispatchBranch, v.source.name, [("constant", v.constant), ("raiser", e.raiser),
      ("type", v.exposedType), ("enumerated", v.enumeration.isSome),
      ("parse_function", parseFunction v.enumeration)]⟩ : Block).IsResolved c.language
        (c.code o).blocks := by
  constructor
  case constant =>
    intro _
    simpa using constant_isDeclared hserves o (hserves.members v hv).constant
  case raiser =>
    intro _
    simpa using (event_isDeclared hserves o hv he).2
  case valueType =>
    intro _
    simpa using exposedType_isDeclared hserves o hv
  case parse =>
    intro hprints
    cases henumeration : v.enumeration with
    | none =>
      exact absurd hprints (Block.not_prints_function (by simp) (by simp [henumeration]) (by simp))
    | some e => simpa [parseFunction] using (enumeration_isDeclared hserves o hv henumeration).2.1
  all_goals
    intro hprints
    exact absurd hprints.mem_places (by simp [Kind.places])

theorem resolved_enumerationCodes (hserves : c.Serves l className s) (o : Options)
    {v : VariableMembers} (hv : v ∈ c.members) {e : EnumType} (he : e ∈ v.enumeration) :
    ∀ part ∈ c.enumerationCodes o v e, ∀ b ∈ part.blocks,
      b.IsResolved c.language (c.code o).blocks := by
  have hdeclared := enumeration_isDeclared hserves o hv he
  have hunknown := unknownMember_isDeclared hserves o hv he
  have hcases {kind : Kind} (hkind : kind.places = Kind.enumParseCase.places) :
      ∀ b ∈ (caseCodes kind v.source e).flatMap Code.blocks,
        b.IsResolved c.language (c.code o).blocks := by
    intro b hb
    obtain ⟨m, i, hm, rfl⟩ := mem_caseBlocks.mp hb
    exact resolved_case hserves o hv he hkind hm
  simp only [enumerationCodes, List.forall_mem_cons, Code.blocks_block, Code.fieldBlocks_cons,
    Code.blocks_value, Code.blocks_joined, Code.fieldBlocks_nil, List.append_nil, List.nil_append,
    List.forall_mem_append]
  refine ⟨⟨?enumeration, resolved_docCode _ _ _ _, ?members⟩, ⟨?parse, hcases rfl⟩,
    ⟨?write, hcases rfl⟩, by simp⟩
  case enumeration => exact isResolved_of_places (by simp [Kind.places])
  case members =>
    intro b hb
    simp only [memberCode, List.flatMap_map, List.mem_flatMap, Code.blocks_block,
      Code.fieldBlocks_cons, Code.blocks_value, Code.fieldBlocks_nil, List.append_nil,
      List.mem_singleton] at hb
    obtain ⟨name, -, rfl⟩ := hb
    exact isResolved_of_places (by simp [Kind.places])
  case parse =>
    constructor
    case enumeration =>
      intro _
      simpa using hdeclared.1
    case unknownMember =>
      intro _
      simpa using hunknown
    all_goals
      intro hprints
      exact absurd hprints.mem_places (by simp [Kind.places])
  case write =>
    constructor
    case enumeration =>
      intro _
      simpa using hdeclared.1
    all_goals
      intro hprints
      exact absurd hprints.mem_places (by simp [Kind.places])

theorem resolved_propertyCode (hserves : c.Serves l className s) (o : Options)
    {v : VariableMembers} (hv : v ∈ c.members) (property : String) :
    ∀ b ∈ (c.propertyCode o v property).blocks, b.IsResolved c.language (c.code o).blocks := by
  have hconstant := constant_isDeclared hserves o (hserves.members v hv).constant
  unfold propertyCode
  split
  case h_1 e text he htext =>
    have hdeclared := enumeration_isDeclared hserves o hv he
    have hunknown := unknownMember_isDeclared hserves o hv he
    simp only [Code.blocks_block, Code.fieldBlocks_cons, Code.blocks_value, Code.fieldBlocks_nil,
      List.append_nil, List.forall_mem_cons, List.forall_mem_append]
    refine ⟨?_, resolved_docCode _ _ _ _, resolved_docCode _ _ _ _⟩
    constructor
    case constant =>
      intro _
      simpa using hconstant
    case enumeration =>
      intro _
      simpa using hdeclared.1
    case parse =>
      intro _
      simpa using hdeclared.2.1
    case unknownMember =>
      intro _
      simpa using hunknown
    all_goals
      intro hprints
      exact absurd hprints.mem_places (by simp [Kind.places])
  case h_2 =>
    simp only [Code.blocks_block, Code.fieldBlocks_cons, Code.blocks_value, Code.fieldBlocks_nil,
      List.append_nil, List.forall_mem_cons]
    refine ⟨?_, resolved_docCode _ _ _ _⟩
    constructor
    case constant =>
      intro _
      simpa using hconstant
    case valueType =>
      intro _
      simpa using plainType_isDeclared hserves _ hv
    all_goals
      intro hprints
      exact absurd hprints.mem_places (by simp [Kind.places])

theorem resolved_eventCodes (hserves : c.Serves l className s) (o : Options)
    {v : VariableMembers} (hv : v ∈ c.members) {e : Event} (he : e ∈ v.event) :
    ∀ part ∈ c.eventCodes o v e, ∀ b ∈ part.blocks,
      b.IsResolved c.language (c.code o).blocks := by
  have htype := exposedType_isDeclared hserves o hv
  simp only [eventCodes, List.forall_mem_cons, Code.blocks_block, Code.fieldBlocks_cons,
    Code.blocks_value, Code.fieldBlocks_nil, List.append_nil]
  refine ⟨⟨?event, resolved_docCode _ _ _ _⟩, ⟨?raiser, by simp⟩, by simp⟩
  case event =>
    constructor
    case valueType =>
      intro _
      simpa using htype
    all_goals
      intro hprints
      exact absurd hprints.mem_places (by simp [Kind.places])
  case raiser =>
    constructor
    case event =>
      intro _
      simpa using (event_isDeclared hserves o hv he).1
    case valueType =>
      intro _
      simpa using htype
    all_goals
      intro hprints
      exact absurd hprints.mem_places (by simp [Kind.places])

theorem resolved_dispatcherCode (hserves : c.Serves l className s) (o : Options) :
    ∀ b ∈ c.dispatcherCode.blocks, b.IsResolved c.language (c.code o).blocks := by
  simp only [dispatcherCode, branchCode, Code.blocks_block, Code.fieldBlocks_cons,
    Code.blocks_joined, Code.blocks_value, Code.fieldBlocks_nil, List.append_nil,
    List.forall_mem_cons, List.forall_mem_flatMap, List.forall_mem_map]
  refine ⟨isResolved_of_places (by simp [Kind.places]), ?_⟩
  rintro ⟨v, e⟩ hv
  obtain ⟨hv, he⟩ := c.mem_evented.mp hv
  exact ⟨resolved_branch hserves o hv he, by simp⟩

/-- The enumeration of an argument's values is that of a variable. -/
theorem mem_of_argumentEnum? {a : Argument} {e : EnumType} (he : c.argumentEnum? a = some e) :
    ∃ v ∈ c.members, e ∈ v.enumeration := by
  obtain ⟨v, hv, he⟩ := Option.bind_eq_some_iff.mp he
  obtain ⟨i, -, hv⟩ := Option.bind_eq_some_iff.mp hv
  exact ⟨v, List.mem_of_getElem? hv, he⟩

theorem resolved_parameterCode (hserves : c.Serves l className s) (o : Options) (isOut : Bool)
    (p : Parameter) :
    ∀ b ∈ (c.parameterCode isOut p).blocks, b.IsResolved c.language (c.code o).blocks := by
  simp only [parameterCode, Code.blocks_block, Code.fieldBlocks_cons, Code.blocks_value,
    Code.fieldBlocks_nil, List.append_nil, List.forall_mem_singleton]
  constructor
  case valueType =>
    intro _
    simpa using argumentType_isDeclared hserves o p.source
  all_goals
    intro hprints
    exact absurd hprints.mem_places (by simp [Kind.places])

theorem resolved_inputCode (hserves : c.Serves l className s) (o : Options) (p : Parameter)
    (index : Nat) :
    ∀ b ∈ (c.inputCode p index).blocks, b.IsResolved c.language (c.code o).blocks := by
  simp only [inputCode, Code.blocks_block, Code.fieldBlocks_cons, Code.blocks_value,
    Code.fieldBlocks_nil, List.append_nil, List.forall_mem_singleton]
  constructor
  case write =>
    intro hprints
    cases henum : c.argumentEnum? p.source with
    | none =>
      exact absurd hprints (Block.not_prints_function (by simp) (by simp [henum]) (by simp))
    | some e =>
      obtain ⟨v, hv, he⟩ := mem_of_argumentEnum? henum
      simpa [toStringFunction] using (enumeration_isDeclared hserves o hv he).2.2
  all_goals
    intro hprints
    exact absurd hprints.mem_places (by simp [Kind.places])

theorem resolved_outputCode (hserves : c.Serves l className s) (o : Options) (p : Parameter)
    (index : Nat) :
    ∀ b ∈ (c.outputCode p index).blocks, b.IsResolved c.language (c.code o).blocks := by
  simp only [outputCode, Code.blocks_block, Code.fieldBlocks_cons, Code.blocks_value,
    Code.fieldBlocks_nil, List.append_nil, List.forall_mem_singleton]
  constructor
  case parse =>
    intro hprints
    cases henum : c.argumentEnum? p.source with
    | none =>
      exact absurd hprints (Block.not_prints_function (by simp) (by simp [henum]) (by simp))
    | some e =>
      obtain ⟨v, hv, he⟩ := mem_of_argumentEnum? henum
      simpa [parseFunction] using (enumeration_isDeclared hserves o hv he).2.1
  case valueType =>
    intro _
    simpa using argumentType_isDeclared hserves o p.source
  all_goals
    intro hprints
    exact absurd hprints.mem_places (by simp [Kind.places])

theorem resolved_resultCode (hserves : c.Serves l className s) (o : Options) (p : Parameter)
    (index : Nat) :
    ∀ b ∈ (c.resultCode p index).blocks, b.IsResolved c.language (c.code o).blocks := by
  simp only [resultCode, Code.blocks_block, Code.fieldBlocks_cons, Code.blocks_value,
    Code.fieldBlocks_nil, List.append_nil, List.nil_append, List.forall_mem_cons]
  exact ⟨isResolved_of_places (by simp [Kind.places]), resolved_outputCode hserves o p index⟩

theorem resolved_callFields (hserves : c.Serves l className s) (o : Options) (m : Method) :
    ∀ b ∈ Code.fieldBlocks (c.callFields o m), b.IsResolved c.language (c.code o).blocks := by
  simp only [callFields, Code.fieldBlocks_cons, Code.blocks_value, Code.blocks_joined,
    Code.fieldBlocks_nil, List.append_nil, List.nil_append, List.forall_mem_append,
    List.forall_mem_flatMap, List.forall_mem_map]
  exact ⟨resolved_docCode _ _ _ _, fun p _ => resolved_inputCode hserves o p.1 p.2⟩

theorem resolved_returnFields (hserves : c.Serves l className s) (o : Options) (m : Method)
    (single : Parameter) (index : Nat) :
    ∀ b ∈ Code.fieldBlocks (c.returnFields m single index),
      b.IsResolved c.language (c.code o).blocks := by
  simp only [returnFields, Code.fieldBlocks_cons, Code.blocks_value, Code.blocks_joined,
    Code.fieldBlocks_nil, List.append_nil, List.nil_append, List.forall_mem_append,
    List.forall_mem_flatMap, List.forall_mem_map]
  exact ⟨fun p _ => resolved_parameterCode hserves o false p.1,
    resolved_outputCode hserves o single index⟩

theorem resolved_outFields (hserves : c.Serves l className s) (o : Options) (m : Method)
    (outs : List (Parameter × Nat)) :
    ∀ b ∈ Code.fieldBlocks (c.outFields m outs), b.IsResolved c.language (c.code o).blocks := by
  simp only [outFields, Code.fieldBlocks_cons, Code.blocks_joined, Code.fieldBlocks_nil,
    List.append_nil, List.forall_mem_append, List.forall_mem_flatMap, List.forall_mem_map]
  exact ⟨fun p _ => resolved_parameterCode hserves o p.source.isOutput p,
    fun p _ => resolved_resultCode hserves o p.1 p.2⟩

theorem resolved_methodCode (hserves : c.Serves l className s) (o : Options) {m : Method}
    (hm : m ∈ c.methods) :
    ∀ b ∈ (c.methodCode o m).blocks, b.IsResolved c.language (c.code o).blocks := by
  have hconstant := constant_isDeclared hserves o (hserves.methods m hm).constant
  unfold methodCode
  split
  case h_1 single index _ =>
    rw [Code.blocks_block, Code.fieldBlocks_append, List.forall_mem_cons, List.forall_mem_append]
    refine ⟨?_, resolved_callFields hserves o m, resolved_returnFields hserves o m single index⟩
    constructor
    case constant =>
      intro _
      simpa [callFields] using hconstant
    case returnType =>
      intro _
      simpa [callFields, returnFields] using argumentType_isDeclared hserves o single.source
    all_goals
      intro hprints
      exact absurd hprints.mem_places (by simp [Kind.places])
  case h_2 =>
    rw [Code.blocks_block, Code.fieldBlocks_append, List.forall_mem_cons, List.forall_mem_append]
    refine ⟨?_, resolved_callFields hserves o m, resolved_outFields hserves o m _⟩
    constructor
    case constant =>
      intro _
      simpa [callFields] using hconstant
    all_goals
      intro hprints
      exact absurd hprints.mem_places (by simp [Kind.places])

/-- Whatever the code of the class refers to is declared in it. -/
theorem code_isResolved (hserves : c.Serves l className s) (o : Options) :
    ∀ b ∈ (c.code o).blocks, b.IsResolved c.language (c.code o).blocks := by
  intro b hb
  rcases c.part_of_mem_blocks o hb with hkind | ⟨entry, hentry, part, hpart, hb⟩
  · apply isResolved_of_places
    generalize b.kind = kind at hkind ⊢
    revert kind
    decide
  · simp only [sections, List.mem_cons, List.not_mem_nil, or_false] at hentry
    rcases hentry with rfl | rfl | rfl | rfl | rfl
    · obtain ⟨group, -, rfl⟩ := List.mem_map.mp hpart
      exact resolved_groupCode _ _ group b hb
    · obtain ⟨⟨v, e⟩, hv, rfl⟩ := List.mem_map.mp hpart
      obtain ⟨hv, he⟩ := c.mem_enumerated.mp hv
      rw [Code.blocks_joined] at hb
      obtain ⟨part, hpart, hb⟩ := List.mem_flatMap.mp hb
      exact resolved_enumerationCodes hserves o hv he part hpart b hb
    · obtain ⟨⟨v, property⟩, hv, rfl⟩ := List.mem_map.mp hpart
      exact resolved_propertyCode hserves o (c.mem_accessible.mp hv).1 property b hb
    · rcases List.mem_append.mp hpart with hpart | hpart
      · obtain ⟨⟨v, e⟩, hv, rfl⟩ := List.mem_map.mp hpart
        obtain ⟨hv, he⟩ := c.mem_evented.mp hv
        rw [Code.blocks_joined] at hb
        obtain ⟨part, hpart, hb⟩ := List.mem_flatMap.mp hb
        exact resolved_eventCodes hserves o hv he part hpart b hb
      · rw [List.mem_singleton] at hpart
        subst hpart
        exact resolved_dispatcherCode hserves o b hb
    · obtain ⟨m, hm, rfl⟩ := List.mem_map.mp hpart
      exact resolved_methodCode hserves o hm b hb

end ServiceClass

end ControlPoint.Class
