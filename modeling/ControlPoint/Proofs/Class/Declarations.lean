import Mathlib
import ControlPoint.Proofs.Class.ServiceCode
import ControlPoint.Proofs.Class.ServiceNames

namespace ControlPoint.Class

open Description Template

/-- The places at which blocks declare the members of a class. -/
def memberPlaces : Kind → List String
  | .enumeration => ["name"]
  | .enumParse => ["function_name"]
  | .enumToString => ["function_name"]
  | .property => ["name"]
  | .enumProperty => ["name", "string_name"]
  | .event => ["name"]
  | .eventRaiser => ["name"]
  | .singleReturnAction => ["name"]
  | .multiOutAction => ["name"]
  | _ => []

/-- The place at which blocks declare the constants of a class. -/
def constantPlaces : Kind → List String
  | .constant => ["name"]
  | _ => []

/-- The place at which blocks declare the members of an enumeration. -/
def enumMemberPlaces : Kind → List String
  | .enumMember => ["name"]
  | _ => []

/-- The names that code declares at some places, in order. -/
def Code.declared (l : Language) (places : Kind → List String) (c : Code) : List String :=
  c.blocks.flatMap (Block.declared l places)

namespace Code

variable (l : Language) (places : Kind → List String)

@[simp] theorem declared_value (v : Value) : declared l places (.value v) = [] := rfl

@[simp] theorem declared_block (kind : Kind) (subject : String) (fields : List (String × Code)) :
    declared l places (.block kind subject fields) =
      (Block.mk kind subject fields).declared l places ++
        fields.flatMap fun field => field.2.declared l places := by
  rw [declared, blocks_block, List.flatMap_cons]
  congr 1
  induction fields with
  | nil => rfl
  | cons field rest ih => rw [fieldBlocks_cons, List.flatMap_append, List.flatMap_cons, ih, declared]

@[simp] theorem declared_joined (separator : String) (parts : List Code) :
    declared l places (.joined separator parts) = parts.flatMap (declared l places) := by
  rw [declared, blocks_joined, List.flatMap_assoc]
  rfl

/-- All blocks of the code are of certain kinds. -/
def KindsIn (kinds : List Kind) (c : Code) : Prop :=
  ∀ b ∈ c.blocks, b.kind ∈ kinds

variable {kinds : List Kind}

@[simp] theorem kindsIn_value (v : Value) : KindsIn kinds (.value v) := by
  simp [KindsIn]

@[simp] theorem kindsIn_block (kind : Kind) (subject : String) (fields : List (String × Code)) :
    KindsIn kinds (.block kind subject fields) ↔
      kind ∈ kinds ∧ ∀ field ∈ fields, field.2.KindsIn kinds := by
  have hfields : (∀ b ∈ fieldBlocks fields, b.kind ∈ kinds) ↔
      ∀ field ∈ fields, field.2.KindsIn kinds := by
    induction fields with
    | nil => simp
    | cons field rest ih =>
      rw [fieldBlocks_cons, List.forall_mem_append, List.forall_mem_cons, ih, KindsIn]
  rw [KindsIn, blocks_block, List.forall_mem_cons, hfields]

@[simp] theorem kindsIn_joined (separator : String) (parts : List Code) :
    KindsIn kinds (.joined separator parts) ↔ ∀ part ∈ parts, part.KindsIn kinds := by
  rw [KindsIn, blocks_joined, List.forall_mem_flatMap]
  rfl

variable {parts : List Code}

theorem declared_eq_nil (hkinds : ∀ part ∈ parts, part.KindsIn kinds)
    (hplaces : ∀ kind ∈ kinds, places kind = []) : parts.flatMap (declared l places) = [] := by
  rw [List.flatMap_eq_nil_iff]
  intro part hpart
  rw [declared, List.flatMap_eq_nil_iff]
  intro b hb
  rw [Block.declared, hplaces b.kind (hkinds part hpart b hb), List.map_nil]

theorem filter_eq_nil (isWanted : Kind → Bool) (hkinds : ∀ part ∈ parts, part.KindsIn kinds)
    (hwanted : ∀ kind ∈ kinds, isWanted kind = false) :
    (parts.flatMap fun part => part.blocks.filter fun b => isWanted b.kind) = [] := by
  rw [List.flatMap_eq_nil_iff]
  intro part hpart
  rw [List.filter_eq_nil_iff]
  intro b hb
  simp [hwanted b.kind (hkinds part hpart b hb)]

/-- A region declares nothing but what is in it. -/
theorem declared_regionCode (hregion : places .region = []) (title : String) (parts : List Code) :
    (regionCode title parts).flatMap (declared l places) = parts.flatMap (declared l places) := by
  cases parts <;> simp [regionCode, Block.declared, hregion]

theorem filter_regionCode (isWanted : Kind → Bool) (hregion : isWanted .region = false)
    (title : String) (parts : List Code) :
    ((regionCode title parts).flatMap fun part => part.blocks.filter fun b => isWanted b.kind) =
      parts.flatMap fun part => part.blocks.filter fun b => isWanted b.kind := by
  unfold regionCode
  cases parts <;> simp [hregion, List.filter_flatMap]

end Code

theorem ConstantPool.declared_code (l l' : Language) (v : Visibility) (p : ConstantPool) :
    (p.code l v).flatMap (Code.declared l' constantPlaces) =
      p.declared.map Constant.identifier := by
  simp [ConstantPool.code, ConstantPool.groupCode, ConstantPool.constantCode, Block.declared,
    constantPlaces, List.flatMap_map, ConstantPool.declared, List.map_flatMap, ← List.map_eq_flatMap]

namespace ServiceClass

variable (c : ServiceClass) (o : Options)

/-- Nothing outside the sections declares anything. -/
theorem declared_code (l : Language) {places : Kind → List String}
    (hplaces : ∀ kind ∈ [Kind.serviceClass, Kind.region, Kind.docComment], places kind = []) :
    (c.code o).declared l places =
      (c.sections o).flatMap fun entry => entry.2.flatMap (Code.declared l places) := by
  simp only [List.forall_mem_cons] at hplaces
  obtain ⟨hclass, hregion, hdoc, -⟩ := hplaces
  simp [code, docCode, Block.declared, hclass, hdoc, regionsCode, List.flatMap_assoc,
    Code.declared_regionCode l places hregion]

theorem blocks_code :
    (c.code o).blocks =
      ⟨.serviceClass, o.sourceType,
        [("header", o.header), ("namespace", o.namespaceName c.language),
          ("doc", docCode (summary o) ""), ("scope", c.language.visibilityWord o.visibility),
          ("partial", o.isPart), ("class_name", c.language.escape c.name),
          ("body", .joined "\n\n" (c.regionsCode o))]⟩ ::
        ((docCode (summary o) "").blocks ++ (c.regionsCode o).flatMap Code.blocks) := by
  simp [code]

/-- The block of the region that a section fills. -/
def sectionBlock (entry : String × List Code) : Block :=
  ⟨.region, entry.1, [("name", entry.1), ("body", .joined "\n\n" entry.2)]⟩

theorem mem_inner_sectionBlock {entry : String × List Code} {part : Code} (hpart : part ∈ entry.2)
    {b : Block} (hb : b ∈ part.blocks) : b ∈ (sectionBlock entry).inner := by
  simp only [sectionBlock, Block.inner, Code.fieldBlocks_cons, Code.blocks_value,
    Code.blocks_joined, Code.fieldBlocks_nil, List.append_nil, List.nil_append]
  exact List.mem_flatMap.mpr ⟨part, hpart, hb⟩

/-- A section with something in it has its region among those of the class. -/
theorem sectionBlock_subset_regions {sections : List (String × List Code)}
    {entry : String × List Code} (hentry : entry ∈ sections) {part : Code} (hpart : part ∈ entry.2) :
    sectionBlock entry :: (sectionBlock entry).inner ⊆
      (sections.flatMap fun entry => regionCode entry.1 entry.2).flatMap Code.blocks := by
  have hregion : Code.block .region entry.1
      [("name", entry.1), ("body", .joined "\n\n" entry.2)] ∈ regionCode entry.1 entry.2 := by
    rw [regionCode, if_neg (by simpa using List.ne_nil_of_mem hpart)]
    exact List.mem_singleton_self _
  intro b hb
  exact List.mem_flatMap.mpr ⟨_, List.mem_flatMap.mpr ⟨entry, hentry, hregion⟩, hb⟩

/-- A section with something in it has its region among the blocks. -/
theorem sectionBlock_subset {entry : String × List Code} (hentry : entry ∈ c.sections o)
    {part : Code} (hpart : part ∈ entry.2) :
    sectionBlock entry :: (sectionBlock entry).inner ⊆ (c.code o).blocks := by
  intro b hb
  rw [blocks_code]
  apply List.mem_cons_of_mem
  exact List.mem_append_right _ (sectionBlock_subset_regions hentry hpart hb)

theorem mem_blocks_of_part {entry : String × List Code} (hentry : entry ∈ c.sections o)
    {part : Code} (hpart : part ∈ entry.2) {b : Block} (hb : b ∈ part.blocks) :
    b ∈ (c.code o).blocks :=
  c.sectionBlock_subset o hentry hpart (List.mem_cons_of_mem _ (mem_inner_sectionBlock hpart hb))

/-- A block that is in no section is the class itself, a region of it or a comment. -/
theorem part_of_mem_blocks {b : Block} (hb : b ∈ (c.code o).blocks) :
    b.kind ∈ [Kind.serviceClass, Kind.region, Kind.docComment] ∨
      ∃ entry ∈ c.sections o, ∃ part ∈ entry.2, b ∈ part.blocks := by
  rw [blocks_code, List.mem_cons, List.mem_append] at hb
  rcases hb with rfl | hb | hb
  · simp
  · simp only [docCode, Code.blocks_block, Code.fieldBlocks_cons, Code.blocks_value,
      Code.fieldBlocks_nil, List.append_nil, List.mem_singleton] at hb
    simp [hb]
  · obtain ⟨region, hregion, hb⟩ := List.mem_flatMap.mp hb
    obtain ⟨entry, hentry, hregion⟩ := List.mem_flatMap.mp hregion
    rw [regionCode] at hregion
    split at hregion
    · simp at hregion
    · rw [List.mem_singleton] at hregion
      subst hregion
      simp only [Code.blocks_block, Code.fieldBlocks_cons, Code.blocks_joined, Code.blocks_value,
        Code.fieldBlocks_nil, List.append_nil, List.nil_append, List.mem_cons] at hb
      rcases hb with rfl | hb
      · simp
      · obtain ⟨part, hpart, hb⟩ := List.mem_flatMap.mp hb
        exact .inr ⟨entry, hentry, part, hpart, hb⟩

/-- Blocks of a kind that is only found in the sections. -/
theorem filter_blocks (isWanted : Kind → Bool)
    (hwanted : ∀ kind ∈ [Kind.serviceClass, Kind.region, Kind.docComment], isWanted kind = false) :
    ((c.code o).blocks.filter fun b => isWanted b.kind) =
      (c.sections o).flatMap fun entry => entry.2.flatMap fun part =>
        part.blocks.filter fun b => isWanted b.kind := by
  simp only [List.forall_mem_cons] at hwanted
  obtain ⟨hclass, hregion, hdoc, -⟩ := hwanted
  rw [blocks_code]
  simp [docCode, regionsCode, hclass, hdoc, List.flatMap_assoc, List.filter_flatMap,
    Code.filter_regionCode isWanted hregion]

/-! ### Which kinds of blocks a section has -/

theorem kinds_constants (l : Language) (v : Visibility) (p : ConstantPool) :
    ∀ part ∈ p.code l v, part.KindsIn [Kind.region, Kind.constant] := by
  simp [-List.mem_map, List.forall_mem_map, ConstantPool.code, ConstantPool.groupCode, ConstantPool.constantCode]

theorem kinds_enumerations :
    ∀ part ∈ c.enumerationsCode o,
      part.KindsIn [Kind.docComment, Kind.enumeration, Kind.enumMember, Kind.enumParse,
        Kind.enumParseCase, Kind.enumToString, Kind.enumToStringCase] := by
  simp [-List.mem_map, -List.mem_append, List.forall_mem_map, List.forall_mem_append,
    enumerationsCode, enumerationCodes, memberCode, caseCodes, docCode]

theorem kinds_properties :
    ∀ part ∈ c.propertiesCode o,
      part.KindsIn [Kind.docComment, Kind.property, Kind.enumProperty] := by
  rw [propertiesCode, List.forall_mem_map]
  intro v _
  unfold propertyCode
  split <;> simp [propertyDoc, docCode]

theorem kinds_events :
    ∀ part ∈ c.eventsCode o,
      part.KindsIn [Kind.docComment, Kind.event, Kind.eventRaiser, Kind.dispatcher,
        Kind.dispatchBranch] := by
  simp [-List.mem_map, -List.mem_append, List.forall_mem_map, List.forall_mem_append, eventsCode,
    eventCodes, dispatcherCode, branchCode, docCode]

theorem kinds_methods :
    ∀ part ∈ c.methodsCode o,
      part.KindsIn [Kind.docComment, Kind.singleReturnAction, Kind.multiOutAction, Kind.parameter,
        Kind.inAssignment, Kind.outAssignment, Kind.outValue] := by
  rw [methodsCode, List.forall_mem_map]
  intro m _
  unfold methodCode
  split <;> simp [-List.mem_map, List.forall_mem_map, callFields, returnFields, outFields, parameterCode, inputCode, outputCode,
    resultCode, docCode]

/-! ### What the class declares -/

theorem declared_constants (l : Language) :
    (c.code o).declared l constantPlaces = c.constants.declared.map Constant.identifier := by
  have hconstants := c.constants.declared_code c.language l o.visibility
  -- no block outside the first section is of the kind that declares constants
  have henumerations := Code.declared_eq_nil l constantPlaces (c.kinds_enumerations o) (by decide)
  have hproperties := Code.declared_eq_nil l constantPlaces (c.kinds_properties o) (by decide)
  have hevents := Code.declared_eq_nil l constantPlaces (c.kinds_events o) (by decide)
  have hmethods := Code.declared_eq_nil l constantPlaces (c.kinds_methods o) (by decide)
  rw [declared_code c o l (by simp [constantPlaces])]
  simp [sections, hconstants, henumerations, hproperties, hevents, hmethods]

theorem declared_propertyCode (l : Language) {v : VariableMembers} (property : String)
    (htext : v.textProperty.isSome → v.enumeration.isSome) :
    (c.propertyCode o v property).declared l memberPlaces =
      property :: v.textProperty.toList := by
  unfold propertyCode
  cases htextProperty : v.textProperty with
  | none =>
    cases henumeration : v.enumeration <;>
      simp [propertyDoc, docCode, Block.declared, memberPlaces]
  | some text =>
    obtain ⟨e, henumeration⟩ := Option.isSome_iff_exists.mp (htext (by simp [htextProperty]))
    simp [henumeration, propertyDoc, docCode, Block.declared, memberPlaces]

theorem declared_members (l : Language)
    (htext : ∀ v ∈ c.members, v.textProperty.isSome → v.enumeration.isSome) :
    (c.code o).declared l memberPlaces =
      (c.enumerated.flatMap fun v => v.2.names) ++
        (c.accessible.flatMap fun v => v.2 :: v.1.textProperty.toList) ++
        (c.evented.flatMap fun v => v.2.names) ++ c.methods.map Method.name := by
  have hconstants := Code.declared_eq_nil l memberPlaces
    (kinds_constants c.language o.visibility c.constants) (by decide)
  have henumerations : (c.enumerationsCode o).flatMap (Code.declared l memberPlaces) =
      c.enumerated.flatMap fun v => v.2.names := by
    simp [enumerationsCode, List.flatMap_map, enumerationCodes, memberCode, caseCodes, docCode,
      Block.declared, memberPlaces, EnumType.names]
  have hproperties : (c.propertiesCode o).flatMap (Code.declared l memberPlaces) =
      c.accessible.flatMap fun v => v.2 :: v.1.textProperty.toList := by
    rw [propertiesCode, List.flatMap_map]
    apply List.flatMap_congr
    rintro ⟨v, property⟩ hv
    exact c.declared_propertyCode o l property (htext v (c.mem_accessible.mp hv).1)
  have hevents : (c.eventsCode o).flatMap (Code.declared l memberPlaces) =
      c.evented.flatMap fun v => v.2.names := by
    simp [eventsCode, eventCodes, List.flatMap_map, dispatcherCode, branchCode, docCode,
      Block.declared, memberPlaces, Event.names]
  have hmethods : (c.methodsCode o).flatMap (Code.declared l memberPlaces) =
      c.methods.map Method.name := by
    have hmethod (m : Method) : (c.methodCode o m).declared l memberPlaces = [m.name] := by
      unfold methodCode
      split <;> simp [callFields, returnFields, outFields, parameterCode, inputCode, outputCode,
        resultCode, docCode, List.flatMap_map, Block.declared, memberPlaces]
    simp [methodsCode, List.flatMap_map, hmethod, ← List.map_eq_flatMap]
  rw [declared_code c o l (by simp [memberPlaces])]
  simp [sections, hconstants, henumerations, hproperties, hevents, hmethods]

/-- The blocks of a class declare the names that were given out for it and no others. -/
theorem declared_members_perm (l : Language)
    (htext : ∀ v ∈ c.members, v.textProperty.isSome → v.enumeration.isSome ∧ v.property.isSome) :
    ((c.code o).declared l memberPlaces).Perm c.memberNames := by
  rw [c.declared_members o l fun v hv hsome => (htext v hv hsome).1]
  have henumerated : (c.enumerated.flatMap fun v => v.2.names) =
      c.members.flatMap fun v => v.enumeration.toList.flatMap EnumType.names :=
    flatMap_filterMap_pair c.members VariableMembers.enumeration fun _ e => e.names
  have hevented : (c.evented.flatMap fun v => v.2.names) =
      c.members.flatMap fun v => v.event.toList.flatMap Event.names :=
    flatMap_filterMap_pair c.members VariableMembers.event fun _ e => e.names
  have haccessible : (c.accessible.flatMap fun v => v.2 :: v.1.textProperty.toList) =
      c.members.flatMap fun v => v.property.toList ++ v.textProperty.toList := by
    rw [accessible, flatMap_filterMap_pair c.members VariableMembers.property
      fun v property => property :: v.textProperty.toList]
    apply List.flatMap_congr
    intro v hv
    have hsome := htext v hv
    cases hproperty : v.property with
    | none => simp_all
    | some property => simp
  rw [henumerated, hevented, haccessible, memberNames]
  apply List.Perm.append_right
  refine ((List.flatMap_append_perm _ _ _).append_right _).trans ?_
  refine (List.flatMap_append_perm _ _ _).trans ?_
  apply List.Perm.of_eq
  apply List.flatMap_congr
  intro v _
  simp [VariableMembers.names]

end ServiceClass

end ControlPoint.Class
