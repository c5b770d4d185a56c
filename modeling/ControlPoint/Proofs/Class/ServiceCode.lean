import Mathlib
import ControlPoint.Class.ServiceSource
import ControlPoint.Proofs.Class.Code

namespace ControlPoint.Class

open Description Template

/-- The comment before a declaration. -/
def docCode (summary remarks : String) : Code :=
  .block .docComment "" [("summary", summary), ("remarks", remarks)]

theorem docComment_eq (l : Language) (summary remarks : String) :
    docComment l summary remarks = .ok ((docCode summary remarks).text l) :=
  l.render_eq_fill rfl

/-- A region of a class, if there is anything in it. -/
def regionCode (title : String) (parts : List Code) : List Code :=
  if parts.isEmpty then []
  else [.block .region title [("name", title), ("body", .joined "\n\n" parts)]]

theorem region_text_ne_empty (l : Language) {parts : List Code} (hne : parts ≠ [])
    (hparts : ∀ part ∈ parts, part.text l ≠ "") : (Code.joined "\n\n" parts).text l ≠ "" := by
  obtain ⟨first, rest, rfl⟩ := List.exists_cons_of_ne_nil hne
  exact Code.text_joined_ne_empty l (hparts first (by simp)) "\n\n" rest

/-- Where no part is empty, there is a region for each section that has parts. -/
theorem regions_eq (l : Language) (sections : List (String × List Code))
    (hparts : ∀ entry ∈ sections, ∀ part ∈ entry.2, part.text l ≠ "") :
    regions l (sections.map fun entry => (entry.1, (Code.joined "\n\n" entry.2).text l)) =
      .ok ((Code.joined "\n\n"
        (sections.flatMap fun entry => regionCode entry.1 entry.2)).text l) := by
  have hregions : (sections.flatMap fun entry => regionCode entry.1 entry.2) =
      (sections.filter fun entry => !entry.2.isEmpty).map fun entry =>
        .block .region entry.1 [("name", entry.1), ("body", .joined "\n\n" entry.2)] := by
    induction sections with
    | nil => rfl
    | cons entry rest ih =>
      obtain ⟨title, parts⟩ := entry
      rw [List.forall_mem_cons] at hparts
      rw [List.flatMap_cons, ih hparts.2, List.filter_cons]
      cases parts <;> rfl
  have hkept : ∀ entry ∈ sections,
      ((Code.joined "\n\n" entry.2).text l != "") = !entry.2.isEmpty := by
    rintro ⟨title, parts⟩ hentry
    cases parts with
    | nil => simp
    | cons first rest =>
      simpa using region_text_ne_empty l (List.cons_ne_nil first rest) (hparts _ hentry)
  simp only [regions, List.filter_map, Function.comp_def]
  rw [List.filter_congr hkept, hregions, joinAll, List.mapM_map]
  exact Code.joinAll_text (fun _ _ => l.render_eq_fill rfl) "\n\n"

namespace ConstantPool

/-- The declaration of a constant. Its subject is the value. -/
def constantCode (l : Language) (v : Visibility) (c : Constant) : Code :=
  .block .constant c.value
    [("scope", l.visibilityWord v), ("name", c.identifier), ("literal", l.literal c.value),
      ("comment", c.comment)]

theorem declaration_eq (l : Language) (v : Visibility) (c : Constant) :
    declaration l v c = .ok ((constantCode l v c).text l) :=
  l.render_eq_fill rfl

def groupCode (l : Language) (v : Visibility) (group : String × List Constant) : Code :=
  .block .region group.1
    [("name", group.1), ("body", .joined "\n" (group.2.map (constantCode l v)))]

theorem groupText_eq (l : Language) (v : Visibility) (group : String × List Constant) :
    groupText l v group = .ok ((groupCode l v group).text l) := by
  rw [groupText, Code.mapM_text fun c _ => declaration_eq l v c]
  exact l.render_eq_fill rfl

/-- The declarations of all constants, a region for each group. -/
def code (l : Language) (v : Visibility) (p : ConstantPool) : List Code :=
  p.groups.map (groupCode l v)

theorem definitions_eq (l : Language) (v : Visibility) (p : ConstantPool) :
    p.definitions l v = .ok ((Code.joined "\n\n" (p.code l v)).text l) := by
  rw [definitions, Code.mapM_text fun group _ => groupText_eq l v group]
  rfl

end ConstantPool

namespace ServiceClass

variable (c : ServiceClass) (o : Options)

def memberCode (name : String) : Code :=
  .block .enumMember name [("name", name)]

/-- The cases of a function of an enumeration. The subject of a case is the allowed value for which
    its member stands. -/
def caseCodes (kind : Kind) (v : StateVariable) (e : EnumType) : List Code :=
  e.members.zipIdx.map fun m =>
    .block kind (v.valueList.eraseDups[m.2]?.getD "")
      [("enum_name", e.name), ("member", m.1.name), ("constant", m.1.constant)]

theorem mem_caseBlocks {kind : Kind} {v : StateVariable} {e : EnumType} {b : Block} :
    b ∈ (caseCodes kind v e).flatMap Code.blocks ↔
      ∃ (m : EnumMember) (i : Nat), e.members[i]? = some m ∧
        b = ⟨kind, v.valueList.eraseDups[i]?.getD "",
          [("enum_name", e.name), ("member", m.name), ("constant", m.constant)]⟩ := by
  simp [caseCodes, List.flatMap_map, List.mem_zipIdx_iff_getElem?]

/-- An enumeration with its reading and its writing function. -/
def enumerationCodes (v : VariableMembers) (e : EnumType) : List Code :=
  [.block .enumeration v.source.name
      [("doc", docCode ("Allowed values of the " ++ v.source.name ++ " state variable.") ""),
        ("scope", c.scopeWord o), ("name", e.name),
        ("members", .joined "\n"
          ((e.members.map EnumMember.name ++ [unknownMember]).map memberCode))],
    .block .enumParse v.source.name
      [("scope", c.scopeWord o), ("function_name", e.parseFunction), ("enum_name", e.name),
        ("unknown_member", unknownMember),
        ("cases", .joined "\n" (caseCodes .enumParseCase v.source e))],
    .block .enumToString v.source.name
      [("scope", c.scopeWord o), ("function_name", e.toStringFunction), ("enum_name", e.name),
        ("cases", .joined "\n" (caseCodes .enumToStringCase v.source e))]]

theorem memberCodes_text (l : Language) (names : List String) :
    joinAll "\n" (fun name => l.render .enumMember [("name", .text name)]) names =
      .ok ((Code.joined "\n" (names.map memberCode)).text l) :=
  Code.joinAll_text (fun _ _ => l.render_eq_fill rfl) "\n"

theorem caseCodes_text (l : Language) {kind : Kind} (v : StateVariable) (e : EnumType)
    (hkind : kind.places = Kind.enumParseCase.places) :
    joinAll "\n" (fun m : EnumMember => l.render kind
        [("enum_name", e.name), ("member", m.name), ("constant", m.constant)]) e.members =
      .ok ((Code.joined "\n" (caseCodes kind v e)).text l) := by
  have hcase (m : EnumMember) : l.render kind
        [("enum_name", e.name), ("member", m.name), ("constant", m.constant)] =
      .ok (l.fill kind
        [("enum_name", e.name), ("member", m.name), ("constant", m.constant)]) :=
    l.render_eq_fill (by rw [hkind]; rfl)
  rw [← List.zipIdx_map_fst 0 e.members, joinAll, List.mapM_map]
  exact Code.joinAll_text (fun m _ => hcase m.1) "\n"

theorem enumerationText_eq (v : VariableMembers) (e : EnumType) :
    c.enumerationText o v e =
      .ok ((Code.joined "\n\n" (c.enumerationCodes o v e)).text c.language) := by
  refine Code.bind_text (memberCodes_text c.language _) ?_
  refine Code.bind_text (docComment_eq c.language _ _) ?_
  refine Code.bind_text (c.language.render_eq_fill rfl) ?_
  refine Code.bind_text (caseCodes_text c.language v.source e rfl) ?_
  refine Code.bind_text (c.language.render_eq_fill rfl) ?_
  refine Code.bind_text (caseCodes_text c.language v.source e rfl) ?_
  exact Code.bind_text (c.language.render_eq_fill rfl) rfl

/-- The variables that have an enumeration. -/
def enumerated : List (VariableMembers × EnumType) :=
  c.members.filterMap fun v => v.enumeration.map fun e => (v, e)

theorem mem_enumerated {v : VariableMembers} {e : EnumType} :
    (v, e) ∈ c.enumerated ↔ v ∈ c.members ∧ e ∈ v.enumeration :=
  mem_filterMap_pair

def enumerationsCode : List Code :=
  c.enumerated.map fun v => .joined "\n\n" (c.enumerationCodes o v.1 v.2)

theorem enumerationsText_eq :
    c.enumerationsText o = .ok ((Code.joined "\n\n" (c.enumerationsCode o)).text c.language) :=
  Code.joinAll_text (fun (v, e) _ => c.enumerationText_eq o v e) "\n\n"

def propertyDoc (v : StateVariable) : Code :=
  docCode ("Current value of the " ++ v.name ++ " state variable (" ++ v.dataTypeName ++ ").")
    (variableRemarks v)

/-- The properties of a variable. -/
def propertyCode (v : VariableMembers) (property : String) : Code :=
  match v.enumeration, v.textProperty with
  | some e, some textProperty =>
    .block .enumProperty v.source.name
      [("doc", propertyDoc v.source),
        ("string_doc", docCode ("Raw text value of the " ++ v.source.name ++ " state variable.") ""),
        ("scope", c.scopeWord o), ("name", property), ("string_name", textProperty),
        ("enum_name", e.name), ("unknown_member", unknownMember),
        ("parse_function", e.parseFunction), ("constant", v.constant)]
  | _, _ =>
    .block .property v.source.name
      [("doc", propertyDoc v.source), ("scope", c.scopeWord o), ("name", property),
        ("type", v.plainType), ("constant", v.constant)]

theorem propertyText_eq (v : VariableMembers) (property : String) :
    c.propertyText o v property = .ok ((c.propertyCode o v property).text c.language) := by
  unfold propertyText propertyCode
  refine Code.bind_text (docComment_eq c.language _ _) ?_
  generalize v.enumeration = enumeration, v.textProperty = textProperty
  cases enumeration with
  | none => exact c.language.render_eq_fill rfl
  | some e =>
    cases textProperty with
    | none => exact c.language.render_eq_fill rfl
    | some text =>
      refine Code.bind_text (docComment_eq c.language _ _) ?_
      exact c.language.render_eq_fill rfl

/-- The variables that have a property. -/
def accessible : List (VariableMembers × String) :=
  c.members.filterMap fun v => v.property.map fun property => (v, property)

theorem mem_accessible {v : VariableMembers} {property : String} :
    (v, property) ∈ c.accessible ↔ v ∈ c.members ∧ property ∈ v.property :=
  mem_filterMap_pair

def propertiesCode : List Code :=
  c.accessible.map fun v => c.propertyCode o v.1 v.2

theorem propertiesText_eq :
    c.propertiesText o = .ok ((Code.joined "\n\n" (c.propertiesCode o)).text c.language) :=
  Code.joinAll_text (fun (v, property) _ => c.propertyText_eq o v property) "\n\n"

/-- An event and the method that raises it. -/
def eventCodes (v : VariableMembers) (e : Event) : List Code :=
  [.block .event v.source.name
      [("doc", docCode ("Raised when the " ++ v.source.name ++ " state variable changes.") ""),
        ("scope", c.scopeWord o), ("name", e.name), ("type", v.exposedType)],
    .block .eventRaiser v.source.name
      [("name", e.raiser), ("event_name", e.name), ("type", v.exposedType)]]

theorem eventText_eq (v : VariableMembers) (e : Event) :
    c.eventText o v e = .ok ((Code.joined "\n\n" (c.eventCodes o v e)).text c.language) := by
  refine Code.bind_text (docComment_eq c.language _ _) ?_
  refine Code.bind_text (c.language.render_eq_fill rfl) ?_
  exact Code.bind_text (c.language.render_eq_fill rfl) rfl

def branchCode (v : VariableMembers) (e : Event) : Code :=
  .block .dispatchBranch v.source.name
    [("constant", v.constant), ("raiser", e.raiser), ("type", v.exposedType),
      ("enumerated", v.enumeration.isSome), ("parse_function", parseFunction v.enumeration)]

theorem branchText_eq (v : VariableMembers) (e : Event) :
    c.branchText v e = .ok ((branchCode v e).text c.language) :=
  c.language.render_eq_fill rfl

theorem branchTexts_eq :
    joinAll "\n" (fun (v, e) => c.branchText v e) c.evented =
      .ok ((Code.joined "\n" (c.evented.map fun v => branchCode v.1 v.2)).text c.language) :=
  Code.joinAll_text (fun (v, e) _ => c.branchText_eq v e) "\n"

/-- The place where notifications arrive. -/
def dispatcherCode : Code :=
  .block .dispatcher "" [("branches", .joined "\n" (c.evented.map fun v => branchCode v.1 v.2))]

theorem mem_evented {v : VariableMembers} {e : Event} :
    (v, e) ∈ c.evented ↔ v ∈ c.members ∧ e ∈ v.event :=
  mem_filterMap_pair

def eventsCode : List Code :=
  (c.evented.map fun v => Code.joined "\n\n" (c.eventCodes o v.1 v.2)) ++ [c.dispatcherCode]

theorem eventsText_eq :
    c.eventsText o = .ok ((Code.joined "\n\n" (c.eventsCode o)).text c.language) := by
  have hblocks : c.evented.mapM (fun (v, e) => c.eventText o v e) =
      .ok (Code.texts c.language
        (c.evented.map fun v => Code.joined "\n\n" (c.eventCodes o v.1 v.2))) :=
    Code.mapM_text fun (v, e) _ => c.eventText_eq o v e
  refine Code.bind_text hblocks ?_
  refine Code.bind_text c.branchTexts_eq ?_
  refine Code.bind_text (c.language.render_eq_fill rfl) ?_
  exact congrArg (fun texts => Except.ok (String.intercalate "\n\n" texts))
    (Code.texts_append c.language _ [c.dispatcherCode]).symm

def parameterCode (isOut : Bool) (p : Parameter) : Code :=
  .block .parameter p.source.name
    [("out", isOut), ("name", p.name), ("type", c.argumentType p.source)]

theorem parameterText_eq (isOut : Bool) (p : Parameter) :
    c.parameterText isOut p = .ok ((c.parameterCode isOut p).text c.language) :=
  c.language.render_eq_fill rfl

def inputCode (p : Parameter) (index : Nat) : Code :=
  .block .inAssignment p.source.name
    [("index", .value (.whole index)), ("name", p.name),
      ("enumerated", (c.argumentEnum? p.source).isSome),
      ("to_string_function", toStringFunction (c.argumentEnum? p.source))]

theorem inputText_eq (p : Parameter) (index : Nat) :
    c.inputText p index = .ok ((c.inputCode p index).text c.language) :=
  c.language.render_eq_fill rfl

def outputCode (p : Parameter) (index : Nat) : Code :=
  .block .outValue p.source.name
    [("index", .value (.whole index)), ("type", c.argumentType p.source),
      ("enumerated", (c.argumentEnum? p.source).isSome),
      ("parse_function", parseFunction (c.argumentEnum? p.source))]

theorem outputText_eq (p : Parameter) (index : Nat) :
    c.outputText p index = .ok ((c.outputCode p index).text c.language) :=
  c.language.render_eq_fill rfl

def resultCode (p : Parameter) (index : Nat) : Code :=
  .block .outAssignment p.source.name [("name", p.name), ("value", c.outputCode p index)]

/-- What every method has, whatever it returns. -/
def callFields (m : Method) : List (String × Code) :=
  [("doc", docCode ("Invokes the " ++ m.source.name ++ " action.") (methodRemarks m)),
    ("scope", c.scopeWord o), ("name", m.name), ("constant", m.constant),
    ("in_count", .value (.whole (m.directed .input).length)),
    ("in_upper", .value (.whole (Int.ofNat (m.directed .input).length - 1))),
    ("in_assignments", .joined "\n" ((m.directed .input).map fun p => c.inputCode p.1 p.2))]

/-- What a method has that returns its only output argument. -/
def returnFields (m : Method) (single : Parameter) (index : Nat) : List (String × Code) :=
  [("parameters", .joined ", " ((m.directed .input).map fun p => c.parameterCode false p.1)),
    ("return_type", c.argumentType single.source), ("return_value", c.outputCode single index)]

/-- What a method has that has a parameter for each output argument. -/
def outFields (m : Method) (outs : List (Parameter × Nat)) : List (String × Code) :=
  [("parameters", .joined ", " (m.parameters.map fun p => c.parameterCode p.source.isOutput p)),
    ("out_assignments", .joined "\n" (outs.map fun p => c.resultCode p.1 p.2))]

def methodCode (m : Method) : Code :=
  match m.directed .output with
  | [(single, index)] =>
    .block .singleReturnAction m.source.name (c.callFields o m ++ c.returnFields m single index)
  | outs => .block .multiOutAction m.source.name (c.callFields o m ++ c.outFields m outs)

theorem inputTexts_eq (ins : List (Parameter × Nat)) :
    joinAll "\n" (fun (p, i) => c.inputText p i) ins =
      .ok ((Code.joined "\n" (ins.map fun p => c.inputCode p.1 p.2)).text c.language) :=
  Code.joinAll_text (fun (p, i) _ => c.inputText_eq p i) "\n"

theorem inputParameters_eq (ins : List (Parameter × Nat)) :
    joinAll ", " (fun (p, _) => c.parameterText false p) ins =
      .ok ((Code.joined ", " (ins.map fun p => c.parameterCode false p.1)).text c.language) :=
  Code.joinAll_text (fun (p, _) _ => c.parameterText_eq false p) ", "

theorem parameterTexts_eq (parameters : List Parameter) :
    joinAll ", " (fun p => c.parameterText p.source.isOutput p) parameters =
      .ok ((Code.joined ", "
        (parameters.map fun p => c.parameterCode p.source.isOutput p)).text c.language) :=
  Code.joinAll_text (fun p _ => c.parameterText_eq p.source.isOutput p) ", "

theorem resultTexts_eq (outs : List (Parameter × Nat)) :
    joinAll "\n" (fun (p, i) => do
        c.language.render .outAssignment [("name", p.name), ("value", ← c.outputText p i)]) outs =
      .ok ((Code.joined "\n" (outs.map fun p => c.resultCode p.1 p.2)).text c.language) := by
  refine Code.joinAll_text (fun (p, i) _ => ?_) "\n"
  refine Code.bind_text (c.outputText_eq p i) ?_
  exact c.language.render_eq_fill rfl

theorem methodText_eq (m : Method) :
    c.methodText o m = .ok ((c.methodCode o m).text c.language) := by
  unfold methodText methodCode
  refine Code.bind_text (c.inputTexts_eq _) ?_
  refine Code.bind_text (docComment_eq c.language _ _) ?_
  generalize m.directed .output = outs
  rcases outs with _ | ⟨⟨single, index⟩, _ | ⟨second, rest⟩⟩
  case cons.nil =>
    refine Code.bind_text (c.inputParameters_eq _) ?_
    refine Code.bind_text (c.outputText_eq single index) ?_
    exact c.language.render_eq_fill rfl
  all_goals
    refine Code.bind_text (c.parameterTexts_eq _) ?_
    refine Code.bind_text (c.resultTexts_eq _) ?_
    exact c.language.render_eq_fill rfl

def methodsCode : List Code :=
  c.methods.map (c.methodCode o)

theorem methodsText_eq :
    c.methodsText o = .ok ((Code.joined "\n\n" (c.methodsCode o)).text c.language) :=
  Code.joinAll_text (fun m _ => c.methodText_eq o m) "\n\n"

/-- The regions of the class, with what is in each. -/
def sections : List (String × List Code) :=
  [("Constants", c.constants.code c.language o.visibility),
    ("Enumerations", c.enumerationsCode o), ("Properties", c.propertiesCode o),
    ("Events", c.eventsCode o), ("Actions", c.methodsCode o)]

theorem propertyCode_text_ne_empty (v : VariableMembers) (property : String) :
    (c.propertyCode o v property).text c.language ≠ "" := by
  unfold propertyCode
  split
  · exact Code.text_block_ne_empty c.language (by decide) rfl
  · exact Code.text_block_ne_empty c.language (by decide) rfl

theorem methodCode_text_ne_empty (m : Method) : (c.methodCode o m).text c.language ≠ "" := by
  unfold methodCode
  split
  · exact Code.text_block_ne_empty c.language (by decide) rfl
  · exact Code.text_block_ne_empty c.language (by decide) rfl

theorem sections_text_ne_empty :
    ∀ entry ∈ c.sections o, ∀ part ∈ entry.2, part.text c.language ≠ "" := by
  simp only [sections, List.forall_mem_cons, ConstantPool.code, enumerationsCode, propertiesCode,
    eventsCode, methodsCode, List.forall_mem_append, List.forall_mem_map]
  refine ⟨?groups, ?enumerations, ?properties, ⟨?events, ?dispatcher⟩, ?methods, by simp⟩
  case groups =>
    intro group _
    exact Code.text_block_ne_empty c.language (by decide) rfl
  case enumerations =>
    rintro ⟨v, e⟩ _
    exact Code.text_joined_ne_empty _ (Code.text_block_ne_empty _ (by decide) rfl) _ _
  case properties =>
    rintro ⟨v, property⟩ _
    exact c.propertyCode_text_ne_empty o v property
  case events =>
    rintro ⟨v, e⟩ _
    exact Code.text_joined_ne_empty _ (Code.text_block_ne_empty _ (by decide) rfl) _ _
  case dispatcher =>
    refine ⟨?_, by simp⟩
    exact Code.text_block_ne_empty c.language (by decide) rfl
  case methods =>
    intro m _
    exact c.methodCode_text_ne_empty o m

def regionsCode : List Code :=
  (c.sections o).flatMap fun entry => regionCode entry.1 entry.2

/-- The class. -/
def code : Code :=
  .block .serviceClass o.sourceType
    [("header", o.header), ("namespace", o.namespaceName c.language),
      ("doc", docCode (summary o) ""), ("scope", c.language.visibilityWord o.visibility),
      ("partial", o.isPart), ("class_name", c.language.escape c.name),
      ("body", .joined "\n\n" (c.regionsCode o))]

/-- The source of a class is always written, and it is that of its code in blocks. -/
theorem source_eq : c.source o = .ok ((c.code o).text c.language) := by
  refine Code.bind_text (c.constants.definitions_eq c.language o.visibility) ?_
  refine Code.bind_text (c.enumerationsText_eq o) ?_
  refine Code.bind_text (c.propertiesText_eq o) ?_
  refine Code.bind_text (c.eventsText_eq o) ?_
  refine Code.bind_text (c.methodsText_eq o) ?_
  refine Code.bind_text (regions_eq c.language (c.sections o) (c.sections_text_ne_empty o)) ?_
  refine Code.bind_text (docComment_eq c.language _ _) ?_
  exact c.language.render_eq_fill rfl

end ServiceClass

end ControlPoint.Class
