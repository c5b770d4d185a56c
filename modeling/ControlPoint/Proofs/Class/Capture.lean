import Mathlib
import ControlPoint.Description.Document
import ControlPoint.Proofs.Class.Marshalling

/-!
What the parameters of a method may hide from its body. A parameter keeps out of the way of the
variables that every method has, but not of the names of the class: the field for the service, the
constant of the action and the functions of enumerations.
-/

namespace ControlPoint

open Description Naming Template

/-! ### What the body of a method looks up -/

namespace Language

/-- The part of a method's template that invokes the action. -/
def invocation : Language → List Part
  | csharp =>
    [("    moService.InvokeAction(" : Piece), Piece.slot "constant", (", loIn, ref loOut);" : Piece)]
  | visualBasic =>
    [("    moService.InvokeAction(" : Piece), Piece.slot "constant", (", loIn, loOut)" : Piece)]

theorem invocation_infix_template (l : Language) :
    ∀ kind ∈ [Kind.singleReturnAction, Kind.multiOutAction],
      l.invocation <:+: l.template kind := by
  cases l <;> decide +kernel

end Language

namespace Class

/-- The field in which a class keeps the service. -/
def serviceField : String := "moService"

namespace Block

instance (l : Language) (b : Block) (place : String) : Decidable (b.Prints l place) :=
  inferInstanceAs (Decidable (place ∈ printed (b.values l) (l.template b.kind)))

/-- The functions of enumerations that the block itself calls. -/
def functions (l : Language) (b : Block) : List String :=
  (["to_string_function", "parse_function"].filter fun place => b.Prints l place).map (b.text l)

/-- The names that the body of a method looks up: the field for the service, the variables that every
    method has, the constant of the action, and the functions that are called for the arguments. -/
def lookedUp (l : Language) (b : Block) : List String :=
  serviceField :: localNames ++ b.text l "constant" :: b.inner.flatMap (functions l)

/-- No parameter of the method hides a name that its body looks up. -/
def CapturesNothing (l : Language) (b : Block) : Prop :=
  ∀ p ∈ b.signature l, ∀ name ∈ b.lookedUp l, l.nameKey p.2.1 ≠ l.nameKey name

theorem functions_eq_nil {l : Language} {b : Block}
    (hplaces : ∀ place ∈ b.kind.places, place ∉ ["to_string_function", "parse_function"]) :
    b.functions l = [] := by
  rw [functions, List.map_eq_nil_iff, List.filter_eq_nil_iff]
  intro place hplace hprints
  exact hplaces place (of_decide_eq_true hprints).mem_places hplace

/-- A function is called where there is an enumeration for it. -/
theorem prints_function_iff {l : Language} {b : Block} {place : String}
    (hplace : (b.kind, place) ∈
      [(Kind.inAssignment, "to_string_function"), (Kind.outValue, "parse_function")]) :
    b.Prints l place ↔ (b.values l).holds "enumerated" = true := by
  unfold Prints
  generalize b.values l = fields
  generalize b.kind = kind at hplace
  simp only [List.mem_cons, List.not_mem_nil, or_false, Prod.mk.injEq] at hplace
  rcases hplace with ⟨rfl, rfl⟩ | ⟨rfl, rfl⟩ <;> cases henumerated : fields.holds "enumerated" <;>
    cases l <;>
      simp [Language.template, Language.csharpTemplate, Language.visualBasicTemplate, printed,
        Part.printed, Piece.printed, henumerated]

theorem functions_eq {l : Language} {b : Block} {place : String}
    (hplace : (b.kind, place) ∈
      [(Kind.inAssignment, "to_string_function"), (Kind.outValue, "parse_function")]) :
    b.functions l = if (b.values l).holds "enumerated" then [b.text l place] else [] := by
  have hcalled := prints_function_iff (l := l) hplace
  have hother (other : String) (hprints : b.Prints l other) : other ∈ b.kind.places :=
    hprints.mem_places
  simp only [List.mem_cons, List.not_mem_nil, or_false, Prod.mk.injEq] at hplace
  rcases hplace with ⟨hkind, rfl⟩ | ⟨hkind, rfl⟩
  · have hread : ¬ b.Prints l "parse_function" := fun h => by
      simpa [hkind, Kind.places] using hother _ h
    by_cases henumerated : (b.values l).holds "enumerated" = true <;>
      simp [functions, hcalled, hread, henumerated]
  · have hwrite : ¬ b.Prints l "to_string_function" := fun h => by
      simpa [hkind, Kind.places] using hother _ h
    by_cases henumerated : (b.values l).holds "enumerated" = true <;>
      simp [functions, hcalled, hwrite, henumerated]

end Block

/-- The parameters with which a method is written. If one output argument is there it is returned,
    and has no parameter. -/
def Method.formals (m : Method) : List Parameter :=
  match m.directed .output with
  | [_] => (m.directed .input).map Prod.fst
  | _ => m.parameters

namespace ServiceClass

variable (l : Language) (c : ServiceClass)

/-- The functions that write the input arguments of a method as texts. -/
def writeFunctions (m : Method) : List String :=
  (m.directed .input).flatMap fun q =>
    ((c.argumentEnum? q.1.source).map EnumType.toStringFunction).toList

/-- The functions that read the output arguments of a method. -/
def readFunctions (m : Method) : List String :=
  (m.directed .output).flatMap fun q =>
    ((c.argumentEnum? q.1.source).map EnumType.parseFunction).toList

theorem functions_docCode (summary remarks : String) :
    (docCode summary remarks).blocks.flatMap (Block.functions l) = [] := by
  simpa [docCode] using Block.functions_eq_nil (by simp [Kind.places])

theorem functions_parameterCode (isOut : Bool) (q : Parameter) :
    (c.parameterCode isOut q).blocks.flatMap (Block.functions l) = [] := by
  simpa [parameterCode] using Block.functions_eq_nil (by simp [Kind.places])

theorem functions_inputCode (q : Parameter) (i : Nat) :
    (c.inputCode q i).blocks.flatMap (Block.functions l) =
      ((c.argumentEnum? q.source).map EnumType.toStringFunction).toList := by
  have hplace : (Kind.inAssignment, "to_string_function") ∈
      [(Kind.inAssignment, "to_string_function"), (Kind.outValue, "parse_function")] := by simp
  rw [inputCode, Code.blocks_block, List.flatMap_cons, Block.functions_eq hplace]
  cases henum : c.argumentEnum? q.source <;> simp [toStringFunction]

theorem functions_outputCode (q : Parameter) (j : Nat) :
    (c.outputCode q j).blocks.flatMap (Block.functions l) =
      ((c.argumentEnum? q.source).map EnumType.parseFunction).toList := by
  have hplace : (Kind.outValue, "parse_function") ∈
      [(Kind.inAssignment, "to_string_function"), (Kind.outValue, "parse_function")] := by simp
  rw [outputCode, Code.blocks_block, List.flatMap_cons, Block.functions_eq hplace]
  cases henum : c.argumentEnum? q.source <;> simp [parseFunction]

theorem functions_resultCode (q : Parameter) (j : Nat) :
    (c.resultCode q j).blocks.flatMap (Block.functions l) =
      ((c.argumentEnum? q.source).map EnumType.parseFunction).toList := by
  have hassignment : Block.functions l
      ⟨.outAssignment, q.source.name, [("name", q.name), ("value", c.outputCode q j)]⟩ = [] :=
    Block.functions_eq_nil (by simp [Kind.places])
  rw [← c.functions_outputCode l q j]
  simp [resultCode, hassignment]

/-- The block that declares a method, with the parameters and with what is looked up in its body. -/
theorem exists_methodBlock (o : Options) (m : Method) :
    ∃ b ∈ (c.methodCode o m).blocks, m.name ∈ b.declared l memberPlaces ∧
      l.invocation <:+: l.template b.kind ∧
      (b.signature l).map (fun p => p.2.1) = m.formals.map Parameter.name ∧
      b.lookedUp l = serviceField :: localNames ++
        m.constant :: (c.writeFunctions m ++ c.readFunctions m) := by
  have hwrite : (Code.fieldBlocks (c.callFields o m)).flatMap (Block.functions l) =
      c.writeFunctions m := by
    simp [callFields, functions_docCode, List.flatMap_map, List.flatMap_assoc, functions_inputCode,
      writeFunctions]
  have hread : (m.directed .output).flatMap (fun q => (c.resultCode q.1 q.2).blocks.flatMap
      (Block.functions l)) = c.readFunctions m := by
    simp only [functions_resultCode, readFunctions]
  have hlookedUp (kind : Kind) {fields : List (String × Code)}
      (hfields : (Code.fieldBlocks fields).flatMap (Block.functions l) = c.readFunctions m) :
      (c.methodBlock o m kind fields).lookedUp l = serviceField :: localNames ++
        m.constant :: (c.writeFunctions m ++ c.readFunctions m) := by
    have hconstant : (c.methodBlock o m kind fields).text l "constant" = m.constant := by
      simp [methodBlock, callFields]
    rw [Block.lookedUp, hconstant, Block.inner, methodBlock, Code.fieldBlocks_append,
      List.flatMap_append, hwrite, hfields]
  unfold methodCode
  split
  case h_1 single index hsingle =>
    refine ⟨_, List.mem_cons_self .., ?_, l.invocation_infix_template _ (by simp), ?_, ?_⟩
    · simp [Block.declared, memberPlaces, callFields]
    · refine (congrArg (List.map _) (c.signature_returnFields o m single index l)).trans ?_
      simp [Method.formals, hsingle, Function.comp_def]
    · refine hlookedUp _ ?_
      simp [returnFields, functions_parameterCode, functions_outputCode, List.flatMap_map,
        List.flatMap_assoc, readFunctions, hsingle]
  case h_2 outs hseveral =>
    have hformals : m.formals = m.parameters := by
      unfold Method.formals
      split
      · rename_i only honly
        exact absurd honly (hseveral only.1 only.2)
      · rfl
    refine ⟨_, List.mem_cons_self .., ?_, l.invocation_infix_template _ (by simp), ?_, ?_⟩
    · simp [Block.declared, memberPlaces, callFields]
    · refine (congrArg (List.map _) (c.signature_outFields o m _ l)).trans ?_
      simp [hformals, Function.comp_def]
    · refine hlookedUp _ ?_
      simp [outFields, functions_parameterCode, List.flatMap_map, List.flatMap_assoc, ← hread]

end ServiceClass

/-! ### Which names meet -/

theorem exists_bare_of_mem_methodParameters {l : Language} {a : Action} {q : Parameter}
    (hq : q ∈ methodParameters l a) :
    ∃ name, IsIdentifier name ∧ IsLowered name ∧ q.name = l.escape name := by
  have hname : q.name ∈ (methodParameters l a).map Parameter.name := List.mem_map_of_mem hq
  rw [methodParameters, parametersFrom_names] at hname
  obtain ⟨name, hname, hwritten⟩ := List.mem_map.mp hname
  obtain ⟨t, base, hbase, rfl⟩ := mem_freeNames hname
  obtain ⟨argument, -, rfl⟩ := List.mem_map.mp hbase
  have hidentifier := sanitize_isIdentifier .parameter argument.name
  refine ⟨_, freeName_isIdentifier t hidentifier, ?_, hwritten.symm⟩
  rw [IsLowered, head_freeName t hidentifier]
  exact sanitize_isLowered argument.name

theorem Method.mem_parameters_of_mem_formals {m : Method} {q : Parameter} (hq : q ∈ m.formals) :
    q ∈ m.parameters := by
  unfold formals at hq
  split at hq
  · obtain ⟨p, hp, rfl⟩ := List.mem_map.mp hq
    exact (mem_of_directed hp).1
  · exact hq

namespace Draft

/-- A reading function is called so, in front of the enumeration's name. -/
theorem enumType_parseFunction (l : Language) (d : Draft) (v : StateVariable) {base : String}
    (hbase : IsTypeName base) :
    ∃ name, IsTypeName name ∧ name.toList.head? = some 'P' ∧
      (enumType l d v base).1.parseFunction = l.escape name := by
  have hname := allocate_isTypeName d (hbase.append (show IsWord "Enum" by decide))
  have hparse := isTypeName_parse.append hname.isWord
  refine ⟨_, allocate_isTypeName _ hparse, ?_, by rw [enumType_eq]⟩
  rw [allocate, head_freeName _ hparse.isIdentifier, String.toList_append]
  rfl

theorem exists_enumType_of_mem {l : Language} {d : Draft} {declared : List (StateVariable × Bool)}
    {m : VariableMembers} (hm : m ∈ (addVariables l d declared).1) {e : EnumType}
    (he : e ∈ m.enumeration) :
    ∃ d' v, e = (enumType l d' v (sanitize .type v.name)).1 := by
  induction declared generalizing d with
  | nil => simp [addVariables] at hm
  | cons first rest ih =>
    obtain ⟨v, accessible⟩ := first
    simp only [addVariables_cons, List.mem_cons] at hm
    rcases hm with hm | hm
    · simp only [hm, variableMembers_eq, enumType?_eq] at he
      split at he
      · exact ⟨_, v, (Option.some.inj he).symm⟩
      · exact absurd he (Option.not_mem_none _)
    · exact ih hm

end Draft

namespace ServiceClass

variable {l : Language} {className : String} {s : ServiceDescription} {c : ServiceClass}
  {m : Method}

theorem exists_bare_of_mem_writeFunctions (hserves : c.Serves l className s) {f : String}
    (hf : f ∈ c.writeFunctions m) : ∃ name, IsTypeName name ∧ f = l.escape name := by
  obtain ⟨q, -, hf⟩ := List.mem_flatMap.mp hf
  obtain ⟨e, henum, rfl⟩ := Option.map_eq_some_iff.mp (Option.mem_toList.mp hf)
  obtain ⟨v, hv, he⟩ := mem_of_argumentEnum? henum
  apply hserves.memberNames
  refine List.mem_append_left _ (List.mem_flatMap.mpr ⟨v, hv, ?_⟩)
  rw [Option.mem_def] at he
  simp [VariableMembers.names, he, EnumType.names]

theorem exists_bare_of_mem_readFunctions (answers : Option (List Answer)) {f : String}
    (hf : f ∈ (declare l className s answers).readFunctions m) :
    ∃ name, IsTypeName name ∧ name.toList.head? = some 'P' ∧ f = l.escape name := by
  obtain ⟨q, -, hf⟩ := List.mem_flatMap.mp hf
  obtain ⟨e, henum, rfl⟩ := Option.map_eq_some_iff.mp (Option.mem_toList.mp hf)
  obtain ⟨v, hv, he⟩ := mem_of_argumentEnum? henum
  simp only [declare_eq] at hv
  obtain ⟨d, v, rfl⟩ := Draft.exists_enumType_of_mem hv he
  exact Draft.enumType_parseFunction l d v (sanitize_isTypeName v.name)

/-- Where capitals count, a name that starts with none is not that of a member that starts with a
    capital. -/
theorem nameKey_ne_of_isLowered {name other : String} (hname : IsIdentifier name)
    (hlowered : IsLowered name) (hother : IsTypeName other)
    (hhead : other.toList.head? ≠ some '_') :
    Language.csharp.nameKey (Language.csharp.escape name) ≠
      Language.csharp.nameKey (Language.csharp.escape other) := by
  rw [Language.nameKey_escape _ hname, Language.nameKey_escape _ hother.isIdentifier]
  rintro (heq : name = other)
  obtain ⟨first, hfirst, hcapital | rfl⟩ := hother.head
  · have hsmall := hlowered first (by rw [heq, hfirst]; exact rfl)
    rw [hcapital] at hsmall
    cases hsmall
  · exact hhead hfirst

/-- The functions whose names a parameter may bear. Where capitals count these are just those that
    start with an underscore, as only a writing function may. -/
def exposedFunctions (l : Language) (c : ServiceClass) (m : Method) : List String :=
  match l with
  | .csharp => (c.writeFunctions m).filter fun f => (l.nameKey f).toList.head? == some '_'
  | .visualBasic => c.writeFunctions m ++ c.readFunctions m

theorem exposedFunctions_subset :
    c.exposedFunctions l m ⊆ c.writeFunctions m ++ c.readFunctions m := by
  cases l with
  | csharp =>
    exact List.Subset.trans (List.filter_sublist.subset) (List.subset_append_left _ _)
  | visualBasic => exact List.Subset.refl _

/-- A parameter bears the name of no other function. -/
theorem nameKey_ne_of_notMem_exposed (answers : Option (List Answer)) {f : String}
    (hf : f ∈ (declare l className s answers).writeFunctions m ++
      (declare l className s answers).readFunctions m)
    (hexposed : f ∉ (declare l className s answers).exposedFunctions l m) {name : String}
    (hname : IsIdentifier name) (hlowered : IsLowered name) :
    l.nameKey (l.escape name) ≠ l.nameKey f := by
  cases l with
  | visualBasic => exact absurd hf hexposed
  | csharp =>
    rcases List.mem_append.mp hf with hwrite | hread
    · obtain ⟨other, hother, rfl⟩ :=
        exists_bare_of_mem_writeFunctions (declare_serves .csharp className s answers) hwrite
      refine nameKey_ne_of_isLowered hname hlowered hother fun hhead => hexposed ?_
      refine List.mem_filter.mpr ⟨hwrite, ?_⟩
      rw [Language.nameKey_escape _ hother.isIdentifier]
      exact beq_iff_eq.mpr hhead
    · obtain ⟨other, hother, hhead, rfl⟩ := exists_bare_of_mem_readFunctions answers hread
      exact nameKey_ne_of_isLowered hname hlowered hother (by rw [hhead]; decide)

/-- **What parameters may hide.** The parameters of a method keep apart from the variables that every
    method has. They hide nothing that its body looks up just if none of them is called, as the
    language tells names apart, like the field for the service, like the constant of the action or
    like one of the exposed functions that the body calls. -/
theorem declare_capturesNothing_iff (l : Language) (className : String) (s : ServiceDescription)
    (answers : Option (List Answer)) (o : Options) :
    let c := declare l className s answers
    c.source o = .ok ((c.code o).text l) ∧
      c.methods.map Method.source = s.actions.values ∧
      ∀ m ∈ c.methods,
        (∀ q ∈ m.formals, ∀ name ∈ localNames, l.nameKey q.name ≠ l.nameKey name) ∧
        ∃ b : Block, b.IsSoleDeclaration l memberPlaces (c.code o).blocks m.name ∧
          l.invocation <:+: l.template b.kind ∧
          (b.signature l).map (fun p => p.2.1) = m.formals.map Parameter.name ∧
          (b.CapturesNothing l ↔ ∀ q ∈ m.formals, l.nameKey q.name ∉
            (serviceField :: m.constant :: c.exposedFunctions l m).map l.nameKey) := by
  have hserves := declare_serves l className s answers
  intro c
  have hlanguage : c.language = l := hserves.language
  refine ⟨hlanguage ▸ c.source_eq o, hserves.actions, fun m hm => ?_⟩
  have hparameters := (hserves.methods m hm).parameters
  have hlocals : ∀ q ∈ m.formals, ∀ name ∈ localNames, l.nameKey q.name ≠ l.nameKey name := by
    intro q hq
    have happart := (methodParameters_namesApart l m.source).apartBare
    rw [← hparameters] at happart
    exact happart q.name (List.mem_map_of_mem (Method.mem_parameters_of_mem_formals hq))
  obtain ⟨b, hb, hname, htemplate, hsignature, hlookedUp⟩ := c.exists_methodBlock l o m
  refine ⟨hlocals, b, ?_, htemplate, hsignature, ?_⟩
  · rw [← hlanguage] at hname ⊢
    exact member_isSoleDeclaration hserves o (mem_blocks_methodCode o hm hb) hname
  have hcaptures : b.CapturesNothing l ↔
      ∀ q ∈ m.formals, ∀ name ∈ b.lookedUp l, l.nameKey q.name ≠ l.nameKey name := by
    have hnames := congrArg (fun names => ∀ written ∈ names, ∀ name ∈ b.lookedUp l,
      l.nameKey written ≠ l.nameKey name) hsignature
    rw [Block.CapturesNothing]
    simpa only [List.forall_mem_map, eq_iff_iff] using hnames
  rw [hcaptures, hlookedUp]
  refine forall₂_congr fun q hq => ⟨fun hapart hmem => ?_, fun hnone name hname hsame => ?_⟩
  · obtain ⟨name, hname, hsame⟩ := List.mem_map.mp hmem
    refine hapart name ?_ hsame.symm
    rcases List.mem_cons.mp hname with rfl | hname
    · exact List.mem_append_left _ (List.mem_cons_self ..)
    · refine List.mem_append_right _ ?_
      rcases List.mem_cons.mp hname with rfl | hname
      · exact List.mem_cons_self ..
      · exact List.mem_cons_of_mem _ (exposedFunctions_subset hname)
  · have hexposed : name ∉ serviceField :: m.constant :: c.exposedFunctions l m := fun hmem =>
      hnone (List.mem_map.mpr ⟨name, hmem, hsame.symm⟩)
    simp only [List.mem_cons, not_or] at hexposed
    obtain ⟨hfield, hconstant, hfunction⟩ := hexposed
    rw [List.cons_append, List.mem_cons, List.mem_append, List.mem_cons] at hname
    rcases hname with hname | hname | hname | hname
    · exact hfield hname
    · exact hlocals q hq name hname hsame
    · exact hconstant hname
    · have hq := Method.mem_parameters_of_mem_formals hq
      rw [hparameters] at hq
      obtain ⟨bare, hbare, hlowered, hwritten⟩ := exists_bare_of_mem_methodParameters hq
      rw [hwritten] at hsame
      exact nameKey_ne_of_notMem_exposed answers hname hfunction hbare hlowered hsame

/-- An input argument of a name, related to the variable at a rank. -/
def inputArgument (name : String) (related : Option Nat) : Argument :=
  { Argument.blank ⟨"argument", []⟩ with name := name, direction := .input, related := related }

/-- A service with an action that has an argument of listed values, and one that is called like a
    variable of every method. -/
def lamp : ServiceDescription :=
  { ServiceDescription.blank ⟨"scpd", []⟩ with
    actions := KeyedMap.empty.insert
      { Action.blank ⟨"action", []⟩ with
        name := "SetMode"
        arguments := [inputArgument "Mode" (some 0), inputArgument "LoIn" none] }
    stateVariables := KeyedMap.empty.insert
      { StateVariable.blank ⟨"stateVariable", []⟩ with
        name := "Mode"
        dataTypeName := "string"
        allowedValues := some ⟨⟨"allowedValueList", []⟩, ["On"]⟩ } }

theorem lamp_capturesNothing :
    let c := declare .visualBasic "Lamp" lamp none
    ∃ m ∈ c.methods, m.formals.map Parameter.name = ["mode", "loIn2"] ∧
      c.exposedFunctions .visualBasic m = ["ModeEnumToString"] ∧
      ∀ o, ∃ b : Block, b.IsSoleDeclaration .visualBasic memberPlaces (c.code o).blocks m.name ∧
        b.CapturesNothing .visualBasic := by
  intro c
  have hmethods : c.methods.map (fun m => (m.formals.map Parameter.name, m.constant,
      c.exposedFunctions .visualBasic m)) =
        [(["mode", "loIn2"], "csActionName_SetMode", ["ModeEnumToString"])] := by decide +kernel
  obtain ⟨m, hm, hfacts⟩ := List.mem_map.mp (hmethods ▸ List.mem_singleton_self _)
  obtain ⟨hformals, hrest⟩ := Prod.mk.inj hfacts
  obtain ⟨hconstant, hexposed⟩ := Prod.mk.inj hrest
  refine ⟨m, hm, hformals, hexposed, fun o => ?_⟩
  obtain ⟨-, -, hcaptures⟩ := declare_capturesNothing_iff .visualBasic "Lamp" lamp none o
  obtain ⟨-, b, hsole, -, -, hiff⟩ := hcaptures m hm
  refine ⟨b, hsole, hiff.mpr ?_⟩
  have hnames : ∀ written ∈ m.formals.map Parameter.name, Language.visualBasic.nameKey written ∉
      (serviceField :: m.constant :: c.exposedFunctions .visualBasic m).map
        Language.visualBasic.nameKey := by
    rw [hformals, hconstant, hexposed]
    decide +kernel
  simpa only [List.forall_mem_map] using hnames

/-- A service with an action whose argument is called like the field for the service but for a
    capital. -/
def player : String :=
  "<scpd><actionList><action><name>Play</name><argumentList><argument><name>MoService</name>" ++
    "<direction>in</direction></argument></argumentList></action></actionList></scpd>"

/-- In either language the parameter hides the field from the method that has to invoke the action
    through it. -/
theorem player_captures :
    ∃ s, ServiceDescription.parse player = .ok s ∧ ∀ l o,
      let c := declare l "Player" s none
      ∃ m ∈ c.methods, ∃ b : Block,
        b.IsSoleDeclaration l memberPlaces (c.code o).blocks m.name ∧ ¬ b.CapturesNothing l := by
  have hparsed : (ServiceDescription.parse player).map (fun s =>
      [Language.csharp, Language.visualBasic].map fun l =>
        (declare l "Player" s none).methods.map fun m => m.formals.map Parameter.name) =
          .ok [[["moService"]], [["moService"]]] := by decide +kernel
  obtain ⟨s, hs, hmethods⟩ := exists_of_map_eq_ok hparsed
  refine ⟨s, hs, fun l o => ?_⟩
  have hformals : (declare l "Player" s none).methods.map (fun m => m.formals.map Parameter.name) =
      [["moService"]] := by
    obtain ⟨hcsharp, hrest⟩ := List.cons.inj hmethods
    cases l with
    | csharp => exact hcsharp
    | visualBasic => exact (List.cons.inj hrest).1
  obtain ⟨m, hm, hnames⟩ := List.mem_map.mp (hformals ▸ List.mem_singleton_self _)
  have hserves := declare_serves l "Player" s none
  obtain ⟨b, hb, hname, -, hsignature, hlookedUp⟩ :=
    (declare l "Player" s none).exists_methodBlock l o m
  refine ⟨m, hm, b, ?_, fun hcaptures => ?_⟩
  · rw [← hserves.language] at hname ⊢
    exact member_isSoleDeclaration hserves o (mem_blocks_methodCode o hm hb) hname
  · rw [hnames] at hsignature
    obtain ⟨q, hq, hwritten⟩ := List.mem_map.mp (hsignature ▸ List.mem_singleton_self _)
    refine hcaptures q hq serviceField ?_ (by rw [hwritten]; rfl)
    rw [hlookedUp]
    exact List.mem_cons_self ..

end ServiceClass

end Class

end ControlPoint
