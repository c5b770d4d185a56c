import Mathlib
import ControlPoint.Proofs.Class.Closed

namespace ControlPoint

open Description Naming Template

/-! ### How a method is written -/

namespace Language

/-- The cell of an array. -/
def cellText : Language → String → Nat → String
  | csharp, array, i => array ++ "[" ++ toString i ++ "]"
  | visualBasic, array, i => array ++ "(" ++ toString i ++ ")"

/-- The statement that sets something to a value. -/
def assignmentText : Language → String → String → String
  | csharp, target, value => target ++ " = " ++ value ++ ";"
  | visualBasic, target, value => target ++ " = " ++ value

/-- A value taken for one of a type. -/
def castText : Language → String → String → String
  | csharp, type, value => "(" ++ type ++ ")" ++ value
  | visualBasic, type, value => "CType(" ++ value ++ ", " ++ type ++ ")"

/-- A value taken for a text. -/
def textCastText : Language → String → String
  | csharp, value => "(string)" ++ value
  | visualBasic, value => "CStr(" ++ value ++ ")"

/-- The part of a method's template that declares the array to be handed over. -/
def arrayDeclaration : Language → List Part
  | csharp => [("    object[] loIn = new object[" : Piece), Piece.slot "in_count", ("];" : Piece)]
  | visualBasic => [("    Dim loIn(" : Piece), Piece.slot "in_upper", (") As Object" : Piece)]

theorem arrayDeclaration_infix_template (l : Language) :
    ∀ kind ∈ [Kind.singleReturnAction, Kind.multiOutAction],
      l.arrayDeclaration <:+: l.template kind := by
  cases l <;> decide +kernel

end Language

namespace Class

namespace ServiceClass

variable (l : Language) (c : ServiceClass)

/-- An input argument is put into its cell, through the writing function of its enumeration. -/
theorem inputCode_text (q : Parameter) (i : Nat) :
    (c.inputCode q i).text l = l.assignmentText (l.cellText "loIn" i)
      (match c.argumentEnum? q.source with
        | some e => e.toStringFunction ++ "(" ++ q.name ++ ")"
        | none => q.name) := by
  apply Language.fill_of_render
  cases l <;> cases c.argumentEnum? q.source <;>
    simp [Template.render, Part.render, Piece.render, renderPieces, bind, Except.bind, pure,
      Except.pure, Language.template, Language.csharpTemplate, Language.visualBasicTemplate,
      Code.fieldValues, Fields.value?, Fields.holds, Value.print, toStringFunction,
      Language.assignmentText, Language.cellText, String.append_assoc] <;>
    rfl

/-- An output argument is taken out of its cell, through the reading function of its enumeration. -/
theorem outputCode_text (q : Parameter) (j : Nat) :
    (c.outputCode q j).text l =
      match c.argumentEnum? q.source with
      | some e => e.parseFunction ++ "(" ++ l.textCastText (l.cellText "loOutValues" j) ++ ")"
      | none => l.castText (c.argumentType q.source) (l.cellText "loOutValues" j) := by
  apply Language.fill_of_render
  cases l <;> cases c.argumentEnum? q.source <;>
    simp [Template.render, Part.render, Piece.render, renderPieces, bind, Except.bind, pure,
      Except.pure, Language.template, Language.csharpTemplate, Language.visualBasicTemplate,
      Code.fieldValues, Fields.value?, Fields.holds, Value.print, parseFunction,
      Language.castText, Language.textCastText, Language.cellText, String.append_assoc] <;>
    rfl

/-- What an output argument yields is put into its parameter. -/
theorem resultCode_text (q : Parameter) (j : Nat) :
    (c.resultCode q j).text l = l.assignmentText q.name ((c.outputCode q j).text l) := by
  apply Language.fill_of_render
  cases l <;>
    simp [Template.render, Part.render, Piece.render, bind, Except.bind, pure, Except.pure,
      Language.template, Language.csharpTemplate, Language.visualBasicTemplate, Code.fieldValues,
      Fields.value?, Value.print, Language.assignmentText, String.append_assoc] <;>
    rfl

end ServiceClass

/-! ### What a method does when it is called -/

/-- What the code of a class works with besides its own variables: what a fresh cell of an array
    holds, the functions of the class, and the conversions of its language. -/
structure Runtime (V : Type) where
  nothing : V
  call : String → V → V
  toText : V → V
  toType : String → V → V

/-- Variables with their values, the last one set first. -/
abbrev Locals (V : Type) := List (String × V)

/-- The value of a variable, however its name may be spelled. -/
def Locals.value? {V : Type} (l : Language) (x : Locals V) (name : String) : Option V :=
  (x.find? fun v => l.nameKey v.1 == l.nameKey name).map Prod.snd

/-- The number that a value is. -/
def asWhole? : Value → Option Int
  | .whole n => some n
  | _ => none

namespace Block

/-- The blocks of the code at a place of the block. -/
def filling (b : Block) (place : String) : List Block :=
  match b.fields.find? fun field => field.1 == place with
  | some field => field.2.blocks
  | none => []

/-- The number at a place of the block. -/
def whole? (l : Language) (b : Block) (place : String) : Option Int :=
  ((b.values l).value? place).bind asWhole?

/-- The parameters of a method: whether each is set by the method, its name and its type. -/
def signature (l : Language) (b : Block) : List (Bool × String × String) :=
  (b.filling "parameters").map fun p =>
    ((p.values l).holds "out", p.text l "name", p.text l "type")

/-- The number of cells in the array that a method hands over. One language declares an array with
    its size, the other with its last index. -/
def arraySize? (l : Language) (b : Block) : Option Int :=
  match l with
  | .csharp => b.whole? l "in_count"
  | .visualBasic => (b.whole? l "in_upper").map (· + 1)

/-- The variables of a method that is called with some values. -/
def locals {V : Type} (l : Language) (b : Block) (values : List V) : Locals V :=
  ((b.signature l).map fun p => p.2.1).zip values

section Execution

variable {V : Type} (l : Language) (r : Runtime V)

/-- Puts a variable into its cell, through a writing function where the block names one. -/
def store? (x : Locals V) (cells : List V) (b : Block) : Option (List V) := do
  let v ← x.value? l (b.text l "name")
  match b.whole? l "index" with
  | some (.ofNat i) =>
    if i < cells.length then
      some (cells.set i
        (if (b.values l).holds "enumerated" then r.call (b.text l "to_string_function") v else v))
    else none
  | _ => none

/-- The cells that a method hands over when it is called with some values, if it reads only
    variables and sets only cells that are there. -/
def callArray? (b : Block) (values : List V) : Option (List V) := do
  let size ← b.arraySize? l
  (b.filling "in_assignments").foldlM (store? l r (b.locals l values))
    (List.replicate size.toNat r.nothing)

/-- Takes a value out of its cell, through a reading function where the block names one. -/
def fetch? (answer : List V) (b : Block) : Option V :=
  match b.whole? l "index" with
  | some (.ofNat j) => answer[j]?.map fun v =>
      if (b.values l).holds "enumerated" then r.call (b.text l "parse_function") (r.toText v)
      else r.toType (b.text l "type") v
  | _ => none

/-- Takes the value at a place of the block out of its cell. -/
def fetchAt? (answer : List V) (b : Block) (place : String) : Option V :=
  match b.filling place with
  | [value] => value.fetch? l r answer
  | _ => none

/-- Sets a variable to what is taken out of a cell. -/
def assign? (answer : List V) (x : Locals V) (b : Block) : Option (Locals V) := do
  let v ← b.fetchAt? l r answer "value"
  return (b.text l "name", v) :: x

/-- The variables of a method, called with some values, after it has taken the answer apart. -/
def results? (b : Block) (values answer : List V) : Option (Locals V) :=
  ((b.filling "out_assignments").filter fun a => a.kind == .outAssignment).foldlM
    (assign? l r answer) (b.locals l values)

end Execution

@[simp] theorem filling_cons (kind : Kind) (subject name : String) (c : Code)
    (rest : List (String × Code)) (place : String) :
    filling ⟨kind, subject, (name, c) :: rest⟩ place =
      if name = place then c.blocks else filling ⟨kind, subject, rest⟩ place := by
  by_cases h : name = place <;> simp [filling, h]

@[simp] theorem whole?_cons (l : Language) (kind : Kind) (subject name : String) (c : Code)
    (rest : List (String × Code)) (place : String) :
    whole? l ⟨kind, subject, (name, c) :: rest⟩ place =
      if name = place then asWhole? (c.asValue l) else whole? l ⟨kind, subject, rest⟩ place := by
  by_cases h : name = place <;> simp [whole?, values, Code.fieldValues, Fields.value?, h]

end Block

namespace Locals

variable {V : Type} {l : Language} {x y : Locals V} {name : String} {v : V}

/-- A variable has the value that was set if no two variables bear one name. -/
theorem value?_of_mem (hdistinct : (x.map fun v => l.nameKey v.1).Nodup) (hmem : (name, v) ∈ x) :
    x.value? l name = some v := by
  unfold value?
  cases hfind : x.find? fun v => l.nameKey v.1 == l.nameKey name with
  | none => simpa using List.find?_eq_none.mp hfind _ hmem
  | some found =>
    have hkey : l.nameKey found.1 = l.nameKey name := by simpa using List.find?_some hfind
    obtain rfl := List.inj_on_of_nodup_map hdistinct (List.mem_of_find?_eq_some hfind) hmem hkey
    rfl

/-- Setting other variables leaves a variable as it was. -/
theorem value?_append_of_forall_ne (hne : ∀ w ∈ x, l.nameKey w.1 ≠ l.nameKey name) :
    Locals.value? l (x ++ y) name = y.value? l name := by
  have hnone : x.find? (fun v => l.nameKey v.1 == l.nameKey name) = none := by
    simpa [List.find?_eq_none] using hne
  rw [value?, value?, List.find?_append, hnone, Option.none_or]

theorem value?_append_of_some (hvalue : x.value? l name = some v) :
    Locals.value? l (x ++ y) name = some v := by
  obtain ⟨found, hfind, rfl⟩ := Option.map_eq_some_iff.mp hvalue
  rw [value?, List.find?_append, hfind]
  rfl

end Locals

/-! ### The arguments of an action -/

theorem parametersFrom_sources (l : Language) (names : Scope) (arguments : List Argument) :
    (parametersFrom l names arguments).map Parameter.source = arguments := by
  induction arguments generalizing names with
  | nil => rfl
  | cons a rest ih => exact congrArg (a :: ·) (ih _)

namespace Method

variable {l : Language} {p : ConstantPool} {m : Method}

theorem Serves.parameters_sources (hserves : m.Serves l p) :
    m.parameters.map Parameter.source = m.source.arguments.filter isDirected := by
  rw [hserves.parameters, methodParameters, parametersFrom_sources]

theorem Serves.parameters_distinct (hserves : m.Serves l p) :
    (m.parameters.map fun q => l.nameKey q.name).Nodup := by
  have hdistinct := (methodParameters_namesApart l m.source).distinctBare
  rwa [← hserves.parameters, List.map_map] at hdistinct

/-- The parameters that go one way are counted as the arguments of the action are that go this way. -/
theorem Serves.directed_eq (hserves : m.Serves l p) {way : Direction} (hway : way ≠ .unknown) :
    (m.directed way).map (fun q => (q.2, q.1.source)) =
      (m.source.arguments.filter fun a => a.direction == way).zipIdx.map fun a => (a.2, a.1) := by
  have hdirected : (m.source.arguments.filter isDirected).filter (fun a => a.direction == way) =
      m.source.arguments.filter fun a => a.direction == way := by
    rw [List.filter_filter]
    apply List.filter_congr
    intro a _
    by_cases h : a.direction = way <;> simp [isDirected, h, hway]
  rw [← hdirected, ← hserves.parameters_sources, List.filter_map, List.zipIdx_map, List.map_map]
  rfl

theorem Serves.inputs_eq (hserves : m.Serves l p) :
    (m.directed .input).map (fun q => (q.2, q.1.source)) = m.source.inputs :=
  hserves.directed_eq (by decide)

theorem Serves.outputs_eq (hserves : m.Serves l p) :
    (m.directed .output).map (fun q => (q.2, q.1.source)) = m.source.outputs :=
  hserves.directed_eq (by decide)

theorem map_directed {α : Type} (way : Direction) (f : Parameter → α) :
    (m.directed way).map (fun q => f q.1) =
      (m.parameters.filter fun q => q.source.direction == way).map f := by
  conv_rhs => rw [← List.zipIdx_map_fst 0 (m.parameters.filter _), List.map_map]
  rfl

theorem lt_of_directed {way : Direction} {q : Parameter × Nat} (hq : q ∈ m.directed way) :
    q.2 < (m.directed way).length := by
  simpa [directed] using List.snd_lt_of_mem_zipIdx hq

theorem directed_distinct {κ : Type} {key : Parameter → κ} (hdistinct : (m.parameters.map key).Nodup)
    (way : Direction) : ((m.directed way).map fun q => key q.1).Nodup := by
  rw [m.map_directed way key]
  exact hdistinct.sublist (List.filter_sublist.map _)

theorem mem_of_directed {way : Direction} {q : Parameter × Nat} (hq : q ∈ m.directed way) :
    q.1 ∈ m.parameters ∧ q.1.source.direction = way := by
  simpa using List.fst_mem_of_mem_zipIdx hq

end Method

/-! ### What becomes of each argument -/

namespace ServiceClass

/-- How the class treats an argument: by the members of the variable to which it was found to be
    related, or as a value of which nothing is known. -/
inductive Treats (l : Language) (s : ServiceDescription) (c : ServiceClass) (a : Argument) : Prop
  | asRelated (rank : Nat) (v : VariableMembers) (hrank : a.related = some rank)
      (hmember : c.members[rank]? = some v) (hsource : s.relatedVariable? a = some v.source)
      (hexposed : c.argumentType a = v.exposedType) (henum : c.argumentEnum? a = v.enumeration)
      (henumerated : v.enumeration.isSome = v.source.isEnumerated)
  | asUnknown (hsource : s.relatedVariable? a = none) (htype : c.argumentType a = l.unknownType)
      (henum : c.argumentEnum? a = none)

/-- What is put into the cell of an input argument. -/
def sent {V : Type} (r : Runtime V) (c : ServiceClass) (a : Argument) (v : V) : V :=
  match c.argumentEnum? a with
  | some e => r.call e.toStringFunction v
  | none => v

/-- What is made of the cell of an output argument. -/
def received {V : Type} (r : Runtime V) (c : ServiceClass) (a : Argument) (v : V) : V :=
  match c.argumentEnum? a with
  | some e => r.call e.parseFunction (r.toText v)
  | none => r.toType (c.argumentType a) v

end ServiceClass

namespace Method

variable (l : Language) (c : ServiceClass) (m : Method) (b : Block)

/-- The method takes the input arguments and returns the only output argument. -/
structure Returns : Prop where
  kind : b.kind = .singleReturnAction
  signature : b.signature l =
    (m.directed .input).map fun q => (false, q.1.name, c.argumentType q.1.source)
  returnType : ∀ q ∈ m.directed .output, b.text l "return_type" = c.argumentType q.1.source
  sends {V : Type} (r : Runtime V) (passed : Parameter → V) :
    b.callArray? l r ((m.directed .input).map fun q => passed q.1) =
      some ((m.directed .input).map fun q => c.sent r q.1.source (passed q.1))
  returns {V : Type} (r : Runtime V) (answer : List V) : ∀ q ∈ m.directed .output,
    b.fetchAt? l r answer "return_value" = answer[q.2]?.map (c.received r q.1.source)

/-- The method returns nothing. It takes all arguments whose direction is known, and sets those that
    go out. -/
structure SetsOutputs : Prop where
  kind : b.kind = .multiOutAction
  signature : b.signature l =
    m.parameters.map fun q => (q.source.isOutput, q.name, c.argumentType q.source)
  sends {V : Type} (r : Runtime V) (passed : Parameter → V) :
    b.callArray? l r (m.parameters.map passed) =
      some ((m.directed .input).map fun q => c.sent r q.1.source (passed q.1))
  sets {V : Type} (r : Runtime V) (passed : Parameter → V) (answer : List V)
    (hanswer : m.source.outputs.length ≤ answer.length) :
    ∃ after, b.results? l r (m.parameters.map passed) answer = some after ∧
      (∀ q ∈ m.directed .input, after.value? l q.1.name = some (passed q.1)) ∧
      ∀ q ∈ m.directed .output,
        after.value? l q.1.name = answer[q.2]?.map (c.received r q.1.source)

/-- The method hands the input arguments over and takes the output arguments back, each in the cell
    that has its place among those that go the same way. -/
structure Marshals : Prop where
  parameters : m.parameters.map Parameter.source = m.source.arguments.filter isDirected
  inputs : (m.directed .input).map (fun q => (q.2, q.1.source)) = m.source.inputs
  outputs : (m.directed .output).map (fun q => (q.2, q.1.source)) = m.source.outputs
  size : b.arraySize? l = some m.source.inputs.length
  shape : if m.source.outputs.length = 1 then m.Returns l c b else m.SetsOutputs l c b

end Method

namespace ServiceClass

variable {l : Language} {className : String} {s : ServiceDescription} {c : ServiceClass}

theorem treats (hserves : c.Serves l className s) (a : Argument) : c.Treats l s a := by
  have hvariable : s.relatedVariable? a = (c.related? a).map VariableMembers.source := by
    rw [ServiceDescription.relatedVariable?, related?, Option.map_bind]
    congr 1
    funext i
    rw [Function.comp_apply, ← List.getElem?_map, hserves.sources, KeyedMap.values,
      List.getElem?_map, KeyedMap.at?]
  cases hrelated : c.related? a with
  | none =>
    refine .asUnknown (by rw [hvariable, hrelated]; rfl) ?_ ?_
    · rw [argumentType, hrelated, hserves.language]
    · rw [argumentEnum?, hrelated, Option.bind_none]
  | some v =>
    obtain ⟨rank, hrank, hmember⟩ := Option.bind_eq_some_iff.mp hrelated
    refine .asRelated rank v hrank hmember (by rw [hvariable, hrelated]; rfl) ?_ ?_ ?_
    · rw [argumentType, hrelated]
    · rw [argumentEnum?, hrelated, Option.bind_some]
    · exact (hserves.members v (List.mem_of_getElem? hmember)).enumerated

/-! ### The call -/

section Call

variable {V : Type} (r : Runtime V) {x : Locals V}

/-- The block of an input argument fills the next cell. -/
theorem store?_inputCode {q : Parameter} {v : V} (hvalue : x.value? l q.name = some v)
    (done rest : List V) (cell : V) :
    ∃ b, (c.inputCode q done.length).blocks = [b] ∧
      b.store? l r x (done ++ cell :: rest) = some (done ++ c.sent r q.source v :: rest) := by
  refine ⟨_, rfl, ?_⟩
  cases henum : c.argumentEnum? q.source <;>
    simp [Block.store?, hvalue, asWhole?, sent, henum, toStringFunction]

/-- The blocks of the input arguments fill one cell after another. -/
theorem foldlM_store? {qs : List Parameter} {passed : Parameter → V}
    (hpassed : ∀ q ∈ qs, x.value? l q.name = some (passed q)) (done : List V) :
    ((qs.zipIdx done.length).flatMap fun q => (c.inputCode q.1 q.2).blocks).foldlM
        (Block.store? l r x) (done ++ List.replicate qs.length r.nothing) =
      some (done ++ qs.map fun q => c.sent r q.source (passed q)) := by
  induction qs generalizing done with
  | nil => rfl
  | cons q qs ih =>
    rw [List.forall_mem_cons] at hpassed
    obtain ⟨b, hb, hstore⟩ := store?_inputCode (c := c) r hpassed.1 done
      (List.replicate qs.length r.nothing) r.nothing
    have hnext := ih hpassed.2 (done ++ [c.sent r q.source (passed q)])
    rw [List.zipIdx_cons, List.flatMap_cons, List.foldlM_append, hb, List.length_cons,
      List.replicate_succ, List.foldlM_cons, hstore]
    simpa using hnext

end Call

section Method

variable (c) (o : Options) (m : Method)

/-- The block of a method that has some fields beside those of every method. -/
def methodBlock (kind : Kind) (fields : List (String × Code)) : Block :=
  ⟨kind, m.source.name, c.callFields o m ++ fields⟩

variable {o m} {kind : Kind} {fields : List (String × Code)}

theorem arraySize?_methodBlock (l : Language) :
    (c.methodBlock o m kind fields).arraySize? l = some (m.directed .input).length := by
  cases l <;> simp [methodBlock, Block.arraySize?, callFields, asWhole?]

theorem callArray?_methodBlock {V : Type} (r : Runtime V) {values : List V}
    {passed : Parameter → V}
    (hpassed : ∀ q ∈ m.directed .input,
      ((c.methodBlock o m kind fields).locals l values).value? l q.1.name = some (passed q.1)) :
    (c.methodBlock o m kind fields).callArray? l r values =
      some ((m.directed .input).map fun q => c.sent r q.1.source (passed q.1)) := by
  have hstores : (c.methodBlock o m kind fields).filling "in_assignments" =
      (m.directed .input).flatMap fun q => (c.inputCode q.1 q.2).blocks := by
    simp [methodBlock, callFields, List.flatMap_map]
  rw [Block.callArray?, arraySize?_methodBlock, hstores]
  -- the parameters alone, which the counting leaves in order
  have hforall : ∀ q ∈ m.parameters.filter (fun q => q.source.direction == .input),
      ((c.methodBlock o m kind fields).locals l values).value? l q.name = some (passed q) := by
    rw [← List.zipIdx_map_fst 0 (m.parameters.filter _), List.forall_mem_map]
    exact hpassed
  rw [m.map_directed .input fun q => c.sent r q.source (passed q)]
  simpa [Method.directed] using foldlM_store? (c := c) r hforall []

/-- The parameters of a method are those for which it has blocks. -/
theorem signature_methodBlock (kind : Kind) {formals : List (Bool × Parameter)}
    (hfields : fields.head? = some ("parameters", Code.joined ", "
      (formals.map fun q => c.parameterCode q.1 q.2))) (l : Language) :
    (c.methodBlock o m kind fields).signature l =
      formals.map fun q => (q.1, q.2.name, c.argumentType q.2.source) := by
  obtain ⟨fields, rfl⟩ := List.head?_eq_some_iff.mp hfields
  simp [methodBlock, callFields, Block.signature, parameterCode, List.flatMap_map,
    ← List.map_eq_flatMap]

theorem signature_returnFields (o : Options) (m : Method) (single : Parameter) (index : Nat)
    (l : Language) :
    (c.methodBlock o m .singleReturnAction (c.returnFields m single index)).signature l =
      ((m.directed .input).map fun q => (false, q.1)).map fun q =>
        (q.1, q.2.name, c.argumentType q.2.source) :=
  signature_methodBlock c _ (by simp [returnFields, Function.comp_def]) l

theorem signature_outFields (o : Options) (m : Method) (outs : List (Parameter × Nat))
    (l : Language) :
    (c.methodBlock o m .multiOutAction (c.outFields m outs)).signature l =
      (m.parameters.map fun q => (q.source.isOutput, q)).map fun q =>
        (q.1, q.2.name, c.argumentType q.2.source) :=
  signature_methodBlock c _ (by simp [outFields, Function.comp_def]) l

end Method

/-- A method's parameter is passed what was passed in its place. -/
theorem value?_locals {V : Type} {b : Block} {formals : List (Bool × Parameter)}
    (hsignature : b.signature l =
      formals.map fun q => (q.1, q.2.name, c.argumentType q.2.source))
    (hdistinct : (formals.map fun q => l.nameKey q.2.name).Nodup) (passed : Parameter → V)
    {q : Bool × Parameter} (hq : q ∈ formals) :
    (b.locals l (formals.map fun q => passed q.2)).value? l q.2.name = some (passed q.2) := by
  have hlocals : b.locals l (formals.map fun q => passed q.2) =
      formals.map fun q => (q.2.name, passed q.2) := by
    rw [Block.locals, hsignature, List.map_map, List.zip_map']
    rfl
  rw [hlocals]
  apply Locals.value?_of_mem
  · rwa [List.map_map]
  · exact List.mem_map_of_mem hq

/-! ### The answer -/

section Answer

variable {V : Type} (r : Runtime V)

theorem fetch?_outputCode (q : Parameter) (j : Nat) (answer : List V) :
    ∃ b, (c.outputCode q j).blocks = [b] ∧
      b.fetch? l r answer = answer[j]?.map (c.received r q.source) := by
  refine ⟨_, rfl, ?_⟩
  cases henum : c.argumentEnum? q.source <;>
    simp [Block.fetch?, asWhole?, henum, parseFunction, funext fun v => received.eq_def r c q.source v]

theorem assign?_resultCode (q : Parameter) {j : Nat} {answer : List V} {v : V}
    (hcell : answer[j]? = some v) (x : Locals V) :
    ∃ b, (c.resultCode q j).blocks.filter (fun a => a.kind == .outAssignment) = [b] ∧
      b.assign? l r answer x = some ((q.name, c.received r q.source v) :: x) := by
  obtain ⟨value, hvalue, hfetch⟩ := fetch?_outputCode (l := l) (c := c) r q j answer
  rw [hcell, Option.map_some] at hfetch
  refine ⟨⟨.outAssignment, q.source.name, [("name", q.name), ("value", c.outputCode q j)]⟩, ?_, ?_⟩
  · simp [resultCode, outputCode]
  · simp [Block.assign?, Block.fetchAt?, hvalue, hfetch]

/-- The blocks of the output arguments set one variable after another. -/
theorem foldlM_assign? {outs : List (Parameter × Nat)} {answer : List V} {cell : Nat → V}
    (hcells : ∀ q ∈ outs, answer[q.2]? = some (cell q.2)) (x : Locals V) :
    ((outs.flatMap fun q => (c.resultCode q.1 q.2).blocks).filter
        fun a => a.kind == .outAssignment).foldlM (Block.assign? l r answer) x =
      some ((outs.map fun q => (q.1.name, c.received r q.1.source (cell q.2))).reverse ++ x) := by
  induction outs generalizing x with
  | nil => rfl
  | cons q outs ih =>
    rw [List.forall_mem_cons] at hcells
    obtain ⟨b, hb, hassign⟩ := assign?_resultCode (l := l) (c := c) r q.1 hcells.1 x
    rw [List.flatMap_cons, List.filter_append, hb, List.singleton_append, List.foldlM_cons, hassign]
    simpa using ih hcells.2 _

/-- The variables that are set from the answer, the last one first. -/
def answered (c : ServiceClass) (m : Method) (cell : Nat → V) : Locals V :=
  ((m.directed .output).map fun q => (q.1.name, c.received r q.1.source (cell q.2))).reverse

variable {m : Method}

theorem value?_answered_append (hdistinct : (m.parameters.map fun q => l.nameKey q.name).Nodup)
    (cell : Nat → V) (x : Locals V) {q : Parameter × Nat} (hq : q ∈ m.directed .output) :
    Locals.value? l (c.answered r m cell ++ x) q.1.name =
      some (c.received r q.1.source (cell q.2)) := by
  apply Locals.value?_append_of_some
  apply Locals.value?_of_mem
  · rw [answered, List.map_reverse, List.nodup_reverse, List.map_map]
    exact Method.directed_distinct hdistinct .output
  · exact List.mem_reverse.mpr (List.mem_map_of_mem hq)

theorem value?_answered_append_of_ne
    (hdistinct : (m.parameters.map fun q => l.nameKey q.name).Nodup) (cell : Nat → V)
    (x : Locals V) {q : Parameter} (hq : q ∈ m.parameters) (hway : q.source.direction ≠ .output) :
    Locals.value? l (c.answered r m cell ++ x) q.name = x.value? l q.name := by
  apply Locals.value?_append_of_forall_ne
  simp only [answered, List.mem_reverse, List.forall_mem_map]
  intro out hout hkey
  obtain ⟨hmem, hdirection⟩ := Method.mem_of_directed hout
  obtain rfl := List.inj_on_of_nodup_map hdistinct hmem hq hkey
  exact hway hdirection

end Answer

/-! ### Methods -/

theorem mem_blocks_methodCode (o : Options) {m : Method} (hm : m ∈ c.methods) {b : Block}
    (hb : b ∈ (c.methodCode o m).blocks) : b ∈ (c.code o).blocks := by
  have hsection : ("Actions", c.methodsCode o) ∈ c.sections o := by simp [sections]
  exact c.mem_blocks_of_part o hsection (List.mem_map_of_mem hm) hb

/-- A method with one output argument. -/
theorem returns_methodBlock (o : Options) {m : Method}
    (hdistinct : (m.parameters.map fun q => l.nameKey q.name).Nodup) {single : Parameter}
    {index : Nat} (hsingle : m.directed .output = [(single, index)]) :
    m.Returns l c (c.methodBlock o m .singleReturnAction (c.returnFields m single index)) := by
  have hsignature := signature_returnFields c o m single index l
  have hformals := Method.directed_distinct hdistinct .input
  constructor
  case kind => rfl
  case signature => simpa [Function.comp_def] using hsignature
  case returnType => simp [hsingle, methodBlock, callFields, returnFields]
  case sends =>
    intro V r passed
    apply callArray?_methodBlock
    intro q hq
    have hvalue := value?_locals hsignature (by simpa [Function.comp_def] using hformals) passed
      (List.mem_map_of_mem hq)
    simpa [Function.comp_def] using hvalue
  case returns =>
    intro V r answer
    rw [hsingle, List.forall_mem_singleton]
    obtain ⟨value, hvalue, hfetch⟩ := fetch?_outputCode (l := l) (c := c) r single index answer
    simpa [methodBlock, callFields, returnFields, Block.fetchAt?, hvalue] using hfetch

/-- A method with several output arguments or none. -/
theorem setsOutputs_methodBlock (o : Options) {m : Method}
    (hdistinct : (m.parameters.map fun q => l.nameKey q.name).Nodup)
    (hlength : (m.directed .output).length = m.source.outputs.length) :
    m.SetsOutputs l c (c.methodBlock o m .multiOutAction (c.outFields m (m.directed .output))) := by
  let b := c.methodBlock o m .multiOutAction (c.outFields m (m.directed .output))
  have hsignature := signature_outFields c o m (m.directed .output) l
  have hvalue {V : Type} (passed : Parameter → V) {q : Parameter} (hq : q ∈ m.parameters) :
      (b.locals l (m.parameters.map passed)).value? l q.name = some (passed q) := by
    have hvalue := value?_locals hsignature (by simpa [Function.comp_def] using hdistinct) passed
      (List.mem_map_of_mem hq)
    simpa [Function.comp_def] using hvalue
  constructor
  case kind => rfl
  case signature => simpa [Function.comp_def] using hsignature
  case sends =>
    intro V r passed
    exact callArray?_methodBlock c r fun q hq => hvalue passed (Method.mem_of_directed hq).1
  case sets =>
    intro V r passed answer hanswer
    have hassignments : b.filling "out_assignments" =
        (m.directed .output).flatMap fun q => (c.resultCode q.1 q.2).blocks := by
      simp [b, methodBlock, callFields, outFields, List.flatMap_map]
    let cell := fun j : Nat => answer[j]?.getD r.nothing
    have hcells : ∀ q ∈ m.directed .output, answer[q.2]? = some (cell q.2) := by
      intro q hq
      have hlt : q.2 < answer.length := by
        have := Method.lt_of_directed hq
        omega
      simp [cell, hlt]
    refine ⟨c.answered r m cell ++ b.locals l (m.parameters.map passed), ?_, fun q hq => ?_,
      fun q hq => ?_⟩
    · rw [Block.results?, hassignments]
      exact foldlM_assign? r hcells _
    · obtain ⟨hmem, hway⟩ := Method.mem_of_directed hq
      rw [value?_answered_append_of_ne r hdistinct cell _ hmem (by simp [hway]), hvalue passed hmem]
    · rw [value?_answered_append r hdistinct cell _ hq, hcells q hq, Option.map_some]

/-- The code of a method starts with a block that declares the method and marshals its arguments. -/
theorem marshals_of_serves (o : Options) {p : ConstantPool} {m : Method} (hserves : m.Serves l p) :
    ∃ b ∈ (c.methodCode o m).blocks, m.name ∈ b.declared l memberPlaces ∧ m.Marshals l c b := by
  have hinputs := hserves.inputs_eq
  have houtputs := hserves.outputs_eq
  have hcount : (m.directed .input).length = m.source.inputs.length := by
    rw [← hinputs, List.length_map]
  have hlength : (m.directed .output).length = m.source.outputs.length := by
    rw [← houtputs, List.length_map]
  have hdistinct := hserves.parameters_distinct
  have hmarshals {kind : Kind} {fields : List (String × Code)}
      (hshape : if m.source.outputs.length = 1 then
          m.Returns l c (c.methodBlock o m kind fields)
        else m.SetsOutputs l c (c.methodBlock o m kind fields)) :
      m.Marshals l c (c.methodBlock o m kind fields) :=
    ⟨hserves.parameters_sources, hinputs, houtputs,
      by rw [arraySize?_methodBlock, hcount], hshape⟩
  unfold methodCode
  split
  case h_1 single index hsingle =>
    refine ⟨_, List.mem_cons_self .., ?_, hmarshals ?_⟩
    · simp [Block.declared, memberPlaces, callFields]
    · rw [if_pos (by rw [← hlength, hsingle]; rfl)]
      exact returns_methodBlock o hdistinct hsingle
  case h_2 outs hseveral =>
    refine ⟨_, List.mem_cons_self .., ?_, hmarshals ?_⟩
    · simp [Block.declared, memberPlaces, callFields]
    · rw [if_neg ?_]
      · exact setsOutputs_methodBlock o hdistinct hlength
      · rw [← hlength, List.length_eq_one_iff]
        rintro ⟨⟨single, index⟩, hsingle⟩
        exact hseveral single index hsingle

end ServiceClass

end Class

end ControlPoint
