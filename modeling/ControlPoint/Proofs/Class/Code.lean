import Mathlib
import ControlPoint.Class.Layout
import ControlPoint.Proofs.Lists
import ControlPoint.Proofs.Language.Escape
import ControlPoint.Proofs.Language.Places

namespace ControlPoint.Class

open Template

/-- Source code in blocks. Each block fills a template, with values and with the code inside it. Its
    subject, which is not written, is what the description calls the thing that the block is for. -/
inductive Code
  | value (v : Value)
  | block (kind : Kind) (subject : String) (fields : List (String × Code))
  | joined (separator : String) (parts : List Code)

/-- A block of code. -/
structure Block where
  kind : Kind
  subject : String
  fields : List (String × Code)

namespace Code

instance : Coe String Code := ⟨fun s => value s⟩

instance : Coe Bool Code := ⟨fun b => value b⟩

mutual

/-- Code as it fills the place of a template. -/
def asValue (l : Language) : Code → Value
  | value v => v
  | block kind _ fields => l.fill kind (fieldValues l fields)
  | joined separator parts => String.intercalate separator (texts l parts)
termination_by structural c => c

/-- The values with which a block fills its template. -/
def fieldValues (l : Language) : List (String × Code) → Fields
  | [] => []
  | (name, c) :: rest => (name, c.asValue l) :: fieldValues l rest
termination_by structural fields => fields

def texts (l : Language) : List Code → List String
  | [] => []
  | c :: rest => (c.asValue l).print :: texts l rest
termination_by structural parts => parts

end

/-- Code as it is written. -/
def text (l : Language) (c : Code) : String :=
  (c.asValue l).print

mutual

/-- The blocks of code, an outer one before those inside it. -/
def blocks : Code → List Block
  | value _ => []
  | block kind subject fields => ⟨kind, subject, fields⟩ :: fieldBlocks fields
  | joined _ parts => partBlocks parts
termination_by structural c => c

def fieldBlocks : List (String × Code) → List Block
  | [] => []
  | (_, c) :: rest => c.blocks ++ fieldBlocks rest
termination_by structural fields => fields

def partBlocks : List Code → List Block
  | [] => []
  | c :: rest => c.blocks ++ partBlocks rest
termination_by structural parts => parts

end

theorem texts_eq (l : Language) (parts : List Code) : texts l parts = parts.map (text l) := by
  induction parts with
  | nil => rfl
  | cons c rest ih => exact congrArg (c.text l :: ·) ih

theorem texts_append (l : Language) (first second : List Code) :
    texts l (first ++ second) = texts l first ++ texts l second := by
  simp only [texts_eq, List.map_append]

@[simp] theorem fieldValues_map_fst (l : Language) (fields : List (String × Code)) :
    (fieldValues l fields).map Prod.fst = fields.map Prod.fst := by
  induction fields with
  | nil => rfl
  | cons first rest ih => exact congrArg (first.1 :: ·) ih

@[simp] theorem partBlocks_eq (parts : List Code) : partBlocks parts = parts.flatMap blocks := by
  induction parts with
  | nil => rfl
  | cons c rest ih => exact congrArg (c.blocks ++ ·) ih

@[simp] theorem asValue_value (l : Language) (v : Value) : asValue l (value v) = v := rfl

@[simp] theorem asText_text (s : String) : (Value.text s).asText = s := rfl

@[simp] theorem holds_flag (b : Bool) : (Value.flag b).holds = b := rfl

@[simp] theorem text_value (l : Language) (s : String) : text l (value (.text s)) = s := rfl

@[simp] theorem text_block (l : Language) (kind : Kind) (subject : String)
    (fields : List (String × Code)) :
    text l (block kind subject fields) = l.fill kind (fieldValues l fields) := rfl

@[simp] theorem text_joined (l : Language) (separator : String) (parts : List Code) :
    text l (joined separator parts) = String.intercalate separator (parts.map (text l)) := by
  rw [← texts_eq]
  rfl

@[simp] theorem blocks_value (v : Value) : blocks (value v) = [] := rfl

@[simp] theorem blocks_block (kind : Kind) (subject : String) (fields : List (String × Code)) :
    blocks (block kind subject fields) = ⟨kind, subject, fields⟩ :: fieldBlocks fields := rfl

@[simp] theorem blocks_joined (separator : String) (parts : List Code) :
    blocks (joined separator parts) = parts.flatMap blocks := by
  rw [← partBlocks_eq]
  rfl

@[simp] theorem fieldBlocks_nil : fieldBlocks [] = [] := rfl

@[simp] theorem fieldBlocks_cons (name : String) (c : Code) (rest : List (String × Code)) :
    fieldBlocks ((name, c) :: rest) = c.blocks ++ fieldBlocks rest := rfl

/-- Code whose parts are written one after another is written if each of them is. -/
theorem bind_text {α β : Type} {x : Except MissingValue α} {a : α}
    {f : α → Except MissingValue β} {b : β} (hx : x = .ok a) (hf : f a = .ok b) :
    (x >>= f) = .ok b := by
  rw [hx]
  exact hf

theorem mapM_text {α : Type} {f : α → Except MissingValue String} {l : Language} {code : α → Code}
    {items : List α} (hitems : ∀ a ∈ items, f a = .ok ((code a).text l)) :
    items.mapM f = .ok (texts l (items.map code)) := by
  induction items with
  | nil => rfl
  | cons a rest ih =>
    rw [List.forall_mem_cons] at hitems
    rw [List.mapM_cons, hitems.1, ih hitems.2]
    rfl

theorem joinAll_text {α : Type} {f : α → Except MissingValue String} {l : Language}
    {code : α → Code} {items : List α} (hitems : ∀ a ∈ items, f a = .ok ((code a).text l))
    (separator : String) :
    joinAll separator f items = .ok (text l (joined separator (items.map code))) := by
  rw [joinAll, mapM_text hitems]
  rfl

theorem text_block_ne_empty (l : Language) {kind : Kind} {subject : String}
    {fields : List (String × Code)} (hkind : kind ∉ [Kind.enumMember, Kind.outValue])
    (hplaces : fields.map Prod.fst = kind.places) : text l (block kind subject fields) ≠ "" :=
  l.fill_ne_empty hkind (by rw [fieldValues_map_fst, hplaces])

theorem text_joined_ne_empty (l : Language) {first : Code} (hfirst : text l first ≠ "")
    (separator : String) (rest : List Code) : text l (joined separator (first :: rest)) ≠ "" := by
  rw [text_joined, List.map_cons]
  cases rest with
  | nil => simpa using hfirst
  | cons second rest => simp [hfirst]

theorem fieldBlocks_append (first second : List (String × Code)) :
    fieldBlocks (first ++ second) = fieldBlocks first ++ fieldBlocks second := by
  induction first with
  | nil => rfl
  | cons field rest ih =>
    rw [List.cons_append, fieldBlocks_cons, fieldBlocks_cons, ih, List.append_assoc]

end Code

namespace Block

/-- The values with which the block fills its template. -/
def values (l : Language) (b : Block) : Fields :=
  Code.fieldValues l b.fields

/-- The text at a place of the block. -/
def text (l : Language) (b : Block) (place : String) : String :=
  (b.values l).textOf place

/-- The block as it is written. -/
def written (l : Language) (b : Block) : String :=
  l.fill b.kind (b.values l)

/-- The blocks inside the block. -/
def inner (b : Block) : List Block :=
  Code.fieldBlocks b.fields

/-- The block writes what it has at the place. -/
def Prints (l : Language) (b : Block) (place : String) : Prop :=
  place ∈ printed (b.values l) (l.template b.kind)

theorem Prints.mem_places {l : Language} {b : Block} {place : String} (hprints : b.Prints l place) :
    place ∈ b.kind.places :=
  l.printable_subset_places b.kind place (printed_subset_printable (b.values l) _ hprints)

@[simp] theorem text_cons (l : Language) (kind : Kind) (subject name : String) (c : Code)
    (rest : List (String × Code)) (place : String) :
    text l ⟨kind, subject, (name, c) :: rest⟩ place =
      if name = place then (c.asValue l).asText else text l ⟨kind, subject, rest⟩ place := by
  by_cases h : name = place <;>
    simp [text, values, Code.fieldValues, Fields.textOf, Fields.value?, h]

@[simp] theorem values_holds_cons (l : Language) (kind : Kind) (subject name : String) (c : Code)
    (rest : List (String × Code)) (place : String) :
    (values l ⟨kind, subject, (name, c) :: rest⟩).holds place =
      if name = place then (c.asValue l).holds else (values l ⟨kind, subject, rest⟩).holds place := by
  by_cases h : name = place <;> simp [values, Code.fieldValues, Fields.holds, Fields.value?, h]

/-- No function is written where there is no enumeration for it. -/
theorem not_prints_function {l : Language} {b : Block}
    (hkind : b.kind ∈ [Kind.dispatchBranch, Kind.inAssignment, Kind.outValue])
    (henumerated : (b.values l).holds "enumerated" = false) {place : String}
    (hplace : place ∈ ["parse_function", "to_string_function"]) : ¬ b.Prints l place := by
  unfold Prints
  generalize b.values l = fields at henumerated ⊢
  generalize b.kind = kind at hkind ⊢
  simp only [List.mem_cons, List.not_mem_nil, or_false] at hkind hplace
  rcases hkind with rfl | rfl | rfl <;> rcases hplace with rfl | rfl <;> cases l <;>
    simp [Language.template, Language.csharpTemplate, Language.visualBasicTemplate, ofLines,
      printed, Part.printed, Piece.printed, henumerated]

/-- The names that the block declares, where `places` says at which places a kind of block does. -/
def declared (l : Language) (places : Kind → List String) (b : Block) : List String :=
  (places b.kind).map (b.text l)

/-- Of all blocks just one declares the name, however the name may be spelled. -/
def IsSoleDeclaration (l : Language) (places : Kind → List String) (blocks : List Block)
    (name : String) (b : Block) : Prop :=
  (blocks.filter fun other =>
    (other.declared l places).any fun spelled => l.nameKey spelled == l.nameKey name) = [b]

theorem isSoleDeclaration_of_nodup {l : Language} {places : Kind → List String}
    {blocks : List Block}
    (hdistinct : ((blocks.flatMap (declared l places)).map l.nameKey).Nodup) {b : Block}
    (hb : b ∈ blocks) {name : String} (hname : name ∈ b.declared l places) :
    b.IsSoleDeclaration l places blocks name :=
  filter_any_key_eq_singleton hdistinct hb hname

end Block

end ControlPoint.Class
