import Mathlib
import ControlPoint.Class.ServiceFile
import ControlPoint.Proofs.Class.DeviceCode
import ControlPoint.Proofs.Class.ServiceNames

/-!
Whatever is described, its class can be written: no template is ever filled without a value that it
looks at, on whichever side of its choices.
-/

namespace ControlPoint

open Description Naming Template

namespace Template

/-- The names whose values are looked at, be it for a condition, whichever side of a choice is taken. -/
def Part.consulted : Part → List String
  | piece p => p.printed
  | choice condition yes no =>
    condition :: (yes.flatMap Piece.printed ++ no.flatMap Piece.printed)

def consulted (t : Template) : List String :=
  t.flatMap Part.consulted

end Template

/-- No template of a language looks at more than a part of a class is made of. -/
theorem Language.consulted_subset_places (l : Language) (kind : Kind) :
    ∀ name ∈ consulted (l.template kind), name ∈ kind.places := by
  cases l <;> cases kind <;> decide +kernel

namespace Class

/-- The block has a value for all that its template looks at. -/
def Block.IsSupplied (l : Language) (b : Block) : Prop :=
  ∀ name ∈ consulted (l.template b.kind), name ∈ b.fields.map Prod.fst

/-- The block is made of all that a block of its kind is made of. -/
def Block.HasPlaces (b : Block) : Prop :=
  b.fields.map Prod.fst = b.kind.places

theorem Block.HasPlaces.isSupplied {b : Block} (hplaces : b.HasPlaces) (l : Language) :
    b.IsSupplied l := by
  intro name hname
  rw [hplaces]
  exact l.consulted_subset_places b.kind name hname

namespace Code

/-- Every block of the code has the property. -/
def Every (P : Block → Prop) (c : Code) : Prop :=
  ∀ b ∈ c.blocks, P b

variable {P : Block → Prop}

@[simp] theorem every_value (v : Value) : Every P (.value v) := by
  simp [Every]

@[simp] theorem every_block (kind : Kind) (subject : String) (fields : List (String × Code)) :
    Every P (.block kind subject fields) ↔
      P ⟨kind, subject, fields⟩ ∧ ∀ field ∈ fields, field.2.Every P := by
  have hfields : (∀ b ∈ fieldBlocks fields, P b) ↔ ∀ field ∈ fields, field.2.Every P := by
    induction fields with
    | nil => simp
    | cons field rest ih =>
      rw [fieldBlocks_cons, List.forall_mem_append, List.forall_mem_cons, ih, Every]
  rw [Every, blocks_block, List.forall_mem_cons, hfields]

@[simp] theorem every_joined (separator : String) (parts : List Code) :
    Every P (.joined separator parts) ↔ ∀ part ∈ parts, part.Every P := by
  rw [Every, blocks_joined, List.forall_mem_flatMap]
  rfl

end Code

theorem every_docCode (summary remarks : String) :
    (docCode summary remarks).Every Block.HasPlaces := by
  simp [docCode, Block.HasPlaces, Kind.places]

theorem every_regionCode (title : String) {parts : List Code}
    (hparts : ∀ part ∈ parts, part.Every Block.HasPlaces) :
    ∀ region ∈ regionCode title parts, region.Every Block.HasPlaces := by
  unfold regionCode
  split
  · simp
  · simpa [Block.HasPlaces, Kind.places] using hparts

theorem ConstantPool.every_code (l : Language) (v : Visibility) (p : ConstantPool) :
    ∀ part ∈ p.code l v, part.Every Block.HasPlaces := by
  simp [ConstantPool.code, groupCode, constantCode, -List.mem_map, List.forall_mem_map,
    Block.HasPlaces, Kind.places]

namespace ServiceClass

variable (c : ServiceClass) (o : Options)

theorem every_enumerationCodes (v : VariableMembers) (e : EnumType) :
    ∀ part ∈ c.enumerationCodes o v e, part.Every Block.HasPlaces := by
  simp [enumerationCodes, every_docCode, memberCode, caseCodes, -List.mem_map, -List.mem_append,
    List.forall_mem_map, List.forall_mem_append, Block.HasPlaces, Kind.places]

theorem every_propertyCode (v : VariableMembers) (property : String) :
    (c.propertyCode o v property).Every Block.HasPlaces := by
  unfold propertyCode
  split <;> simp [propertyDoc, every_docCode, Block.HasPlaces, Kind.places]

theorem every_eventsCode : ∀ part ∈ c.eventsCode o, part.Every Block.HasPlaces := by
  simp [eventsCode, eventCodes, dispatcherCode, branchCode, every_docCode, -List.mem_map,
    -List.mem_append, List.forall_mem_map, List.forall_mem_append, Block.HasPlaces, Kind.places]

theorem every_methodCode (m : Method) : (c.methodCode o m).Every Block.HasPlaces := by
  unfold methodCode
  split <;>
    simp [callFields, returnFields, outFields, parameterCode, inputCode, outputCode, resultCode,
      every_docCode, -List.mem_map, List.forall_mem_map, Block.HasPlaces, Kind.places]

theorem every_code : (c.code o).Every Block.HasPlaces := by
  have hsections : ∀ entry ∈ c.sections o, ∀ part ∈ entry.2, part.Every Block.HasPlaces := by
    simp only [sections, List.forall_mem_cons]
    refine ⟨c.constants.every_code _ _, ?enumerations, ?properties, c.every_eventsCode o, ?methods,
      by simp⟩
    case enumerations =>
      rw [enumerationsCode, List.forall_mem_map]
      intro v _
      exact (Code.every_joined ..).mpr (c.every_enumerationCodes o v.1 v.2)
    case properties =>
      rw [propertiesCode, List.forall_mem_map]
      exact fun v _ => c.every_propertyCode o v.1 v.2
    case methods =>
      rw [methodsCode, List.forall_mem_map]
      exact fun m _ => c.every_methodCode o m
  have hregions : ∀ region ∈ c.regionsCode o, region.Every Block.HasPlaces := by
    rw [regionsCode, List.forall_mem_flatMap]
    exact fun entry hentry => every_regionCode entry.1 (hsections entry hentry)
  simpa [code, every_docCode, Block.HasPlaces, Kind.places] using hregions

theorem file_eq : c.file o =
    .ok (File.of c.language c.name o.isPart ((c.code o).text c.language)) := by
  rw [file, source_eq]
  rfl

end ServiceClass

namespace DeviceClass

variable (c : DeviceClass) (d : Device) (o : Options)

theorem every_code : (c.code d o).Every Block.HasPlaces := by
  have hsections : ∀ entry ∈ c.sections o, ∀ part ∈ entry.2, part.Every Block.HasPlaces := by
    simp only [sections, List.forall_mem_cons, List.forall_mem_map]
    refine ⟨c.constants.every_code _ _, ?information, ?devices, ?services, by simp⟩
    all_goals
      intro _ _
      simp [informationCode, childCode, every_docCode, Block.HasPlaces, Kind.places]
  have hregions : ∀ region ∈ (c.sections o).flatMap (fun entry => regionCode entry.1 entry.2),
      region.Every Block.HasPlaces := by
    rw [List.forall_mem_flatMap]
    exact fun entry hentry => every_regionCode entry.1 (hsections entry hentry)
  simpa [code, every_docCode, Block.HasPlaces, Kind.places] using hregions

end DeviceClass

/-- Whatever is described, chosen and answered, the file of a class is written: the source is that of
    its code in blocks, and every block supplies all that its template looks at, whichever way its
    choices go. So it is for the class of a service and for that of a device, in either language. -/
theorem files_isSupplied (l : Language) (o : Options) :
    (∀ (s : ServiceDescription) (test : Bool) (probe : Option (String → Answer)),
      let answers := (ServiceClass.tester test probe).map (ServiceClass.questions s).map
      let c := ServiceClass.declare l o.className s answers
      (ServiceClass.write l o s test probe).file =
          .ok (File.of l c.name o.isPart ((c.code o).text l)) ∧
        (c.code o).Every (Block.IsSupplied l)) ∧
      ∀ (d : Device) (classes : ChildClasses),
        let c := DeviceClass.declare l o.className d classes
        c.file d o = .ok (File.of l c.name o.isPart ((c.code d o).text l)) ∧
          (c.code d o).Every (Block.IsSupplied l) := by
  constructor
  · intro s test probe answers c
    have hlanguage : c.language = l :=
      (ServiceClass.declare_serves l o.className s answers).language
    refine ⟨?_, fun b hb => (c.every_code o b hb).isSupplied l⟩
    rw [← hlanguage]
    exact c.file_eq o
  · intro d classes c
    exact ⟨c.file_eq d o, fun b hb => (c.every_code d o b hb).isSupplied l⟩

end Class

end ControlPoint
