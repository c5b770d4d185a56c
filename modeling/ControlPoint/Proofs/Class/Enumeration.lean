import Mathlib
import ControlPoint.Proofs.Class.Closed

namespace ControlPoint.Class

open Description Naming Template

/-- The value for which a constant is declared among the blocks. -/
def constantValue? (l : Language) (blocks : List Block) (name : String) : Option String :=
  (blocks.find? fun b => (b.declared l constantPlaces).any fun spelled =>
    l.nameKey spelled == l.nameKey name).map Block.subject

namespace Block

/-- What a reading function returns for a text: the member of the first case whose constant has the
    text for its value, else the member for unknown values. -/
def readMember (l : Language) (blocks : List Block) (b : Block) (text : String) : String :=
  match b.inner.find? fun branch =>
      constantValue? l blocks (branch.text l "constant") == some text with
  | some branch => branch.text l "member"
  | none => b.text l "unknown_member"

/-- What a writing function returns for a member: the value of the constant in the member's case,
    else an empty text. -/
def writeMember (l : Language) (blocks : List Block) (b : Block) (member : String) : String :=
  match b.inner.find? fun branch =>
      l.nameKey (branch.text l "member") == l.nameKey member with
  | some branch => (constantValue? l blocks (branch.text l "constant")).getD ""
  | none => ""

end Block

/-- A reading and a writing function for some values: the values are told apart by members of the
    enumeration and written as they were read, and any other text is read as unknown. -/
structure RoundTrips (l : Language) (members values : List String) (read write : String → String) :
    Prop where
  read_mem : ∀ a ∈ values, read a ∈ members
  read_known : ∀ a ∈ values, l.nameKey (read a) ≠ l.nameKey unknownMember
  read_injective : ∀ a ∈ values, ∀ b ∈ values, l.nameKey (read a) = l.nameKey (read b) → a = b
  write_read : ∀ a ∈ values, write (read a) = a
  read_unknown : ∀ text, text ∉ values → read text = unknownMember
  write_unknown : write unknownMember = ""

namespace ServiceClass

variable {l : Language} {className : String} {s : ServiceDescription} {c : ServiceClass}

theorem constantValue?_eq (hserves : c.Serves l className s) (o : Options)
    {name group value : String} (hhas : c.constants.Has name group value) :
    constantValue? c.language (c.code o).blocks name = some value := by
  obtain ⟨b, hsole, -, -, hsubject⟩ := constant_isSoleDeclaration hserves o hhas
  rw [constantValue?, ← List.head?_filter, hsole]
  exact congrArg some hsubject

/-- Each member stands for an allowed value and each allowed value has a member. -/
theorem member_values (hserves : c.Serves l className s) (o : Options) {v : VariableMembers}
    (hv : v ∈ c.members) {e : EnumType} (he : e ∈ v.enumeration) :
    (∀ m ∈ e.members, ∃ a ∈ v.source.valueList,
        constantValue? c.language (c.code o).blocks m.constant = some a) ∧
      ∀ a ∈ v.source.valueList, ∃ m ∈ e.members,
        constantValue? c.language (c.code o).blocks m.constant = some a := by
  have hconstants := ((hserves.members v hv).enumeration e he).constants.imp
    fun _ _ hhas => constantValue?_eq hserves o hhas
  simpa using exists_partner_of_forall₂ hconstants

section Functions

variable {blocks : List Block} {b : Block} {v : StateVariable} {e : EnumType}

/-- A reading function finds a member that stands for the text, or there is none. -/
theorem readMember_spec (hinner : b.inner = (caseCodes .enumParseCase v e).flatMap Code.blocks)
    (hunknown : b.text l "unknown_member" = unknownMember) (text : String) :
    (∃ m ∈ e.members, constantValue? l blocks m.constant = some text ∧
        b.readMember l blocks text = m.name) ∨
      (∀ m ∈ e.members, constantValue? l blocks m.constant ≠ some text) ∧
        b.readMember l blocks text = unknownMember := by
  unfold Block.readMember
  rw [hinner]
  split
  case h_1 branch hfind =>
    obtain ⟨m, i, hm, rfl⟩ := mem_caseBlocks.mp (List.mem_of_find?_eq_some hfind)
    have hvalue := List.find?_some hfind
    exact .inl ⟨m, List.mem_of_getElem? hm, by simpa using hvalue, by simp⟩
  case h_2 hfind =>
    refine .inr ⟨fun m hm hvalue => ?_, hunknown⟩
    obtain ⟨i, hm⟩ := List.mem_iff_getElem?.mp hm
    have hnot := List.find?_eq_none.mp hfind _ (mem_caseBlocks.mpr ⟨m, i, hm, rfl⟩)
    exact hnot (by simpa using hvalue)

/-- A writing function finds the member, if no other has its name. -/
theorem writeMember_of_mem (hinner : b.inner = (caseCodes .enumToStringCase v e).flatMap Code.blocks)
    (hdistinct : ((e.members.map EnumMember.name).map l.nameKey).Nodup) {m : EnumMember}
    (hm : m ∈ e.members) {text : String} (hvalue : constantValue? l blocks m.constant = some text) :
    b.writeMember l blocks m.name = text := by
  unfold Block.writeMember
  rw [hinner]
  rw [List.map_map] at hdistinct
  split
  case h_1 branch hfind =>
    obtain ⟨m', i, hm', rfl⟩ := mem_caseBlocks.mp (List.mem_of_find?_eq_some hfind)
    have hname : l.nameKey m'.name = l.nameKey m.name := by simpa using List.find?_some hfind
    obtain rfl := List.inj_on_of_nodup_map hdistinct (List.mem_of_getElem? hm') hm hname
    simp [hvalue]
  case h_2 hfind =>
    obtain ⟨i, hm⟩ := List.mem_iff_getElem?.mp hm
    have hnot := List.find?_eq_none.mp hfind _ (mem_caseBlocks.mpr ⟨m, i, hm, rfl⟩)
    exact absurd (by simp) hnot

theorem writeMember_of_not_mem
    (hinner : b.inner = (caseCodes .enumToStringCase v e).flatMap Code.blocks) {name : String}
    (hname : ∀ m ∈ e.members, l.nameKey m.name ≠ l.nameKey name) :
    b.writeMember l blocks name = "" := by
  unfold Block.writeMember
  rw [hinner]
  split
  case h_1 branch hfind =>
    obtain ⟨m, i, hm, rfl⟩ := mem_caseBlocks.mp (List.mem_of_find?_eq_some hfind)
    have hsame : l.nameKey m.name = l.nameKey name := by simpa using List.find?_some hfind
    exact absurd hsame (hname m (List.mem_of_getElem? hm))
  case h_2 => rfl

end Functions

theorem roundTrips (hserves : c.Serves l className s) (o : Options) {v : VariableMembers}
    (hv : v ∈ c.members) {e : EnumType} (he : e ∈ v.enumeration) {parse write : Block}
    (hparse : parse.inner = (caseCodes .enumParseCase v.source e).flatMap Code.blocks)
    (hunknown : parse.text c.language "unknown_member" = unknownMember)
    (hwrite : write.inner = (caseCodes .enumToStringCase v.source e).flatMap Code.blocks) :
    RoundTrips c.language (e.members.map EnumMember.name) v.source.valueList
      (parse.readMember c.language (c.code o).blocks)
      (write.writeMember c.language (c.code o).blocks) := by
  obtain ⟨hmembers, hvalues⟩ := member_values hserves o hv he
  have hapart := ((hserves.members v hv).enumeration e he).namesApart
  rw [← hserves.language] at hapart
  -- a value is read as a member that stands for it
  have hread : ∀ a ∈ v.source.valueList, ∃ m ∈ e.members,
      constantValue? c.language (c.code o).blocks m.constant = some a ∧
        parse.readMember c.language (c.code o).blocks a = m.name := by
    intro a ha
    rcases readMember_spec hparse hunknown a with hfound | ⟨hnone, -⟩
    · exact hfound
    · obtain ⟨m, hm, hvalue⟩ := hvalues a ha
      exact absurd hvalue (hnone m hm)
  have hwriteRead : ∀ a ∈ v.source.valueList,
      write.writeMember c.language (c.code o).blocks
        (parse.readMember c.language (c.code o).blocks a) = a := by
    intro a ha
    obtain ⟨m, hm, hvalue, hname⟩ := hread a ha
    rw [hname]
    exact writeMember_of_mem hwrite hapart.distinctBare hm hvalue
  constructor
  case read_mem =>
    intro a ha
    obtain ⟨m, hm, -, hname⟩ := hread a ha
    exact hname ▸ List.mem_map_of_mem hm
  case read_known =>
    intro a ha
    obtain ⟨m, hm, -, hname⟩ := hread a ha
    rw [hname]
    exact hapart.apartBare m.name (List.mem_map_of_mem hm) unknownMember (by simp)
  case read_injective =>
    intro a ha b hb hkey
    obtain ⟨m, hm, hvalue, hname⟩ := hread a ha
    obtain ⟨m', hm', hvalue', hname'⟩ := hread b hb
    have hdistinct := hapart.distinctBare
    rw [List.map_map] at hdistinct
    rw [hname, hname'] at hkey
    obtain rfl := List.inj_on_of_nodup_map hdistinct hm hm' hkey
    exact Option.some.inj (hvalue.symm.trans hvalue')
  case write_read => exact hwriteRead
  case read_unknown =>
    intro text htext
    rcases readMember_spec hparse hunknown text with ⟨m, hm, hvalue, -⟩ | ⟨-, hname⟩
    · obtain ⟨a, ha, hvalue'⟩ := hmembers m hm
      exact absurd (Option.some.inj (hvalue.symm.trans hvalue') ▸ ha) htext
    · exact hname
  case write_unknown =>
    apply writeMember_of_not_mem hwrite
    intro m hm
    exact hapart.apartBare m.name (List.mem_map_of_mem hm) unknownMember (by simp)

end ServiceClass

end ControlPoint.Class
