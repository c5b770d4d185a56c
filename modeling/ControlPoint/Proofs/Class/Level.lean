import Mathlib
import ControlPoint.Description.Document
import ControlPoint.Proofs.Class.Device
import ControlPoint.Proofs.Class.ServiceNames

/-!
All that stands side by side in a class: the class itself, what its template declares, its members
and its constants. The members share a scope with the first two; the constants have one of their
own, and the class takes its name before those of the template are taken.
-/

namespace ControlPoint.Class

open Description Naming

/-- The names at the level of a class, as they are written. -/
structure Level where
  language : Language
  name : String
  /-- What the template declares. -/
  imposed : List String
  members : List String
  constants : List String

namespace Level

/-- No name gets in the way of one from another scope. -/
structure IsApart (c : Level) : Prop where
  name : ∀ imposed ∈ c.imposed, c.language.nameKey c.name ≠ c.language.nameKey imposed
  constants : ∀ constant ∈ c.constants, ∀ other ∈ c.name :: (c.imposed ++ c.members),
    c.language.nameKey constant ≠ c.language.nameKey other

instance (c : Level) : Decidable c.IsApart :=
  decidable_of_iff
    ((∀ imposed ∈ c.imposed, c.language.nameKey c.name ≠ c.language.nameKey imposed) ∧
      ∀ constant ∈ c.constants, ∀ other ∈ c.name :: (c.imposed ++ c.members),
        c.language.nameKey constant ≠ c.language.nameKey other)
    ⟨fun h => ⟨h.1, h.2⟩, fun h => ⟨h.1, h.2⟩⟩

/-- The name starts, for a compiler, with the letters that mark a constant. -/
def IsMarked (l : Language) (written : String) : Prop :=
  "cs".toList <+: (l.nameKey written).toList

instance (l : Language) (written : String) : Decidable (IsMarked l written) :=
  inferInstanceAs (Decidable ("cs".toList <+: (l.nameKey written).toList))

/-- Where capitals do not count, no name that is marked as a constant is taken for one. -/
def KeepsMarks (c : Level) : Prop :=
  c.language = .visualBasic → ∀ written ∈ c.name :: c.members, IsMarked c.language written →
    ∀ constant ∈ c.constants, c.language.nameKey constant ≠ c.language.nameKey written

/-- The names are made as those of a class are: type names and marked constants, and none of those
    that the template declares is marked. -/
structure IsMade (c : Level) : Prop where
  names : ∀ written ∈ c.name :: c.members, ∃ name, IsTypeName name ∧ written = c.language.escape name
  constants : ∀ constant ∈ c.constants, IsMarked c.language constant
  imposed : ∀ name ∈ c.imposed, ¬ IsMarked c.language name

end Level

theorem ConstantPool.Valid.isMarked {p : ConstantPool} (hvalid : p.Valid) (l : Language) :
    ∀ constant ∈ p.declared.map Constant.identifier, Level.IsMarked l constant := by
  rw [List.forall_mem_map]
  intro constant hconstant
  obtain ⟨rest, heq⟩ := hvalid.marked constant hconstant
  have hmark : l.caseRule.fold "cs" = "cs" := by cases l <;> decide
  rw [Level.IsMarked, Language.nameKey,
    l.bareName_of_isIdentifier (hvalid.identifiers constant hconstant), heq, CaseRule.fold_append,
    hmark, String.toList_append]
  exact List.prefix_append _ _

/-- Where capitals count, no name of a type starts as a constant does. -/
theorem not_isMarked_escape {name : String} (hname : IsTypeName name) :
    ¬ Level.IsMarked .csharp (Language.escape .csharp name) := by
  rw [Level.IsMarked, Language.nameKey_escape _ hname.isIdentifier]
  obtain ⟨c, cs, hchars, -, hupper, -⟩ := hname
  intro hprefix
  have hhead : 'c' :: ['s'] <+: c :: cs := by
    rw [← hchars]
    exact hprefix
  obtain ⟨rfl, -⟩ := List.cons_prefix_cons.mp hhead
  exact absurd hupper (by decide)

/-- What is left to be asked for where the names are made as those of a class are. -/
theorem Level.IsMade.isApart_iff {c : Level} (hmade : c.IsMade) :
    c.IsApart ↔
      (∀ imposed ∈ c.imposed, c.language.nameKey c.name ≠ c.language.nameKey imposed) ∧
        c.KeepsMarks := by
  -- a name that a constant is taken for is marked as the constant is
  have hmarked {constant other : String} (hconstant : constant ∈ c.constants)
      (heq : c.language.nameKey constant = c.language.nameKey other) :
      IsMarked c.language other := by
    have hmark := hmade.constants constant hconstant
    rwa [IsMarked, heq] at hmark
  constructor
  · rintro ⟨hname, hconstants⟩
    refine ⟨hname, fun _ written hwritten _ constant hconstant => ?_⟩
    apply hconstants constant hconstant
    rcases List.mem_cons.mp hwritten with rfl | hmember
    · exact List.mem_cons_self ..
    · exact List.mem_cons_of_mem _ (List.mem_append_right _ hmember)
  · rintro ⟨hname, hvisualBasic⟩
    refine ⟨hname, fun constant hconstant other hother heq => ?_⟩
    have hother' : other ∈ c.imposed ∨ other ∈ c.name :: c.members := by
      simp only [List.mem_cons, List.mem_append] at hother ⊢
      tauto
    rcases hother' with himposed | hwritten
    · exact hmade.imposed other himposed (hmarked hconstant heq)
    · cases hlanguage : c.language with
      | csharp =>
        obtain ⟨name, htype, rfl⟩ := hmade.names other hwritten
        have hmark := hmarked hconstant heq
        rw [hlanguage] at hmark
        exact not_isMarked_escape htype hmark
      | visualBasic =>
        exact hvisualBasic hlanguage other hwritten (hmarked hconstant heq) constant hconstant heq

/-! ### The class of a service -/

namespace ServiceClass

def level (c : ServiceClass) : Level :=
  ⟨c.language, c.language.escape c.name, reservedMembers, c.memberNames,
    c.constants.declared.map Constant.identifier⟩

theorem level_isMade (l : Language) (className : String) (s : ServiceDescription)
    (answers : Option (List Answer)) : (declare l className s answers).level.IsMade := by
  have hserves := declare_serves l className s answers
  constructor
  · simp only [level, List.forall_mem_cons, hserves.name, hserves.language]
    exact ⟨⟨_, sanitize_isTypeName className, rfl⟩, hserves.memberNames⟩
  · exact hserves.constants.isMarked _
  · simp only [level, hserves.language]
    cases l <;> decide

end ServiceClass

/-! ### The class of a device -/

namespace DeviceClass

/-- The names of the members, in the order in which they are given out. -/
def memberNames (c : DeviceClass) : List String :=
  c.information ++ c.devices.map ChildProperty.name ++ c.services.map ChildProperty.name

def level (c : DeviceClass) : Level :=
  ⟨c.language, c.language.escape c.name, reservedMembers, c.memberNames,
    c.constants.declared.map Constant.identifier⟩

theorem allocateAll_isTypeName (names : Scope) {bases : List String}
    (hbases : ∀ base ∈ bases, IsTypeName base) :
    ∀ name ∈ (allocateAll names bases).1, IsTypeName name := by
  induction bases generalizing names with
  | nil => simp [allocateAll]
  | cons base rest ih =>
    rw [List.forall_mem_cons] at hbases
    exact List.forall_mem_cons.mpr ⟨freeName_isTypeName names hbases.1, ih _ hbases.2⟩

variable (l : Language) (classes : ChildClasses) (names : Scope) (pool : ConstantPool)

theorem childProperties_isTypeName (children : List Child) :
    ∀ written ∈ (childProperties l classes names pool children).1.map ChildProperty.name,
      ∃ name, IsTypeName name ∧ written = l.escape name := by
  induction children generalizing names pool with
  | nil => simp [childProperties]
  | cons child rest ih =>
    rw [childProperties_cons, List.map_cons, List.forall_mem_cons]
    exact ⟨⟨_, freeName_isTypeName names (sanitize_isTypeName child.shortName), rfl⟩, ih _ _⟩

theorem valid_childProperties {pool : ConstantPool} (hvalid : pool.Valid) (children : List Child) :
    (childProperties l classes names pool children).2.2.Valid := by
  induction children generalizing names pool with
  | nil => exact hvalid
  | cons child rest ih =>
    rw [childProperties_cons]
    exact ih _ (hvalid.get child.group child.shortName child.id child.comment)

theorem information_isTypeName (className : String) (d : Device) :
    ∀ written ∈ (declare l className d classes).information,
      ∃ name, IsTypeName name ∧ written = l.escape name := by
  have hinformation : (declare l className d classes).information =
      (allocateAll (((Scope.empty l.caseRule).reserve (sanitize .type className)).reserveAll
        reservedMembers) (informationMembers.map Prod.fst)).1.map l.escape := rfl
  have hbases : ∀ base ∈ informationMembers.map Prod.fst, IsTypeName base := by
    intro base hbase
    have hsame : sanitize .type base = base := by
      revert base
      decide
    rw [← hsame]
    exact sanitize_isTypeName base
  rw [hinformation, List.forall_mem_map]
  exact fun name hname => ⟨name, allocateAll_isTypeName _ hbases name hname, rfl⟩

theorem constants_valid (className : String) (d : Device) :
    (declare l className d classes).constants.Valid :=
  valid_childProperties l classes _
    (valid_childProperties l classes _ (ConstantPool.valid_empty _) _) _

theorem level_isMade (className : String) (d : Device) :
    (declare l className d classes).level.IsMade := by
  constructor
  · simp only [level, memberNames, List.forall_mem_cons, List.forall_mem_append]
    refine ⟨⟨_, sanitize_isTypeName className, rfl⟩, ⟨?information, ?devices⟩, ?services⟩
    case information => exact information_isTypeName l classes className d
    case devices => exact childProperties_isTypeName l classes _ _ _
    case services => exact childProperties_isTypeName l classes _ _ _
  · exact (constants_valid l classes className d).isMarked _
  · simp only [level, declare]
    cases l <;> decide

end DeviceClass

private theorem nameKey_imposed (l : Language) :
    ∀ imposed ∈ ServiceClass.reservedMembers ++ DeviceClass.reservedMembers,
      l.nameKey imposed = l.caseRule.fold imposed := by
  cases l <;> decide

/-- The names at the level of a class, of a service or of a device, stay apart from those of other
    scopes just if the class is not asked to bear a name that its template declares, and, in Visual
    Basic, no constant has the name of the class or of a member. Only names that start as constants
    do, in whatever case, have to be looked at for that. -/
theorem level_isApart_iff (l : Language) (className : String) :
    (∀ (s : ServiceDescription) (answers : Option (List Answer)),
      let level := (ServiceClass.declare l className s answers).level
      level.IsApart ↔
        (∀ imposed ∈ ServiceClass.reservedMembers,
          l.caseRule.fold (sanitize .type className) ≠ l.caseRule.fold imposed) ∧
          level.KeepsMarks) ∧
      ∀ (d : Device) (classes : ChildClasses),
        let level := (DeviceClass.declare l className d classes).level
        level.IsApart ↔
          (∀ imposed ∈ DeviceClass.reservedMembers,
            l.caseRule.fold (sanitize .type className) ≠ l.caseRule.fold imposed) ∧
            level.KeepsMarks := by
  have hname := sanitize_isIdentifier .type className
  have himposed := List.forall_mem_append.mp (nameKey_imposed l)
  constructor
  · intro s answers level
    rw [(ServiceClass.level_isMade l className s answers).isApart_iff]
    refine and_congr_left fun _ => forall₂_congr fun imposed hmem => ?_
    change l.nameKey (l.escape (sanitize .type className)) ≠ l.nameKey imposed ↔ _
    rw [l.nameKey_escape hname, himposed.1 imposed hmem]
  · intro d classes level
    rw [(DeviceClass.level_isMade l classes className d).isApart_iff]
    refine and_congr_left fun _ => forall₂_congr fun imposed hmem => ?_
    change l.nameKey (l.escape (sanitize .type className)) ≠ l.nameKey imposed ↔ _
    rw [l.nameKey_escape hname, himposed.2 imposed hmem]

/-- A service with two actions, the second of which is named as the constant for the first is but for
    a capital. -/
def mixer : String :=
  "<scpd><actionList><action><name>V</name></action><action>" ++
    "<name>CsActionName_V</name></action></actionList></scpd>"

/-- In either language the class gets in the way of the property that its template declares if it is
    to be called after that, and in Visual Basic a method gets in the way of a constant. -/
theorem mixer_not_isApart :
    ∃ s, ServiceDescription.parse mixer = .ok s ∧
      (∀ l, ¬ (ServiceClass.declare l "Service" s none).level.IsApart) ∧
      (ServiceClass.declare .csharp "Mixer" s none).level.IsApart ∧
      ¬ (ServiceClass.declare .visualBasic "Mixer" s none).level.IsApart := by
  have hparsed : (ServiceDescription.parse mixer).map (fun s =>
      (decide (ServiceClass.declare .csharp "Mixer" s none).level.IsApart,
        decide (ServiceClass.declare .visualBasic "Mixer" s none).level.IsApart)) =
          .ok (true, false) := by decide +kernel
  obtain ⟨s, hs, heq⟩ := exists_of_map_eq_ok hparsed
  obtain ⟨hcsharp, hvisualBasic⟩ := Prod.mk.inj heq
  refine ⟨s, hs, fun l hapart => ?_, of_decide_eq_true hcsharp, of_decide_eq_false hvisualBasic⟩
  have himposed : "Service" ∈ ServiceClass.reservedMembers := by decide
  have hsame : l.nameKey (l.escape (sanitize .type "Service")) = l.nameKey "Service" := by
    cases l <;> decide +kernel
  exact hapart.name "Service" himposed hsame

end ControlPoint.Class
