import Mathlib
import ControlPoint.Proofs.Class.Closed
import ControlPoint.Proofs.Class.Completeness
import ControlPoint.Proofs.Class.Level
import ControlPoint.Proofs.Class.Requests
import ControlPoint.Proofs.Description.Identities

/-!
The properties of the class of a device: one for every child that can be told by its identity, with a
constant for this identity, of the class that was written for the child if there is one.
-/

namespace ControlPoint

open Description Naming Template

/-! ### How a property is written -/

namespace Language

/-- A property that can only be read. -/
def propertyText : Language → (doc scope type name value : String) → String
  | csharp, doc, scope, type, name, value =>
    doc ++ "\n" ++ scope ++ " " ++ type ++ " " ++ name ++
      "\n\x7b\n    get\n    \x7b\n        return " ++ value ++ ";\n    \x7d\n\x7d"
  | visualBasic, doc, scope, type, name, value =>
    doc ++ "\n" ++ scope ++ " ReadOnly Property " ++ name ++ "() As " ++ type ++
      "\n    Get\n        Return " ++ value ++ "\n    End Get\nEnd Property"

/-- What a collection has under a key. -/
def entryText : Language → (collection key : String) → String
  | csharp, collection, key => collection ++ "[" ++ key ++ "]"
  | visualBasic, collection, key => collection ++ "(" ++ key ++ ")"

/-- A new object of a class, made around another one. -/
def constructionText : Language → (type wrapped : String) → String
  | csharp, type, wrapped => "new " ++ type ++ "(" ++ wrapped ++ ")"
  | visualBasic, type, wrapped => "New " ++ type ++ "(" ++ wrapped ++ ")"

end Language

namespace Class

/-- The property goes with the child: it says what the child is and has a constant for its identity,
    and its class is the one that was written for the child. -/
structure ChildProperty.IsFor (l : Language) (classes : ChildClasses) (pool : ConstantPool)
    (child : DeviceClass.Child) (p : ChildProperty) : Prop where
  summary : p.summary = child.summary
  specific : p.specific = (classes.find? child.id).map (l.identifier .type)
  constant : pool.Has p.constant child.group child.id

/-- The object of the model that holds the children of a sort. -/
def childCollection : Kind → String
  | .deviceProperty => "moDevice.Children"
  | _ => "moDevice.Services"

/-- The places at which the blocks of the class of a device declare its properties. -/
def propertyPlaces : Kind → List String
  | .deviceInfoProperty | .deviceProperty | .serviceProperty => ["name"]
  | _ => []

namespace Block

/-- The block is the property for a child that is told by an identity. Its constant is declared once,
    for this identity, and it is of the class that was written for the child and makes an object of
    that class around the one of the collection, or it hands that one out as it is. -/
structure IsPropertyFor (l : Language) (blocks : List Block) (classes : ChildClasses)
    (generic id : String) (b : Block) : Prop where
  constant : ConstantIsDeclared l blocks (b.text l "constant") id
  type : b.text l "type" = ((classes.find? id).map (l.identifier .type)).getD generic
  written : b.written l =
    let entry := l.entryText (childCollection b.kind) (b.text l "constant")
    l.propertyText (b.text l "doc") (b.text l "scope") (b.text l "type") (b.text l "name")
      (if (classes.find? id).isSome then l.constructionText (b.text l "type") entry else entry)

end Block

namespace DeviceClass

variable (c : DeviceClass) (d : Device) (o : Options)

/-- The block of the property for a child. -/
def childBlock (kind : Kind) (generic : String) (p : ChildProperty) : Block :=
  ⟨kind, p.summary,
    [("doc", docCode p.summary ""), ("scope", c.language.visibilityWord o.visibility),
      ("name", p.name), ("type", p.specific.getD generic), ("constant", p.constant),
      ("specific", p.specific.isSome)]⟩

theorem childBlock_written (l : Language) {kind : Kind}
    (hkind : kind ∈ [Kind.deviceProperty, Kind.serviceProperty]) (generic : String)
    (p : ChildProperty) :
    (c.childBlock o kind generic p).written l =
      let entry := l.entryText (childCollection kind) p.constant
      l.propertyText ((docCode p.summary "").text l) (c.language.visibilityWord o.visibility)
        (p.specific.getD generic) p.name
        (if p.specific.isSome then l.constructionText (p.specific.getD generic) entry
          else entry) := by
  apply Language.fill_of_render
  obtain ⟨name, constant, summary, specific⟩ := p
  simp only [List.mem_cons, List.not_mem_nil, or_false] at hkind
  rcases hkind with rfl | rfl <;> cases l <;> cases specific <;>
    simp [Template.render, Part.render, Piece.render, renderPieces, bind, Except.bind, pure,
      Except.pure, Language.template, Language.csharpTemplate, Language.visualBasicTemplate, ofLines,
      Block.values, childBlock, Code.fieldValues, Fields.value?, Fields.holds, Value.print,
      Language.propertyText, Language.entryText, Language.constructionText, childCollection,
      String.append_assoc] <;>
    rfl

/-! ### The blocks of the class -/

/-- The block of the property for something that the device says of itself. -/
def informationBlock (x : String × String × String × String) : Block :=
  ⟨.deviceInfoProperty, x.2.2.1,
    [("doc", docCode x.2.2.2 ""), ("scope", c.language.visibilityWord o.visibility),
      ("name", x.1), ("member", x.2.2.1)]⟩

/-- The blocks of all properties, in order. -/
def propertyBlocks : List Block :=
  (c.information.zip informationMembers).map (c.informationBlock o) ++
    c.devices.map (c.childBlock o .deviceProperty genericDeviceType) ++
      c.services.map (c.childBlock o .serviceProperty genericServiceType)

/-- Blocks of kinds that are only found among the properties. -/
theorem filter_blocks (isWanted : Kind → Bool)
    (hwanted : ∀ kind ∈ [Kind.deviceClass, Kind.region, Kind.docComment, Kind.constant],
      isWanted kind = false) :
    ((c.code d o).blocks.filter fun b => isWanted b.kind) =
      (c.propertyBlocks o).filter fun b => isWanted b.kind := by
  simp only [List.forall_mem_cons] at hwanted
  obtain ⟨hclass, hregion, hdoc, hconstant, -⟩ := hwanted
  have hregions := Code.filter_regionCode isWanted hregion
  have hconstants := Code.filter_eq_nil isWanted
    (ServiceClass.kinds_constants c.language o.visibility c.constants)
    (by simp [hregion, hconstant])
  have hblocks {α : Type} (items : List α) (part : α → Code) (block : α → Block)
      (hpart : ∀ a, (part a).blocks.filter (fun b => isWanted b.kind) =
        [block a].filter fun b => isWanted b.kind) :
      ((items.map part).flatMap fun part => part.blocks.filter fun b => isWanted b.kind) =
        (items.map block).filter fun b => isWanted b.kind := by
    rw [List.flatMap_map, List.map_eq_flatMap, List.filter_flatMap]
    exact List.flatMap_congr fun a _ => hpart a
  have hinformation := hblocks (c.information.zip informationMembers) (c.informationCode o)
    (c.informationBlock o) fun x => by
      simp [informationCode, informationBlock, docCode, List.filter_cons, hdoc]
  have hchildren (kind : Kind) (generic : String) (properties : List ChildProperty) :=
    hblocks properties (c.childCode o kind generic) (c.childBlock o kind generic) fun p => by
      simp [childCode, childBlock, docCode, List.filter_cons, hdoc]
  simp [code, sections, docCode, propertyBlocks, hclass, hdoc,
    List.filter_flatMap, hregions, hconstants, hinformation, hchildren]

theorem filter_propertyBlocks (isWanted : Kind → Bool) :
    ((c.propertyBlocks o).filter fun b => isWanted b.kind) =
      (if isWanted .deviceInfoProperty then
          (c.information.zip informationMembers).map (c.informationBlock o) else []) ++
        (if isWanted .deviceProperty then
          c.devices.map (c.childBlock o .deviceProperty genericDeviceType) else []) ++
        if isWanted .serviceProperty then
          c.services.map (c.childBlock o .serviceProperty genericServiceType) else [] := by
  have hblocks {α : Type} (items : List α) (block : α → Block) (kind : Kind)
      (hkind : ∀ a, (block a).kind = kind) :
      ((items.map block).filter fun b => isWanted b.kind) =
        if isWanted kind then items.map block else [] := by
    rw [List.filter_map, Function.comp_def]
    simp only [hkind]
    split <;> simp [*]
  rw [propertyBlocks, List.filter_append, List.filter_append,
    hblocks _ _ .deviceInfoProperty fun _ => rfl, hblocks _ _ .deviceProperty fun _ => rfl,
    hblocks _ _ .serviceProperty fun _ => rfl]

theorem informationBlocks :
    ((c.code d o).blocks.filter fun b => b.kind == .deviceInfoProperty) =
      (c.information.zip informationMembers).map (c.informationBlock o) := by
  rw [c.filter_blocks d o (· == .deviceInfoProperty) (by decide),
    c.filter_propertyBlocks o (· == .deviceInfoProperty)]
  exact (List.append_nil _).trans (List.append_nil _)

theorem deviceBlocks :
    ((c.code d o).blocks.filter fun b => b.kind == .deviceProperty) =
      c.devices.map (c.childBlock o .deviceProperty genericDeviceType) := by
  rw [c.filter_blocks d o (· == .deviceProperty) (by decide),
    c.filter_propertyBlocks o (· == .deviceProperty)]
  exact List.append_nil _

theorem serviceBlocks :
    ((c.code d o).blocks.filter fun b => b.kind == .serviceProperty) =
      c.services.map (c.childBlock o .serviceProperty genericServiceType) := by
  rw [c.filter_blocks d o (· == .serviceProperty) (by decide),
    c.filter_propertyBlocks o (· == .serviceProperty)]
  rfl

/-- The names that the blocks declare are those that were given out. -/
theorem declared_properties (l : Language)
    (hinformation : c.information.length = informationMembers.length) :
    (c.code d o).declared l propertyPlaces = c.memberNames := by
  let isProperty (kind : Kind) : Bool := propertyPlaces kind ≠ []
  have hdeclared : (c.code d o).declared l propertyPlaces =
      ((c.code d o).blocks.filter fun b => isProperty b.kind).flatMap
        (Block.declared l propertyPlaces) := by
    rw [Code.declared]
    induction (c.code d o).blocks with
    | nil => rfl
    | cons b rest ih =>
      rw [List.flatMap_cons, List.filter_cons, ih]
      split
      · rw [List.flatMap_cons]
      · rename_i hnone
        have hplaces : propertyPlaces b.kind = [] := by simpa [isProperty] using hnone
        rw [Block.declared, hplaces, List.map_nil, List.nil_append]
  rw [hdeclared, c.filter_blocks d o isProperty (by decide), c.filter_propertyBlocks o isProperty]
  simp [isProperty, propertyPlaces, memberNames, List.flatMap_map, Block.declared, informationBlock,
    childBlock, ← List.map_eq_flatMap, List.map_fst_zip hinformation.le]

/-! ### Names -/

theorem allocateAll_eq (names : Scope) (bases : List String) :
    allocateAll names bases = (names.freeNames bases, names.reserveAll (names.freeNames bases)) := by
  induction bases generalizing names with
  | nil => rfl
  | cons base rest ih => simp [allocateAll, Scope.allocate, Scope.freeNames, ih]

/-- The names that children would best have. -/
def wantedNames (children : List Child) : List String :=
  children.map fun child => sanitize .type child.shortName

theorem childProperties_names (l : Language) (classes : ChildClasses) (names : Scope)
    (pool : ConstantPool) (children : List Child) :
    (childProperties l classes names pool children).1.map ChildProperty.name =
        (names.freeNames (wantedNames children)).map l.escape ∧
      (childProperties l classes names pool children).2.1 =
        names.reserveAll (names.freeNames (wantedNames children)) := by
  induction children generalizing names pool with
  | nil => exact ⟨rfl, rfl⟩
  | cons child rest ih =>
    obtain ⟨hnames, hscope⟩ := ih (names.reserve (names.freeName (sanitize .type child.shortName)))
      (pool.get child.group child.shortName child.id child.comment).2
    have hwanted : wantedNames (child :: rest) =
        sanitize .type child.shortName :: wantedNames rest := rfl
    rw [childProperties_cons, hwanted, Scope.freeNames, List.map_cons, List.map_cons]
    exact ⟨congrArg _ hnames, hscope⟩

/-- What is taken before any property gets its name: the name of the class and those of its
    template. -/
def start (l : Language) (className : String) : Scope :=
  ((Scope.empty l.caseRule).reserve (sanitize .type className)).reserveAll reservedMembers

/-- All properties together are given names as if they were of one sort. -/
theorem memberNames_declare (l : Language) (className : String) (classes : ChildClasses) :
    (declare l className d classes).memberNames =
      ((start l className).freeNames (informationMembers.map Prod.fst ++
        wantedNames (childDevices d) ++ wantedNames (childServices d))).map l.escape := by
  let information := allocateAll (start l className) (informationMembers.map Prod.fst)
  let devices := childProperties l classes information.2 (.empty l.caseRule) (childDevices d)
  let services := childProperties l classes devices.2.1 devices.2.2 (childServices d)
  have hmembers : (declare l className d classes).memberNames = information.1.map l.escape ++
      devices.1.map ChildProperty.name ++ services.1.map ChildProperty.name := rfl
  have hinformation : information = _ := allocateAll_eq _ _
  obtain ⟨hdevices, hscope⟩ :=
    childProperties_names l classes information.2 (.empty l.caseRule) (childDevices d)
  obtain ⟨hservices, -⟩ :=
    childProperties_names l classes devices.2.1 devices.2.2 (childServices d)
  rw [hmembers, hdevices, hservices, hscope, hinformation]
  simp only [Scope.freeNames_append, List.map_append, Scope.reserveAll_append]

theorem memberNames_namesApart (l : Language) (className : String) (classes : ChildClasses) :
    let c := declare l className d classes
    l.NamesApart c.memberNames (l.escape c.name :: reservedMembers) := by
  intro c
  rw [memberNames_declare]
  refine Language.namesApart_freeNames (by simp [start, Scope.empty]) ?_
    (contains_imposed (sanitize_isIdentifier .type className) (by cases l <;> decide))
  simp only [List.forall_mem_append, wantedNames, List.forall_mem_map]
  refine ⟨⟨fun member hmember => ?_, fun child _ => sanitize_isIdentifier .type child.shortName⟩,
    fun child _ => sanitize_isIdentifier .type child.shortName⟩
  have hsame : sanitize .type member.1 = member.1 := by
    revert member
    decide
  rw [← hsame]
  exact sanitize_isIdentifier .type member.1

/-! ### Constants -/

theorem extends_childProperties (l : Language) (classes : ChildClasses) (names : Scope)
    (pool : ConstantPool) (children : List Child) :
    pool.Extends (childProperties l classes names pool children).2.2 := by
  induction children generalizing names pool with
  | nil => exact .refl pool
  | cons child rest ih =>
    rw [childProperties_cons]
    exact (pool.extends_get child.group child.shortName child.id child.comment).trans (ih _ _)

theorem childProperties_isFor (l : Language) (classes : ChildClasses) (names : Scope)
    (pool : ConstantPool) (children : List Child) :
    List.Forall₂ (ChildProperty.IsFor l classes (childProperties l classes names pool children).2.2)
      children (childProperties l classes names pool children).1 := by
  induction children generalizing names pool with
  | nil => exact .nil
  | cons child rest ih =>
    rw [childProperties_cons]
    refine .cons ⟨rfl, rfl, ?_⟩ (ih _ _)
    exact (pool.has_get child.group child.shortName child.id child.comment).mono
      (extends_childProperties _ _ _ _ _)

/-- No block but those of the constants declares any. -/
theorem declared_constants (l : Language) :
    (c.code d o).declared l constantPlaces = c.constants.declared.map Constant.identifier := by
  have hconstants := c.constants.declared_code c.language l o.visibility
  have hregions := Code.declared_regionCode l constantPlaces rfl
  simp [code, sections, docCode, Block.declared, constantPlaces, List.flatMap_map, hregions,
    hconstants, informationCode, childCode]

/-- A constant that was given out is declared once, in the region for constants. -/
theorem constant_isDeclared (hvalid : c.constants.Valid)
    (hrule : c.constants.names.rule = c.language.caseRule) {name group value : String}
    (hhas : c.constants.Has name group value) :
    ConstantIsDeclared c.language (c.code d o).blocks name value := by
  have hregion : ∀ part ∈ c.constants.code c.language o.visibility,
      let region := ServiceClass.sectionBlock
        ("Constants", c.constants.code c.language o.visibility)
      region :: region.inner ⊆ (c.code d o).blocks := by
    intro part hpart region b hb
    have hsection : ("Constants", c.constants.code c.language o.visibility) ∈ c.sections o :=
      List.mem_cons_self ..
    have hinner := ServiceClass.sectionBlock_subset_regions hsection hpart hb
    simp only [code, Code.blocks_block, Code.fieldBlocks_cons, Code.blocks_joined]
    simp [hinner]
  obtain ⟨b, hsole, hin, hliteral, -⟩ :=
    hvalid.exists_isSoleDeclaration hrule (c.declared_constants d o c.language) hregion hhas
  exact ⟨b, hsole, hin, hliteral⟩

theorem rule_childProperties (l : Language) (classes : ChildClasses) (names : Scope)
    (pool : ConstantPool) (children : List Child) :
    (childProperties l classes names pool children).2.2.names.rule = pool.names.rule := by
  induction children generalizing names pool with
  | nil => rfl
  | cons child rest ih => rw [childProperties_cons, ih, ConstantPool.get_rule]

theorem rule_constants (l : Language) (className : String) (classes : ChildClasses) :
    (declare l className d classes).constants.names.rule = l.caseRule :=
  (rule_childProperties l classes _ _ _).trans (rule_childProperties l classes _ _ _)

/-! ### Children -/

/-- A device inside as the class of a device knows it. -/
def deviceChild (child : Device) : Child :=
  { id := child.udn, shortName := child.shortTypeName, group := ConstantPool.deviceNames,
    comment := child.info.friendlyName,
    summary := "Embedded device " ++ child.info.friendlyName ++ " (" ++ child.deviceType ++ ")." }

theorem childDevices_eq : childDevices d = (namedDevices d).map deviceChild :=
  filterMap_eq_map_filter (d.embedded.map Prod.snd) (fun child => Text.isBlankText child.udn)
    deviceChild

/-- No two children of a device are told by one identity, so each has a constant of its own. -/
theorem child_keys_nodup (hd : d.IsIdentified) :
    ((childDevices d ++ childServices d).map fun child => (child.group, child.id)).Nodup := by
  have hnonempty {id : String} (hid : (!Text.isBlankText id) = true) : (id != "") = true := by
    rw [bne_iff_ne]
    rintro rfl
    exact absurd hid (by decide)
  have hdevices : ((namedDevices d).map Device.udn).Nodup := by
    refine hd.embedded.sublist ?_
    rw [List.filter_map, namedDevices]
    exact (List.monotone_filter_right _ fun child hchild => hnonempty hchild).map _
  have hservices : ((namedServices d).map ServiceReference.serviceId).Nodup := by
    refine hd.services.sublist ?_
    rw [List.filter_map, namedServices]
    exact (List.monotone_filter_right _ fun s hs => hnonempty hs).map _
  have hpair (group : String) {ids : List String} (hids : ids.Nodup) :
      (ids.map fun id => (group, id)).Nodup :=
    hids.map fun a b hab => (Prod.mk.inj hab).2
  rw [List.map_append, childDevices_eq, childServices_eq, List.map_map, List.map_map]
  have hdeviceKeys := hpair ConstantPool.deviceNames hdevices
  have hserviceKeys := hpair ConstantPool.serviceIds hservices
  rw [List.map_map] at hdeviceKeys hserviceKeys
  refine List.nodup_append.mpr ⟨hdeviceKeys, hserviceKeys, ?_⟩
  intro key hkey other hother heq
  obtain ⟨child, -, rfl⟩ := List.mem_map.mp hkey
  obtain ⟨s, -, rfl⟩ := List.mem_map.mp hother
  have hgroups := congrArg Prod.fst heq
  exact absurd hgroups (by decide : ConstantPool.deviceNames ≠ ConstantPool.serviceIds)

theorem declare_isFor (l : Language) (className : String) (classes : ChildClasses) :
    let c := declare l className d classes
    List.Forall₂ (ChildProperty.IsFor l classes c.constants) (childDevices d) c.devices ∧
      List.Forall₂ (ChildProperty.IsFor l classes c.constants) (childServices d) c.services := by
  intro c
  have hextends (names : Scope) (pool : ConstantPool) :=
    extends_childProperties l classes names pool (childServices d)
  have hdevices (names : Scope) (pool : ConstantPool) :=
    childProperties_isFor l classes names pool (childDevices d)
  refine ⟨(hdevices _ _).imp fun child p h => ?_, childProperties_isFor l classes _ _ _⟩
  exact { h with constant := h.constant.mono (hextends _ _) }

/-- The constants of children are told apart by the language. -/
theorem constants_nodup (hd : d.IsIdentified) (l : Language) (className : String)
    (classes : ChildClasses) :
    let c := declare l className d classes
    ((c.devices ++ c.services).map fun p => l.nameKey p.constant).Nodup := by
  intro c
  have hvalid := constants_valid l classes className d
  have hrule : c.constants.names.rule = l.caseRule := rule_constants d l className classes
  obtain ⟨hdevices, hservices⟩ := declare_isFor d l className classes
  refine nodup_map_of_forall₂ (List.rel_append hdevices hservices) (child_keys_nodup d hd) ?_
  intro child p child' p' h h' hsame
  have hfold {name group value : String} (hhas : c.constants.Has name group value) :
      l.nameKey name = c.constants.names.rule.fold name := by
    obtain ⟨k, hlookup, rfl, -⟩ := hhas
    have hidentifier := hvalid.identifiers k (ConstantPool.lookup?_mem hlookup)
    rw [Language.nameKey, l.bareName_of_isIdentifier hidentifier, hrule]
  rw [hfold h.constant, hfold h'.constant] at hsame
  exact hvalid.key_eq_of_fold_eq h.constant h'.constant hsame

theorem isPropertyFor_childBlock (l : Language) (className : String) (classes : ChildClasses)
    {kind : Kind} (hkind : kind ∈ [Kind.deviceProperty, Kind.serviceProperty]) (generic : String)
    {child : Child} {p : ChildProperty}
    (hp : p.IsFor l classes (declare l className d classes).constants child) :
    let c := declare l className d classes
    (c.childBlock o kind generic p).IsPropertyFor l (c.code d o).blocks classes generic child.id := by
  intro c
  have htype : (c.childBlock o kind generic p).text l "type" = p.specific.getD generic := by
    simp [childBlock]
  constructor
  case constant =>
    have hconstant : (c.childBlock o kind generic p).text l "constant" = p.constant := by
      simp [childBlock]
    rw [hconstant]
    exact c.constant_isDeclared d o (constants_valid l classes className d)
      (rule_constants d l className classes) hp.constant
  case type => rw [htype, hp.specific]
  case written =>
    have hspecific : (classes.find? child.id).isSome = p.specific.isSome := by
      rw [hp.specific, Option.isSome_map]
    have hdoc : (c.childBlock o kind generic p).text l "doc" = (docCode p.summary "").text l := by
      rw [childBlock, Block.text_cons, if_pos rfl]
      rfl
    rw [c.childBlock_written o l hkind, htype, hspecific, hdoc]
    simp [childBlock]

/-- A device with a device and a service of one name. -/
def namesakes : String :=
  "<root><device><deviceList><device><deviceType>Lamp</deviceType><UDN>a</UDN></device></deviceList>" ++
    "<serviceList><service><serviceId>Lamp</serviceId></service></serviceList></device></root>"

end DeviceClass

end Class

end ControlPoint
