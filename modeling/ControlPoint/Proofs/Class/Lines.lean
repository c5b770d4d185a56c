import Mathlib
import ControlPoint.Proofs.Class.Level
import ControlPoint.Proofs.Class.Quotes

/-!
The lines of a class. What is quoted in a class has lines of its own, but nothing keeps a quoted
text from ending them.
-/

namespace ControlPoint.Class

open Description Naming Template Text

/-! ### The blocks of a class -/

/-- The regions of a class, the first of which declares the constants. -/
def classBody (l : Language) (v : Visibility) (pool : ConstantPool)
    (others : List (String × List Code)) : Code :=
  .joined "\n\n" ((("Constants", pool.code l v) :: others).flatMap fun entry =>
    regionCode entry.1 entry.2)

/-- What every class is made of. -/
def classFields (l : Language) (className summary : String) (o : Options) (body : Code) :
    List (String × Code) :=
  [("header", o.header), ("namespace", o.namespaceName l), ("doc", docCode summary ""),
    ("scope", l.visibilityWord o.visibility), ("partial", o.isPart),
    ("class_name", l.escape className), ("body", body)]

def classCode (l : Language) (kind : Kind) (subject className summary : String) (o : Options)
    (body : Code) : Code :=
  .block kind subject (classFields l className summary o body)

/-- The block declares a constant. -/
def Block.isConstant (b : Block) : Bool :=
  b.kind == .constant

/-- The declaration of a constant. -/
def constantBlock (l : Language) (v : Visibility) (k : Constant) : Block :=
  ⟨.constant, k.value, [("scope", l.visibilityWord v), ("name", k.identifier),
    ("literal", l.literal k.value), ("comment", k.comment)]⟩

theorem filter_blocks_regionCode (P : Block → Bool) {title : String} {parts : List Code}
    (hregion : P ⟨.region, title, [("name", title), ("body", .joined "\n\n" parts)]⟩ = false) :
    ((regionCode title parts).flatMap Code.blocks).filter P =
      (parts.flatMap Code.blocks).filter P := by
  cases parts with
  | nil => rfl
  | cons part rest => simp [regionCode, hregion]

theorem filter_blocks_constants (l : Language) (v : Visibility) (pool : ConstantPool) :
    ((pool.code l v).flatMap Code.blocks).filter Block.isConstant =
      pool.declared.map (constantBlock l v) := by
  have hgroup (group : String × List Constant) :
      (ConstantPool.groupCode l v group).blocks.filter Block.isConstant =
        group.2.map (constantBlock l v) := by
    have hblocks : group.2.flatMap (fun k => (ConstantPool.constantCode l v k).blocks) =
        group.2.map (constantBlock l v) := by
      rw [← List.flatMap_singleton' (group.2.map _), List.flatMap_map]
      rfl
    have hkind : ∀ b ∈ group.2.map (constantBlock l v), b.isConstant = true := by
      simp [constantBlock, Block.isConstant]
    simp [ConstantPool.groupCode, List.flatMap_map, hblocks, List.filter_eq_self.mpr hkind,
      Block.isConstant]
  rw [ConstantPool.code, List.flatMap_map, List.filter_flatMap, ConstantPool.declared,
    List.map_flatMap]
  exact List.flatMap_congr fun group _ => hgroup group

section Body

variable (l : Language) (v : Visibility) (pool : ConstantPool) {others : List (String × List Code)}
  (hothers : ∀ entry ∈ others, ∀ part ∈ entry.2, part.Quotes l [.docComment])

include hothers

/-- Where nothing else declares constants, the regions of a class declare those of the pool. -/
theorem filter_blocks_classBody :
    (classBody l v pool others).blocks.filter Block.isConstant =
      pool.declared.map (constantBlock l v) := by
  have hnone : ∀ entry ∈ others,
      ((regionCode entry.1 entry.2).flatMap Code.blocks).filter Block.isConstant = [] := by
    intro entry hentry
    rw [filter_blocks_regionCode _ rfl, List.filter_eq_nil_iff]
    intro b hb hconstant
    obtain ⟨part, hpart, hb⟩ := List.mem_flatMap.mp hb
    have hkind : b.kind = .constant := eq_of_beq hconstant
    have hdoc := (hothers entry hentry part hpart b hb (by simp [quotingKinds, hkind])).1
    simp [hkind] at hdoc
  have hrest : ((others.flatMap fun entry => regionCode entry.1 entry.2).flatMap Code.blocks).filter
      Block.isConstant = [] := by
    rw [List.flatMap_assoc, List.filter_flatMap, List.flatMap_eq_nil_iff]
    exact hnone
  rw [classBody, Code.blocks_joined, List.flatMap_cons, List.flatMap_append, List.filter_append,
    filter_blocks_regionCode _ rfl, filter_blocks_constants, hrest, List.append_nil]

theorem quotes_classBody :
    (classBody l v pool others).Quotes l quotingKinds := by
  refine Code.quotes_joined "\n\n" (by decide) ?_
  rw [List.forall_mem_flatMap, List.forall_mem_cons]
  constructor
  · refine quotes_regionCode (by decide) "Constants" fun part hpart => ?_
    exact (pool.quotes_code l v part hpart).mono (by decide)
  · intro entry hentry
    refine quotes_regionCode (by decide) entry.1 fun part hpart => ?_
    exact (hothers entry hentry part hpart).mono (by decide)

theorem standsIn_declaration {k : Constant} (hk : k ∈ pool.declared) :
    StandsIn (l.constantLine (l.visibilityWord v) k.identifier (l.literal k.value) k.comment)
      ((classBody l v pool others).text l) := by
  have hmem : constantBlock l v k ∈
      (classBody l v pool others).blocks.filter Block.isConstant := by
    rw [filter_blocks_classBody l v pool hothers]
    exact List.mem_map_of_mem hk
  have hstands := (quotes_classBody l v pool hothers _ (List.mem_filter.mp hmem).1
    (by simp [constantBlock, quotingKinds])).2.2
  rwa [constantBlock, Block.source_constant] at hstands

end Body

/-- The blocks of a class that quote texts. -/
theorem mem_blocks_classCode {l : Language} {kind : Kind}
    (hkind : kind ∈ [Kind.serviceClass, .deviceClass]) {subject className summary : String}
    {o : Options} {body : Code} {b : Block}
    (hb : b ∈ (classCode l kind subject className summary o body).blocks)
    (hquotes : b.kind ∈ quotingKinds) :
    b = ⟨.docComment, "", [("summary", summary), ("remarks", "")]⟩ ∨ b ∈ body.blocks := by
  rw [classCode, Code.blocks_block, List.mem_cons] at hb
  rcases hb with rfl | hb
  · simp only [List.mem_cons, List.not_mem_nil, or_false] at hkind
    rcases hkind with rfl | rfl <;> simp [quotingKinds] at hquotes
  · simpa [classFields, docCode] using hb

theorem filter_blocks_classCode {l : Language} {kind : Kind}
    (hkind : kind ∈ [Kind.serviceClass, .deviceClass]) (subject className summary : String)
    (o : Options) (body : Code) :
    (classCode l kind subject className summary o body).blocks.filter Block.isConstant =
      body.blocks.filter Block.isConstant := by
  simp only [List.mem_cons, List.not_mem_nil, or_false] at hkind
  rcases hkind with rfl | rfl <;> simp [classCode, classFields, docCode, Block.isConstant]

/-! ### The lines of a class -/

section Lines

variable (l : Language) {kind : Kind} (hkind : kind ∈ [Kind.serviceClass, .deviceClass])
  (subject className summary : String) (o : Options) (body : Code)

include hkind

theorem classFields_places :
    (classFields l className summary o body).map Prod.fst = kind.places := by
  simp only [List.mem_cons, List.not_mem_nil, or_false] at hkind
  rcases hkind with rfl | rfl <;> rfl

theorem standsIn_classCode_header :
    StandsIn (l.headerLine o.header)
      ((classCode l kind subject className summary o body).text l) := by
  refine l.standsIn_fill_header hkind ?_ rfl
  rw [Code.fieldValues_map_fst, classFields_places l hkind]

/-- What is moved in stands in the class where the template has lines for it. -/
theorem standsIn_classCode_indented {name text : String} {levels : Nat} {c : Code}
    (hc : (name, c) ∈ classFields l className summary o body) (htext : c.asValue l = .text text)
    (halone : ∀ kind ∈ [Kind.serviceClass, Kind.deviceClass],
      StandsAlone [Piece.indented name levels] (l.template kind)) :
    StandsIn (markLines text (indentation levels) true)
      ((classCode l kind subject className summary o body).text l) := by
  have hplaces := classFields_places l hkind className summary o body
  have hvalue := Code.textOf_fieldValues l (hplaces ▸ nodup_places kind) hc
  rw [htext, Code.asText_text] at hvalue
  rw [← hvalue]
  exact l.standsIn_fill_indented (by rw [Code.fieldValues_map_fst, hplaces]) (halone kind hkind)

theorem standsIn_classCode_doc :
    StandsIn (markLines ((docCode summary "").text l) (indentation 1) true)
      ((classCode l kind subject className summary o body).text l) := by
  have halone : ∀ kind ∈ [Kind.serviceClass, Kind.deviceClass],
      StandsAlone [Piece.indented "doc" 1] (l.template kind) := by
    cases l <;> decide +kernel
  have hdoc : ("doc", docCode summary "") ∈ classFields l className summary o body := by
    simp [classFields]
  exact standsIn_classCode_indented l hkind subject className summary o body hdoc rfl halone

theorem standsIn_classCode_body {text : String} (htext : body.asValue l = .text text) :
    StandsIn (markLines text (indentation 2) true)
      ((classCode l kind subject className summary o body).text l) := by
  have halone : ∀ kind ∈ [Kind.serviceClass, Kind.deviceClass],
      StandsAlone [Piece.indented "body" 2] (l.template kind) := by
    cases l <;> decide +kernel
  have hbody : ("body", body) ∈ classFields l className summary o body := by
    simp [classFields]
  exact standsIn_classCode_indented l hkind subject className summary o body hbody htext halone

end Lines

/-- When the texts that a source quotes keep to their lines. -/
structure QuotesByLine (l : Language) (o : Options) (pool : ConstantPool) (code : Code)
    (source : String) : Prop where
  header : l.headerLine o.header ∈ physicalLines source ↔ IsOneLine o.sourceType
  /-- Each constant is declared by one block. -/
  declarations : code.blocks.filter Block.isConstant =
    pool.declared.map (constantBlock l o.visibility)
  distinct : (pool.declared.map Constant.identifier).Nodup
  /-- The block of a constant is one line. -/
  constants : ∀ k ∈ pool.declared,
    indentation 2 ++ l.constantLine (l.visibilityWord o.visibility) k.identifier (l.literal k.value)
        k.comment ∈ physicalLines source ↔
      (∀ c ∈ k.value.toList, l.endsLiteral c = false) ∧ IsOneLine k.comment
  titles : ∀ b ∈ code.blocks, b.kind = .region →
    (indentation 2 ++ l.titleLine (b.text l "name") ∈ physicalLines source ↔
      IsOneLine (b.text l "name"))
  /-- The lines of a comment, moved in, stand together, and all are marked. -/
  comments : ∀ b ∈ code.blocks, b.kind = .docComment → ∃ levels,
    let written := physicalLines (markLines (b.source l) (indentation levels) true)
    written <:+: physicalLines source ∧
      ((∀ line ∈ written, l.IsComment line) ↔
        l.StaysInComment (b.text l "summary") ∧ l.StaysInComment (b.text l "remarks"))

theorem isOneLine_header (o : Options) : IsOneLine o.header ↔ IsOneLine o.sourceType := by
  have htexts : ∀ text ∈ ["", "Generated by pmogen ", generatorVersion, " from "],
      IsOneLine text := by simp [IsOneLine, isLineEnd, generatorVersion]
  simp only [List.forall_mem_cons] at htexts
  by_cases htype : o.sourceType = "" <;> simp [Options.header, htype, htexts]

theorem isOneLine_of_isIdentifier {name : String} (hname : IsIdentifier name) :
    IsOneLine name := by
  intro c hc
  have hblank := isBlank_of_isWordChar (hname.isWord c hc)
  by_contra hline
  rw [Bool.not_eq_false] at hline
  rw [isBlank_of_isLineEnd hline] at hblank
  cases hblank

theorem quotesByLine_classCode (l : Language) {kind : Kind}
    (hkind : kind ∈ [Kind.serviceClass, .deviceClass]) (subject className : String)
    {summary : String} (hsummary : summary ≠ "") (o : Options) {pool : ConstantPool}
    (hvalid : pool.Valid) {others : List (String × List Code)}
    (hothers : ∀ entry ∈ others, ∀ part ∈ entry.2, part.Quotes l [.docComment]) :
    QuotesByLine l o pool
      (classCode l kind subject className summary o (classBody l o.visibility pool others))
      ((classCode l kind subject className summary o
        (classBody l o.visibility pool others)).text l) := by
  have hbody := quotes_classBody l o.visibility pool hothers
  have hbodyIn := standsIn_classCode_body l hkind subject className summary o
    (classBody l o.visibility pool others) rfl
  have hspaces := isOneLine_indentation 2
  constructor
  case header =>
    have hheader := standsIn_classCode_header l hkind subject className summary o
      (classBody l o.visibility pool others)
    rw [hheader.mem_physicalLines_iff, Language.isOneLine_headerLine, isOneLine_header]
  case declarations =>
    rw [filter_blocks_classCode hkind, filter_blocks_classBody l _ _ hothers]
  case distinct =>
    refine List.Nodup.of_map pool.names.rule.fold ?_
    simpa [Function.comp_def] using hvalid.distinct
  case constants =>
    intro k hk
    have hstands := standsIn_declaration l o.visibility pool hothers hk
    rw [hstands.mem_physicalLines_markLines_iff (l.isBlankText_constantLine ..) hspaces true
      hbodyIn, l.isOneLine_constantLine (l.isOneLine_visibilityWord _)
        (isOneLine_of_isIdentifier (hvalid.identifiers k hk)), l.isOneLine_literal]
  case titles =>
    intro b hb hregion
    have hquotes : b.kind ∈ quotingKinds := by simp [hregion, quotingKinds]
    rcases mem_blocks_classCode hkind hb hquotes with rfl | hb
    · cases hregion
    · obtain ⟨-, hquote, hstands⟩ := hbody b hb hquotes
      cases hquote with
      | constant => cases hregion
      | comment => cases hregion
      | region subject title body =>
        have htitle := (Block.standsIn_source_title l subject title body).trans hstands
        have htext : Block.text l ⟨.region, subject, [("name", title), ("body", body)]⟩ "name" =
          title := by simp
        rw [htext, htitle.mem_physicalLines_markLines_iff (l.isBlankText_titleLine title) hspaces
          true hbodyIn, l.isOneLine_titleLine]
  case comments =>
    intro b hb hcomment
    have hquotes : b.kind ∈ quotingKinds := by simp [hcomment, quotingKinds]
    rcases mem_blocks_classCode hkind hb hquotes with rfl | hb
    · refine ⟨1, ?_, ?_⟩
      · exact (standsIn_classCode_doc l hkind subject className summary o _).physicalLines
      · rw [Block.source_docComment, l.isComment_docComment_iff hsummary]
        simp
    · obtain ⟨-, hquote, hstands⟩ := hbody b hb hquotes
      cases hquote with
      | constant => cases hcomment
      | region => cases hcomment
      | comment hsummary subject remarks =>
        rw [Block.source_docComment] at hstands ⊢
        refine ⟨2, ?_, ?_⟩
        · have hends := l.endsInLine_docComment hsummary remarks
          exact ((hstands.markLines hends (indentation 2) true).trans hbodyIn).physicalLines
        · rw [l.isComment_docComment_iff hsummary]
          simp

theorem ServiceClass.quotesByLine (c : ServiceClass) (o : Options) (hvalid : c.constants.Valid) :
    QuotesByLine c.language o c.constants (c.code o) ((c.code o).text c.language) := by
  have hsummary : summary o ≠ "" := by
    unfold summary
    split <;> simp
  exact quotesByLine_classCode c.language (by decide) o.sourceType c.name hsummary o hvalid
    (c.quotes_sections o)

theorem DeviceClass.declare_quotesByLine (l : Language) (d : Device) (o : Options)
    (classes : ChildClasses) :
    let c := declare l o.className d classes
    QuotesByLine l o c.constants (c.code d o) ((c.code d o).text l) := by
  intro c
  have hsummary : summary d ≠ "" := by
    unfold summary
    split <;> simp
  have hsections := c.quotes_sections o (declare_summary_ne_empty l o.className d classes)
  exact quotesByLine_classCode l (by decide) d.deviceType c.name hsummary o
    (constants_valid l classes o.className d) hsections

/-- Whatever is described and chosen, the class of a service or of a device declares each constant
    once, and on one line just if neither its value ends the line from within the literal nor the
    remark behind it does. The title of a region and the type in the header keep to their lines just
    if no line ends in them, and a comment is one on all its lines just if all that it quotes can be
    put into a comment. -/
theorem files_quotesByLine (l : Language) (o : Options) :
    (∀ (s : ServiceDescription) (test : Bool) (probe : Option (String → Answer)),
      let answers := (ServiceClass.tester test probe).map (ServiceClass.questions s).map
      let c := ServiceClass.declare l o.className s answers
      ∃ f, (ServiceClass.write l o s test probe).file = .ok f ∧
        QuotesByLine l o c.constants (c.code o) f.source) ∧
      ∀ (d : Device) (classes : ChildClasses),
        let c := DeviceClass.declare l o.className d classes
        ∃ f, c.file d o = .ok f ∧ QuotesByLine l o c.constants (c.code d o) f.source := by
  constructor
  · intro s test probe answers c
    have hserves := ServiceClass.declare_serves l o.className s answers
    have hquotes := c.quotesByLine o hserves.constants
    refine ⟨_, c.file_eq o, ?_⟩
    rw [hserves.language] at hquotes ⊢
    exact hquotes
  · intro d classes c
    exact ⟨_, c.file_eq d o, DeviceClass.declare_quotesByLine l d o classes⟩

/-- A service with a variable whose data type goes on after the end of a line. -/
def thermostat : String :=
  "<scpd><serviceStateTable><stateVariable><name>A</name><dataType>string&#10;" ++
    "public int Injected;</dataType></stateVariable></serviceStateTable></scpd>"

theorem declared_thermostat : ∃ s, ServiceDescription.parse thermostat = .ok s ∧
    ∀ l, (ServiceClass.declare l "Thermostat" s none).constants.declared =
      [⟨"csStateVarName_A", "A", "string\npublic int Injected;"⟩] := by
  have hparsed : (ServiceDescription.parse thermostat).map (fun s =>
      ((ServiceClass.declare .csharp "Thermostat" s none).constants.declared,
        (ServiceClass.declare .visualBasic "Thermostat" s none).constants.declared)) =
      .ok ([⟨"csStateVarName_A", "A", "string\npublic int Injected;"⟩],
        [⟨"csStateVarName_A", "A", "string\npublic int Injected;"⟩]) := by decide +kernel
  obtain ⟨s, hs, heq⟩ := exists_of_map_eq_ok hparsed
  obtain ⟨hcsharp, hvisualBasic⟩ := Prod.mk.inj heq
  refine ⟨s, hs, fun l => ?_⟩
  cases l with
  | csharp => exact hcsharp
  | visualBasic => exact hvisualBasic

/-- A declaration whose remark ends within a line is in the source with all its lines. -/
theorem ServiceClass.physicalLines_declaration (c : ServiceClass) (o : Options) {k : Constant}
    (hk : k ∈ c.constants.declared) (hends : EndsInLine k.comment) :
    physicalLines (markLines (c.language.constantLine (c.language.visibilityWord o.visibility)
      k.identifier (c.language.literal k.value) k.comment) (indentation 2) true) <:+:
        physicalLines ((c.code o).text c.language) := by
  have hclass : Kind.serviceClass ∈ [Kind.serviceClass, Kind.deviceClass] := by decide
  have hdeclared :=
    standsIn_declaration c.language o.visibility c.constants (c.quotes_sections o) hk
  have hbody := standsIn_classCode_body c.language hclass o.sourceType c.name (summary o) o
    (classBody c.language o.visibility c.constants (c.sections o).tail) rfl
  have hline := c.language.endsInLine_constantLine (c.language.visibilityWord o.visibility)
    k.identifier (c.language.literal k.value) hends
  exact ((hdeclared.markLines hline (indentation 2) true).trans hbody).physicalLines

/-- In either language the data type ends the line of a declaration and adds a line of its own to
    the class. -/
theorem thermostat_endsLine :
    ∃ s, ServiceDescription.parse thermostat = .ok s ∧ ∀ l, ∃ f,
      (ServiceClass.declare l "Thermostat" s none).file { className := "Thermostat" } = .ok f ∧
        "        public int Injected;" ∈ physicalLines f.source ∧
        indentation 2 ++ l.constantLine (l.visibilityWord .everyone) "csStateVarName_A"
          (l.literal "A") "string\npublic int Injected;" ∉ physicalLines f.source := by
  obtain ⟨s, hs, hdeclared⟩ := declared_thermostat
  refine ⟨s, hs, fun l => ⟨_, ServiceClass.file_eq .., ?_, ?_⟩⟩
  · have hlanguage := (ServiceClass.declare_serves l "Thermostat" s none).language
    have hk : ⟨"csStateVarName_A", "A", "string\npublic int Injected;"⟩ ∈
        (ServiceClass.declare l "Thermostat" s none).constants.declared := by simp [hdeclared l]
    have hends : EndsInLine "string\npublic int Injected;" :=
      ⟨"string\npublic int Injected".toList, ';', by decide, by decide, by decide⟩
    apply (ServiceClass.physicalLines_declaration _ _ hk hends).subset
    rw [hlanguage]
    cases l <;> decide +kernel
  · intro hmem
    have honeLine := isOneLine_of_mem_physicalLines hmem
    rw [isOneLine_append] at honeLine
    have hfeed := honeLine.2.not_mem_feed
    cases l <;> simp [Language.constantLine] at hfeed

end ControlPoint.Class
