import Mathlib
import ControlPoint.Proofs.Class.Completeness
import ControlPoint.Proofs.Language.Comment

/-!
Blocks that quote texts as they are: declarations of constants, regions and comments. Wherever they
are in a class, its templates and joints give them lines of their own.
-/

namespace ControlPoint.Class

open Description Template Text

/-- The kinds of blocks that quote texts as they are. -/
def quotingKinds : List Kind := [.constant, .region, .docComment]

/-- The places at which a kind of block has other blocks on lines of their own. -/
def lineSlots : Kind → List String
  | .region => ["body"]
  | .enumeration | .property | .event | .singleReturnAction | .multiOutAction => ["doc"]
  | .deviceInfoProperty | .serviceProperty | .deviceProperty => ["doc"]
  | .enumProperty => ["doc", "string_doc"]
  | _ => []

theorem standsAlone_lineSlots (l : Language) (kind : Kind) :
    ∀ name ∈ lineSlots kind, StandsAlone [Piece.slot name] (l.template kind) := by
  cases l <;> cases kind <;> decide +kernel

theorem nodup_places (kind : Kind) : kind.places.Nodup := by
  cases kind <;> decide

namespace Block

/-- The block as it is written. -/
def source (l : Language) (b : Block) : String :=
  l.fill b.kind (b.values l)

/-- The block quotes what a block of its kind has to quote. -/
inductive IsQuote : Block → Prop
  | constant (subject scope name literal comment : String) :
    IsQuote ⟨.constant, subject,
      [("scope", scope), ("name", name), ("literal", literal), ("comment", comment)]⟩
  | region (subject title : String) (body : Code) :
    IsQuote ⟨.region, subject, [("name", title), ("body", body)]⟩
  | comment {summary : String} (hsummary : summary ≠ "") (subject remarks : String) :
    IsQuote ⟨.docComment, subject, [("summary", summary), ("remarks", remarks)]⟩

theorem source_constant (l : Language) (subject scope name literal comment : String) :
    source l ⟨.constant, subject, [("scope", scope), ("name", name), ("literal", literal),
      ("comment", comment)]⟩ = l.constantLine scope name literal comment :=
  l.fill_constant scope name literal comment

theorem source_docComment (l : Language) (subject summary remarks : String) :
    source l ⟨.docComment, subject, [("summary", summary), ("remarks", remarks)]⟩ =
      l.fill .docComment [("summary", summary), ("remarks", remarks)] := rfl

theorem standsIn_source_title (l : Language) (subject title : String) (body : Code) :
    StandsIn (l.titleLine title)
      (source l ⟨.region, subject, [("name", title), ("body", body)]⟩) :=
  l.standsIn_fill_title title (body.asValue l)

end Block

namespace Code

theorem value?_fieldValues (l : Language) {fields : List (String × Code)}
    (hnodup : (fields.map Prod.fst).Nodup) {name : String} {c : Code} (hc : (name, c) ∈ fields) :
    (fieldValues l fields).value? name = some (c.asValue l) := by
  induction fields with
  | nil => simp at hc
  | cons field rest ih =>
    rw [List.map_cons, List.nodup_cons] at hnodup
    rcases List.mem_cons.mp hc with rfl | hc
    · simp [fieldValues, Fields.value?]
    · have hne : field.1 ≠ name := by
        rintro rfl
        exact hnodup.1 (List.mem_map.mpr ⟨_, hc, rfl⟩)
      have hrest := ih hnodup.2 hc
      simpa [fieldValues, Fields.value?, hne] using hrest

theorem textOf_fieldValues (l : Language) {fields : List (String × Code)}
    (hnodup : (fields.map Prod.fst).Nodup) {name : String} {c : Code} (hc : (name, c) ∈ fields) :
    (fieldValues l fields).textOf name = (c.asValue l).asText := by
  rw [Fields.textOf, value?_fieldValues l hnodup hc]

/-- The code quotes nothing. -/
def QuotesNothing (c : Code) : Prop :=
  c.Every fun b => b.kind ∉ quotingKinds

/-- All blocks of the code that quote texts are of the given kinds, and they stand in the code on
    lines of their own. -/
def Quotes (l : Language) (kinds : List Kind) (c : Code) : Prop :=
  c.Every fun b => b.kind ∈ quotingKinds →
    b.kind ∈ kinds ∧ b.IsQuote ∧ StandsIn (b.source l) (c.text l)

variable {l : Language} {kinds : List Kind}

theorem Quotes.mono {kinds' : List Kind} {c : Code} (hc : c.Quotes l kinds)
    (hkinds : kinds ⊆ kinds') : c.Quotes l kinds' :=
  fun b hb hkind => ⟨hkinds (hc b hb hkind).1, (hc b hb hkind).2⟩

theorem quotes_joined (separator : String) (hseparator : separator ∈ ["\n", "\n\n"])
    {parts : List Code} (hparts : ∀ part ∈ parts, part.Quotes l kinds) :
    (joined separator parts).Quotes l kinds := by
  have hends : ∀ separator ∈ ["\n", "\n\n"],
      (∃ rest, separator = rest ++ "\n") ∧ ∃ rest, separator = "\n" ++ rest := by
    simp only [List.forall_mem_cons]
    exact ⟨⟨⟨"", rfl⟩, "", rfl⟩, ⟨⟨"\n", rfl⟩, "\n", rfl⟩, by simp⟩
  obtain ⟨hcloses, hopens⟩ := hends separator hseparator
  rw [Quotes, every_joined]
  intro part hpart b hb hkind
  obtain ⟨hkinds, hquote, hstands⟩ := hparts part hpart b hb hkind
  refine ⟨hkinds, hquote, hstands.trans ?_⟩
  obtain ⟨earlier, later, rfl⟩ := List.append_of_mem hpart
  have hinfix : [part.text l] <:+: (earlier ++ part :: later).map (text l) :=
    ⟨earlier.map (text l), later.map (text l), by simp⟩
  rw [text_joined]
  simpa using standsIn_intercalate hcloses hopens (by simp) hinfix

/-- What a block has inside stands in the block on lines of its own where the place has lines to
    itself. -/
theorem quotes_block {kind : Kind} {subject : String} {fields : List (String × Code)}
    (hplaces : fields.map Prod.fst = kind.places)
    (hself : kind ∈ quotingKinds → kind ∈ kinds ∧ Block.IsQuote ⟨kind, subject, fields⟩)
    (hfields : ∀ field ∈ fields, field.2.QuotesNothing ∨
      field.1 ∈ lineSlots kind ∧ field.2.Quotes l kinds) :
    (block kind subject fields).Quotes l kinds := by
  rw [Quotes, every_block]
  constructor
  · intro hkind
    exact ⟨(hself hkind).1, (hself hkind).2, StandsIn.refl _⟩
  · intro field hfield b hb hkind
    rcases hfields field hfield with hnothing | ⟨hslot, hquotes⟩
    · exact absurd hkind (hnothing b hb)
    · obtain ⟨hkinds, hquote, hstands⟩ := hquotes b hb hkind
      refine ⟨hkinds, hquote, hstands.trans ?_⟩
      have hvalue := value?_fieldValues l (hplaces ▸ nodup_places kind) hfield
      exact l.standsIn_fill_slot (by rw [fieldValues_map_fst, hplaces]) hvalue
        (standsAlone_lineSlots l kind _ hslot)

/-- A block of a kind that quotes nothing quotes what is inside it. -/
theorem quotes_plainBlock {kind : Kind} {subject : String} {fields : List (String × Code)}
    (hkind : kind ∉ quotingKinds) (hplaces : fields.map Prod.fst = kind.places)
    (hfields : ∀ field ∈ fields, field.2.QuotesNothing ∨
      field.1 ∈ lineSlots kind ∧ field.2.Quotes l kinds) :
    (block kind subject fields).Quotes l kinds :=
  quotes_block hplaces (fun h => absurd h hkind) hfields

end Code

theorem quotes_docCode (l : Language) {summary : String} (hsummary : summary ≠ "")
    (remarks : String) : (docCode summary remarks).Quotes l [.docComment] := by
  refine Code.quotes_block rfl (fun _ => ⟨by decide, .comment hsummary "" remarks⟩) ?_
  simp [Code.QuotesNothing]

theorem quotes_regionCode {l : Language} {kinds : List Kind} (hregion : .region ∈ kinds)
    (title : String) {parts : List Code} (hparts : ∀ part ∈ parts, part.Quotes l kinds) :
    ∀ region ∈ regionCode title parts, region.Quotes l kinds := by
  have hbody := Code.quotes_joined "\n\n" (by decide) hparts
  unfold regionCode
  split
  · simp
  · rw [List.forall_mem_singleton]
    refine Code.quotes_block rfl (fun _ => ⟨hregion, .region title title _⟩) ?_
    simp [Code.QuotesNothing, lineSlots, hbody]

theorem ConstantPool.quotes_code (l : Language) (v : Visibility) (p : ConstantPool) :
    ∀ part ∈ p.code l v, part.Quotes l [.constant, .region] := by
  rw [code, List.forall_mem_map]
  intro group _
  have hconstants : ∀ part ∈ group.2.map (constantCode l v),
      part.Quotes l [.constant, .region] := by
    rw [List.forall_mem_map]
    intro k _
    refine Code.quotes_block rfl (fun _ => ⟨by decide, .constant k.value _ _ _ _⟩) ?_
    simp [Code.QuotesNothing]
  have hbody := Code.quotes_joined "\n" (by decide) hconstants
  refine Code.quotes_block rfl (fun _ => ⟨by decide, .region group.1 group.1 _⟩) ?_
  simp [Code.QuotesNothing, lineSlots, hbody]

namespace ServiceClass

variable (c : ServiceClass) (o : Options) (l : Language)

theorem quotes_enumerationCodes (v : VariableMembers) (e : EnumType) :
    ∀ part ∈ c.enumerationCodes o v e, part.Quotes l [.docComment] := by
  simp only [enumerationCodes, List.forall_mem_cons]
  refine ⟨?enumeration, ?parse, ?write, by simp⟩
  all_goals
    refine Code.quotes_plainBlock (by decide) rfl ?_
    simp [quotes_docCode, lineSlots, Code.QuotesNothing, memberCode, caseCodes,
      quotingKinds, -List.mem_map, -List.mem_append, List.forall_mem_map, List.forall_mem_append]

theorem quotes_propertyCode (v : VariableMembers) (property : String) :
    (c.propertyCode o v property).Quotes l [.docComment] := by
  unfold propertyCode
  split
  all_goals
    refine Code.quotes_plainBlock (by decide) rfl ?_
    simp [propertyDoc, quotes_docCode, lineSlots, Code.QuotesNothing]

theorem quotes_eventCodes (v : VariableMembers) (e : Event) :
    ∀ part ∈ c.eventCodes o v e, part.Quotes l [.docComment] := by
  simp only [eventCodes, List.forall_mem_cons]
  refine ⟨?event, ?raiser, by simp⟩
  all_goals
    refine Code.quotes_plainBlock (by decide) rfl ?_
    simp [quotes_docCode, lineSlots, Code.QuotesNothing]

theorem quotes_dispatcherCode : c.dispatcherCode.Quotes l [.docComment] := by
  refine Code.quotes_plainBlock (by decide) rfl ?_
  simp [Code.QuotesNothing, branchCode, quotingKinds, -List.mem_map, List.forall_mem_map]

theorem quotes_methodCode (m : Method) : (c.methodCode o m).Quotes l [.docComment] := by
  unfold methodCode
  split
  all_goals
    refine Code.quotes_plainBlock (by decide) rfl ?_
    simp [callFields, returnFields, outFields, parameterCode, inputCode, outputCode, resultCode,
      quotes_docCode, lineSlots, Code.QuotesNothing, quotingKinds, -List.mem_map,
      List.forall_mem_map]

/-- Beside its constants a class quotes texts in comments alone. -/
theorem quotes_sections :
    ∀ entry ∈ (c.sections o).tail, ∀ part ∈ entry.2, part.Quotes c.language [.docComment] := by
  simp only [sections, List.tail_cons, List.forall_mem_cons]
  refine ⟨?enumerations, ?properties, ?events, ?methods, by simp⟩
  case enumerations =>
    rw [enumerationsCode, List.forall_mem_map]
    exact fun v _ => Code.quotes_joined "\n\n" (by decide) (c.quotes_enumerationCodes o _ v.1 v.2)
  case properties =>
    rw [propertiesCode, List.forall_mem_map]
    exact fun v _ => c.quotes_propertyCode o _ v.1 v.2
  case events =>
    rw [eventsCode, List.forall_mem_append, List.forall_mem_map, List.forall_mem_singleton]
    refine ⟨fun v _ => ?_, c.quotes_dispatcherCode _⟩
    exact Code.quotes_joined "\n\n" (by decide) (c.quotes_eventCodes o _ v.1 v.2)
  case methods =>
    rw [methodsCode, List.forall_mem_map]
    exact fun m _ => c.quotes_methodCode o _ m

end ServiceClass

namespace DeviceClass

variable (c : DeviceClass) (o : Options)

theorem quotes_informationCode (l : Language) :
    ∀ x ∈ c.information.zip informationMembers,
      (c.informationCode o x).Quotes l [.docComment] := by
  have hsummaries : ∀ member ∈ informationMembers, member.2.2 ≠ "" := by decide
  intro x hx
  have hdoc := quotes_docCode l (hsummaries x.2 (List.of_mem_zip hx).2) ""
  refine Code.quotes_plainBlock (by decide) rfl ?_
  simp [hdoc, lineSlots, Code.QuotesNothing]

theorem quotes_childCode (l : Language) {kind : Kind}
    (hkind : kind ∈ [Kind.deviceProperty, Kind.serviceProperty]) (generic : String)
    {p : ChildProperty} (hsummary : p.summary ≠ "") :
    (c.childCode o kind generic p).Quotes l [.docComment] := by
  have hdoc := quotes_docCode l hsummary ""
  simp only [List.mem_cons, List.not_mem_nil, or_false] at hkind
  rcases hkind with rfl | rfl
  all_goals
    refine Code.quotes_plainBlock (by decide) rfl ?_
    simp [hdoc, lineSlots, Code.QuotesNothing]

/-- Beside its constants a class quotes texts in comments alone. -/
theorem quotes_sections (hsummaries : ∀ p ∈ c.devices ++ c.services, p.summary ≠ "") :
    ∀ entry ∈ (c.sections o).tail, ∀ part ∈ entry.2, part.Quotes c.language [.docComment] := by
  rw [List.forall_mem_append] at hsummaries
  simp only [sections, List.tail_cons, List.forall_mem_cons, List.forall_mem_map]
  refine ⟨?information, ?devices, ?services, by simp⟩
  case information => exact c.quotes_informationCode o c.language
  case devices => exact fun p hp => c.quotes_childCode o _ (by decide) _ (hsummaries.1 p hp)
  case services => exact fun p hp => c.quotes_childCode o _ (by decide) _ (hsummaries.2 p hp)

theorem childProperties_summary (l : Language) (classes : ChildClasses) (names : Naming.Scope)
    (pool : ConstantPool) (children : List Child) :
    (childProperties l classes names pool children).1.map ChildProperty.summary =
      children.map Child.summary := by
  induction children generalizing names pool with
  | nil => rfl
  | cons child rest ih => rw [childProperties_cons, List.map_cons, List.map_cons, ih]

/-- The properties for children say something in their comments. -/
theorem declare_summary_ne_empty (l : Language) (className : String) (d : Device)
    (classes : ChildClasses) :
    let c := declare l className d classes
    ∀ p ∈ c.devices ++ c.services, p.summary ≠ "" := by
  intro c
  have hproperties {children : List Child} (hchildren : ∀ child ∈ children, child.summary ≠ "")
      (names : Naming.Scope) (pool : ConstantPool) :
      ∀ p ∈ (childProperties l classes names pool children).1, p.summary ≠ "" := by
    rw [← List.forall_mem_map (P := (· ≠ "")), childProperties_summary, List.forall_mem_map]
    exact hchildren
  have hdevices : ∀ child ∈ childDevices d, child.summary ≠ "" := by
    rw [childDevices, filterMap_eq_map_filter, List.forall_mem_map]
    simp
  have hservices : ∀ child ∈ childServices d, child.summary ≠ "" := by
    rw [childServices, filterMap_eq_map_filter, List.forall_mem_map]
    simp
  rw [List.forall_mem_append]
  exact ⟨hproperties hdevices _ _, hproperties hservices _ _⟩

end DeviceClass

end ControlPoint.Class
