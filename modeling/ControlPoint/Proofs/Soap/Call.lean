import Mathlib
import ControlPoint.Proofs.Text.Trim
import ControlPoint.Proofs.Xml.Document
import ControlPoint.Soap.Call
import ControlPoint.Soap.Reply

namespace ControlPoint.Soap

open Text Xml

/-- A name without a prefix. -/
structure IsPlainName (name : String) : Prop where
  isName : Xml.isName name.toList = true
  unprefixed : ':' ∉ name.toList

/-- A call that can be written: its action and its arguments bear names, and all texts in it may
    stand in a document. -/
structure Call.IsWritable (c : Call) : Prop where
  source : c.source ≠ ""
  sourceText : IsAllowed c.source
  action : IsPlainName c.action
  names : ∀ a ∈ c.arguments, IsPlainName a.1
  values : ∀ a ∈ c.arguments, IsAllowed a.2

theorem IsPlainName.localName_eq {name : String} (hname : IsPlainName name) :
    localName name = name := by
  rw [localName, cutAt_eq_none hname.unprefixed]

theorem IsPlainName.scopeName_eq {name : String} (hname : IsPlainName name) :
    scopeName name = "" := by
  rw [scopeName, cutAt_eq_none hname.unprefixed]

theorem IsPlainName.isQualifiedName {name : String} (hname : IsPlainName name) :
    isQualifiedName name.toList = true :=
  isQualifiedName_of_isName hname.isName hname.unprefixed

theorem toList_prefixed (name : String) : ("u:" ++ name).toList = 'u' :: ':' :: name.toList := by
  rw [String.toList_append]
  rfl

/-- The name of the element for an action is the action's name with a prefix. -/
theorem localName_prefixed (name : String) : localName ("u:" ++ name) = name := by
  rw [localName, toList_prefixed]
  simp [cutAt]

theorem scopeName_prefixed (name : String) : scopeName ("u:" ++ name) = "u" := by
  rw [scopeName, toList_prefixed]
  simp [cutAt]

theorem IsPlainName.isQualifiedName_prefixed {name : String} (hname : IsPlainName name) :
    Xml.isQualifiedName ("u:" ++ name).toList = true := by
  have hchars := isNameChar_of_isName hname.isName
  have hne : name.toList ≠ [] := by
    intro hnil
    have hisName := hname.isName
    rw [hnil] at hisName
    cases hisName
  have hpieces : splitWhere (· == ':') name.toList = [name.toList] :=
    splitWhere_of_forall_not fun c hc => by
      rw [beq_eq_false_iff_ne]
      rintro rfl
      exact hname.unprefixed hc
  have hstart : isNameStart 'u' = true := by decide
  have hcolon : isNameChar ':' = true := by decide
  rw [toList_prefixed, Xml.isQualifiedName, Xml.isName]
  simpa [splitWhere, hpieces, hstart, hcolon, hne] using hchars

namespace Call

variable {c : Call}

theorem IsWritable.element_isTag (hwritable : c.IsWritable) :
    IsTag ("u:" ++ c.action) [("xmlns:u", c.source)] where
  name := hwritable.action.isQualifiedName_prefixed
  keys := by
    rw [List.forall_mem_singleton]
    show Xml.isQualifiedName "xmlns:u".toList = true
    decide
  values := by
    rw [List.forall_mem_singleton]
    exact hwritable.sourceText

theorem IsWritable.argument_isWritable (hwritable : c.IsWritable) {a : String × String}
    (ha : a ∈ c.arguments) : (Element.ofText a.1 a.2).IsWritable :=
  .text ⟨(hwritable.names a ha).isQualifiedName, by simp, by simp⟩ rfl (hwritable.values a ha)

theorem IsWritable.element_isWritable (hwritable : c.IsWritable) : c.element.IsWritable := by
  rw [element]
  cases harguments : c.arguments with
  | nil => exact .empty hwritable.element_isTag rfl
  | cons first rest =>
    refine .nested hwritable.element_isTag rfl (by simp) fun e he => ?_
    rw [← harguments] at he
    obtain ⟨a, ha, rfl⟩ := List.mem_map.mp he
    exact hwritable.argument_isWritable ha

theorem IsWritable.envelope_isWritable (hwritable : c.IsWritable) :
    (envelope c.element).IsWritable := by
  have hbody : (Element.mk "s:Body" [] none [c.element]).IsWritable := by
    refine .nested ⟨by decide, by simp, by simp⟩ rfl (by simp) ?_
    rw [List.forall_mem_singleton]
    exact hwritable.element_isWritable
  refine .nested ⟨by decide, by decide, by decide⟩ (by decide) (by simp) ?_
  rw [List.forall_mem_singleton]
  exact hbody

/-- All prefixes in the envelope are declared: those of the envelope by itself and that of the
    action by the element for it. -/
theorem IsWritable.envelope_isScoped (hwritable : c.IsWritable) :
    isScoped reservedNamespaces (envelope c.element) = true := by
  let outer := ("s", envelopeNamespace) :: reservedNamespaces
  have harguments : areScoped (("u", c.source) :: outer)
      (c.arguments.map fun a => .ofText a.1 a.2) = true := by
    rw [areScoped_eq, List.all_eq_true]
    intro e he
    obtain ⟨a, ha, rfl⟩ := List.mem_map.mp he
    simp [Element.ofText, isScoped, isTagScoped, declarations, areScoped, isDeclared,
      (hwritable.names a ha).scopeName_eq, reservedNamespaces]
  have helement : isScoped outer c.element = true := by
    have hdeclared : declarations [("xmlns:u", c.source)] = [("u", c.source)] := rfl
    have hprefix : declaredPrefix? "xmlns:u" = some "u" := by decide
    rw [element, isScoped, hdeclared, List.singleton_append, harguments, Bool.and_true]
    simp [isTagScoped, hdeclared, hprefix, scopeName_prefixed, isDeclarable, isDeclared,
      hwritable.source, reservedNamespaces]
  have hbody : isScoped outer (.mk "s:Body" [] none [c.element]) = true := by
    rw [isScoped, areScoped, areScoped, Bool.and_true]
    rw [show declarations [] ++ outer = outer from rfl, helement, Bool.and_true]
    decide
  rw [envelope, isScoped, areScoped, areScoped, Bool.and_true]
  have hdeclared :
      declarations [("s:encodingStyle", encodingStyle), ("xmlns:s", envelopeNamespace)] ++
        reservedNamespaces = outer := by decide
  rw [hdeclared, hbody, Bool.and_true]
  decide

/-- What is read of an argument is its value without white space around it. -/
theorem argument_asRead {name value : String} (hname : IsPlainName name) :
    ((Element.ofText name value).asRead.localName, (Element.ofText name value).asRead.content) =
      (name, trim value) := by
  rw [Element.ofText, Element.asRead_mk, Option.filter_some, Prod.mk.injEq]
  refine ⟨hname.localName_eq, ?_⟩
  by_cases hblank : value.toList.all isMarkupBlank = true
  · have hall : ∀ x ∈ value.toList, isBlank x = true := fun x hx =>
      isBlank_of_isMarkupBlank (List.all_eq_true.mp hblank x hx)
    have htrim : trimChars value.toList = [] := (trimWhere_eq_nil_iff isBlank _).mpr hall
    simp [hblank, Element.content, Element.text, trim, htrim]
  · simp [hblank, Element.content, Element.text]

/-- The values in the envelope for a call, once it is read again. -/
theorem valuesIn_asRead (hwritable : c.IsWritable) (hfault : c.action ≠ "Fault") :
    valuesIn (envelope c.element).asRead =
      .ok (c.arguments.map fun (name, value) => (name, trim value)) := by
  let content := c.element.asRead
  let body := Element.mk "s:Body" [] none [content]
  have hname : (envelope c.element).asRead.localName = "Envelope" := by
    show localName "s:Envelope" = "Envelope"
    decide
  have hbody : (envelope c.element).asRead.child? "Body" = some body := by
    have hfirst : body.localName = "Body" := by
      show localName "s:Body" = "Body"
      decide
    have hchildren : (envelope c.element).asRead.children = [body] := rfl
    rw [Element.child?, hchildren, List.find?_cons, hfirst]
    rfl
  have hcontent : content.localName = c.action := by
    rw [Element.localName, Element.asRead_name]
    exact localName_prefixed c.action
  have hvalues : (content.children.map fun e => (e.localName, e.content)) =
      c.arguments.map fun (name, value) => (name, trim value) := by
    simp only [content, element, Element.asRead_mk, Element.children, List.map_map]
    exact List.map_congr_left fun a ha => argument_asRead (hwritable.names a ha)
  have hchildren : body.children = [content] := rfl
  rw [valuesIn, hname, hbody]
  simp only [bne_self_eq_false, Bool.false_eq_true, if_false, hchildren, hcontent, beq_iff_eq,
    hfault, hvalues]

end Call

/-- The values of a call are read back from its document, in order and under their names, without
    white space around them. -/
theorem readValues_document {c : Call} (hwritable : c.IsWritable) (hfault : c.action ≠ "Fault") :
    readValues c.document = .ok (c.arguments.map fun (name, value) => (name, trim value)) := by
  have hread := read?_document hwritable.envelope_isWritable hwritable.envelope_isScoped
  rw [readValues, Call.document, hread]
  exact Call.valuesIn_asRead hwritable hfault

/-- A call whose values hold markup, quotes and the end of a section, or nothing but white space,
    and in which a name comes twice. -/
def markupCall : Call where
  source := "urn:schemas-upnp-org:service:<\"AVTransport\">&1"
  action := "SetAVTransportURI"
  arguments := [("CurrentURI", " http://a/?b=1&amp;c='2' "), ("MetaData", "<a>\n\"]]>\"\r\n</a>\t"),
    ("MetaData", " \n\u00A0"), ("_x.1-é", "")]

theorem markupCall_readValues : markupCall.IsWritable ∧ markupCall.action ≠ "Fault" ∧
    readValues markupCall.document = .ok [("CurrentURI", "http://a/?b=1&amp;c='2'"),
      ("MetaData", "<a>\n\"]]>\"\r\n</a>"), ("MetaData", ""), ("_x.1-é", "")] := by
  have hnames : ∀ a ∈ markupCall.arguments, IsPlainName a.1 := by
    simp only [markupCall, List.forall_mem_cons]
    exact ⟨⟨by decide, by decide⟩, ⟨by decide, by decide⟩, ⟨by decide, by decide⟩,
      ⟨by decide, by decide⟩, by simp⟩
  have hwritable : markupCall.IsWritable :=
    ⟨by decide, by decide, ⟨by decide, by decide⟩, hnames, by decide⟩
  refine ⟨hwritable, by decide, ?_⟩
  rw [readValues_document hwritable (by decide)]
  decide

end ControlPoint.Soap
