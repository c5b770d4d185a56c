import Mathlib
import ControlPoint.Proofs.Xml.Element
import ControlPoint.Soap.Reply

namespace ControlPoint.Soap

open Xml

/-- The first element of a name inside an element, in the order of the document. -/
def firstInside? (name : String) (e : Element) : Option Element :=
  e.descendants.find? fun d => d.localName == name

/-- What the first element of a name inside an element holds, without white space around it. -/
def firstContent? (name : String) (e : Element) : Option String :=
  (firstInside? name e).map Element.content

/-- The document is an envelope in whose body a fault comes first. -/
structure TellsFault (document : String) (fault : Element) : Prop where
  isFault : fault.localName = "Fault"
  first : ∃ envelope body others, Xml.read? document = some envelope ∧
    envelope.localName = "Envelope" ∧ envelope.child? "Body" = some body ∧
    body.children = fault :: others

theorem contentInside?_eq (name : String) (e : Element) :
    contentInside? name e = firstContent? name e := by
  rw [contentInside?, Element.descendant?_eq_find?_descendants]
  rfl

theorem firstInside?_eq_none_iff (name : String) (e : Element) :
    firstInside? name e = none ↔ ∀ d ∈ e.descendants, d.localName ≠ name := by
  simp [firstInside?]

/-- A reply that tells of a fault has no values, whatever stands behind the fault. -/
theorem TellsFault.readValues_eq {document : String} {fault : Element}
    (htells : TellsFault document fault) : readValues document = .error (faultOf fault) := by
  obtain ⟨envelope, body, others, hread, henvelope, hbody, hchildren⟩ := htells.first
  rw [readValues, hread]
  dsimp only
  rw [valuesIn, henvelope, hbody, if_neg (by simp)]
  dsimp only
  rw [hchildren]
  dsimp only
  rw [htells.isFault]
  rfl

theorem faultOf_of_detail {fault detail : Element}
    (hdetail : firstInside? "UPnPError" fault = some detail) :
    faultOf fault = .fault ((firstContent? "errorCode" detail).getD "")
      (((firstContent? "errorDescription" detail).or (firstContent? "faultstring" fault)).getD
        "") := by
  rw [firstInside?, ← Element.descendant?_eq_find?_descendants] at hdetail
  rw [faultOf, hdetail]
  simp only [contentInside?_eq]

theorem faultOf_of_no_detail {fault : Element} (hdetail : firstInside? "UPnPError" fault = none) :
    faultOf fault = .fault ((firstContent? "faultcode" fault).getD "")
      ((firstContent? "faultstring" fault).getD "") := by
  rw [firstInside?, ← Element.descendant?_eq_find?_descendants] at hdetail
  rw [faultOf, hdetail]
  simp only [contentInside?_eq]

/-- A search inside an element finds the first one of the name in the order of the document. So a
    reply that tells of a fault gives the fault that the service itself tells of, and if it tells of
    none, that of the envelope. -/
theorem descendant?_isFirst_and_readValues_of_tellsFault :
    (∀ e : Element, e.descendants = e.children.flatMap fun child => child :: child.descendants) ∧
    (∀ name (e : Element), e.descendant? name = firstInside? name e) ∧
    (∀ name (e : Element), firstInside? name e = none ↔ ∀ d ∈ e.descendants, d.localName ≠ name) ∧
    ∀ document fault, TellsFault document fault →
      (∀ detail, firstInside? "UPnPError" fault = some detail →
        readValues document = .error (.fault ((firstContent? "errorCode" detail).getD "")
          (((firstContent? "errorDescription" detail).or
            (firstContent? "faultstring" fault)).getD ""))) ∧
      (firstInside? "UPnPError" fault = none →
        readValues document = .error (.fault ((firstContent? "faultcode" fault).getD "")
          ((firstContent? "faultstring" fault).getD ""))) := by
  refine ⟨Element.descendants_eq, fun name e => ?search, firstInside?_eq_none_iff,
    fun document fault htells => ⟨fun detail hdetail => ?detail, fun hdetail => ?plain⟩⟩
  case search => exact e.descendant?_eq_find?_descendants name
  case detail => rw [htells.readValues_eq, faultOf_of_detail hdetail]
  case plain => rw [htells.readValues_eq, faultOf_of_no_detail hdetail]

namespace VendorFault

/-- What a service says of its fault: the code stands at some depth, before another one. -/
def detail : Element :=
  .mk "UPnPError" [] none
    [.mk "vendor" [] none [.ofText "errorCode" " 404 "], .ofText "errorCode" "501"]

/-- A fault with another code before what the service says. -/
def fault : Element :=
  .mk "s:Fault" [] none
    [.mk "detail" [] none [.ofText "errorCode" "1", detail], .ofText "faultstring" "Oops"]

def document : String :=
  "<s:Envelope xmlns:s='e'><s:Body><s:Fault><detail><errorCode>1</errorCode><UPnPError><vendor>" ++
    "<errorCode> 404 </errorCode></vendor><errorCode>501</errorCode></UPnPError></detail>" ++
    "<faultstring>Oops</faultstring></s:Fault><Value>2</Value></s:Body></s:Envelope>"

set_option maxRecDepth 10000 in
theorem document_tellsFault : TellsFault document fault := by
  let body : Element := .mk "s:Body" [] none [fault, .ofText "Value" "2"]
  let envelope : Element := .mk "s:Envelope" [("xmlns:s", "e")] none [body]
  have hread : Xml.read? document = some envelope := by cbv
  have hbody : envelope.child? "Body" = some body := by cbv
  exact ⟨by decide, _, body, _, hread, by decide, hbody, rfl⟩

/-- The code is the first one in what the service says, and the text for want of another is that of
    the envelope. -/
theorem document_readValues : TellsFault document fault ∧
    firstInside? "UPnPError" fault = some detail ∧
    readValues document = .error (.fault "404" "Oops") := by
  have hdetail : firstInside? "UPnPError" fault = some detail := by cbv
  refine ⟨document_tellsFault, hdetail, ?_⟩
  rw [(descendant?_isFirst_and_readValues_of_tellsFault.2.2.2 document fault
    document_tellsFault).1 detail hdetail]
  cbv

end VendorFault

end ControlPoint.Soap
