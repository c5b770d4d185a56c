import ControlPoint.Class.Probe
import ControlPoint.Http.Basic
import ControlPoint.Xml.Document

/-!
Replies of services: the values that come out of an action, or why there are none. A fault is told by
the element in the body of the envelope and not by the status of the response.
-/

namespace ControlPoint.Soap

open Xml

/-- Why a call has no values. -/
inductive Failure
  | unreachable
  | faultyDocument
  | malformed (reason : String)
  | fault (code description : String)
  deriving DecidableEq, Repr

def Failure.message : Failure → String
  | .unreachable => "HTTP error"
  | .faultyDocument => "XML parse error"
  | .malformed reason => "Malformed SOAP response: " ++ reason
  | .fault code description => "SOAP fault " ++ code ++ ": " ++ description

/-- The values that come out of an action, in order and under their names. -/
abbrev Values := List (String × String)

/-- The content of the first element with a name inside an element, at any depth. -/
def contentInside? (name : String) (e : Element) : Option String :=
  (e.descendant? name).map Element.content

/-- The fault that a `Fault` element tells of. What the service says of itself goes before what the
    envelope says. -/
def faultOf (e : Element) : Failure :=
  match e.descendant? "UPnPError" with
  | some detail =>
    .fault ((contentInside? "errorCode" detail).getD "")
      (((contentInside? "errorDescription" detail).or (contentInside? "faultstring" e)).getD "")
  | none =>
    .fault ((contentInside? "faultcode" e).getD "") ((contentInside? "faultstring" e).getD "")

/-- The values in an envelope. -/
def valuesIn (envelope : Element) : Except Failure Values :=
  if envelope.localName != "Envelope" then
    .error (.malformed ("unexpected root <" ++ envelope.localName ++ ">"))
  else
    match envelope.child? "Body" with
    | none => .error (.malformed "missing Body")
    | some body =>
      match body.children with
      | [] => .error (.malformed "empty Body")
      | content :: _ =>
        if content.localName == "Fault" then .error (faultOf content)
        else .ok (content.children.map fun e => (e.localName, e.content))

/-- The values in a reply's document. -/
def readValues (document : String) : Except Failure Values :=
  match Xml.read? document with
  | none => .error .faultyDocument
  | some envelope => valuesIn envelope

/-- The values in a response. If it is no envelope and its status says that something went wrong, the
    status is what is told. -/
def valuesOf (response : Option Http.Response) : Except Failure Values :=
  match response with
  | none => .error .unreachable
  | some r =>
    let wrong : Except Failure Values := .error (.malformed ("HTTP status " ++ Http.statusText r.status))
    match readValues r.text with
    | .error .faultyDocument =>
      if Http.isSuccess r.status then .error .faultyDocument else wrong
    | .error (.malformed reason) =>
      if Http.isSuccess r.status then .error (.malformed reason) else wrong
    | result => result

/-- The value of a state variable among the values that come out of the query for it. -/
def returned? (values : Values) : Option String :=
  (values.find? fun (name, _) => name == "return").map Prod.snd

/-- What the reply to the query for a state variable says of the variable. -/
def answerOf (reply : Except Failure Values) : Class.Answer :=
  match reply with
  | .error failure => .failed failure.message
  | .ok values =>
    match returned? values with
    | some value => .value value
    | none => .unknown

end ControlPoint.Soap
