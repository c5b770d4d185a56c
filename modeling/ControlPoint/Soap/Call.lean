import ControlPoint.Http.Basic
import ControlPoint.Log
import ControlPoint.Xml.Written

/-!
Calls of actions: what is written into the envelope that is sent to the control address of a service.
-/

namespace ControlPoint.Soap

/-- The namespace of what every service answers, whatever its type. -/
def controlNamespace : String := "urn:schemas-upnp-org:control-1-0"

/-- The namespace of envelopes. -/
def envelopeNamespace : String := "http://schemas.xmlsoap.org/soap/envelope/"

/-- The rules by which values are written. -/
def encodingStyle : String := "http://schemas.xmlsoap.org/soap/encoding/"

/-- The invocation of an action: the namespace that the action is from, usually the type of the service,
    its name, and the values that go in, in order and under their names. -/
structure Call where
  source : String
  action : String
  arguments : List (String × String)
  deriving DecidableEq, Repr

namespace Call

/-- The element for an action and the values that go in. -/
def element (c : Call) : Xml.Element :=
  .mk ("u:" ++ c.action) [("xmlns:u", c.source)] none
    (c.arguments.map fun (name, value) => .ofText name value)

/-- The envelope around an element. -/
def envelope (content : Xml.Element) : Xml.Element :=
  .mk "s:Envelope" [("s:encodingStyle", encodingStyle), ("xmlns:s", envelopeNamespace)] none
    [.mk "s:Body" [] none [content]]

/-- The document that is sent. -/
def document (c : Call) : String :=
  (envelope c.element).document

/-- The request that invokes the action at a control address. -/
def request (c : Call) (controlUrl : String) : Http.Request where
  method := .post
  url := controlUrl
  headers := [("Content-Type", "text/xml; charset=\"utf-8\""),
    ("SOAPAction", "\"" ++ c.source ++ "#" ++ c.action ++ "\"")]
  body := c.document

/-- What is reported before the request goes out. -/
def report (c : Call) (controlUrl : String) : Log.Entry :=
  Log.debug "Sending SOAP request" [("url", controlUrl), ("action", c.action)]

/-- The call that asks for the value of a state variable. -/
def query (variableName : String) : Call :=
  ⟨controlNamespace, "QueryStateVariable", [("varName", variableName)]⟩

end Call

end ControlPoint.Soap
