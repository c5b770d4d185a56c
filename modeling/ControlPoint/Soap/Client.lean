import ControlPoint.Host.Basic
import ControlPoint.Soap.Call
import ControlPoint.Soap.Reply

/-!
Clients of living services: they invoke actions and ask for the values of state variables.
-/

namespace ControlPoint.Soap

open Host

/-- A client of a service, which is known by its control address and its type. -/
structure Client where
  controlUrl : String
  serviceType : String
  deriving DecidableEq, Repr

namespace Client

variable {m : Type → Type} [Monad m] [Host m]

/-- Sends a call and reads what comes back. -/
def call (c : Client) (what : Call) : m (Except Failure Values) := do
  report (what.report c.controlUrl)
  return valuesOf (← send (what.request c.controlUrl))

/-- The call of an action of the service. -/
def actionCall (c : Client) (action : String) (arguments : List (String × String)) : Call :=
  ⟨c.serviceType, action, arguments⟩

/-- Invokes an action of the service. -/
def invoke (c : Client) (action : String) (arguments : List (String × String)) :
    m (Except Failure Values) :=
  c.call (c.actionCall action arguments)

/-- The reply to the query for a state variable. -/
def query (c : Client) (variableName : String) : m (Except Failure Values) :=
  c.call (Call.query variableName)

/-- What the service says of a state variable. -/
def ask (c : Client) (variableName : String) : m Class.Answer :=
  return answerOf (← c.query variableName)

end Client

end ControlPoint.Soap
