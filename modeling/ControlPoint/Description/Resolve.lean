import ControlPoint.Description.Device
import ControlPoint.Url.Parse

/-!
The addresses in a device description. An address that is not absolute is relative to the base that
the description names, or else to the place that the description was read from.
-/

namespace ControlPoint.Description

open Url

/-- A text that was to be an address, and why it is none. -/
structure AddressError where
  text : String
  fault : UrlFault
  deriving DecidableEq, Repr

def AddressError.message (e : AddressError) : String :=
  "Invalid URL " ++ e.text ++ ": " ++ e.fault.message

/-- The base named by a description, if it names one. -/
def DeviceDescription.base? (d : DeviceDescription) : Option String :=
  nonEmpty? d.urlBase

/-- The address meant by a text in a description that was read from `location`. -/
def DeviceDescription.resolve (d : DeviceDescription) (location : Option String) (text : String) :
    Except AddressError Url :=
  match Url.parse text with
  | .ok url => .ok url
  | .error _ =>
    match d.base?.or location with
    | none => .error ⟨text, .relativeWithoutBase⟩
    | some baseText =>
      match Url.parse baseText with
      | .error fault => .error ⟨baseText, fault⟩
      | .ok base => (Url.join base text).mapError fun fault => ⟨text, fault⟩

end ControlPoint.Description
