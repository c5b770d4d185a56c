import ControlPoint.Description.Urn
import ControlPoint.Naming.Identifier

/-!
Names for classes that are not named by whoever asks for them, taken from the type that the class is
for.
-/

namespace ControlPoint.Naming

open Description

/-- The name of the class of a service type. -/
def serviceClassName (serviceType : String) : String :=
  sanitize .type (shortName serviceType) ++ "Service"

/-- The name of the class of a device type. -/
def deviceClassName (deviceType : String) : String :=
  sanitize .type (shortName deviceType) ++ "Device"

end ControlPoint.Naming
