/-!
What a run reports while it works: entries with a level, a message and named fields, in the order in
which they arise.
-/

namespace ControlPoint.Log

/-- How much an entry matters. -/
inductive Level
  | debug
  | info
  | warn
  | error
  deriving DecidableEq, Repr

/-- One report. -/
structure Entry where
  level : Level
  message : String
  fields : List (String × String)
  deriving DecidableEq, Repr

def Level.name : Level → String
  | .debug => "DEBUG"
  | .info => "INFO"
  | .warn => "WARN"
  | .error => "ERROR"

def debug (message : String) (fields : List (String × String)) : Entry :=
  ⟨.debug, message, fields⟩

def info (message : String) (fields : List (String × String)) : Entry :=
  ⟨.info, message, fields⟩

def warn (message : String) (fields : List (String × String)) : Entry :=
  ⟨.warn, message, fields⟩

end ControlPoint.Log
