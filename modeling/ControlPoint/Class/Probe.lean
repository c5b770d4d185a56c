import ControlPoint.Log

/-!
Answers of a living service when it is asked for the values of its state variables. A variable keeps
its property unless the asking failed; that its value is unknown for now is no failure.
-/

namespace ControlPoint.Class

/-- What a living service answers when asked for a variable. -/
inductive Answer
  | value (text : String)
  | unknown
  | failed (reason : String)
  deriving DecidableEq, Repr

/-- Whether the variable gets its property. -/
def Answer.isAccessible : Answer → Bool
  | value _ => true
  | unknown => true
  | failed _ => false

/-- Why an answer is no value. -/
def Answer.fault? : Answer → Option String
  | value _ => none
  | unknown => some "State variable value is currently unknown"
  | failed reason => some reason

/-- What is reported of an answer. -/
def Answer.report (name : String) : Answer → Log.Entry
  | value text => Log.debug "State variable answered" [("variable", name), ("value", text)]
  | unknown => Log.debug "State variable value unknown, keeping property" [("variable", name)]
  | failed reason =>
    Log.warn "State variable not accessible, property omitted"
      [("variable", name), ("reason", reason)]

end ControlPoint.Class
