import ControlPoint.Class.ServiceSource

/-!
The file of a service's class, written with or without a living service to ask. Where variables are
to be tested and there is a service, it is asked for every variable, in order of declaration and
whatever it answered before.
-/

namespace ControlPoint.Class

open Description

/-- A file together with what came up while it was written. -/
structure Writing where
  file : Except MissingValue File
  /-- The variables that the service was asked for. -/
  asked : List String
  log : List Log.Entry

namespace ServiceClass

/-- The service to ask, if variables are to be tested. -/
def tester {α : Type} (test : Bool) (probe : Option α) : Option α :=
  if test then probe else none

/-- What is reported where variables are to be tested and there is no service to ask. -/
def testerReport {α : Type} (test : Bool) (probe : Option α) : List Log.Entry :=
  if test && probe.isNone then
    [Log.warn "State variable testing requested without a live service, skipping probes" []]
  else []

/-- The names for which a service is asked. -/
def questions (s : ServiceDescription) : List String :=
  s.stateVariables.values.map StateVariable.name

/-- The file of a service's class, where `probe` answers for a living service. -/
def write (l : Language) (o : Options) (s : ServiceDescription) (test : Bool)
    (probe : Option (String → Answer)) : Writing :=
  let asked := match tester test probe with
    | some _ => questions s
    | none => []
  let answers := (tester test probe).map (questions s).map
  let c := declare l o.className s answers
  { file := c.file o
    asked := asked
    log := testerReport test probe ++
      (match tester test probe with
        | some ask => asked.map fun name => (ask name).report name
        | none => []) ++ c.report s }

end ServiceClass

end ControlPoint.Class
