import ControlPoint.Generation.Device
import ControlPoint.Language.Spelling

/-!
The arguments of the program: options, the command among them, and what belongs to the command. Options may
stand anywhere, those for all commands also in front of the command.
-/

namespace ControlPoint.CommandLine

open Generation Text

/-- Why there is no command to run. -/
inductive Ending
  | usage
  | help
  | version
  deriving DecidableEq, Repr

/-! ### Options and operands -/

/-- What belongs to an option: nothing, one value, or one value each time that the option occurs. -/
inductive OptionKind
  | flag
  | value
  | values
  deriving DecidableEq, Repr

/-- The options that are known, by name. -/
abbrev OptionKinds := List (String × OptionKind)

/-- Arguments by what they are: options with their values, and operands, each in order. -/
structure Sorted where
  options : List (String × String)
  operands : List String
  deriving DecidableEq, Repr

namespace Sorted

/-- Whether an option occurs. -/
def has (s : Sorted) (name : String) : Bool :=
  s.options.any fun (known, _) => known == name

/-- The values of an option. -/
def values (s : Sorted) (name : String) : List String :=
  (s.options.filter fun (known, _) => known == name).map Prod.snd

/-- The value of an option. -/
def value? (s : Sorted) (name : String) : Option String :=
  (s.values name).head?

/-- The arguments with one option more. Only options with many values may occur again. -/
def addOption (s : Sorted) (kind : OptionKind) (name value : String) : Except Ending Sorted :=
  if kind != .values && s.has name then .error .usage
  else .ok { s with options := s.options ++ [(name, value)] }

end Sorted

/-- Whether an argument is an option and not a value. -/
def isOption (argument : String) : Bool :=
  argument.toList.head? == some '-' && argument != "-"

/-- The name of a long option and the value that is attached to it. -/
def cutOption (argument : String) : String × Option String :=
  match cutAt '=' (argument.toList.drop 2) with
  | some (name, value) => (String.ofList name, some (String.ofList value))
  | none => (String.ofList (argument.toList.drop 2), none)

/-- What an option says that is none of those with a meaning for the command. -/
def endingOf (outermost : Bool) (argument : String) : Ending :=
  let isShort (letter : Char) : Bool := (argument.toList.drop 1).head? == some letter
  if argument == "--help" || isShort 'h' then .help
  else if outermost && (argument == "--version" || isShort 'V') then .version
  else .usage

/-- Sorts arguments. At the outermost level the first operand is the name of a command, and the arguments
    from there on are left. -/
def sort (kinds : OptionKinds) (outermost : Bool) (done : Sorted) :
    List String → Except Ending (Sorted × List String)
  | [] => .ok (done, [])
  | argument :: rest =>
    if argument == "--" then
      if outermost then .error .usage else .ok ({ done with operands := done.operands ++ rest }, [])
    else if !isOption argument then
      if outermost then .ok (done, argument :: rest)
      else sort kinds outermost { done with operands := done.operands ++ [argument] } rest
    else
      let (name, attached) := cutOption argument
      let kind := if argument.toList.take 2 == ['-', '-'] then kinds.find? (·.1 == name) else none
      match kind, attached, rest with
      | none, _, _ => .error (endingOf outermost argument)
      | some (_, .flag), some _, _ => .error .usage
      | some (_, .flag), none, rest => do
        let done ← done.addOption .flag name ""
        sort kinds outermost done rest
      | some (_, kind), some value, rest => do
        let done ← done.addOption kind name value
        sort kinds outermost done rest
      | some (_, kind), none, value :: rest => do
        if isOption value then .error .usage
        let done ← done.addOption kind name value
        sort kinds outermost done rest
      | some _, none, [] => .error .usage

/-! ### Commands -/

/-- The choices for classes that are made in arguments. -/
structure ClassArguments where
  language : Option Language
  namespacePath : Option String
  output : Option String
  makesParts : Bool
  testsVariables : Bool
  deriving Repr

/-- The commands of the program. -/
inductive Command
  | service (request : ServiceRequest) (choices : ClassArguments)
  | device (request : DeviceRequest) (choices : ClassArguments)
  | invoke (controlUrl serviceType action : String) (arguments : List (String × String))
  | config (assignments : List (String × String))
  deriving Repr

/-- What the arguments ask for. -/
structure Invocation where
  configDirectory : Option String
  logLevel : Option String
  command : Command
  deriving Repr

/-- The options of all commands. -/
def commonOptions : OptionKinds :=
  [("config-dir", .value), ("log-level", .value)]

/-- The options of the commands that write classes. -/
def classOptions : OptionKinds :=
  [("language", .value), ("namespace", .value), ("out", .value), ("partial", .flag),
    ("test-state-vars", .flag)]

/-- The language that an option names. -/
def languageOf (word : String) : Except Ending Language :=
  if ["csharp", "cs"].contains word then .ok .csharp
  else if ["vb", "visualbasic"].contains word then .ok .visualBasic
  else .error .usage

/-- The choices for classes among arguments. The directory must have a name. -/
def classArguments (s : Sorted) : Except Ending ClassArguments := do
  let language ← (s.value? "language").mapM languageOf
  if s.value? "out" == some "" then .error .usage
  return ⟨language, s.value? "namespace", s.value? "out", s.has "partial", s.has "test-state-vars"⟩

/-- The name and the value in an argument. The name stands in front of the first equals sign and is not
    blank. -/
def assignment (argument : String) : Except Ending (String × String) :=
  match cutAt '=' argument.toList with
  | some (name, value) =>
    let name := trim (String.ofList name)
    if name == "" then .error .usage else .ok (name, String.ofList value)
  | none => .error .usage

/-- The options of a command, if it is one. -/
def optionsOf? (command : String) : Option OptionKinds :=
  if command == "service" then
    some ([("class-name", .value), ("service-type", .value), ("control-url", .value)] ++ classOptions)
  else if command == "device" then some (("with-services", .flag) :: classOptions)
  else if command == "invoke" then some []
  else if command == "config" then some [("set", .values)]
  else none

/-- The command of a name with its arguments. -/
def commandOf (name : String) (s : Sorted) : Except Ending Command :=
  match name, s.operands with
  | "service", [source] => do
    return .service ⟨source, s.value? "class-name", s.value? "service-type", s.value? "control-url"⟩
      (← classArguments s)
  | "device", [source] => do
    return .device ⟨source, s.has "with-services"⟩ (← classArguments s)
  | "invoke", controlUrl :: serviceType :: action :: arguments => do
    return .invoke controlUrl serviceType action (← arguments.mapM assignment)
  | "config", [] => do
    return .config (← (s.values "set").mapM assignment)
  | _, _ => .error .usage

/-- What the arguments of the program ask for. An option for all commands counts most after the
    command. -/
def Invocation.read (arguments : List String) : Except Ending Invocation := do
  let (outer, rest) ← sort commonOptions true ⟨[], []⟩ arguments
  match rest with
  | [] => .error .usage
  | name :: rest =>
    match optionsOf? name with
    | none => .error (if name == "help" then .help else .usage)
    | some kinds =>
      let (inner, _) ← sort (kinds ++ commonOptions) false ⟨[], []⟩ rest
      let command ← commandOf name inner
      return ⟨(inner.value? "config-dir").or (outer.value? "config-dir"),
        (inner.value? "log-level").or (outer.value? "log-level"), command⟩

end ControlPoint.CommandLine
