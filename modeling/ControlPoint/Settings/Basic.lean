import ControlPoint.Host.Path
import ControlPoint.Log
import ControlPoint.Number.Positional
import ControlPoint.Settings.Override
import ControlPoint.Text.Blank
import ControlPoint.Text.Decimal
import ControlPoint.Yaml.Written

/-!
The settings of the program: a document in a directory, and what the program reads out of it. Every
setting has a value for the case that the document holds none that fits.
-/

namespace ControlPoint

open Number Text Yaml

/-- The settings, with the directory that they belong to. -/
structure Settings where
  directory : String
  document : Value

namespace Settings

/-! ### Where settings are -/

/-- The name of the file with the settings. -/
def fileName : String := "config.yaml"

/-- The file with the settings. -/
def path (s : Settings) : String :=
  Host.joinPath s.directory fileName

/-! ### Their values -/

/-- The path of the language of classes. -/
def languagePath : KeyPath := ["generator", "language"]

/-- The path of the namespace of classes. -/
def namespacePath : KeyPath := ["generator", "namespace"]

/-- The path of the choice between whole classes and parts of classes. -/
def partialPath : KeyPath := ["generator", "partial_classes"]

/-- The path of the choice to test state variables. -/
def testPath : KeyPath := ["generator", "test_state_vars"]

/-- The path of the directory for classes. -/
def outputPath : KeyPath := ["generator", "output_dir"]

/-- The path of the time limit for requests. -/
def timeoutPath : KeyPath := ["network", "timeout_secs"]

/-- The path of the level of reports. -/
def levelPath : KeyPath := ["log", "min_level"]

/-- The document that all others are merged over. -/
def defaults : Value :=
  .mapping
    [(.text "generator", .mapping
      [(.text "language", .text "csharp"), (.text "namespace", .text "UPnP"),
        (.text "partial_classes", .flag false), (.text "test_state_vars", .flag false),
        (.text "output_dir", .text "generated")]),
      (.text "network", .mapping [(.text "timeout_secs", .whole 10)]),
      (.text "log", .mapping [(.text "min_level", .text "info")])]

/-- The value at a path. -/
def get (s : Settings) (path : KeyPath) : Except SearchFault Value :=
  find path s.document

/-- A setting that is a text, unless it is blank. -/
def textAt (s : Settings) (path : KeyPath) (default : String) : String :=
  match s.get path with
  | .ok (.text value) => if isBlankText value then default else value
  | _ => default

/-- A setting that is true or false, and false where nothing else is said. -/
def flagAt (s : Settings) (path : KeyPath) : Bool :=
  match s.get path with
  | .ok (.flag b) => b
  | _ => false

def language (s : Settings) : String :=
  s.textAt languagePath "csharp"

def namespaceName (s : Settings) : String :=
  s.textAt namespacePath "UPnP"

def makesParts (s : Settings) : Bool :=
  s.flagAt partialPath

def testsVariables (s : Settings) : Bool :=
  s.flagAt testPath

def logLevel (s : Settings) : String :=
  s.textAt levelPath "info"

/-- The directory for classes, below the one of the settings if it is not absolute. -/
def outputDirectory (s : Settings) : String :=
  Host.joinPath s.directory (s.textAt outputPath "generated")

/-! ### The time limit -/

/-- The time limit for requests in seconds, where none is given. -/
def defaultTimeout : Nat := 10

/-- A value that can be a time limit, as a text and as a number of seconds if it is one. -/
def timeoutOf : Value → Option (String × Option Nat)
  | .whole n => some (toString n, if 0 < n then some n.toNat else none)
  | .real x =>
    some (if x.isNaN || x.isInfinite then realText x else x.positionalText, none)
  | .text s => some (s, (decimal64? (trim s)).filter (0 < ·))
  | _ => none

/-- The time limit for requests in seconds, and what is reported if the setting is none. -/
def timeout (s : Settings) : Nat × List Log.Entry :=
  match (s.get timeoutPath).toOption.bind timeoutOf with
  | some (_, some seconds) => (seconds, [])
  | some (text, none) =>
    (defaultTimeout, [Log.warn "Invalid network timeout, using default 10" [("value", text)]])
  | none => (defaultTimeout, [])

/-! ### Writing -/

/-- The text of the file with the settings. -/
def text (s : Settings) : String :=
  s.document.document

end Settings

end ControlPoint
