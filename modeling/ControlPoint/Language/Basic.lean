import ControlPoint.Naming.Scope

/-!
The languages in which classes are written, and their conventions for files, names and visibility.
-/

namespace ControlPoint

open Naming Text

/-- A language in which classes are written. -/
inductive Language
  | csharp
  | visualBasic
  deriving DecidableEq, Repr

/-- Who may use a declaration. -/
inductive Visibility
  | everyone
  | ownClass
  | assembly
  deriving DecidableEq, Repr

namespace Language

def name : Language → String
  | csharp => "csharp"
  | visualBasic => "vb"

/-- The ending of a file that holds a whole class. -/
def fileEnding : Language → String
  | csharp => ".cs"
  | visualBasic => ".vb"

/-- The ending of a file that holds one part of a class. -/
def partFileEnding : Language → String
  | csharp => ".designer.cs"
  | visualBasic => ".designer.vb"

def caseRule : Language → CaseRule
  | csharp => .sensitive
  | visualBasic => .insensitive

/-- The word for a visibility. -/
def visibilityWord : Language → Visibility → String
  | csharp, .everyone => "public"
  | csharp, .ownClass => "private"
  | csharp, .assembly => "internal"
  | visualBasic, .everyone => "Public"
  | visualBasic, .ownClass => "Private"
  | visualBasic, .assembly => "Friend"

/-- The name of a constant, after its group and its own name. -/
def constantName (group name : String) : String :=
  "cs" ++ group ++ "_" ++ name

end Language

end ControlPoint
