import ControlPoint.Language.Basic
import ControlPoint.Naming.Identifier

/-!
Reserved words: which they are, how they are told under the language's case rule, and how a name
that is one of them is escaped.
-/

namespace ControlPoint.Language

open Naming

/-- The reserved words of C#. -/
def csharpKeywords : List String :=
  ["abstract", "as", "base", "bool", "break", "byte", "case", "catch", "char", "checked", "class",
    "const", "continue", "decimal", "default", "delegate", "do", "double", "else", "enum",
    "event", "explicit", "extern", "false", "finally", "fixed", "float", "for", "foreach", "goto",
    "if", "implicit", "in", "int", "interface", "internal", "is", "lock", "long", "namespace",
    "new", "null", "object", "operator", "out", "override", "params", "private", "protected",
    "public", "readonly", "ref", "return", "sbyte", "sealed", "short", "sizeof", "stackalloc",
    "static", "string", "struct", "switch", "this", "throw", "true", "try", "typeof", "uint",
    "ulong", "unchecked", "unsafe", "ushort", "using", "virtual", "void", "volatile", "while"]

/-- The reserved words of Visual Basic. -/
def visualBasicKeywords : List String :=
  ["AddHandler", "AddressOf", "Alias", "And", "AndAlso", "As", "Boolean", "ByRef", "Byte",
    "ByVal", "Call", "Case", "Catch", "CBool", "CByte", "CChar", "CDate", "CDbl", "CDec", "Char",
    "CInt", "Class", "CLng", "CObj", "Const", "Continue", "CSByte", "CShort", "CSng", "CStr",
    "CType", "CUInt", "CULng", "CUShort", "Date", "Decimal", "Declare", "Default", "Delegate",
    "Dim", "DirectCast", "Do", "Double", "Each", "Else", "ElseIf", "End", "EndIf", "Enum",
    "Erase", "Error", "Event", "Exit", "False", "Finally", "For", "Friend", "Function", "Get",
    "GetType", "GetXMLNamespace", "Global", "GoSub", "GoTo", "Handles", "If", "Implements",
    "Imports", "In", "Inherits", "Integer", "Interface", "Is", "IsNot", "Let", "Lib", "Like",
    "Long", "Loop", "Me", "Mod", "Module", "MustInherit", "MustOverride", "MyBase", "MyClass",
    "Namespace", "Narrowing", "New", "Next", "Not", "Nothing", "NotInheritable", "NotOverridable",
    "Object", "Of", "On", "Operator", "Option", "Optional", "Or", "OrElse", "Overloads",
    "Overridable", "Overrides", "ParamArray", "Partial", "Private", "Property", "Protected",
    "Public", "RaiseEvent", "ReadOnly", "ReDim", "REM", "RemoveHandler", "Resume", "Return",
    "SByte", "Select", "Set", "Shadows", "Shared", "Short", "Single", "Static", "Step", "Stop",
    "String", "Structure", "Sub", "SyncLock", "Then", "Throw", "To", "True", "Try", "TryCast",
    "TypeOf", "UInteger", "ULong", "UShort", "Using", "Variant", "Wend", "When", "While",
    "Widening", "With", "WithEvents", "WriteOnly", "Xor"]

/-- The reserved words of a language, in their usual spelling. -/
def keywords : Language → List String
  | csharp => csharpKeywords
  | visualBasic => visualBasicKeywords

/-- Whether a name is a reserved word under the language's case rule. -/
def isKeyword (l : Language) (name : String) : Bool :=
  l.keywords.any fun word => l.caseRule.fold word == l.caseRule.fold name

/-- The mark that lets a reserved word stand for a name. -/
def escapeReserved : Language → String → String
  | csharp, name => "@" ++ name
  | visualBasic, name => "[" ++ name ++ "]"

/-- A name as it can stand in code: a reserved word is escaped, all else stays. -/
def escape (l : Language) (name : String) : String :=
  if l.isKeyword name then l.escapeReserved name else name

/-- The identifier made of a text, as it can stand in code. -/
def identifier (l : Language) (form : Form) (raw : String) : String :=
  l.escape (sanitize form raw)

end ControlPoint.Language
