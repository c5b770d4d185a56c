import ControlPoint.Description.DataType
import ControlPoint.Language.Basic

/-!
The types of the languages that carry the values of state variables.
-/

namespace ControlPoint.Language

open Description

/-- The type that carries values of a data type. -/
def typeName : Language → DataType → String
  | csharp, .ui1 => "byte"
  | csharp, .ui2 => "ushort"
  | csharp, .ui4 => "uint"
  | csharp, .ui8 => "ulong"
  | csharp, .i1 => "sbyte"
  | csharp, .i2 => "short"
  | csharp, .i4 | csharp, .int => "int"
  | csharp, .i8 => "long"
  | csharp, .r4 | csharp, .float => "float"
  | csharp, .r8 | csharp, .number | csharp, .fixed14_4 => "double"
  | csharp, .char => "char"
  | csharp, .boolean => "bool"
  | csharp, .binBase64 | csharp, .binHex => "byte[]"
  | csharp, .date | csharp, .dateTime | csharp, .dateTimeTz | csharp, .time
  | csharp, .timeTz => "DateTime"
  | csharp, .string | csharp, .uuid | csharp, .uri => "string"
  | visualBasic, .ui1 => "Byte"
  | visualBasic, .ui2 => "UShort"
  | visualBasic, .ui4 => "UInteger"
  | visualBasic, .ui8 => "ULong"
  | visualBasic, .i1 => "SByte"
  | visualBasic, .i2 => "Short"
  | visualBasic, .i4 | visualBasic, .int => "Integer"
  | visualBasic, .i8 => "Long"
  | visualBasic, .r4 | visualBasic, .float => "Single"
  | visualBasic, .r8 | visualBasic, .number | visualBasic, .fixed14_4 => "Double"
  | visualBasic, .char => "Char"
  | visualBasic, .boolean => "Boolean"
  | visualBasic, .binBase64 | visualBasic, .binHex => "Byte()"
  | visualBasic, .date | visualBasic, .dateTime | visualBasic, .dateTimeTz | visualBasic, .time
  | visualBasic, .timeTz => "Date"
  | visualBasic, .string | visualBasic, .uuid | visualBasic, .uri => "String"

/-- The type for values of which nothing is known. -/
def unknownType : Language → String
  | csharp => "object"
  | visualBasic => "Object"

/-- The type for values of a data type that may be unknown. -/
def typeFor (l : Language) : Option DataType → String
  | some t => l.typeName t
  | none => l.unknownType

end ControlPoint.Language
