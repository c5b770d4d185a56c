import ControlPoint.Language.Basic

/-!
String literals. C# escapes quotes, backslashes and control characters; Visual Basic has no escapes
and writes a quote twice.
-/

namespace ControlPoint.Language

/-- The control characters of Unicode: the two blocks of ISO 2022. -/
def isControl (c : Char) : Bool :=
  c.toNat < 0x20 || (0x7F ≤ c.toNat && c.toNat < 0xA0)

/-- Four hexadecimal digits of a number below 65536. -/
def hexDigits4 (n : Nat) : List Char :=
  [n / 4096 % 16, n / 256 % 16, n / 16 % 16, n % 16].map Nat.digitChar

/-- A character inside a literal that knows escapes. -/
def escapedChar (c : Char) : List Char :=
  if c == '"' then ['\\', '"']
  else if c == '\\' then ['\\', '\\']
  else if c == '\n' then ['\\', 'n']
  else if c == '\r' then ['\\', 'r']
  else if c == '\t' then ['\\', 't']
  else if c == '\x00' then ['\\', '0']
  else if isControl c then '\\' :: 'u' :: hexDigits4 c.toNat
  else [c]

/-- A character inside a literal without escapes. -/
def doubledChar (c : Char) : List Char :=
  if c == '"' then ['"', '"'] else [c]

/-- What stands for a character inside a literal. -/
def literalChar : Language → Char → List Char
  | csharp => escapedChar
  | visualBasic => doubledChar

/-- The literal whose value is the given text. -/
def literal (l : Language) (value : String) : String :=
  String.ofList ('"' :: (value.toList.flatMap l.literalChar ++ ['"']))

end ControlPoint.Language
