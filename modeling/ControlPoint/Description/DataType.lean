import ControlPoint.Text.Blank
import ControlPoint.Text.Case

/-!
The data types of state variables.
-/

namespace ControlPoint.Description

open Text

/-- The standard data types. -/
inductive DataType
  | ui1 | ui2 | ui4 | ui8
  | i1 | i2 | i4 | i8 | int
  | r4 | r8 | number | fixed14_4 | float
  | char | string | boolean
  | binBase64 | binHex
  | date | dateTime | dateTimeTz | time | timeTz
  | uuid | uri
  deriving DecidableEq, Repr

namespace DataType

/-- Every data type. -/
def all : List DataType :=
  [ui1, ui2, ui4, ui8, i1, i2, i4, i8, int, r4, r8, number, fixed14_4, float, char, string, boolean,
    binBase64, binHex, date, dateTime, dateTimeTz, time, timeTz, uuid, uri]

/-- The name of a type as descriptions write it. -/
def name : DataType → String
  | ui1 => "ui1"
  | ui2 => "ui2"
  | ui4 => "ui4"
  | ui8 => "ui8"
  | i1 => "i1"
  | i2 => "i2"
  | i4 => "i4"
  | i8 => "i8"
  | int => "int"
  | r4 => "r4"
  | r8 => "r8"
  | number => "number"
  | fixed14_4 => "fixed.14.4"
  | float => "float"
  | char => "char"
  | string => "string"
  | boolean => "boolean"
  | binBase64 => "bin.base64"
  | binHex => "bin.hex"
  | date => "date"
  | dateTime => "dateTime"
  | dateTimeTz => "dateTime.tz"
  | time => "time"
  | timeTz => "time.tz"
  | uuid => "uuid"
  | uri => "uri"

/-- Reads a type's name, in any case and with white space around it. -/
def parse? (text : String) : Option DataType :=
  let wanted := trim text
  all.find? fun t => sameIgnoringCase wanted t.name

/-- What is said of a name that is no data type. -/
def unknownMessage (text : String) : String := "Type inconnu: " ++ text

/-- The size of a number's type. -/
def bitSize? : DataType → Option Nat
  | ui1 | i1 => some 8
  | ui2 | i2 => some 16
  | ui4 | i4 | int | r4 => some 32
  | ui8 | i8 | r8 | number | fixed14_4 | float => some 64
  | _ => none

def isSigned : DataType → Bool
  | i1 | i2 | i4 | i8 | int => true
  | _ => false

def isUnsigned : DataType → Bool
  | ui1 | ui2 | ui4 | ui8 => true
  | _ => false

def isInteger (t : DataType) : Bool := t.isSigned || t.isUnsigned

def isFloating : DataType → Bool
  | r4 | r8 | number | fixed14_4 | float => true
  | _ => false

def isNumeric (t : DataType) : Bool := t.isInteger || t.isFloating

def isTime : DataType → Bool
  | date | dateTime | dateTimeTz | time | timeTz => true
  | _ => false

def isBinary : DataType → Bool
  | binBase64 | binHex => true
  | _ => false

/-- Whether a list of allowed values makes an enumeration of the type. -/
def isEnumerable : DataType → Bool
  | string => true
  | _ => false

/-- A type's own name reads back. -/
theorem parse?_name (t : DataType) : parse? t.name = some t := by
  cases t <;> decide

end DataType

end ControlPoint.Description
