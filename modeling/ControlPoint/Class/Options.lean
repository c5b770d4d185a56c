import ControlPoint.Language.Keyword
import ControlPoint.Text.Split

/-!
What the writer of a class is told about it, and the file that comes of it.
-/

namespace ControlPoint

open Naming Text

/-- The version that the header of a class names. -/
def generatorVersion : String := "0.1.0"

namespace Class

/-- The namespace of classes for which none is chosen. -/
def defaultNamespace : String := "UPnP"

/-- What is asked of a class, whatever it is a class for. -/
structure Options where
  /-- The name, as yet any text. -/
  className : String
  /-- The namespace, in segments divided by full stops. -/
  namespacePath : String := defaultNamespace
  visibility : Visibility := .everyone
  /-- Whether the class is one part of a class whose other parts are written elsewhere. -/
  isPart : Bool := false
  /-- The type that the description gives, quoted in the header. -/
  sourceType : String := ""
  deriving DecidableEq, Repr

/-- The namespace in code: the segments that are not blank, each made an identifier. -/
def Options.namespaceName (o : Options) (l : Language) : String :=
  let segments := (splitChar '.' o.namespacePath).filter fun segment => !isBlankText segment
  if segments.isEmpty then defaultNamespace
  else String.intercalate "." (segments.map (l.identifier .type))

/-- The line in the header that says where the class comes from. -/
def Options.header (o : Options) : String :=
  let line := "Generated by pmogen " ++ generatorVersion
  if o.sourceType == "" then line else line ++ " from " ++ o.sourceType

/-- The text of a class and the file for it. -/
structure File where
  className : String
  fileName : String
  source : String
  deriving DecidableEq, Repr

/-- The file for a class. Its name is that of the class, followed by the language's ending. -/
def File.of (l : Language) (className : String) (isPart : Bool) (source : String) : File where
  className := className
  fileName := className ++ if isPart then l.partFileEnding else l.fileEnding
  source := source

end Class

end ControlPoint
