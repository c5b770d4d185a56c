import ControlPoint.Text.Split

/-!
Paths in file systems, as texts: names divided by slashes.
-/

namespace ControlPoint.Host

/-- Whether a path starts at the root. -/
def isAbsolute (path : String) : Bool :=
  path.toList.head? == some '/'

/-- A path below another one. An absolute path is not below anything. -/
def joinPath (base path : String) : String :=
  if isAbsolute path || base == "" then path
  else if base.toList.getLast? == some '/' then base ++ path
  else base ++ "/" ++ path

/-- The names on a path. An empty one is the first name of an absolute path and the last one of a path
    that ends with a slash. -/
def pathNames (path : String) : List String :=
  Text.splitChar '/' path

/-- Whether a name on a path leads nowhere. -/
def isIdle (name : String) : Bool :=
  name == "" || name == "."

end ControlPoint.Host
