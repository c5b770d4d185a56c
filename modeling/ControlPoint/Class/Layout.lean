import ControlPoint.Class.Options
import ControlPoint.Language.Template

/-!
What the sources of all classes have in common: comments, lists of blocks, and the regions into which
a class is divided.
-/

namespace ControlPoint.Class

open Template

/-- The comment before a declaration; the remarks may be empty. -/
def docComment (l : Language) (summary remarks : String) : Except MissingValue String :=
  l.render .docComment [("summary", summary), ("remarks", remarks)]

/-- The texts of several things with a separator between them. -/
def joinAll {α : Type} (separator : String) (f : α → Except MissingValue String) (items : List α) :
    Except MissingValue String := do
  return String.intercalate separator (← items.mapM f)

/-- The regions of a class with their titles; what has no text gets no region. -/
def regions (l : Language) (sections : List (String × String)) : Except MissingValue String :=
  joinAll "\n\n" (fun (title, text) => l.render .region [("name", title), ("body", text)])
    (sections.filter fun (_, text) => text != "")

/-- The whole source of a class. -/
def classSource (l : Language) (kind : Kind) (o : Options) (className summary body : String) :
    Except MissingValue String := do
  l.render kind
    [("header", o.header), ("namespace", o.namespaceName l), ("doc", ← docComment l summary ""),
      ("scope", l.visibilityWord o.visibility), ("partial", o.isPart),
      ("class_name", l.escape className), ("body", body)]

end ControlPoint.Class
