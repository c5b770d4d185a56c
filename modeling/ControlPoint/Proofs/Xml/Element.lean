import Mathlib
import ControlPoint.Xml.Element

namespace ControlPoint.Xml.Element

mutual

/-- All that is inside an element, at any depth, in the order of the document. -/
def descendants : Element → List Element
  | mk _ _ _ children => listed children
termination_by structural e => e

/-- Elements with all that is inside them: each before what is inside it, and that before the
    next. -/
def listed : List Element → List Element
  | [] => []
  | e :: rest => e :: (e.descendants ++ listed rest)
termination_by structural branches => branches

end

theorem listed_eq (branches : List Element) :
    listed branches = branches.flatMap fun e => e :: e.descendants := by
  induction branches with
  | nil => rfl
  | cons e rest ih => rw [listed, ih, List.flatMap_cons, List.cons_append]

theorem descendants_eq (e : Element) :
    e.descendants = e.children.flatMap fun child => child :: child.descendants := by
  cases e with
  | mk name attributes text children => exact listed_eq children

mutual

/-- A search in a branch finds the first one of those listed. -/
theorem first?_eq_find? (name : String) :
    (e : Element) → e.first? name = (e :: e.descendants).find? fun d => d.localName == name
  | mk full attributes text children => by
    rw [first?, firstIn?_eq_find? name children, descendants, List.find?_cons, localName, Element.name]
    cases Xml.localName full == name <;> rfl
termination_by structural e => e

theorem firstIn?_eq_find? (name : String) :
    (branches : List Element) →
      firstIn? name branches = (listed branches).find? fun d => d.localName == name
  | [] => rfl
  | e :: rest => by
    rw [firstIn?, first?_eq_find? name e, firstIn?_eq_find? name rest, listed, ← List.cons_append,
      List.find?_append]
    cases (e :: e.descendants).find? fun d => d.localName == name <;> rfl
termination_by structural branches => branches

end

/-- A search inside an element finds the first one of the name in the order of the document. -/
theorem descendant?_eq_find?_descendants (name : String) (e : Element) :
    e.descendant? name = e.descendants.find? fun d => d.localName == name := by
  cases e with
  | mk full attributes text children => exact firstIn?_eq_find? name children

end ControlPoint.Xml.Element
