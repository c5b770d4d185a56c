import Mathlib
import ControlPoint.Language.Template
import ControlPoint.Proofs.Template.Slots

namespace ControlPoint

open Template

namespace Template

/-- The names of the values that a part of a class is made of, in the order in which they are
    supplied. -/
def Kind.places : Kind → List String
  | .constant => ["scope", "name", "literal", "comment"]
  | .region => ["name", "body"]
  | .docComment => ["summary", "remarks"]
  | .enumeration => ["doc", "scope", "name", "members"]
  | .enumMember => ["name"]
  | .enumParse => ["scope", "function_name", "enum_name", "unknown_member", "cases"]
  | .enumParseCase => ["enum_name", "member", "constant"]
  | .enumToString => ["scope", "function_name", "enum_name", "cases"]
  | .enumToStringCase => ["enum_name", "member", "constant"]
  | .property => ["doc", "scope", "name", "type", "constant"]
  | .enumProperty =>
    ["doc", "string_doc", "scope", "name", "string_name", "enum_name", "unknown_member",
      "parse_function", "constant"]
  | .event => ["doc", "scope", "name", "type"]
  | .eventRaiser => ["name", "event_name", "type"]
  | .dispatchBranch => ["constant", "raiser", "type", "enumerated", "parse_function"]
  | .dispatcher => ["branches"]
  | .parameter => ["out", "name", "type"]
  | .inAssignment => ["index", "name", "enumerated", "to_string_function"]
  | .outValue => ["index", "type", "enumerated", "parse_function"]
  | .outAssignment => ["name", "value"]
  | .singleReturnAction =>
    ["doc", "scope", "name", "constant", "in_count", "in_upper", "in_assignments", "parameters",
      "return_type", "return_value"]
  | .multiOutAction =>
    ["doc", "scope", "name", "constant", "in_count", "in_upper", "in_assignments", "parameters",
      "out_assignments"]
  | .deviceInfoProperty => ["doc", "scope", "name", "member"]
  | .serviceProperty => ["doc", "scope", "name", "type", "constant", "specific"]
  | .deviceProperty => ["doc", "scope", "name", "type", "constant", "specific"]
  | .serviceClass => ["header", "namespace", "doc", "scope", "partial", "class_name", "body"]
  | .deviceClass => ["header", "namespace", "doc", "scope", "partial", "class_name", "body"]

end Template

namespace Language

/-- No template of a language asks for more than a part of a class is made of. -/
theorem slots_subset_places (l : Language) (kind : Kind) :
    ∀ name ∈ slots (l.template kind), name ∈ kind.places := by
  cases l <;> cases kind <;> decide +kernel

/-- No template of a language prints more than a part of a class is made of. -/
theorem printable_subset_places (l : Language) (kind : Kind) :
    ∀ name ∈ printable (l.template kind), name ∈ kind.places := by
  cases l <;> cases kind <;> decide +kernel

/-- The text of a part of a class, empty if a value is missing. -/
def fill (l : Language) (kind : Kind) (fields : Fields) : String :=
  match l.render kind fields with
  | .ok s => s
  | .error _ => ""

theorem fill_of_render {l : Language} {kind : Kind} {fields : Fields} {s : String}
    (hs : (l.template kind).render fields = .ok s) : l.fill kind fields = s := by
  rw [fill, render, hs]
  rfl

/-- A part of a class is written wherever what it is made of is supplied. -/
theorem render_eq_fill (l : Language) {kind : Kind} {fields : Fields}
    (hplaces : fields.map Prod.fst = kind.places) :
    l.render kind fields = .ok (l.fill kind fields) := by
  have hslots := l.slots_subset_places kind
  rw [← hplaces] at hslots
  obtain ⟨s, hs⟩ := render_ok hslots
  rw [fill, render, hs]
  rfl

private theorem template_hasText (l : Language) (kind : Kind) :
    kind ∉ [Kind.enumMember, Kind.outValue] → (l.template kind).any Part.hasText = true := by
  cases l <;> cases kind <;> decide +kernel

/-- Only the member of an enumeration and the value of an output argument may be written without
    a text of the template's own. -/
theorem fill_ne_empty (l : Language) {kind : Kind} {fields : Fields}
    (hkind : kind ∉ [Kind.enumMember, Kind.outValue])
    (hplaces : fields.map Prod.fst = kind.places) : l.fill kind fields ≠ "" := by
  have hslots := l.slots_subset_places kind
  rw [← hplaces] at hslots
  obtain ⟨s, hs⟩ := render_ok hslots
  have hne := render_ne_empty (template_hasText l kind hkind) hs
  rw [fill, render, hs]
  exact hne

end Language

end ControlPoint
