import Mathlib
import ControlPoint.Template.Basic

namespace ControlPoint.Template

/-- The names whose values have to be there. -/
def Piece.slots : Piece → List String
  | slot name => [name]
  | _ => []

/-- The names whose values have to be there, whichever side of a choice is taken. -/
def Part.slots : Part → List String
  | piece p => p.slots
  | choice _ yes no => yes.flatMap Piece.slots ++ no.flatMap Piece.slots

def slots (t : Template) : List String :=
  t.flatMap Part.slots

/-- The names whose values are printed. -/
def Piece.printed : Piece → List String
  | text _ => []
  | slot name => [name]
  | indented name _ => [name]
  | marked name _ => [name]

/-- The names whose values are printed, of a choice on the side that is taken. -/
def Part.printed (fields : Fields) : Part → List String
  | piece p => p.printed
  | choice condition yes no =>
    (if fields.holds condition then yes else no).flatMap Piece.printed

def printed (fields : Fields) (t : Template) : List String :=
  t.flatMap (Part.printed fields)

/-- The names whose values may be printed, on either side of a choice. -/
def Part.printable : Part → List String
  | piece p => p.printed
  | choice _ yes no => yes.flatMap Piece.printed ++ no.flatMap Piece.printed

def printable (t : Template) : List String :=
  t.flatMap Part.printable

theorem printed_subset_printable (fields : Fields) (t : Template) :
    printed fields t ⊆ printable t := by
  intro name hname
  obtain ⟨p, hp, hname⟩ := List.mem_flatMap.mp hname
  refine List.mem_flatMap.mpr ⟨p, hp, ?_⟩
  cases p with
  | piece p => exact hname
  | choice condition yes no =>
    rw [Part.printed] at hname
    rw [Part.printable, List.mem_append]
    split at hname
    · exact .inl hname
    · exact .inr hname

/-- Whether a part prints some text whatever the values are. -/
def Part.hasText : Part → Bool
  | piece (.text s) => s != ""
  | _ => false

theorem Fields.value?_isSome_iff (fields : Fields) (name : String) :
    (fields.value? name).isSome ↔ name ∈ fields.map Prod.fst := by
  simp [Fields.value?, List.find?_isSome]

theorem Piece.render_ok {fields : Fields} {p : Piece}
    (hslots : ∀ name ∈ p.slots, name ∈ fields.map Prod.fst) :
    ∃ s, p.render fields = .ok s := by
  cases p with
  | slot name =>
    have hsome := (fields.value?_isSome_iff name).mpr (hslots name (by simp [slots]))
    obtain ⟨v, hv⟩ := Option.isSome_iff_exists.mp hsome
    exact ⟨v.print, by simp [render, hv]⟩
  | text s => exact ⟨s, rfl⟩
  | indented name levels => exact ⟨_, rfl⟩
  | marked name mark => exact ⟨_, rfl⟩

theorem renderPieces_ok {fields : Fields} {pieces : List Piece}
    (hslots : ∀ name ∈ pieces.flatMap Piece.slots, name ∈ fields.map Prod.fst) :
    ∃ s, renderPieces fields pieces = .ok s := by
  induction pieces with
  | nil => exact ⟨"", rfl⟩
  | cons p rest ih =>
    rw [List.flatMap_cons, List.forall_mem_append] at hslots
    obtain ⟨here, hhere⟩ := Piece.render_ok hslots.1
    obtain ⟨after, hafter⟩ := ih hslots.2
    refine ⟨here ++ after, ?_⟩
    rw [renderPieces, hhere, hafter]
    rfl

theorem Part.render_ok {fields : Fields} {p : Part}
    (hslots : ∀ name ∈ p.slots, name ∈ fields.map Prod.fst) :
    ∃ s, p.render fields = .ok s := by
  cases p with
  | piece p => exact Piece.render_ok hslots
  | choice condition yes no =>
    rw [slots, List.forall_mem_append] at hslots
    rw [render]
    split
    · exact renderPieces_ok hslots.1
    · exact renderPieces_ok hslots.2

/-- A template is rendered wherever all the values that it may print are supplied. -/
theorem render_ok {fields : Fields} {t : Template}
    (hslots : ∀ name ∈ slots t, name ∈ fields.map Prod.fst) : ∃ s, t.render fields = .ok s := by
  induction t with
  | nil => exact ⟨"", rfl⟩
  | cons p rest ih =>
    rw [slots, List.flatMap_cons, List.forall_mem_append] at hslots
    obtain ⟨here, hhere⟩ := Part.render_ok hslots.1
    obtain ⟨after, hafter⟩ := ih hslots.2
    refine ⟨here ++ after, ?_⟩
    rw [Template.render, hhere, hafter]
    rfl

theorem Part.render_ne_empty {fields : Fields} {p : Part} {s : String} (htext : p.hasText = true)
    (hs : p.render fields = .ok s) : s ≠ "" := by
  cases p with
  | piece p =>
    cases p with
    | text t =>
      cases hs
      simpa [hasText] using htext
    | slot name => simp [hasText] at htext
    | indented name levels => simp [hasText] at htext
    | marked name mark => simp [hasText] at htext
  | choice condition yes no => simp [hasText] at htext

/-- A template that was rendered was so part by part. -/
theorem render_cons_ok {fields : Fields} {p : Part} {rest : Template} {s : String}
    (hs : Template.render fields (p :: rest) = .ok s) :
    ∃ here after, p.render fields = .ok here ∧ Template.render fields rest = .ok after ∧
      s = here ++ after := by
  rw [Template.render] at hs
  cases hhere : p.render fields with
  | error name =>
    rw [hhere] at hs
    cases hs
  | ok here =>
    cases hafter : Template.render fields rest with
    | error name =>
      rw [hhere, hafter] at hs
      cases hs
    | ok after =>
      rw [hhere, hafter] at hs
      cases hs
      exact ⟨here, after, rfl, rfl, rfl⟩

theorem render_append_ok {fields : Fields} {first second : Template} {s : String}
    (hs : Template.render fields (first ++ second) = .ok s) :
    ∃ before after, first.render fields = .ok before ∧ second.render fields = .ok after ∧
      s = before ++ after := by
  induction first generalizing s with
  | nil => exact ⟨"", s, rfl, hs, by simp⟩
  | cons p rest ih =>
    obtain ⟨here, others, hhere, hothers, rfl⟩ := render_cons_ok hs
    obtain ⟨before, after, hbefore, hafter, rfl⟩ := ih hothers
    refine ⟨here ++ before, after, ?_, hafter, by rw [String.append_assoc]⟩
    rw [Template.render, hhere, hbefore]
    rfl

/-- Where a part of a template prints some text of its own, the whole is not empty. -/
theorem render_ne_empty {fields : Fields} {t : Template} {s : String}
    (htext : t.any Part.hasText = true) (hs : t.render fields = .ok s) : s ≠ "" := by
  induction t generalizing s with
  | nil => simp at htext
  | cons p rest ih =>
    obtain ⟨here, after, hhere, hafter, rfl⟩ := render_cons_ok hs
    rw [List.any_cons, Bool.or_eq_true] at htext
    rcases htext with htext | htext
    · simp [Part.render_ne_empty htext hhere]
    · simp [ih htext hafter]

end ControlPoint.Template
