import Mathlib
import ControlPoint.Proofs.Template.Slots
import ControlPoint.Proofs.Text.Lines

/-!
Places that have lines of a template to themselves.
-/

namespace ControlPoint.Template

open Text

theorem isOneLine_indentation (levels : Nat) : IsOneLine (indentation levels) := by
  intro c hc
  rw [indentation, String.toList_ofList] at hc
  rw [List.eq_of_mem_replicate hc]
  decide

def Part.endsWithFeed : Part → Bool
  | piece (.text s) => s.toList.getLast? == some '\n'
  | _ => false

def Part.startsWithFeed : Part → Bool
  | piece (.text s) => s.toList.head? == some '\n'
  | _ => false

/-- The parts have lines of the template to themselves, whatever the values are. -/
def StandsAlone (parts t : Template) : Prop :=
  ∃ i < t.length + 1, (t.drop i).take parts.length = parts ∧
    (t.take i).getLast?.all Part.endsWithFeed ∧
    (t.drop (i + parts.length)).head?.all Part.startsWithFeed

instance (parts t : Template) : Decidable (StandsAlone parts t) :=
  inferInstanceAs (Decidable (∃ i < t.length + 1, (t.drop i).take parts.length = parts ∧
    (t.take i).getLast?.all Part.endsWithFeed ∧
    (t.drop (i + parts.length)).head?.all Part.startsWithFeed))

variable {fields : Fields}

theorem Part.closesLine_of_render {p : Part} {s : String} (hends : p.endsWithFeed = true)
    (hs : p.render fields = .ok s) : ∃ rest, s = rest ++ "\n" := by
  unfold endsWithFeed at hends
  split at hends
  · cases hs
    obtain ⟨rest, hrest⟩ := List.getLast?_eq_some_iff.mp (eq_of_beq hends)
    exact ⟨String.ofList rest, String.toList_inj.mp (by simpa using hrest)⟩
  · cases hends

theorem Part.opensLine_of_render {p : Part} {s : String} (hstarts : p.startsWithFeed = true)
    (hs : p.render fields = .ok s) : ∃ rest, s = "\n" ++ rest := by
  unfold startsWithFeed at hstarts
  split at hstarts
  · cases hs
    obtain ⟨rest, hrest⟩ := List.head?_eq_some_iff.mp (eq_of_beq hstarts)
    exact ⟨String.ofList rest, String.toList_inj.mp (by simpa using hrest)⟩
  · cases hstarts

theorem closesLine_of_render {t : Template} {s : String}
    (hends : t.getLast?.all Part.endsWithFeed = true) (hs : t.render fields = .ok s) :
    ClosesLine s := by
  rcases List.eq_nil_or_concat' t with rfl | ⟨before, last, rfl⟩
  · cases hs
    exact .inl rfl
  · obtain ⟨start, ending, -, hending, rfl⟩ := render_append_ok hs
    obtain ⟨here, after, hhere, hafter, rfl⟩ := render_cons_ok hending
    cases hafter
    obtain ⟨rest, rfl⟩ := Part.closesLine_of_render (by simpa using hends) hhere
    exact .inr ⟨start ++ rest, by simp [String.append_assoc]⟩

theorem opensLine_of_render {t : Template} {s : String}
    (hstarts : t.head?.all Part.startsWithFeed = true) (hs : t.render fields = .ok s) :
    OpensLine s := by
  cases t with
  | nil =>
    cases hs
    exact .inl rfl
  | cons p rest =>
    obtain ⟨here, after, hhere, -, rfl⟩ := render_cons_ok hs
    obtain ⟨rest, rfl⟩ := Part.opensLine_of_render (by simpa using hstarts) hhere
    exact .inr ⟨rest ++ after, by rw [String.append_assoc]⟩

/-- What has lines of a template to itself stands in the text on lines of its own. -/
theorem StandsAlone.standsIn {parts t : Template} (halone : StandsAlone parts t) {s : String}
    (hs : t.render fields = .ok s) : ∃ part, parts.render fields = .ok part ∧ StandsIn part s := by
  obtain ⟨i, -, hparts, hends, hstarts⟩ := halone
  have hcut : t = t.take i ++ (parts ++ t.drop (i + parts.length)) := by
    conv_lhs => rw [← List.take_append_drop i t, ← List.take_append_drop parts.length (t.drop i)]
    rw [hparts, List.drop_drop]
  rw [hcut] at hs
  obtain ⟨before, others, hbefore, hothers, rfl⟩ := render_append_ok hs
  obtain ⟨part, after, hpart, hafter, rfl⟩ := render_append_ok hothers
  refine ⟨part, hpart, before, after, by rw [String.append_assoc], ?_, ?_⟩
  · exact closesLine_of_render hends hbefore
  · exact opensLine_of_render hstarts hafter

end ControlPoint.Template
