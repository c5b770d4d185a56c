import Mathlib
import ControlPoint.Text.Blank

namespace ControlPoint.Text

theorem trimWhere_eq (p : Char → Bool) (cs : List Char) :
    trimWhere p cs = (cs.dropWhile p).rdropWhile p := rfl

/-- What has been cut starts with no character that is cut. -/
theorem dropWhile_trimWhere (p : Char → Bool) (cs : List Char) :
    (trimWhere p cs).dropWhile p = trimWhere p cs := by
  rw [List.dropWhile_eq_self_iff]
  intro hlength
  have hpart : trimWhere p cs <+: cs.dropWhile p := List.rdropWhile_prefix p _
  have hfirst := hpart.getElem hlength
  have hnot := List.dropWhile_get_zero_not p cs (hlength.trans_le hpart.length_le)
  rw [List.get_eq_getElem] at hnot
  rwa [hfirst]

theorem trimWhere_trimWhere (p : Char → Bool) (cs : List Char) :
    trimWhere p (trimWhere p cs) = trimWhere p cs := by
  rw [trimWhere_eq p (trimWhere p cs), dropWhile_trimWhere, trimWhere_eq]
  exact List.rdropWhile_idempotent p _

/-- What is cut from the ends is not missed by who does not ask for it. -/
theorem filter_trimWhere {p q : Char → Bool} (hpq : ∀ c, q c = true → p c = false)
    (cs : List Char) : (trimWhere p cs).filter q = cs.filter q := by
  have hfront (l : List Char) : (l.dropWhile p).filter q = l.filter q := by
    have hcut : (l.takeWhile p).filter q = [] := by
      rw [List.filter_eq_nil_iff]
      intro c hc hq
      exact absurd (List.mem_takeWhile_imp hc) (by simp [hpq c hq])
    conv_rhs => rw [← List.takeWhile_append_dropWhile (p := p) (l := l), List.filter_append, hcut]
    rfl
  rw [trimWhere, List.filter_reverse, hfront, List.filter_reverse, hfront, List.reverse_reverse]

/-- Nothing is left of a text just if all of it is cut. -/
theorem trimWhere_eq_nil_iff (p : Char → Bool) (cs : List Char) :
    trimWhere p cs = [] ↔ ∀ c ∈ cs, p c = true := by
  constructor
  · intro hnil
    have hfilter := filter_trimWhere (p := p) (q := fun c => !p c) (by simp) cs
    rw [hnil, List.filter_nil, eq_comm, List.filter_eq_nil_iff] at hfilter
    simpa using hfilter
  · intro hall
    rw [trimWhere, List.dropWhile_eq_nil_iff.mpr hall]
    rfl

/-- Nothing is cut where neither the first nor the last character is. -/
theorem trimWhere_of_ends {p : Char → Bool} {cs : List Char} (hne : cs ≠ [])
    (hfirst : p (cs.head hne) = false) (hlast : p (cs.getLast hne) = false) :
    trimWhere p cs = cs := by
  have hfront : cs.dropWhile p = cs := by
    rw [List.dropWhile_eq_self_iff]
    intro _
    rw [← List.head_eq_getElem hne, hfirst]
    exact Bool.false_ne_true
  rw [trimWhere_eq, hfront, List.rdropWhile_eq_self_iff]
  intro _
  rw [hlast]
  exact Bool.false_ne_true

@[simp] theorem trimChars_trimChars (cs : List Char) : trimChars (trimChars cs) = trimChars cs :=
  trimWhere_trimWhere isBlank cs

@[simp] theorem trim_ofList (cs : List Char) :
    trim (String.ofList cs) = String.ofList (trimChars cs) := by
  rw [trim, String.toList_ofList]

end ControlPoint.Text
