import Mathlib
import ControlPoint.Language.Keyword
import ControlPoint.Proofs.Naming.Identifier

namespace ControlPoint.Language

open Naming Text

/-- The character with which an escaped name starts. -/
def escapeMark : Language → Char
  | csharp => '@'
  | visualBasic => '['

/-- The name that a written name stands for: an escaped one is freed of its marks. -/
def bareName : Language → String → String
  | csharp, written =>
    if written.toList.head? = some '@' then String.ofList written.toList.tail else written
  | visualBasic, written =>
    if written.toList.head? = some '[' then String.ofList written.toList.tail.dropLast else written

/-- The form in which a compiler compares written names. -/
def nameKey (l : Language) (written : String) : String :=
  l.caseRule.fold (l.bareName written)

theorem head_ne_escapeMark (l : Language) {name : String} (hname : IsIdentifier name) :
    name.toList.head? ≠ some l.escapeMark := by
  obtain ⟨c, cs, hchars, _, hword⟩ := hname
  have hc := hword c (by simp)
  rw [hchars, List.head?_cons]
  intro h
  obtain rfl := Option.some.inj h
  cases l <;> exact absurd hc (by decide)

theorem bareName_of_isIdentifier (l : Language) {name : String} (hname : IsIdentifier name) :
    l.bareName name = name := by
  have hhead := head_ne_escapeMark l hname
  cases l <;> simp only [escapeMark] at hhead <;> simp [bareName, hhead]

theorem bareName_escape (l : Language) {name : String} (hname : IsIdentifier name) :
    l.bareName (l.escape name) = name := by
  unfold escape
  split
  · cases l
    · simp [bareName, escapeReserved]
    · simp [bareName, escapeReserved]
  · exact bareName_of_isIdentifier l hname

/-- Two names of types are written in one way only if they are one name. -/
theorem identifier_injective (l : Language) {name other : String} (hname : IsTypeName name)
    (hother : IsTypeName other) (h : l.identifier .type name = l.identifier .type other) :
    name = other := by
  rw [identifier, identifier, sanitize_of_isTypeName hname, sanitize_of_isTypeName hother] at h
  rw [← bareName_escape l hname.isIdentifier, h, bareName_escape l hother.isIdentifier]

theorem nameKey_escape (l : Language) {name : String} (hname : IsIdentifier name) :
    l.nameKey (l.escape name) = l.caseRule.fold name := by
  rw [nameKey, bareName_escape l hname]

/-- Marks have no case. -/
theorem fold_head_eq_escapeMark_iff (l : Language) (name : String) :
    (l.caseRule.fold name).toList.head? = some l.escapeMark ↔
      name.toList.head? = some l.escapeMark := by
  cases l with
  | csharp => rfl
  | visualBasic =>
    have hbracket (c : Char) : c.toLower = '[' ↔ c = '[' := toLower_eq_iff (by decide)
    simp [caseRule, CaseRule.fold, escapeMark, lowerAscii, hbracket]

/-- It does not matter whether marks or capitals go first. -/
theorem fold_bareName (l : Language) (written : String) :
    l.caseRule.fold (l.bareName written) = l.bareName (l.caseRule.fold written) := by
  cases l with
  | csharp => rfl
  | visualBasic =>
    have hhead := fold_head_eq_escapeMark_iff visualBasic written
    simp only [caseRule, CaseRule.fold, escapeMark] at hhead
    by_cases hmark : written.toList.head? = some '['
    · simp [bareName, caseRule, CaseRule.fold, hmark, lowerAscii]
    · simp only [bareName, caseRule, CaseRule.fold, hhead, hmark, if_false]

/-- Two spellings of one name stand for one name. -/
theorem nameKey_eq_of_fold_eq (l : Language) {a b : String}
    (h : l.caseRule.fold a = l.caseRule.fold b) : l.nameKey a = l.nameKey b := by
  simp only [nameKey, fold_bareName, h]

private theorem keyword_head (l : Language) :
    ∀ word ∈ l.keywords, word.toList.head? ≠ some l.escapeMark := by
  cases l <;> decide +kernel

theorem escapeReserved_head (l : Language) (name : String) :
    (l.escapeReserved name).toList.head? = some l.escapeMark := by
  cases l <;> simp [escapeReserved, escapeMark]

/-- No name is a reserved word once it is written. -/
theorem isKeyword_escape (l : Language) (name : String) : l.isKeyword (l.escape name) = false := by
  unfold escape
  split
  · rw [isKeyword, List.any_eq_false]
    intro word hword heq
    apply keyword_head l word hword
    rw [← fold_head_eq_escapeMark_iff, eq_of_beq heq, fold_head_eq_escapeMark_iff]
    exact escapeReserved_head l name
  · simpa using ‹¬ l.isKeyword name = true›

/-- Written names that get in each other's way neither as they stand nor without their marks, nor
    in the way of names that are imposed beside them, and none of which is a reserved word. -/
structure NamesApart (l : Language) (written imposed : List String) : Prop where
  distinct : (written.map l.caseRule.fold).Nodup
  distinctBare : (written.map l.nameKey).Nodup
  apart : ∀ name ∈ written, ∀ other ∈ imposed, l.caseRule.fold name ≠ l.caseRule.fold other
  apartBare : ∀ name ∈ written, ∀ other ∈ imposed, l.nameKey name ≠ l.nameKey other
  unreserved : ∀ name ∈ written, l.isKeyword name = false

/-- It is enough that the names differ without their marks. -/
theorem NamesApart.of_bare {l : Language} {written imposed : List String}
    (hdistinct : (written.map l.nameKey).Nodup)
    (hapart : ∀ name ∈ written, ∀ other ∈ imposed, l.nameKey name ≠ l.nameKey other)
    (hunreserved : ∀ name ∈ written, l.isKeyword name = false) : l.NamesApart written imposed where
  distinct := by
    rw [List.Nodup, List.pairwise_map] at hdistinct ⊢
    exact hdistinct.imp fun hne heq => hne (l.nameKey_eq_of_fold_eq heq)
  distinctBare := hdistinct
  apart name hname other hother h := hapart name hname other hother (l.nameKey_eq_of_fold_eq h)
  apartBare := hapart
  unreserved := hunreserved

/-- Names that were free one after another stay apart when they are written, from each other and
    from what was taken before. -/
theorem namesApart_of_fresh {l : Language} {s : Scope} {bare imposed : List String}
    (hrule : s.rule = l.caseRule) (hbare : ∀ name ∈ bare, IsIdentifier name)
    (himposed : ∀ name ∈ imposed, s.contains (l.bareName name) = true) (hfresh : s.Fresh bare) :
    l.NamesApart (bare.map l.escape) imposed := by
  have hkeys : (bare.map l.escape).map l.nameKey = bare.map l.caseRule.fold := by
    rw [List.map_map]
    exact List.map_congr_left fun name hname => l.nameKey_escape (hbare name hname)
  apply NamesApart.of_bare
  · rw [hkeys, ← hrule]
    exact hfresh.nodup
  · intro written hwritten other hother heq
    obtain ⟨name, hname, rfl⟩ := List.mem_map.mp hwritten
    rw [l.nameKey_escape (hbare name hname), nameKey, ← hrule] at heq
    have hfree := hfresh.not_contains name hname
    have htaken := himposed other hother
    rw [Scope.contains, heq] at hfree
    exact absurd htaken (by rw [Scope.contains, hfree]; decide)
  · intro written hwritten
    obtain ⟨name, _, rfl⟩ := List.mem_map.mp hwritten
    exact l.isKeyword_escape name

/-- Names that a scope gives out one after another stay apart when they are written. -/
theorem namesApart_freeNames {l : Language} {s : Scope} {bases imposed : List String}
    (hrule : s.rule = l.caseRule) (hbases : ∀ base ∈ bases, IsIdentifier base)
    (himposed : ∀ name ∈ imposed, s.contains (l.bareName name) = true) :
    l.NamesApart ((s.freeNames bases).map l.escape) imposed :=
  namesApart_of_fresh hrule (freeNames_isIdentifier s hbases) himposed (s.fresh_freeNames bases)

end ControlPoint.Language
