import Mathlib
import ControlPoint.Class.Constant
import ControlPoint.Proofs.Lists
import ControlPoint.Proofs.Naming.Identifier

namespace ControlPoint.Class.ConstantPool

open Naming Text

/-- All constants, group after group, as they are declared. -/
def declared (p : ConstantPool) : List Constant :=
  p.groups.flatMap Prod.snd

/-- The identifier was given to the constant of a value in a group. -/
def Has (p : ConstantPool) (identifier group value : String) : Prop :=
  ∃ c, p.lookup? group value = some c ∧ c.identifier = identifier ∧ c.value = value

/-- Every constant that can be looked up in `p` is found unchanged in `q`. -/
def Extends (p q : ConstantPool) : Prop :=
  ∀ group value c, p.lookup? group value = some c → q.lookup? group value = some c

/-- No two constants have one identifier under the case rule, all their identifiers are taken, and
    all start with the letters that mark a constant. -/
structure Valid (p : ConstantPool) : Prop where
  distinct : (p.declared.map fun c => p.names.rule.fold c.identifier).Nodup
  taken : ∀ c ∈ p.declared, p.names.contains c.identifier = true
  identifiers : ∀ c ∈ p.declared, IsIdentifier c.identifier
  marked : ∀ c ∈ p.declared, ∃ rest, c.identifier = "cs" ++ rest

theorem valid_empty (rule : CaseRule) : (empty rule).Valid where
  distinct := by simp [declared, empty]
  taken := by simp [declared, empty]
  identifiers := by simp [declared, empty]
  marked := by simp [declared, empty]

theorem Extends.refl (p : ConstantPool) : p.Extends p := fun _ _ _ h => h

theorem Extends.trans {p q r : ConstantPool} (hpq : p.Extends q) (hqr : q.Extends r) :
    p.Extends r :=
  fun group value c h => hqr group value c (hpq group value c h)

theorem Has.mono {p q : ConstantPool} (hext : p.Extends q) {identifier group value : String}
    (hhas : p.Has identifier group value) : q.Has identifier group value := by
  obtain ⟨c, hlookup, hidentifier, hvalue⟩ := hhas
  exact ⟨c, hext group value c hlookup, hidentifier, hvalue⟩

theorem appendTo_perm (group : String) (c : Constant) (groups : List (String × List Constant)) :
    List.Perm ((appendTo group c groups).flatMap Prod.snd) (c :: groups.flatMap Prod.snd) := by
  induction groups with
  | nil => exact List.Perm.refl _
  | cons first rest ih =>
    obtain ⟨g, constants⟩ := first
    unfold appendTo
    split
    · simp only [List.flatMap_cons, List.append_assoc, List.singleton_append]
      exact List.perm_middle
    · simp only [List.flatMap_cons]
      exact (ih.append_left constants).trans List.perm_middle

/-- The new constant comes last in its group; the other groups stay as they are. -/
theorem find?_appendTo (group : String) (c : Constant) (groups : List (String × List Constant))
    (names names' : Scope) (wanted : String) :
    ConstantPool.group ⟨appendTo group c groups, names'⟩ wanted =
      ConstantPool.group ⟨groups, names⟩ wanted ++ if wanted = group then [c] else [] := by
  induction groups with
  | nil =>
    by_cases hgroup : wanted = group
    · simp [ConstantPool.group, appendTo, hgroup]
    · simp [ConstantPool.group, appendTo, hgroup, Ne.symm hgroup]
  | cons first rest ih =>
    obtain ⟨g, constants⟩ := first
    unfold appendTo
    simp only [ConstantPool.group] at ih ⊢
    by_cases hfirst : g = group
    · by_cases hwanted : wanted = group
      · simp [hfirst, hwanted]
      · simp [hfirst, hwanted, Ne.symm hwanted]
    · by_cases hwanted : g = wanted
      · simp [hwanted, show ¬ wanted = group from hwanted ▸ hfirst]
      · simp only [beq_iff_eq, hfirst, if_false, List.find?_cons, beq_eq_false_iff_ne.mpr hwanted]
        exact ih

theorem lookup?_mem {p : ConstantPool} {group value : String} {c : Constant}
    (hlookup : p.lookup? group value = some c) : c ∈ p.declared := by
  have hc := List.mem_of_find?_eq_some hlookup
  unfold ConstantPool.group at hc
  split at hc
  · rename_i g constants hfind
    exact List.mem_flatMap.mpr ⟨_, List.mem_of_find?_eq_some hfind, hc⟩
  · simp at hc

theorem value_of_lookup? {p : ConstantPool} {group value : String} {c : Constant}
    (hlookup : p.lookup? group value = some c) : c.value = value := by
  simpa using List.find?_some hlookup

theorem wantedName_isIdentifier (group name value : String) :
    IsIdentifier (wantedName group name value) := by
  have hgroup := sanitize_isIdentifier .type group
  have hname := sanitize_isIdentifier .type (if isBlankText name then value else name)
  have hstart : IsIdentifier "cs" :=
    ⟨'c', ['s'], by decide, by decide, List.all_eq_true.mp (by decide)⟩
  exact ((hstart.append hgroup.isWord).append (by decide)).append hname.isWord

/-- The constant that a request declares if there is none yet. -/
def fresh (p : ConstantPool) (group name value comment : String) : Constant :=
  ⟨p.names.freeName (wantedName group name value), value, comment⟩

theorem get_of_lookup?_some {p : ConstantPool} {group value : String} {c : Constant}
    (hlookup : p.lookup? group value = some c) (name comment : String) :
    p.get group name value comment = (c.identifier, p) := by
  simp [get, hlookup]

theorem get_of_lookup?_none {p : ConstantPool} {group value : String}
    (hlookup : p.lookup? group value = none) (name comment : String) :
    p.get group name value comment =
      ((p.fresh group name value comment).identifier,
        ⟨appendTo group (p.fresh group name value comment) p.groups,
          p.names.reserve (p.fresh group name value comment).identifier⟩) := by
  simp [get, hlookup, fresh, Scope.allocate]

/-- A look-up after a request finds what it found before, and of what was not there only what the
    request declared. -/
theorem lookup?_get_of_none {p : ConstantPool} {group value : String}
    (hlookup : p.lookup? group value = none) (name comment group' value' : String) :
    (p.get group name value comment).2.lookup? group' value' =
      (p.lookup? group' value').or
        (if group' = group ∧ value' = value then some (p.fresh group name value comment)
          else none) := by
  rw [get_of_lookup?_none hlookup]
  unfold lookup?
  rw [find?_appendTo group _ p.groups p.names, List.find?_append]
  congr 1
  by_cases hgroup : group' = group
  · by_cases hvalue : value' = value
    · simp [hgroup, hvalue, fresh]
    · simp [hgroup, hvalue, fresh, Ne.symm hvalue]
  · simp [hgroup]

theorem extends_get (p : ConstantPool) (group name value comment : String) :
    p.Extends (p.get group name value comment).2 := by
  cases hlookup : p.lookup? group value with
  | some c =>
    rw [get_of_lookup?_some hlookup]
    exact Extends.refl p
  | none =>
    intro group' value' c hfound
    rw [lookup?_get_of_none hlookup, hfound, Option.some_or]

/-- What a request gives is the identifier of the constant, declared just now or before. -/
theorem has_get (p : ConstantPool) (group name value comment : String) :
    (p.get group name value comment).2.Has (p.get group name value comment).1 group value := by
  cases hlookup : p.lookup? group value with
  | some c =>
    rw [get_of_lookup?_some hlookup]
    exact ⟨c, hlookup, rfl, value_of_lookup? hlookup⟩
  | none =>
    refine ⟨p.fresh group name value comment, ?_, ?_, rfl⟩
    · simp [lookup?_get_of_none hlookup, hlookup]
    · rw [get_of_lookup?_none hlookup]

@[simp] theorem get_rule (p : ConstantPool) (group name value comment : String) :
    (p.get group name value comment).2.names.rule = p.names.rule := by
  cases hlookup : p.lookup? group value with
  | some c => rw [get_of_lookup?_some hlookup]
  | none => rw [get_of_lookup?_none hlookup, Scope.reserve_rule]

theorem Valid.get {p : ConstantPool} (hvalid : p.Valid) (group name value comment : String) :
    (p.get group name value comment).2.Valid := by
  cases hlookup : p.lookup? group value with
  | some c =>
    rw [get_of_lookup?_some hlookup]
    exact hvalid
  | none =>
    rw [get_of_lookup?_none hlookup]
    have hperm := appendTo_perm group (p.fresh group name value comment) p.groups
    have hfree : p.names.contains (p.fresh group name value comment).identifier = false :=
      p.names.freeName_not_contains _
    constructor
    · refine (hperm.map _).nodup_iff.mpr (List.nodup_cons.mpr ⟨?_, hvalid.distinct⟩)
      intro hmem
      obtain ⟨c, hc, heq⟩ := List.mem_map.mp hmem
      have htaken := hvalid.taken c hc
      rw [Scope.reserve_rule] at heq
      rw [Scope.contains, heq] at htaken
      exact absurd htaken (by rw [← Scope.contains, hfree]; decide)
    · intro c hc
      rw [Scope.contains_reserve_iff]
      rcases List.mem_cons.mp (hperm.mem_iff.mp hc) with rfl | hc
      · exact .inl rfl
      · exact .inr (hvalid.taken c hc)
    · intro c hc
      rcases List.mem_cons.mp (hperm.mem_iff.mp hc) with rfl | hc
      · exact freeName_isIdentifier p.names (wantedName_isIdentifier group name value)
      · exact hvalid.identifiers c hc
    · intro c hc
      rcases List.mem_cons.mp (hperm.mem_iff.mp hc) with rfl | hc
      · obtain ⟨suffix, heq, -⟩ := p.names.freeName_eq (wantedName group name value)
        exact ⟨_, heq.trans (by rw [wantedName, Language.constantName, String.append_assoc,
          String.append_assoc, String.append_assoc])⟩
      · exact hvalid.marked c hc

end ControlPoint.Class.ConstantPool
