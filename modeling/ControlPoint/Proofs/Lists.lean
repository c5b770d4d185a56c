import Mathlib

namespace ControlPoint

/-- Where no two of the names that items bear have one key, a search for a name by its key finds
    the item that bears it and no other. -/
theorem filter_any_key_eq_singleton {α β γ : Type} [DecidableEq γ] {names : α → List β}
    {key : β → γ} {items : List α} (hdistinct : ((items.flatMap names).map key).Nodup) {a : α}
    (ha : a ∈ items) {x : β} (hx : x ∈ names a) :
    (items.filter fun b => (names b).any fun y => key y == key x) = [a] := by
  induction items with
  | nil => simp at ha
  | cons first rest ih =>
    rw [List.flatMap_cons, List.map_append] at hdistinct
    obtain ⟨-, hrest, hdisjoint⟩ := List.nodup_append.mp hdistinct
    rcases List.mem_cons.mp ha with rfl | ha
    · have hfirst : ((names a).any fun y => key y == key x) = true :=
        List.any_eq_true.mpr ⟨x, hx, beq_self_eq_true _⟩
      have hnone : (rest.filter fun b => (names b).any fun y => key y == key x) = [] := by
        rw [List.filter_eq_nil_iff]
        intro b hb hany
        obtain ⟨y, hy, heq⟩ := List.any_eq_true.mp hany
        exact hdisjoint (key x) (List.mem_map_of_mem hx) (key y)
          (List.mem_map_of_mem (List.mem_flatMap.mpr ⟨b, hb, hy⟩)) (eq_of_beq heq).symm
      simp [hfirst, hnone]
    · have hfirst : ¬ ((names first).any fun y => key y == key x) = true := by
        intro hany
        obtain ⟨y, hy, heq⟩ := List.any_eq_true.mp hany
        exact hdisjoint (key y) (List.mem_map_of_mem hy) (key x)
          (List.mem_map_of_mem (List.mem_flatMap.mpr ⟨a, ha, hx⟩)) (eq_of_beq heq)
      rw [List.filter_cons, if_neg hfirst]
      exact ih hrest ha

@[simp] theorem flatMap_fun_nil {α β : Type} (items : List α) :
    (items.flatMap fun _ => ([] : List β)) = [] := by
  simp

theorem mem_filterMap_pair {α β : Type} {items : List α} {part : α → Option β} {a : α} {b : β} :
    (a, b) ∈ (items.filterMap fun x => (part x).map fun y => (x, y)) ↔ a ∈ items ∧ b ∈ part a := by
  simp only [List.mem_filterMap, Option.map_eq_some_iff, Prod.mk.injEq, Option.mem_def]
  constructor
  · rintro ⟨x, hx, y, hy, rfl, rfl⟩
    exact ⟨hx, hy⟩
  · rintro ⟨ha, hb⟩
    exact ⟨a, ha, b, hb, rfl, rfl⟩

/-- What goes with those items that have something is what goes with all items, if nothing goes
    with the others. -/
theorem flatMap_filterMap_pair {α β γ : Type} (items : List α) (part : α → Option β)
    (names : α → β → List γ) :
    (items.filterMap fun a => (part a).map fun b => (a, b)).flatMap (fun x => names x.1 x.2) =
      items.flatMap fun a => (part a).toList.flatMap (names a) := by
  induction items with
  | nil => rfl
  | cons a rest ih =>
    cases hpart : part a with
    | none => simp [hpart, ih]
    | some b => simp [hpart, ih]

/-- Those items that have something, one by one. -/
theorem map_filterMap_pair {α β γ : Type} (items : List α) (part : α → Option β) (f : α → γ) :
    ((items.filterMap fun a => (part a).map fun b => (a, b)).map fun x => f x.1) =
      (items.filter fun a => (part a).isSome).map f := by
  induction items with
  | nil => rfl
  | cons a rest ih => cases hpart : part a <;> simp [hpart, ih]

/-- What is related one for one has a partner on either side. -/
theorem exists_partner_of_forall₂ {α β : Type} {R : α → β → Prop} {as : List α} {bs : List β}
    (h : List.Forall₂ R as bs) : (∀ a ∈ as, ∃ b ∈ bs, R a b) ∧ ∀ b ∈ bs, ∃ a ∈ as, R a b := by
  induction h with
  | nil => simp
  | @cons a b as bs hab _ ih =>
    constructor
    · rw [List.forall_mem_cons]
      refine ⟨⟨b, List.mem_cons_self .., hab⟩, fun a' ha' => ?_⟩
      obtain ⟨b', hb', hab'⟩ := ih.1 a' ha'
      exact ⟨b', List.mem_cons_of_mem _ hb', hab'⟩
    · rw [List.forall_mem_cons]
      refine ⟨⟨a, List.mem_cons_self .., hab⟩, fun b' hb' => ?_⟩
      obtain ⟨a', ha', hab'⟩ := ih.2 b' hb'
      exact ⟨a', List.mem_cons_of_mem _ ha', hab'⟩

/-- What is related one for one to items that differ differs as well, if it can be told from it which
    items they are. -/
theorem nodup_map_of_forall₂ {α β γ δ : Type} {R : α → β → Prop} {f : α → γ} {g : β → δ}
    {as : List α} {bs : List β} (h : List.Forall₂ R as bs) (hdistinct : (as.map f).Nodup)
    (htell : ∀ a b a' b', R a b → R a' b' → g b = g b' → f a = f a') : (bs.map g).Nodup := by
  induction h with
  | nil => exact List.nodup_nil
  | @cons a b as bs hab hrest ih =>
    obtain ⟨hfirst, hdistinct⟩ := List.nodup_cons.mp hdistinct
    refine List.nodup_cons.mpr ⟨fun hmem => ?_, ih hdistinct⟩
    obtain ⟨b', hb', hsame⟩ := List.mem_map.mp hmem
    obtain ⟨a', ha', hab'⟩ := (exists_partner_of_forall₂ hrest).2 b' hb'
    exact hfirst (htell a b a' b' hab hab' hsame.symm ▸ List.mem_map_of_mem ha')

theorem count_map_eq_length_filter {α κ : Type} [DecidableEq κ] (key : α → κ) (items : List α)
    (k : κ) : (items.map key).count k = (items.filter fun b => key b == k).length := by
  rw [List.count, List.countP_map, List.countP_eq_length_filter]
  rfl

/-- A search by a key finds an item alone if no other has its key. -/
theorem filter_key_eq_singleton {α κ : Type} [DecidableEq κ] (key : α → κ) {items : List α}
    {a : α} (ha : a ∈ items) (hcount : (items.map key).count (key a) ≤ 1) :
    (items.filter fun b => key b == key a) = [a] := by
  have hmem : a ∈ items.filter fun b => key b == key a :=
    List.mem_filter.mpr ⟨ha, beq_self_eq_true _⟩
  rw [count_map_eq_length_filter] at hcount
  have hone : (items.filter fun b => key b == key a).length = 1 :=
    le_antisymm hcount (List.length_pos_of_mem hmem)
  obtain ⟨b, hb⟩ := List.length_eq_one_iff.mp hone
  rw [hb, List.mem_singleton] at hmem
  rw [hb, hmem]

theorem count_le_one_of_filter_ne {α : Type} [DecidableEq α] {items : List α} {a b : α}
    (hothers : (items.filter fun x => x != a).Nodup) (hb : b ≠ a) : items.count b ≤ 1 := by
  have hfilter : (items.filter fun x => x != a).count b = items.count b :=
    List.count_filter (by simpa using hb)
  rw [← hfilter]
  exact List.nodup_iff_count_le_one.mp hothers b

/-- Where all values but one are there once at most, all are just if this one is. -/
theorem nodup_iff_count_le_one_of_filter_ne {α : Type} [DecidableEq α] {items : List α} {a : α}
    (hothers : (items.filter fun x => x != a).Nodup) : items.Nodup ↔ items.count a ≤ 1 := by
  rw [List.nodup_iff_count_le_one]
  constructor
  · intro hcount
    exact hcount a
  · intro ha b
    by_cases hb : b = a
    · rwa [hb]
    · exact count_le_one_of_filter_ne hothers hb

theorem filterMap_eq_map_filter {α β : Type} (items : List α) (isLeftOut : α → Bool) (f : α → β) :
    (items.filterMap fun a => if isLeftOut a then none else some (f a)) =
      (items.filter fun a => !isLeftOut a).map f := by
  induction items with
  | nil => rfl
  | cons a rest ih => cases h : isLeftOut a <;> simp [h, ih]

/-- Lists that are related one for one are so before and after the first item of a sort, if related
    items are of the sort or not together. -/
theorem forall₂_of_append_cons {α β : Type} {R : α → β → Prop} {P : α → Prop} {Q : β → Prop}
    (hsort : ∀ a b, R a b → (P a ↔ Q b)) {as as' : List α} {a : α} {bs bs' : List β} {b : β}
    (has : ∀ x ∈ as, ¬ P x) (ha : P a) (hbs : ∀ y ∈ bs, ¬ Q y) (hb : Q b)
    (h : List.Forall₂ R (as ++ a :: as') (bs ++ b :: bs')) :
    List.Forall₂ R as bs ∧ R a b ∧ List.Forall₂ R as' bs' := by
  induction as generalizing bs with
  | nil =>
    cases bs with
    | nil => exact ⟨.nil, List.forall₂_cons.mp h⟩
    | cons y bs =>
      have hfirst := (List.forall₂_cons.mp h).1
      exact absurd ((hsort a y hfirst).mp ha) (hbs y (List.mem_cons_self ..))
  | cons x as ih =>
    cases bs with
    | nil =>
      have hfirst := (List.forall₂_cons.mp h).1
      exact absurd ((hsort x b hfirst).mpr hb) (has x (List.mem_cons_self ..))
    | cons y bs =>
      obtain ⟨hfirst, hrest⟩ := List.forall₂_cons.mp h
      rw [List.forall_mem_cons] at has hbs
      obtain ⟨hearlier, hmiddle, hlater⟩ := ih has.2 hbs.2 hrest
      exact ⟨.cons hfirst hearlier, hmiddle, hlater⟩

/-- A result that is right after something was made of it was right before. -/
theorem exists_of_map_eq_ok {ε α β : Type} {x : Except ε α} {f : α → β} {b : β}
    (hmap : x.map f = .ok b) : ∃ a, x = .ok a ∧ f a = b := by
  cases x with
  | error e => cases hmap
  | ok a => exact ⟨a, rfl, Except.ok.inj hmap⟩

/-- Among one more different values than there are taken ones, one is not taken: the taken values
    would otherwise hold more different ones than they are. -/
theorem exists_notMem_of_injective {α : Type} {f : Nat → α} (hf : Function.Injective f)
    (taken : List α) (start : Nat) :
    ∃ n, start ≤ n ∧ n < start + (taken.length + 1) ∧ f n ∉ taken := by
  by_contra hnone
  push Not at hnone
  have hnodup : ((List.range' start (taken.length + 1)).map f).Nodup :=
    List.Nodup.map hf (List.nodup_range' (h := Nat.one_pos))
  have hsubset : (List.range' start (taken.length + 1)).map f ⊆ taken := by
    intro value hvalue
    obtain ⟨n, hn, rfl⟩ := List.mem_map.mp hvalue
    rw [List.mem_range'_1] at hn
    exact hnone n hn.1 hn.2
  have hlength := (List.subperm_of_subset hnodup hsubset).length_le
  simp only [List.length_map, List.length_range'] at hlength
  omega

/-- A value that was there before is not kept again; any other comes last. -/
theorem eraseDups_concat {α : Type} [BEq α] [LawfulBEq α] (items : List α) (a : α) :
    (items ++ [a]).eraseDups = if a ∈ items then items.eraseDups else items.eraseDups ++ [a] := by
  rw [List.eraseDups_append]
  by_cases ha : a ∈ items <;> simp [List.removeAll, ha, List.eraseDups_cons]

theorem nodup_eraseDups {α : Type} [BEq α] [LawfulBEq α] (items : List α) :
    items.eraseDups.Nodup := by
  induction items using List.reverseRecOn with
  | nil => simp
  | append_singleton items a ih =>
    rw [eraseDups_concat]
    split_ifs with ha
    · exact ih
    · rw [← List.concat_eq_append]
      exact ih.concat (by simpa using ha)

end ControlPoint
