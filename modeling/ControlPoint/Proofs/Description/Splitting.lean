import Mathlib
import ControlPoint.Description.Node
import ControlPoint.Proofs.Description.Ranks

/-!
Lists that are cut into several. Each of them files its items in a collection of its own, and these
are filed again, list by list, where the lists belong. Nothing is lost by it and no rank changes, as
long as no name looks like the key of an item without a name.
-/

namespace ControlPoint

namespace Markup

variable {α : Type} {key : String} {entries : List (String × α)}

theorem putPair_append_cons {before : List (String × α)} (hkey : key ∉ before.map Prod.fst)
    (value old : α) (after : List (String × α)) :
    putPair key value (before ++ (key, old) :: after) = before ++ (key, value) :: after := by
  induction before with
  | nil => simp [putPair]
  | cons first rest ih =>
    rw [List.map_cons, List.mem_cons, not_or] at hkey
    rw [List.cons_append, putPair, if_neg (by simpa using Ne.symm hkey.1), ih hkey.2]
    rfl

/-- A pair may be replaced before or after another one is put. -/
theorem putPair_comm {other : String} (hkey : key ∈ entries.map Prod.fst) (hne : other ≠ key)
    (a b : α) :
    putPair other b (putPair key a entries) = putPair key a (putPair other b entries) := by
  induction entries with
  | nil => simp at hkey
  | cons first rest ih =>
    by_cases hfirst : first.1 = key
    · simp [putPair, hfirst, Ne.symm hne]
    · have hrest : key ∈ rest.map Prod.fst := by
        simpa [Ne.symm hfirst] using hkey
      by_cases hother : first.1 = other <;> simp [putPair, hfirst, hother, hne, ih hrest]

theorem putPair_putPair (key : String) (a b : α) (entries : List (String × α)) :
    putPair key b (putPair key a entries) = putPair key b entries := by
  induction entries with
  | nil => simp [putPair]
  | cons first rest ih =>
    by_cases hfirst : first.1 = key <;> simp [putPair, hfirst, ih]

end Markup

namespace Description

namespace KeyedMap

open Markup

variable {α : Type} {m : KeyedMap α}

/-! ### Items of one name -/

theorem nextUnnamed_congr {n : KeyedMap α} (hkeys : n.keys = m.keys)
    (hunnamed : n.unnamed = m.unnamed) (kind : NodeKind) :
    n.nextUnnamed kind = m.nextUnnamed kind := by
  have hsize : n.size = m.size := by
    simpa [keys, size] using congrArg List.length hkeys
  simp only [nextUnnamed, contains, hkeys, hunnamed, hsize]

/-- The next number is the first one that is free, where all up to the last one tried are taken. -/
theorem nextUnnamed_eq {kind : NodeKind} {n : Nat} (hlarger : m.unnamed < n)
    (hfree : numberedKey kind n ∉ m.keys)
    (htaken : ∀ k, m.unnamed < k → k < n → numberedKey kind k ∈ m.keys) :
    m.nextUnnamed kind = n := by
  obtain ⟨hnext, hnextFree, hbetween⟩ := m.nextUnnamed_spec kind
  rcases Nat.lt_trichotomy (m.nextUnnamed kind) n with hlt | heq | hgt
  · exact absurd (htaken _ hnext hlt) hnextFree
  · exact heq
  · exact absurd (hbetween n hlarger hgt) hfree

theorem mem_keys_of_indexOf? {key : String} {i : Nat} (hi : m.indexOf? key = some i) :
    key ∈ m.keys := by
  obtain ⟨hlength, hkey, -⟩ := List.findIdx?_eq_some_iff_getElem.mp hi
  exact eq_of_beq hkey ▸ List.getElem_mem hlength

theorem exists_indexOf?_of_mem {key : String} (hkey : key ∈ m.keys) :
    ∃ i, m.indexOf? key = some i ∧ i < m.keys.length := by
  have hsome : (m.indexOf? key).isSome := by
    rw [indexOf?, List.findIdx?_isSome]
    exact List.any_eq_true.mpr ⟨key, hkey, beq_self_eq_true key⟩
  obtain ⟨i, hi⟩ := Option.isSome_iff_exists.mp hsome
  obtain ⟨hlength, -⟩ := List.findIdx?_eq_some_iff_getElem.mp hi
  exact ⟨i, hi, hlength⟩

variable [Described α]

theorem keyFor_congr {n : KeyedMap α} (hkeys : n.keys = m.keys) (hunnamed : n.unnamed = m.unnamed)
    (item : α) : n.keyFor item = m.keyFor item := by
  simp only [keyFor, nextUnnamed_congr hkeys hunnamed]

theorem insert_of_name_ne (m : KeyedMap α) {item : α} (hitem : Described.name item ≠ "") :
    m.insert item = ⟨putPair (Described.name item) item m.entries, m.unnamed⟩ := by
  rw [insert, m.keyFor_of_ne hitem, if_neg (by simpa using hitem)]

/-- Of two items of one name, filed one right after the other, only the second is left. -/
theorem insert_insert_of_name_eq (m : KeyedMap α) {item old : α} (hitem : Described.name item ≠ "")
    (hsame : Described.name old = Described.name item) :
    (m.insert old).insert item = m.insert item := by
  have hold : Described.name old ≠ "" := by rwa [hsame]
  rw [insert_of_name_ne _ hitem, m.insert_of_name_ne hold, m.insert_of_name_ne hitem, hsame,
    putPair_putPair]

/-- An item whose name is known may be filed before or after an item that is called otherwise. -/
theorem insert_comm_of_mem {item other : α} (hitem : Described.name item ≠ "")
    (hkey : Described.name item ∈ m.keys) (hother : Described.name other ≠ Described.name item) :
    (m.insert item).insert other = (m.insert other).insert item := by
  have hkeys : (m.insert item).keys = m.keys := by
    rw [keys_insert, m.keyFor_of_ne hitem, if_pos hkey]
  have hunnamed : (m.insert item).unnamed = m.unnamed := by
    rw [m.insert_of_name_ne hitem]
  have hswap := putPair_comm hkey (keyFor_ne_of_mem hkey hother) item other
  rw [insert_of_name_ne (m.insert other) hitem, insert, keyFor_congr hkeys hunnamed,
    nextUnnamed_congr hkeys hunnamed, hunnamed, m.insert_of_name_ne hitem, hswap]
  rfl

theorem insertAll_insert_comm_of_mem {item : α} (hitem : Described.name item ≠ "")
    (hkey : Described.name item ∈ m.keys) {others : List α}
    (hothers : ∀ other ∈ others, Described.name other ≠ Described.name item) :
    (m.insert item).insertAll others = (m.insertAll others).insert item := by
  induction others generalizing m with
  | nil => rfl
  | cons other rest ih =>
    rw [List.forall_mem_cons] at hothers
    have hstep := insert_comm_of_mem hitem hkey hothers.1
    rw [insertAll_cons, insertAll_cons, hstep]
    exact ih (mem_keys_insert_iff.mpr (.inl hkey)) hothers.2

/-- An item may as well stand where the last one of its name stood, if none of that name follows. -/
theorem insertAll_replace (m : KeyedMap α) {item old : α} (hitem : Described.name item ≠ "")
    (hsame : Described.name old = Described.name item) (before : List α) {after : List α}
    (hafter : ∀ other ∈ after, Described.name other ≠ Described.name item) :
    m.insertAll (before ++ item :: after) = (m.insertAll (before ++ old :: after)).insert item := by
  have hkey : Described.name item ∈ ((m.insertAll before).insert old).keys := by
    have hold : Described.name old ≠ "" := by rwa [hsame]
    exact mem_keys_insert_iff.mpr (.inr ((keyFor_of_ne _ hold).trans hsame).symm)
  rw [insertAll_append, insertAll_append, insertAll_cons, insertAll_cons]
  calc ((m.insertAll before).insert item).insertAll after
      = (((m.insertAll before).insert old).insert item).insertAll after := by
        rw [insert_insert_of_name_eq _ hitem hsame]
    _ = (((m.insertAll before).insert old).insertAll after).insert item :=
        insertAll_insert_comm_of_mem hitem hkey hafter

/-! ### Filing what was filed -/

/-- An item of a known name takes the place of the one item that bears it. -/
theorem Keyed.values_insert_of_get? (hm : m.Keyed) {item old : α}
    (hitem : Described.name item ≠ "") (hfound : m.get? (Described.name item) = some old) :
    ∃ before after, m.values = before ++ old :: after ∧
      (m.insert item).values = before ++ item :: after ∧
      ∀ other ∈ after, Described.name other ≠ Described.name item := by
  obtain ⟨before, after, hentries⟩ := List.append_of_mem (hm.get?_eq_some_iff.mp hfound)
  have hdistinct := hm.distinct
  rw [keys, hentries, List.map_append, List.map_cons] at hdistinct
  have hlater := (List.nodup_cons.mp (List.nodup_append.mp hdistinct).2.1).1
  have hearlier : Described.name item ∉ before.map Prod.fst := fun hmem =>
    (List.nodup_append.mp hdistinct).2.2 _ hmem _ (List.mem_cons_self ..) rfl
  refine ⟨before.map Prod.snd, after.map Prod.snd, by simp [values, hentries], ?_, ?_⟩
  · rw [m.insert_of_name_ne hitem, values, hentries, putPair_append_cons hearlier]
    simp
  · intro other hother hname
    obtain ⟨entry, hentry, rfl⟩ := List.mem_map.mp hother
    refine hlater (List.mem_map.mpr ⟨entry, hentry, ?_⟩)
    have hidentified := hm.identified entry (by rw [hentries]; simp [hentry])
    rw [hidentified (by rwa [← hname] at hitem)]
    exact hname

/-- Where no item without a name was replaced, what was filed stands for all items, wherever it is
    filed again. -/
theorem insertAll_values {items : List α} (hkept : KeepsUnnamed items) (m : KeyedMap α) :
    m.insertAll ((empty : KeyedMap α).insertAll items).values = m.insertAll items := by
  induction items using List.reverseRecOn with
  | nil => rfl
  | append_singleton items item ih =>
    have hearlier := ih hkept.of_append
    have hkeyed := keyed_empty.insertAll items
    let own := (empty : KeyedMap α).insertAll items
    have hlast : m.insertAll (items ++ [item]) = (m.insertAll own.values).insert item := by
      rw [insertAll_concat, hearlier]
    have happended (hkey : own.keyFor item ∉ own.keys) :
        m.insertAll (own.insert item).values = m.insertAll (items ++ [item]) := by
      rw [values_insert_of_notMem hkey, insertAll_concat, hlast]
    rw [insertAll_concat empty]
    by_cases hitem : Described.name item = ""
    · exact happended (own.keyFor_notMem_of_eq hitem)
    by_cases hknown : ∃ other ∈ items, Described.name other = Described.name item
    · obtain ⟨old, hfound, hsame, -⟩ := exists_get?_insertAll_of_named (m := empty) hitem hknown
      obtain ⟨before, after, hold, hnew, hafter⟩ := hkeyed.values_insert_of_get? hitem hfound
      rw [hlast, hnew, insertAll_replace m hitem hsame before hafter, ← hold]
    · exact happended (hkept.keyFor_notMem hitem hknown)

theorem exists_numberedKey_of_mem_unnamedKeys {items : List α} {key : String}
    (hkey : key ∈ m.unnamedKeys items) : ∃ n, key = numberedKey (Described.kind α) n := by
  induction items generalizing m with
  | nil => simp [unnamedKeys] at hkey
  | cons item rest ih =>
    rw [unnamedKeys] at hkey
    split at hkey
    · rename_i hitem
      rcases List.mem_cons.mp hkey with rfl | hrest
      · exact ⟨_, m.keyFor_of_eq (isUnnamed_iff.mp hitem)⟩
      · exact ih hrest
    · exact ih hkey

/-- No item without a name is replaced where no name looks like a numbered key. -/
theorem keepsUnnamed_of_forall_ne {items : List α}
    (hitems : ∀ item ∈ items, ∀ n, Described.name item ≠ numberedKey (Described.kind α) n) :
    KeepsUnnamed items := by
  intro key hkey hname
  obtain ⟨n, rfl⟩ := exists_numberedKey_of_mem_unnamedKeys hkey
  obtain ⟨-, item, hitem, hcalled⟩ := mem_namesOf.mp hname
  exact hitems item hitem n hcalled

/-- Filing list by list what each list made of its items comes to the same as filing all items. -/
theorem insertAll_filedParts {lists : List (List α)}
    (hkept : ∀ items ∈ lists, KeepsUnnamed items) (m : KeyedMap α) :
    m.insertAll (filedParts lists) = m.insertAll lists.flatten := by
  induction lists generalizing m with
  | nil => rfl
  | cons items rest ih =>
    rw [List.forall_mem_cons] at hkept
    rw [filedParts, List.flatMap_cons, List.flatten_cons, insertAll_append, insertAll_append,
      insertAll_values hkept.1 m]
    exact ih hkept.2 _

/-! ### One list -/

/-- What ties the numbered keys of a collection to their ranks: all numbers up to the last one tried
    are taken, and an item without a name has a number that was free although all smaller ones were
    taken, by keys of lower rank. -/
structure Numbered (m : KeyedMap α) : Prop where
  tried : ∀ n, 0 < n → n ≤ m.unnamed → numberedKey (Described.kind α) n ∈ m.keys
  ordered : ∀ entry ∈ m.entries, Described.name entry.2 = "" →
    ∃ n, 0 < n ∧ entry.1 = numberedKey (Described.kind α) n ∧
      ∀ k, 0 < k → k < n → ∃ i rank, m.indexOf? (numberedKey (Described.kind α) k) = some i ∧
        m.indexOf? entry.1 = some rank ∧ i < rank

theorem numbered_empty : (empty : KeyedMap α).Numbered where
  tried := by
    intro n hpos hle
    exact absurd hpos (by simpa [empty] using hle)
  ordered := by simp [empty]

/-- A new key has the rank after all others. -/
theorem indexOf?_insert_of_notMem {item : α} (hkey : m.keyFor item ∉ m.keys) :
    (m.insert item).indexOf? (m.keyFor item) = some m.keys.length := by
  have hnone : m.keys.findIdx? (· == m.keyFor item) = none := by
    rw [List.findIdx?_eq_none_iff]
    intro key hmem
    simpa using ne_of_mem_of_not_mem hmem hkey
  rw [indexOf?, keys_insert, if_neg hkey, List.findIdx?_append, hnone]
  simp

theorem Numbered.insert (hm : m.Numbered) (item : α) : (m.insert item).Numbered where
  tried := by
    intro n hpos hle
    rw [mem_keys_insert_iff]
    by_cases hitem : Described.name item = ""
    · obtain ⟨-, -, hbetween⟩ := m.nextUnnamed_spec (Described.kind α)
      rw [KeyedMap.insert, if_pos (by simpa using hitem)] at hle
      rw [m.keyFor_of_eq hitem]
      rcases Nat.lt_or_eq_of_le hle with hlt | rfl
      · by_cases hold : n ≤ m.unnamed
        · exact .inl (hm.tried n hpos hold)
        · exact .inl (hbetween n (Nat.lt_of_not_le hold) hlt)
      · exact .inr rfl
    · rw [m.insert_of_name_ne hitem] at hle
      exact .inl (hm.tried n hpos hle)
  ordered := by
    intro entry hentry hunnamed
    rcases mem_of_mem_putPair hentry with rfl | hold
    · -- the item just filed: its key is new, and those of all smaller numbers are not
      have hnew := m.keyFor_notMem_of_eq hunnamed
      obtain ⟨hlarger, -, hbetween⟩ := m.nextUnnamed_spec (Described.kind α)
      refine ⟨m.nextUnnamed (Described.kind α), by omega, m.keyFor_of_eq hunnamed, ?_⟩
      intro k hpos hlt
      have hthere : numberedKey (Described.kind α) k ∈ m.keys := by
        by_cases hold : k ≤ m.unnamed
        · exact hm.tried k hpos hold
        · exact hbetween k (Nat.lt_of_not_le hold) hlt
      obtain ⟨i, hi, hlength⟩ := exists_indexOf?_of_mem hthere
      exact ⟨i, _, (indexOf?_insert_of_mem hthere item).trans hi, indexOf?_insert_of_notMem hnew,
        hlength⟩
    · obtain ⟨n, hpos, hkey, hearlier⟩ := hm.ordered entry hold hunnamed
      refine ⟨n, hpos, hkey, fun k hk hlt => ?_⟩
      obtain ⟨i, rank, hi, hrank, hbefore⟩ := hearlier k hk hlt
      exact ⟨i, rank, (indexOf?_insert_of_mem (mem_keys_of_indexOf? hi) item).trans hi,
        (indexOf?_insert_of_mem (mem_keys_of_indexOf? hrank) item).trans hrank, hbefore⟩

theorem Numbered.insertAll (hm : m.Numbered) (items : List α) : (m.insertAll items).Numbered := by
  induction items generalizing m with
  | nil => exact hm
  | cons item rest ih => exact ih (hm.insert item)

/-- The keys of the smaller numbers stand before an item without a name. -/
theorem Numbered.exists_number (hkeyed : m.Keyed) (hm : m.Numbered)
    {before after : List (String × α)} {entry : String × α}
    (hentries : m.entries = before ++ entry :: after) (hunnamed : Described.name entry.2 = "") :
    ∃ n, 0 < n ∧ entry.1 = numberedKey (Described.kind α) n ∧
      ∀ k, 0 < k → k < n → numberedKey (Described.kind α) k ∈ before.map Prod.fst := by
  obtain ⟨n, hpos, hkey, hearlier⟩ := hm.ordered entry (by simp [hentries]) hunnamed
  refine ⟨n, hpos, hkey, fun k hk hlt => ?_⟩
  obtain ⟨i, rank, hi, hrank, hbefore⟩ := hearlier k hk hlt
  have hplace : m.indexOf? entry.1 = some before.length :=
    hkeyed.indexOf?_eq_some_iff.mpr ⟨entry.2, by simp [hentries]⟩
  obtain rfl := Option.some.inj (hrank.symm.trans hplace)
  obtain ⟨item, hitem⟩ := hkeyed.indexOf?_eq_some_iff.mp hi
  rw [hentries, List.getElem?_append_left hbefore] at hitem
  exact List.mem_map.mpr ⟨_, List.mem_of_getElem? hitem, rfl⟩

/-- What was filed comes under the same keys when it is filed again from the start. -/
theorem Numbered.entries_insertAll (hkeyed : m.Keyed) (hm : m.Numbered)
    {before after : List (String × α)} (hentries : m.entries = before ++ after) :
    ((empty : KeyedMap α).insertAll (before.map Prod.snd)).entries = before := by
  induction before using List.reverseRecOn generalizing after with
  | nil => rfl
  | append_singleton before entry ih =>
    rw [List.append_assoc, List.singleton_append] at hentries
    let again := (empty : KeyedMap α).insertAll (before.map Prod.snd)
    have hagain : again.keys = before.map Prod.fst := congrArg (List.map Prod.fst) (ih hentries)
    have hnew : entry.1 ∉ again.keys := by
      have hdistinct := hkeyed.distinct
      rw [keys, hentries, List.map_append, List.map_cons] at hdistinct
      rw [hagain]
      exact fun hmem => (List.nodup_append.mp hdistinct).2.2 _ hmem _ (List.mem_cons_self ..) rfl
    have hkey : again.keyFor entry.2 = entry.1 := by
      by_cases hunnamed : Described.name entry.2 = ""
      · obtain ⟨n, hpos, hnumber, hearlier⟩ := hm.exists_number hkeyed hentries hunnamed
        have hagainNumbered : again.Numbered := numbered_empty.insertAll _
        rw [hnumber] at hnew
        have hlarger : again.unnamed < n := by
          by_contra hnot
          exact hnew (hagainNumbered.tried n hpos (Nat.le_of_not_lt hnot))
        rw [again.keyFor_of_eq hunnamed, hnumber, nextUnnamed_eq hlarger hnew]
        intro k hk hlt
        rw [hagain]
        exact hearlier k (by omega) hlt
      · rw [again.keyFor_of_ne hunnamed]
        exact (hkeyed.identified entry (by simp [hentries]) hunnamed).symm
    rw [List.map_append, List.map_singleton, insertAll_concat]
    change putPair (again.keyFor entry.2) entry.2 again.entries = _
    rw [hkey, putPair_of_notMem hnew, ih hentries]

/-- One list comes out as it went in, whatever the names in it. -/
theorem entries_insertAll_values (items : List α) :
    ((empty : KeyedMap α).insertAll ((empty : KeyedMap α).insertAll items).values).entries =
      ((empty : KeyedMap α).insertAll items).entries :=
  (numbered_empty.insertAll items).entries_insertAll (keyed_empty.insertAll items)
    (List.append_nil _).symm

end KeyedMap

/-! ### Lists in a description -/

/-- A part of a description that gathers items, which are listed in elements of their own. -/
structure Gathering (α : Type) [Described α] where
  whole : KeyedMap α → Node
  list : KeyedMap α → Node
  item : α → Node
  adopt_list : ∀ m listed, (whole m).adopt (list listed) = whole (m.insertAll listed.values)
  adopt_item : ∀ listed a, (list listed).adopt (item a) = list (listed.insert a)

namespace Gathering

/-- The actions of a service. -/
def actions (s : ServiceDescription) : Gathering Action where
  whole m := .scpd { s with actions := m }
  list := .actionList
  item := .action
  adopt_list _ _ := rfl
  adopt_item _ _ := rfl

/-- The state variables of a service. -/
def stateVariables (s : ServiceDescription) : Gathering StateVariable where
  whole m := .scpd { s with stateVariables := m }
  list := .serviceStateTable
  item := .stateVariable
  adopt_list _ _ := rfl
  adopt_item _ _ := rfl

/-- The services of a device. -/
def services (info : DeviceInfo) (embedded : KeyedMap Device) : Gathering ServiceReference where
  whole m := .device { info with services := m } embedded
  list := .serviceList
  item := .service
  adopt_list _ _ := rfl
  adopt_item _ _ := rfl

/-- The devices inside a device, which have themselves devices in the order of their keys. -/
def devices (info : DeviceInfo) : Gathering Device where
  whole := .device info
  list := .deviceList
  item
    | .mk info embedded => .device info ⟨embedded, 0⟩
  adopt_list _ _ := rfl
  adopt_item
    | _, .mk _ _ => rfl

variable {α : Type} [Described α] (g : Gathering α)

/-- The node of a list, after its items were read. -/
def listOf (items : List α) : Node :=
  (items.map g.item).foldl Node.adopt (g.list .empty)

theorem listOf_eq (items : List α) : g.listOf items = g.list (.insertAll .empty items) := by
  have hrun (m : KeyedMap α) :
      (items.map g.item).foldl Node.adopt (g.list m) = g.list (m.insertAll items) := by
    induction items generalizing m with
    | nil => rfl
    | cons a rest ih =>
      rw [List.map_cons, List.foldl_cons, g.adopt_item]
      exact ih _
  exact hrun .empty

/-- Lists are adopted one after another as their items are filed list by list. -/
theorem adopt_lists (lists : List (List α)) (m : KeyedMap α) :
    (lists.map g.listOf).foldl Node.adopt (g.whole m) =
      g.whole (m.insertAll (KeyedMap.filedParts lists)) := by
  induction lists generalizing m with
  | nil => rfl
  | cons items rest ih =>
    have hparts : KeyedMap.filedParts (items :: rest) =
        (KeyedMap.empty.insertAll items).values ++ KeyedMap.filedParts rest := rfl
    rw [List.map_cons, List.foldl_cons, g.listOf_eq, g.adopt_list, ih, hparts,
      KeyedMap.insertAll_append]

end Gathering

namespace KeyedMap

variable {α : Type} [Described α]

/-- **Cutting a list does not matter.** However a sequence of items is cut into lists, filing it
    list by list comes to the same entries as filing it in one go, if no name has the form of a
    numbered key; for one list this is so whatever the names. And filing list by list is what the
    parts of a description do with the lists that they adopt. -/
theorem entries_insertAll_filedParts :
    (∀ lists : List (List α),
      (∀ item ∈ lists.flatten, ∀ n, Described.name item ≠ numberedKey (Described.kind α) n) →
      ((empty : KeyedMap α).insertAll (filedParts lists)).entries =
        ((empty : KeyedMap α).insertAll lists.flatten).entries) ∧
      (∀ items : List α, ((empty : KeyedMap α).insertAll (filedParts [items])).entries =
        ((empty : KeyedMap α).insertAll items).entries) ∧
      ∀ (g : Gathering α) (lists : List (List α)) (m : KeyedMap α),
        (lists.map g.listOf).foldl Node.adopt (g.whole m) =
          g.whole (m.insertAll (filedParts lists)) := by
  refine ⟨fun lists hnames => ?_, fun items => ?_, fun g => g.adopt_lists⟩
  · have hkept : ∀ items ∈ lists, KeepsUnnamed items := by
      intro items hitems
      exact keepsUnnamed_of_forall_ne fun item hitem =>
        hnames item (List.mem_flatten.mpr ⟨items, hitems, hitem⟩)
    rw [insertAll_filedParts hkept]
  · rw [filedParts, List.flatMap_singleton]
    exact entries_insertAll_values items

theorem hash_mem_numberedKey (kind : NodeKind) (n : Nat) : '#' ∈ (numberedKey kind n).toList := by
  simp [numberedKey]

/-- Names that come again in a later list, and variables without a name in every list. -/
theorem entries_of_tables :
    let tables := [[called "B", called "", called "B"], [called "", called "C"],
      [called " B ", called ""]]
    (∀ item ∈ tables.flatten, ∀ n, Described.name item ≠ numberedKey .stateVariable n) ∧
      ((empty : KeyedMap StateVariable).insertAll (filedParts tables)).entries =
        [("B", called " B "), ("stateVariable#1", called ""), ("stateVariable#2", called ""),
          ("C", called "C"), ("stateVariable#3", called "")] := by
  intro tables
  have hnames : ∀ item ∈ tables.flatten, ∀ n,
      Described.name item ≠ numberedKey .stateVariable n := by
    have hmarks : ∀ item ∈ tables.flatten, '#' ∉ (Described.name item).toList := by decide +kernel
    intro item hitem n hname
    exact hmarks item hitem (hname ▸ hash_mem_numberedKey .stateVariable n)
  refine ⟨hnames, ?_⟩
  rw [entries_insertAll_filedParts.1 tables hnames]
  decide +kernel

/-- Where a name has the form of a numbered key, one list may lose what the whole sequence keeps. -/
example :
    let tables := [[called ""], [called "", called "", called "stateVariable#1"]]
    ((empty : KeyedMap StateVariable).insertAll (filedParts tables)).size = 2 ∧
      ((empty : KeyedMap StateVariable).insertAll tables.flatten).size = 3 := by
  decide +kernel

end KeyedMap

end Description

end ControlPoint
