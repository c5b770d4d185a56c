import Mathlib
import ControlPoint.Proofs.Class.Constant
import ControlPoint.Proofs.Class.ServiceCode
import ControlPoint.Proofs.Language.Lines

/-!
Requests for constants one after another. The answers depend on the order of the requests, but which
of them are the same does not, and the declarations list every constant where it was first asked
for.
-/

namespace ControlPoint.Class.ConstantPool

open Naming

/-- What a constant is asked for with. -/
structure Request where
  group : String
  name : String
  value : String
  comment : String
  deriving DecidableEq, Repr

/-- What decides which constant is meant. -/
def Request.key (r : Request) : String × String := (r.group, r.value)

/-- A request with the identifier that it was given. -/
structure Answer where
  request : Request
  identifier : String
  deriving DecidableEq, Repr

namespace Answer

def key (a : Answer) : String × String := a.request.key

/-- The constant that is declared if the answer is the first of its key. -/
def constant (a : Answer) : Constant := ⟨a.identifier, a.request.value, a.request.comment⟩

end Answer

/-- Answers in order: of every key only the first one. -/
def firstAnswers : List Answer → List Answer
  | [] => []
  | a :: rest => a :: (firstAnswers rest).filter fun b => b.key != a.key

theorem firstAnswers_concat (answers : List Answer) (a : Answer) :
    firstAnswers (answers ++ [a]) =
      if a.key ∈ answers.map Answer.key then firstAnswers answers
        else firstAnswers answers ++ [a] := by
  induction answers with
  | nil => rfl
  | cons first rest ih =>
    rw [List.cons_append, firstAnswers, ih, firstAnswers]
    simp only [List.map_cons, List.mem_cons]
    by_cases hfirst : a.key = first.key
    · by_cases hrest : first.key ∈ rest.map Answer.key <;> simp [hrest, hfirst]
    · by_cases hrest : a.key ∈ rest.map Answer.key <;> simp [hrest, hfirst]

/-- Every key is there once, where it came first. -/
theorem map_key_firstAnswers (answers : List Answer) :
    (firstAnswers answers).map Answer.key = (answers.map Answer.key).eraseDups := by
  induction answers using List.reverseRecOn with
  | nil => rfl
  | append_singleton answers a ih =>
    rw [firstAnswers_concat, List.map_append, List.map_singleton, eraseDups_concat, ← ih]
    split_ifs with ha
    · rfl
    · simp

/-- Requests one after another: their answers, and the constants there are in the end. -/
def getAll (p : ConstantPool) : List Request → List Answer × ConstantPool
  | [] => ([], p)
  | r :: rest =>
    let first := p.get r.group r.name r.value r.comment
    let others := first.2.getAll rest
    (⟨r, first.1⟩ :: others.1, others.2)

variable {p : ConstantPool}

theorem getAll_append (p : ConstantPool) (first second : List Request) :
    p.getAll (first ++ second) =
      ((p.getAll first).1 ++ ((p.getAll first).2.getAll second).1,
        ((p.getAll first).2.getAll second).2) := by
  induction first generalizing p with
  | nil => rfl
  | cons r rest ih => simp [getAll, ih]

theorem getAll_concat (p : ConstantPool) (requests : List Request) (r : Request) :
    p.getAll (requests ++ [r]) =
      let asked := (p.getAll requests).2.get r.group r.name r.value r.comment
      ((p.getAll requests).1 ++ [⟨r, asked.1⟩], asked.2) :=
  p.getAll_append requests [r]

/-- Every request is answered. -/
theorem map_request_getAll (p : ConstantPool) (requests : List Request) :
    (p.getAll requests).1.map Answer.request = requests := by
  induction requests generalizing p with
  | nil => rfl
  | cons r rest ih => simp [getAll, ih]

theorem map_key_getAll (p : ConstantPool) (requests : List Request) :
    (p.getAll requests).1.map Answer.key = requests.map Request.key := by
  conv_rhs => rw [← p.map_request_getAll requests, List.map_map]
  rfl

@[simp] theorem getAll_rule (p : ConstantPool) (requests : List Request) :
    (p.getAll requests).2.names.rule = p.names.rule := by
  induction requests generalizing p with
  | nil => rfl
  | cons r rest ih => simp [getAll, ih]

theorem Valid.getAll (hp : p.Valid) (requests : List Request) : (p.getAll requests).2.Valid := by
  induction requests generalizing p with
  | nil => exact hp
  | cons r rest ih => exact ih (hp.get r.group r.name r.value r.comment)

theorem extends_getAll (p : ConstantPool) (requests : List Request) :
    p.Extends (p.getAll requests).2 := by
  induction requests generalizing p with
  | nil => exact .refl p
  | cons r rest ih => exact (p.extends_get r.group r.name r.value r.comment).trans (ih _)

/-- What was declared for the first requests is the same after all of them. -/
theorem extends_getAll_take (p : ConstantPool) (requests : List Request) (n : Nat) :
    (p.getAll (requests.take n)).2.Extends (p.getAll requests).2 := by
  conv_rhs => rw [← List.take_append_drop n requests, getAll_append]
  exact extends_getAll _ _

/-! ### Which answers are the same -/

theorem has_of_mem_getAll {requests : List Request} {a : Answer}
    (ha : a ∈ (p.getAll requests).1) :
    (p.getAll requests).2.Has a.identifier a.request.group a.request.value := by
  induction requests generalizing p with
  | nil => simp [getAll] at ha
  | cons r rest ih =>
    rcases List.mem_cons.mp ha with rfl | ha
    · exact (p.has_get r.group r.name r.value r.comment).mono (extends_getAll _ rest)
    · exact ih ha

theorem exists_group_of_lookup? {group value : String} {c : Constant}
    (hlookup : p.lookup? group value = some c) :
    ∃ constants, (group, constants) ∈ p.groups ∧ c ∈ constants := by
  have hc := List.mem_of_find?_eq_some hlookup
  unfold ConstantPool.group at hc
  split at hc
  · rename_i g constants hfind
    obtain rfl : g = group := by simpa using List.find?_some hfind
    exact ⟨constants, List.mem_of_find?_eq_some hfind, hc⟩
  · simp at hc

/-- An identifier belongs to one key, whatever its case where the rule does not tell cases apart. -/
theorem Valid.key_eq_of_fold_eq (hp : p.Valid)
    {identifier group value identifier' group' value' : String}
    (hhas : p.Has identifier group value) (hhas' : p.Has identifier' group' value')
    (hfold : p.names.rule.fold identifier = p.names.rule.fold identifier') :
    (group, value) = (group', value') := by
  obtain ⟨c, hlookup, rfl, rfl⟩ := hhas
  obtain ⟨c', hlookup', rfl, rfl⟩ := hhas'
  obtain ⟨constants, hgroup, hc⟩ := exists_group_of_lookup? hlookup
  obtain ⟨constants', hgroup', hc'⟩ := exists_group_of_lookup? hlookup'
  have hsame : c = c' :=
    List.inj_on_of_nodup_map hp.distinct (lookup?_mem hlookup) (lookup?_mem hlookup') hfold
  have honly := filter_any_key_eq_singleton hp.distinct hgroup hc
  have hfound : (group', constants') ∈ [(group, constants)] := by
    rw [← honly, List.mem_filter]
    exact ⟨hgroup', List.any_eq_true.mpr ⟨c', hc', beq_iff_eq.mpr hfold.symm⟩⟩
  obtain ⟨rfl, -⟩ := Prod.mk.inj (List.mem_singleton.mp hfound)
  rw [hsame]

theorem Has.identifier_unique {identifier identifier' group value : String}
    (hhas : p.Has identifier group value) (hhas' : p.Has identifier' group value) :
    identifier = identifier' := by
  obtain ⟨c, hlookup, rfl, -⟩ := hhas
  obtain ⟨c', hlookup', rfl, -⟩ := hhas'
  rw [Option.some.inj (hlookup.symm.trans hlookup')]

/-- Two answers have one identifier just if they have one key, and so it is if the identifiers are
    told apart as the rule does. -/
theorem Valid.identifier_eq_iff (hp : p.Valid) {requests : List Request} {a b : Answer}
    (ha : a ∈ (p.getAll requests).1) (hb : b ∈ (p.getAll requests).1) :
    (a.identifier = b.identifier ↔ a.key = b.key) ∧
      (p.names.rule.fold a.identifier = p.names.rule.fold b.identifier ↔ a.key = b.key) := by
  have hhas := has_of_mem_getAll ha
  have hhas' := has_of_mem_getAll hb
  have hsame (hkey : a.key = b.key) : a.identifier = b.identifier := by
    obtain ⟨hgroup, hvalue⟩ := Prod.mk.inj hkey
    rw [hgroup, hvalue] at hhas
    exact hhas.identifier_unique hhas'
  have hapart (hfold : p.names.rule.fold a.identifier = p.names.rule.fold b.identifier) :
      a.key = b.key := by
    rw [← p.getAll_rule requests] at hfold
    exact (hp.getAll requests).key_eq_of_fold_eq hhas hhas' hfold
  exact ⟨⟨fun h => hapart (by rw [h]), hsame⟩, ⟨hapart, fun h => by rw [hsame h]⟩⟩

/-! ### What is declared -/

/-- A constant comes last in its group, and a group that is not there yet comes last of all. -/
theorem appendTo_map {names : List String} (hnames : names.Nodup) {group : String} (c : Constant)
    {part : String → List Constant} (hpart : group ∉ names → part group = []) :
    appendTo group c (names.map fun g => (g, part g)) =
      (if group ∈ names then names else names ++ [group]).map fun g =>
        (g, part g ++ if group = g then [c] else []) := by
  induction names with
  | nil => simp [appendTo, hpart]
  | cons first rest ih =>
    obtain ⟨hfirst, hrest⟩ := List.nodup_cons.mp hnames
    rw [List.map_cons, appendTo]
    by_cases hsame : first = group
    · subst hsame
      have hothers : ∀ g ∈ rest, (g, part g ++ if first = g then [c] else []) = (g, part g) := by
        intro g hg
        rw [if_neg (ne_of_mem_of_not_mem hg hfirst).symm, List.append_nil]
      simpa using List.map_congr_left hothers
    · have hnone (hgroup : group ∉ rest) : part group = [] :=
        hpart (by simp [Ne.symm hsame, hgroup])
      rw [if_neg (by simpa using hsame), ih hrest hnone]
      by_cases hgroup : group ∈ rest <;> simp [hgroup, Ne.symm hsame]

variable (rule : CaseRule) (requests : List Request)

/-- A constant is what the first request of its key made it. -/
theorem lookup?_getAll (group value : String) :
    ((empty rule).getAll requests).2.lookup? group value =
      (((empty rule).getAll requests).1.find? fun a => a.key == (group, value)).map
        Answer.constant := by
  induction requests using List.reverseRecOn with
  | nil => rfl
  | append_singleton requests r ih =>
    rw [getAll_concat, List.find?_append, Option.map_or, ← ih]
    have hkey : r.key = (group, value) ↔ group = r.group ∧ value = r.value := by
      rw [Request.key, Prod.mk.injEq, eq_comm, eq_comm (b := value)]
    cases hlookup : ((empty rule).getAll requests).2.lookup? r.group r.value with
    | some c =>
      rw [get_of_lookup?_some hlookup]
      by_cases hagain : group = r.group ∧ value = r.value
      · rw [hagain.1, hagain.2, hlookup, Option.some_or]
      · simp [Answer.key, hkey, hagain]
    | none =>
      rw [lookup?_get_of_none hlookup, get_of_lookup?_none hlookup]
      congr 1
      by_cases hagain : group = r.group ∧ value = r.value
      · simp [Answer.key, Request.key, hagain, Answer.constant, fresh]
      · simp [Answer.key, hkey, hagain]

theorem lookup?_getAll_eq_none_iff (group value : String) :
    ((empty rule).getAll requests).2.lookup? group value = none ↔
      (group, value) ∉ requests.map Request.key := by
  rw [lookup?_getAll, Option.map_eq_none_iff, List.find?_eq_none, ← map_key_getAll (empty rule)]
  simp [List.mem_map]

/-- A request for a key that was there before changes nothing. Any other adds a constant to its
    group. -/
theorem getAll_concat_cases (r : Request) :
    let before := (empty rule).getAll requests
    let after := (empty rule).getAll (requests ++ [r])
    (r.key ∈ requests.map Request.key ∧ after.2 = before.2 ∧
        firstAnswers after.1 = firstAnswers before.1) ∨
      (r.key ∉ requests.map Request.key ∧ ∃ a : Answer, a.request = r ∧
        after.2.groups = appendTo r.group a.constant before.2.groups ∧
        firstAnswers after.1 = firstAnswers before.1 ++ [a]) := by
  intro before after
  have hafter : after = _ := getAll_concat (empty rule) requests r
  have hnew := lookup?_getAll_eq_none_iff rule requests r.group r.value
  rw [hafter, firstAnswers_concat, map_key_getAll]
  cases hlookup : before.2.lookup? r.group r.value with
  | some c =>
    have hkey : r.key ∈ requests.map Request.key := by
      by_contra hkey
      exact absurd (hnew.mpr hkey) (by rw [hlookup]; exact Option.some_ne_none c)
    refine .inl ⟨hkey, ?_, if_pos hkey⟩
    rw [get_of_lookup?_some hlookup]
  | none =>
    have hkey : r.key ∉ requests.map Request.key := hnew.mp hlookup
    refine .inr ⟨hkey, ⟨r, _⟩, rfl, ?_, if_neg hkey⟩
    rw [get_of_lookup?_none hlookup]
    rfl

/-- The declared constants are those of the first answers. -/
theorem declared_getAll_perm :
    List.Perm ((empty rule).getAll requests).2.declared
      ((firstAnswers ((empty rule).getAll requests).1).map Answer.constant) := by
  induction requests using List.reverseRecOn with
  | nil => exact List.Perm.refl _
  | append_singleton requests r ih =>
    obtain ⟨-, hpool, hfirst⟩ | ⟨-, a, -, hgroups, hfirst⟩ := getAll_concat_cases rule requests r
    · rwa [hpool, hfirst]
    · rw [declared, hgroups, hfirst, List.map_append]
      exact (appendTo_perm _ _ _).trans ((ih.cons _).trans (List.perm_append_singleton _ _).symm)

/-- As many constants are declared as there are keys. -/
theorem size_getAll :
    ((empty rule).getAll requests).2.size = (requests.map Request.key).eraseDups.length := by
  have hlength := (declared_getAll_perm rule requests).length_eq
  rw [List.length_map] at hlength
  rw [size, ← declared, hlength, ← map_key_getAll (empty rule), ← map_key_firstAnswers,
    List.length_map]

theorem key_mem_of_mem_firstAnswers {a : Answer}
    (ha : a ∈ firstAnswers ((empty rule).getAll requests).1) :
    a.key ∈ requests.map Request.key := by
  rw [← map_key_getAll (empty rule), ← List.mem_eraseDups, ← map_key_firstAnswers]
  exact List.mem_map_of_mem ha

/-- The groups are in the order in which they were first asked for, and so are the constants of
    each. -/
theorem groups_getAll :
    ((empty rule).getAll requests).2.groups =
      (requests.map Request.group).eraseDups.map fun g =>
        (g, ((firstAnswers ((empty rule).getAll requests).1).filter fun a =>
          a.request.group == g).map Answer.constant) := by
  induction requests using List.reverseRecOn with
  | nil => rfl
  | append_singleton requests r ih =>
    rw [List.map_append, List.map_singleton, eraseDups_concat]
    obtain ⟨hkey, hpool, hfirst⟩ | ⟨-, a, rfl, hgroups, hfirst⟩ :=
      getAll_concat_cases rule requests r
    · obtain ⟨r', hr', hsame⟩ := List.mem_map.mp hkey
      have hgroup : r.group ∈ requests.map Request.group :=
        List.mem_map.mpr ⟨r', hr', congrArg Prod.fst hsame⟩
      rw [if_pos hgroup, hpool, hfirst, ih]
    · have hnone (hgroup : a.request.group ∉ (requests.map Request.group).eraseDups) :
          ((firstAnswers ((empty rule).getAll requests).1).filter fun b =>
            b.request.group == a.request.group).map Answer.constant = [] := by
        rw [List.map_eq_nil_iff, List.filter_eq_nil_iff]
        intro b hb hsame
        obtain ⟨r, hr, hkey⟩ := List.mem_map.mp (key_mem_of_mem_firstAnswers rule requests hb)
        refine hgroup (List.mem_eraseDups.mpr (List.mem_map.mpr ⟨r, hr, ?_⟩))
        exact (congrArg Prod.fst hkey).trans (eq_of_beq hsame)
      rw [hgroups, hfirst, ih, appendTo_map (nodup_eraseDups _) a.constant hnone]
      simp only [List.mem_eraseDups, List.filter_append, List.map_append]
      refine List.map_congr_left fun g _ => ?_
      by_cases hg : a.request.group = g <;> simp [hg]

/-! ### How it is written -/

theorem constantCode_text (l : Language) (v : Visibility) (c : Constant) :
    (constantCode l v c).text l =
      l.constantLine (l.visibilityWord v) c.identifier (l.literal c.value) c.comment :=
  l.fill_constant _ _ _ _

theorem groupCode_text (l : Language) (v : Visibility) (group : String × List Constant) :
    (groupCode l v group).text l = l.regionText group.1 (String.intercalate "\n"
      (group.2.map fun c =>
        l.constantLine (l.visibilityWord v) c.identifier (l.literal c.value) c.comment)) := by
  have hlines := Code.texts_eq l (group.2.map (constantCode l v))
  rw [List.map_map, Function.comp_def, funext (constantCode_text l v)] at hlines
  rw [← l.fill_region, ← hlines]
  rfl

/-- The declarations: of every group its region, and in it a line for each of its constants. -/
theorem definitions_getAll (l : Language) (v : Visibility) :
    ((empty rule).getAll requests).2.definitions l v =
      .ok (String.intercalate "\n\n" ((requests.map Request.group).eraseDups.map fun g =>
        l.regionText g (String.intercalate "\n"
          (((firstAnswers ((empty rule).getAll requests).1).filter fun a =>
            a.request.group == g).map fun a =>
              l.constantLine (l.visibilityWord v) a.identifier (l.literal a.request.value)
                a.request.comment)))) := by
  rw [definitions_eq, Code.text_joined, code, List.map_map, groups_getAll, List.map_map]
  simp only [Function.comp_def, groupCode_text, List.map_map, Answer.constant]

/-- **Constants over a sequence of requests.** Every request is answered. Two answers are the same
    identifier, and so they are to the language, just if the requests have one group and one value.
    A look-up finds what the first request of its key declared, no matter what was asked for later.
    There are as many constants as keys, and each has one line in the declarations: groups come
    where they were first asked for, and so do constants within their group. -/
theorem getAll_declares_each_key_once (l : Language) (v : Visibility) (requests : List Request) :
    let run := (empty l.caseRule).getAll requests
    run.1.map Answer.request = requests ∧
      (∀ a ∈ run.1, ∀ b ∈ run.1, (a.identifier = b.identifier ↔ a.key = b.key) ∧
        (l.caseRule.fold a.identifier = l.caseRule.fold b.identifier ↔ a.key = b.key)) ∧
      (∀ group value, run.2.lookup? group value =
        (run.1.find? fun a => a.key == (group, value)).map Answer.constant) ∧
      (∀ n, ((empty l.caseRule).getAll (requests.take n)).2.Extends run.2) ∧
      run.2.size = (requests.map Request.key).eraseDups.length ∧
      (firstAnswers run.1).map Answer.key = (requests.map Request.key).eraseDups ∧
      run.2.definitions l v =
        .ok (String.intercalate "\n\n" ((requests.map Request.group).eraseDups.map fun g =>
          l.regionText g (String.intercalate "\n"
            (((firstAnswers run.1).filter fun a => a.request.group == g).map fun a =>
              l.constantLine (l.visibilityWord v) a.identifier (l.literal a.request.value)
                a.request.comment)))) := by
  intro run
  refine ⟨map_request_getAll _ _, ?_, lookup?_getAll _ _, extends_getAll_take _ _, size_getAll _ _,
    ?_, definitions_getAll _ _ l v⟩
  · intro a ha b hb
    exact (valid_empty l.caseRule).identifier_eq_iff ha hb
  · rw [map_key_firstAnswers, map_key_getAll]

/-- Two values that make one word stay apart, and the first is found again. -/
theorem getAll_oneWord :
    let first : Request := ⟨allowedValues "Mode", "", "x-a", ""⟩
    let second : Request := ⟨allowedValues "Mode", "", "XA", ""⟩
    let run := (empty Language.visualBasic.caseRule).getAll [first, second, first]
    run.1 = [⟨first, "csAllowedValue_Mode_XA"⟩, ⟨second, "csAllowedValue_Mode_XA2"⟩,
        ⟨first, "csAllowedValue_Mode_XA"⟩] ∧
      Language.visualBasic.caseRule.fold "csAllowedValue_Mode_XA" ≠
        Language.visualBasic.caseRule.fold "csAllowedValue_Mode_XA2" := by
  intro first second run
  have hrun : run.1 = [⟨first, "csAllowedValue_Mode_XA"⟩, ⟨second, "csAllowedValue_Mode_XA2"⟩,
      ⟨first, "csAllowedValue_Mode_XA"⟩] := by decide +kernel
  have hfirst : (⟨first, "csAllowedValue_Mode_XA"⟩ : Answer) ∈ run.1 := by simp [hrun]
  have hsecond : (⟨second, "csAllowedValue_Mode_XA2"⟩ : Answer) ∈ run.1 := by simp [hrun]
  refine ⟨hrun, fun hfold => ?_⟩
  have hspec := getAll_declares_each_key_once .visualBasic .everyone [first, second, first]
  exact absurd ((hspec.2.1 _ hfirst _ hsecond).2.mp hfold) (by decide)

end ControlPoint.Class.ConstantPool
