import Mathlib
import ControlPoint.Proofs.Settings.Load

/-!
The keys of settings as they stand in the document. What is asked for is looked up in lower case, so
an entry under another key is never found. The file is read in lower case, but values that come from
the environment or are given later keep their keys: how far capitals get into the document that way.
-/

namespace ControlPoint.Settings

open Yaml Host

/-! ### Keys as they stand -/

/-- The value under keys that are taken just as they stand in the mappings. -/
def stored? : KeyPath → Value → Option Value
  | [], v => some v
  | name :: rest, .mapping entries => (Entries.get? entries (.text name)).bind (stored? rest)
  | _ :: _, _ => none

/-- All keys of a path are in lower case. -/
def IsLowerPath (path : KeyPath) : Prop :=
  ∀ name ∈ path, Text.lower name = name

/-- A path with its keys in lower case. -/
def lowerPath (path : KeyPath) : KeyPath :=
  path.map Text.lower

/-- All keys of the document that are texts and can be reached through mappings are in lower case. -/
def HasLowerKeys (v : Value) : Prop :=
  ∀ path, (stored? path v).isSome → IsLowerPath path

theorem isLowerPath_lowerPath (path : KeyPath) : IsLowerPath (lowerPath path) := by
  simp [IsLowerPath, lowerPath]

theorem lowerPath_of_isLowerPath {path : KeyPath} (hpath : IsLowerPath path) :
    lowerPath path = path := by
  rw [lowerPath, List.map_congr_left hpath, List.map_id']

theorem isLowerPath_append {first second : KeyPath} :
    IsLowerPath (first ++ second) ↔ IsLowerPath first ∧ IsLowerPath second :=
  List.forall_mem_append

theorem IsLowerPath.mono {path whole : KeyPath} (hwhole : IsLowerPath whole)
    (hpart : path <+: whole) : IsLowerPath path :=
  fun name hname => hwhole name (hpart.mem hname)

/-- What is found is what stands under the keys in lower case. -/
theorem findFrom_eq_ok_iff {before path : KeyPath} {document v : Value} :
    findFrom before path document = .ok v ↔ stored? (lowerPath path) document = some v := by
  induction path generalizing before document with
  | nil => simp [findFrom, lowerPath, stored?]
  | cons name rest ih =>
    cases document with
    | mapping entries =>
      rw [findFrom, lowerPath, List.map_cons, stored?, key]
      cases hinner : Entries.get? entries (.text (Text.lower name)) with
      | none => simp
      | some inner => exact ih
    | _ => simp [findFrom, lowerPath, stored?]

theorem hasLowerKeys_of_isLowered {v : Value} (hv : IsLowered v) : HasLowerKeys v := by
  intro path hpath
  induction path generalizing v with
  | nil => simp [IsLowerPath]
  | cons name rest ih =>
    cases v with
    | mapping entries =>
      obtain ⟨hkeys, hvalues, -⟩ := isLowered_mapping_iff.mp hv
      rw [stored?, Entries.get?] at hpath
      cases hfind : entries.find? fun entry => (Value.text name).same entry.1 with
      | none => simp [hfind] at hpath
      | some entry =>
        rw [hfind] at hpath
        have hmem := List.mem_of_find?_eq_some hfind
        have hname : entry.1 = .text name := by simpa using List.find?_some hfind
        have hlower := hkeys entry hmem
        rw [hname, lowerKey, key, Value.text.injEq] at hlower
        have hrest := ih (hvalues entry hmem) hpath
        exact List.forall_mem_cons.mpr ⟨hlower, hrest⟩
    | _ => simp [stored?] at hpath

/-! ### Giving a value -/

theorem exists_of_set_cons {name : String} {rest : KeyPath} {value document changed : Value}
    (hset : set (name :: rest) value document = .ok changed) :
    ∃ entries inner, document = .mapping entries ∧
      set rest value ((Entries.get? entries (key name)).getD (.mapping [])) = .ok inner ∧
      changed = .mapping (Entries.insert entries (key name) inner) := by
  cases document with
  | mapping entries =>
    rw [set] at hset
    cases hinner : set rest value ((Entries.get? entries (key name)).getD (.mapping [])) with
    | error fault =>
      rw [hinner] at hset
      cases hset
    | ok inner =>
      rw [hinner] at hset
      exact ⟨entries, inner, rfl, hinner, (Except.ok.inj hset).symm⟩
  | _ => cases hset

/-- Behind the path to which a value is given stands what stands in the value. -/
theorem stored?_set_append {path : KeyPath} {value document changed : Value}
    (hset : set path value document = .ok changed) (rest : KeyPath) :
    stored? (lowerPath path ++ rest) changed = stored? rest value := by
  induction path generalizing document changed with
  | nil =>
    obtain rfl := Except.ok.inj hset
    rfl
  | cons name more ih =>
    obtain ⟨entries, inner, -, hinner, rfl⟩ := exists_of_set_cons hset
    have hget := Entries.get?_insert_text entries (Text.lower name) inner
    rw [lowerPath, List.map_cons, List.cons_append, stored?, key, hget]
    exact ih hinner

/-- At a path that leads elsewhere stands what stood there. -/
theorem stored?_set_elsewhere {path other : KeyPath} {value document changed : Value}
    (hset : set path value document = .ok changed) (hbehind : ¬ lowerPath path <+: other)
    (hbefore : ¬ other <+: lowerPath path) : stored? other changed = stored? other document := by
  induction path generalizing other document changed with
  | nil => exact absurd List.nil_prefix hbehind
  | cons name more ih =>
    obtain ⟨entries, inner, rfl, hinner, rfl⟩ := exists_of_set_cons hset
    rw [lowerPath, List.map_cons] at hbehind hbefore
    cases other with
    | nil => exact absurd List.nil_prefix hbefore
    | cons first rest =>
      by_cases hfirst : first = Text.lower name
      · subst hfirst
        rw [List.cons_prefix_cons] at hbehind hbefore
        simp only [true_and] at hbehind hbefore
        have hget := Entries.get?_insert_text entries (Text.lower name) inner
        rw [stored?, stored?, key, hget]
        refine (ih hinner hbehind hbefore).trans ?_
        cases hold : Entries.get? entries (key name) with
        | some old =>
          rw [key] at hold
          rw [hold]
          rfl
        | none =>
          rw [key] at hold
          rw [hold]
          -- what was missing on the way is a mapping without entries now
          cases rest with
          | nil => exact absurd List.nil_prefix hbefore
          | cons next rest => rfl
      · have hne : key name ≠ .text first := by
          rw [key, Ne, Value.text.injEq]
          exact Ne.symm hfirst
        rw [stored?, stored?, Entries.get?_insert_of_ne entries hne]

/-! ### Changes one after another -/

/-- A value that is to be given to a path. -/
abbrev Change := KeyPath × Value

/-- The document after a change. One that is refused leaves the document as it is. -/
def attempt (document : Value) (change : Change) : Value :=
  (set change.1 change.2 document).toOption.getD document

/-- Those of changes made one after another that are not refused. -/
def accepted (document : Value) : List Change → List Change
  | [] => []
  | change :: rest =>
    match set change.1 change.2 document with
    | .ok changed => change :: accepted changed rest
    | .error _ => accepted document rest

/-- One of the changes gives a new value to the path or to one on the way there. -/
def Overwrites (changes : List Change) (path : KeyPath) : Prop :=
  ∃ change ∈ changes, lowerPath change.1 <+: path

/-- Every key with a capital that comes with the value of a change is overwritten by a later one. -/
def OverwriteCapitals (changes : List Change) : Prop :=
  ∀ before change after, changes = before ++ change :: after →
    ∀ rest, (stored? rest change.2).isSome → ¬ IsLowerPath rest →
      Overwrites after (lowerPath change.1 ++ rest)

theorem overwrites_cons {change : Change} {rest : List Change} {path : KeyPath} :
    Overwrites (change :: rest) path ↔ lowerPath change.1 <+: path ∨ Overwrites rest path := by
  simp [Overwrites]

theorem overwriteCapitals_nil : OverwriteCapitals [] := by
  intro before change after hsplit
  cases before <;> cases hsplit

theorem overwriteCapitals_cons {change : Change} {rest : List Change} :
    OverwriteCapitals (change :: rest) ↔
      (∀ path, (stored? path change.2).isSome → ¬ IsLowerPath path →
        Overwrites rest (lowerPath change.1 ++ path)) ∧ OverwriteCapitals rest := by
  constructor
  · intro h
    refine ⟨h [] change rest rfl, fun before later after hsplit => ?_⟩
    exact h (change :: before) later after (congrArg _ hsplit)
  · rintro ⟨hfirst, hrest⟩ before later after hsplit
    cases before with
    | nil =>
      obtain ⟨rfl, rfl⟩ := List.cons.inj hsplit
      exact hfirst
    | cons first before =>
      exact hrest before later after (List.cons.inj hsplit).2

/-- The keys with capitals after a change: those that come with its value, and those that were there
    and are not overwritten by it. -/
theorem forall_capital_set_iff {path : KeyPath} {value document changed : Value}
    (hset : set path value document = .ok changed) {P : KeyPath → Prop} :
    (∀ other, (stored? other changed).isSome → ¬ IsLowerPath other → P other) ↔
      (∀ other, (stored? other document).isSome → ¬ IsLowerPath other →
        ¬ lowerPath path <+: other → P other) ∧
      ∀ rest, (stored? rest value).isSome → ¬ IsLowerPath rest → P (lowerPath path ++ rest) := by
  have hlower := isLowerPath_lowerPath path
  constructor
  · intro h
    constructor
    · intro other hother hcapital hbehind
      have hbefore : ¬ other <+: lowerPath path := fun hpart =>
        hcapital (hlower.mono hpart)
      rw [← stored?_set_elsewhere hset hbehind hbefore] at hother
      exact h other hother hcapital
    · intro rest hrest hcapital
      rw [← stored?_set_append hset] at hrest
      exact h _ hrest fun hall => hcapital (isLowerPath_append.mp hall).2
  · rintro ⟨hold, hnew⟩ other hother hcapital
    by_cases hbehind : lowerPath path <+: other
    · obtain ⟨rest, rfl⟩ := hbehind
      rw [stored?_set_append hset] at hother
      exact hnew rest hother fun hrest => hcapital (isLowerPath_append.mpr ⟨hlower, hrest⟩)
    · have hbefore : ¬ other <+: lowerPath path := fun hpart =>
        hcapital (hlower.mono hpart)
      rw [stored?_set_elsewhere hset hbehind hbefore] at hother
      exact hold other hother hcapital hbehind

/-- Changes leave lower-case keys alone just if they overwrite all keys with capitals, those that
    were there and those that come with their own values. -/
theorem hasLowerKeys_foldl_attempt_iff (changes : List Change) (document : Value) :
    HasLowerKeys (changes.foldl attempt document) ↔
      (∀ path, (stored? path document).isSome → ¬ IsLowerPath path →
        Overwrites (accepted document changes) path) ∧
      OverwriteCapitals (accepted document changes) := by
  induction changes generalizing document with
  | nil =>
    have hnever (path : KeyPath) : ¬ Overwrites [] path := by simp [Overwrites]
    simp only [List.foldl_nil, accepted, hnever, overwriteCapitals_nil, and_true]
    exact forall₂_congr fun path _ => not_not.symm
  | cons change rest ih =>
    rw [List.foldl_cons, attempt, accepted]
    cases hset : set change.1 change.2 document with
    | error fault => exact ih document
    | ok changed =>
      change HasLowerKeys (rest.foldl attempt changed) ↔ _
      rw [ih changed, forall_capital_set_iff hset, overwriteCapitals_cons, and_assoc]
      refine and_congr_left fun _ => forall₃_congr fun path _ _ => ?_
      rw [overwrites_cons, or_iff_not_imp_left]

/-! ### Changes on a machine -/

/-- What a user of the settings can ask for: a value for a path, or both as texts. -/
inductive Request
  | value (path : KeyPath) (value : Value)
  | text (path text : String)

namespace Request

/-- The change that is asked for, if there is any. -/
def change? : Request → Option Change
  | value path v => some (path, v)
  | text path s =>
    let keys := keysBetween "." path
    if keys.isEmpty then none else some (keys, valueOf s)

/-- Does what is asked for. -/
def make {m : Type → Type} [Monad m] [Host m] (s : Settings) :
    Request → m (Settings × Except Fault Unit)
  | value path v => s.put path v
  | text path t => s.putText path t

end Request

/-- The settings after requests one after another, whether these are refused or not. -/
def makeAll {m : Type → Type} [Monad m] [Host m] (s : Settings) (requests : List Request) :
    m Settings :=
  requests.foldlM (fun s request => Prod.fst <$> request.make s) s

/-- The changes that the variables of the environment stand for. -/
def overrideChanges (assignments : List (String × String)) : List Change :=
  assignments.filterMap fun assignment =>
    (overridePath? assignment.1).map fun keys => (keys, valueOf assignment.2)

theorem overrideAll_document (assignments : List (String × String)) (document : Value) :
    (overrideAll document assignments).1 = (overrideChanges assignments).foldl attempt document := by
  induction assignments generalizing document with
  | nil => rfl
  | cons first rest ih =>
    rw [overrideAll, override, overrideChanges, List.filterMap_cons]
    cases overridePath? first.1 with
    | none => exact ih document
    | some keys =>
      dsimp only [Option.map_some, List.foldl_cons, attempt]
      cases set keys (valueOf first.2) document with
      | error fault => exact ih document
      | ok changed => exact ih changed

open Script

theorem document_of_runs_keep {s s' : Settings} {changed : Except SetFault Value}
    {trace : List Exchange} {outcome : Except Fault Unit}
    (hrun : (s.keep changed : Script (Settings × Except Fault Unit)).Runs trace (s', outcome)) :
    s'.document = changed.toOption.getD s.document := by
  unfold keep at hrun
  cases changed with
  | error fault =>
    obtain ⟨-, hs⟩ := hrun
    obtain rfl := (Prod.mk.inj hs).1
    rfl
  | ok document =>
    obtain ⟨_, saved, _, rfl, -, hs⟩ := runs_bind.mp hrun
    obtain rfl := (Prod.mk.inj hs.2).1
    rfl

theorem document_of_runs_make {s s' : Settings} {request : Request} {trace : List Exchange}
    {outcome : Except Fault Unit}
    (hrun : (request.make s : Script (Settings × Except Fault Unit)).Runs trace (s', outcome)) :
    s'.document = request.change?.toList.foldl attempt s.document := by
  cases request with
  | value path v => exact document_of_runs_keep hrun
  | text path t =>
    rw [document_of_runs_keep hrun, setText, Request.change?]
    split <;> rfl

theorem document_of_runs_makeAll {s s' : Settings} {requests : List Request}
    {trace : List Exchange} (hrun : (s.makeAll requests : Script Settings).Runs trace s') :
    s'.document = (requests.filterMap Request.change?).foldl attempt s.document := by
  unfold makeAll at hrun
  induction requests generalizing s trace with
  | nil =>
    obtain ⟨-, rfl⟩ := hrun
    rfl
  | cons request rest ih =>
    rw [List.foldlM_cons] at hrun
    obtain ⟨_, next, _, rfl, hfirst, hrest⟩ := runs_bind.mp hrun
    obtain ⟨⟨_, outcome⟩, hmake, rfl⟩ := runs_map.mp hfirst
    rw [ih hrest, document_of_runs_make hmake, List.filterMap_cons]
    cases request.change? <;> rfl

theorem isLowered_of_documentOf? {file : Option String} {document : Value}
    (hdocument : documentOf? file = some document) : IsLowered document := by
  cases file with
  | none =>
    obtain rfl := Option.some.inj hdocument
    exact isLowered_lowerKeys defaults
  | some text =>
    obtain ⟨v, -, rfl⟩ := Option.map_eq_some_iff.mp hdocument
    exact isLowered_lowerKeys _

/-- A section in which a key has a capital. -/
def capitalSection : String := "{Language: vb}"

/-- The section with the key that is asked for. -/
def lowerSection : Value := .mapping [(.text "language", .text "vb")]

theorem hasLowerKeys_lowerSection : HasLowerKeys lowerSection := by
  have hkey : lowerKey (.text "language") = .text "language" := by
    rw [lowerKey, key, (by decide +kernel : Text.lower "language" = "language")]
  exact hasLowerKeys_of_isLowered
    (isLowered_insert isLowered_nil hkey (isLowered_lowerKeys (.text "vb")))

/-- Reading the section keeps the capital. -/
theorem read?_capitalSection :
    ∃ v, Value.read? capitalSection = some v ∧ stored? ["Language"] v = some (.text "vb") ∧
      stored? ["language"] v = none := by
  have hread : (Value.read? capitalSection).map (fun v =>
      ((stored? ["Language"] v).map (Value.same (.text "vb")),
        (stored? ["language"] v).isSome)) = some (some true, false) := by decide +kernel
  obtain ⟨v, hv, hkeys⟩ := Option.map_eq_some_iff.mp hread
  obtain ⟨hcapital, hlower⟩ := Prod.mk.inj hkeys
  obtain ⟨found, hfound, hsame⟩ := Option.map_eq_some_iff.mp hcapital
  obtain rfl := (Value.text_same_iff ..).mp hsame
  exact ⟨v, hv, hfound, by simpa using hlower⟩

/-- The settings of a directory whose file is an empty mapping are a mapping. -/
theorem exists_load_mapping :
    ∃ trace entries, (load ⟨[]⟩ "conf" : Script (Except Fault Settings)).Runs trace
        (.ok ⟨"conf", .mapping entries⟩) ∧
      ⟨.readFile (path ⟨"conf", .mapping entries⟩), .ok "{}"⟩ ∈ trace ∧
      documentOf? (some "{}") = some (.mapping entries) := by
  have hread : (Value.read? "{}").map (Value.same (.mapping [])) = some true := by decide +kernel
  obtain ⟨file, hfile, hsame⟩ := Option.map_eq_some_iff.mp hread
  cases file with
  | mapping upper =>
    have hdocument : ∃ entries, documentOf? (some "{}") = some (.mapping entries) := by
      rw [documentOf?_some, hfile]
      exact ⟨_, rfl⟩
    obtain ⟨entries, hentries⟩ := hdocument
    obtain ⟨trace, hrun, hmem⟩ := exists_load (by decide : "conf" ≠ "") hentries
    exact ⟨trace, entries, hrun, hmem, hentries⟩
  | _ => simp [Value.same] at hsame

/-- Asking for the section, as a text, for a path of one key. -/
theorem change?_capitalSection {v : Value} (hv : Value.read? capitalSection = some v) :
    (Request.text "generator" capitalSection).change? = some (["generator"], v) := by
  have hkeys : keysBetween "." "generator" = ["generator"] := by decide +kernel
  rw [Request.change?, hkeys, valueOf, hv]
  rfl

/-- After reading and any requests, all keys of the settings are in lower case just if every key with
    a capital that came with a value from the environment or from a request was overwritten later;
    then everything is found at the path at which it stands; and what is found at a path is always
    what stands under its keys in lower case and nothing else. -/
theorem hasLowerKeys_iff {e : Environment} {given : String} {reading making : List Exchange}
    {s s' : Settings} {requests : List Request}
    (hread : (load e given : Script (Except Fault Settings)).Runs reading (.ok s))
    (hmade : (s.makeAll requests : Script Settings).Runs making s') :
    ∃ answer document, (∀ other, ⟨.readFile s.path, other⟩ ∈ reading → other = answer) ∧
      documentOf? answer.toOption = some document ∧
      (HasLowerKeys s'.document ↔ OverwriteCapitals (accepted document
        (overrideChanges e.assignments ++ requests.filterMap Request.change?))) ∧
      (HasLowerKeys s'.document → ∀ path v, stored? path s'.document = some v →
        s'.get path = .ok v) ∧
      ∀ path v, s'.get path = .ok v ↔ stored? (lowerPath path) s'.document = some v := by
  obtain ⟨answer, document, honly, hdocument, hs⟩ := documentOf?_of_load hread
  refine ⟨answer, document, honly, hdocument, ?_, fun hall path v hv => ?_,
    fun path v => findFrom_eq_ok_iff⟩
  case refine_2 =>
    refine findFrom_eq_ok_iff.mpr ?_
    rwa [lowerPath_of_isLowerPath (hall path (Option.isSome_of_eq_some hv))]
  have hlower : HasLowerKeys document :=
    hasLowerKeys_of_isLowered (isLowered_of_documentOf? hdocument)
  rw [document_of_runs_makeAll hmade, hs, overrideAll_document, ← List.foldl_append,
    hasLowerKeys_foldl_attempt_iff]
  exact and_iff_right fun path hpath hcapital => absurd (hlower path hpath) hcapital

/-- A key with a capital is gone after its section was given once more. -/
theorem replacedSection_hasLowerKeys :
    ∃ reading s making s', (load ⟨[]⟩ "conf" : Script (Except Fault Settings)).Runs reading (.ok s) ∧
      (s.makeAll [.text "generator" capitalSection,
        .value ["generator"] lowerSection] :
          Script Settings).Runs making s' ∧
      HasLowerKeys s'.document ∧ s'.get ["Generator", "LANGUAGE"] = .ok (.text "vb") := by
  obtain ⟨reading, entries, hread, hmem, hdocument⟩ := exists_load_mapping
  obtain ⟨v, hv, -, -⟩ := read?_capitalSection
  obtain ⟨making, s', hmade⟩ := Script.exists_runs (makeAll ⟨"conf", .mapping entries⟩
    [.text "generator" capitalSection,
      .value ["generator"] lowerSection])
  obtain ⟨answer, document, honly, hanswer, hiff, -, hget⟩ := hasLowerKeys_iff hread hmade
  obtain rfl := honly _ hmem
  obtain rfl := Option.some.inj (hdocument.symm.trans hanswer)
  refine ⟨reading, _, making, s', hread, hmade, ?_, ?_⟩
  · rw [hiff, List.filterMap_cons, change?_capitalSection hv]
    change OverwriteCapitals [(["generator"], v), (["generator"], lowerSection)]
    refine overwriteCapitals_cons.mpr ⟨fun path _ _ => ?_, overwriteCapitals_cons.mpr
      ⟨fun path hpath hcapital => ?_, overwriteCapitals_nil⟩⟩
    · exact ⟨_, List.mem_singleton_self _, List.prefix_append _ _⟩
    · exact absurd (hasLowerKeys_lowerSection path hpath) hcapital
  · have hset : set ["generator"] lowerSection
        (.mapping (Entries.insert entries (key "generator") v)) = .ok s'.document := by
      rw [document_of_runs_makeAll hmade, List.filterMap_cons, change?_capitalSection hv]
      rfl
    have hkeys : lowerPath ["Generator", "LANGUAGE"] = lowerPath ["generator"] ++ ["language"] := by
      decide +kernel
    rw [hget, hkeys, stored?_set_append hset]
    rfl

/-- A section that is given with a capital in a key has an entry that is never found. -/
theorem capitalKey_isNotFound :
    ∃ reading s making s', (load ⟨[]⟩ "conf" : Script (Except Fault Settings)).Runs reading (.ok s) ∧
      (s.makeAll [.text "generator" capitalSection] : Script Settings).Runs making s' ∧
      stored? ["generator", "Language"] s'.document = some (.text "vb") ∧
      ¬ HasLowerKeys s'.document ∧ ∀ v, s'.get ["generator", "Language"] ≠ .ok v := by
  obtain ⟨reading, entries, hread, -, -⟩ := exists_load_mapping
  obtain ⟨v, hv, hcapital, hlower⟩ := read?_capitalSection
  obtain ⟨making, s', hmade⟩ := Script.exists_runs (makeAll ⟨"conf", .mapping entries⟩
    [.text "generator" capitalSection])
  have hdocument := document_of_runs_makeAll hmade
  rw [List.filterMap_cons, change?_capitalSection hv] at hdocument
  have hset : set ["generator"] v (.mapping entries) = .ok s'.document := by
    rw [hdocument]
    rfl
  have hpath : lowerPath ["generator"] = ["generator"] := by decide +kernel
  have hstored := stored?_set_append hset
  rw [hpath] at hstored
  have hkept : stored? ["generator", "Language"] s'.document = some (.text "vb") :=
    (hstored ["Language"]).trans hcapital
  refine ⟨reading, _, making, s', hread, hmade, hkept, ?_, ?_⟩
  · intro hall
    have hpathLower := hall ["generator", "Language"] (by rw [hkept]; rfl)
    have hlanguage := hpathLower "Language" (by simp)
    exact absurd hlanguage (by decide +kernel)
  · intro w hfound
    have hkeys : lowerPath ["generator", "Language"] = ["generator"] ++ ["language"] := by
      decide +kernel
    have hstays := findFrom_eq_ok_iff.mp hfound
    rw [hkeys, hstored, hlower] at hstays
    cases hstays

end ControlPoint.Settings
