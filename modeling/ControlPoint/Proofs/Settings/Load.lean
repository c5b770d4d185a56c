import Mathlib
import ControlPoint.Settings.Load
import ControlPoint.Proofs.Host.Script
import ControlPoint.Proofs.Settings.Document

/-!
Settings as they are after reading: which of the embedded values are left, and where new values can
be given, by what the file says.
-/

namespace ControlPoint.Settings

open Yaml Host

/-! ### The embedded document -/

private theorem lower_names :
    ∀ name ∈ ["generator", "language", "namespace", "partial_classes", "test_state_vars",
      "output_dir", "network", "timeout_secs", "log", "min_level"], Text.lower name = name := by
  decide +kernel

theorem isLowered_text (s : String) : IsLowered (.text s) := .leaf (by simp) (by simp)

theorem isLowered_flag (b : Bool) : IsLowered (.flag b) := .leaf (by simp) (by simp)

theorem isLowered_whole (n : Int) : IsLowered (.whole n) := .leaf (by simp) (by simp)

theorem isLowered_defaults : IsLowered defaults := by
  have hlower := lower_names
  simp only [List.forall_mem_cons, List.not_mem_nil, false_implies, implies_true, and_true] at hlower
  simp [defaults, isLowered_mapping_iff, isLowered_text, isLowered_flag, isLowered_whole, lowerKey,
    key, hlower, Value.same]

/-- There is a value under every key. -/
inductive IsFilled : Value → Prop
  | mapping {entries : Entries} (values : ∀ entry ∈ entries, IsFilled entry.2) :
    IsFilled (.mapping entries)
  | leaf {v : Value} (not_mapping : ∀ entries, v ≠ .mapping entries) (not_null : v ≠ .null) :
    IsFilled v

theorem isFilled_defaults : IsFilled defaults := by
  have htext (s : String) : IsFilled (.text s) := .leaf (by simp) (by simp)
  have hflag (b : Bool) : IsFilled (.flag b) := .leaf (by simp) (by simp)
  have hwhole (n : Int) : IsFilled (.whole n) := .leaf (by simp) (by simp)
  refine .mapping ?_
  simp only [List.forall_mem_cons, List.not_mem_nil, false_implies, implies_true, and_true]
  refine ⟨.mapping ?_, .mapping ?_, .mapping ?_⟩
  all_goals simp [htext, hflag, hwhole]

theorem IsFilled.ne_null {v : Value} (h : IsFilled v) : v ≠ .null := by
  cases h with
  | mapping values => simp
  | leaf _ not_null => exact not_null

theorem IsFilled.of_findFrom {before path : KeyPath} {document v : Value} (h : IsFilled document)
    (hfind : findFrom before path document = .ok v) : IsFilled v := by
  induction path generalizing before document with
  | nil =>
    obtain rfl := Except.ok.inj hfind
    exact h
  | cons name rest ih =>
    cases h with
    | @mapping entries values =>
      rw [findFrom] at hfind
      split at hfind
      · rename_i inner hinner
        obtain ⟨entry, hentry, rfl⟩ := Entries.exists_mem_of_get?_eq_some hinner
        exact ih (values entry hentry) hfind
      · cases hfind
    | @leaf document not_mapping _ =>
      cases document with
      | mapping entries => exact absurd rfl (not_mapping entries)
      | _ => cases hfind

/-- No value of the embedded document is empty. -/
theorem ne_null_of_find_defaults {path : KeyPath} {v : Value} (hfind : find path defaults = .ok v) :
    v ≠ .null :=
  (isFilled_defaults.of_findFrom hfind).ne_null

/-! ### What a file leaves of it -/

/-- The document under a file: keys that are in lower case stay so. -/
theorem documentOf?_some (text : String) :
    documentOf? (some text) = (Value.read? text).map fun v => merge defaults (lowerKeys v) := by
  unfold documentOf?
  refine congrArg (Option.map · (Value.read? text)) (funext fun v => ?_)
  exact lowerKeys_of_isLowered (isLowered_merge isLowered_defaults (isLowered_lowerKeys v))

/-- A file gives no value at a path: there is none, or it is empty. -/
def GivesNothing (path : KeyPath) (file : Value) : Prop :=
  ∀ v, find path file = .ok v → v = .null ∨ v = .mapping []

/-- A file leaves a path to an embedded value: there are only mappings on the way, up to a key that is
    not there, or up to an empty mapping in the place of an embedded one. -/
def LeavesOpen (path : KeyPath) (embedded file : Value) : Prop :=
  (∃ stop, find path file = .error (.missing stop)) ∨
    find path file = .ok (.mapping []) ∧ ∃ entries, embedded = .mapping entries

theorem merge_nil_eq_self_iff {v : Value} :
    merge v (.mapping []) = v ↔ ∃ entries, v = .mapping entries := by
  cases v <;> simp [merge, mergeEntries]

theorem find_merge_eq_iff {path : KeyPath} {embedded file v : Value} (hfile : IsLowered file)
    (hembedded : find path embedded = .ok v) (hv : v ≠ .null) (hnothing : GivesNothing path file) :
    find path (merge embedded file) = .ok v ↔ LeavesOpen path v file := by
  rw [find_merge hfile hembedded, LeavesOpen]
  cases hfind : find path file with
  | error fault => cases fault <;> simp
  | ok above =>
    rcases hnothing above hfind with rfl | rfl
    · simpa [merge] using hv.symm
    · simp [merge_nil_eq_self_iff]

theorem canSet_merge_iff {path rest : KeyPath} {embedded file value : Value} {entries : Entries}
    (hfile : IsLowered file) (hembedded : find path embedded = .ok (.mapping entries))
    (hnothing : GivesNothing path file) (hrest : rest ≠ []) :
    CanSet (path ++ rest) value (merge embedded file) ↔
      LeavesOpen path (.mapping entries) file ∧ CanSet (path ++ rest) value embedded := by
  have hmerged := find_merge hfile hembedded
  rw [canSet_append_of_findFrom hembedded, LeavesOpen]
  cases hfind : find path file with
  | error fault =>
    rw [hfind] at hmerged
    cases fault with
    | missing stop => simp [canSet_append_of_findFrom hmerged]
    | notMapping stop => simp [not_canSet_of_findFrom hmerged]
  | ok above =>
    rw [hfind] at hmerged
    rcases hnothing above hfind with rfl | rfl
    · rw [canSet_append_of_findFrom hmerged]
      have hrefused : ¬ CanSet rest value .null :=
        not_canSet_of_not_mapping hrest value (by simp)
      simpa [merge] using hrefused
    · rw [canSet_append_of_findFrom hmerged]
      simp [merge, mergeEntries]

/-! ### Reading on a machine -/

theorem overrideAll_of_forall_none {assignments : List (String × String)}
    (hplain : ∀ assignment ∈ assignments, overridePath? assignment.1 = none) (v : Value) :
    overrideAll v assignments = (v, []) := by
  induction assignments with
  | nil => rfl
  | cons first rest ih =>
    rw [List.forall_mem_cons] at hplain
    simp [overrideAll, override, hplain.1, ih hplain.2]

/-- Everything but the reading of a file. -/
def IsNoReading (o : Operation) : Prop :=
  ∀ path, o ≠ .readFile path

open Script

theorem asks_homeDirectory? (e : Environment) :
    Asks IsNoReading (homeDirectory? e : Script (Option String)) := by
  unfold homeDirectory?
  split
  · refine (asks_ask (by simp [IsNoReading])).bind fun isThere => ?_
    exact asks_pure _
  · exact asks_pure _

theorem asks_chooseDirectory (e : Environment) (given : String) :
    Asks IsNoReading (chooseDirectory e given : Script String) := by
  unfold chooseDirectory
  split
  · exact asks_pure _
  · split
    · exact (asks_pure _).bind fun _ => asks_pure _
    · refine (asks_ask (by simp [IsNoReading])).bind fun isThere => ?_
      split
      · exact asks_pure _
      · exact (asks_homeDirectory? e).bind fun _ => asks_pure _

theorem asks_prepareDirectory (path : String) :
    Asks IsNoReading (prepareDirectory path : Script (Except Fault Unit)) := by
  unfold prepareDirectory
  refine (asks_ask (by simp [IsNoReading])).bind fun isThere => ?_
  split
  on_goal 1 =>
    refine (asks_ask (by simp [IsNoReading])).bind fun made => ?_
    split
    · exact asks_pure _
  -- A directory that had to be made is tried like one that was there.
  all_goals
    refine (asks_ask (by simp [IsNoReading])).bind fun isDirectory => ?_
    split
    · exact asks_pure _
    · refine (asks_ask (by simp [IsNoReading])).bind fun written => ?_
      split
      · exact asks_pure _
      · refine (asks_ask (by simp [IsNoReading])).bind fun removed => ?_
        split
        · exact asks_pure _
        · exact asks_pure _

theorem runs_save_ok {s : Settings} {trace : List Exchange}
    (hrun : (s.save : Script (Except Fault Unit)).Runs trace (.ok ())) :
    trace = [⟨.writeFile s.path s.text, .ok ()⟩] := by
  unfold save at hrun
  obtain ⟨_, _, _, rfl, ⟨outcome, _, rfl, rfl, rfl⟩, hrun⟩ := runs_bind.mp hrun
  cases outcome with
  | ok _ =>
    obtain ⟨rfl, -⟩ := hrun
    rfl
  | error fault =>
    obtain ⟨-, hfault⟩ := hrun
    cases hfault

/-- Reading asks for the file and writes what came of it. -/
theorem runs_readDirectory_ok {e : Environment} {directory : String} {trace : List Exchange}
    {s : Settings} (hrun : (readDirectory e directory : Script _).Runs trace (.ok s)) :
    ∃ answer document, trace = [⟨.readFile s.path, answer⟩, ⟨.writeFile s.path s.text, .ok ()⟩] ∧
      documentOf? answer.toOption = some document ∧
      s = ⟨directory, (overrideAll document e.assignments).1⟩ := by
  unfold readDirectory at hrun
  simp only [report_eq, reportAll_eq, pure_bind] at hrun
  obtain ⟨_, _, _, rfl, ⟨answer, _, rfl, rfl, rfl⟩, hrun⟩ := runs_bind.mp hrun
  cases hdocument : documentOf? answer.toOption with
  | none =>
    rw [hdocument] at hrun
    obtain ⟨-, hfault⟩ := hrun
    cases hfault
  | some document =>
    rw [hdocument] at hrun
    obtain ⟨_, saved, _, rfl, hsave, hrun⟩ := runs_bind.mp hrun
    cases saved with
    | ok _ =>
      obtain ⟨rfl, hs⟩ := hrun
      obtain rfl := Except.ok.inj hs
      rw [runs_save_ok hsave]
      exact ⟨answer, document, rfl, hdocument, rfl⟩
    | error fault =>
      obtain ⟨-, hfault⟩ := hrun
      cases hfault

/-- Settings that were read come of the text of their file. -/
theorem documentOf?_of_load {e : Environment} {given : String} {trace : List Exchange}
    {s : Settings} (hrun : (load e given : Script _).Runs trace (.ok s)) :
    ∃ answer document, (∀ other, ⟨.readFile s.path, other⟩ ∈ trace → other = answer) ∧
      documentOf? answer.toOption = some document ∧
      s.document = (overrideAll document e.assignments).1 := by
  unfold load at hrun
  obtain ⟨choosing, directory, _, rfl, hchoose, hrun⟩ := runs_bind.mp hrun
  obtain ⟨preparing, prepared, after, rfl, hprepare, hrun⟩ := runs_bind.mp hrun
  cases prepared with
  | error fault =>
    obtain ⟨-, hfault⟩ := hrun
    cases hfault
  | ok _ =>
    obtain ⟨answer, document, rfl, hdocument, hs⟩ := runs_readDirectory_ok hrun
    refine ⟨answer, document, fun other hother => ?_, hdocument, congrArg Settings.document hs⟩
    simp only [List.mem_append, List.mem_cons, List.not_mem_nil, or_false] at hother
    rcases hother with hother | hother | hother | hother
    · exact absurd rfl (asks_chooseDirectory e given choosing directory hchoose _ hother s.path)
    · exact absurd rfl (asks_prepareDirectory directory preparing _ hprepare _ hother s.path)
    · simpa using hother
    · simp at hother

/-- A value can be given to a path of the settings, if only they can be written. -/
def CanPut (s : Settings) (path : KeyPath) (value : Value) : Prop :=
  ∃ trace s', (s.put path value : Script (Settings × Except Fault Unit)).Runs trace (s', .ok ())

theorem canPut_iff (s : Settings) (path : KeyPath) (value : Value) :
    CanPut s path value ↔ CanSet path value s.document := by
  unfold CanPut CanSet put
  cases set path value s.document with
  | error fault => simp [keep]
  | ok changed =>
    simp only [Except.ok.injEq, exists_eq', iff_true]
    exact ⟨_, _, .ok (), _, rfl, rfl, rfl⟩

/-- Of the embedded values for which the file gives nothing, settings that were read without overrides
    have those and no others that the file leaves open; and where it gives nothing for an embedded
    section, values can be given to paths in there just if it leaves the section open, and if that
    could be done in the embedded document. -/
theorem load_keepsDefaults_iff {e : Environment} {given : String} {trace : List Exchange}
    {s : Settings} {text : String}
    (hplain : ∀ assignment ∈ e.assignments, overridePath? assignment.1 = none)
    (hrun : (load e given : Script (Except Fault Settings)).Runs trace (.ok s))
    (hread : ⟨.readFile s.path, .ok text⟩ ∈ trace) :
    ∃ file, Value.read? text = some file ∧
      (∀ path v, find path defaults = .ok v → GivesNothing path (lowerKeys file) →
        (s.get path = .ok v ↔ LeavesOpen path v (lowerKeys file))) ∧
      ∀ path entries rest value, find path defaults = .ok (.mapping entries) →
        GivesNothing path (lowerKeys file) → rest ≠ [] →
        (CanPut s (path ++ rest) value ↔
          LeavesOpen path (.mapping entries) (lowerKeys file) ∧
            CanSet (path ++ rest) value defaults) := by
  obtain ⟨answer, document, honly, hdocument, hs⟩ := documentOf?_of_load hrun
  obtain rfl := honly _ hread
  rw [overrideAll_of_forall_none hplain] at hs
  rw [Except.toOption, documentOf?_some, Option.map_eq_some_iff] at hdocument
  obtain ⟨file, hfile, rfl⟩ := hdocument
  have hlowered := isLowered_lowerKeys file
  refine ⟨file, hfile, fun path v hfind hnothing => ?_,
    fun path entries rest value hfind hnothing hrest => ?_⟩
  · rw [get, hs]
    exact find_merge_eq_iff hlowered hfind (ne_null_of_find_defaults hfind) hnothing
  · rw [canPut_iff, hs]
    exact canSet_merge_iff hlowered hfind hnothing hrest

/-! ### Two files -/

/-- On a machine on which nothing fails, the settings of a directory can be read if their file can. -/
theorem exists_load {given text : String} (hgiven : given ≠ "") {document : Value}
    (hdocument : documentOf? (some text) = some document) :
    ∃ trace, (load ⟨[]⟩ given : Script (Except Fault Settings)).Runs trace
        (.ok ⟨given, document⟩) ∧
      ⟨.readFile (path ⟨given, document⟩), .ok text⟩ ∈ trace := by
  have hchoose : (chooseDirectory ⟨[]⟩ given : Script String) = pure given := by
    simp [chooseDirectory, hgiven]
  have hprepare : (prepareDirectory given : Script (Except Fault Unit)).Runs
      [⟨.isPresent given, true⟩, ⟨.isDirectory given, true⟩,
        ⟨.writeFile (joinPath given ".write_test") "test", .ok ()⟩,
        ⟨.removeFile (joinPath given ".write_test"), .ok ()⟩] (.ok ()) :=
    ⟨true, _, rfl, true, _, rfl, .ok (), _, rfl, .ok (), _, rfl, rfl, rfl⟩
  have hread : (readDirectory ⟨[]⟩ given : Script (Except Fault Settings)).Runs
      [⟨.readFile (path ⟨given, document⟩), .ok text⟩,
        ⟨.writeFile (path ⟨given, document⟩) (Settings.text ⟨given, document⟩), .ok ()⟩]
      (.ok ⟨given, document⟩) := by
    unfold readDirectory
    simp only [report_eq, reportAll_eq, pure_bind]
    refine runs_bind.mpr ⟨[_], .ok text, _, rfl, ⟨.ok text, [], rfl, rfl, rfl⟩, ?_⟩
    rw [Except.toOption, hdocument]
    exact ⟨.ok (), [], rfl, rfl, rfl⟩
  rw [load, hchoose, pure_bind]
  exact ⟨_, (runs_bind_append hprepare).mpr hread, List.mem_append_right _ (List.mem_cons_self ..)⟩

/-- Why nothing is found. -/
def faultOf : Except SearchFault Value → Option SearchFault
  | .ok _ => none
  | .error fault => some fault

theorem eq_error_of_faultOf {found : Except SearchFault Value} {fault : SearchFault}
    (h : faultOf found = some fault) : found = .error fault := by
  cases found with
  | ok v => cases h
  | error other => rw [Option.some.inj h]

/-- Two places of the embedded document. -/
theorem find_namespace_defaults : find namespacePath defaults = .ok (.text "UPnP") := by
  have hlower := lower_names
  simp only [List.forall_mem_cons] at hlower
  simp [find, findFrom, namespacePath, defaults, Entries.get?_cons, key, hlower, Value.same]

theorem find_log_defaults :
    find ["log"] defaults = .ok (.mapping [(.text "min_level", .text "info")]) := by
  have hlower := lower_names
  simp only [List.forall_mem_cons] at hlower
  simp [find, findFrom, defaults, Entries.get?_cons, key, hlower, Value.same]

/-- A file that gives the language alone, with capitals in its keys. -/
def languageFile : String := "Generator:\n  Language: vb\n"

theorem languageFile_keepsDefaults :
    ∃ trace s, (load ⟨[]⟩ "conf" : Script (Except Fault Settings)).Runs trace (.ok s) ∧
      ⟨.readFile s.path, .ok languageFile⟩ ∈ trace ∧
      s.get namespacePath = .ok (.text "UPnP") ∧ CanPut s levelPath (.text "debug") := by
  have hread : (Value.read? languageFile).map (fun file =>
      [namespacePath, ["log"]].map fun path => faultOf (find path (lowerKeys file))) =
        some [some (.missing namespacePath), some (.missing ["log"])] := by decide +kernel
  obtain ⟨file, hfile, hfaults⟩ := Option.map_eq_some_iff.mp hread
  simp only [List.map_cons, List.map_nil, List.cons.injEq, and_true] at hfaults
  have hnamespace := eq_error_of_faultOf hfaults.1
  have hlog := eq_error_of_faultOf hfaults.2
  have hdocument : documentOf? (some languageFile) = some (merge defaults (lowerKeys file)) := by
    rw [documentOf?_some, hfile, Option.map_some]
  obtain ⟨trace, hrun, hmem⟩ := exists_load (by decide : "conf" ≠ "") hdocument
  obtain ⟨file', hfile', hget, hput⟩ := load_keepsDefaults_iff (by simp) hrun hmem
  obtain rfl := Option.some.inj (hfile.symm.trans hfile')
  refine ⟨trace, _, hrun, hmem, ?_, ?_⟩
  · apply (hget namespacePath _ find_namespace_defaults _).mpr (.inl ⟨_, hnamespace⟩)
    simp [GivesNothing, hnamespace]
  · have hset : CanSet levelPath (.text "debug") defaults := by
      rw [levelPath, ← List.singleton_append, canSet_append_of_findFrom find_log_defaults, canSet_cons]
      exact ⟨_, rfl⟩
    apply (hput ["log"] _ ["min_level"] _ find_log_defaults _ (by simp)).mpr ⟨.inl ⟨_, hlog⟩, hset⟩
    simp [GivesNothing, hlog]

/-- An empty file gives nothing for any path, yet no embedded value is left, and none can be given. -/
theorem emptyFile_losesDefaults :
    ∃ trace s, (load ⟨[]⟩ "conf" : Script (Except Fault Settings)).Runs trace (.ok s) ∧
      ⟨.readFile s.path, .ok ""⟩ ∈ trace ∧
      find namespacePath defaults = .ok (.text "UPnP") ∧
      s.get namespacePath = .error (.notMapping []) ∧
      ∀ value, ¬ CanPut s levelPath value := by
  have hread : (Value.read? "").map (fun file =>
      [namespacePath, ["log"]].map fun path => faultOf (find path (lowerKeys file))) =
        some [some (.notMapping []), some (.notMapping [])] := by decide +kernel
  obtain ⟨file, hfile, hfaults⟩ := Option.map_eq_some_iff.mp hread
  simp only [List.map_cons, List.map_nil, List.cons.injEq, and_true] at hfaults
  have hlowered := isLowered_lowerKeys file
  have hnamespace := find_merge hlowered find_namespace_defaults
  have hlog := find_merge hlowered find_log_defaults
  rw [eq_error_of_faultOf hfaults.1] at hnamespace
  rw [eq_error_of_faultOf hfaults.2] at hlog
  have hdocument : documentOf? (some "") = some (merge defaults (lowerKeys file)) := by
    rw [documentOf?_some, hfile, Option.map_some]
  obtain ⟨trace, hrun, hmem⟩ := exists_load (by decide : "conf" ≠ "") hdocument
  refine ⟨trace, _, hrun, hmem, find_namespace_defaults, hnamespace, fun value => ?_⟩
  rw [canPut_iff, levelPath, ← List.singleton_append]
  exact not_canSet_of_findFrom hlog ["min_level"] value

end ControlPoint.Settings
