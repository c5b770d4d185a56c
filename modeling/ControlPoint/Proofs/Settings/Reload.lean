import Mathlib
import ControlPoint.Proofs.Settings.Load
import ControlPoint.Proofs.Settings.Merging

/-!
Settings that are read once more from the file that was written when they were read. They go over the
embedded document, of which they already hold all that counts.
-/

namespace ControlPoint.Settings

open Yaml Host

/-! ### Keys that are told apart -/

theorem hasDistinctKeys_lowerKey {k : Value} (hk : k.HasDistinctKeys) :
    (lowerKey k).HasDistinctKeys := by
  cases k with
  | text name => exact Value.hasDistinctKeys_of_parts_eq_nil rfl
  | _ => exact hk

theorem hasDistinctKeys_lowerEntries {entries : List (Value × Value)} {done : Entries}
    (hdone : (Value.mapping done).HasDistinctKeys)
    (hentries : ∀ entry ∈ entries, entry.1.HasDistinctKeys ∧ (lowerKeys entry.2).HasDistinctKeys) :
    (Value.mapping (lowerEntries done entries)).HasDistinctKeys := by
  induction entries generalizing done with
  | nil => exact hdone
  | cons entry rest ih =>
    rw [List.forall_mem_cons] at hentries
    rw [lowerEntries]
    refine ih (Entries.hasDistinctKeys_insert hdone ?_ hentries.1.2) hentries.2
    exact hasDistinctKeys_lowerKey hentries.1.1

theorem hasDistinctKeys_lowerKeys {v : Value} (hv : v.HasDistinctKeys) :
    (lowerKeys v).HasDistinctKeys := by
  induction v using Value.parts_induction with
  | h v ih =>
    have hpart {part : Value} (hpart : part ∈ v.parts) : (lowerKeys part).HasDistinctKeys :=
      ih part hpart (hv.of_mem_parts hpart)
    cases v with
    | mapping entries =>
      rw [lowerKeys]
      refine hasDistinctKeys_lowerEntries (Value.hasDistinctKeys_of_parts_eq_nil rfl) ?_
      exact fun entry hentry => ⟨hv.of_mem_parts (Value.key_mem_parts hentry),
        hpart (Value.value_mem_parts hentry)⟩
    | sequence items =>
      rw [lowerKeys, lowerItems_eq, Value.hasDistinctKeys_sequence_iff]
      exact List.forall_mem_map.mpr fun item hitem => hpart hitem
    | _ => exact hv

theorem hasDistinctKeys_text (s : String) : (Value.text s).HasDistinctKeys :=
  Value.hasDistinctKeys_of_parts_eq_nil rfl

theorem hasDistinctKeys_defaults : defaults.HasDistinctKeys := by
  have hflag (b : Bool) : (Value.flag b).HasDistinctKeys :=
    Value.hasDistinctKeys_of_parts_eq_nil rfl
  have hwhole (n : Int) : (Value.whole n).HasDistinctKeys :=
    Value.hasDistinctKeys_of_parts_eq_nil rfl
  simp [defaults, Value.hasDistinctKeys_mapping_iff, hasDistinctKeys_text, hflag, hwhole, Value.same]

/-! ### Reading on a machine -/

/-- Whatever the file says or if there is none, what counts is a document over the embedded one. -/
theorem exists_merge_of_documentOf? {file : Option String} {document : Value}
    (hdocument : documentOf? file = some document) :
    ∃ upper : Value, upper.HasDistinctKeys ∧ document = merge defaults upper := by
  cases file with
  | none =>
    obtain rfl := Option.some.inj hdocument
    refine ⟨.mapping [], Value.hasDistinctKeys_of_parts_eq_nil rfl, ?_⟩
    rw [lowerKeys_of_isLowered isLowered_defaults]
    exact (merge_nil_eq_self_iff.mpr ⟨_, rfl⟩).symm
  | some text =>
    rw [documentOf?_some, Option.map_eq_some_iff] at hdocument
    obtain ⟨v, hv, rfl⟩ := hdocument
    exact ⟨lowerKeys v, hasDistinctKeys_lowerKeys (hasDistinctKeys_of_read? hv), rfl⟩

/-- A document that was read once stays the same when it is read from the text of its own file. -/
theorem documentOf?_again {file : Option String} {document : Value} {text : String}
    (hdocument : documentOf? file = some document) (htext : Value.read? text = some document) :
    documentOf? (some text) = some document := by
  have hlowered := isLowered_of_documentOf? hdocument
  obtain ⟨upper, hupper, rfl⟩ := exists_merge_of_documentOf? hdocument
  rw [documentOf?_some, htext, Option.map_some, lowerKeys_of_isLowered hlowered,
    merge_merge_left hasDistinctKeys_defaults hupper]

open Script

/-- Reading ends with the writing of what came of it. -/
theorem mem_written_of_load {e : Environment} {given : String} {trace : List Exchange}
    {s : Settings} (hrun : (load e given : Script _).Runs trace (.ok s)) :
    (s.path, s.text) ∈ written trace := by
  unfold load at hrun
  obtain ⟨choosing, directory, _, rfl, -, hrun⟩ := runs_bind.mp hrun
  obtain ⟨preparing, prepared, after, rfl, -, hrun⟩ := runs_bind.mp hrun
  cases prepared with
  | error fault =>
    obtain ⟨-, hfault⟩ := hrun
    cases hfault
  | ok _ =>
    obtain ⟨answer, document, rfl, -, -⟩ := runs_readDirectory_ok hrun
    simp [written, Exchange.written?]

theorem documentOf?_of_plain_load {e : Environment} {given : String} {trace : List Exchange}
    {s : Settings} (hplain : ∀ assignment ∈ e.assignments, overridePath? assignment.1 = none)
    (hrun : (load e given : Script _).Runs trace (.ok s)) :
    ∃ answer, (∀ other, ⟨.readFile s.path, other⟩ ∈ trace → other = answer) ∧
      documentOf? answer.toOption = some s.document := by
  obtain ⟨answer, document, honly, hdocument, hs⟩ := documentOf?_of_load hrun
  rw [overrideAll_of_forall_none hplain] at hs
  exact ⟨answer, honly, hs ▸ hdocument⟩

/-- One document over another has the values of the upper one and keeps what that says nothing about, in
    the order of the lower one, and merging it with either of the two changes nothing. So settings
    without overrides are the same again when they are read from the text that was written for them,
    as far as the text stands for the document of which it was made. -/
theorem merge_isOverlay_and_load_again {lower upper : Value} (hlower : lower.HasDistinctKeys)
    (hupper : upper.HasDistinctKeys) :
    IsOverlay lower upper (merge lower upper) ∧
      ∀ (e e' : Environment) (given given' : String) (trace trace' : List Exchange)
        (s s' : Settings),
        (∀ assignment ∈ e.assignments, overridePath? assignment.1 = none) →
        (∀ assignment ∈ e'.assignments, overridePath? assignment.1 = none) →
        (load e given : Script (Except Fault Settings)).Runs trace (.ok s) →
        (load e' given' : Script (Except Fault Settings)).Runs trace' (.ok s') →
        ⟨.readFile s'.path, .ok s.text⟩ ∈ trace' →
        Value.read? s.text = some s.document →
          (s.path, s.text) ∈ written trace ∧ s'.document = s.document := by
  refine ⟨merge_isOverlay hlower hupper, ?_⟩
  intro e e' given given' trace trace' s s' hplain hplain' hrun hrun' hread htext
  refine ⟨mem_written_of_load hrun, ?_⟩
  obtain ⟨answer, -, hdocument⟩ := documentOf?_of_plain_load hplain hrun
  obtain ⟨answer', honly, hdocument'⟩ := documentOf?_of_plain_load hplain' hrun'
  obtain rfl := honly _ hread
  exact Option.some.inj (hdocument'.symm.trans (documentOf?_again hdocument htext))

/-- What a file says that gives the language alone. -/
def languageSection : Value :=
  .mapping [(.text "generator", .mapping [(.text "language", .text "vb")])]

/-- Reading the file with the language, then what was written. -/
theorem languageSection_load_again :
    IsOverlay defaults languageSection (merge defaults languageSection) ∧
      ∃ trace trace' s s', (load ⟨[]⟩ "conf" : Script (Except Fault Settings)).Runs trace (.ok s) ∧
        ⟨.readFile s.path, .ok languageFile⟩ ∈ trace ∧
        (load ⟨[]⟩ "conf" : Script (Except Fault Settings)).Runs trace' (.ok s') ∧
        ⟨.readFile s'.path, .ok s.text⟩ ∈ trace' ∧ (s.path, s.text) ∈ written trace ∧
        s.document = merge defaults languageSection ∧ s'.document = s.document := by
  have hsection : languageSection.HasDistinctKeys := by
    simp [languageSection, Value.hasDistinctKeys_mapping_iff, hasDistinctKeys_text]
  have hfile : documentOf? (some languageFile) = some (merge defaults languageSection) := by
    decide +kernel
  have htext : Value.read? (text ⟨"conf", merge defaults languageSection⟩) =
      some (merge defaults languageSection) := by decide +kernel
  obtain ⟨trace, hrun, hread⟩ := exists_load (by decide : "conf" ≠ "") hfile
  obtain ⟨trace', hrun', hread'⟩ :=
    exists_load (by decide : "conf" ≠ "") (documentOf?_again hfile htext)
  obtain ⟨hoverlay, hagain⟩ := merge_isOverlay_and_load_again hasDistinctKeys_defaults hsection
  obtain ⟨hwritten, hsame⟩ := hagain _ _ _ _ _ _ _ _ (by simp) (by simp) hrun hrun' hread' htext
  exact ⟨hoverlay, trace, trace', _, _, hrun, hread, hrun', hread', hwritten, rfl, hsame⟩

end ControlPoint.Settings
