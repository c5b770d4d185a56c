import Mathlib
import ControlPoint.Proofs.Lists
import ControlPoint.Proofs.Markup.Nesting
import ControlPoint.Proofs.Text.Trim

namespace ControlPoint.Markup

open Text

/-- The name of an element without what qualifies it. -/
def plainName (name : List Char) : String :=
  String.ofList (localName name)

theorem addAttributes_name {total fuel offset : Nat} {seen : List RawAttribute} {cs : List Char}
    {e e' : Element} (hadd : addAttributes total fuel seen offset cs e = .ok e') :
    e'.name = e.name := by
  induction fuel generalizing seen offset cs e with
  | zero =>
    cases hadd
    rfl
  | succ fuel ih =>
    rw [addAttributes] at hadd
    split at hadd
    · cases hadd
    · cases hadd
      rfl
    · split at hadd
      · cases hadd
      · exact (ih hadd).trans rfl

theorem ofTag_name {inside : List Char} {e : Element} (htag : Element.ofTag inside = .ok e) :
    e.name = plainName (tagName inside) :=
  addAttributes_name htag

/-! ### Events -/

/-- What an event does to the names of the open elements: a start tag opens an element, a close tag
    closes the innermost one by its name, and nothing else opens or closes any. -/
def Event.Leads (opened after : List (List Char)) : Event → Prop
  | .start inside => after = tagName inside :: opened
  | .close name => opened = name :: after
  | _ => after = opened

/-- A step that leads to an event does to the open names what the event does. -/
def Step.Leads (opened : List (List Char)) (s : Step) : Prop :=
  ∀ e after, s = .event e after → e.Leads opened after.opened

theorem closeStep_leads (place : Cursor) (tail : List Char) :
    (closeStep place tail).Leads place.opened := by
  intro e after hstep
  rw [closeStep] at hstep
  split at hstep
  case h_1 => cases hstep
  case h_2 inside rest _ =>
    dsimp only at hstep
    generalize (if List.isEmpty _ = true then inside else _) = name at hstep
    cases hopened : place.opened with
    | nil =>
      rw [hopened] at hstep
      cases hstep
    | cons expected opened =>
      rw [hopened] at hstep
      dsimp only at hstep
      split at hstep
      case isTrue hname =>
        cases hstep
        rw [Event.Leads, hname]
      case isFalse => cases hstep

theorem openStep_leads (place : Cursor) (tail : List Char) :
    (openStep place tail).Leads place.opened := by
  intro e after hstep
  rw [openStep] at hstep
  split at hstep
  · cases hstep
  · dsimp only at hstep
    split at hstep <;> cases hstep <;> rfl

theorem doctypeStep_leads (place : Cursor) (tail : List Char) :
    (doctypeStep place tail).Leads place.opened := by
  intro e after hstep
  rw [doctypeStep] at hstep
  split at hstep
  · cases hstep
  · dsimp only at hstep
    split at hstep
    · split at hstep <;> cases hstep
      rfl
    · cases hstep

theorem declarationStep_leads (place : Cursor) (tail : List Char) :
    (declarationStep place tail).Leads place.opened := by
  unfold declarationStep
  split
  case h_3 | h_4 => exact doctypeStep_leads place _
  case h_5 =>
    intro e after hstep
    cases hstep
  all_goals
    intro e after hstep
    split at hstep
    · cases hstep
    · split at hstep
      · cases hstep
      · cases hstep
        rfl

theorem instructionStep_leads (place : Cursor) (tail : List Char) :
    (instructionStep place tail).Leads place.opened := by
  intro e after hstep
  unfold instructionStep at hstep
  split at hstep
  · cases hstep
  · split at hstep <;> cases hstep
    rfl

theorem referenceStep_leads (place : Cursor) (tail : List Char) :
    (referenceStep place tail).Leads place.opened := by
  intro e after hstep
  unfold referenceStep at hstep
  dsimp only at hstep
  split at hstep <;> cases hstep
  rfl

theorem step_leads (place : Cursor) : place.step.Leads place.opened := by
  unfold Cursor.step
  split
  · intro e after hstep
    cases hstep
  · exact declarationStep_leads place _
  · exact instructionStep_leads place _
  · exact closeStep_leads place _
  · exact openStep_leads place _
  · exact referenceStep_leads place _
  · intro e after hstep
    cases hstep
    rfl

/-! ### Tokens -/

/-- The content of an event does to the open names what the event does. -/
theorem Event.Leads.content {opened after : List (List Char)} {e : Event} {content : Content}
    (hleads : e.Leads opened after) (hcontent : e.content = .ok content) :
    match content with
    | .tag token => token.nest? (opened.map plainName) = some (after.map plainName)
    | _ => after = opened := by
  cases e with
  | start inside =>
    obtain ⟨element, htag, rfl⟩ := exists_of_map_eq_ok hcontent
    rw [show after = _ from hleads, List.map_cons, ← ofTag_name htag]
    rfl
  | empty inside =>
    obtain ⟨element, -, rfl⟩ := exists_of_map_eq_ok hcontent
    rw [show after = _ from hleads]
    rfl
  | close name =>
    cases hcontent
    rw [show opened = _ from hleads, List.map_cons]
    exact if_pos rfl
  | reference name =>
    obtain ⟨chars, -, rfl⟩ := exists_of_map_eq_ok hcontent
    exact hleads
  | _ =>
    cases hcontent
    exact hleads

theorem openNames?_textToken_append (opened : List String) (gathered : List Char)
    (rest : List Token) :
    openNames? opened (textToken gathered ++ rest) = openNames? opened rest := by
  unfold textToken
  split <;> rfl

/-- The tokens of a reading, whatever was gathered before, close only what is open where the reading
    starts or what they open themselves. -/
theorem openNames?_readAll (fuel : Nat) (place : Cursor) (gathered : List Char) :
    ∃ final, openNames? (place.opened.map plainName)
      ((Scan.ofEvents gathered (Cursor.readAll fuel place).ending
        (Cursor.readAll fuel place).events).tokens.map Prod.fst) = some final := by
  induction fuel generalizing place gathered with
  | zero =>
    refine ⟨place.opened.map plainName, ?_⟩
    simpa [Cursor.readAll, Scan.ofEvents, Function.comp_def] using
      openNames?_textToken_append (place.opened.map plainName) gathered []
  | succ fuel ih =>
    rw [Cursor.readAll]
    cases hstep : place.step with
    | finished =>
      refine ⟨place.opened.map plainName, ?_⟩
      simpa [Scan.ofEvents, Function.comp_def] using
        openNames?_textToken_append (place.opened.map plainName) gathered []
    | fault position fault => exact ⟨place.opened.map plainName, rfl⟩
    | event e after =>
      have hleads := step_leads place e after hstep
      dsimp only
      rw [Scan.ofEvents]
      cases hcontent : e.content with
      | error fault => exact ⟨place.opened.map plainName, rfl⟩
      | ok content =>
        have hnest := hleads.content hcontent
        cases content with
        | tag token =>
          obtain ⟨final, hfinal⟩ := ih after []
          refine ⟨final, ?_⟩
          rw [List.map_append, List.map_map, show Prod.fst ∘ _ = id from rfl, List.map_id,
            List.append_assoc, openNames?_textToken_append, List.singleton_append, openNames?_cons,
            show token.nest? _ = _ from hnest, Option.bind_some]
          exact hfinal
        | chars cs =>
          rw [← show after.opened = _ from hnest]
          exact ih after (gathered ++ cs)
        | nothing =>
          rw [← show after.opened = _ from hnest]
          exact ih after gathered

/-- The scan of the characters of a document. -/
def Scan.ofChars (cs : List Char) : Scan :=
  let content := match cs with
    | '\uFEFF' :: rest => rest
    | cs => cs
  let reading := Cursor.readAll (content.length + 1) ⟨content, 0, []⟩
  Scan.ofEvents [] reading.ending reading.events

theorem Scan.ofDocument_ofList (cs : List Char) :
    Scan.ofDocument (String.ofList cs) = Scan.ofChars cs := by
  simp only [ofDocument, Reading.ofDocument, withoutMark, String.toList_ofList]
  rfl

/-- The tokens of a document close only what is open. -/
theorem openNames?_ofDocument (document : String) :
    ∃ final, openNames? [] ((Scan.ofDocument document).tokens.map Prod.fst) = some final :=
  openNames?_readAll _ ⟨withoutMark document, 0, []⟩ []

/-! ### Texts -/

/-- A text is cut of white space at both ends. -/
def Token.IsTrimmed : Token → Prop
  | .text s => trim s = s
  | _ => True

theorem isTrimmed_textToken (gathered : List Char) :
    ∀ token ∈ textToken gathered, token.IsTrimmed := by
  unfold textToken
  split
  case h_1 => simp
  case h_2 =>
    rw [List.forall_mem_singleton, Token.IsTrimmed, trim_ofList, trimChars_trimChars]

/-- The token of an event is a tag. -/
theorem Event.isText_of_content {e : Event} {token : Token}
    (hcontent : e.content = .ok (.tag token)) : token.isText = false := by
  cases e with
  | start inside | empty inside =>
    obtain ⟨element, -, htag⟩ := exists_of_map_eq_ok hcontent
    cases htag
    rfl
  | reference name =>
    obtain ⟨chars, -, htag⟩ := exists_of_map_eq_ok hcontent
    cases htag
  | close name =>
    cases hcontent
    rfl
  | _ => cases hcontent

theorem isTrimmed_of_isText {token : Token} (htoken : token.isText = false) :
    token.IsTrimmed := by
  cases token with
  | text s => cases htoken
  | _ => trivial

theorem isTrimmed_ofEvents (gathered : List Char) (ending : Except (Nat × Fault) Nat)
    (events : List (Event × Nat)) :
    ∀ token ∈ (Scan.ofEvents gathered ending events).tokens.map Prod.fst, token.IsTrimmed := by
  induction events generalizing gathered with
  | nil =>
    cases ending with
    | error fault => simp [Scan.ofEvents]
    | ok stop => simpa [Scan.ofEvents] using isTrimmed_textToken gathered
  | cons first rest ih =>
    obtain ⟨event, stop⟩ := first
    rw [Scan.ofEvents]
    cases hcontent : event.content with
    | error fault => simp
    | ok content =>
      cases content with
      | nothing => exact ih gathered
      | chars cs => exact ih (gathered ++ cs)
      | tag token =>
        have htag := isTrimmed_of_isText (Event.isText_of_content hcontent)
        rw [List.map_append, List.map_map, List.forall_mem_append]
        refine ⟨?_, ih []⟩
        simpa [or_imp, forall_and, htag] using isTrimmed_textToken gathered

/-- The texts of a document are cut of white space at both ends. -/
theorem isTrimmed_ofDocument (document : String) :
    ∀ token ∈ (Scan.ofDocument document).tokens.map Prod.fst, token.IsTrimmed :=
  isTrimmed_ofEvents [] _ _

end ControlPoint.Markup
