import ControlPoint.Markup.Token

/-!
A document token by token, for readers that ask for one token at a time. Characters are gathered
until a tag comes; what was gathered is handed out first, and the tag waits for the next call.
-/

namespace ControlPoint.Markup

/-- A document that is being scanned: the events to come with how the reading ends behind them, the
    characters gathered since the last tag, and a tag that waits behind the text before it. -/
structure Scanner where
  rest : List (Event × Nat)
  ending : Except (Nat × Fault) Nat
  gathered : List Char
  queued : Option (Token × Nat)

namespace Scanner

/-- A scanner at the start of a reading. -/
def ofReading (reading : Reading) : Scanner :=
  ⟨reading.events, reading.ending, [], none⟩

/-- The next token of the events, with the offset at which it is known to be complete, and what is
    left; no token at the end of the document. -/
def nextOf (ending : Except (Nat × Fault) Nat) (gathered : List Char) :
    List (Event × Nat) → Except (Nat × Fault) (Option (Token × Nat) × Scanner)
  | [] =>
    match ending with
    | .ok stop => .ok ((textToken gathered).head?.map (·, stop), ⟨[], .ok stop, [], none⟩)
    | .error fault => .error fault
  | (event, stop) :: rest =>
    match event.content with
    | .error fault => .error (stop, fault)
    | .ok .nothing => nextOf ending gathered rest
    | .ok (.chars cs) => nextOf ending (gathered ++ cs) rest
    | .ok (.tag token) =>
      match textToken gathered with
      | [] => .ok (some (token, stop), ⟨rest, ending, [], none⟩)
      | text :: _ => .ok (some (text, stop), ⟨rest, ending, [], some (token, stop)⟩)

/-- The next token: the one that waits, or else the next of the events. -/
def next (s : Scanner) : Except (Nat × Fault) (Option (Token × Nat) × Scanner) :=
  match s.queued with
  | some token => .ok (some token, { s with queued := none })
  | none => nextOf s.ending s.gathered s.rest

/-- The answers to a number of calls one after another. -/
def answers : (calls : Nat) → Scanner → Except (Nat × Fault) (List (Option (Token × Nat)))
  | 0, _ => .ok []
  | calls + 1, s =>
    match s.next with
    | .error fault => .error fault
    | .ok (token, after) => (answers calls after).map (token :: ·)

end Scanner

end ControlPoint.Markup
