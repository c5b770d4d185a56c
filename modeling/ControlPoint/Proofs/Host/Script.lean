import Mathlib
import ControlPoint.Host.Basic

/-!
Runs on any machine at all. A program becomes the tree of what it asks, and each path through the
tree is a run: what was asked and answered, in order, and the result. Reports are not asked for, so
they leave no trace.
-/

namespace ControlPoint.Host

/-- What a program can ask of a machine. -/
inductive Operation
  | realPath (path : String)
  | isPresent (path : String)
  | isDirectory (path : String)
  | readFile (path : String)
  | makeDirectories (path : String)
  | writeFile (path text : String)
  | removeFile (path : String)
  | send (request : Http.Request)

/-- What a machine can answer. -/
@[reducible] def Operation.Answer : Operation → Type
  | realPath _ | readFile _ => Except Fault String
  | isPresent _ | isDirectory _ => Bool
  | makeDirectories _ | writeFile _ _ | removeFile _ => Except Fault Unit
  | send _ => Option Http.Response

/-- Something that was asked, and the answer. -/
structure Exchange where
  operation : Operation
  answer : operation.Answer

/-- An answer, whatever was asked. -/
inductive Reply
  | text (answer : Except Fault String)
  | truth (answer : Bool)
  | outcome (answer : Except Fault Unit)
  | response (answer : Option Http.Response)
  deriving DecidableEq

/-- An answer as it is without the question. -/
def Operation.reply : (o : Operation) → o.Answer → Reply
  | realPath _, answer | readFile _, answer => .text answer
  | isPresent _, answer | isDirectory _, answer => .truth answer
  | makeDirectories _, answer | writeFile _ _, answer | removeFile _, answer => .outcome answer
  | send _, answer => .response answer

theorem Operation.reply_injective (o : Operation) : Function.Injective o.reply := by
  intro a b h
  cases o <;> simpa [reply] using h

def Exchange.reply (e : Exchange) : Reply :=
  e.operation.reply e.answer

/-- The file that was written, with its text. -/
def Exchange.written? : Exchange → Option (String × String)
  | ⟨.writeFile path text, .ok _⟩ => some (path, text)
  | _ => none

/-- The files that were written, in order. -/
def written (trace : List Exchange) : List (String × String) :=
  trace.filterMap Exchange.written?

@[simp] theorem written_nil : written [] = [] := rfl

@[simp] theorem written_append (before after : List Exchange) :
    written (before ++ after) = written before ++ written after :=
  List.filterMap_append

/-- A program as the tree of what it asks. -/
inductive Script (α : Type)
  | done (result : α)
  | ask (operation : Operation) (next : operation.Answer → Script α)

namespace Script

variable {α β : Type}

/-- One program after another. -/
def bind : Script α → (α → Script β) → Script β
  | done a, f => f a
  | ask o next, f => ask o fun answer => bind (next answer) f

instance : Monad Script where
  pure := done
  bind := bind

theorem bind_done (x : Script α) : bind x done = x := by
  induction x with
  | done a => rfl
  | ask o next ih => exact congrArg (ask o) (funext ih)

theorem bind_assoc {γ : Type} (x : Script α) (f : α → Script β) (g : β → Script γ) :
    bind (bind x f) g = bind x fun a => bind (f a) g := by
  induction x with
  | done a => rfl
  | ask o next ih => exact congrArg (ask o) (funext ih)

instance : LawfulMonad Script :=
  LawfulMonad.mk' Script bind_done (fun _ _ => rfl) bind_assoc

instance : Host Script where
  realPath path := ask (.realPath path) done
  isPresent path := ask (.isPresent path) done
  isDirectory path := ask (.isDirectory path) done
  readFile path := ask (.readFile path) done
  makeDirectories path := ask (.makeDirectories path) done
  writeFile path text := ask (.writeFile path text) done
  removeFile path := ask (.removeFile path) done
  send request := ask (.send request) done
  report _ := done ()

/-- The program can run through the trace to the result. -/
def Runs : Script α → List Exchange → α → Prop
  | done a, trace, result => trace = [] ∧ a = result
  | ask o next, trace, result =>
    ∃ answer rest, trace = ⟨o, answer⟩ :: rest ∧ (next answer).Runs rest result

@[simp] theorem runs_pure {a result : α} {trace : List Exchange} :
    (pure a : Script α).Runs trace result ↔ trace = [] ∧ a = result :=
  Iff.rfl

theorem runs_bind {x : Script α} {f : α → Script β} {trace : List Exchange} {result : β} :
    (x >>= f).Runs trace result ↔
      ∃ before a after, trace = before ++ after ∧ x.Runs before a ∧ (f a).Runs after result := by
  induction x generalizing trace with
  | done a =>
    constructor
    · intro h
      exact ⟨[], a, trace, rfl, ⟨rfl, rfl⟩, h⟩
    · rintro ⟨_, _, after, rfl, ⟨rfl, rfl⟩, h⟩
      exact h
  | ask o next ih =>
    constructor
    · rintro ⟨answer, rest, rfl, h⟩
      obtain ⟨before, a, after, rfl, hx, hf⟩ := (ih answer).mp h
      exact ⟨_, a, after, rfl, ⟨answer, before, rfl, hx⟩, hf⟩
    · rintro ⟨_, a, after, rfl, ⟨answer, before, rfl, hx⟩, hf⟩
      exact ⟨answer, before ++ after, rfl, (ih answer).mpr ⟨before, a, after, rfl, hx, hf⟩⟩

theorem runs_map {x : Script α} {f : α → β} {trace : List Exchange} {result : β} :
    (f <$> x).Runs trace result ↔ ∃ a, x.Runs trace a ∧ f a = result := by
  rw [← bind_pure_comp, runs_bind]
  constructor
  · rintro ⟨_, a, _, rfl, hx, rfl, hresult⟩
    exact ⟨a, by rwa [List.append_nil], hresult⟩
  · rintro ⟨a, hx, hresult⟩
    exact ⟨trace, a, [], by rw [List.append_nil], hx, rfl, hresult⟩

/-- The answers determine the run: two runs that begin with the same answers are one as far as the
    program goes. -/
theorem Runs.determined {x : Script α} {trace trace' rest rest' : List Exchange} {a a' : α}
    (h : x.Runs trace a) (h' : x.Runs trace' a')
    (hreplies : (trace ++ rest).map Exchange.reply = (trace' ++ rest').map Exchange.reply) :
    trace = trace' ∧ a = a' ∧ rest.map Exchange.reply = rest'.map Exchange.reply := by
  induction x generalizing trace trace' with
  | done b =>
    obtain ⟨rfl, rfl⟩ := h
    obtain ⟨rfl, rfl⟩ := h'
    exact ⟨rfl, rfl, hreplies⟩
  | ask o next ih =>
    obtain ⟨answer, trace, rfl, h⟩ := h
    obtain ⟨answer', trace', rfl, h'⟩ := h'
    simp only [List.cons_append, List.map_cons, List.cons.injEq] at hreplies
    obtain rfl := o.reply_injective hreplies.1
    obtain ⟨rfl, ha, hrest⟩ := ih answer h h' hreplies.2
    exact ⟨rfl, ha, hrest⟩

/-- The same answers lead to the same result. -/
theorem Runs.eq_of_replies {x : Script α} {trace trace' : List Exchange} {a a' : α}
    (h : x.Runs trace a) (h' : x.Runs trace' a')
    (hreplies : trace.map Exchange.reply = trace'.map Exchange.reply) :
    trace = trace' ∧ a = a' := by
  rw [← List.append_nil trace, ← List.append_nil trace'] at hreplies
  obtain ⟨htrace, ha, -⟩ := h.determined h' hreplies
  exact ⟨htrace, ha⟩

/-- After the first program has run, it is the second one's turn. -/
theorem runs_bind_append {x : Script α} {f : α → Script β} {before after : List Exchange} {a : α}
    {result : β} (hx : x.Runs before a) :
    (x >>= f).Runs (before ++ after) result ↔ (f a).Runs after result := by
  constructor
  · intro hrun
    obtain ⟨before', a', after', htrace, hx', hf⟩ := runs_bind.mp hrun
    obtain ⟨rfl, rfl, -⟩ := hx.determined hx' (congrArg (List.map Exchange.reply) htrace)
    rwa [List.append_cancel_left htrace]
  · intro hf
    exact runs_bind.mpr ⟨before, a, after, rfl, hx, hf⟩

/-- The run on a machine that always gives the same answer to the same question. -/
def perform (answer : (o : Operation) → o.Answer) : Script α → List Exchange × α
  | done a => ([], a)
  | ask o next =>
    let run := perform answer (next (answer o))
    (⟨o, answer o⟩ :: run.1, run.2)

theorem runs_perform (answer : (o : Operation) → o.Answer) (x : Script α) :
    x.Runs (x.perform answer).1 (x.perform answer).2 := by
  induction x with
  | done a => exact ⟨rfl, rfl⟩
  | ask o next ih => exact ⟨answer o, _, rfl, ih (answer o)⟩

/-- Whatever a machine answers, a program has a run there. -/
theorem exists_runs (x : Script α) : ∃ trace a, x.Runs trace a := by
  have hanswer (o : Operation) : Nonempty o.Answer := by
    cases o
    case isPresent | isDirectory => exact ⟨true⟩
    case send => exact ⟨none⟩
    case realPath | readFile => exact ⟨.ok ""⟩
    case makeDirectories | writeFile | removeFile => exact ⟨.ok ()⟩
  exact ⟨_, _, x.runs_perform fun o => (hanswer o).some⟩

/-- The program writes no file. -/
def IsQuiet (x : Script α) : Prop :=
  ∀ trace a, x.Runs trace a → written trace = []

theorem isQuiet_pure (a : α) : IsQuiet (pure a) := by
  rintro _ _ ⟨rfl, -⟩
  rfl

theorem IsQuiet.bind {x : Script α} {f : α → Script β} (hx : x.IsQuiet)
    (hf : ∀ a, (f a).IsQuiet) : (x >>= f).IsQuiet := by
  intro trace b h
  obtain ⟨before, a, after, rfl, hbefore, hafter⟩ := runs_bind.mp h
  rw [written_append, hx before a hbefore, hf a after b hafter, List.append_nil]

theorem isQuiet_ask {o : Operation} {next : o.Answer → Script α}
    (ho : ∀ answer, Exchange.written? ⟨o, answer⟩ = none)
    (hnext : ∀ answer, (next answer).IsQuiet) : (ask o next).IsQuiet := by
  rintro _ a ⟨answer, rest, rfl, hrest⟩
  rw [written, List.filterMap_cons_none (ho answer)]
  exact hnext answer rest a hrest

/-- All that the program asks for is of a sort. -/
def Asks (P : Operation → Prop) (x : Script α) : Prop :=
  ∀ trace a, x.Runs trace a → ∀ exchange ∈ trace, P exchange.operation

theorem asks_pure {P : Operation → Prop} (a : α) : Asks P (pure a) := by
  rintro _ _ ⟨rfl, -⟩
  simp

theorem Asks.bind {P : Operation → Prop} {x : Script α} {f : α → Script β} (hx : x.Asks P)
    (hf : ∀ a, (f a).Asks P) : (x >>= f).Asks P := by
  intro trace b hrun
  obtain ⟨before, a, after, rfl, hbefore, hafter⟩ := runs_bind.mp hrun
  rw [List.forall_mem_append]
  exact ⟨hx before a hbefore, hf a after b hafter⟩

theorem asks_ask {P : Operation → Prop} {o : Operation} (ho : P o) :
    Asks P (ask o done : Script o.Answer) := by
  rintro _ a ⟨answer, _, rfl, rfl, -⟩
  simpa using ho

/-- What holds at first and is kept by every step holds at the end of a run. -/
theorem runs_foldlM_invariant {P : List Exchange → β → Prop} {step : β → α → Script β}
    {items : List α} (hstep : ∀ a ∈ items, ∀ before b trace b', P before b →
      (step b a).Runs trace b' → P (before ++ trace) b')
    {before trace : List Exchange} {b b' : β} (hb : P before b)
    (hrun : (items.foldlM step b).Runs trace b') : P (before ++ trace) b' := by
  induction items generalizing before trace b with
  | nil =>
    obtain ⟨rfl, rfl⟩ := hrun
    rwa [List.append_nil]
  | cons a rest ih =>
    rw [List.forall_mem_cons] at hstep
    rw [List.foldlM_cons] at hrun
    obtain ⟨first, next, others, rfl, hnext, hrest⟩ := runs_bind.mp hrun
    rw [← List.append_assoc]
    exact ih hstep.2 (hstep.1 before b first next hb hnext) hrest

/-! ### Programs that may fail -/

section Failing

variable {ε : Type}

theorem runs_run_bind {x : ExceptT ε Script α} {f : α → ExceptT ε Script β} {trace : List Exchange}
    {result : Except ε β} :
    (x >>= f).run.Runs trace result ↔
      (∃ before a after, trace = before ++ after ∧ x.run.Runs before (.ok a) ∧
        (f a).run.Runs after result) ∨
      ∃ e, x.run.Runs trace (.error e) ∧ result = .error e := by
  rw [ExceptT.run_bind, runs_bind]
  constructor
  · rintro ⟨before, found, after, rfl, hx, hf⟩
    cases found with
    | ok a => exact .inl ⟨before, a, after, rfl, hx, hf⟩
    | error e =>
      obtain ⟨rfl, rfl⟩ := hf
      exact .inr ⟨e, by rwa [List.append_nil], rfl⟩
  · rintro (⟨before, a, after, rfl, hx, hf⟩ | ⟨e, hx, rfl⟩)
    · exact ⟨before, .ok a, after, rfl, hx, hf⟩
    · exact ⟨trace, .error e, [], by rw [List.append_nil], hx, rfl, rfl⟩

theorem runs_run_bind_ok {x : ExceptT ε Script α} {f : α → ExceptT ε Script β}
    {trace : List Exchange} {b : β} :
    (x >>= f).run.Runs trace (.ok b) ↔
      ∃ before a after, trace = before ++ after ∧ x.run.Runs before (.ok a) ∧
        (f a).run.Runs after (.ok b) := by
  rw [runs_run_bind]
  simp only [reduceCtorEq, and_false, exists_false, or_false]

theorem runs_run_bind_append {x : ExceptT ε Script α} {f : α → ExceptT ε Script β}
    {before after : List Exchange} {a : α} {result : Except ε β} (hx : x.run.Runs before (.ok a)) :
    (x >>= f).run.Runs (before ++ after) result ↔ (f a).run.Runs after result := by
  rw [ExceptT.run_bind, runs_bind_append hx]

theorem IsQuiet.run_bind {x : ExceptT ε Script α} {f : α → ExceptT ε Script β}
    (hx : x.run.IsQuiet) (hf : ∀ a, (f a).run.IsQuiet) : (x >>= f).run.IsQuiet := by
  intro trace result hrun
  rcases runs_run_bind.mp hrun with ⟨before, a, after, rfl, hbefore, hafter⟩ | ⟨e, hbefore, -⟩
  · rw [written_append, hx before _ hbefore, hf a after _ hafter, List.append_nil]
  · exact hx trace _ hbefore

/-- What a program writes after a quiet one is all that is written. -/
theorem IsQuiet.of_run_bind {x : ExceptT ε Script α} {f : α → ExceptT ε Script β}
    {trace : List Exchange} {result : Except ε β} (hx : x.run.IsQuiet)
    (hrun : (x >>= f).run.Runs trace result) :
    ((∃ e, result = .error e) ∧ written trace = []) ∨
      ∃ before a after, x.run.Runs before (.ok a) ∧ (f a).run.Runs after result ∧
        written trace = written after := by
  rcases runs_run_bind.mp hrun with ⟨before, a, after, rfl, hbefore, hafter⟩ | ⟨e, hbefore, rfl⟩
  · refine .inr ⟨before, a, after, hbefore, hafter, ?_⟩
    rw [written_append, hx before _ hbefore, List.nil_append]
  · exact .inl ⟨⟨e, rfl⟩, hx trace _ hbefore⟩

theorem isQuiet_run_pure (a : α) : (pure a : ExceptT ε Script α).run.IsQuiet :=
  isQuiet_pure _

theorem isQuiet_run_throw (e : ε) : (throw e : ExceptT ε Script α).run.IsQuiet :=
  isQuiet_pure _

theorem run_adapt_eq {δ : Type} (x : ExceptT ε Script α) (f : ε → δ) :
    (x.adapt f).run = x.run >>= fun found => pure (found.mapError f) :=
  (bind_pure_comp _ _).symm

theorem runs_run_adapt_ok {δ : Type} {x : ExceptT ε Script α} {f : ε → δ} {trace : List Exchange}
    {a : α} : (x.adapt f).run.Runs trace (.ok a) ↔ x.run.Runs trace (.ok a) := by
  rw [run_adapt_eq, runs_bind]
  constructor
  · rintro ⟨before, found, after, rfl, hx, rfl, hfound⟩
    cases found with
    | ok b =>
      obtain rfl := Except.ok.inj hfound
      rwa [List.append_nil]
    | error e => cases hfound
  · intro hx
    exact ⟨trace, .ok a, [], by rw [List.append_nil], hx, rfl, rfl⟩

theorem IsQuiet.run_adapt {δ : Type} {x : ExceptT ε Script α} (hx : x.run.IsQuiet) (f : ε → δ) :
    (x.adapt f).run.IsQuiet := by
  rw [run_adapt_eq]
  exact hx.bind fun _ => isQuiet_pure _

theorem isQuiet_run_mapM {f : α → ExceptT ε Script β} (hf : ∀ a, (f a).run.IsQuiet)
    (items : List α) : (items.mapM f).run.IsQuiet := by
  induction items with
  | nil => exact isQuiet_run_pure []
  | cons a rest ih =>
    rw [List.mapM_cons]
    exact (hf a).run_bind fun b => ih.run_bind fun bs => isQuiet_run_pure _

end Failing

/-- Reports leave no trace. -/
theorem report_eq (entry : Log.Entry) : (report entry : Script Unit) = pure () := rfl

theorem reportAll_eq (entries : List Log.Entry) : (reportAll entries : Script Unit) = pure () := by
  induction entries with
  | nil => rfl
  | cons entry rest ih => exact ih

theorem reportAll_run_eq {ε : Type} (entries : List Log.Entry) :
    (reportAll entries : ExceptT ε Script Unit) = pure () := by
  induction entries with
  | nil => rfl
  | cons entry rest ih => exact ih

end Script

end ControlPoint.Host
