import Mathlib
import ControlPoint.Generation.Device
import ControlPoint.Proofs.Class.ServiceNames
import ControlPoint.Proofs.Generation.Plan

open ControlPoint.Class

namespace ControlPoint.Generation

open Description Host MonadAttach Naming

/-- The classes that were written for types of services have the names that the plan gives to the
    types, made identifiers. -/
def Outcomes.Follows (o : Outcomes) (p : Plan) : Prop :=
  ∀ type name, o.written? type = some name →
    ∃ planned, p.services.find? type = some planned ∧ name = sanitize .type planned

/-- A result for a type that was not tried before is all that a new entry changes. -/
theorem Outcomes.written?_append {o : Outcomes} {type : String}
    (hnew : (o.any fun (known, _) => known == type) = false) (result : Option String)
    (wanted : String) :
    Outcomes.written? (o ++ [(type, result)]) wanted =
      if wanted = type then result else o.written? wanted := by
  by_cases hwanted : wanted = type
  · have hnone : List.find? (fun (known, _) => known == type) o = none := by
      rw [List.find?_eq_none]
      intro entry hentry
      simpa using List.any_eq_false.mp hnew entry hentry
    subst hwanted
    simp [Outcomes.written?, List.find?_append, hnone]
  · simp [Outcomes.written?, List.find?_append, hwanted, Ne.symm hwanted]

section Runs

variable {m : Type → Type} [Monad m] [LawfulMonad m] [MonadAttach m] [LawfulMonadAttach m]

/-- What holds of the state at first and is kept by every step holds of whatever a run returns. -/
theorem foldlM_invariant {α β : Type} {step : β → α → m β} {P : β → Prop}
    (hstep : ∀ a b b', P b → CanReturn (step b a) b' → P b') (items : List α) {b b' : β} (hb : P b)
    (hreturn : CanReturn (items.foldlM step b) b') : P b' := by
  induction items generalizing b with
  | nil =>
    rw [List.foldlM_nil] at hreturn
    exact LawfulMonadAttach.eq_of_canReturn_pure hreturn ▸ hb
  | cons a rest ih =>
    rw [List.foldlM_cons] at hreturn
    obtain ⟨next, hnext, hrest⟩ := LawfulMonadAttach.canReturn_bind_imp' hreturn
    exact ih (hstep a b next hb hnext) hrest

theorem complete_eq {file : Except MissingValue File} {f : File}
    (hreturn : CanReturn (complete file : Run m File) f) : file = .ok f := by
  cases file with
  | ok g => rw [LawfulMonadAttach.eq_of_canReturn_pure hreturn]
  | error value =>
    have herror := LawfulMonadAttach.eq_of_canReturn_pure (m := m) hreturn
    cases herror

variable [Host m]

/-- The file of a service's class is that of a class with the name that was asked for. -/
theorem serviceFile_className {c : Choices} {s : ServiceDescription}
    {className serviceType : String} {controlUrl : Option String} {f : File}
    (hreturn : CanReturn (serviceFile c s className serviceType controlUrl : Run m File) f) :
    f.className = sanitize .type className := by
  unfold serviceFile at hreturn
  obtain ⟨_, -, hreturn⟩ := LawfulMonadAttach.canReturn_bind_imp' hreturn
  obtain ⟨answers, -, hreturn⟩ := LawfulMonadAttach.canReturn_bind_imp' hreturn
  obtain ⟨file, hfile, hreturn⟩ := LawfulMonadAttach.canReturn_bind_imp' hreturn
  obtain ⟨_, -, hreturn⟩ := LawfulMonadAttach.canReturn_bind_imp' hreturn
  obtain rfl := LawfulMonadAttach.eq_of_canReturn_pure hreturn
  have hfile := complete_eq hfile
  have hserves := ServiceClass.declare_serves c.language className s answers
  unfold ServiceClass.file at hfile
  rw [← hserves.name]
  generalize ServiceClass.declare c.language className s answers = declared at hfile hserves ⊢
  cases hsource : declared.source (c.options className serviceType) with
  | error value =>
    rw [hsource] at hfile
    cases hfile
  | ok source =>
    rw [hsource] at hfile
    cases hfile
    rfl

theorem writeEmbedded_className {c : Choices} {d : DeviceDescription} {location : Url}
    {s : ServiceReference} {className : String} {written : String × String}
    (hreturn : CanReturn (writeEmbedded c d location s className : Run m _) written) :
    written.1 = sanitize .type className := by
  have hclass {service : ServiceDescription} {controlUrl : Option String}
      (hreturn : CanReturn (do
        let file ← serviceFile c service className s.serviceType controlUrl
        return (file.className, ← writeClass c file) : Run m _) written) :
      written.1 = sanitize .type className := by
    obtain ⟨file, hfile, hreturn⟩ := LawfulMonadAttach.canReturn_bind_imp' hreturn
    obtain ⟨path, -, hreturn⟩ := LawfulMonadAttach.canReturn_bind_imp' hreturn
    obtain rfl := LawfulMonadAttach.eq_of_canReturn_pure hreturn
    exact serviceFile_className hfile
  unfold writeEmbedded at hreturn
  obtain ⟨url, -, hreturn⟩ := LawfulMonadAttach.canReturn_bind_imp' hreturn
  obtain ⟨document, -, hreturn⟩ := LawfulMonadAttach.canReturn_bind_imp' hreturn
  obtain ⟨service, -, hreturn⟩ := LawfulMonadAttach.canReturn_bind_imp' hreturn
  dsimp only at hreturn
  split at hreturn
  · obtain ⟨control, -, hreturn⟩ := LawfulMonadAttach.canReturn_bind_imp' hreturn
    obtain ⟨controlUrl, -, hreturn⟩ := LawfulMonadAttach.canReturn_bind_imp' hreturn
    exact hclass hreturn
  · obtain ⟨controlUrl, -, hreturn⟩ := LawfulMonadAttach.canReturn_bind_imp' hreturn
    exact hclass hreturn

theorem tryEmbedded_className {c : Choices} {d : DeviceDescription} {location : Url}
    {owner : Device} {s : ServiceReference} {className : String} {written : String × String}
    (hreturn : CanReturn (tryEmbedded c d location owner s className : m _) (some written)) :
    written.1 = sanitize .type className := by
  unfold tryEmbedded at hreturn
  obtain ⟨result, hresult, hreturn⟩ := LawfulMonadAttach.canReturn_bind_imp' hreturn
  cases result with
  | ok found =>
    obtain rfl := Option.some.inj (LawfulMonadAttach.eq_of_canReturn_pure hreturn)
    exact writeEmbedded_className hresult
  | error fault =>
    obtain ⟨_, -, hreturn⟩ := LawfulMonadAttach.canReturn_bind_imp' hreturn
    cases LawfulMonadAttach.eq_of_canReturn_pure hreturn

/-- One service changes the outcomes only by what comes of its type under the planned name. -/
theorem writeNext_follows {c : Choices} {d : DeviceDescription} {location : Url} {p : Plan}
    {owner : Device} {s : ServiceReference} {done done' : Progress}
    (hdone : done.outcomes.Follows p)
    (hreturn : CanReturn (writeNext c d location p done owner s : m Progress) done') :
    done'.outcomes.Follows p := by
  -- the report at the end changes nothing
  have hend (isReported : Progress → Bool) {now : Progress} {entry : Log.Entry}
      (hreturn : CanReturn (do
        let done ← pure now
        if isReported done then
          report entry
        return done : m Progress) done') : done' = now := by
    obtain ⟨done, hpure, hreturn⟩ := LawfulMonadAttach.canReturn_bind_imp' hreturn
    obtain rfl := LawfulMonadAttach.eq_of_canReturn_pure hpure
    dsimp only at hreturn
    split at hreturn
    · obtain ⟨_, -, hreturn⟩ := LawfulMonadAttach.canReturn_bind_imp' hreturn
      exact (LawfulMonadAttach.eq_of_canReturn_pure hreturn).symm
    · exact (LawfulMonadAttach.eq_of_canReturn_pure hreturn).symm
  unfold writeNext at hreturn
  dsimp only at hreturn
  split at hreturn
  · rw [hend (fun done => (done.outcomes.written? s.serviceType).isSome &&
      Text.isBlankText s.serviceId) hreturn]
    exact hdone
  · rename_i className hplanned
    obtain ⟨written, hwritten, hreturn⟩ := LawfulMonadAttach.canReturn_bind_imp' hreturn
    rw [hend (fun done => (done.outcomes.written? s.serviceType).isSome &&
      Text.isBlankText s.serviceId) hreturn]
    split at hplanned
    · cases hplanned
    · rename_i hnew
      rw [Bool.not_eq_true] at hnew
      intro type name hname
      rw [Outcomes.written?_append hnew] at hname
      split at hname
      · rename_i htype
        obtain ⟨found, rfl, rfl⟩ := Option.map_eq_some_iff.mp hname
        exact ⟨className, htype ▸ hplanned, tryEmbedded_className hwritten⟩
      · exact hdone type name hname

/-- Whatever becomes of the services, the classes that were written follow the plan. -/
theorem writeServices_follows {c : Choices} {d : DeviceDescription} {location : Url} {p : Plan}
    {done : Progress} (hreturn : CanReturn (writeServices c d location p : m Progress) done) :
    done.outcomes.Follows p :=
  foldlM_invariant (P := fun done : Progress => done.outcomes.Follows p)
    (fun (owner, s) _ _ hdone hstep => writeNext_follows hdone hstep) _
    (by simp [Outcomes.Follows, Outcomes.written?]) hreturn

end Runs

end ControlPoint.Generation
