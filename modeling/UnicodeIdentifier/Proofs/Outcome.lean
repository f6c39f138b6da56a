/-!
# Outcomes that may be errors

A sequence of steps succeeds exactly when each step does, and otherwise fails as the first step that
fails.  Changing the value or renaming the error turns no failure into a success.  A program that may
fail and does nothing else comes to the sequence of its outcomes.
-/

namespace UnicodeIdentifier

variable {Cause Other Value Result : Type} {cause : Cause} {other : Other}

@[simp]
theorem bind_eq_ok_iff {first : Except Cause Value} {next : Value → Except Cause Result}
    {result : Result} :
    first >>= next = .ok result ↔ ∃ value, first = .ok value ∧ next value = .ok result := by
  cases first with
  | error cause =>
    refine iff_of_false (fun impossible => by cases impossible) ?_
    rintro ⟨_, impossible, _⟩
    cases impossible
  | ok value =>
    constructor
    · intro done
      exact ⟨value, rfl, done⟩
    · rintro ⟨_, same, done⟩
      cases same
      exact done

@[simp]
theorem bind_eq_error_iff {first : Except Cause Value} {next : Value → Except Cause Result} :
    first >>= next = .error cause ↔
      first = .error cause ∨ ∃ value, first = .ok value ∧ next value = .error cause := by
  cases first with
  | error found =>
    constructor
    · intro failed
      cases failed
      exact Or.inl rfl
    · rintro (same | ⟨_, impossible, _⟩)
      · cases same
        rfl
      · cases impossible
  | ok value =>
    constructor
    · intro failed
      exact Or.inr ⟨value, rfl, failed⟩
    · rintro (impossible | ⟨_, same, failed⟩)
      · cases impossible
      · cases same
        exact failed

@[simp]
theorem map_eq_ok_iff {outcome : Except Cause Value} {change : Value → Result} {result : Result} :
    outcome.map change = .ok result ↔ ∃ value, outcome = .ok value ∧ change value = result := by
  cases outcome with
  | error cause => simp [Except.map]
  | ok value => simp [Except.map]

@[simp]
theorem map_eq_error_iff {outcome : Except Cause Value} {change : Value → Result} :
    outcome.map change = .error cause ↔ outcome = .error cause := by
  cases outcome with
  | error found => simp [Except.map]
  | ok value => simp [Except.map]

@[simp]
theorem mapError_eq_ok_iff {outcome : Except Cause Value} {rename : Cause → Other} {value : Value} :
    outcome.mapError rename = .ok value ↔ outcome = .ok value := by
  cases outcome with
  | error cause =>
    refine iff_of_false ?_ ?_
    · intro impossible
      cases impossible
    · intro impossible
      cases impossible
  | ok found =>
    constructor
    · intro same
      cases same
      rfl
    · intro same
      cases same
      rfl

@[simp]
theorem mapError_eq_error_iff {outcome : Except Cause Value} {rename : Cause → Other} :
    outcome.mapError rename = .error other ↔
      ∃ cause, outcome = .error cause ∧ rename cause = other := by
  cases outcome with
  | error found =>
    constructor
    · intro same
      cases same
      exact ⟨found, rfl, rfl⟩
    · rintro ⟨cause, same, rfl⟩
      cases same
      rfl
  | ok value =>
    constructor
    · intro impossible
      cases impossible
    · rintro ⟨cause, impossible, _⟩
      cases impossible

@[simp]
theorem idRun_bind (work : ExceptT Cause Id Value) (next : Value → ExceptT Cause Id Result) :
    Id.run (work >>= next).run = (Id.run work.run >>= fun value => Id.run (next value).run) := by
  rw [ExceptT.run_bind]
  cases work.run with
  | ok value => rfl
  | error cause => rfl

@[simp]
theorem idRun_liftM (outcome : Except Cause Value) :
    Id.run (liftM outcome : ExceptT Cause Id Value).run = outcome := rfl

end UnicodeIdentifier
