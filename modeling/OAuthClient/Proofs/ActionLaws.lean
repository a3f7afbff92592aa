import OAuthClient.Exchange.World

/-! # Laws of actions

What an action yields and which state it leaves, one law for each way of
building actions. A failing action keeps the state that it has reached, so a
sequence stops with the state of its failing part.
-/

namespace OAuthClient

theorem Failure.of_bind_ok {α β : Type} {result : Except Failure α}
    {next : α → Except Failure β} {b : β} (h : (result >>= next) = .ok b) :
    ∃ a, result = .ok a ∧ next a = .ok b := by
  cases result with
  | error failure => cases h
  | ok a => exact ⟨a, rfl, h⟩

/-- A result that can be seen to be there is some result. -/
theorem Failure.exists_of_isOk {α : Type} {result : Except Failure α} (h : result.isOk = true) :
    ∃ a, result = .ok a := by
  cases result with
  | error failure => cases h
  | ok a => exact ⟨a, rfl⟩

theorem Failure.of_map_ok {α β : Type} {result : Except Failure α} {change : α → β} {b : β}
    (h : result.map change = .ok b) : ∃ a, result = .ok a ∧ change a = b := by
  cases result with
  | error failure => cases h
  | ok a => exact ⟨a, rfl, Except.ok.inj h⟩

theorem Failure.of_bind_error {α β : Type} {result : Except Failure α}
    {next : α → Except Failure β} {failure : Failure} (h : (result >>= next) = .error failure) :
    result = .error failure ∨ ∃ a, result = .ok a ∧ next a = .error failure := by
  cases result with
  | error cause => exact .inl (congrArg _ (Except.error.inj h))
  | ok a => exact .inr ⟨a, rfl, h⟩

theorem Failure.of_map_error {α β : Type} {result : Except Failure α} {change : α → β}
    {failure : Failure} (h : result.map change = .error failure) : result = .error failure := by
  cases result with
  | error cause => exact congrArg _ (Except.error.inj h)
  | ok a => cases h

/-- Whether a result is there or failed in one of some ways. -/
def FailsOnly {α : Type} (kind : Failure → Prop) (result : Except Failure α) : Prop :=
  ∀ failure, result = .error failure → kind failure

namespace FailsOnly

variable {α β : Type} {kind : Failure → Prop}

theorem ok (a : α) : FailsOnly kind (.ok a) := by rintro _ ⟨⟩

theorem error_iff {failure : Failure} :
    FailsOnly kind (.error failure : Except Failure α) ↔ kind failure := by
  constructor
  · intro h
    exact h failure rfl
  · rintro h _ ⟨⟩
    exact h

instance [DecidablePred kind] (result : Except Failure α) : Decidable (FailsOnly kind result) :=
  match result with
  | .ok a => isTrue (ok a)
  | .error _ => decidable_of_iff _ error_iff.symm

theorem map_iff {result : Except Failure α} {change : α → β} :
    FailsOnly kind (result.map change) ↔ FailsOnly kind result := by
  cases result with
  | error failure => exact error_iff.trans error_iff.symm
  | ok a => exact ⟨fun _ => ok a, fun _ => ok (change a)⟩

/-- A sequence whose first part fails in other ways only needs that part to succeed. -/
theorem bind_iff {result : Except Failure α} {next : α → Except Failure β}
    (h : FailsOnly (fun failure => ¬ kind failure) result) :
    FailsOnly kind (result >>= next) ↔ ∃ a, result = .ok a ∧ FailsOnly kind (next a) := by
  cases result with
  | error failure =>
      constructor
      · intro honly
        exact absurd (honly failure rfl) (h failure rfl)
      · rintro ⟨_, ⟨⟩, _⟩
  | ok a =>
      constructor
      · intro honly
        exact ⟨a, rfl, honly⟩
      · rintro ⟨_, ⟨⟩, honly⟩
        exact honly

end FailsOnly

namespace Action

variable {σ α β : Type}

@[simp] theorem perform_pure (a : α) (state : σ) :
    (pure a : Action σ α).perform state = (.ok a, state) := rfl

@[simp] theorem perform_throw (failure : Failure) (state : σ) :
    (throw failure : Action σ α).perform state = (.error failure, state) := rfl

@[simp] theorem perform_get (state : σ) :
    (get : Action σ σ).perform state = (.ok state, state) := rfl

@[simp] theorem perform_set (next state : σ) :
    (set next : Action σ PUnit).perform state = (.ok ⟨⟩, next) := rfl

@[simp] theorem perform_modify (change : σ → σ) (state : σ) :
    (modify change : Action σ PUnit).perform state = (.ok ⟨⟩, change state) := rfl

theorem perform_bind (action : Action σ α) (next : α → Action σ β) (state : σ) :
    (action >>= next).perform state =
      match action.perform state with
      | (.ok a, after) => (next a).perform after
      | (.error failure, after) => (.error failure, after) := by
  change (ExceptT.bindCont next (action.perform state).1).run (action.perform state).2 = _
  rcases action.perform state with ⟨_ | _, after⟩ <;> rfl

/-- What comes after an action that is known to succeed. The outcome need not be worked out again,
as it would be for the cases of `perform_bind`. -/
theorem perform_bind_of_ok {action : Action σ α} {next : α → Action σ β} {state after : σ} {a : α}
    (h : action.perform state = (.ok a, after)) :
    (action >>= next).perform state = (next a).perform after := by
  rw [perform_bind, h]

/-- A sequence that succeeds has parts that succeed. -/
theorem of_perform_bind_ok {action : Action σ α} {next : α → Action σ β} {state : σ} {b : β}
    (h : ((action >>= next).perform state).1 = .ok b) :
    ∃ a after, action.perform state = (.ok a, after) ∧ ((next a).perform after).1 = .ok b := by
  rw [perform_bind] at h
  split at h
  next a after heq => exact ⟨a, after, heq, h⟩
  next => cases h

/-- A sequence that fails does so in one of its parts. -/
theorem of_perform_bind_error {action : Action σ α} {next : α → Action σ β} {state : σ}
    {failure : Failure} (h : ((action >>= next).perform state).1 = .error failure) :
    (action.perform state).1 = .error failure ∨
      ∃ a after, action.perform state = (.ok a, after) ∧
        ((next a).perform after).1 = .error failure := by
  rw [perform_bind] at h
  split at h
  next a after heq => exact .inr ⟨a, after, heq, h⟩
  next cause after heq => exact .inl (by rw [heq]; exact congrArg _ (Except.error.inj h))

/-- An action that can be seen to succeed yields something. -/
theorem exists_ok {action : Action σ α} {state : σ} (h : (action.perform state).1.isOk = true) :
    ∃ a, action.perform state = (.ok a, (action.perform state).2) := by
  obtain ⟨a, houtcome⟩ := Failure.exists_of_isOk h
  exact ⟨a, Prod.ext houtcome rfl⟩

/-- An action that can be seen to fail does so with some failure. -/
theorem exists_error {action : Action σ α} {state : σ} (h : (action.perform state).1.isOk = false) :
    ∃ failure, action.perform state = (.error failure, (action.perform state).2) := by
  rcases hperform : action.perform state with ⟨outcome, after⟩
  rw [hperform] at h
  cases outcome with
  | error failure => exact ⟨failure, rfl⟩
  | ok a => cases h

@[simp] theorem perform_get_bind (next : σ → Action σ β) (state : σ) :
    ((get : Action σ σ) >>= next).perform state = (next state).perform state := rfl

@[simp] theorem perform_modify_bind (change : σ → σ) (next : PUnit → Action σ β) (state : σ) :
    ((modify change : Action σ PUnit) >>= next).perform state = (next ⟨⟩).perform (change state) :=
  rfl

@[simp] theorem perform_ofExcept (result : Except Failure α) (state : σ) :
    (ofExcept result : Action σ α).perform state = (result, state) := by
  cases result <;> rfl

theorem perform_ofExcept_bind (result : Except Failure α) (next : α → Action σ β) (state : σ) :
    (ofExcept result >>= next : Action σ β).perform state =
      match result with
      | .ok a => (next a).perform state
      | .error failure => (.error failure, state) := by
  cases result <;> rfl

@[simp] theorem perform_attempt (action : Action σ α) (state : σ) :
    action.attempt.perform state =
      (.ok (action.perform state).1, (action.perform state).2) := rfl

theorem perform_attempt_bind (action : Action σ α) (next : Except Failure α → Action σ β)
    (state : σ) :
    (action.attempt >>= next).perform state =
      (next (action.perform state).1).perform (action.perform state).2 := rfl

end Action

end OAuthClient
