import SolarTelemetry.Action

/-!
# Running actions

A sequence of actions succeeds if each of them does, and fails with the first that does. An action
respects a map of states if it makes no difference whether the map is applied before it or after,
and leaves a view of the state if the view is the same afterwards. What holds between the states
before and after each action of a sequence holds of the sequence, if it is reflexive and transitive.
-/

namespace SolarTelemetry

variable {σ τ α β : Type}

def Outcome.mapState (f : σ → τ) : Outcome σ α → Outcome τ α
  | .ok a s => .ok a (f s)
  | .error e s => .error e (f s)

theorem Outcome.state_mapState (f : σ → τ) (outcome : Outcome σ α) :
    (outcome.mapState f).state = f outcome.state := by
  cases outcome <;> rfl

theorem Outcome.result_mapState (f : σ → τ) (outcome : Outcome σ α) :
    (outcome.mapState f).result = outcome.result := by
  cases outcome <;> rfl

theorem Outcome.mapState_eq_ok {f : σ → τ} {outcome : Outcome σ α} {a : α} {t : τ}
    (h : outcome.mapState f = .ok a t) : ∃ s, outcome = .ok a s ∧ f s = t := by
  cases outcome with
  | ok a' s =>
    cases h
    exact ⟨s, rfl, rfl⟩
  | error e s => cases h

theorem Outcome.eq_ok_of_result {outcome : Outcome σ α} {a : α}
    (h : outcome.result.toOption = some a) : outcome = .ok a outcome.state := by
  cases outcome with
  | ok a' s =>
    cases h
    rfl
  | error e s => cases h

namespace Action

variable {act : Action σ α} {next : α → Action σ β} {s s' : σ} {a : α} {b : β} {e : Error}

theorem bind_of_ok (ran : act s = .ok a s') : (act >>= next) s = next a s' := by
  change EStateM.bind act next s = _
  unfold EStateM.bind
  rw [ran]

theorem bind_of_error (ran : act s = .error e s') : (act >>= next) s = .error e s' := by
  change EStateM.bind act next s = _
  unfold EStateM.bind
  rw [ran]

theorem get_bind (next : σ → Action σ β) (s : σ) :
    ((get : Action σ σ) >>= next) s = next s s :=
  bind_of_ok rfl

theorem bind_eq_ok_iff :
    (act >>= next) s = .ok b s' ↔ ∃ a t, act s = .ok a t ∧ next a t = .ok b s' := by
  constructor
  · intro h
    cases ran : act s with
    | ok a t => exact ⟨a, t, rfl, by rwa [bind_of_ok ran] at h⟩
    | error e t =>
      rw [bind_of_error ran] at h
      cases h
  · rintro ⟨a, t, ran, rest⟩
    rw [bind_of_ok ran, rest]

@[simp] theorem state_ofExcept (r : Except Error α) (s : σ) :
    Outcome.state (ofExcept r s) = s := by
  cases r <;> rfl

@[simp] theorem result_ofExcept (r : Except Error α) (s : σ) :
    Outcome.result (ofExcept r s) = r := by
  cases r <;> rfl

@[simp] theorem state_mapError (g : Error → Error) (act : Action σ α) (s : σ) :
    Outcome.state (act.mapError g s) = Outcome.state (act s) := by
  unfold mapError
  cases act s <;> rfl

theorem mapError_eq_ok {g : Error → Error} (ran : act.mapError g s = .ok a s') :
    act s = .ok a s' := by
  unfold mapError at ran
  split at ran
  · next eq =>
    rw [eq]
    exact ran
  · cases ran

theorem mapError_eq_error {g : Error → Error} (ran : act.mapError g s = .error e s') :
    ∃ cause, act s = .error cause s' ∧ g cause = e := by
  unfold mapError at ran
  split at ran
  · cases ran
  · next cause t eq =>
    cases ran
    exact ⟨cause, eq, rfl⟩

theorem state_map (g : α → β) (act : Action σ α) (s : σ) :
    Outcome.state ((act >>= fun a => pure (g a)) s) = Outcome.state (act s) := by
  cases ran : act s with
  | ok a t =>
    rw [bind_of_ok ran]
    rfl
  | error e t =>
    rw [bind_of_error ran]
    rfl

@[simp] theorem state_discard (act : Action σ α) (s : σ) :
    Outcome.state (discard act s) = Outcome.state (act s) := by
  change Outcome.state (EStateM.map _ act s) = _
  unfold EStateM.map
  cases act s <;> rfl

@[simp] theorem state_zoom (get : σ → τ) (set : σ → τ → σ) (act : Action τ α) (s : σ) :
    Outcome.state (act.zoom get set s) = set s (Outcome.state (act (get s))) := by
  unfold zoom
  cases act (get s) <;> rfl

theorem discard_of_error (ran : act s = .error e s') : discard act s = .error e s' := by
  change EStateM.map _ act s = _
  unfold EStateM.map
  rw [ran]

theorem state_bind_ofExcept (act : Action σ α) (r : Except Error β) (s : σ) :
    Outcome.state ((act >>= fun _ => ofExcept r) s) = Outcome.state (act s) := by
  cases ran : act s with
  | ok a t =>
    rw [bind_of_ok ran]
    exact state_ofExcept r t
  | error e t => rw [bind_of_error ran, Outcome.state, Outcome.state]

theorem result_bind_ofExcept (act : Action σ α) (r : Except Error β) (s : σ) :
    Outcome.result ((act >>= fun _ => ofExcept r) s) = Outcome.result (act s) >>= fun _ => r := by
  cases ran : act s with
  | ok a t =>
    rw [bind_of_ok ran]
    exact result_ofExcept r t
  | error e t =>
    rw [bind_of_error ran]
    rfl

/-- The map makes no difference to what the action does. -/
def Respects (f : σ → σ) (act : Action σ α) : Prop := ∀ s, act (f s) = Outcome.mapState f (act s)

variable {f : σ → σ}

theorem respects_pure (a : α) : Respects f (pure a : Action σ α) := fun _ => rfl

theorem respects_modify {g : σ → σ} (h : ∀ s, g (f s) = f (g s)) :
    Respects f (modify g : Action σ PUnit) := by
  intro s
  change EStateM.Result.ok _ (g (f s)) = .ok _ (f (g s))
  rw [h]

theorem Respects.bind (first : Respects f act) (second : ∀ a, Respects f (next a)) :
    Respects f (act >>= next) := by
  intro s
  have mapped := first s
  cases ran : act s with
  | ok a t =>
    rw [ran] at mapped
    rw [bind_of_ok ran, bind_of_ok mapped]
    exact second a t
  | error e t =>
    rw [ran] at mapped
    rw [bind_of_error ran, bind_of_error mapped]
    rfl

theorem respects_zoom {get : σ → τ} {set : σ → τ → σ} {act : Action τ α}
    (same : ∀ s, get (f s) = get s) (apart : ∀ s t, set (f s) t = f (set s t)) :
    Respects f (act.zoom get set) := by
  intro s
  unfold zoom
  rw [same]
  cases act (get s) with
  | ok a t => exact congrArg _ (apart s t)
  | error e t => exact congrArg _ (apart s t)

/-- Whatever comes of the action, it leads from each state to one that is related to it. -/
def Leads (R : σ → σ → Prop) (act : Action σ α) : Prop := ∀ s, R s (Outcome.state (act s))

section

variable {R : σ → σ → Prop}

theorem leads_pure [Std.Refl R] (a : α) : Leads R (pure a : Action σ α) := Std.Refl.refl

theorem leads_throw [Std.Refl R] (e : Error) : Leads R (throw e : Action σ α) := Std.Refl.refl

theorem leads_get [Std.Refl R] : Leads R (get : Action σ σ) := Std.Refl.refl

theorem leads_modify {g : σ → σ} (h : ∀ s, R s (g s)) : Leads R (modify g : Action σ PUnit) := h

theorem leads_ofExcept [Std.Refl R] (r : Except Error α) : Leads R (ofExcept r : Action σ α) := by
  intro s
  rw [state_ofExcept]
  exact Std.Refl.refl s

theorem Leads.bind [Trans R R R] (first : Leads R act) (second : ∀ a, Leads R (next a)) :
    Leads R (act >>= next) := by
  intro s
  have begun := first s
  cases ran : act s with
  | ok a t =>
    rw [ran] at begun
    rw [bind_of_ok ran]
    exact Trans.trans begun (second a t)
  | error e t =>
    rw [ran] at begun
    rw [bind_of_error ran]
    exact begun

theorem Leads.mapError (h : Leads R act) (g : Error → Error) : Leads R (act.mapError g) := by
  intro s
  rw [state_mapError]
  exact h s

theorem Leads.discard (h : Leads R act) : Leads R (discard act) := by
  intro s
  rw [state_discard]
  exact h s

end

/-- Whatever comes of the action, the view is what it was. -/
def Leaves (view : σ → τ) (act : Action σ α) : Prop := ∀ s, view (Outcome.state (act s)) = view s

variable {γ : Type} {view : σ → γ}

theorem leaves_pure (a : α) : Leaves view (pure a : Action σ α) := fun _ => rfl

theorem leaves_modify {g : σ → σ} (h : ∀ s, view (g s) = view s) :
    Leaves view (modify g : Action σ PUnit) := h

theorem Leaves.bind (first : Leaves view act) (second : ∀ a, Leaves view (next a)) :
    Leaves view (act >>= next) := by
  intro s
  have kept := first s
  cases ran : act s with
  | ok a t =>
    rw [ran] at kept
    rw [bind_of_ok ran]
    exact (second a t).trans kept
  | error e t =>
    rw [ran] at kept
    rw [bind_of_error ran]
    exact kept

theorem Leaves.zoom {get : σ → τ} {set : σ → τ → σ} {part : τ → γ} {act : Action τ α}
    (h : Leaves part act) (lift : ∀ s t, part t = part (get s) → view (set s t) = view s) :
    Leaves view (act.zoom get set) := by
  intro s
  have kept := h (get s)
  unfold Action.zoom
  cases ran : act (get s) <;> rw [ran] at kept <;> exact lift s _ kept

end Action

end SolarTelemetry
