import SolarTelemetry.Error

/-!
# Actions

An action is a step on a state, which it leaves changed whether it succeeds or fails. `Keeps size`
says that an action never makes the state larger, `Spends size` that it makes the state smaller
whenever it succeeds. Both pass through sequencing, and a loop of actions that spend comes to an
end.
-/

namespace SolarTelemetry

abbrev Action (σ α : Type) := EStateM Error σ α

abbrev Outcome (σ α : Type) := EStateM.Result Error σ α

/-- Keeps a time in milliseconds. -/
class Clock (σ : Type) where
  now : σ → Nat
  sleep : Nat → σ → σ

namespace Outcome

variable {σ α : Type}

def state : Outcome σ α → σ
  | .ok _ s => s
  | .error _ s => s

def result : Outcome σ α → Except Error α
  | .ok a _ => .ok a
  | .error e _ => .error e

end Outcome

namespace Action

variable {σ τ α β : Type}

/-- Runs an action on a part of the state. -/
def zoom (get : σ → τ) (set : σ → τ → σ) (act : Action τ α) : Action σ α := fun s =>
  match act (get s) with
  | .ok a t => .ok a (set s t)
  | .error e t => .error e (set s t)

/-- Turns a failure into a value. -/
def attempt (act : Action σ α) : Action σ (Except Error α) := fun s =>
  .ok (Outcome.result (act s)) (Outcome.state (act s))

def mapError (f : Error → Error) (act : Action σ α) : Action σ α := fun s =>
  match act s with
  | .ok a s => .ok a s
  | .error e s => .error (f e) s

def ofExcept (r : Except Error α) : Action σ α := fun s =>
  match r with
  | .ok a => .ok a s
  | .error e => .error e s

def Keeps (size : σ → Nat) (act : Action σ α) : Prop :=
  ∀ s, size (Outcome.state (act s)) ≤ size s

def Spends (size : σ → Nat) (act : Action σ α) : Prop :=
  ∀ s, match act s with
    | .ok _ s' => size s' < size s
    | .error _ s' => size s' ≤ size s

variable {size : σ → Nat}

theorem Spends.keeps {act : Action σ α} (h : Spends size act) : Keeps size act := by
  intro s
  have := h s
  cases eq : act s <;> simp only [eq] at this <;> simp only [Outcome.state] <;> omega

theorem Spends.lt {act : Action σ α} (h : Spends size act) {s s' : σ} {a : α}
    (ran : act s = .ok a s') : size s' < size s := by
  have := h s
  simpa only [ran] using this

theorem Keeps.le {act : Action σ α} (h : Keeps size act) {s s' : σ} {a : α}
    (ran : act s = .ok a s') : size s' ≤ size s := by
  have := h s
  simpa only [ran, Outcome.state] using this

theorem Keeps.le_of_error {act : Action σ α} (h : Keeps size act) {s s' : σ} {e : Error}
    (ran : act s = .error e s') : size s' ≤ size s := by
  have := h s
  simpa only [ran, Outcome.state] using this

theorem keeps_pure (a : α) : Keeps size (pure a : Action σ α) := fun _ => Nat.le_refl _

theorem keeps_throw (e : Error) : Keeps size (throw e : Action σ α) := fun _ => Nat.le_refl _

theorem keeps_get : Keeps size (get : Action σ σ) := fun _ => Nat.le_refl _

theorem keeps_modify {f : σ → σ} (h : ∀ s, size (f s) ≤ size s) :
    Keeps size (modify f : Action σ PUnit) := h

theorem keeps_ofExcept (r : Except Error α) : Keeps size (ofExcept r : Action σ α) := by
  intro s
  cases r <;> exact Nat.le_refl _

theorem Keeps.bind {act : Action σ α} {next : α → Action σ β} (first : Keeps size act)
    (second : ∀ a, Keeps size (next a)) : Keeps size (act >>= next) := by
  intro s
  have h := first s
  change size (Outcome.state (EStateM.bind act next s)) ≤ size s
  unfold EStateM.bind
  cases eq : act s with
  | ok a s' =>
    simp only [eq, Outcome.state] at h
    exact Nat.le_trans (second a s') h
  | error e s' => simpa only [eq, Outcome.state] using h

theorem Spends.bind {act : Action σ α} {next : α → Action σ β} (first : Spends size act)
    (second : ∀ a, Keeps size (next a)) : Spends size (act >>= next) := by
  intro s
  have h := first s
  change match EStateM.bind act next s with
    | .ok _ s' => size s' < size s
    | .error _ s' => size s' ≤ size s
  unfold EStateM.bind
  cases eq : act s with
  | ok a s' =>
    simp only [eq] at h ⊢
    have h' := second a s'
    cases eq' : next a s' <;> simp only [eq', Outcome.state] at h' ⊢ <;> omega
  | error e s' => simpa only [eq] using h

theorem Keeps.bind_spends {act : Action σ α} {next : α → Action σ β} (first : Keeps size act)
    (second : ∀ a, Spends size (next a)) : Spends size (act >>= next) := by
  intro s
  have h := first s
  change match EStateM.bind act next s with
    | .ok _ s' => size s' < size s
    | .error _ s' => size s' ≤ size s
  unfold EStateM.bind
  cases eq : act s with
  | ok a s' =>
    simp only [eq, Outcome.state] at h ⊢
    have h' := second a s'
    cases eq' : next a s' <;> simp only [eq'] at h' ⊢ <;> omega
  | error e s' => simpa only [eq, Outcome.state] using h

theorem Keeps.attempt {act : Action σ α} (h : Keeps size act) : Keeps size act.attempt := h

theorem Keeps.mapError {act : Action σ α} (h : Keeps size act) (f : Error → Error) :
    Keeps size (act.mapError f) := by
  intro s
  have := h s
  unfold Action.mapError
  cases eq : act s <;> simpa only [eq, Outcome.state] using this

theorem Keeps.zoom {get : σ → τ} {set : σ → τ → σ} {part : τ → Nat} {act : Action τ α}
    (h : Keeps part act) (lift : ∀ s t, part t ≤ part (get s) → size (set s t) ≤ size s) :
    Keeps size (act.zoom get set) := by
  intro s
  have := h (get s)
  unfold Action.zoom
  cases eq : act (get s) <;> simp only [eq, Outcome.state] at this ⊢ <;> exact lift s _ this

theorem Spends.mapError {act : Action σ α} (h : Spends size act) (f : Error → Error) :
    Spends size (act.mapError f) := by
  intro s
  have := h s
  unfold Action.mapError
  cases eq : act s <;> simpa only [eq] using this

theorem Spends.zoom {get : σ → τ} {set : σ → τ → σ} {part : τ → Nat} {act : Action τ α}
    (h : Spends part act) (kept : ∀ s t, part t ≤ part (get s) → size (set s t) ≤ size s)
    (spent : ∀ s t, part t < part (get s) → size (set s t) < size s) :
    Spends size (act.zoom get set) := by
  intro s
  have := h (get s)
  unfold Action.zoom
  cases eq : act (get s) with
  | ok a t => exact spent s t (by simpa only [eq] using this)
  | error e t => exact kept s t (by simpa only [eq] using this)

end Action

end SolarTelemetry
