import SolarTelemetry.Action

/-!
# Retries

A transient error may be met by trying again, after a pause that grows by a second each time, until
the retries are used up. Any other error ends the matter.
-/

namespace SolarTelemetry

structure RetryBudget where
  retries : Nat := 0
  ceiling : Nat := 3
  deriving DecidableEq, Repr

namespace RetryBudget

/-- The count with one more retry, if the error allows one. -/
def grant? (b : RetryBudget) (e : Error) : Option RetryBudget :=
  if e.isTransient ∧ b.retries < b.ceiling then some { b with retries := b.retries + 1 } else none

/-- The pause before the retry that was granted last, in milliseconds. -/
def pause (b : RetryBudget) : Nat := 1000 * b.retries

theorem left_of_grant {b c : RetryBudget} {e : Error} (h : b.grant? e = some c) :
    c.ceiling - c.retries < b.ceiling - b.retries := by
  unfold grant? at h
  split at h
  · cases h
    simp only
    omega
  · cases h

variable {σ α : Type} [Clock σ]

/-- Asks for a retry after an error. If it is granted it comes after its pause; if it is refused
nothing changes. -/
def retry (b : RetryBudget) (e : Error) (s : σ) : Bool × RetryBudget × σ :=
  match b.grant? e with
  | none => (false, b, s)
  | some c => (true, c, Clock.sleep c.pause s)

/-- Runs an attempt until it succeeds or no retry is granted; the last attempt is what counts. -/
def run (b : RetryBudget) (attempt : Action σ α) : Action σ α := fun s =>
  match attempt s with
  | .ok a s => .ok a s
  | .error e s =>
    match _h : b.grant? e with
    | none => .error e s
    | some c => run c attempt (Clock.sleep c.pause s)
termination_by b.ceiling - b.retries
decreasing_by exact left_of_grant _h

theorem spends_run {size : σ → Nat} {attempt : Action σ α} (h : attempt.Spends size)
    (rest : ∀ ms s, size (Clock.sleep ms s) ≤ size s) (b : RetryBudget) :
    Action.Spends size (b.run attempt) := by
  intro s
  fun_induction run b attempt s with
  | case1 b s a s' eq => exact h.lt eq
  | case2 b s e s' eq granted => exact h.keeps.le_of_error eq
  | case3 b s e s' eq c granted ih =>
    have failed := h.keeps.le_of_error eq
    have slept := rest c.pause s'
    cases again : run c attempt (Clock.sleep c.pause s') <;> simp only [again] at ih ⊢ <;> omega

end RetryBudget

/-- Tries again up to three times. -/
def withRetries {σ α : Type} [Clock σ] (attempt : Action σ α) : Action σ α :=
  RetryBudget.run {} attempt

end SolarTelemetry
