import SolarTelemetry.Proofs.Attempts

/-!
# When to try again

A run stops with the first attempt that succeeds, that fails for good, or that is one more than the
ceiling of its retries. Before each attempt but the first it pauses, a second longer every time, and
it does nothing else. The budget alone decides this: of the errors that it is shown it grants a
retry for each transient one, as long as fewer have been granted than its ceiling allows.
-/

namespace SolarTelemetry

theorem Error.isTransient_iff {e : Error} :
    e.isTransient ↔ (∃ awaited, e = .timeout awaited) ∨ ∃ fault, e = .frame fault := by
  cases e <;> simp [isTransient]

namespace RetryBudget

section

variable {σ α : Type} [Clock σ] {attempt : Action σ α} {b : RetryBudget} {s t : σ} {k : Nat}

/-- Where an attempt begins, counted from zero, if there is one: after the attempt before it and a
pause that is a second longer than the pause before that. -/
def begun (attempt : Action σ α) (s : σ) : Nat → σ
  | 0 => s
  | k + 1 => Clock.sleep (1000 * (k + 1)) (Outcome.state (attempt (begun attempt s k)))

/-- A run goes on only after a transient error, and only with a retry left. -/
theorem exists_error_of_starts (began : (b.starts attempt s)[k]? = some t)
    (more : k + 1 < (b.starts attempt s).length) :
    ∃ e u, attempt t = .error e u ∧ e.isTransient ∧ b.retries + k < b.ceiling := by
  cases ran : attempt t with
  | ok a u =>
    have one := congrArg List.length (drop_starts began).1
    rw [starts_of_ok ran, List.length_drop, List.length_singleton] at one
    omega
  | error e u =>
    by_cases allowed : e.isTransient ∧ b.retries + k < b.ceiling
    · exact ⟨e, u, rfl, allowed⟩
    · have last := (starts_of_final began ran allowed).1
      omega

/-- The attempts of a run that has made no retry yet begin where they should. -/
theorem getElem?_starts {ceiling : Nat}
    (inside : k < (({ ceiling } : RetryBudget).starts attempt s).length) :
    (({ ceiling } : RetryBudget).starts attempt s)[k]? = some (begun attempt s k) := by
  induction k with
  | zero => rw [getElem?_starts_zero, begun]
  | succ k ih =>
    have began := ih (Nat.lt_of_succ_lt inside)
    obtain ⟨e, u, failed, transient, left⟩ := exists_error_of_starts began inside
    rw [starts_of_transient began failed transient left, begun, failed, Nat.zero_add]
    rfl

/-- A run comes to what its first attempt comes to that does not call for another, or that none may
follow. -/
theorem exists_run_eq (ceiling : Nat) (attempt : Action σ α) (s : σ) :
    ∃ n ≤ ceiling,
      ({ ceiling } : RetryBudget).run attempt s = attempt (begun attempt s n) ∧
      (∀ k < n, ∃ e t, attempt (begun attempt s k) = .error e t ∧ e.isTransient) ∧
      (n < ceiling → ∀ e t, attempt (begun attempt s n) = .error e t → ¬e.isTransient) := by
  obtain ⟨before, last, split, same⟩ := exists_starts_eq { ceiling } attempt s
  have length := congrArg List.length split
  rw [List.length_append, List.length_singleton] at length
  have place {k : Nat} (inside : k ≤ before.length) :
      (({ ceiling } : RetryBudget).starts attempt s)[k]? = some (begun attempt s k) :=
    getElem?_starts (by omega)
  have final : last = begun attempt s before.length := by
    have here := place (Nat.le_refl _)
    rw [split, List.getElem?_concat_length] at here
    exact Option.some.inj here
  refine ⟨before.length, ?_, ?_, ?_, ?_⟩
  · have most := length_starts_le { ceiling } attempt s
    simp only at most
    omega
  · rw [same, final]
  · intro k early
    obtain ⟨e, t, failed, transient, -⟩ :=
      exists_error_of_starts (place (Nat.le_of_lt early)) (by omega)
    exact ⟨e, t, failed, transient⟩
  · intro left e t failed transient
    have next := starts_of_transient (place (Nat.le_refl _)) failed transient (by simpa using left)
    have inside := (List.getElem?_eq_some_iff.mp next).1
    omega

/-- What can be noted of a run. -/
inductive Happening where
  | attempt
  | pause (ms : Nat)
  deriving DecidableEq

/-- An attempt and so many retries, each after a pause that is a second longer than the last. -/
def course : Nat → List Happening
  | 0 => [.attempt]
  | n + 1 => course n ++ [.pause (1000 * (n + 1)), .attempt]

/-- Every attempt and every pause is noted as it happens. -/
structure Notes (diary : σ → List Happening) (attempt : Action σ α) : Prop where
  attempt : ∀ t, diary (Outcome.state (attempt t)) = diary t ++ [.attempt]
  pause : ∀ ms t, diary (Clock.sleep ms t) = diary t ++ [.pause ms]

theorem Notes.diary_begun {diary : σ → List Happening} (notes : Notes diary attempt) (s : σ)
    (n : Nat) : diary (Outcome.state (attempt (begun attempt s n))) = diary s ++ course n := by
  induction n with
  | zero => exact notes.attempt s
  | succ n ih =>
    rw [notes.attempt, begun, notes.pause, ih, course]
    simp only [List.append_assoc, List.cons_append, List.nil_append]

theorem retry_eq (b : RetryBudget) (e : Error) (s : σ) :
    b.retry e s =
      if e.isTransient ∧ b.retries < b.ceiling then
        (true, { b with retries := b.retries + 1 }, Clock.sleep (1000 * (b.retries + 1)) s)
      else (false, b, s) := by
  unfold retry grant?
  by_cases allowed : e.isTransient ∧ b.retries < b.ceiling
  · simp only [if_pos allowed]
    rfl
  · simp only [if_neg allowed]

/-- A run asks for a retry after each failure. -/
theorem run_eq (b : RetryBudget) (attempt : Action σ α) (s : σ) :
    b.run attempt s =
      match attempt s with
      | .ok a t => .ok a t
      | .error e t =>
        match b.retry e t with
        | (false, _, u) => .error e u
        | (true, c, u) => c.run attempt u := by
  cases ran : attempt s with
  | ok a t => exact run_of_ok ran
  | error e t =>
    cases granted : b.grant? e with
    | none => simp only [run_of_refused ran granted, retry, granted]
    | some c => simp only [run_of_granted ran granted, retry, granted]

/-- The answers to one error after the other, and what they leave. -/
def retryAll (b : RetryBudget) : List Error → σ → List Bool × RetryBudget × σ
  | [], s => ([], b, s)
  | e :: errors, s =>
    let (granted, b, s) := b.retry e s
    let (answers, left) := retryAll b errors s
    (granted :: answers, left)

/-- The count is that of the retries that were granted. -/
theorem retries_retryAll (b : RetryBudget) (errors : List Error) (s : σ) :
    (b.retryAll errors s).2.1 =
      { b with retries := b.retries + (b.retryAll errors s).1.count true } := by
  induction errors generalizing b s with
  | nil => rfl
  | cons e errors ih =>
    simp only [retryAll, ih]
    rw [retry_eq]
    split
    · simp only [List.count_cons_self]
      congr 1
      omega
    · simp

end

end RetryBudget

open RetryBudget

/-- An attempt that is retried is made until it succeeds, fails with an error other than a timeout
or a damaged frame, or has been made four times; what comes of it then is the result, and all that
has happened is the attempts with pauses of one, two and three seconds between them. A budget with
any ceiling grants a retry just for a transient error while it has granted fewer, after a pause of
as many seconds as the retries granted by then, and is left as it was by an error for which it
grants none. -/
theorem withRetries_course {σ α : Type} [Clock σ] :
    (∀ e : Error, e.isTransient ↔ (∃ awaited, e = .timeout awaited) ∨ ∃ fault, e = .frame fault) ∧
    (∀ (attempt : Action σ α) (s : σ), ∃ n ≤ 3,
      withRetries attempt s = attempt (begun attempt s n) ∧
      (∀ k < n, ∃ e t, attempt (begun attempt s k) = .error e t ∧ e.isTransient) ∧
      (n < 3 → ∀ e t, attempt (begun attempt s n) = .error e t → ¬e.isTransient) ∧
      ∀ diary : σ → List Happening, Notes diary attempt →
        diary (Outcome.state (withRetries attempt s)) = diary s ++ course n) ∧
    ∀ (ceiling : Nat) (errors : List Error) (e : Error) (s : σ),
      let answers := (retryAll { ceiling } errors s).1
      let b := (retryAll { ceiling } errors s).2.1
      let t := (retryAll { ceiling } errors s).2.2
      b = { retries := answers.count true, ceiling } ∧
      b.retry e t =
        if e.isTransient ∧ answers.count true < ceiling then
          (true, { retries := answers.count true + 1, ceiling },
            Clock.sleep (1000 * (answers.count true + 1)) t)
        else (false, b, t) := by
  refine ⟨fun _ => Error.isTransient_iff, ?run, ?budget⟩
  case run =>
    intro attempt s
    obtain ⟨n, most, same, others, stops⟩ := exists_run_eq 3 attempt s
    refine ⟨n, most, same, others, stops, ?_⟩
    intro diary notes
    rw [withRetries, same, notes.diary_begun]
  case budget =>
    intro ceiling errors e s answers b t
    have counted : b = { retries := answers.count true, ceiling } := by
      simpa using retries_retryAll { ceiling } errors s
    rw [retry_eq, counted]
    exact ⟨rfl, rfl⟩

/-- Attempts whose results are laid down in advance, and what has happened so far. -/
structure Rehearsal where
  results : List (Except Error Nat)
  diary : List Happening := []

namespace Rehearsal

instance : Clock Rehearsal where
  now _ := 0
  sleep ms r := { r with diary := r.diary ++ [.pause ms] }

def attempt : Action Rehearsal Nat := fun r =>
  let left := { r with results := r.results.tail, diary := r.diary ++ [.attempt] }
  match r.results.headD (.ok 0) with
  | .ok a => .ok a left
  | .error e => .error e left

theorem notes_diary : Notes diary attempt where
  attempt r := by
    unfold attempt
    simp only
    split <;> rfl
  pause _ _ := rfl

end Rehearsal

/-- A timeout and a damaged frame are retried; what comes then is final, though a retry is left. -/
theorem withRetries_course_final :
    let lost : Error := .timeout "reply"
    let damaged : Error := .frame .checksumMismatch
    let r : Rehearsal := ⟨[.error lost, .error damaged, .error .handshakeTimeout, .ok 7], []⟩
    Notes Rehearsal.diary Rehearsal.attempt ∧
      Outcome.result (withRetries Rehearsal.attempt r) = .error .handshakeTimeout ∧
      Rehearsal.diary (Outcome.state (withRetries Rehearsal.attempt r)) =
        [.attempt, .pause 1000, .attempt, .pause 2000, .attempt] := by
  intro lost damaged r
  obtain ⟨transient, run, -⟩ := @withRetries_course Rehearsal Nat _
  obtain ⟨n, most, same, others, stops, noted⟩ := run Rehearsal.attempt r
  have two : n = 2 := by
    rcases (by omega : n = 0 ∨ n = 1 ∨ n = 2 ∨ n = 3) with rfl | rfl | two | rfl
    · exact absurd ((transient lost).mpr (.inl ⟨_, rfl⟩)) (stops (by decide) lost _ rfl)
    · exact absurd ((transient damaged).mpr (.inr ⟨_, rfl⟩)) (stops (by decide) damaged _ rfl)
    · exact two
    · obtain ⟨e, t, failed, passing⟩ := others 2 (by decide)
      cases failed
      cases passing
  subst two
  refine ⟨Rehearsal.notes_diary, ?_, noted _ Rehearsal.notes_diary⟩
  rw [same]
  rfl

end SolarTelemetry
