import SolarTelemetry.Proofs.Running
import SolarTelemetry.Retry

/-!
# Attempts

A run with retries makes one attempt after another. What comes of it is what comes of its last
attempt; the others failed, and were each granted a retry.
-/

namespace SolarTelemetry.RetryBudget

variable {σ α : Type} [Clock σ]

/-- How many attempts a run makes. -/
def attempts (b : RetryBudget) (attempt : Action σ α) (s : σ) : Nat :=
  match attempt s with
  | .ok _ _ => 1
  | .error e s =>
    match _h : b.grant? e with
    | none => 1
    | some c => 1 + attempts c attempt (Clock.sleep c.pause s)
termination_by b.ceiling - b.retries
decreasing_by exact left_of_grant _h

/-- The states in which the attempts of a run begin. -/
def starts (b : RetryBudget) (attempt : Action σ α) (s : σ) : List σ :=
  match attempt s with
  | .ok _ _ => [s]
  | .error e t =>
    match _h : b.grant? e with
    | none => [s]
    | some c => s :: starts c attempt (Clock.sleep c.pause t)
termination_by b.ceiling - b.retries
decreasing_by exact left_of_grant _h

/-- Attempts that were granted a retry lie between one state and budget and another. -/
inductive Retried (attempt : Action σ α) : RetryBudget → σ → RetryBudget → σ → Prop where
  | none {b s} : Retried attempt b s b s
  | retry {b c d s t u e} : attempt s = .error e t → b.grant? e = some c →
      Retried attempt c (Clock.sleep c.pause t) d u → Retried attempt b s d u

variable {attempt : Action σ α} {b c : RetryBudget} {s t : σ} {a : α} {e : Error}

theorem attempts_pos (b : RetryBudget) (attempt : Action σ α) (s : σ) :
    0 < b.attempts attempt s := by
  fun_induction attempts b attempt s with
  | case1 | case2 => exact Nat.one_pos
  | case3 => omega

theorem run_of_ok (ran : attempt s = .ok a t) : b.run attempt s = .ok a t := by
  rw [run, ran]

theorem run_of_refused (ran : attempt s = .error e t) (refused : b.grant? e = none) :
    b.run attempt s = .error e t := by
  rw [run, ran]
  simp only
  split
  · rfl
  · next granted =>
    rw [refused] at granted
    cases granted

theorem run_of_granted (ran : attempt s = .error e t) (granted : b.grant? e = some c) :
    b.run attempt s = c.run attempt (Clock.sleep c.pause t) := by
  rw [run, ran]
  simp only
  split
  · next refused =>
    rw [refused] at granted
    cases granted
  · next other =>
    rw [granted] at other
    cases other
    rfl

theorem grant?_of_final (final : e.isTransient = false) : b.grant? e = none := by
  unfold grant?
  rw [if_neg (by simp [final])]

theorem transient_of_granted (granted : b.grant? e = some c) : e.isTransient = true := by
  unfold grant? at granted
  split at granted
  · next allowed => exact allowed.1
  · cases granted

theorem Retried.run_eq {d : RetryBudget} {u : σ} (h : Retried attempt b s d u) :
    b.run attempt s = d.run attempt u := by
  induction h with
  | none => rfl
  | retry ran granted _ ih => rw [run_of_granted ran granted, ih]

/-- A run comes to what its last attempt comes to. -/
theorem exists_last (attempt : Action σ α) (b : RetryBudget) (s : σ) :
    ∃ c t, Retried attempt b s c t ∧ b.run attempt s = attempt t := by
  fun_induction run b attempt s with
  | case1 b s a t ran => exact ⟨b, s, .none, ran.symm⟩
  | case2 b s e t ran refused => exact ⟨b, s, .none, ran.symm⟩
  | case3 b s e t ran c granted ih =>
    obtain ⟨d, u, others, last⟩ := ih
    exact ⟨d, u, .retry ran granted others, last⟩

section

variable {k : Nat} {u : σ}

theorem starts_of_ok (ran : attempt s = .ok a t) : b.starts attempt s = [s] := by
  rw [starts, ran]

theorem starts_of_refused (ran : attempt s = .error e t) (refused : b.grant? e = none) :
    b.starts attempt s = [s] := by
  rw [starts, ran]
  simp only
  split
  · rfl
  · next granted =>
    rw [refused] at granted
    cases granted

theorem starts_of_granted (ran : attempt s = .error e t) (granted : b.grant? e = some c) :
    b.starts attempt s = s :: c.starts attempt (Clock.sleep c.pause t) := by
  rw [starts, ran]
  simp only
  split
  · next refused =>
    rw [refused] at granted
    cases granted
  · next other =>
    rw [granted] at other
    cases other
    rfl

theorem length_starts (b : RetryBudget) (attempt : Action σ α) (s : σ) :
    (b.starts attempt s).length = b.attempts attempt s := by
  fun_induction attempts b attempt s with
  | case1 b s a t ran =>
    rw [starts_of_ok ran]
    rfl
  | case2 b s e t ran refused =>
    rw [starts_of_refused ran refused]
    rfl
  | case3 b s e t ran c granted ih =>
    rw [starts_of_granted ran granted, List.length_cons, ih, Nat.add_comm]

theorem length_starts_le (b : RetryBudget) (attempt : Action σ α) (s : σ) :
    (b.starts attempt s).length ≤ b.ceiling - b.retries + 1 := by
  fun_induction starts b attempt s with
  | case1 | case2 => exact Nat.le_add_left _ _
  | case3 b s e t ran c granted ih =>
    have less := left_of_grant granted
    rw [List.length_cons]
    omega

theorem head?_starts (b : RetryBudget) (attempt : Action σ α) (s : σ) :
    (b.starts attempt s).head? = some s := by
  fun_induction starts b attempt s <;> rfl

theorem getElem?_starts_zero (b : RetryBudget) (attempt : Action σ α) (s : σ) :
    (b.starts attempt s)[0]? = some s := by
  rw [← List.head?_eq_getElem?, head?_starts]

/-- Where retries lead, an attempt begins. -/
theorem Retried.exists_getElem?_starts (h : Retried attempt b s c t) :
    ∃ k : Nat, (b.starts attempt s)[k]? = some t := by
  induction h with
  | @none b s => exact ⟨0, getElem?_starts_zero b attempt s⟩
  | retry ran granted _ ih =>
    obtain ⟨k, began⟩ := ih
    refine ⟨k + 1, ?_⟩
    rw [starts_of_granted ran granted, List.getElem?_cons_succ, began]

/-- A run comes to what the attempt comes to that begins last. -/
theorem exists_starts_eq (b : RetryBudget) (attempt : Action σ α) (s : σ) :
    ∃ before last, b.starts attempt s = before ++ [last] ∧ b.run attempt s = attempt last := by
  fun_induction run b attempt s with
  | case1 b s a t ran => exact ⟨[], s, starts_of_ok ran, ran.symm⟩
  | case2 b s e t ran refused => exact ⟨[], s, starts_of_refused ran refused, ran.symm⟩
  | case3 b s e t ran c granted ih =>
    obtain ⟨before, last, split, same⟩ := ih
    refine ⟨s :: before, last, ?_, same⟩
    rw [starts_of_granted ran granted, split]
    rfl

/-- From any of its attempts on, a run is the run that begins there with fewer retries left. -/
theorem drop_starts (began : (b.starts attempt s)[k]? = some t) :
    let left : RetryBudget := { b with retries := b.retries + k }
    (b.starts attempt s).drop k = left.starts attempt t ∧
      b.run attempt s = left.run attempt t := by
  induction k generalizing b s with
  | zero =>
    rw [getElem?_starts_zero] at began
    cases began
    exact ⟨rfl, rfl⟩
  | succ k ih =>
    cases ran : attempt s with
    | ok a u =>
      rw [starts_of_ok ran] at began
      cases began
    | error e u =>
      cases granted : b.grant? e with
      | none =>
        rw [starts_of_refused ran granted] at began
        cases began
      | some c =>
        rw [starts_of_granted ran granted] at began ⊢
        rw [run_of_granted ran granted]
        have rest := ih began
        have one : c = { b with retries := b.retries + 1 } := by
          unfold grant? at granted
          split at granted
          · exact (Option.some.inj granted).symm
          · cases granted
        subst one
        simp only [Nat.add_assoc, Nat.add_comm 1] at rest
        exact rest

/-- If no other follows it, an attempt is the last of the run. -/
theorem length_starts_of_last (began : (b.starts attempt s)[k]? = some t)
    (last : ({ b with retries := b.retries + k } : RetryBudget).starts attempt t = [t]) :
    (b.starts attempt s).length = k + 1 := by
  obtain ⟨rest, -⟩ := drop_starts began
  have inside := (List.getElem?_eq_some_iff.mp began).1
  have one := congrArg List.length rest
  rw [last, List.length_drop, List.length_singleton] at one
  omega

/-- An attempt that succeeds is the last. -/
theorem starts_of_success (began : (b.starts attempt s)[k]? = some t)
    (ran : attempt t = .ok a u) :
    (b.starts attempt s).length = k + 1 ∧ b.run attempt s = .ok a u := by
  obtain ⟨-, same⟩ := drop_starts began
  refine ⟨length_starts_of_last began (starts_of_ok ran), ?_⟩
  rw [same, run_of_ok ran]

/-- After an attempt that failed comes another, if the error is transient and a retry is left. -/
theorem starts_of_transient (began : (b.starts attempt s)[k]? = some t)
    (failed : attempt t = .error e u) (transient : e.isTransient)
    (left : b.retries + k < b.ceiling) :
    (b.starts attempt s)[k + 1]? = some (Clock.sleep (1000 * (b.retries + k + 1)) u) := by
  have granted : ({ b with retries := b.retries + k } : RetryBudget).grant? e =
      some { b with retries := b.retries + k + 1 } := if_pos ⟨transient, left⟩
  obtain ⟨rest, -⟩ := drop_starts began
  have next := congrArg (·[1]?) rest
  simp only [List.getElem?_drop, starts_of_granted failed granted, List.getElem?_cons_succ] at next
  rw [getElem?_starts_zero] at next
  exact next

/-- An attempt that failed is the last, if the error is final or no retry is left. -/
theorem starts_of_final (began : (b.starts attempt s)[k]? = some t)
    (failed : attempt t = .error e u) (final : ¬(e.isTransient ∧ b.retries + k < b.ceiling)) :
    (b.starts attempt s).length = k + 1 ∧ b.run attempt s = .error e u := by
  have refused : ({ b with retries := b.retries + k } : RetryBudget).grant? e = none :=
    if_neg final
  obtain ⟨-, same⟩ := drop_starts began
  refine ⟨length_starts_of_last began (starts_of_refused failed refused), ?_⟩
  rw [same, run_of_refused failed refused]

end

theorem leads_run {R : σ → σ → Prop} [Trans R R R] (h : attempt.Leads R)
    (rest : ∀ ms s, R s (Clock.sleep ms s)) (b : RetryBudget) : Action.Leads R (b.run attempt) := by
  intro s
  fun_induction run b attempt s with
  | case1 b s a t ran => exact (ran ▸ h s :)
  | case2 b s e t ran refused => exact (ran ▸ h s :)
  | case3 b s e t ran c granted ih =>
    have failed : R s t := (ran ▸ h s :)
    exact Trans.trans failed (Trans.trans (rest c.pause t) ih)

/-- What the attempts of a run lead to holds where each of them begins. -/
theorem leads_starts {R : σ → σ → Prop} [Std.Refl R] [Trans R R R] (h : attempt.Leads R)
    (rest : ∀ ms s, R s (Clock.sleep ms s)) {k : Nat} (began : (b.starts attempt s)[k]? = some t) :
    R s t := by
  fun_induction starts b attempt s generalizing k with
  | case1 | case2 =>
    obtain rfl := List.mem_singleton.mp (List.mem_of_getElem? began)
    exact Std.Refl.refl _
  | case3 b s e u ran c granted ih =>
    cases k with
    | zero =>
      cases began
      exact Std.Refl.refl _
    | succ k =>
      have failed : R s u := (ran ▸ h s :)
      exact Trans.trans failed (Trans.trans (rest c.pause u) (ih began))

end SolarTelemetry.RetryBudget
