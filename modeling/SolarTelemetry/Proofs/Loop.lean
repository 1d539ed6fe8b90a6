import Mathlib.Data.Sum.Basic

/-!
# Loops that come to an end

One round of a loop ends it with a result or goes on in another state. When every round that goes on
takes its share of what the state holds, the loop ends after no more rounds than there are shares.
What it ends with is what any function yields that no round changes the value of.
-/

namespace SolarTelemetry

variable {σ ρ : Type} {round : σ → ρ ⊕ σ} {size : σ → Nat} {share : Nat} {value : σ → ρ}

/-- A loop ends with a result after so many rounds that go on. -/
inductive Ends (round : σ → ρ ⊕ σ) : σ → Nat → ρ → Prop
  | last {s : σ} {r : ρ} (stops : round s = .inl r) : Ends round s 0 r
  | again {s next : σ} {n : Nat} {r : ρ} (goes : round s = .inr next)
    (rest : Ends round next n r) : Ends round s (n + 1) r

/-- Every round that goes on makes the state smaller by a share or more. -/
def Consumes (round : σ → ρ ⊕ σ) (size : σ → Nat) (share : Nat) : Prop :=
  ∀ s next, round s = .inr next → size next + share ≤ size s

/-- A round leaves the value of a state as it is, and the last round yields it. -/
def Yields (round : σ → ρ ⊕ σ) (value : σ → ρ) : Prop :=
  ∀ s, Sum.elim id value (round s) = value s

theorem Consumes.share_mul_le (consumes : Consumes round size share) {s : σ} {n : Nat} {r : ρ}
    (ends : Ends round s n r) : share * n ≤ size s := by
  induction ends with
  | last => exact Nat.zero_le _
  | again goes _ ih =>
    have taken := consumes _ _ goes
    rw [Nat.mul_succ]
    omega

theorem Yields.eq_value (yields : Yields round value) {s : σ} {n : Nat} {r : ρ}
    (ends : Ends round s n r) : r = value s := by
  induction ends with
  | @last s r stops => rw [← yields s, stops, Sum.elim_inl, id]
  | @again s next n r goes _ ih => rw [ih, ← yields s, goes, Sum.elim_inr]

theorem Consumes.exists_ends (consumes : Consumes round size share) (some_share : 0 < share)
    (s : σ) : ∃ n r, Ends round s n r := by
  match looked : round s with
  | .inl r => exact ⟨0, r, .last looked⟩
  | .inr next =>
    obtain ⟨n, r, ends⟩ := consumes.exists_ends some_share next
    exact ⟨n + 1, r, .again looked ends⟩
termination_by size s
decreasing_by
  have taken := consumes s next looked
  omega

/-- A loop whose rounds consume ends in time, with what its rounds yield. -/
theorem Consumes.ends_in (consumes : Consumes round size share) (some_share : 0 < share)
    (yields : Yields round value) (s : σ) : ∃ n, share * n ≤ size s ∧ Ends round s n (value s) := by
  obtain ⟨n, r, ends⟩ := consumes.exists_ends some_share s
  obtain rfl := yields.eq_value ends
  exact ⟨n, consumes.share_mul_le ends, ends⟩

end SolarTelemetry
