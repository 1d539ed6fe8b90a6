import Mathlib.Data.List.Pairwise
import SolarTelemetry.Channel.Script
import SolarTelemetry.Proofs.Running

/-!
# Channels that keep to the time

To receive from a punctual channel never takes longer than allowed, and yields nothing only when all
of that time is over. What a channel hands over to somebody who goes on receiving until a moment are
its arrivals.
-/

namespace SolarTelemetry

namespace Channel

variable {σ : Type} [Channel σ] {c : σ} {wait deadline : Nat}

/-- A receipt takes no longer than allowed, and just as long if nothing comes of it. -/
structure Timely (wait : Nat) (c : σ) : Prop where
  onward : Clock.now c ≤ Clock.now (Outcome.state (receive wait c))
  prompt : Clock.now (Outcome.state (receive wait c)) ≤ Clock.now c + wait
  patient : Outcome.result (receive wait c) = .ok none →
    Clock.now (Outcome.state (receive wait c)) = Clock.now c + wait

/-- Whatever has been received before, the next receipt is timely. -/
def Punctual (c : σ) : Prop :=
  ∀ (waits : List Nat) (wait : Nat),
    Timely wait (waits.foldl (fun c wait => Outcome.state (receive wait c)) c)

theorem Punctual.timely (punctual : Punctual c) (wait : Nat) : Timely wait c := punctual [] wait

theorem Punctual.receive (punctual : Punctual c) (wait : Nat) :
    Punctual (Outcome.state (receive wait c)) := fun waits => punctual (wait :: waits)

theorem punctual_of_kept (legal : σ → Prop)
    (kept : ∀ wait c, legal c → legal (Outcome.state (receive wait c)))
    (timely : ∀ wait c, legal c → Timely wait c) (start : legal c) : Punctual c := by
  intro waits
  induction waits generalizing c with
  | nil => exact fun wait => timely wait c start
  | cons wait waits ih => exact ih (kept wait c start)

/-- What is handed over, with the moment of each delivery, and the failure that ends it, if one
does. -/
structure Arrivals where
  deliveries : List (Nat × Delivery) := []
  failure : Option (Nat × Error) := none

def Arrivals.moments (a : Arrivals) : List Nat :=
  a.deliveries.map Prod.fst ++ a.failure.toList.map Prod.fst

/-- What a channel hands over to somebody who goes on receiving until a moment. -/
def arrivals (deadline : Nat) (c : σ) : Arrivals :=
  if deadline ≤ Clock.now c then {}
  else
    match _received : receive (deadline - Clock.now c) c with
    | .error e c => { failure := some (Clock.now c, e) }
    | .ok none _ => {}
    | .ok (some d) c =>
      let more := arrivals deadline c
      { more with deliveries := (Clock.now c, d) :: more.deliveries }
termination_by pending c
decreasing_by
  have := pending_receive_lt _received
  omega

theorem arrivals_of_late (late : deadline ≤ Clock.now c) : arrivals deadline c = {} := by
  rw [arrivals, if_pos late]

theorem arrivals_eq (early : Clock.now c < deadline) :
    arrivals deadline c =
      match receive (deadline - Clock.now c) c with
      | .error e c => { failure := some (Clock.now c, e) }
      | .ok none _ => {}
      | .ok (some d) c =>
        { arrivals deadline c with
          deliveries := (Clock.now c, d) :: (arrivals deadline c).deliveries } := by
  rw [arrivals, if_neg (Nat.not_le.mpr early)]
  split <;> next received => rw [received]

/-- Time goes on from one arrival to the next. -/
theorem Punctual.moments_sorted (punctual : Punctual c) (deadline : Nat) :
    (Clock.now c :: (arrivals deadline c).moments).Pairwise (· ≤ ·) := by
  fun_induction arrivals deadline c with
  | case1 c late => exact List.pairwise_singleton _ _
  | case2 c early e next received =>
    have onward := (punctual.timely (deadline - Clock.now c)).onward
    rw [received] at onward
    exact List.pairwise_pair.mpr onward
  | case3 c early next received => exact List.pairwise_singleton _ _
  | case4 c early d next received more ih =>
    have onward := (punctual.timely (deadline - Clock.now c)).onward
    have left := punctual.receive (deadline - Clock.now c)
    rw [received] at onward left
    exact List.pairwise_cons_cons_iff_of_trans.mpr ⟨onward, ih left⟩

end Channel

namespace Script

open Channel

/-- A script is punctual unless it gives up before the time is over. -/
theorem punctual {s : Script} (busy : ∀ item ∈ s.items, item.event ≠ .nothing) : Punctual s := by
  refine punctual_of_kept (fun s => ∀ item ∈ s.items, item.event ≠ .nothing) ?_ ?_ busy
  · intro wait s busy
    change ∀ item ∈ (Outcome.state (receive wait s)).items, item.event ≠ .nothing
    unfold receive
    split
    · exact busy
    · next item rest items =>
      obtain ⟨first, others⟩ := List.forall_mem_cons.mp (items ▸ busy)
      split
      · exact List.forall_mem_cons.mpr ⟨first, others⟩
      · cases item.event <;> exact others
  · intro wait s busy
    suffices law : s.now ≤ (Outcome.state (receive wait s)).now ∧
        (Outcome.state (receive wait s)).now ≤ s.now + wait ∧
        (Outcome.result (receive wait s) = .ok none →
          (Outcome.state (receive wait s)).now = s.now + wait) from ⟨law.1, law.2.1, law.2.2⟩
    unfold receive
    split
    · exact ⟨Nat.le_add_right _ _, Nat.le_refl _, fun _ => rfl⟩
    · next item rest items =>
      split
      · exact ⟨Nat.le_add_right _ _, Nat.le_refl _, fun _ => rfl⟩
      · next long =>
        have soon : s.now + item.after ≤ s.now + wait := by omega
        cases event : item.event with
        | nothing => exact absurd event (busy item (items ▸ List.mem_cons_self))
        | delivery d => exact ⟨Nat.le_add_right _ _, soon, nofun⟩
        | failure e => exact ⟨Nat.le_add_right _ _, soon, nofun⟩

end Script

end SolarTelemetry
