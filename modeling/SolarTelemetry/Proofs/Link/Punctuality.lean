import SolarTelemetry.Proofs.Channel.Punctuality
import SolarTelemetry.Proofs.Link.Reading

/-!
# Links keep to the time

Whoever waits on a link goes on at the moment that wakes him, or when his time is over. So a link is
punctual whatever its transport does, and a lack of time is never what it fails with.
-/

namespace SolarTelemetry.Link

/-- To wait takes all the time there is, unless something wakes whoever waits. -/
theorem now_await {limit : Nat} (wake : Link → Bool) {link : Link} (begun : link.now ≤ limit) :
    link.now ≤ (link.await limit wake).now ∧ (link.await limit wake).now ≤ limit ∧
      (wake (link.await limit wake) = false → (link.await limit wake).now = limit) := by
  fun_induction await limit wake link with
  | case1 link idle =>
    have elapsed : (link.advance limit).now = limit := Nat.max_eq_right begun
    rw [elapsed]
    exact ⟨begun, Nat.le_refl _, fun _ => rfl⟩
  | case2 link polled eq settled awake =>
    obtain ⟨-, -, -, onward, soon⟩ := exists_of_poll? eq begun
    obtain ⟨-, -, -, still, -⟩ := exists_of_catchUp polled
    rw [still]
    refine ⟨onward, soon, fun asleep => ?_⟩
    rw [awake] at asleep
    cases asleep
  | case3 link polled eq settled asleep ih =>
    obtain ⟨-, -, -, onward, soon⟩ := exists_of_poll? eq begun
    obtain ⟨-, -, -, still, -⟩ := exists_of_catchUp polled
    have later := ih (Nat.le_trans (Nat.le_of_eq still) soon)
    rw [still] at later
    exact ⟨Nat.le_trans onward later.1, later.2⟩

theorem now_awaitPayload (wait : Nat) (link : Link) :
    link.now ≤ (link.awaitPayload wait).now ∧ (link.awaitPayload wait).now ≤ link.now + wait ∧
      ((link.awaitPayload wait).queue = none → (link.awaitPayload wait).phase ≠ .failed →
        (link.awaitPayload wait).now = link.now + wait) := by
  unfold awaitPayload
  cases queue : link.queue with
  | some d =>
    refine ⟨Nat.le_refl _, Nat.le_add_right _ _, fun empty => ?_⟩
    rw [Option.isSome_some, if_pos rfl, queue] at empty
    cases empty
  | none =>
    obtain ⟨onward, soon, elapsed⟩ := now_await (fun l => l.queue.isSome || l.phase == .failed)
      (Nat.le_add_right link.now wait)
    refine ⟨onward, soon, fun empty sound => elapsed ?_⟩
    simpa using ⟨empty, sound⟩

/-- Whatever its transport does, a link keeps to the time. -/
theorem punctual (link : Link) : Channel.Punctual link := by
  refine Channel.punctual_of_kept (fun _ => True) (fun _ _ _ => trivial) ?_ trivial
  intro wait link _
  suffices law : link.now ≤ (Outcome.state (read wait link)).now ∧
      (Outcome.state (read wait link)).now ≤ link.now + wait ∧
      (Outcome.result (read wait link) = .ok none →
        (Outcome.state (read wait link)).now = link.now + wait) from ⟨law.1, law.2.1, law.2.2⟩
  cases sound : link.fault? with
  | some e =>
    have ran : read wait link = .error e link := by rw [read, sound]
    rw [ran]
    refine ⟨Nat.le_refl _, Nat.le_add_right _ _, fun nothing => ?_⟩
    cases nothing
  | none =>
    obtain ⟨onward, soon, elapsed⟩ := now_awaitPayload wait link
    rw [read_eq wait sound]
    cases queue : (link.awaitPayload wait).queue with
    | some d =>
      refine ⟨onward, soon, fun nothing => ?_⟩
      cases nothing
    | none =>
      by_cases failed : (link.awaitPayload wait).phase = .failed
      · simp only [if_pos failed]
        refine ⟨onward, soon, fun nothing => ?_⟩
        cases nothing
      · simp only [if_neg failed]
        exact ⟨onward, soon, fun _ => elapsed queue failed⟩

/-- A link reports what broke it, and that is not a lack of time. -/
theorem read_ne_timeout (wait : Nat) (link : Link) (what : String) :
    Outcome.result (read wait link) ≠ .error (.timeout what) := by
  intro late
  cases sound : link.fault? with
  | some e =>
    have ran : read wait link = .error e link := by rw [read, sound]
    rw [ran] at late
    unfold fault? at sound
    split at sound <;> cases sound <;> cases late
  | none =>
    rw [read_eq wait sound] at late
    split at late
    · cases late
    · split at late <;> cases late

theorem failure_ne_timeout (deadline : Nat) (link : Link) (moment : Nat) (what : String) :
    (Channel.arrivals deadline link).failure ≠ some (moment, .timeout what) := by
  fun_induction Channel.arrivals deadline link with
  | case1 =>
    intro failed
    cases failed
  | case2 link early e next received =>
    intro failed
    cases failed
    exact read_ne_timeout _ link what (congrArg Outcome.result received)
  | case3 =>
    intro failed
    cases failed
  | case4 link early d next received more ih => exact ih

end SolarTelemetry.Link
