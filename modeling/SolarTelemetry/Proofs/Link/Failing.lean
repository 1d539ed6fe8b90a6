import SolarTelemetry.Proofs.Link.Scheduling

/-!
# Failing under a caller

A reader that fails records why and ends. Whoever waits for a payload watches for this as well and
is told at once; whoever waits for a signal report watches for nothing else, and is told after the
whole wait that it took too long.
-/

namespace SolarTelemetry.Link

/-- The link as its reader leaves it when it fails, if what arrives makes it fail. -/
def breakdown? (link : Link) : Option Link :=
  match _next : link.arriving? with
  | none => none
  | some (got, transport) =>
    if (accept got (link.reading transport)).phase = .failed then
      some (accept got (link.reading transport))
    else breakdown? (accept got (link.reading transport))
termination_by link.weight
decreasing_by exact weight_arriving_lt _next

section Accepting

variable {link : Link} {got : Except String Bytes}

theorem isReading_handle {p : Packet} {link' : Link} (reads : link.phase.isReading)
    (handled : handle p link = .ok () link') : link'.phase.isReading := by
  cases names : link.networkOf? p with
  | none =>
    obtain ⟨next, eq, -, still, -⟩ := exists_of_handle names
    rw [eq] at handled
    cases handled
    exact still.trans reads
  | some netId =>
    rw [handle_of_networkOf? names] at handled
    split at handled
    · cases handled
      rfl
    · cases handled

theorem isReading_handleAll {ps : List Packet} {link' : Link} (reads : link.phase.isReading)
    (handled : handleAll ps link = .ok () link') : link'.phase.isReading := by
  induction ps generalizing link with
  | nil =>
    cases handled
    exact reads
  | cons p ps ih =>
    obtain ⟨_, next, first, rest⟩ := Action.bind_eq_ok_iff.mp handled
    exact ih (isReading_handle reads first) rest

/-- A link that fails records why. -/
theorem exists_failure (reads : link.phase.isReading)
    (failed : (accept got link).phase = .failed) :
    ∃ reason, (accept got link).failure = some reason := by
  cases got with
  | error reason => exact ⟨_, rfl⟩
  | ok octets =>
    unfold accept at failed ⊢
    simp only at failed ⊢
    split at failed
    · next e next ran => exact ⟨_, rfl⟩
    · next next ran =>
      split at failed
      · exact ⟨_, rfl⟩
      · have still := @isReading_handleAll { link with buffer := [] } _ _ reads ran
        exact absurd failed (Phase.ne_failed_of_isReading still)

theorem isSome_queue_accept (unread : link.queue.isSome) : (accept got link).queue.isSome := by
  rw [queue_accept, Option.isSome_or, unread, Bool.or_true]

theorem isSome_signal_accept (heard : link.signal.isSome) : (accept got link).signal.isSome := by
  have same : setAside none link.signal id { link with signal := none } = link := by
    rw [setAside, Option.or_none]
    rfl
  rw [← same, accept_setAside]
  change ((accept got { link with signal := none }).signal.or link.signal).isSome
  rw [Option.isSome_or, heard, Bool.or_true]

end Accepting

section Breaking

variable {link polled broken : Link} {limit : Nat}

theorem breakdown?_of_silence (h : link.arriving? = none) : link.breakdown? = none := by
  rw [breakdown?]
  split
  · rfl
  · next same => rw [h] at same; cases same

theorem breakdown?_of_arriving {got : Except String Bytes} {transport : Transport}
    (h : link.arriving? = some (got, transport)) :
    link.breakdown? =
      if (accept got (link.reading transport)).phase = .failed then
        some (accept got (link.reading transport))
      else (accept got (link.reading transport)).breakdown? := by
  rw [breakdown?]
  split
  · next same => rw [h] at same; cases same
  · next got' transport' same =>
    rw [h] at same
    cases same
    rfl

theorem breakdown?_of_failed (failed : link.phase = .failed) : link.breakdown? = none := by
  apply breakdown?_of_silence
  rw [arriving?, failed]
  rfl

/-- What is known of a link whose reader has failed. -/
structure Broken (link broken : Link) : Prop where
  failed : broken.phase = .failed
  recorded : ∃ reason, broken.failure = some reason
  later : link.now ≤ broken.now
  unread : link.queue.isSome → broken.queue.isSome
  heard : link.signal.isSome → broken.signal.isSome

theorem broken_of_breakdown? (breaks : link.breakdown? = some broken) : Broken link broken := by
  fun_induction breakdown? link with
  | case1 => cases breaks
  | case2 link got transport arrived failed =>
    cases breaks
    obtain ⟨next, later, reads, -, -⟩ := exists_of_arriving arrived
    refine ⟨failed, @exists_failure (link.reading transport) got reads failed, ?_,
      @isSome_queue_accept (link.reading transport) got,
      @isSome_signal_accept (link.reading transport) got⟩
    rw [now_accept]
    exact now_arriving arrived
  | case3 link got transport arrived going ih =>
    have rest := ih breaks
    refine ⟨rest.failed, rest.recorded, ?_, ?_, ?_⟩
    · have after := rest.later
      rw [now_accept] at after
      exact Nat.le_trans (now_arriving arrived) after
    · exact fun unread => rest.unread (@isSome_queue_accept (link.reading transport) got unread)
    · exact fun heard => rest.heard (@isSome_signal_accept (link.reading transport) got heard)

/-- A read that waits long enough for the next arrival is a step towards the failure. -/
theorem breakdown?_of_poll? (eq : link.poll? limit = some polled) (begun : link.now ≤ limit) :
    link.breakdown? = if polled.phase = .failed then some polled else polled.breakdown? := by
  cases arrived : link.arriving? with
  | none =>
    rw [poll?_of_silence arrived] at eq
    cases eq
  | some next =>
    obtain ⟨got, transport⟩ := next
    rw [poll?_of_arriving arrived begun] at eq
    split at eq
    · cases eq
      exact breakdown?_of_arriving arrived
    · cases eq

/-- A read that gets nothing ends before the failure. -/
theorem lt_of_breakdown? (idle : link.poll? limit = none) (begun : link.now ≤ limit)
    (breaks : link.breakdown? = some broken) : limit < broken.now := by
  cases arrived : link.arriving? with
  | none =>
    rw [breakdown?_of_silence arrived] at breaks
    cases breaks
  | some next =>
    obtain ⟨got, transport⟩ := next
    rw [poll?_of_arriving arrived begun] at idle
    split at idle
    · cases idle
    · next late =>
      have moment : transport.now ≤ broken.now := by
        rw [breakdown?_of_arriving arrived] at breaks
        split at breaks
        · cases breaks
          rw [now_accept]
          exact Nat.le_refl _
        · have after := (broken_of_breakdown? breaks).later
          rw [now_accept] at after
          exact after
      exact Nat.lt_of_lt_of_le (Nat.not_le.mp late) moment

theorem poll?_of_failed (failed : link.phase = .failed) (limit : Nat) :
    link.poll? limit = none := by
  rw [poll?, failed]
  rfl

theorem catchUp_of_failed (failed : link.phase = .failed) : link.catchUp = link := by
  rw [catchUp]
  split
  · rfl
  · next same => rw [poll?_of_failed failed] at same; cases same

/-- All that is due at a moment is handled, up to the failure. -/
theorem breakdown?_catchUp (breaks : link.breakdown? = some broken) :
    link.catchUp = broken ∨ link.catchUp.breakdown? = some broken := by
  fun_induction catchUp link with
  | case1 => exact .inr breaks
  | case2 link polled eq ih =>
    rw [breakdown?_of_poll? eq (Nat.le_refl _)] at breaks
    split at breaks
    · next failed =>
      cases breaks
      exact .inl (catchUp_of_failed failed)
    · exact ih breaks

theorem breakdown?_moment (eq : link.poll? limit = some polled) (begun : link.now ≤ limit)
    (breaks : link.breakdown? = some broken) :
    polled.catchUp = broken ∨ polled.catchUp.breakdown? = some broken := by
  rw [breakdown?_of_poll? eq begun] at breaks
  split at breaks
  · next failed =>
    cases breaks
    exact .inl (catchUp_of_failed failed)
  · exact breakdown?_catchUp breaks

theorem await_of_failed (failed : link.phase = .failed) (wake : Link → Bool) :
    link.await limit wake = link.advance limit := by
  rw [await]
  split
  · rfl
  · next same => rw [poll?_of_failed failed] at same; cases same

/-- Whoever is not woken before the failure is woken by it, or waits to the end. -/
theorem await_of_breakdown? {wake : Link → Bool}
    (asleep : ∀ l : Link, l.breakdown? = some broken → wake l = false) (begun : link.now ≤ limit)
    (breaks : link.breakdown? = some broken) (soon : broken.now ≤ limit) :
    link.await limit wake = if wake broken then broken else broken.advance limit := by
  fun_induction await limit wake link with
  | case1 link idle =>
    -- Waiting to the end without an arrival would be to wait past the failure.
    exact absurd (lt_of_breakdown? idle begun breaks) (Nat.not_lt.mpr soon)
  | case2 link polled eq settled awake =>
    rcases breakdown?_moment eq begun breaks with same | going
    · rw [← same, if_pos awake]
    · rw [asleep _ going] at awake
      cases awake
  | case3 link polled eq settled sleeping ih =>
    rcases breakdown?_moment eq begun breaks with same | going
    · -- There is no reader anymore, so nothing ends the rest of the wait.
      have failed := (broken_of_breakdown? breaks).failed
      change polled.catchUp.await limit wake = _
      rw [← same, if_neg sleeping]
      exact await_of_failed (same ▸ failed) wake
    · exact ih (Nat.le_trans (broken_of_breakdown? going).later soon) going

end Breaking

section Telling

variable {link asked broken : Link}

theorem failureError_of_recorded {reason : String} (recorded : broken.failure = some reason) :
    broken.failureError = .link (.failed reason) := by
  rw [failureError, recorded]
  rfl

/-- Whoever waits for a payload is told of the failure. -/
theorem read_of_breakdown? {wait : Nat} (usable : link.fault? = none)
    (breaks : link.breakdown? = some broken) (soon : broken.now ≤ link.now + wait)
    (unread : broken.queue = none) : read wait link = .error broken.failureError broken := by
  have empty (l : Link) (going : l.breakdown? = some broken) : l.queue.isSome = false := by
    by_contra full
    have still := (broken_of_breakdown? going).unread (Bool.not_eq_false _ ▸ full)
    rw [unread] at still
    cases still
  have asleep (l : Link) (going : l.breakdown? = some broken) :
      (l.queue.isSome || l.phase == .failed) = false := by
    have sound : l.phase ≠ .failed := by
      intro failed
      rw [breakdown?_of_failed failed] at going
      cases going
    rw [empty l going, beq_false_of_ne sound]
    rfl
  have failed := (broken_of_breakdown? breaks).failed
  have waited : link.awaitPayload wait = broken := by
    unfold awaitPayload
    rw [empty link breaks, if_neg Bool.false_ne_true,
      await_of_breakdown? asleep (Nat.le_add_right _ _) breaks soon, failed]
    exact if_pos (Bool.or_true _)
  rw [read_eq wait usable, waited, unread]
  exact if_pos failed

/-- Whoever waits for a signal report is not told of the failure. -/
theorem signalStrength_of_breakdown? {peer : Address} (usable : link.fault? = none)
    (sent : transmitOne (link.signalQuery peer) { link with signal := none } = .ok () asked)
    (breaks : asked.breakdown? = some broken) (soon : broken.now ≤ asked.now + signalLimit)
    (unheard : broken.signal = none) :
    signalStrength peer link =
      .error (.timeout "signal strength") (broken.advance (asked.now + signalLimit)) := by
  have asleep (l : Link) (going : l.breakdown? = some broken) : l.signal.isSome = false := by
    by_contra full
    have still := (broken_of_breakdown? going).heard (Bool.not_eq_false _ ▸ full)
    rw [unheard] at still
    cases still
  have waited : asked.awaitReport = broken.advance (asked.now + signalLimit) := by
    unfold awaitReport
    rw [await_of_breakdown? asleep (Nat.le_add_right _ _) breaks soon, unheard]
    rfl
  rw [signalStrength_of_usable usable, sent]
  simp only [waited]
  rw [show (broken.advance (asked.now + signalLimit)).signal = none from unheard]

/-- A failure in the middle of a wait reaches whoever waits for a payload, but not whoever waits
for a signal report. -/
theorem failure_reaches_read_only (usable : link.fault? = none) :
    (∀ wait broken, link.breakdown? = some broken → broken.now < link.now + wait →
      broken.queue = none →
      ∃ reason, broken.failure = some reason ∧
        read wait link = .error (.link (.failed reason)) broken) ∧
    ∀ peer asked broken,
      transmitOne (link.signalQuery peer) { link with signal := none } = .ok () asked →
      asked.breakdown? = some broken → broken.now < asked.now + signalLimit →
      broken.signal = none →
      ∃ reason, broken.failure = some reason ∧
        signalStrength peer link =
          .error (.timeout "signal strength") (broken.advance (asked.now + signalLimit)) := by
  constructor
  · intro wait broken breaks soon unread
    obtain ⟨reason, recorded⟩ := (broken_of_breakdown? breaks).recorded
    refine ⟨reason, recorded, ?_⟩
    rw [← failureError_of_recorded recorded]
    exact read_of_breakdown? usable breaks (Nat.le_of_lt soon) unread
  · intro peer asked broken sent breaks soon unheard
    obtain ⟨reason, recorded⟩ := (broken_of_breakdown? breaks).recorded
    exact ⟨reason, recorded,
      signalStrength_of_breakdown? usable sent breaks (Nat.le_of_lt soon) unheard⟩

/-- A transport that breaks after a tenth of a second. -/
theorem failure_reaches_read_only_reset :
    let link : Link :=
      { transport := { arrivals := [⟨100, .failure "reset"⟩] }, phase := .connected }
    (∃ broken, broken.now = 100 ∧
      read 1000 link = .error (.link (.failed "transport error: reset")) broken) ∧
    ∃ broken, broken.now = 5000 ∧ broken.failure = some "transport error: reset" ∧
      signalStrength .broadcast link = .error (.timeout "signal strength") broken := by
  intro link
  let asked := Outcome.state (transmitOne (link.signalQuery .broadcast) link)
  have reset : link.arriving? = some (.error "reset", { now := 100 }) := rfl
  have resetLater : asked.arriving? =
      some (.error "reset", { asked.transport with now := 100, arrivals := [] }) := rfl
  have breaks := (breakdown?_of_arriving reset).trans (if_pos rfl)
  have breaksLater := (breakdown?_of_arriving resetLater).trans (if_pos rfl)
  obtain ⟨reading, listening⟩ := @failure_reaches_read_only link rfl
  obtain ⟨_, recorded, told⟩ := reading 1000 _ breaks (by decide) rfl
  obtain ⟨_, -, untold⟩ := listening .broadcast asked _ rfl breaksLater (by decide) rfl
  cases recorded
  exact ⟨⟨_, rfl, told⟩, _, rfl, rfl, untold⟩

end Telling

namespace Tasks

variable {t next last : Tasks} {peer : Address}

/-- The link has failed under a caller who waits for a signal report and has none. -/
structure Unheard (t : Tasks) (peer : Address) : Prop where
  sound : t.Sound
  failed : t.link.phase = .failed
  listens : t.caller = .listening peer
  silent : t.link.signal = none

theorem Unheard.step {e : Event} (unheard : t.Unheard peer) (step : Step t e next) :
    (e = .quiet ∧ next.Unheard peer) ∨
      e = .returns (.signalStrength peer) (.error (.timeout "signal strength")) := by
  obtain ⟨sound, moves⟩ := unheard.sound.step step
  have failed := moves.of_failed unheard.failed
  have reader {reader : Reader} (stands : t.reader = reader) (running : reader ≠ .ended) : False :=
    running (stands ▸ unheard.sound.ended unheard.failed)
  have caller {caller : Caller} (stands : t.caller = caller) : caller = .listening peer :=
    stands.symm.trans unheard.listens
  cases step with
  | world => exact .inl ⟨rfl, sound, failed, unheard.listens, unheard.silent⟩
  | goOn stands | halt stands | lapse stands | arrive stands | breakDown stands | drained stands
  | malformed stands | packet stands | hello stands | turn stands | answered stands
  | unanswered stands => exact (reader stands nofun).elim
  | refuseConnect stands | connect stands | connected stands | noticeFailure stands | giveUp stands
  | broken stands | late stands | close stands | closed stands | refuse stands | write stands
  | signalStrength stands | read stands | startSending stands | send stands | unsent stands
  | written stands | asked stands | receive stands | receiveFailure stands
  | receiveNothing stands => cases caller stands
  | hear stands reported =>
    rw [unheard.silent] at reported
    cases reported
  | hearNothing stands =>
    cases caller stands
    exact .inr rfl

/-- However the two take turns, a caller who is left without a report hears of no failure. -/
theorem Run.unheard {u : Tasks} {op : Operation} {result : Except Error Operation.Answer}
    {trace : List (Event × Tasks)} (run : Run t trace u) (unheard : t.Unheard peer)
    (quiet : ∀ x ∈ trace, x.1 = .quiet) (returns : Step u (.returns op result) last) :
    result = .error (.timeout "signal strength") := by
  induction run with
  | nil =>
    rcases unheard.step returns with ⟨same, -⟩ | same <;> cases same
    rfl
  | cons step rest ih =>
    have first := quiet _ List.mem_cons_self
    rcases unheard.step step with ⟨-, still⟩ | same
    · exact ih still (fun x member => quiet x (List.mem_cons_of_mem _ member)) returns
    · cases first.symm.trans same

end Tasks

end SolarTelemetry.Link
