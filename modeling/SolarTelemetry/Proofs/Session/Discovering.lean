import SolarTelemetry.Proofs.Session.Authentication
import SolarTelemetry.Proofs.Session.Collecting
import SolarTelemetry.Proofs.Session.Settings

/-!
# What a discovery finds

An attempt at a discovery takes the replies under its number one after the other and keeps a device
for each serial that is new. So what it has found is what is left of the replies when those are
dropped that come after another of the same serial; and until an attempt has found all that are
expected, the session learns of none.
-/

namespace SolarTelemetry

namespace Session

/-- The device that an answer to a discovery tells of. -/
def deviceOf (answer : Address × Reply) : Device where
  serial := answer.2.source.serial
  susyId := answer.2.source.susyId
  address := answer.1

def sameSerial (d other : Device) : Bool := other.serial == d.serial

/-- A device that is kept is the first of its serial. -/
theorem find?_of_mem_eraseDupsBy {d : Device} {devices : List Device}
    (member : d ∈ devices.eraseDupsBy sameSerial) :
    devices.find? (sameSerial d) = some d := by
  induction length : devices.length using Nat.strong_induction_on generalizing devices with
  | h n ih =>
    cases devices with
    | nil => cases member
    | cons first rest =>
      rw [List.eraseDupsBy_cons] at member
      rcases List.mem_cons.mp member with rfl | later
      · apply List.find?_cons_of_pos
        exact beq_self_eq_true d.serial
      · have shorter := List.length_filter_le
          (fun other => decide (sameSerial other first = false)) rest
        have among := ih _ (by rw [← length, List.length_cons]; omega) later rfl
        have new : sameSerial d first = false :=
          of_decide_eq_true (List.mem_filter.mp (List.mem_of_find?_eq_some among)).2
        rw [List.find?_cons_of_neg (by simp [new]), ← among, List.find?_filter]
        -- what was dropped has the serial of the first, so it would not have been found
        congr 1
        funext other
        by_cases found : other.serial = d.serial
        · have alike : sameSerial other first = false := by
            unfold sameSerial at new ⊢
            rw [found, new]
          simp [alike]
        · simp [sameSerial, found]

section

variable {σ : Type} [Channel σ] {expected : Nat} {packetId : UInt16} {found devices : List Device}
  {s t : Session σ}

/-- What has been collected is what had been found and the first devices with other serials. -/
theorem exists_answers_of_collectDevices
    (ran : collectDevices expected packetId found s = .ok devices t) :
    ∃ frames, Reads s frames t ∧
      devices = List.eraseDupsBy.loop sameSerial ((answersAmong packetId frames).map deviceOf)
        found.reverse := by
  fun_induction collectDevices expected packetId found s with
  | case1 found s enough =>
    cases ran
    refine ⟨[], .nil, ?_⟩
    simp [answersAmong, List.eraseDupsBy.loop]
  | case2 => cases ran
  | case3 found s few address reply u received source known ih =>
    obtain ⟨first, reads, answer⟩ := exists_reads_of_receive received
    obtain ⟨frames, others, rest⟩ := ih ran
    refine ⟨first ++ frames, reads.append others, ?_⟩
    have dropped : found.reverse.any (sameSerial (deviceOf (address, reply))) = true := by
      rw [List.any_reverse]
      exact known
    rw [answersAmong_append, answer, List.map_append, rest]
    simp only [List.map_singleton, List.singleton_append, List.eraseDupsBy.loop, dropped]
  | case4 found s few address reply u received source new ih =>
    obtain ⟨first, reads, answer⟩ := exists_reads_of_receive received
    obtain ⟨frames, others, rest⟩ := ih ran
    refine ⟨first ++ frames, reads.append others, ?_⟩
    have added : found.reverse.any (sameSerial (deviceOf (address, reply))) = false := by
      rw [List.any_reverse]
      exact Bool.eq_false_iff.mpr new
    rw [List.reverse_append] at rest
    rw [answersAmong_append, answer, List.map_append, rest]
    simp only [List.map_singleton, List.singleton_append, List.eraseDupsBy.loop, added]
    rfl

theorem length_of_collectDevices
    (ran : collectDevices expected packetId found s = .ok devices t)
    (few : found.length ≤ expected) : devices.length = expected := by
  fun_induction collectDevices expected packetId found s with
  | case1 found s enough =>
    cases ran
    exact Nat.le_antisymm few enough
  | case2 => cases ran
  | case3 found s less address reply u received source known ih => exact ih ran few
  | case4 found s less address reply u received source new ih =>
    apply ih ran
    rw [List.length_append, List.length_singleton]
    omega

theorem leaves_collectDevices (expected : Nat) (packetId : UInt16) (found : List Device) :
    Action.Leaves settings (collectDevices (σ := σ) expected packetId found) := by
  intro s
  have next {u : Session σ} {outcome} (ran : receive packetId u = outcome) :
      settings (Outcome.state outcome) = settings u := ran ▸ leaves_receive packetId u
  fun_induction collectDevices expected packetId found s with
  | case1 => rfl
  | case2 found s few e u received => exact next received
  | case3 found s few address reply u received source known ih => exact ih.trans (next received)
  | case4 found s few address reply u received source new ih => exact ih.trans (next received)

theorem leaves_exchange_discoverOnce (expected : Nat) :
    Action.Leaves settings (exchange (discoverOnce (σ := σ) expected)) :=
  leaves_exchange fun packetId => (leaves_send _ _ _).bind fun _ =>
    leaves_collectDevices expected packetId []

theorem discover_eq_ok (ran : discover expected s = .ok devices t) :
    ∃ u, withRetries (exchange (discoverOnce expected)) s = .ok devices u ∧
      t = { u with devices } := by
  obtain ⟨found, u, asked, rest⟩ := Action.bind_eq_ok_iff.mp ran
  cases rest
  exact ⟨u, Action.mapError_eq_ok asked, rfl⟩

theorem discover_eq_error {e : Error} (ran : discover expected s = .error e t) :
    ∃ cause, withRetries (exchange (discoverOnce expected)) s = .error cause t ∧
      e = .discoveryFailed cause := by
  cases asked : (withRetries (exchange (discoverOnce expected))).mapError .discoveryFailed s with
  | ok found u =>
    rw [discover, Action.bind_of_ok asked] at ran
    cases ran
  | error e u =>
    rw [discover, Action.bind_of_error asked] at ran
    cases ran
    obtain ⟨cause, failed, rfl⟩ := Action.mapError_eq_error asked
    exact ⟨cause, failed, rfl⟩

/-- An attempt that succeeds has found the first devices with each serial among the replies that it
received. -/
theorem exists_answers_of_exchange (ran : exchange (discoverOnce expected) s = .ok devices t) :
    ∃ asked frames u,
      send (.query .any discoveryObject 0 0) .broadcast s.numbering.current s.cleared =
        .ok () asked ∧
      Reads asked frames u ∧ t = u.ended ∧
      devices =
        ((answersAmong s.numbering.current frames).map deviceOf).eraseDupsBy sameSerial ∧
      devices.length = expected ∧ Fresh devices := by
  rw [exchange_eq] at ran
  obtain ⟨u, once, rfl⟩ := Outcome.mapState_eq_ok ran
  obtain ⟨_, asked, sent, collected⟩ := Action.bind_eq_ok_iff.mp once
  obtain ⟨frames, reads, kept⟩ := exists_answers_of_collectDevices collected
  exact ⟨asked, frames, u, sent, reads, rfl, kept,
    length_of_collectDevices collected (Nat.zero_le _),
    fresh_of_collectDevices collected ⟨List.nodup_nil, by simp⟩⟩

theorem find?_answers {answers : List (Address × Reply)} {d : Device}
    (member : d ∈ (answers.map deviceOf).eraseDupsBy sameSerial) :
    ∃ reply, answers.find? (·.2.source.serial == d.serial) = some (d.address, reply) ∧
      reply.source = d.target := by
  have first := find?_of_mem_eraseDupsBy member
  rw [List.find?_map] at first
  obtain ⟨⟨address, reply⟩, found, rfl⟩ := Option.map_eq_some_iff.mp first
  exact ⟨reply, found, rfl⟩

/-- A discovery that succeeds has found as many devices as were expected, all different and none
logged on to: of those that answered its last attempt the first with each serial, in the order of
their answers and where these came from. One that fails fails with what its last attempt failed
with, and the session knows the devices that it knew. -/
theorem discover_exact (expected : Nat) (s : Session σ) :
    let starts := RetryBudget.starts {} (exchange (discoverOnce expected)) s
    (∀ devices s', discover expected s = .ok devices s' →
      ∃ before last asked frames t,
        starts = before ++ [last] ∧
        send (.query .any discoveryObject 0 0) .broadcast last.numbering.current last.cleared =
          .ok () asked ∧
        Reads asked frames t ∧ s' = { t.ended with devices } ∧ s'.devices = devices ∧
        devices.length = expected ∧ (devices.map Device.serial).Nodup ∧
        (∀ d ∈ devices, d.authenticated = false) ∧
        let answers := answersAmong last.numbering.current frames
        devices = (answers.map deviceOf).eraseDupsBy sameSerial ∧
        ∀ d ∈ devices, ∃ reply,
          answers.find? (·.2.source.serial == d.serial) = some (d.address, reply) ∧
            reply.source = d.target) ∧
    ∀ e s', discover expected s = .error e s' →
      ∃ before last cause, starts = before ++ [last] ∧
        exchange (discoverOnce expected) last = .error cause s' ∧ e = .discoveryFailed cause ∧
        s'.devices = s.devices := by
  intro starts
  obtain ⟨before, last, split, same⟩ :=
    RetryBudget.exists_starts_eq {} (exchange (discoverOnce (σ := σ) expected)) s
  constructor
  · intro devices s' ran
    obtain ⟨u, tried, rfl⟩ := discover_eq_ok ran
    obtain ⟨asked, frames, t, sent, reads, rfl, kept, enough, fresh⟩ :=
      exists_answers_of_exchange (same.symm.trans tried)
    refine ⟨before, last, asked, frames, t, split, sent, reads, rfl, rfl, enough, fresh.distinct,
      fresh.unmarked, kept, ?_⟩
    intro d member
    rw [kept] at member
    exact find?_answers member
  · intro e s' ran
    obtain ⟨cause, tried, rfl⟩ := discover_eq_error ran
    refine ⟨before, last, cause, split, same.symm.trans tried, rfl, ?_⟩
    have left := leaves_withRetries (leaves_exchange_discoverOnce expected) (fun _ _ => rfl) s
    rw [tried] at left
    exact congrArg Prod.snd left

end

/-- The first request is answered by one device, which repeats itself from elsewhere after the
second; another is late and answers the first then. With no answer at all nothing is learnt. -/
theorem discover_exact_repeated :
    let place (octet : UInt8) : Address := ⟨List.replicate 6 octet, rfl⟩
    let answer (after : Nat) (octet : UInt8) (packetId : UInt16) (serial : UInt32) : Script.Item :=
      let header : Header := ⟨6, 0x90, ⟨0x7D, 7⟩, 0, ⟨0x83, serial⟩, 0, 0, 0, packetId⟩
      ⟨after, .delivery ⟨place octet, Frame.sync ::
        (Frame.stuff (FrameFormat.assemble {} header.encode) ++ [Frame.sync])⟩⟩
    let s : Session Script :=
      { stream := { channel := { items := [answer 5 1 0x8000 1, answer 1100 3 0x8000 3,
          answer 10 1 0x8001 1, answer 10 9 0x8001 1, answer 10 2 0x8001 2] } }
        ownSerial := 7, timeout := 1000, wallClock := 0
        devices := [⟨4, 0x83, place 4, false⟩] }
    let silent : Session Script := { s with stream.channel.items := [] }
    (∃ (s' asked t : Session Script) (frames : List Delivery), discover 2 s =
        .ok [⟨1, 0x83, place 1, false⟩, ⟨2, 0x83, place 2, false⟩] s' ∧
      Reads asked frames t ∧ s'.devices = [⟨1, 0x83, place 1, false⟩, ⟨2, 0x83, place 2, false⟩] ∧
      ∃ packetId, [⟨1, 0x83, place 1, false⟩, ⟨2, 0x83, place 2, false⟩] =
        ((answersAmong packetId frames).map deviceOf).eraseDupsBy sameSerial) ∧
    ∃ cause s', discover 2 silent = .error (.discoveryFailed cause) s' ∧
      s'.devices = [⟨4, 0x83, place 4, false⟩] := by
  intro place answer s silent
  constructor
  · generalize started : s = s
    have ran : discover 2 s = .ok [⟨1, 0x83, place 1, false⟩, ⟨2, 0x83, place 2, false⟩] _ :=
      Outcome.eq_ok_of_result (by
        subst started
        decide +kernel)
    obtain ⟨before, last, asked, frames, t, -, -, reads, -, known, -, -, -, kept, -⟩ :=
      (discover_exact 2 s).1 _ _ ran
    exact ⟨_, asked, t, frames, ran, reads, known, _, kept⟩
  · generalize started : silent = s
    have nothing : (Outcome.result (discover 2 s)).toOption = none := by
      subst started
      decide +kernel
    cases ran : discover 2 s with
    | ok devices s' =>
      rw [ran] at nothing
      cases nothing
    | error e s' =>
      obtain ⟨_, _, cause, -, -, rfl, same⟩ := (discover_exact 2 s).2 e s' ran
      refine ⟨cause, s', rfl, ?_⟩
      rw [same]
      subst started
      rfl

end Session

end SolarTelemetry
