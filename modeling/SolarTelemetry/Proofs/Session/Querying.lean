import SolarTelemetry.Proofs.Retrying
import SolarTelemetry.Proofs.Session.Asking
import SolarTelemetry.Proofs.Session.Collecting
import SolarTelemetry.Proofs.Session.Settings

/-!
# Who answers a query

Of the frames that an attempt at a query reads, the first that holds a reply with its number is
looked at and no other. It makes up the readings if it is an answer of the device that was asked,
and else it ends the matter; only what is lost or late is asked for again.
-/

namespace SolarTelemetry

namespace Reply

theorem requireObject_eq_ok_iff {r : Reply} {object : UInt16} :
    r.requireObject object = .ok () ↔ r.object = .ok object := by
  unfold requireObject
  cases r.object with
  | error e => simp
  | ok got => by_cases same : got = object <;> simp [same]

/-- A device answers a query with a reply of its own that reports no fault and is about the object
asked for. -/
structure Answers (r : Reply) (serial : UInt32) (object : UInt16) : Prop where
  sender : r.source.serial = serial
  accepted : r.header.status = 0
  about : r.object = .ok object

theorem answers_iff {r : Reply} {serial : UInt32} {object : UInt16} :
    r.Answers serial object ↔ r.requireAnswer serial object = .ok () := by
  rw [requireAnswer_eq_ok_iff, requireObject_eq_ok_iff]
  constructor
  · rintro ⟨sender, accepted, about⟩
    exact ⟨sender, accepted, about⟩
  · rintro ⟨sender, accepted, about⟩
    exact ⟨sender, accepted, about⟩

end Reply

namespace Session

section

variable {σ : Type} [Channel σ] {s t : Session σ} {reply : Reply}

/-- A device that is in the table is sent a query, under the current number and with nothing
buffered. -/
def Asks (serial : UInt32) (query : Query) (s asked : Session σ) : Prop :=
  ∃ d, device serial s = .ok d s ∧
    send (.query d.target query.object query.first query.last) d.address s.numbering.current
      s.cleared = .ok () asked

variable {serial : UInt32} {query : Query} {asked : Session σ}

/-- The first reply decides an attempt at a query. -/
theorem Asks.queryChannel_eq {passed : List Delivery} {frame : Delivery}
    (asks : Asks serial query s asked)
    (first : FirstReply (Clock.now asked + asked.timeout) s.numbering.current asked passed frame
      reply t) :
    queryChannel serial query.object query.first query.last s =
      match reply.requireAnswer serial query.object with
      | .error e => .error (.protocol e) t.ended
      | .ok () => .ok reply t.ended := by
  obtain ⟨d, found, sent⟩ := asks
  exact queryChannel_of_reply found sent (receive_eq_ok_iff.mpr ⟨passed, frame, first, rfl⟩)

/-- An attempt that succeeds has got an answer, first of all. -/
theorem exists_firstReply_of_queryChannel
    (ran : queryChannel serial query.object query.first query.last s = .ok reply t) :
    ∃ asked passed frame u, Asks serial query s asked ∧
      FirstReply (Clock.now asked + asked.timeout) s.numbering.current asked passed frame reply u ∧
      t = u.ended ∧ reply.Answers serial query.object := by
  obtain ⟨d, u, found, exchanged⟩ := Action.bind_eq_ok_iff.mp ran
  obtain ⟨rfl, -⟩ := device_eq_ok found
  rw [exchange_eq] at exchanged
  obtain ⟨v, looked, rfl⟩ := Outcome.mapState_eq_ok exchanged
  obtain ⟨_, asked, sent, rest⟩ := Action.bind_eq_ok_iff.mp looked
  obtain ⟨⟨address, got⟩, w, received, -⟩ := Action.bind_eq_ok_iff.mp rest
  have asks : Asks serial query u asked := ⟨d, found, sent⟩
  obtain ⟨passed, frame, first, -⟩ := receive_eq_ok_iff.mp received
  have same := asks.queryChannel_eq first
  rw [ran] at same
  cases answer : got.requireAnswer serial query.object with
  | error e =>
    rw [answer] at same
    cases same
  | ok _ =>
    rw [answer] at same
    obtain ⟨rfl, ended⟩ := EStateM.Result.ok.inj same
    exact ⟨asked, passed, frame, w, asks, first, ended, Reply.answers_iff.mpr answer⟩

end

namespace Readings

variable {σ : Type} [Channel σ]

/-- What comes of the readings. -/
def Value : Readings → Type
  | ac => AcReadings
  | dc => DcReadings
  | statistics => Statistics
  | status => Status
  | info => DeviceInfo

def ofRecords : (what : Readings) → List Record → what.Value
  | ac => AcReadings.ofRecords
  | dc => DcReadings.ofRecords
  | statistics => Statistics.ofRecords
  | status => Status.ofRecords
  | info => DeviceInfo.ofRecords

/-- Has a session read from a device. -/
def fetch (serial : UInt32) : (what : Readings) → Action (Session σ) what.Value
  | ac => readAc serial
  | dc => readDc serial
  | statistics => readStatistics serial
  | status => readStatus serial
  | info => readInfo serial

theorem fetch_eq (what : Readings) (serial : UInt32) :
    what.fetch (σ := σ) serial = (do return what.ofRecords (← queryRecords serial what.query)) := by
  cases what <;> rfl

/-- The value of readings is made of one reply. -/
def ofReply (what : Readings) (reply : Reply) : what.Value :=
  what.ofRecords (Record.decode what.query.object reply.records)

/-- An attempt at the query that is behind the readings. -/
def attempt (what : Readings) (serial : UInt32) : Action (Session σ) Reply :=
  queryChannel serial what.query.object what.query.first what.query.last

variable {what : Readings} {serial : UInt32} {s t : Session σ} {reply : Reply} {e : Error}

theorem fetch_of_ok (ran : withRetries (what.attempt serial) s = .ok reply t) :
    what.fetch serial s = .ok (what.ofReply reply) t := by
  rw [fetch_eq, queryRecords]
  exact Action.bind_of_ok (Action.bind_of_ok ran)

theorem fetch_of_error (ran : withRetries (what.attempt serial) s = .error e t) :
    what.fetch serial s = .error e t := by
  rw [fetch_eq, queryRecords]
  exact Action.bind_of_error (Action.bind_of_error ran)

theorem state_fetch (what : Readings) (serial : UInt32) (s : Session σ) :
    Outcome.state (what.fetch serial s) = Outcome.state (withRetries (what.attempt serial) s) := by
  cases ran : withRetries (what.attempt serial) s with
  | ok reply t => exact congrArg Outcome.state (fetch_of_ok ran)
  | error e t => exact congrArg Outcome.state (fetch_of_error ran)

/-- What has been read is made of the first reply to the last attempt. -/
theorem exists_firstReply_of_fetch {value : what.Value}
    (ran : what.fetch serial s = .ok value t) :
    ∃ before last asked passed frame reply u,
      RetryBudget.starts {} (what.attempt serial) s = before ++ [last] ∧
      Asks serial what.query last asked ∧
      FirstReply (Clock.now asked + asked.timeout) last.numbering.current asked passed frame
        reply u ∧
      t = u.ended ∧ reply.Answers serial what.query.object ∧ value = what.ofReply reply := by
  obtain ⟨before, last, split, same⟩ := RetryBudget.exists_starts_eq {} (what.attempt serial) s
  cases tried : withRetries (what.attempt serial) s with
  | error e u =>
    rw [fetch_of_error tried] at ran
    cases ran
  | ok reply u =>
    rw [fetch_of_ok tried] at ran
    cases ran
    obtain ⟨asked, passed, frame, u, asks, first, ended, answers⟩ :=
      exists_firstReply_of_queryChannel (same.symm.trans tried)
    exact ⟨before, last, asked, passed, frame, reply, u, split, asks, first, ended, answers, rfl⟩

section

variable {k : Nat} {start : Session σ}
  (began : (RetryBudget.starts {} (what.attempt serial) s)[k]? = some start)

include began

theorem starts_of_transient {fault : Error} (failed : what.attempt serial start = .error fault t)
    (transient : fault.isTransient) (left : k < 3) :
    (RetryBudget.starts {} (what.attempt serial) s)[k + 1]? =
      some (Clock.sleep (1000 * (k + 1)) t) := by
  have next := RetryBudget.starts_of_transient began failed transient (by simpa using left)
  simpa using next

/-- An error that is final, or that comes of the last attempt, is what the read comes to. -/
theorem fetch_of_final (failed : what.attempt serial start = .error e t)
    (final : ¬(e.isTransient ∧ k < 3)) :
    (RetryBudget.starts {} (what.attempt serial) s).length = k + 1 ∧
      what.fetch serial s = .error e t := by
  obtain ⟨length, ran⟩ := RetryBudget.starts_of_final began failed (by simpa using final)
  exact ⟨length, fetch_of_error ran⟩

/-- A first reply that is no answer ends the read. -/
theorem fetch_of_not_answers {asked u : Session σ} {passed : List Delivery} {frame : Delivery}
    (asks : Asks serial what.query start asked)
    (first : FirstReply (Clock.now asked + asked.timeout) start.numbering.current asked passed
      frame reply u)
    (wrong : ¬reply.Answers serial what.query.object) :
    (RetryBudget.starts {} (what.attempt serial) s).length = k + 1 ∧
      ∃ e, what.fetch serial s = .error (.protocol e) u.ended := by
  have ran := asks.queryChannel_eq first
  rw [Reply.answers_iff] at wrong
  cases judged : reply.requireAnswer serial what.query.object with
  | ok _ => exact absurd judged wrong
  | error e =>
    rw [judged] at ran
    obtain ⟨length, failed⟩ := fetch_of_final began ran (fun retried => nomatch retried.1)
    exact ⟨length, e, failed⟩

end

theorem devices_of_fetch (ran : what.fetch serial s = .error e t) : t.devices = s.devices := by
  have left := leaves_readings what.query what.ofRecords serial s
  rw [← fetch_eq, ran] at left
  exact congrArg Prod.snd left

end Readings

/-- What is read from a device is made of one reply, the first that carries the number of the last
attempt, and the device itself sent it, without a fault and about the object asked for. A first
reply that is anything else ends the read. After a timeout or a damaged frame the query is sent
again, under another number, up to three times; and the devices that are known stay the same. -/
theorem fetch_exact (what : Readings) (serial : UInt32) (s : Session Link) :
    let query := what.query
    let attempt := queryChannel (σ := Link) serial query.object query.first query.last
    let starts := RetryBudget.starts {} attempt s
    (∀ value s', what.fetch serial s = .ok value s' →
      ∃ before last asked passed frame reply t,
        starts = before ++ [last] ∧ Asks serial query last asked ∧
        FirstReply (Clock.now asked + asked.timeout) last.numbering.current asked passed frame
          reply t ∧
        s' = t.ended ∧ reply.Answers serial query.object ∧
        value = what.ofRecords (Record.decode query.object reply.records)) ∧
    (∀ k start asked passed frame reply t, starts[k]? = some start →
      Asks serial query start asked →
      FirstReply (Clock.now asked + asked.timeout) start.numbering.current asked passed frame
        reply t →
      ¬reply.Answers serial query.object →
      starts.length = k + 1 ∧ ∃ e, what.fetch serial s = .error (.protocol e) t.ended) ∧
    (∀ k start e t, starts[k]? = some start → attempt start = .error e t →
      let retried := ((∃ awaited, e = .timeout awaited) ∨ ∃ fault, e = .frame fault) ∧ k < 3
      (retried → starts[k + 1]? = some (Clock.sleep (1000 * (k + 1)) t)) ∧
      (¬retried → starts.length = k + 1 ∧ what.fetch serial s = .error e t)) ∧
    starts.length ≤ 4 ∧
    (starts.map fun start => start.numbering.current &&& ~~~Request.packetFlag).Nodup ∧
    (Knows serial s → Makes (·.AsksFor s.ownSerial serial query.object query.first query.last) s
      starts.length (Outcome.state (what.fetch serial s))) ∧
    ∀ e s', what.fetch serial s = .error e s' → s'.devices = s.devices := by
  intro query attempt starts
  refine ⟨?answered, ?refused, ?failed, ?few, ?numbered, ?asked, ?kept⟩
  case answered => exact fun value s' ran => Readings.exists_firstReply_of_fetch ran
  case refused =>
    intro k start asked passed frame reply t began asks first wrong
    exact Readings.fetch_of_not_answers began asks first wrong
  case failed =>
    intro k start e t began failed retried
    constructor
    · rintro ⟨transient, left⟩
      exact Readings.starts_of_transient began failed (Error.isTransient_iff.mpr transient) left
    · intro final
      apply Readings.fetch_of_final began failed
      rwa [Error.isTransient_iff]
  case few => exact RetryBudget.length_starts_le {} attempt s
  case numbered =>
    apply nodup_unflagged_starts
    intro t u e failed transient
    exact numbering_of_transient (fun d _ => keepsTo_queryOnce d _ _ _) failed transient
  case asked =>
    intro known
    have made := makes_queryChannel query known
    rw [Readings.state_fetch, RetryBudget.length_starts]
    exact made
  case kept => exact fun e s' ran => Readings.devices_of_fetch ran

/-- The total yield of a device, as a reply to a query for statistics. -/
def yieldReply (packetId : UInt16) (sender : UInt32) (yield : UInt8) : Reply where
  header := ⟨13, 0x90, ⟨0x7D, 7⟩, 0, ⟨0x83, sender⟩, 0, 0, 0, packetId⟩
  body := [0x01, 0x02, 0x00, 0x54, 0, 0, 0, 0, 0, 0, 0, 0] ++
    [1, 0x01, 0x26, 0, 0, 0, 0, 0, yield, 0, 0, 0, 0, 0, 0, 0]

/-- The first request is answered under a number that is not its own, and the answer to it comes
late, when the second has been made; a stranger that answers under the right number is refused. -/
theorem fetch_exact_retried :
    let s : Session Link := { answered [] with
      stream.channel.transport.reactions :=
        [[.answer 10 (.octets (packed [yieldReply 0x9000 1 4]))],
         [.answer 10 (.octets (packed [yieldReply 0x8000 1 5])),
          .answer 12 (.octets (packed [yieldReply 0x8001 1 9]))]] }
    let stranger := answered [(10, [yieldReply 0x8000 2 9])]
    (∃ s', readStatistics 1 s = .ok { totalYield := some 9 } s' ∧
      (∃ before last asked passed frame reply t,
        RetryBudget.starts {} (queryChannel 1 0x5400 0x00260100 0x00462FFF) s = before ++ [last] ∧
        Asks 1 .statistics last asked ∧
        FirstReply (Clock.now asked + asked.timeout) last.numbering.current asked passed frame
          reply t ∧
        reply.Answers 1 0x5400) ∧
      Makes (·.AsksFor 7 1 0x5400 0x00260100 0x00462FFF) s 2 s') ∧
    ∃ e t, readStatistics 1 stranger = .error (.protocol e) t ∧ t.devices = stranger.devices ∧
      Makes (·.AsksFor 7 1 0x5400 0x00260100 0x00462FFF) stranger 1 t := by
  intro s stranger
  constructor
  · generalize started : s = s
    have ran : readStatistics 1 s = .ok { totalYield := some 9 } _ := Outcome.eq_ok_of_result (by
      subst started
      decide +kernel)
    have twice : (RetryBudget.starts {} (queryChannel 1 0x5400 0x00260100 0x00462FFF) s).length =
        2 := by
      subst started
      decide +kernel
    have known : Knows 1 s := by
      subst started
      decide
    have own : s.ownSerial = 7 := by
      subst started
      rfl
    obtain ⟨answered, -, -, -, -, asked, -⟩ := fetch_exact .statistics 1 s
    obtain ⟨before, last, asking, passed, frame, reply, t, split, asks, first, -, answers, -⟩ :=
      answered _ _ ran
    have made : Makes (·.AsksFor s.ownSerial 1 0x5400 0x00260100 0x00462FFF) s
        (RetryBudget.starts {} (queryChannel 1 0x5400 0x00260100 0x00462FFF) s).length
        (Outcome.state (readStatistics 1 s)) := asked known
    rw [twice, own] at made
    exact ⟨_, ran, ⟨before, last, asking, passed, frame, reply, t, split, asks, first, answers⟩,
      made⟩
  · generalize started : stranger = s
    have found : device 1 s = .ok ⟨1, 0x83, .zero, false⟩ s := by
      subst started
      rfl
    have sent : send (.query ⟨0x83, 1⟩ 0x5400 0x00260100 0x00462FFF) .zero s.numbering.current
        s.cleared = .ok () _ := Outcome.eq_ok_of_result (by
      subst started
      decide +kernel)
    have received : receive s.numbering.current (Outcome.state (send
        (.query ⟨0x83, 1⟩ 0x5400 0x00260100 0x00462FFF) .zero s.numbering.current s.cleared)) =
        .ok (.zero, yieldReply 0x8000 2 9) _ := Outcome.eq_ok_of_result (by
      subst started
      decide +kernel)
    have known : Knows 1 s := by
      subst started
      decide
    have own : s.ownSerial = 7 := by
      subst started
      rfl
    obtain ⟨passed, frame, first, -⟩ := receive_eq_ok_iff.mp received
    obtain ⟨-, refused, -, -, -, asked, kept⟩ := fetch_exact .statistics 1 s
    have begins := RetryBudget.head?_starts {} (queryChannel 1 0x5400 0x00260100 0x00462FFF) s
    rw [List.head?_eq_getElem?] at begins
    obtain ⟨once, e, failed⟩ := refused 0 s _ passed frame _ _ begins ⟨_, found, sent⟩ first
      fun answers => absurd answers.sender (by decide)
    have made := asked known
    rw [once, own, failed] at made
    exact ⟨e, _, failed, kept _ _ failed, made⟩

end Session

end SolarTelemetry
