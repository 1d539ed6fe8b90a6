import SolarTelemetry.Proofs.Frame.Deadline
import SolarTelemetry.Proofs.Link.Punctuality
import SolarTelemetry.Proofs.Session.Collecting

/-!
# Receiving until a deadline

However many frames are passed over, a session waits for its reply until one deadline only: it
receives the first reply with the number that is completed before it.
-/

namespace SolarTelemetry.Session

open FrameStream

variable {σ : Type} [Channel σ] {s : Session σ} {deadline : Nat}

/-- The reply with a packet number that a frame holds, and where it came from. -/
def answer? (packetId : UInt16) (frame : Delivery) : Option (Address × Reply) :=
  (replyTo? packetId frame.payload).map (frame.source, ·)

/-- For what is left of the time, a read goes on until the same deadline. -/
theorem read_timeline (punctual : Channel.Punctual s.stream.channel)
    (early : Clock.now s < deadline) :
    match s.stream.read (deadline - Clock.now s) with
    | .ok frame g =>
      Channel.Punctual g.channel ∧ Clock.now g ≤ deadline ∧
        timeline deadline s.stream = (Clock.now g, .ok frame) :: timeline deadline g
    | .error e g =>
      Clock.now g ≤ deadline ∧
        (timeline deadline s.stream = [] ∧ Clock.now g = deadline ∨
          ∃ later, timeline deadline s.stream = (Clock.now g, .error e) :: later) := by
  have whole : Clock.now s.stream + (deadline - Clock.now s) = deadline :=
    Nat.add_sub_cancel' (Nat.le_of_lt early)
  have same : s.stream.read (deadline - Clock.now s) = readUntil deadline s.stream :=
    congrArg (readUntil · s.stream) whole
  rw [same]
  exact readUntil_timeline punctual (Nat.le_of_lt early)

/-- To receive is to look for the first reply with the number, whatever has to be passed over. -/
theorem finds_receiveUntil (packetId : UInt16) (punctual : Channel.Punctual s.stream.channel)
    (begun : Clock.now s ≤ deadline) :
    Finds deadline s.stream (answer? packetId) (receiveUntil deadline packetId s) := by
  fun_induction receiveUntil deadline packetId s with
  | case1 s now late =>
    exact .of_nothing (filter_of_late (timeline_sorted punctual deadline) late) rfl
      (Nat.le_antisymm begun late)
  | case2 s now early e stream read =>
    have step := read_timeline punctual (Nat.lt_of_not_le early)
    rw [read] at step
    exact .of_failed punctual rfl step.1 step.2
  | case3 s now early frame stream read e malformed ih =>
    have step := read_timeline punctual (Nat.lt_of_not_le early)
    rw [read] at step
    obtain ⟨left, soon, next⟩ := step
    have other : answer? packetId frame = none := by
      rw [answer?, replyTo?_of_malformed malformed]
      rfl
    exact .pass next other (ih left soon)
  | case4 s now early frame stream read reply decoded wanted =>
    have step := read_timeline punctual (Nat.lt_of_not_le early)
    rw [read] at step
    obtain ⟨-, soon, next⟩ := step
    have own : answer? packetId frame = some (frame.source, reply) := by
      rw [answer?, replyTo?_of_decoded decoded, if_pos wanted]
      rfl
    exact .of_entry punctual next (by rw [firstOf, own]; rfl) rfl soon
  | case5 s now early frame stream read reply decoded stray ih =>
    have step := read_timeline punctual (Nat.lt_of_not_le early)
    rw [read] at step
    obtain ⟨left, soon, next⟩ := step
    have other : answer? packetId frame = none := by
      rw [answer?, replyTo?_of_decoded decoded, if_neg stray]
      rfl
    exact .pass next other (ih left soon)

/-- All waiting is bounded by one deadline. Over a channel that keeps to the time, a read ends in
its time and a session within its timeout; a timeout that is not the channel's own failure comes
when exactly that time is over. What is returned is the first frame, or the first reply with the
number, that is completed strictly before the deadline, unless a fault or a failure comes first. -/
theorem waits_until_deadline (s : Session σ) (punctual : Channel.Punctual s.stream.channel)
    (wait : Nat) (packetId : UInt16) :
    (let deadline := Clock.now s.stream + wait
      let ended := Clock.now (Outcome.state (s.stream.read wait))
      Finds deadline s.stream some (s.stream.read wait) ∧
        ∀ what, Outcome.result (s.stream.read wait) = .error (.timeout what) →
          ended = deadline ∨ (Channel.arrivals deadline s.stream.channel).failure =
            some (ended, .timeout what)) ∧
    (let deadline := Clock.now s + s.timeout
      let ended := Clock.now (Outcome.state (receive packetId s))
      Finds deadline s.stream (answer? packetId) (receive packetId s) ∧
        ∀ what, Outcome.result (receive packetId s) = .error (.timeout what) →
          ended = deadline ∨ (Channel.arrivals deadline s.stream.channel).failure =
            some (ended, .timeout what)) := by
  have read := finds_readUntil punctual (Nat.le_add_right (Clock.now s.stream) wait)
  have received := finds_receiveUntil packetId punctual (Nat.le_add_right (Clock.now s) s.timeout)
  exact ⟨⟨read, fun _ => read.timedOut⟩, ⟨received, fun _ => received.timedOut⟩⟩

/-- After a frame that is no reply and a reply to something else, the reply comes in two parts. The
second is in time if there is a millisecond left, and too late at the deadline. -/
theorem waits_until_deadline_strict :
    let framed (payload : Bytes) : Bytes :=
      Frame.sync :: (Frame.stuff (FrameFormat.assemble {} payload) ++ [Frame.sync])
    let reply (packetId : UInt16) : Reply :=
      { samplePage 0 9 with header := { (samplePage 0 9).header with packetId } }
    let wire (packetId : UInt16) : Bytes :=
      framed ((reply packetId).header.encode ++ (reply packetId).body)
    let script : Script :=
      { items := [⟨20, .delivery ⟨.zero, framed [0x00]⟩⟩,
          ⟨20, .delivery ⟨.zero, wire 0x8000 ++ (wire 0x8001).take 30⟩⟩,
          ⟨20, .delivery ⟨.broadcast, (wire 0x8001).drop 30⟩⟩] }
    let s (timeout : Nat) : Session Script :=
      { stream := { channel := script }, ownSerial := 7, timeout, wallClock := 0 }
    Channel.Punctual script ∧
      Outcome.result (receive 0x8001 (s 61)) = .ok (.broadcast, reply 0x8001) ∧
      Clock.now (Outcome.state (receive 0x8001 (s 61))) = 60 ∧
      Clock.now (Outcome.state (receive 0x8001 (s 60))) = 60 := by
  intro framed reply wire script s
  have punctual : Channel.Punctual script := Script.punctual (by decide)
  have enough : firstOf (answer? 0x8001) ((timeline 61 (s 61).stream).filter (·.1 < 61)) =
      some (60, .ok (.broadcast, reply 0x8001)) := by
    decide +kernel
  have short : firstOf (answer? 0x8001) ((timeline 60 (s 60).stream).filter (·.1 < 60)) = none := by
    decide +kernel
  obtain ⟨found, ended⟩ := (waits_until_deadline (s 61) punctual 5 0x8001).2.1.found 60 _ enough
  have elapsed := (waits_until_deadline (s 60) punctual 5 0x8001).2.1.missed short
  exact ⟨punctual, found, ended, elapsed⟩

/-- Over a link, nothing times out before its time: neither the link nor its frames do. -/
theorem timeout_at_deadline (s : Session Link) {what : String} :
    (∀ wait, Outcome.result (s.stream.read wait) = .error (.timeout what) →
      Clock.now (Outcome.state (s.stream.read wait)) = Clock.now s + wait) ∧
    ∀ packetId, Outcome.result (receive packetId s) = .error (.timeout what) →
      Clock.now (Outcome.state (receive packetId s)) = Clock.now s + s.timeout := by
  constructor
  · intro wait late
    have read := finds_readUntil s.stream.channel.punctual
      (Nat.le_add_right (Clock.now s.stream) wait)
    exact (read.timedOut late).resolve_right (Link.failure_ne_timeout _ _ _ _)
  · intro packetId late
    have received := finds_receiveUntil packetId s.stream.channel.punctual
      (Nat.le_add_right (Clock.now s) s.timeout)
    exact (received.timedOut late).resolve_right (Link.failure_ne_timeout _ _ _ _)

end SolarTelemetry.Session
