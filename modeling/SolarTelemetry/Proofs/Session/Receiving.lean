import SolarTelemetry.Proofs.Running
import SolarTelemetry.Session.Basic

/-!
# Receiving replies

An exchange is an attempt on a session with an empty buffer, under the number that is current, which
is then used up. The replies that an attempt receives one after the other form a chain.
-/

namespace SolarTelemetry

namespace Reply

/-- An answer of a device is what it asked for and comes from that device, without a fault. -/
theorem requireAnswer_eq_ok_iff {r : Reply} {serial : UInt32} {object : UInt16} :
    r.requireAnswer serial object = .ok () ↔
      r.source.serial = serial ∧ r.header.status = 0 ∧ r.requireObject object = .ok () := by
  unfold requireAnswer
  by_cases sender : r.source.serial = serial
  · by_cases accepted : r.header.status = 0
    · simp [sender, accepted]
    · simp [sender, accepted]
  · simp [sender]

theorem word_eq_error {r : Reply} {offset : Nat} {e : ProtocolError}
    (h : r.word offset = .error e) : e = .noWord r.body.length offset := by
  unfold word at h
  split at h <;> cases h
  rfl

/-- The object of a reply says nothing of its sender or status. -/
theorem requireObject_eq_error {r : Reply} {object : UInt16} {e : ProtocolError}
    (h : r.requireObject object = .error e) :
    e = .noWord r.body.length 0 ∨ ∃ got, e = .unexpectedObject object got := by
  unfold requireObject Reply.object command at h
  cases word : r.word 0 with
  | error fault =>
    rw [word] at h
    cases h
    exact .inl (word_eq_error word)
  | ok w =>
    rw [word] at h
    simp only [Except.map] at h
    split at h <;> cases h
    exact .inr ⟨_, rfl⟩

/-- To look at the object alone comes to the same as to look at the whole answer just where sender
and status are right. -/
theorem requireAnswer_eq_requireObject_iff {r : Reply} {serial : UInt32} {object : UInt16} :
    r.requireAnswer serial object = r.requireObject object ↔
      r.source.serial = serial ∧ r.header.status = 0 := by
  unfold requireAnswer
  by_cases sender : r.source.serial = serial
  · by_cases accepted : r.header.status = 0
    · simp [sender, accepted]
    · rw [if_neg (not_not_intro sender), if_pos accepted]
      refine ⟨?_, fun right => absurd right.2 accepted⟩
      intro same
      rcases requireObject_eq_error same.symm with other | ⟨got, other⟩ <;> cases other
  · rw [if_pos sender]
    refine ⟨?_, fun right => absurd right.1 sender⟩
    intro same
    rcases requireObject_eq_error same.symm with other | ⟨got, other⟩ <;> cases other

end Reply

namespace Session

variable {σ α : Type}

/-- A session that begins with nothing buffered. -/
def cleared (s : Session σ) : Session σ := { s with stream := { s.stream with buffer := [] } }

/-- A session whose current number has been used up. -/
def ended (s : Session σ) : Session σ := { s with numbering := s.numbering.next }

theorem transaction_eq (attempt : UInt16 → Action (Session σ) α) (s : Session σ) :
    transaction attempt s = Outcome.mapState ended (attempt s.numbering.current s) := by
  unfold transaction
  cases attempt s.numbering.current s <;> rfl

theorem exchange_eq (attempt : UInt16 → Action (Session σ) α) (s : Session σ) :
    exchange attempt s = Outcome.mapState ended (attempt s.numbering.current s.cleared) := by
  have forgotten : onStream (FrameStream.discard (σ := σ)) s = .ok () s.cleared := rfl
  have begun : (onStream FrameStream.discard >>= fun _ => attempt s.numbering.current) s =
      attempt s.numbering.current s.cleared := Action.bind_of_ok forgotten
  unfold exchange transaction
  simp only [begun]
  cases attempt s.numbering.current s.cleared <;> rfl

theorem device_eq_ok {serial : UInt32} {s t : Session σ} {d : Device}
    (h : device serial s = .ok d t) : t = s ∧ d.serial = serial := by
  unfold device at h
  split at h
  · next found =>
    cases h
    have same := List.find?_some found
    exact ⟨rfl, eq_of_beq same⟩
  · cases h

variable [Channel σ]

theorem send_of_encoded {request : Request} {destination : Address} {packetId : UInt16}
    {s : Session σ} {octets : Bytes} {channel : σ}
    (encoded : s.stream.format.encode (request.encode s.ownSerial packetId) = .ok octets)
    (sent : Channel.send octets destination s.stream.channel = .ok () channel) :
    send request destination packetId s = .ok () { s with stream := { s.stream with channel } } := by
  unfold send onStream Action.zoom FrameStream.write
  rw [encoded]
  simp only [FrameStream.onChannel, Action.zoom, sent]

/-- A frame that holds a reply with the right number is received. -/
theorem receive_of_frame {packetId : UInt16} {s : Session σ} {stream : FrameStream σ}
    {frame : Delivery} {reply : Reply} (patient : 0 < s.timeout)
    (read : s.stream.read s.timeout = .ok frame stream)
    (decoded : Reply.decode frame.payload = .ok reply)
    (wanted : reply.packetId = packetId &&& ~~~Request.packetFlag) :
    receive packetId s = .ok (frame.source, reply) { s with stream } := by
  have early : ¬Clock.now s + s.timeout ≤ Clock.now s := by omega
  have remaining : Clock.now s + s.timeout - Clock.now s = s.timeout :=
    Nat.add_sub_cancel_left _ _
  rw [← remaining] at read
  unfold receive
  rw [receiveUntil]
  simp only [if_neg early]
  split
  · next same =>
    rw [read] at same
    cases same
  · next same =>
    rw [read] at same
    cases same
    rw [decoded]
    exact if_pos wanted

/-- The replies with a packet number that are received one after the other. -/
inductive Received (packetId : UInt16) : Session σ → List Reply → Session σ → Prop where
  | nil {s} : Received packetId s [] s
  | cons {s t u address reply replies} : receive packetId s = .ok (address, reply) t →
      Received packetId t replies u → Received packetId s (reply :: replies) u

end Session

end SolarTelemetry
