import SolarTelemetry.Proofs.Frame.Stream
import SolarTelemetry.Proofs.Link.Sending

/-!
# Frames from one end to the other

What is written at one end is read at the other. A frame always fits into what is put together from
parts: its header is never escaped, so even the longest payload of escaped octets leaves room.
-/

namespace SolarTelemetry

namespace FrameFormat

open SolarTelemetry.Frame

variable (format : FrameFormat)

theorem countP_assemble_le (payload : Bytes) :
    (format.assemble payload).countP isReserved ≤ payload.length + 4 := by
  have opening : (format.assemble payload).countP isReserved =
      ((format.assemble payload).drop 2).countP isReserved := rfl
  rw [opening]
  refine Nat.le_trans List.countP_le_length ?_
  rw [List.length_drop, length_assemble]
  omega

theorem length_frame_le {payload frame : Bytes} (h : format.encode payload = .ok frame) :
    frame.length ≤ maxStuffed := by
  obtain ⟨short, rfl⟩ := format.encode_eq_ok_iff.mp h
  have plain := format.length_assemble payload
  have escaped := format.countP_assemble_le payload
  have bound : 2 * maxPayload + 12 ≤ maxStuffed := by decide
  simp only [List.length_cons, List.length_append, length_stuff, List.length_nil]
  omega

end FrameFormat

namespace FrameStream

/-- A stream that carries data, has nothing of a sender yet, and will be sent bursts of octets, none
later than so many milliseconds from now. -/
structure Expects (receiver : FrameStream Link) (source destination : Address)
    (bursts : List (Nat × Bytes)) (ms : Nat) : Prop where
  takes : receiver.channel.phase.takesData
  addressed : destination = receiver.channel.info.ownAddress ∨ destination = .zero ∨
    destination = .broadcast
  fresh : receiver.channel.parts.held source = []
  unhandled : receiver.channel.buffer = []
  unread : receiver.buffer = []
  arrivals : receiver.channel.transport.arrivals = Link.arrivalsOf bursts
  due : ∀ burst ∈ bursts, burst.1 ≤ receiver.channel.now + ms

namespace Expects

variable {receiver : FrameStream Link} {source destination : Address}
  {bursts : List (Nat × Bytes)} {ms : Nat} {frame : Bytes}

theorem drain_eq (expects : receiver.Expects source destination bursts ms)
    (cut : Link.carried bursts = (Link.packetsOf source destination frame).flatMap Packet.layout) :
    Packet.drain (receiver.channel.buffer ++ Link.carried bursts) =
      ⟨Link.packetsOf source destination frame, none, []⟩ := by
  have fit : ∀ p ∈ Link.packetsOf source destination frame,
      p.payload.length ≤ Packet.maxPayload := fun _ member => (Link.mem_packetsOf member).1
  have drained := Packet.drain_layouts fit []
  rw [Packet.drain_nil, List.append_nil] at drained
  rw [expects.unhandled, List.nil_append, cut, drained, List.append_nil]

theorem steady (expects : receiver.Expects source destination bursts ms)
    (cut : Link.carried bursts = (Link.packetsOf source destination frame).flatMap Packet.layout) :
    Link.Steady bursts receiver.channel where
  takes := expects.takes
  arrivals := expects.arrivals
  settled := by rw [expects.unhandled, Packet.drain_nil]
  sound := by rw [expects.drain_eq cut]

/-- The bursts complete one payload, in time. -/
theorem upcoming_eq (expects : receiver.Expects source destination bursts ms)
    (cut : Link.carried bursts = (Link.packetsOf source destination frame).flatMap Packet.layout)
    (full : frame ≠ []) (fits : frame.length ≤ Frame.maxStuffed) :
    receiver.channel.upcoming.map Prod.snd = [⟨source, frame⟩] ∧
      ∀ x ∈ receiver.channel.upcoming, x.1 ≤ receiver.channel.now + ms := by
  have mine : destination == receiver.channel.info.ownAddress || destination.reachesAll := by
    rcases expects.addressed with rfl | rfl | rfl <;> simp [Address.reachesAll]
  have room : (receiver.channel.parts.held source).length + frame.length ≤ Frame.maxStuffed := by
    rw [expects.fresh, List.length_nil, Nat.zero_add]
    exact fits
  have completed := (expects.steady cut).upcoming_eq expects.due (Nat.le_add_right _ _)
  rw [expects.drain_eq cut, Link.completions_packetsOf expects.takes mine full room,
    expects.fresh] at completed
  exact completed

/-- After so many milliseconds the payload waits in the queue of a link that still carries data. -/
theorem sleep (expects : receiver.Expects source destination bursts ms)
    (cut : Link.carried bursts = (Link.packetsOf source destination frame).flatMap Packet.layout)
    (full : frame ≠ []) (fits : frame.length ≤ Frame.maxStuffed) :
    (Clock.sleep ms receiver).channel.queue = some ⟨source, frame⟩ ∧
      (Clock.sleep ms receiver).channel.fault? = none := by
  obtain ⟨completed, soon⟩ := expects.upcoming_eq cut full fits
  have begun := Nat.le_add_right receiver.channel.now ms
  constructor
  · have all : receiver.channel.upcoming.filter (·.1 ≤ receiver.channel.now + ms) =
        receiver.channel.upcoming := by
      rw [List.filter_eq_self]
      intro x member
      simpa using soon x member
    refine (Link.queue_sleep (fun _ => rfl) begun).trans ?_
    rw [all, ← List.getLast?_map, completed]
    rfl
  · apply Link.fault?_of_takesData
    exact (expects.steady cut).takesData_await (fun _ => false) expects.due begun

/-- Somebody who waits that long already gets the payload from an empty queue. -/
theorem receive {wait : Nat} (expects : receiver.Expects source destination bursts ms)
    (cut : Link.carried bursts = (Link.packetsOf source destination frame).flatMap Packet.layout)
    (full : frame ≠ []) (fits : frame.length ≤ Frame.maxStuffed)
    (empty : receiver.channel.queue = none) (enough : ms ≤ wait) :
    ∃ channel, Channel.receive wait receiver.channel = .ok (some ⟨source, frame⟩) channel := by
  obtain ⟨completed, soon⟩ := expects.upcoming_eq cut full fits
  obtain ⟨⟨moment, d⟩, single, only⟩ := List.map_eq_singleton_iff.mp completed
  have due : (moment, d) ∈ receiver.channel.upcoming := by
    rw [single]
    exact List.mem_cons_self
  have inTime : moment ≤ receiver.channel.now + wait := by
    have := soon _ due
    omega
  obtain ⟨d', channel, ran⟩ :=
    Link.exists_of_read (Link.fault?_of_takesData expects.takes) due inTime
  have supply := Link.supply_read ran
  rw [Link.supply, empty, single] at supply
  have first : d = d' := (List.cons.inj supply).1
  exact ⟨channel, by rw [← only, first]; exact ran⟩

end Expects

/-- What a stream writes, another reads: a payload that is not too long makes a frame that fits, and
however the packets written for it are cut into reads, they complete that frame and nothing else.
Read from a stream of the same format, it is the payload again, and it is from whoever sent it. -/
theorem read_write {payload : Bytes} (short : payload.length ≤ Frame.maxPayload)
    (sender : FrameStream Link) (usable : sender.channel.fault? = none) (destination : Address) :
    ∃ frame, sender.format.encode payload = .ok frame ∧ frame.length ≤ Frame.maxStuffed ∧
      (sender.channel.transport.Accepts
        (Link.packetsOf sender.channel.info.ownAddress destination frame).length →
      ∃ (sender' : FrameStream Link) (written : List Bytes),
        sender.write payload destination = .ok () sender' ∧
        sender'.channel.transport.sent =
          sender.channel.transport.sent ++ written.map (destination, ·) ∧
        ∀ (receiver : FrameStream Link) (bursts : List (Nat × Bytes)) (ms wait : Nat),
          receiver.Expects sender.channel.info.ownAddress destination bursts ms →
          receiver.format = sender.format → Link.carried bursts = written.flatten → 0 < wait →
          receiver.channel.upcoming.map Prod.snd = [⟨sender.channel.info.ownAddress, frame⟩] ∧
            (Clock.sleep ms receiver).channel.queue =
              some ⟨sender.channel.info.ownAddress, frame⟩ ∧
            (∃ receiver', (Clock.sleep ms receiver).read wait =
              .ok ⟨sender.channel.info.ownAddress, payload⟩ receiver') ∧
            (receiver.channel.queue = none → ms ≤ wait →
              ∃ receiver', receiver.read wait =
                .ok ⟨sender.channel.info.ownAddress, payload⟩ receiver')) := by
  have encoded := sender.format.encode_of_le short
  obtain ⟨frame, same⟩ : ∃ frame, frame = Frame.sync :: (Frame.stuff
    (sender.format.assemble payload) ++ [Frame.sync]) := ⟨_, rfl⟩
  rw [← same] at encoded
  refine ⟨frame, encoded, sender.format.length_frame_le encoded, ?_⟩
  intro accepts
  obtain ⟨transport, wrote, sent⟩ := Link.write_of_accepts usable accepts
  refine ⟨{ sender with channel := { sender.channel with transport } }, _, ?_, sent, ?_⟩
  · unfold write
    rw [encoded]
    change Action.zoom _ _ (Link.write frame destination) sender = _
    unfold Action.zoom
    rw [wrote]
  · intro receiver bursts ms wait expects alike cut patient
    have pieces : Link.carried bursts = (Link.packetsOf sender.channel.info.ownAddress destination
        frame).flatMap Packet.layout := cut
    have full : frame ≠ [] := by
      rw [same]
      exact List.cons_ne_nil _ _
    have fits := sender.format.length_frame_le encoded
    obtain ⟨queue, sound⟩ := expects.sleep pieces full fits
    obtain ⟨rest, decoded⟩ := sender.format.decode_frame encoded
    rw [← alike] at decoded
    refine ⟨(expects.upcoming_eq pieces full fits).1, queue, ?_, ?_⟩
    · have unread : (Clock.sleep ms receiver).buffer = [] := expects.unread
      exact ⟨_, read_of_delivery unread patient (Link.read_of_queue sound queue) decoded⟩
    · intro empty enough
      obtain ⟨channel, received⟩ := expects.receive pieces full fits empty enough
      exact ⟨_, read_of_delivery expects.unread patient received decoded⟩

/-- A payload that needs stuffing, with its packet cut in two on the way. -/
theorem read_write_cut :
    let sender : FrameStream Link := { channel := { transport := {}, phase := .connected } }
    ∃ (sender' : FrameStream Link) (written : List Bytes),
      sender.write [0x7E, 0x01] .broadcast = .ok () sender' ∧
        let bursts := [(20, written.flatten.take 10), (40, written.flatten.drop 10)]
        let receiver : FrameStream Link :=
          { channel := { transport := { arrivals := Link.arrivalsOf bursts }, phase := .connected } }
        ∃ receiver', (Clock.sleep 50 receiver).read 1000 = .ok ⟨.zero, [0x7E, 0x01]⟩ receiver' := by
  intro sender
  obtain ⟨frame, -, -, carried⟩ := @read_write [0x7E, 0x01] (by decide) sender rfl .broadcast
  have accepts (writes : Nat) : sender.channel.transport.Accepts writes := by
    intro reactions member
    cases List.mem_of_mem_take member
  obtain ⟨sender', written, wrote, -, read⟩ := carried (accepts _)
  refine ⟨sender', written, wrote, ?_⟩
  intro bursts receiver
  have expects : receiver.Expects .zero .broadcast bursts 50 := by
    refine ⟨rfl, .inr (.inr rfl), rfl, rfl, rfl, rfl, ?_⟩
    intro burst member
    rcases List.mem_cons.mp member with rfl | later
    · change 20 ≤ 50
      decide
    · rw [List.mem_singleton.mp later]
      change 40 ≤ 50
      decide
  have cut : Link.carried bursts = written.flatten := by
    simp [bursts, Link.carried]
  exact (read receiver bursts 50 1000 expects rfl cut (by decide)).2.2.1

end FrameStream

end SolarTelemetry
