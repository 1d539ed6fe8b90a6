import SolarTelemetry.Proofs.Link.Indexing
import SolarTelemetry.Proofs.Link.Intake

/-!
# What the reader survives

Anything may arrive, in pieces of any size. The reader takes off its buffer whatever a sound header
introduces, and fails its link only with the transport or with a header that is not sound.
-/

namespace SolarTelemetry

namespace Packet

variable {start length zero guard : UInt8} {tail : Bytes}

/-- A sound header introduces a packet, once all of it is there. -/
theorem exists_decode_of_sound {buffer : Bytes}
    (front : buffer = start :: length :: zero :: guard :: tail)
    (sound : headerFault? start length zero guard = none)
    (whole : length.toNat ≤ buffer.length) :
    ∃ p, decode buffer = .ok (some (p, buffer.drop length.toNat)) ∧
      headerLength + p.payload.length = length.toNat := by
  have size : (buffer.take length.toNat).length = length.toNat := by
    rw [List.length_take, Nat.min_eq_left whole]
  have long : headerLength ≤ (buffer.take length.toNat).length := by
    rw [size]
    exact (headerFault?_eq_none_iff.mp sound).2.2
  obtain ⟨p, -, read, payload⟩ := Checked.packet_eq long
  refine ⟨p, ?_, ?_⟩
  · subst front
    rw [decode_of_sound sound whole, read]
    rfl
  · rw [payload, List.length_drop]
    omega

end Packet

namespace Transport

/-- A read never takes more than it has room for. -/
theorem length_le_of_take {t t' : Transport} {limit : Nat} {octets : Bytes}
    (taken : t.take? limit = some (.ok octets, t')) : octets.length ≤ chunk := by
  unfold take? at taken
  split at taken
  · cases taken
  · split at taken
    · cases taken
    · split at taken
      · cases taken
      · split at taken
        · next short =>
          cases taken
          exact short
        · cases taken
          exact List.length_take_le _ _

end Transport

namespace Link

/-- A write that fits into a packet fails only if the transport refuses it. -/
theorem exists_refusal_of_transmitOne_error {p : Packet} {link link' : Link} {e : Error}
    (fits : p.payload.length ≤ Packet.maxPayload) (refused : transmitOne p link = .error e link') :
    ∃ reason, (link.transport.reactions.headD []).findSome? Reaction.refusal? = some reason := by
  unfold transmitOne at refused
  simp only [Packet.encode_of_le fits, Action.zoom, Transport.write] at refused
  cases refusal : (link.transport.reactions.headD []).findSome? Reaction.refusal? with
  | some reason => exact ⟨reason, rfl⟩
  | none =>
    simp only [refusal] at refused
    cases refused

/-- The packet that the reader is answering. -/
def Reader.answers? : Reader → Option Packet
  | .queueing p | .answering p => some p
  | _ => none

namespace Tasks

variable {t next start u last : Tasks} {e : Event} {trace : List (Event × Tasks)}

/-- What makes a reader fail its link. -/
inductive ReaderFault (t : Tasks) : Prop
  | transport {limit : Nat} {reason : String} {after : Transport} (stands : t.reader = .reading)
    (broken : t.link.transport.take? limit = some (.error reason, after))
  | answer {p : Packet} {reason : String} (stands : t.reader = .answering p)
    (refused : (t.link.transport.reactions.headD []).findSome? Reaction.refusal? = some reason)
  | header {start length zero guard : UInt8} {tail : Bytes} (stands : t.reader = .unpacking)
    (front : t.link.buffer = start :: length :: zero :: guard :: tail)
    (bad : start ≠ Packet.startOctet ∨ guard ≠ start ^^^ length ^^^ zero ∨
      length.toNat < Packet.headerLength)

/-- The answer to a packet is no longer than the packet. -/
theorem Reached.answers_fit (reached : t.Reached) {p : Packet}
    (answers : t.reader.answers? = some p) : p.payload.length ≤ Packet.maxPayload := by
  obtain ⟨transport, trace, run⟩ := reached
  have start : ∀ p, (new transport).reader.answers? = some p →
      p.payload.length ≤ Packet.maxPayload := nofun
  refine run.keeps (fun {t e next} (fits : ∀ p, t.reader.answers? = some p →
    p.payload.length ≤ Packet.maxPayload) step q answers => ?_) start p answers
  cases step with
  | hello stands decoded =>
    cases answers
    exact Packet.length_le_of_decode decoded
  | turn stands =>
    cases answers
    exact fits _ (congrArg Reader.answers? stands)
  | goOn | halt | lapse | arrive | breakDown | drained | malformed | answered | unanswered
  | connect => cases answers
  | _ => exact fits q answers

/-- A link whose reader runs fails with the reader, and for one of its reasons. -/
theorem Reached.readerFault (reached : t.Reached) (running : t.reader ≠ .ended)
    (step : Step t e next) (failed : next.link.phase = .failed) : ReaderFault t := by
  have ended := (reached.sound.step step).1.ended failed
  cases step with
  | breakDown stands taken => exact .transport stands taken
  | malformed stands decoded =>
    obtain ⟨start, length, zero, guard, tail, front, bad⟩ := Packet.exists_of_decode_error decoded
    refine .header stands front ?_
    by_contra sound
    obtain ⟨starts, others⟩ := not_or.mp sound
    obtain ⟨guards, long⟩ := not_or.mp others
    rw [Packet.headerFault?_eq_none_iff.mpr
      ⟨not_not.mp starts, not_not.mp guards, Nat.not_lt.mp long⟩] at bad
    cases bad
  | @unanswered p e link stands refused =>
    have fits : p.payload.length ≤ Packet.maxPayload :=
      reached.answers_fit (congrArg Reader.answers? stands)
    obtain ⟨reason, refusal⟩ :=
      @exists_refusal_of_transmitOne_error (.of .idExchange .zero p.source p.payload) _ _ _ fits
        refused
    exact .answer stands refusal
  | halt =>
    have reads := reached.sound.running running
    exact absurd failed (Phase.ne_failed_of_isReading reads)
  | goOn | lapse | arrive | drained | hello | turn | answered | connect => cases ended
  | _ => exact absurd ended running

/-- A reader that has ended stays so until another connection begins. -/
theorem Run.ended (run : Run t trace last) (sound : t.Sound)
    (once : ∀ x ∈ trace, x.1 ≠ .begins .connect) (ended : t.reader = .ended) :
    last.reader = .ended := by
  induction run with
  | nil => exact ended
  | @cons t next last e trace step rest ih =>
    have other : e ≠ .begins .connect := once _ List.mem_cons_self
    refine ih (sound.step step).1 (fun x member => once x (List.mem_cons_of_mem _ member)) ?_
    have intake := sound.intake step
    generalize octetsOf t next = octets, packetOf? t next = taken at intake
    cases intake with
    | rests _ still => exact still ended
    | arrives stands | unpacks stands =>
      rw [ended] at stands
      cases stands
    | drops _ stopped => exact stopped
    | begins => exact absurd rfl other
    | delivers reader => exact reader.trans ended

/-- Of what the reader has taken, its buffer is what it has not handled. -/
theorem Run.unpacks {octets : Bytes} {ps : List Packet} (run : Run t trace last) (sound : t.Sound)
    (once : ∀ x ∈ trace, x.1 ≠ .begins .connect) (running : last.reader ≠ .ended)
    (before : Packet.Unpacks octets ps t.link.buffer) :
    Packet.Unpacks (octets ++ octetsIn t trace) (ps ++ packetsIn t trace) last.link.buffer := by
  induction run generalizing octets ps with
  | nil =>
    simpa using before
  | @cons t next last e trace step rest ih =>
    have later : ∀ x ∈ trace, x.1 ≠ .begins .connect :=
      fun x member => once x (List.mem_cons_of_mem _ member)
    have still := (sound.step step).1
    have after : Packet.Unpacks (octets ++ octetsOf t next) (ps ++ (packetOf? t next).toList)
        next.link.buffer := by
      have intake := sound.intake step
      generalize octetsOf t next = octets, packetOf? t next = taken at intake ⊢
      cases intake with
      | rests _ _ buffer | delivers _ buffer =>
        rw [buffer]
        simpa using before
      | arrives stands unpacking buffer =>
        rw [buffer]
        simpa using before.append _
      | unpacks stands decoded buffer =>
        rw [buffer]
        simpa using before.concat decoded
      | drops _ stopped => exact absurd (rest.ended still later stopped) running
      | begins => exact absurd rfl (once _ List.mem_cons_self)
    have whole := ih still later running after
    simpa only [octetsIn_cons, packetsIn_cons, List.append_assoc] using whole

/-- How a reader stands after it has read anything at all. -/
structure Survives (start : Tasks) (trace : List (Event × Tasks)) (u : Tasks) : Prop where
  /-- The octets that it has taken are the packets that it has handled and those in its buffer. -/
  unpacked : Packet.Unpacks (octetsIn start trace) (packetsIn start trace) u.link.buffer
  /-- Whatever happens next, the link fails for no other reason than these. -/
  fails : ∀ e next, Step u e next → next.link.phase = .failed → ReaderFault u
  /-- What a sound header introduces is taken off the buffer, and the link goes on. -/
  handles : ∀ first length zero guard tail, u.reader = .unpacking →
    u.link.buffer = first :: length :: zero :: guard :: tail →
    Packet.headerFault? first length zero guard = none →
    length.toNat ≤ u.link.buffer.length →
    ∃ p next, Step u .quiet next ∧ packetOf? u next = some p ∧
      Packet.headerLength + p.payload.length = length.toNat ∧
      next.link.buffer = u.link.buffer.drop length.toNat ∧ next.link.phase ≠ .failed ∧
      (next.reader = .unpacking ∨ next.reader = .queueing p)
  /-- No octet is looked for where there is none. -/
  decodes : Checked.decode u.link.buffer = some ((Packet.decode u.link.buffer).mapError .link)
  reaches : ∀ p, Checked.handle p u.link = some (handle p u.link)
  fits : ∀ limit octets after, u.link.transport.take? limit = some (.ok octets, after) →
    octets.length ≤ Transport.chunk

/-- The reader takes what its buffer begins with, whatever it is. -/
theorem Sound.exists_step_of_decode (sound : t.Sound) {p : Packet} {rest : Bytes}
    (stands : t.reader = .unpacking)
    (decoded : Packet.decode t.link.buffer = .ok (some (p, rest))) :
    ∃ next, Step t .quiet next ∧ next.link.buffer = rest ∧ next.link.phase ≠ .failed ∧
      (next.reader = .unpacking ∨ next.reader = .queueing p) := by
  have reads : t.link.phase.isReading := sound.running (by rw [stands]; nofun)
  cases names : t.link.networkOf? p with
  | some netId =>
    refine ⟨_, .hello stands decoded names, rfl, ?_, .inr rfl⟩
    exact Phase.ne_failed_of_isReading reads
  | none =>
    obtain ⟨link, handled, -, still, left, -⟩ :=
      @exists_of_handle p { t.link with buffer := rest } names
    refine ⟨_, .packet stands decoded names handled, left, ?_, .inl stands⟩
    exact Phase.ne_failed_of_isReading (still.trans reads)

/-- Whatever arrives once a connection has begun, and however the tasks take turns. -/
theorem Reached.survives (reached : t.Reached) (begun : Step t (.begins .connect) start)
    (run : Run start trace u) (once : ∀ x ∈ trace, x.1 ≠ .begins .connect)
    (running : u.reader ≠ .ended) : Survives start trace u := by
  have there : u.Reached := (reached.step begun).run run
  have unread : start.link.buffer = [] := by
    cases begun with
    | connect => rfl
  refine ⟨?_, ?_, ?_, Checked.decode_eq _, fun p => Checked.handle_eq p _, ?_⟩
  · have before : Packet.Unpacks [] [] start.link.buffer := by
      rw [unread]
      exact .nil
    exact run.unpacks (reached.step begun).sound once running before
  · intro e next step failed
    exact there.readerFault running step failed
  · intro first length zero guard tail stands front sound whole
    obtain ⟨p, decoded, size⟩ := Packet.exists_decode_of_sound front sound whole
    obtain ⟨next, step, left, unfailed, stays⟩ := there.sound.exists_step_of_decode stands decoded
    exact ⟨p, next, step, packetOf?_of_decode stands decoded left, size, left, unfailed, stays⟩
  · intro limit octets after taken
    exact Transport.length_le_of_take taken

/-- A packet that is too short for its kind is passed over; the octets behind it fail the link. -/
theorem Reached.survives_short :
    let peer : Address := ⟨[0x00, 0x80, 0x25, 0x00, 0x00, 0x01], rfl⟩
    let short : Packet := .of .idExchange peer .zero [0, 4]
    ∃ t start trace u, t.Reached ∧ Step t (.begins .connect) start ∧ Run start trace u ∧
      packetsIn start trace = [short] ∧ u.link.buffer = [0x55, 0, 0, 0x55] ∧
      u.reader = .unpacking ∧ Survives start trace u ∧
      ∃ next, Step u .quiet next ∧ next.link.phase = .failed := by
  intro peer short
  let noise : Bytes := [0x55, 0, 0, 0x55]
  let transport : Transport := { arrivals := [⟨0, .octets (short.layout ++ noise)⟩] }
  let started : Tasks := ⟨(new transport).link.started, false, .looping, .connecting⟩
  let reading : Tasks := { started with reader := .reading }
  let arrived : Tasks := { started with
    link := { started.link with
      transport := { transport with arrivals := [] }, buffer := short.layout ++ noise }
    reader := .unpacking }
  let left : Tasks := { arrived with link := { arrived.link with buffer := noise } }
  let trace : List (Event × Tasks) := [(.quiet, reading), (.quiet, arrived), (.quiet, left)]
  have unused : (new transport).Reached := ⟨transport, [], .nil⟩
  have begun : Step (new transport) (.begins .connect) started := .connect rfl rfl
  have decoded := @Packet.decode_layout_append short (by decide) noise
  have run : Run started trace left :=
    .cons (.goOn rfl rfl) <|
    .cons (@Step.arrive reading 500 _ _ rfl rfl) <|
    .cons (@Step.packet arrived short noise _ rfl decoded rfl rfl) .nil
  have quiet : ∀ x ∈ trace, x.1 ≠ .begins .connect := by
    simp [trace]
  have handled : packetsIn started trace = [short] := by
    have idle : packetOf? started reading = none := packetOf?_of_ne nofun
    have waits : packetOf? reading arrived = none := packetOf?_of_ne nofun
    have takes : packetOf? arrived left = some short := packetOf?_of_decode rfl decoded rfl
    simp [trace, idle, waits, takes]
  have bad : Packet.decode left.link.buffer = .error (.badSync 0x55) := rfl
  exact ⟨new transport, started, trace, left, unused, begun, run, handled, rfl, rfl,
    unused.survives begun run quiet nofun, _, .malformed rfl bad, rfl⟩

end Tasks

end Link

end SolarTelemetry
