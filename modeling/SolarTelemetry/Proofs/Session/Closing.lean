import SolarTelemetry.Proofs.Session.Authentication
import SolarTelemetry.Proofs.Session.Operations

/-!
# Closing a session

A session ends with one request to log off, which fits into a single packet. It is written if the
link has not failed and the transport takes it, and after it nothing is written any more; the reader
is waited for until its last read has come to an end. No packet before the request is one that logs
off: what a packet carries is a whole frame only if it begins the frame, and the frame tells what
was asked.
-/

namespace SolarTelemetry

theorem Packet.posted_injective : Function.Injective Packet.posted := by
  intro p q same
  have layouts : p.layout = q.layout := congrArg Prod.snd same
  have read := ofWire?_layout p
  rw [layouts, ofWire?_layout] at read
  exact (Option.some.inj read).symm

namespace FrameFormat

open SolarTelemetry.Frame

variable {format : FrameFormat} {payload payload' frame frame' : Bytes}

/-- A frame does not end with another: the sync bytes stand at its ends only. -/
theorem eq_of_suffix (encoded : format.encode payload = .ok frame)
    (encoded' : format.encode payload' = .ok frame') (suffix : frame' <:+ frame) :
    frame' = frame := by
  obtain ⟨-, rfl⟩ := format.encode_eq_ok_iff.mp encoded
  obtain ⟨-, rfl⟩ := format.encode_eq_ok_iff.mp encoded'
  rcases List.suffix_cons_iff.mp suffix with same | ⟨front, inside⟩
  · exact same
  · rw [← List.cons_append, ← List.append_assoc] at inside
    have opened : front ++ sync :: stuff (format.assemble payload') =
        stuff (format.assemble payload) := List.append_cancel_right inside
    have member : sync ∈ stuff (format.assemble payload) := by
      rw [← opened]
      simp
    exact absurd member (sync_notMem_stuff _)

end FrameFormat

namespace Link

variable {source destination : Address} {payload : Bytes}

/-- A packet that completes a payload carries the end of it. -/
theorem suffix_of_mem_packetsOf {last : Bytes} {source' destination' : Address}
    (member : Packet.of .data source' destination' last ∈ packetsOf source destination payload) :
    last <:+ payload := by
  fun_induction packetsOf source destination payload with
  | case1 => cases member
  | case2 payload short full =>
    cases List.mem_singleton.mp member
    exact List.suffix_refl _
  | case3 payload long ih =>
    rcases List.mem_cons.mp member with first | later
    · have codes := congrArg Packet.code first
      simp [Packet.of, Command.code] at codes
    · exact (ih later).trans (List.drop_suffix _ _)

end Link

namespace Session

theorem length_logoffRequest (ownSerial : UInt32) (packetId : UInt16) :
    (logoffRequest.encode ownSerial packetId).length = 32 := by
  rfl

/-- The request to log off as it is framed. -/
theorem exists_logoff_frame (format : FrameFormat) (ownSerial : UInt32) (packetId : UInt16) :
    ∃ frame, format.encode (logoffRequest.encode ownSerial packetId) = .ok frame ∧ frame ≠ [] ∧
      frame.length ≤ Packet.maxPayload := by
  have short : (logoffRequest.encode ownSerial packetId).length ≤ Frame.maxPayload := by
    rw [length_logoffRequest]
    decide
  have bound := format.length_enclose_le (logoffRequest.encode ownSerial packetId)
  rw [length_logoffRequest] at bound
  exact ⟨_, format.encode_of_le short, List.cons_ne_nil _ _, Nat.le_trans bound (by decide)⟩

/-- What stands on the transport of a session for a request to log off. -/
def IsLogoff (s : Session Link) (packetId : UInt16) (entry : Address × Bytes) : Prop :=
  ∃ frame, s.stream.format.encode (logoffRequest.encode s.ownSerial packetId) = .ok frame ∧
    entry = (Packet.of .data s.link.info.ownAddress .broadcast frame).posted

variable {start s : Session Link}

theorem controlWord_of_encode {r r' : Request} {ownSerial ownSerial' : UInt32}
    {packetId packetId' : UInt16}
    (same : r.encode ownSerial packetId = r'.encode ownSerial' packetId') :
    r.controlWord = r'.controlWord := by
  have read := r.read_encode ownSerial packetId
  rw [same, r'.read_encode, Option.some.injEq, Prod.mk.injEq] at read
  have codes : r'.controlWord.code = r.controlWord.code :=
    congrArg Header.destinationControl read.1
  cases word : r.controlWord <;> cases word' : r'.controlWord <;> rw [word, word'] at codes <;>
    first | rfl | cases codes

/-- No message but a request to log off looks like one. -/
theorem not_isLogoff_of_plain {m : Message} (plain : m.isLogoff = false) {p : Packet}
    (member : p ∈ m.packets s) (packetId : UInt16) : ¬s.IsLogoff packetId p.posted := by
  rintro ⟨frame, encoded, posted⟩
  obtain rfl := Packet.posted_injective posted
  cases m with
  | signalQuery count =>
    have only := List.mem_singleton.mp (List.mem_of_mem_take member)
    have codes := congrArg Packet.code only
    simp [Link.signalQuery, Packet.of, Command.code] at codes
  | request r destination ownId count =>
    cases framed : s.stream.format.encode (r.encode s.ownSerial ownId) with
    | error e => simp [Message.packets, framed] at member
    | ok whole =>
      simp only [Message.packets, framed] at member
      have suffix := Link.suffix_of_mem_packetsOf (List.mem_of_mem_take member)
      obtain rfl := FrameFormat.eq_of_suffix framed encoded suffix
      have words := controlWord_of_encode (FrameFormat.eq_of_encode _ framed encoded)
      change (r.controlWord == .logoff) = false at plain
      rw [words] at plain
      cases plain

/-- What closing a session comes to, given the transport on which its link was made and what was on
it when the session began. -/
structure Closes (transport : Transport) (before : List (Address × Bytes))
    (start s : Session Link) : Prop where
  /-- Until then, messages were written that do not log off, and nothing that looks like one that
  does. -/
  said : ∃ messages, (∀ m ∈ messages, m.isLogoff = false) ∧
    s.link.transport.sent = before ++ (packetsOf start messages).map Packet.posted ∧
    ∀ p ∈ packetsOf start messages, ∀ packetId, ¬start.IsLogoff packetId p.posted
  logsOff : ∃ entry, start.IsLogoff s.numbering.current entry ∧
    s.close.transport.sent = s.link.transport.sent ++
      if s.link.phase ≠ .failed ∧ s.link.transport.Accepts 1 then [entry] else []
  /-- The read under way is waited for. -/
  finished : ∃ left, Link.LastRead (Outcome.state (logOff s)).link left ∧
    s.close = if left.phase = .failed then left else { left with phase := .notConnected }
  ended : s.close.phase = .notConnected ∨ s.close.phase = .failed
  /-- For a reader and a caller who take turns: the call returns, and there is no reader then. -/
  stopped : ∃ trace u last, Link.Tasks.Run (.new transport) trace u ∧
    Link.Tasks.Step u (.returns .close (.ok .done)) last ∧
    last.reader = .ended ∧ last.caller = .idle ∧ last.link = s.close

theorem link_logOff {frame : Bytes}
    (encoded : s.stream.format.encode (logoffRequest.encode s.ownSerial s.numbering.current) =
      .ok frame) :
    (Outcome.state (logOff s)).link = Outcome.state (Link.write frame .broadcast s.link) := by
  rw [logOff, transaction_eq, Outcome.state_mapState]
  have sent := @state_send s.numbering.current logoffRequest .broadcast s
  rw [state_write encoded] at sent
  rw [sent]
  rfl

/-- A reader and a caller who take turns get as far as a session that was used to log off, and then
close its link. -/
theorem exists_closed {transport : Transport} {uses : List Link.Use} {frame : Bytes}
    (made : s.link = uses.foldl Link.use { transport })
    (asked : (Outcome.state (logOff s)).link =
      Outcome.state (Link.write frame .broadcast s.link)) :
    ∃ trace u last, Link.Tasks.Run (.new transport) trace u ∧
      Link.Tasks.Step u (.returns .close (.ok .done)) last ∧
      last.reader = .ended ∧ last.caller = .idle ∧ last.link = s.close := by
  have fresh : (Link.Tasks.new transport).Rests { transport } := ⟨false, rfl, fun _ => rfl⟩
  obtain ⟨trace, t, run, rests⟩ := fresh.exists_run_all uses
  rw [← made] at rests
  obtain ⟨more, t', sends, rests'⟩ := rests.exists_run (.perform (.write frame .broadcast))
  rw [Link.use_write, ← asked] at rests'
  obtain ⟨others, u, last, stops, returns, ended, idle, same⟩ := rests'.exists_closed
  rw [close_eq, link_closed]
  exact ⟨_, u, last, (run.append sends).append stops, returns, ended, idle, same⟩

/-- A session that has not been closed can be, and then nothing more is heard of it. -/
theorem closes_of_converses {transport : Transport} {uses : List Link.Use}
    (made : start.link = uses.foldl Link.use { transport }) (settled : start.link.Settled)
    (converses : Converses start s) : Closes transport start.link.transport.sent start s := by
  obtain ⟨messages, plain, writes⟩ := converses settled
  obtain ⟨frame, encoded, full, short⟩ :=
    exists_logoff_frame start.stream.format start.ownSerial s.numbering.current
  have standing := writes.link.settled settled
  have own : s.link.info.ownAddress = start.link.info.ownAddress :=
    congrArg Link.Info.ownAddress writes.link.info
  have asked : (Outcome.state (logOff s)).link =
      Outcome.state (Link.write frame .broadcast s.link) := by
    apply link_logOff
    rw [writes.format, writes.ownSerial]
    exact encoded
  have left : s.close = (Outcome.state (logOff s)).link.close :=
    (close_eq s).trans (link_closed _)
  have single : Link.packetsOf s.link.info.ownAddress .broadcast frame =
      [.of .data s.link.info.ownAddress .broadcast frame] := Link.packetsOf_of_le full short
  have written := Link.sent_write_of_single standing single short
  obtain ⟨count, onward⟩ := Link.onward_write frame .broadcast s.link
  obtain ⟨ended, silent⟩ := Link.close_settled (onward.settled standing)
  have finished := Link.exists_lastRead_of_close (Outcome.state (logOff s)).link
  rw [← asked, ← left] at ended silent
  rw [← left] at finished
  rw [own] at written
  obtain ⟨others, used⟩ := writes.used
  have used : s.link = (uses ++ others).foldl Link.use { transport } := by
    rw [used, made, List.foldl_append]
  refine ⟨⟨messages, plain, writes.link.sent, ?_⟩, ⟨_, ⟨frame, encoded, rfl⟩, ?_⟩, finished, ended,
    exists_closed used asked⟩
  · intro p member
    obtain ⟨m, listed, part⟩ := List.mem_flatMap.mp member
    exact not_isLogoff_of_plain (plain m listed) part
  · rw [silent, asked]
    exact written

end Session

end SolarTelemetry
