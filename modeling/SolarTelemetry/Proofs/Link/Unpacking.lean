import SolarTelemetry.Proofs.Link.Indexing
import SolarTelemetry.Proofs.Link.Scheduling
import SolarTelemetry.Proofs.Loop

/-!
# Unpacking comes to an end

A packet comes off the buffer before its addresses are read. It takes its whole length with it, and
nothing goes with a header that is bad or a packet that is not whole yet. So the reader handles no
more packets of what it has taken in than there is room for headers.
-/

namespace SolarTelemetry

namespace Checked

/-- Takes the packet at the front off a buffer. Its octets are gone before they are read. -/
def takeOff (buffer : Bytes) : Option (Outcome Bytes (Option Packet)) :=
  match buffer with
  | start :: length :: zero :: guard :: _ =>
    match Packet.headerFault? start length zero guard with
    | some fault => some (.error (.link fault) buffer)
    | none =>
      if buffer.length < length.toNat then some (.ok none buffer)
      else
        (packet (buffer.take length.toNat)).map fun
          | .ok p => .ok (some p) (buffer.drop length.toNat)
          | .error e => .error e (buffer.drop length.toNat)
  | _ => some (.ok none buffer)

/-- No packet is lost for its addresses. -/
theorem takeOff_eq (buffer : Bytes) :
    takeOff buffer = some
      (match Packet.decode buffer with
      | .error fault => .error (.link fault) buffer
      | .ok none => .ok none buffer
      | .ok (some (p, rest)) => .ok (some p) rest) := by
  unfold takeOff
  split
  · next start length zero guard tail =>
    rw [Packet.decode]
    generalize start :: length :: zero :: guard :: tail = buffer
    cases header : Packet.headerFault? start length zero guard with
    | some fault => rfl
    | none =>
      simp only
      by_cases short : buffer.length < length.toNat
      · rw [if_pos short, if_pos short]
      · rw [if_neg short, if_neg short]
        have long : Packet.headerLength ≤ (buffer.take length.toNat).length := by
          have := (Packet.headerFault?_eq_none_iff.mp header).2.2
          rw [List.length_take]
          omega
        obtain ⟨p, picked, read, -⟩ := packet_eq long
        rw [picked, read]
        rfl
  · next few =>
    have unfinished : Packet.decode buffer = .ok none := by
      unfold Packet.decode
      split
      · next start length zero guard tail => exact (few start length zero guard tail rfl).elim
      · rfl
    rw [unfinished]

/-- Taking a packet off takes its octets, a header at least, and nothing goes without a packet. -/
theorem exists_takeOff (buffer : Bytes) :
    ∃ outcome, takeOff buffer = some outcome ∧
      match outcome with
      | .ok (some _) rest => ∃ raw, buffer = raw ++ rest ∧ 18 ≤ raw.length
      | .ok none rest => rest = buffer
      | .error _ rest => rest = buffer := by
  refine ⟨_, takeOff_eq buffer, ?_⟩
  cases decoded : Packet.decode buffer with
  | error fault => rfl
  | ok found =>
    cases found with
    | none => rfl
    | some found =>
      obtain ⟨p, rest⟩ := found
      obtain ⟨raw, front, alone⟩ := Packet.exists_raw_of_decode decoded
      have long := Packet.length_of_decode alone
      have header : Packet.headerLength = 18 := rfl
      refine ⟨raw, front, ?_⟩
      omega

end Checked

namespace Link

theorem buffer_handle {p : Packet} {link next : Link} (handled : handle p link = .ok () next) :
    next.buffer = link.buffer := by
  have same : handle p link = Outcome.mapState (buffering link.buffer) (handle p link) :=
    respects_handle_buffering link.buffer p link
  rw [handled] at same
  have kept : next = buffering link.buffer next := (EStateM.Result.ok.inj same).2
  rw [kept, buffering]

/-- One round of what the reader does with the packets it has taken in. -/
def unpack (link : Link) : Link ⊕ Link :=
  match Packet.decode link.buffer with
  | .error fault => .inl (link.fail (Error.link fault).message)
  | .ok none => .inl link
  | .ok (some (p, rest)) =>
    match handle p { link with buffer := rest } with
    | .error e next => .inl (next.fail e.message)
    | .ok () next => .inr next

theorem consumes_unpack : Consumes unpack (fun link => link.buffer.length) Packet.headerLength := by
  intro link next goes
  unfold unpack at goes
  split at goes
  · cases goes
  · cases goes
  · next p rest decoded =>
    split at goes
    · cases goes
    · next handled =>
      cases goes
      have taken := Packet.length_of_decode decoded
      have kept : next.buffer = rest := buffer_handle handled
      simp only [kept]
      omega

theorem yields_unpack : Yields unpack (accept (.ok [])) := by
  intro link
  unfold unpack
  split
  · next fault decoded => rw [accept_of_malformed decoded, Sum.elim_inl, id]
  · next decoded => rw [accept_of_rest decoded, Sum.elim_inl, id]
  · next p rest decoded =>
    rw [accept_of_packet decoded]
    split
    · next e next handled => rw [handled, Sum.elim_inl, id]
    · next next handled =>
      have kept : next.buffer = rest := buffer_handle handled
      rw [handled, Sum.elim_inr, ← kept]

end Link

end SolarTelemetry
