import SolarTelemetry.Frame.Stream
import SolarTelemetry.Proofs.Frame.Corruption
import SolarTelemetry.Proofs.Frame.Synchronisation

/-!
# One frame for each payload

Whatever the register was, just one pair of octets takes it to `residue`, its own complement. So a
frame is verified just if it is the one that was assembled of its payload, and to write a payload
and to read it back are inverse to each other.
-/

namespace SolarTelemetry

namespace Frame

/-- The octets that close a frame are determined by what comes before them. -/
theorem foldl_absorb_eq_residue_iff {r : UInt16} {trailer : Bytes} (two : trailer.length = 2) :
    trailer.foldl absorb r = residue ↔ trailer = Bytes.ofWord16 (~~~r) := by
  constructor
  · intro sound
    match trailer, two with
    | [low, high], _ =>
      have own := absorb_complement r
      obtain ⟨first, second⟩ := eq_of_absorb_absorb (sound.trans own.symm)
      rw [first, second]
      rfl
  · intro complement
    rw [complement]
    exact absorb_complement r

end Frame

open SolarTelemetry.Frame

namespace FrameFormat

variable {format : FrameFormat} {frame payload : Bytes}

/-- What is verified has been assembled of its payload. -/
theorem eq_assemble_of_verify (intact : format.verify frame = .ok payload) :
    payload.length ≤ maxPayload ∧ frame = format.assemble payload := by
  obtain ⟨long, fits, sound⟩ := register_of_verify intact
  rw [verify, if_neg (Nat.not_lt.mpr long), if_neg (Nat.not_lt.mpr fits),
    if_neg (not_not_intro sound)] at intact
  split at intact
  · cases intact
  · next opening =>
    have opens : frame.take 4 = format.header := Decidable.of_not_not opening
    have inner : (frame.drop 4).take (frame.length - 6) = payload := Except.ok.inj intact
    have length : payload.length = frame.length - 6 := by
      rw [← inner, List.length_take, List.length_drop]
      omega
    -- header, payload and the last two octets are all of the frame
    have split : frame = format.header ++ payload ++ (frame.drop 4).drop (frame.length - 6) := by
      rw [← opens, ← inner, List.append_assoc, List.take_append_drop, List.take_append_drop]
    have two : ((frame.drop 4).drop (frame.length - 6)).length = 2 := by
      rw [List.length_drop, List.length_drop]
      omega
    have trailer : (frame.drop 4).drop (frame.length - 6) =
        Bytes.ofWord16 (checksum (format.header ++ payload)) := by
      apply (foldl_absorb_eq_residue_iff two).mp
      rw [← register_append, ← split]
      exact sound
    constructor
    · have : maxPayload + 6 = maxLength := rfl
      omega
    · rw [trailer] at split
      exact split

theorem verify_eq_ok_iff :
    format.verify frame = .ok payload ↔
      payload.length ≤ maxPayload ∧ frame = format.assemble payload := by
  constructor
  · exact eq_assemble_of_verify
  · rintro ⟨short, rfl⟩
    exact format.verify_assemble short

/-- What stands between two sync bytes is taken off with the first of them. -/
theorem decode_enclosed {run : Bytes} (free : sync ∉ run) (full : run ≠ []) (more : Bytes) :
    format.decode (sync :: (run ++ sync :: more)) =
      (some (format.unwrap run), sync :: more) := by
  have inside : ∀ b ∈ run, (!isSync b) = true := by
    intro b member
    have differs : b ≠ sync := fun same => free (same ▸ member)
    simpa [isSync] using differs
  have closes : (run ++ sync :: more).dropWhile (!isSync ·) = sync :: more :=
    List.dropWhile_append_of_pos inside
  have between : (run ++ sync :: more).takeWhile (!isSync ·) = run := by
    rw [List.takeWhile_append_of_pos inside]
    exact List.append_nil run
  have something : ¬run.isEmpty := by simpa using full
  rw [decode]
  split
  · next none => cases none
  · next opening rest outer =>
    cases outer
    split
    · next none =>
      rw [closes] at none
      cases none
    · next closing kept inner =>
      rw [closes] at inner
      cases inner
      simp only [between, if_neg something]

/-- The closing sync byte is left in the buffer. -/
theorem decode_of_encode (encoded : format.encode payload = .ok frame) :
    format.decode frame = (some (.ok payload), [sync]) := by
  obtain ⟨short, rfl⟩ := format.encode_eq_ok_iff.mp encoded
  have full : stuff (format.assemble payload) ≠ [] := by
    apply List.ne_nil_of_length_pos
    rw [length_stuff, length_assemble]
    omega
  rw [decode_enclosed (sync_notMem_stuff _) full, format.unwrap_stuff_assemble short]

theorem encode_of_lt (long : maxPayload < payload.length) :
    format.encode payload = .error (.tooLarge maxLength) :=
  if_pos long

end FrameFormat

/-- A payload that is too long is not sent, not even in part. -/
theorem FrameStream.write_of_lt {σ : Type} [Channel σ] {payload : Bytes} {f : FrameStream σ}
    (long : maxPayload < payload.length) (destination : Address) :
    f.write payload destination = .error (.frame (.tooLarge maxLength)) f := by
  rw [write, FrameFormat.encode_of_lt long]

namespace FrameFormat

/-- A frame is verified just if it is the header, a payload that is not too long and the check
sequence of both, and the payload is what comes of it. So decoding undoes encoding; a longer payload
is refused with nothing sent; and no two payloads have one encoding. -/
theorem verify_canonical (format : FrameFormat) (payload : Bytes) :
    (∀ raw : Bytes, format.verify raw = .ok payload ↔
      payload.length ≤ 521 ∧
        let body := [0xFF, 0x03] ++ Bytes.ofWord16 format.protocolId ++ payload
        raw = body ++ Bytes.ofWord16 (checksum body)) ∧
    (payload.length ≤ 521 →
      ∃ frame, format.encode payload = .ok frame ∧
        format.decode frame = (some (.ok payload), [sync])) ∧
    (521 < payload.length →
      format.encode payload = .error (.tooLarge maxLength) ∧
        ∀ {σ : Type} [Channel σ] (f : FrameStream σ) (destination : Address),
          f.write payload destination = .error (.frame (.tooLarge maxLength)) f) ∧
    ∀ other : Bytes, other ≠ payload →
      ∀ frame, format.encode payload = .ok frame → format.encode other ≠ .ok frame := by
  refine ⟨?canonical, ?decoded, ?refused, ?distinct⟩
  case canonical =>
    intro raw
    exact verify_eq_ok_iff
  case decoded =>
    intro short
    have encoded := format.encode_of_le short
    exact ⟨_, encoded, decode_of_encode encoded⟩
  case refused =>
    intro long
    constructor
    · exact encode_of_lt long
    · intro σ _ f destination
      exact FrameStream.write_of_lt long destination
  case distinct =>
    intro other differs frame encoded again
    apply differs
    exact format.eq_of_encode again encoded

/-- Three octets of which two have to be escaped, and a payload that is one octet too long. -/
theorem verify_canonical_stuffed :
    (({} : FrameFormat).verify
        [0xFF, 0x03, 0x60, 0x65, 0x7E, 0x11, 0x00, 0x22, 0x44] = .ok [0x7E, 0x11, 0x00] ∧
      ∃ frame, ({} : FrameFormat).encode [0x7E, 0x11, 0x00] = .ok frame ∧
        ({} : FrameFormat).decode frame = (some (.ok [0x7E, 0x11, 0x00]), [sync]) ∧
        ({} : FrameFormat).encode [0x7E, 0x11] ≠ .ok frame) ∧
      ({} : FrameFormat).encode (List.replicate 522 0x00) = .error (.tooLarge maxLength) := by
  obtain ⟨canonical, decoded, -, distinct⟩ := verify_canonical {} [0x7E, 0x11, 0x00]
  obtain ⟨frame, encoded, read⟩ := decoded (by decide)
  constructor
  · constructor
    · apply (canonical _).mpr
      constructor
      · decide
      · decide +kernel
    · exact ⟨frame, encoded, read, distinct _ (by decide) frame encoded⟩
  · have long : 521 < (List.replicate 522 (0x00 : UInt8)).length := by
      rw [List.length_replicate]
      decide
    exact ((verify_canonical {} _).2.2.1 long).1

end FrameFormat

end SolarTelemetry
