import SolarTelemetry.Frame.Format
import SolarTelemetry.Proofs.Message.Header

/-!
# Requests read as replies

Requests and replies are laid out alike, so a request can be read as a reply. What is read of it are
the values that it was made of and its body, filled up with zeros to whole words; and its first
octet counts these words, as long as one octet can. Anything that is long enough for a header is a
reply, and it is made up of just the header and the body that are read.
-/

namespace SolarTelemetry

namespace Request

variable (r : Request) (ownSerial : UInt32) (packetId : UInt16)

theorem padding_le : r.padding ≤ 3 := by
  unfold padding
  omega

theorem length_encode :
    (r.encode ownSerial packetId).length = Header.length + r.body.length + r.padding := by
  simp [encode, Header.length_encode, Nat.add_assoc]

theorem four_dvd_length_encode : 4 ∣ (r.encode ownSerial packetId).length := by
  rw [length_encode, padding, Header.length]
  omega

/-- The first octet tells the length just of a request of fewer words than an octet counts. -/
theorem length_encode_eq_iff :
    (r.encode ownSerial packetId).length = 4 * (r.header ownSerial packetId).words.toNat ↔
      (r.encode ownSerial packetId).length < 1024 := by
  have whole := r.four_dvd_length_encode ownSerial packetId
  have counted : (r.header ownSerial packetId).words.toNat =
      (r.encode ownSerial packetId).length / 4 % 256 := by
    rw [length_encode]
    exact UInt8.toNat_ofNat'
  rw [counted]
  omega

theorem head?_encode :
    (r.encode ownSerial packetId).head? = some (r.header ownSerial packetId).words := by
  simp [encode, Header.encode]

end Request

namespace Reply

theorem unflagged_flagged (packetId : UInt16) :
    (packetId ||| Request.packetFlag) &&& ~~~Request.packetFlag = packetId &&& 0x7FFF := by
  have mask : ~~~Request.packetFlag = 0x7FFF := by decide
  have apart : Request.packetFlag.toNat &&& (0x7FFF : UInt16).toNat = 0 := by decide
  apply UInt16.toNat_inj.mp
  rw [mask, UInt16.toNat_and, UInt16.toNat_or, Nat.and_or_distrib_right, apart, Nat.or_zero,
    UInt16.toNat_and]

theorem decode_eq_ok_iff {payload : Bytes} {reply : Reply} :
    decode payload = .ok reply ↔ payload = reply.header.encode ++ reply.body := by
  rw [← Header.read_eq_some_iff, decode]
  cases read : Header.read payload with
  | none => simp
  | some parts =>
    obtain ⟨header, body⟩ := parts
    constructor
    · intro decoded
      cases decoded
      rfl
    · intro same
      cases same
      rfl

theorem decode_eq_error_iff {payload : Bytes} {e : ProtocolError} :
    decode payload = .error e ↔
      payload.length < Header.length ∧ e = .shortPayload payload.length := by
  rw [← Header.read_eq_none_iff, decode]
  cases read : Header.read payload with
  | none => simp [eq_comm]
  | some parts => simp

/-- A request that fits a frame is made of whole words, counted by its first octet. As a reply it
has the values it was made of in its header, and its body with at most three zeros behind it. A
payload cannot be read just if it is shorter than a header, and what is read of it are always the
header and the body that it is made of. -/
theorem decode_exact :
    (∀ (r : Request) (ownSerial : UInt32) (packetId : UInt16),
      let octets := r.encode ownSerial packetId
      octets.length ≤ Frame.maxPayload →
      ∃ words : UInt8, ∃ padding ≤ 3,
        let header : Header :=
          { words
            control := r.control.code
            destination := r.target
            destinationControl := r.controlWord.code
            source := ⟨0x007D, ownSerial⟩
            sourceControl := r.controlWord.code
            status := 0
            fragment := 0
            packetId := packetId ||| 0x8000 }
        let reply : Reply := ⟨header, r.body ++ List.replicate padding 0⟩
        4 ∣ octets.length ∧ octets.length = 4 * words.toNat ∧ octets.head? = some words ∧
        decode octets = .ok reply ∧ reply.packetId = packetId &&& 0x7FFF) ∧
    (∀ payload e, decode payload = .error e ↔
      payload.length < 24 ∧ e = .shortPayload payload.length) ∧
    ∀ payload reply, decode payload = .ok reply ↔
      reply.header.encode ++ reply.body = payload := by
  refine ⟨?request, fun _ _ => decode_eq_error_iff, fun _ _ => ?whole⟩
  case request =>
    intro r ownSerial packetId octets fits
    have small : octets.length < 1024 := Nat.lt_of_le_of_lt fits (by decide)
    have decoded : decode octets = .ok ⟨r.header ownSerial packetId,
        r.body ++ List.replicate r.padding 0⟩ := by
      rw [decode, r.read_encode]
    exact ⟨_, r.padding, r.padding_le, r.four_dvd_length_encode ownSerial packetId,
      (r.length_encode_eq_iff ownSerial packetId).mpr small, r.head?_encode ownSerial packetId,
      decoded, unflagged_flagged packetId⟩
  case whole => rw [decode_eq_ok_iff, eq_comm]

/-- A body of five octets gets three zeros, and a number without the flag is given it. -/
theorem decode_exact_padded :
    let r : Request :=
      { target := ⟨0x0083, 2130012345⟩
        control := .unsolicited
        controlWord := .logon
        body := [1, 2, 3, 4, 5] }
    let octets := r.encode 900000001 5
    octets.length ≤ Frame.maxPayload ∧
    (∃ words : UInt8, ∃ padding ≤ 3, octets.length = 4 * words.toNat ∧
      decode octets = .ok
        ⟨⟨words, 0xE0, ⟨0x0083, 2130012345⟩, 0x0100, ⟨0x007D, 900000001⟩, 0x0100, 0, 0, 0x8005⟩,
          [1, 2, 3, 4, 5] ++ List.replicate padding 0⟩) ∧
    decode (octets.take 23) = .error (.shortPayload 23) ∧
    decode (octets.take 25) = .ok ⟨r.header 900000001 5, [1]⟩ := by
  intro r octets
  have fits : octets.length ≤ Frame.maxPayload := by decide +kernel
  obtain ⟨request, short, whole⟩ := decode_exact
  obtain ⟨words, padding, few, -, counted, -, decoded, -⟩ := request r 900000001 5 fits
  exact ⟨fits, ⟨words, padding, few, counted, decoded⟩,
    (short (octets.take 23) (.shortPayload 23)).mpr ⟨by decide +kernel, rfl⟩,
    (whole (octets.take 25) ⟨r.header 900000001 5, [1]⟩).mpr (by decide +kernel)⟩

end Reply

end SolarTelemetry
