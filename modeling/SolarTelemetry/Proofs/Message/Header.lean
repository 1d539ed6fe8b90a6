import SolarTelemetry.Message.Request
import SolarTelemetry.Message.Reply
import SolarTelemetry.Proofs.Reader

/-!
# Reading headers back

A header that was written is read back as it was, whatever follows it. Twenty-four octets are enough
to read a header from, and those that were read are those of the header.
-/

namespace SolarTelemetry

theorem Header.read_encode_append (h : Header) (rest : Bytes) :
    Header.read (h.encode ++ rest) = some (h, rest) := by
  unfold Header.encode Header.read
  simp only [List.append_assoc, List.cons_append, List.nil_append]
  rw [Reader.bind_of_read (Reader.word8_cons _ _), Reader.bind_of_read (Reader.word8_cons _ _),
    Reader.bind_of_read (Reader.word16_ofWord16 _ _),
    Reader.bind_of_read (Reader.word32_ofWord32 _ _),
    Reader.bind_of_read (Reader.word16_ofWord16 _ _),
    Reader.bind_of_read (Reader.word16_ofWord16 _ _),
    Reader.bind_of_read (Reader.word32_ofWord32 _ _),
    Reader.bind_of_read (Reader.word16_ofWord16 _ _),
    Reader.bind_of_read (Reader.word16_ofWord16 _ _),
    Reader.bind_of_read (Reader.word16_ofWord16 _ _),
    Reader.bind_of_read (Reader.word16_ofWord16 _ _)]
  rfl

theorem Header.length_encode (h : Header) : h.encode.length = Header.length := by
  simp [Header.encode, Header.length]

/-- A header is read just from octets that begin with it. -/
theorem Header.read_eq_some_iff {h : Header} {octets rest : Bytes} :
    Header.read octets = some (h, rest) ↔ octets = h.encode ++ rest := by
  constructor
  · intro read
    unfold Header.read at read
    simp only [Reader.bind_eq_some_iff, Reader.word8_eq_some_iff, Reader.word16_eq_some_iff,
      Reader.word32_eq_some_iff, Reader.pure_eq_some_iff] at read
    obtain ⟨words, _, rfl, control, _, rfl, susyId, _, rfl, serial, _, rfl, word, _, rfl,
      ownSusyId, _, rfl, ownSerial, _, rfl, ownWord, _, rfl, status, _, rfl, fragment, _, rfl,
      packetId, _, rfl, rfl, rfl⟩ := read
    simp [Header.encode]
  · rintro rfl
    exact read_encode_append h rest

theorem Header.suffice_read : Reader.Suffice Header.length Header.read :=
  Reader.suffice_word8.bind fun _ => Reader.suffice_word8.bind fun _ =>
    Reader.suffice_word16.bind fun _ => Reader.suffice_word32.bind fun _ =>
      Reader.suffice_word16.bind fun _ => Reader.suffice_word16.bind fun _ =>
        Reader.suffice_word32.bind fun _ => Reader.suffice_word16.bind fun _ =>
          Reader.suffice_word16.bind fun _ => Reader.suffice_word16.bind fun _ =>
            Reader.suffice_word16.bind fun _ => Reader.suffice_pure _

theorem Header.read_eq_none_iff {octets : Bytes} :
    Header.read octets = none ↔ octets.length < Header.length := by
  constructor
  · intro unread
    apply Nat.lt_of_not_le
    intro enough
    obtain ⟨h, read⟩ := Header.suffice_read octets enough
    rw [unread] at read
    cases read
  · intro short
    apply Option.eq_none_iff_forall_ne_some.mpr
    rintro ⟨h, rest⟩ read
    have size := congrArg List.length (Header.read_eq_some_iff.mp read)
    rw [List.length_append, h.length_encode] at size
    omega

/-- A request opens with its header. -/
theorem Request.read_encode (r : Request) (ownSerial : UInt32) (packetId : UInt16) :
    Header.read (r.encode ownSerial packetId) =
      some (r.header ownSerial packetId, r.body ++ List.replicate r.padding 0) := by
  unfold Request.encode
  rw [List.append_assoc, Header.read_encode_append]

end SolarTelemetry
