import SolarTelemetry.Error
import SolarTelemetry.Frame.Checksum
import SolarTelemetry.Frame.Stuffing

/-!
# Frames on a byte stream

A frame is a fixed header, a payload and the check sequence of both, stuffed and set between two
sync bytes. Neighbouring frames may share one. Decoding looks at a buffer: it drops what stands
outside sync bytes, hands out the next frame or its fault, and leaves the closing sync byte in
place. Every result that is not "more is needed" leaves the buffer shorter.
-/

namespace SolarTelemetry

namespace Frame

def addressOctet : UInt8 := 0xFF

def controlOctet : UInt8 := 0x03

def maxLength : Nat := 527

def maxPayload : Nat := 521

/-- A sync byte and a frame of the greatest length with every octet escaped. -/
def maxStuffed : Nat := 2 * maxLength + 1

end Frame

open SolarTelemetry.Frame

structure FrameFormat where
  protocolId : UInt16 := 0x6560
  deriving DecidableEq, Repr

namespace FrameFormat

variable (format : FrameFormat)

def header : Bytes := [addressOctet, controlOctet] ++ Bytes.ofWord16 format.protocolId

/-- The frame of a payload before stuffing. -/
def assemble (payload : Bytes) : Bytes :=
  let body := format.header ++ payload
  body ++ Bytes.ofWord16 (checksum body)

def encode (payload : Bytes) : Except FrameError Bytes :=
  if maxPayload < payload.length then .error (.tooLarge maxLength)
  else .ok (sync :: stuff (format.assemble payload) ++ [sync])

/-- The payload of a frame that is of a fair length, intact and of this protocol. -/
def verify (raw : Bytes) : Except FrameError Bytes :=
  if raw.length < 6 then .error .truncated
  else if maxLength < raw.length then .error (.tooLarge maxLength)
  else if register raw ≠ residue then .error .checksumMismatch
  else if raw.take 4 ≠ format.header then .error .unexpectedHeader
  else .ok ((raw.drop 4).take (raw.length - 6))

/-- What stands between two sync bytes, as a payload or the fault found first. -/
def unwrap (stuffed : Bytes) : Except FrameError Bytes :=
  match unstuff? stuffed with
  | none => .error .truncated
  | some raw => format.verify raw

def isSync (b : UInt8) : Bool := b == sync

theorem length_of_dropWhile_eq_cons {p : UInt8 → Bool} {bs rest : Bytes} {b : UInt8}
    (h : bs.dropWhile p = b :: rest) : rest.length + 1 ≤ bs.length := by
  simpa [h] using (List.dropWhile_suffix (l := bs) p).length_le

/-- The next frame or fault in a buffer, if there is one yet, and what remains of the buffer. -/
def decode (buffer : Bytes) : Option (Except FrameError Bytes) × Bytes :=
  match _outer : buffer.dropWhile (!isSync ·) with
  | [] => (none, [])
  | opening :: rest =>
    match _inner : rest.dropWhile (!isSync ·) with
    | [] =>
      if maxStuffed < rest.length + 1 then (some (.error (.tooLarge maxLength)), [])
      else (none, opening :: rest)
    | closing :: more =>
      let stuffed := rest.takeWhile (!isSync ·)
      if stuffed.isEmpty then decode (closing :: more)
      else (some (format.unwrap stuffed), closing :: more)
termination_by buffer.length
decreasing_by
  have := length_of_dropWhile_eq_cons _outer
  have := length_of_dropWhile_eq_cons _inner
  simp only [List.length_cons]
  omega

theorem length_decode_le (buffer : Bytes) : (format.decode buffer).2.length ≤ buffer.length := by
  fun_induction decode format buffer with
  | case1 => simp
  | case2 => simp
  | case3 buffer opening rest outer => exact length_of_dropWhile_eq_cons outer
  | case4 buffer opening rest outer closing more inner stuffed empty ih =>
    have := length_of_dropWhile_eq_cons outer
    have := length_of_dropWhile_eq_cons inner
    simp only [List.length_cons] at ih
    omega
  | case5 buffer opening rest outer closing more inner stuffed full =>
    have := length_of_dropWhile_eq_cons outer
    have := length_of_dropWhile_eq_cons inner
    simp only [List.length_cons]
    omega

theorem length_decode_lt {buffer : Bytes} (h : (format.decode buffer).1.isSome) :
    (format.decode buffer).2.length < buffer.length := by
  fun_induction decode format buffer with
  | case1 => simp at h
  | case2 buffer opening rest outer inner large =>
    have := length_of_dropWhile_eq_cons outer
    simp only [List.length_nil]
    omega
  | case3 => simp at h
  | case4 buffer opening rest outer closing more inner stuffed empty ih =>
    have := length_of_dropWhile_eq_cons outer
    have := length_of_dropWhile_eq_cons inner
    have := ih h
    simp only [List.length_cons] at this
    omega
  | case5 buffer opening rest outer closing more inner stuffed full =>
    have := length_of_dropWhile_eq_cons outer
    have := length_of_dropWhile_eq_cons inner
    simp only [List.length_cons]
    omega

/-- Every frame and fault that a buffer holds, in order, and what remains. -/
def drain (buffer : Bytes) : List (Except FrameError Bytes) × Bytes :=
  match _h : format.decode buffer with
  | (none, rest) => ([], rest)
  | (some result, rest) =>
    let (results, rest) := drain rest
    (result :: results, rest)
termination_by buffer.length
decreasing_by
  have shorter : (format.decode buffer).2.length < buffer.length :=
    format.length_decode_lt (by simp [_h])
  simpa [_h] using shorter

end FrameFormat

end SolarTelemetry
