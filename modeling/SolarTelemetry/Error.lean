import SolarTelemetry.Archive.Kind
import SolarTelemetry.Bytes
import SolarTelemetry.Link.Phase

/-!
# Errors

What can go wrong, layer by layer, and the wording of each. Only a timeout and a damaged frame are
transient: on a noisy radio line both are expected, and asking again may help.
-/

namespace SolarTelemetry

inductive FrameError where
  | tooLarge (limit : Nat)
  | checksumMismatch
  | truncated
  | unexpectedHeader
  deriving DecidableEq, Repr

inductive ProtocolError where
  | addressLength (length : Nat)
  | notAnAddress (text : String)
  | shortPayload (length : Nat)
  | noWord (length offset : Nat)
  | unexpectedObject (expected got : UInt16)
  | unknownDevice (serial : UInt32)
  | wrongSender (serial sender : UInt32)
  | rejected (serial : UInt32) (object status : UInt16)
  | notAnEventArchive (kind : Archive.Kind)
  | reported (text : String)
  deriving DecidableEq, Repr

inductive LinkError where
  | packetTooLong (length : Nat)
  | badSync (octet : UInt8)
  | headerChecksum (header : Bytes)
  | badLength (length : Nat)
  | connecting (phase : Link.Phase)
  | notConnected
  /-- The link has failed, for the reason that was recorded then. -/
  | failed (reason : String)
  deriving DecidableEq, Repr

inductive LogonError where
  | noDevices
  | passwordTooLong (limit : Nat)
  | rejectedByAll
  | reported (text : String)
  deriving DecidableEq, Repr

inductive Error where
  | transport (text : String)
  | timeout (awaited : String)
  | frame (e : FrameError)
  | protocol (e : ProtocolError)
  | link (e : LinkError)
  | handshakeTimeout
  | discoveryFailed (cause : Error)
  | authenticationFailed (e : LogonError)
  deriving DecidableEq, Repr

def FrameError.message : FrameError → String
  | .tooLarge limit => s!"frame exceeds {limit} bytes without a closing sync byte"
  | .checksumMismatch => "frame check sequence mismatch"
  | .truncated => "frame truncated"
  | .unexpectedHeader => "unexpected frame header"

def ProtocolError.message : ProtocolError → String
  | .addressLength length => s!"bad address length {length}"
  | .notAnAddress text => s!"{text} is not a bluetooth address"
  | .shortPayload length => s!"application payload of {length} bytes is too short"
  | .noWord length offset => s!"reply body of {length} bytes has no word at {offset}"
  | .unexpectedObject expected got =>
    s!"expected object 0x{Text.hex 4 expected.toNat}, got 0x{Text.hex 4 got.toNat}"
  | .unknownDevice serial => s!"unknown device {serial}"
  | .wrongSender serial sender => s!"reply for {serial} came from {sender}"
  | .rejected serial object status =>
    s!"{serial} rejected object 0x{Text.hex 4 object.toNat} (status 0x{Text.hex 4 status.toNat})"
  | .notAnEventArchive kind => s!"{kind.name} is not an event archive"
  | .reported text => text

def LinkError.message : LinkError → String
  | .packetTooLong length => s!"packet of {length} bytes is too long"
  | .badSync octet => s!"bad sync byte 0x{Text.hex 2 octet.toNat}"
  | .headerChecksum header => s!"header checksum mismatch ({header.dump})"
  | .badLength length => s!"bad packet length {length}"
  | .connecting phase => s!"connect in state {phase.name}"
  | .notConnected => "not connected"
  | .failed reason => reason

def LogonError.message : LogonError → String
  | .noDevices => "no devices discovered"
  | .passwordTooLong limit => s!"password longer than {limit} bytes"
  | .rejectedByAll => "password rejected by every device"
  | .reported text => text

namespace Error

def message : Error → String
  | .transport text => s!"transport error: {text}"
  | .timeout awaited => s!"timed out waiting for {awaited}"
  | .frame e => s!"framing error: {e.message}"
  | .protocol e => s!"protocol error: {e.message}"
  | .link e => s!"link error: {e.message}"
  | .handshakeTimeout => "handshake did not complete in time"
  | .discoveryFailed cause => s!"device discovery failed: {cause.message}"
  | .authenticationFailed e => s!"authentication failed: {e.message}"

def isTransient : Error → Bool
  | .timeout _ | .frame _ => true
  | _ => false

end Error

end SolarTelemetry
