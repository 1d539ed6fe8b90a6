import SolarTelemetry.Error
import SolarTelemetry.Message.Request

/-!
# Replies

A reply is a header and whatever follows it. Its body opens with the command it answers, whose upper
half names the object, and holds records from `preambleLength` on.
-/

namespace SolarTelemetry

structure Reply where
  header : Header
  body : Bytes
  deriving DecidableEq, Repr, Inhabited

namespace Reply

def preambleLength : Nat := 12

def decode (payload : Bytes) : Except ProtocolError Reply :=
  match Header.read payload with
  | some (header, body) => .ok ⟨header, body⟩
  | none => .error (.shortPayload payload.length)

/-- The packet number without its flag. -/
def packetId (r : Reply) : UInt16 := r.header.packetId &&& ~~~Request.packetFlag

def source (r : Reply) : Target := r.header.source

def hasMore (r : Reply) : Bool := r.header.fragment != 0

def word (r : Reply) (offset : Nat) : Except ProtocolError UInt32 :=
  match r.body.word32At? offset with
  | some w => .ok w
  | none => .error (.noWord r.body.length offset)

def command (r : Reply) : Except ProtocolError UInt32 := r.word 0

def object (r : Reply) : Except ProtocolError UInt16 :=
  r.command.map fun (w : UInt32) => (w >>> 16).toUInt16

def requireObject (r : Reply) (object : UInt16) : Except ProtocolError Unit :=
  match r.object with
  | .error e => .error e
  | .ok got => if got = object then .ok () else .error (.unexpectedObject object got)

/-- An answer counts if the device that was asked sent it, reports no fault and keeps to the
object. -/
def requireAnswer (r : Reply) (serial : UInt32) (object : UInt16) : Except ProtocolError Unit :=
  if r.source.serial ≠ serial then .error (.wrongSender serial r.source.serial)
  else if r.header.status ≠ 0 then .error (.rejected serial object r.header.status)
  else r.requireObject object

def records (r : Reply) : Bytes := r.body.drop preambleLength

end Reply

end SolarTelemetry
