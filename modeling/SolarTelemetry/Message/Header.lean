import SolarTelemetry.Bytes

/-!
# Message headers

Twenty-four octets open every request and every reply: the length in four-octet words, the kind of
message, both ends, the state of the exchange, and the packet number that ties a reply to its
request.
-/

namespace SolarTelemetry

/-- The device a message is for or from. -/
structure Target where
  susyId : UInt16
  serial : UInt32
  deriving DecidableEq, Repr, Inhabited

/-- Every device on the link. -/
def Target.any : Target := ⟨0xFFFF, 0xFFFFFFFF⟩

inductive Control where
  | request
  | unsolicited
  deriving DecidableEq, Repr

namespace Control

def code : Control → UInt8
  | .request => 0xA0
  | .unsolicited => 0xE0

def ofCode? (code : UInt8) : Option Control := [request, unsolicited].find? (·.code == code)

end Control

inductive ControlWord where
  | query
  | logon
  | logoff
  deriving DecidableEq, Repr

namespace ControlWord

def code : ControlWord → UInt16
  | .query => 0x0000
  | .logon => 0x0100
  | .logoff => 0x0300

def ofCode? (code : UInt16) : Option ControlWord := [query, logon, logoff].find? (·.code == code)

end ControlWord

structure Header where
  words : UInt8
  control : UInt8
  destination : Target
  destinationControl : UInt16
  source : Target
  sourceControl : UInt16
  status : UInt16
  fragment : UInt16
  packetId : UInt16
  deriving DecidableEq, Repr, Inhabited

namespace Header

def length : Nat := 24

def encode (h : Header) : Bytes :=
  [h.words, h.control] ++ Bytes.ofWord16 h.destination.susyId ++
    Bytes.ofWord32 h.destination.serial ++ Bytes.ofWord16 h.destinationControl ++
    Bytes.ofWord16 h.source.susyId ++ Bytes.ofWord32 h.source.serial ++
    Bytes.ofWord16 h.sourceControl ++ Bytes.ofWord16 h.status ++ Bytes.ofWord16 h.fragment ++
    Bytes.ofWord16 h.packetId

def read : Reader Header := do
  let words ← .word8
  let control ← .word8
  let destinationId ← .word16
  let destinationSerial ← .word32
  let destinationControl ← .word16
  let sourceId ← .word16
  let sourceSerial ← .word32
  let sourceControl ← .word16
  let status ← .word16
  let fragment ← .word16
  let packetId ← .word16
  return ⟨words, control, ⟨destinationId, destinationSerial⟩, destinationControl,
    ⟨sourceId, sourceSerial⟩, sourceControl, status, fragment, packetId⟩

end Header

end SolarTelemetry
