import SolarTelemetry.Message.Header

/-!
# Requests

A request is built up word by word and written as a header, its body, and zeros up to a whole number
of words. The packet number always carries the top bit.
-/

namespace SolarTelemetry

structure Request where
  target : Target
  control : Control := .request
  controlWord : ControlWord := .query
  body : Bytes := []
  deriving DecidableEq, Repr

namespace Request

/-- What this end calls itself. -/
def ownSusyId : UInt16 := 0x007D

def packetFlag : UInt16 := 0x8000

/-- The lower half of the command word of a channel query. -/
def queryMark : UInt32 := 0x0200

def word (r : Request) (w : UInt32) : Request := { r with body := r.body ++ Bytes.ofWord32 w }

def words (r : Request) (ws : List UInt32) : Request := ws.foldl word r

def octets (r : Request) (bs : Bytes) : Request := { r with body := r.body ++ bs }

/-- Asks for an object over a range of indices. -/
def query (target : Target) (object : UInt16) (first last : UInt32) : Request :=
  ({ target } : Request).words [(object.toUInt32 <<< 16) ||| queryMark, first, last]

def padding (r : Request) : Nat := (4 - r.body.length % 4) % 4

def header (r : Request) (ownSerial : UInt32) (packetId : UInt16) : Header where
  words := UInt8.ofNat ((Header.length + r.body.length + r.padding) / 4)
  control := r.control.code
  destination := r.target
  destinationControl := r.controlWord.code
  source := ⟨ownSusyId, ownSerial⟩
  sourceControl := r.controlWord.code
  status := 0
  fragment := 0
  packetId := packetId ||| packetFlag

def encode (r : Request) (ownSerial : UInt32) (packetId : UInt16) : Bytes :=
  (r.header ownSerial packetId).encode ++ r.body ++ List.replicate r.padding 0

end Request

end SolarTelemetry
