import SolarTelemetry.Session.Logon

/-!
# Clocks

The clock of a device is read, and the reading acknowledged. If it is more than ten seconds off, all
devices are told the time, in the zone that the device has named.
-/

namespace SolarTelemetry.Session

variable {σ : Type} [Channel σ]

def clockCommand : UInt32 := 0xF000020A

def clockObject : UInt16 := 0xF000

def clockIndex : UInt32 := 0x00236D00

/-- In seconds. -/
def clockTolerance : Nat := 10

def clockRequest (target : Target) (time zone : UInt32) : Request :=
  ({ target } : Request).words
    [clockCommand, clockIndex, clockIndex, clockIndex, time, time, time, zone, 0, 1]

structure ClockReading where
  time : UInt32
  zone : UInt32
  deriving DecidableEq, Repr

/-- What a reply says about the clock of its sender. -/
def ClockReading.ofReply (reply : Reply) : Except ProtocolError ClockReading := do
  reply.requireObject clockObject
  let time ← reply.word 40
  let _ ← reply.word 44
  let zone ← reply.word 52
  return ⟨time, zone⟩

def isOff (device now : UInt32) : Bool :=
  clockTolerance < (device.toNat - now.toNat : Int).natAbs

def syncClockOnce (packetId : UInt16) : Action (Session σ) Unit := do
  let question := ({ target := .any } : Request).words [clockCommand, clockIndex, clockIndex]
  send question .broadcast packetId
  let (address, reply) ← receive packetId
  let reading ← ofProtocol (ClockReading.ofReply reply)
  let acknowledgement := clockRequest reply.source reading.time reading.zone
  send { acknowledgement with control := .unsolicited } address packetId
  let now := Calendar.unixSeconds (← get).wallClock
  if isOff reading.time now then
    send { clockRequest .any now reading.zone with controlWord := .logon } .broadcast packetId

def syncClock : Action (Session σ) Unit := withRetries (exchange syncClockOnce)

end SolarTelemetry.Session
