import SolarTelemetry.Session.Basic

/-!
# Discovery

A broadcast asks who is there. Each device is taken from its first reply, in the order of arrival,
until as many as expected have answered; only then does the session know them.
-/

namespace SolarTelemetry.Session

variable {σ : Type} [Channel σ]

def discoveryObject : UInt16 := 0x0000

def collectDevices (expected : Nat) (packetId : UInt16) (found : List Device) (s : Session σ) :
    Outcome (Session σ) (List Device) :=
  if expected ≤ found.length then .ok found s
  else
    match _received : receive packetId s with
    | .error e s => .error e s
    | .ok (address, reply) s =>
      let source := reply.source
      if found.any (·.serial == source.serial) then collectDevices expected packetId found s
      else
        collectDevices expected packetId
          (found ++ [{ serial := source.serial, susyId := source.susyId, address }]) s
termination_by s.pending
decreasing_by all_goals exact (spends_receive packetId).lt _received

def discoverOnce (expected : Nat) (packetId : UInt16) : Action (Session σ) (List Device) := do
  send (.query .any discoveryObject 0 0) .broadcast packetId
  collectDevices expected packetId []

def discover (expected : Nat) : Action (Session σ) (List Device) := do
  let devices ← (withRetries (exchange (discoverOnce expected))).mapError .discoveryFailed
  modify fun s => { s with devices }
  return devices

end SolarTelemetry.Session
