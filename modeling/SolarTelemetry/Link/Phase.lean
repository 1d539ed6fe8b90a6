/-!
# Phases of a link

A link goes through the handshake phases in the order given here, carries data in the last two, and
may fail at any time once a connection has begun.
-/

namespace SolarTelemetry

inductive Link.Phase where
  | notConnected
  | awaitingIdAck
  | awaitingOwnAddress
  | awaitingDeviceCount
  | deviceListKnown
  | connected
  | failed
  deriving DecidableEq, Repr, Inhabited

namespace Link.Phase

def takesData : Phase → Bool
  | .deviceListKnown | .connected => true
  | _ => false

/-- The reader runs from the start of a connection until the link is closed or fails. -/
def isReading : Phase → Bool
  | .notConnected | .failed => false
  | _ => true

def name : Phase → String
  | .notConnected => "NotConnected"
  | .awaitingIdAck => "AwaitingIdAck"
  | .awaitingOwnAddress => "AwaitingOwnAddress"
  | .awaitingDeviceCount => "AwaitingDeviceCount"
  | .deviceListKnown => "DeviceListKnown"
  | .connected => "Connected"
  | .failed => "Failed"

end Link.Phase

end SolarTelemetry
