/-!
# Endpoints

Where an inverter is reached. An address that begins with a slash is the path of a device; any other
is the host and port of a bridge.
-/

namespace SolarTelemetry

inductive Endpoint where
  | device (path : String)
  | bridge (address : String)
  deriving DecidableEq, Repr

namespace Endpoint

def ofAddress (address : String) : Endpoint :=
  match address.toList with
  | '/' :: _ => .device address
  | _ => .bridge address

def text : Endpoint → String
  | .device path => s!"device {path}"
  | .bridge address => s!"bridge {address}"

end Endpoint

end SolarTelemetry
