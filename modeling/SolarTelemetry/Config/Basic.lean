import SolarTelemetry.Message.Password
import SolarTelemetry.Text.Blank

/-!
# Configuration

Which inverters to poll, how often, and where to log. A configuration is valid if it polls no more
often than once a second and every enabled inverter can be reached, logged on to and waited for.
-/

namespace SolarTelemetry

/-- An inverter and how to talk to it. -/
structure Inverter where
  enabled : Bool := true
  /-- A device path, or a host and a port. -/
  address : String
  password : String := "0000"
  userGroup : UserGroup := .user
  deviceCount : Nat := 1
  /-- The days of daily yields to read, if any. -/
  archiveDays : UInt32 := 0
  /-- In seconds. -/
  readTimeout : Nat := 5
  deriving DecidableEq, Repr

structure Config where
  inverters : List Inverter
  logLevel : String := "info"
  datalogFile : Option String := none
  /-- In seconds. -/
  pollInterval : Nat := 300
  deriving DecidableEq, Repr

/-- In octets. -/
def Inverter.maxPasswordLength : Nat := 12

inductive Inverter.Fault where
  | noAddress
  | badPort
  | badAddress (address : String)
  | longPassword
  | noDevices
  | noReadTimeout
  deriving DecidableEq, Repr

inductive ConfigError where
  | unreadable
  | malformed
  | noPollInterval
  | inverter (index : Nat) (fault : Inverter.Fault)
  deriving DecidableEq, Repr

def Inverter.Fault.message (index : Nat) : Fault → String
  | .noAddress => s!"inverter[{index}].address cannot be empty"
  | .badPort => s!"inverter[{index}].port must be between 1 and 65535"
  | .badAddress address =>
    s!"inverter[{index}].address {address} is neither a device path nor host:port"
  | .longPassword => s!"inverter[{index}].password is longer than {maxPasswordLength} bytes"
  | .noDevices => s!"inverter[{index}].device_count must be at least 1"
  | .noReadTimeout => s!"inverter[{index}]: invalid read timeout: 0"

def ConfigError.message : ConfigError → String
  | .unreadable => "error reading the configuration"
  | .malformed => "malformed configuration"
  | .noPollInterval => "poll_interval must be at least 1 second"
  | .inverter index fault => fault.message index

/-- The parts before and after the last colon. -/
def splitAtLastColon? (cs : List Char) : Option (List Char × List Char) :=
  match cs.reverse.span (· != ':') with
  | (port, _ :: host) => some (host.reverse, port.reverse)
  | (_, []) => none

def isPort (cs : List Char) : Bool := (Text.unsigned? 10 65536 cs).any (0 < ·)

namespace Inverter

/-- A device path begins with a slash; anything else has a host, a colon and a port. -/
def addressFault? (address : String) : Option Fault :=
  match Text.trim address.toList with
  | [] => some .noAddress
  | '/' :: _ => none
  | cs =>
    match splitAtLastColon? cs with
    | some (_ :: _, port) => if isPort port then none else some .badPort
    | _ => some (.badAddress (String.ofList cs))

/-- The first fault, in the order of the checks. -/
def fault? (i : Inverter) : Option Fault :=
  match addressFault? i.address with
  | some fault => some fault
  | none =>
    if maxPasswordLength < i.password.utf8ByteSize then some .longPassword
    else if i.deviceCount = 0 then some .noDevices
    else if i.readTimeout = 0 then some .noReadTimeout
    else none

end Inverter

namespace Config

def enabledInverters (c : Config) : List Inverter := c.inverters.filter (·.enabled)

/-- The first fault of the first enabled inverter that has one. -/
def inverterError? (inverters : List (Inverter × Nat)) : Option ConfigError :=
  inverters.findSome? fun (i, index) =>
    if i.enabled then i.fault?.map (.inverter index) else none

def error? (c : Config) : Option ConfigError :=
  if c.pollInterval = 0 then some .noPollInterval else inverterError? c.inverters.zipIdx

end Config

end SolarTelemetry
