import SolarTelemetry.Json
import SolarTelemetry.Record

/-!
# Status

The condition of a device and of its grid relay, each the attribute selected in a block record.
-/

namespace SolarTelemetry

open Record

inductive DeviceStatus where
  | ok
  | fault
  | off
  | warning
  | other (code : Nat)
  deriving DecidableEq, Repr

namespace DeviceStatus

def ofAttribute (code : Nat) : DeviceStatus :=
  if code = 307 then .ok
  else if code = 35 then .fault
  else if code = 303 then .off
  else if code = 455 then .warning
  else .other code

def toJson : DeviceStatus → Json
  | .ok => .text "Ok"
  | .fault => .text "Fault"
  | .off => .text "Off"
  | .warning => .text "Warning"
  | .other code => .record [("Other", .nat code)]

end DeviceStatus

inductive GridRelay where
  | closed
  | opened
  | notAvailable
  | other (code : Nat)
  deriving DecidableEq, Repr

namespace GridRelay

def ofAttribute (code : Nat) : GridRelay :=
  if code = 51 then .closed
  else if code = 311 then .opened
  else if code = 16777213 then .notAvailable
  else .other code

def toJson : GridRelay → Json
  | .closed => .text "Closed"
  | .opened => .text "Open"
  | .notAvailable => .text "NotAvailable"
  | .other code => .record [("Other", .nat code)]

end GridRelay

structure Status where
  deviceStatus : Option DeviceStatus := none
  gridRelay : Option GridRelay := none
  deriving DecidableEq, Repr

namespace Status

def deviceStatusIndex : UInt16 := 0x2148
def gridRelayIndex : UInt16 := 0x4164

def note (r : Status) (b : Block) : Status :=
  let index := b.header.index
  if index = deviceStatusIndex then { r with deviceStatus := b.selected.map .ofAttribute }
  else if index = gridRelayIndex then { r with gridRelay := b.selected.map .ofAttribute }
  else r

def ofRecords (records : List Record) : Status := (records.filterMap block?).foldl note {}

def toJson (r : Status) : Json :=
  .record [
    ("device_status", .ofOption DeviceStatus.toJson r.deviceStatus),
    ("grid_relay", .ofOption GridRelay.toJson r.gridRelay)]

end Status

end SolarTelemetry
