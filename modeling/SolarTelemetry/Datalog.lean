import SolarTelemetry.Json

/-!
# Data logs

A log is a text with one JSON object on each line: what was read, of what kind, from which device
and when. Lines are only ever added.
-/

namespace SolarTelemetry

structure Datalog where
  contents : String
  /-- The lines written since the log was opened. -/
  lines : Nat := 0
  deriving DecidableEq, Repr

namespace Datalog

def entry (wallClock : Int) (serial : UInt32) (kind : String) (data : Json) : Json :=
  .record [("utc_timestamp", .integer wallClock), ("serial", .nat serial.toNat),
    ("kind", .text kind), ("data", data)]

def line (wallClock : Int) (serial : UInt32) (kind : String) (data : Json) : String :=
  (entry wallClock serial kind data).toText ++ "\n"

def write (log : Datalog) (wallClock : Int) (serial : UInt32) (kind : String) (data : Json) :
    Datalog :=
  ⟨log.contents ++ line wallClock serial kind data, log.lines + 1⟩

end Datalog

end SolarTelemetry
