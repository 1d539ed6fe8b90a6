import SolarTelemetry.Json
import SolarTelemetry.Record

/-!
# Statistics

What an inverter has counted since it was commissioned: watt hours and seconds.
-/

namespace SolarTelemetry

open Record

structure Statistics where
  totalYield : Option Nat := none
  dayYield : Option Nat := none
  operationTime : Option Nat := none
  feedInTime : Option Nat := none
  deriving DecidableEq, Repr

namespace Statistics

def totalYieldIndex : UInt16 := 0x2601
def dayYieldIndex : UInt16 := 0x2622
def operationTimeIndex : UInt16 := 0x462E
def feedInTimeIndex : UInt16 := 0x462F

def note (r : Statistics) (c : Counter) : Statistics :=
  let index := c.header.index
  let value := c.reading
  if index = totalYieldIndex then { r with totalYield := value }
  else if index = dayYieldIndex then { r with dayYield := value }
  else if index = operationTimeIndex then { r with operationTime := value }
  else if index = feedInTimeIndex then { r with feedInTime := value }
  else r

def ofRecords (records : List Record) : Statistics :=
  (records.filterMap counterRecord?).foldl note {}

def toJson (r : Statistics) : Json :=
  .record [
    ("total_yield", .ofOption .nat r.totalYield),
    ("day_yield", .ofOption .nat r.dayYield),
    ("operation_time", .ofOption .nat r.operationTime),
    ("feed_in_time", .ofOption .nat r.feedInTime)]

end Statistics

end SolarTelemetry
