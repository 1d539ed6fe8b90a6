import SolarTelemetry.Json
import SolarTelemetry.Record

/-!
# Power readings

The alternating-current side of an inverter, phase by phase, and the direct-current side, tracker by
tracker. Every record writes the one field that its index names, so the last record for a field
counts, and one without a value leaves the field empty rather than zero.
-/

namespace SolarTelemetry

open Record

structure AcReadings where
  totalPower : Option Int := none
  phasePower : Vector (Option Int) 3 := .replicate 3 none
  phaseVoltage : Vector (Option Decimal) 3 := .replicate 3 none
  phaseCurrent : Vector (Option Decimal) 3 := .replicate 3 none
  frequency : Option Decimal := none
  deriving DecidableEq, Repr

namespace AcReadings

def totalPowerIndex : UInt16 := 0x263F
def frequencyIndex : UInt16 := 0x4657
def phasePowerIndices : Vector UInt16 3 := #v[0x4640, 0x4641, 0x4642]
def phaseVoltageIndices : Vector UInt16 3 := #v[0x4648, 0x4649, 0x464A]
def phaseCurrentIndices : Vector UInt16 3 := #v[0x4653, 0x4654, 0x4655]

def note (r : AcReadings) (s : Spot) : AcReadings :=
  let index := s.header.index
  let value := s.reading
  if index = totalPowerIndex then { r with totalPower := value }
  else if index = frequencyIndex then { r with frequency := value.map .hundredths }
  else if let some phase := phasePowerIndices.finIdxOf? index then
    { r with phasePower := r.phasePower.set phase value }
  else if let some phase := phaseVoltageIndices.finIdxOf? index then
    { r with phaseVoltage := r.phaseVoltage.set phase (value.map .hundredths) }
  else if let some phase := phaseCurrentIndices.finIdxOf? index then
    { r with phaseCurrent := r.phaseCurrent.set phase (value.map .thousandths) }
  else r

def ofRecords (records : List Record) : AcReadings := (records.filterMap spot?).foldl note {}

def toJson (r : AcReadings) : Json :=
  .record [
    ("total_power", .ofOption .integer r.totalPower),
    ("phase_power", .list (r.phasePower.toList.map (.ofOption .integer))),
    ("phase_voltage", .list (r.phaseVoltage.toList.map (.ofOption .decimal))),
    ("phase_current", .list (r.phaseCurrent.toList.map (.ofOption .decimal))),
    ("frequency", .ofOption .decimal r.frequency)]

end AcReadings

structure Tracker where
  power : Option Int := none
  voltage : Option Decimal := none
  current : Option Decimal := none
  deriving DecidableEq, Repr

namespace Tracker

def powerIndex : UInt16 := 0x251E
def voltageIndex : UInt16 := 0x451F
def currentIndex : UInt16 := 0x4521

def note (t : Tracker) (s : Spot) : Tracker :=
  let index := s.header.index
  let value := s.reading
  if index = powerIndex then { t with power := value }
  else if index = voltageIndex then { t with voltage := value.map .hundredths }
  else if index = currentIndex then { t with current := value.map .thousandths }
  else t

def toJson (t : Tracker) : Json :=
  .record [
    ("power", .ofOption .integer t.power),
    ("voltage", .ofOption .decimal t.voltage),
    ("current", .ofOption .decimal t.current)]

end Tracker

structure DcReadings where
  first : Tracker := {}
  second : Tracker := {}
  deriving DecidableEq, Repr

namespace DcReadings

def note (r : DcReadings) (s : Spot) : DcReadings :=
  if s.header.source = 1 then { r with first := r.first.note s }
  else if s.header.source = 2 then { r with second := r.second.note s }
  else r

def ofRecords (records : List Record) : DcReadings := (records.filterMap spot?).foldl note {}

def trackers (r : DcReadings) : List Tracker := [r.first, r.second]

/-- The sum over the trackers that reported power, if any did. -/
def totalPower (r : DcReadings) : Option Int :=
  match r.trackers.filterMap (·.power) with
  | [] => none
  | powers => some powers.sum

def toJson (r : DcReadings) : Json := .record [("trackers", .list (r.trackers.map Tracker.toJson))]

end DcReadings

end SolarTelemetry
