import SolarTelemetry.Json
import SolarTelemetry.Record

/-!
# Device information

Name, class and type of an inverter, and the version of its firmware.
-/

namespace SolarTelemetry

open Record

structure Firmware where
  major : UInt8
  minor : UInt8
  build : UInt8
  release : UInt8
  deriving DecidableEq, Repr

namespace Firmware

/-- The packed octets stand the other way round. -/
def ofOctets? : Bytes → Option Firmware
  | release :: build :: minor :: major :: _ => some ⟨major, minor, build, release⟩
  | _ => none

def nibbles (b : UInt8) : String := s!"{b.toNat / 16}{b.toNat % 16}"

def releaseText (release : UInt8) : String :=
  match "NEABRS".toList[release.toNat]? with
  | some letter => String.singleton letter
  | none => toString release.toNat

/-- The halves of the major and minor numbers are written one after the other, each in decimal. -/
def text (v : Firmware) : String :=
  s!"{nibbles v.major}.{nibbles v.minor}.{Text.decimal 2 v.build.toNat}.{releaseText v.release}"

end Firmware

structure DeviceInfo where
  name : Option String := none
  deviceClass : Option Nat := none
  deviceType : Option Nat := none
  firmware : Option Firmware := none
  deriving DecidableEq, Repr

namespace DeviceInfo

def nameIndex : UInt16 := 0x821E
def classIndex : UInt16 := 0x821F
def typeIndex : UInt16 := 0x8220
def firmwareIndex : UInt16 := 0x8234

/-- Where the packed version stands in its block. -/
def firmwareOffset : Nat := 16

def note (r : DeviceInfo) (b : Block) : DeviceInfo :=
  let index := b.header.index
  if index = nameIndex then { r with name := b.text }
  else if index = classIndex then { r with deviceClass := b.selected }
  else if index = typeIndex then { r with deviceType := b.selected }
  else if index = firmwareIndex then
    { r with firmware := Firmware.ofOctets? (b.data.drop firmwareOffset) }
  else r

def ofRecords (records : List Record) : DeviceInfo := (records.filterMap block?).foldl note {}

def toJson (r : DeviceInfo) : Json :=
  .record [
    ("name", .ofOption .text r.name),
    ("device_class", .ofOption .nat r.deviceClass),
    ("device_type", .ofOption .nat r.deviceType),
    ("firmware", .ofOption (fun v => .text v.text) r.firmware)]

end DeviceInfo

end SolarTelemetry
