import SolarTelemetry.Archive.Kind
import SolarTelemetry.Json
import SolarTelemetry.Record

/-!
# Archives

A page of an archive is a run of entries of one length. An entry stamped with time zero, or a yield
without a value, is empty and left out; octets that make up no whole entry are not looked at. Daily
yields are the differences of neighbouring samples no more than two days apart.
-/

namespace SolarTelemetry.Archive

structure YieldSample where
  time : UInt32
  /-- Watt hours since commissioning. -/
  total : Int
  deriving DecidableEq, Repr

structure Event where
  time : UInt32
  entryId : UInt16
  susyId : UInt16
  serial : UInt32
  eventCode : UInt16
  flags : UInt16
  group : UInt32
  tag : UInt32
  counter : UInt32
  changeTime : UInt32
  parameter : UInt32
  newValue : UInt32
  oldValue : UInt32
  deriving DecidableEq, Repr

inductive Entry where
  | sample (s : YieldSample)
  | event (e : Event)
  deriving DecidableEq, Repr

namespace YieldSample

/-- A sample without a value, or with one that no signed word holds, is none. -/
def read : Reader (Option YieldSample) := do
  let time ← .word32
  let raw ← .word64
  return (Record.counter? raw).bind fun total =>
    if total < 2 ^ 63 then some ⟨time, total⟩ else none

def toJson (s : YieldSample) : Json :=
  .record [("time", .nat s.time.toNat), ("cumulative_yield", .integer s.total)]

end YieldSample

namespace Event

/-- One word of an event is not used. -/
def read : Reader Event := do
  let time ← .word32
  let entryId ← .word16
  let susyId ← .word16
  let serial ← .word32
  let eventCode ← .word16
  let flags ← .word16
  let group ← .word32
  let _ ← Reader.octets 4
  let tag ← .word32
  let counter ← .word32
  let changeTime ← .word32
  let parameter ← .word32
  let newValue ← .word32
  let oldValue ← .word32
  return { time, entryId, susyId, serial, eventCode, flags, group, tag, counter, changeTime,
           parameter, newValue, oldValue }

def toJson (e : Event) : Json :=
  .record [
    ("time", .nat e.time.toNat), ("entry_id", .nat e.entryId.toNat),
    ("susy_id", .nat e.susyId.toNat), ("serial", .nat e.serial.toNat),
    ("event_code", .nat e.eventCode.toNat), ("flags", .nat e.flags.toNat),
    ("group", .nat e.group.toNat), ("tag", .nat e.tag.toNat),
    ("counter", .nat e.counter.toNat), ("change_time", .nat e.changeTime.toNat),
    ("parameter", .nat e.parameter.toNat), ("new_value", .nat e.newValue.toNat),
    ("old_value", .nat e.oldValue.toNat)]

end Event

namespace Entry

def time : Entry → UInt32
  | .sample s => s.time
  | .event e => e.time

def sample? : Entry → Option YieldSample
  | .sample s => some s
  | .event _ => none

def event? : Entry → Option Event
  | .sample _ => none
  | .event e => some e

def toJson : Entry → Json
  | .sample s => s.toJson
  | .event e => e.toJson

end Entry

/-- The entry that a stretch of the right length holds, unless it is empty. -/
def entryOf? (kind : Kind) (raw : Bytes) : Option Entry :=
  let entry :=
    if kind.holdsEvents then (Event.read raw).map fun (e, _) => .event e
    else (YieldSample.read raw).bind fun (s, _) => s.map .sample
  entry.filter (·.time != 0)

theorem entryLength_pos (kind : Kind) : 0 < kind.entryLength := by cases kind <;> decide

def entriesOf (kind : Kind) (data : Bytes) : List Entry :=
  if data.length < kind.entryLength then []
  else
    (entryOf? kind (data.take kind.entryLength)).toList ++
      entriesOf kind (data.drop kind.entryLength)
termination_by data.length
decreasing_by
  have := entryLength_pos kind
  simp only [List.length_drop]
  omega

/-- The entries stamped between two times, both included. -/
def within (first last : UInt32) (entries : List Entry) : List Entry :=
  entries.filter fun e => first ≤ e.time && e.time ≤ last

structure DailyYield where
  /-- The time of the later sample. -/
  time : UInt32
  /-- Watt hours. -/
  energy : Int
  deriving DecidableEq, Repr

def DailyYield.toJson (d : DailyYield) : Json :=
  .record [("time", .nat d.time.toNat), ("energy", .integer d.energy)]

def maxGap : Nat := 48 * 3600

/-- The yield between two samples; the difference wraps in a signed word. -/
def yieldBetween? (earlier later : YieldSample) : Option DailyYield :=
  if earlier.time < later.time ∧ later.time.toNat - earlier.time.toNat ≤ maxGap then
    some ⟨later.time, (later.total - earlier.total).bmod (2 ^ 64)⟩
  else none

def dailyYields : List YieldSample → List DailyYield
  | earlier :: later :: rest => (yieldBetween? earlier later).toList ++ dailyYields (later :: rest)
  | _ => []

end SolarTelemetry.Archive
