import SolarTelemetry.Message.Reply
import SolarTelemetry.Text.Blank
import SolarTelemetry.Text.Utf8

/-!
# Channel records

The answer to a channel query is a run of records. The object queried and the type octet of a record
decide its layout and with it its length, so a record is known only once the one before it has been
read. What is left at the end and too short for its layout is not a record.
-/

namespace SolarTelemetry

namespace Record

structure Header where
  /-- The tracker or phase that a reading belongs to. -/
  source : UInt8
  index : UInt16
  dataType : UInt8
  timestamp : UInt32
  deriving DecidableEq, Repr, Inhabited

namespace Header

def length : Nat := 8

def read : Reader Header := do
  let source ← .word8
  let index ← .word16
  let dataType ← .word8
  let timestamp ← .word32
  return ⟨source, index, dataType, timestamp⟩

def encode (h : Header) : Bytes :=
  [h.source] ++ Bytes.ofWord16 h.index ++ [h.dataType] ++ Bytes.ofWord32 h.timestamp

end Header

def statusType : UInt8 := 0x08
def textType : UInt8 := 0x10
def signedType : UInt8 := 0x40

def countersObject : UInt16 := 0x5400
def deviceInfoObject : UInt16 := 0x5800

inductive Layout where
  | spot
  | counter
  | block
  deriving DecidableEq, Repr

namespace Layout

def ofType (object : UInt16) (dataType : UInt8) : Layout :=
  if object = countersObject then .counter
  else if object = deviceInfoObject ∨ dataType = statusType ∨ dataType = textType then .block
  else .spot

def length : Layout → Nat
  | .spot => 28
  | .counter => 16
  | .block => 40

theorem length_pos (l : Layout) : 0 < l.length := by cases l <;> decide

def name : Layout → String
  | .spot => "Spot"
  | .counter => "Counter"
  | .block => "Block"

end Layout

/-! ## Values that stand for "none" -/

/-- A signed value with its top bit set is no value. -/
def signed? (raw : UInt32) : Option Int :=
  if raw.toNat < 2 ^ 31 then some raw.toNat else none

def unsigned? (raw : UInt32) : Option Nat :=
  if raw = 0xFFFFFFFF then none else some raw.toNat

def counter? (raw : UInt64) : Option Nat :=
  if raw = 0xFFFFFFFFFFFFFFFF ∨ raw = 0x8000000000000000 then none else some raw.toNat

/-! ## The three layouts -/

/-- A momentary value, given four times over; the first one counts. -/
structure Spot where
  header : Header
  value1 : UInt32
  value2 : UInt32
  value3 : UInt32
  value4 : UInt32
  deriving DecidableEq, Repr

namespace Spot

def read : Reader Spot := do
  let header ← Header.read
  let value1 ← .word32
  let value2 ← .word32
  let value3 ← .word32
  let value4 ← .word32
  let _ ← Reader.octets 4
  return ⟨header, value1, value2, value3, value4⟩

def reading (r : Spot) : Option Int :=
  if r.header.dataType = signedType then signed? r.value1
  else (unsigned? r.value1).map Int.ofNat

end Spot

structure Counter where
  header : Header
  value : UInt64
  deriving DecidableEq, Repr

namespace Counter

def read : Reader Counter := do
  let header ← Header.read
  let value ← .word64
  return ⟨header, value⟩

def reading (r : Counter) : Option Nat := counter? r.value

end Counter

/-- Thirty-two octets that hold attributes, a text or a packed version. -/
structure Block where
  header : Header
  data : Bytes
  deriving DecidableEq, Repr

structure Attribute where
  id : Nat
  selected : Bool
  deriving DecidableEq, Repr

namespace Block

def read : Reader Block := do
  let header ← Header.read
  let data ← Reader.octets 32
  return ⟨header, data⟩

def endMark : Nat := 0xFFFFFE

def attributeWords : Bytes → List Nat
  | b0 :: b1 :: b2 :: b3 :: rest => LittleEndian.decode [b0, b1, b2, b3] :: attributeWords rest
  | _ => []

/-- The attributes before the end mark. The top octet of a word selects it, and an empty word is
skipped. -/
def attributes (r : Block) : List Attribute :=
  (((attributeWords r.data).map fun w => (w % 2 ^ 24, w / 2 ^ 24)).takeWhile
    (·.1 != endMark)).filter (·.1 != 0) |>.map fun (id, flag) => ⟨id, flag == 1⟩

def selected (r : Block) : Option Nat := (r.attributes.find? (·.selected)).map (·.id)

/-- The text up to the first zero octet, without blanks around it. -/
def text (r : Block) : Option String :=
  let cs := Text.trim (Text.Utf8.decodeLossy (r.data.takeWhile (· != 0)))
  if cs.isEmpty then none else some (String.ofList cs)

end Block

end Record

inductive Record where
  | spot (r : Record.Spot)
  | counter (r : Record.Counter)
  | block (r : Record.Block)
  deriving DecidableEq, Repr

namespace Record

def header : Record → Header
  | .spot r => r.header
  | .counter r => r.header
  | .block r => r.header

def spot? : Record → Option Spot
  | .spot r => some r
  | _ => none

def counterRecord? : Record → Option Counter
  | .counter r => some r
  | _ => none

def block? : Record → Option Block
  | .block r => some r
  | _ => none

def Layout.read : Layout → Reader Record
  | .spot => Record.spot <$> Spot.read
  | .counter => Record.counter <$> Counter.read
  | .block => Record.block <$> Block.read

/-- The layout of the record that a byte string opens with, if its header is all there. -/
def layout? (object : UInt16) (data : Bytes) : Option Layout :=
  if data.length < Header.length then none else (data[3]?).map (Layout.ofType object)

def decode (object : UInt16) (data : Bytes) : List Record :=
  match layout? object data with
  | none => []
  | some layout =>
    if data.length < layout.length then []
    else
      match layout.read (data.take layout.length) with
      | none => []
      | some (record, _) => record :: decode object (data.drop layout.length)
termination_by data.length
decreasing_by
  have := layout.length_pos
  simp only [List.length_drop]
  omega

end Record

end SolarTelemetry
