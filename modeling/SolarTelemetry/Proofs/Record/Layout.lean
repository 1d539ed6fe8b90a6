import SolarTelemetry.Proofs.Reader
import SolarTelemetry.Record

/-!
# The octets of a record

Each field of a record has its place in the octets of the record, whatever its layout. The readers
take the fields from these places, and there is one record of a layout in any octets of its length.
-/

namespace SolarTelemetry.Record

/-- The header stands in the first eight octets. -/
structure Header.Fills (h : Header) (raw : Bytes) : Prop where
  source : raw[0]? = some h.source
  index : Bytes.word16At? 1 raw = some h.index
  dataType : raw[3]? = some h.dataType
  timestamp : Bytes.word32At? 4 raw = some h.timestamp

/-- The last four octets are not used. -/
structure Spot.Fills (r : Spot) (raw : Bytes) : Prop where
  header : r.header.Fills raw
  value1 : Bytes.word32At? 8 raw = some r.value1
  value2 : Bytes.word32At? 12 raw = some r.value2
  value3 : Bytes.word32At? 16 raw = some r.value3
  value4 : Bytes.word32At? 20 raw = some r.value4

structure Counter.Fills (r : Counter) (raw : Bytes) : Prop where
  header : r.header.Fills raw
  value : Bytes.word64At? 8 raw = some r.value

structure Block.Fills (r : Block) (raw : Bytes) : Prop where
  header : r.header.Fills raw
  data : (raw.drop 8).take 32 = r.data

def Fills : Record → Bytes → Prop
  | .spot r => r.Fills
  | .counter r => r.Fills
  | .block r => r.Fills

def layout : Record → Layout
  | .spot _ => .spot
  | .counter _ => .counter
  | .block _ => .block

/-- The octets of a record; a spot has a word more than it uses. -/
def encode (unused : UInt32) : Record → Bytes
  | .spot r => r.header.encode ++ Bytes.ofWord32 r.value1 ++ Bytes.ofWord32 r.value2 ++
      Bytes.ofWord32 r.value3 ++ Bytes.ofWord32 r.value4 ++ Bytes.ofWord32 unused
  | .counter r => r.header.encode ++ Bytes.ofWord64 r.value
  | .block r => r.header.encode ++ r.data

/-- An answer about an object can hold the record: its type octet asks for its layout, and a block
has its thirty-two octets. -/
structure Valid (object : UInt16) (record : Record) : Prop where
  layout : Layout.ofType object record.header.dataType = record.layout
  block : ∀ r, record = .block r → r.data.length = 32

/-! ## Reading the fields from their places -/

section

variable {raw : Bytes} {record other : Record}

theorem Header.read_of_fills {h : Header} (fills : h.Fills raw) :
    Header.read raw = some (h, raw.drop 8) := by
  have source : Reader.word8 raw = some (h.source, raw.drop 1) := Reader.word8_drop fills.source
  unfold Header.read
  rw [Reader.bind_of_read source, Reader.bind_of_read (Reader.word16_drop fills.index),
    Reader.bind_of_read (Reader.word8_drop fills.dataType),
    Reader.bind_of_read (Reader.word32_drop fills.timestamp)]
  rfl

theorem Spot.read_of_fills {r : Spot} (fills : r.Fills raw) (long : 28 ≤ raw.length) :
    Spot.read raw = some (r, raw.drop 28) := by
  unfold Spot.read
  rw [Reader.bind_of_read (Header.read_of_fills fills.header),
    Reader.bind_of_read (Reader.word32_drop fills.value1),
    Reader.bind_of_read (Reader.word32_drop fills.value2),
    Reader.bind_of_read (Reader.word32_drop fills.value3),
    Reader.bind_of_read (Reader.word32_drop fills.value4),
    Reader.bind_of_read (Reader.octets_drop long)]
  rfl

theorem Counter.read_of_fills {r : Counter} (fills : r.Fills raw) :
    Counter.read raw = some (r, raw.drop 16) := by
  unfold Counter.read
  rw [Reader.bind_of_read (Header.read_of_fills fills.header),
    Reader.bind_of_read (Reader.word64_drop fills.value)]
  rfl

theorem Block.read_of_fills {r : Block} (fills : r.Fills raw) (long : 40 ≤ raw.length) :
    Block.read raw = some (r, raw.drop 40) := by
  unfold Block.read
  rw [Reader.bind_of_read (Header.read_of_fills fills.header),
    Reader.bind_of_read (Reader.octets_drop long), fills.data]
  rfl

/-- What fills octets of the right length is what is read from them. -/
theorem read_of_fills (fills : record.Fills raw) (size : raw.length = record.layout.length) :
    record.layout.read raw = some (record, []) := by
  have long := Nat.le_of_eq size.symm
  have done : raw.drop record.layout.length = [] := List.drop_eq_nil_of_le (Nat.le_of_eq size)
  cases record with
  | spot r => exact done ▸ Reader.map_of_read Record.spot (Spot.read_of_fills fills long)
  | counter r => exact done ▸ Reader.map_of_read Record.counter (Counter.read_of_fills fills)
  | block r => exact done ▸ Reader.map_of_read Record.block (Block.read_of_fills fills long)

theorem eq_of_fills (fills : record.Fills raw) (others : other.Fills raw)
    (size : raw.length = record.layout.length) (same : other.layout = record.layout) :
    other = record := by
  have read := read_of_fills others (same ▸ size)
  rw [same, read_of_fills fills size] at read
  cases read
  rfl

theorem Header.exists_fills (long : 8 ≤ raw.length) : ∃ h : Header, h.Fills raw := by
  obtain ⟨index, indexAt⟩ := Bytes.exists_word16At? (show 1 + 2 ≤ raw.length by omega)
  obtain ⟨timestamp, timestampAt⟩ := Bytes.exists_word32At? (show 4 + 4 ≤ raw.length by omega)
  have source : raw[0]? = some raw[0] := List.getElem?_eq_getElem (by omega)
  have dataType : raw[3]? = some raw[3] := List.getElem?_eq_getElem (by omega)
  exact ⟨⟨_, index, _, timestamp⟩, source, indexAt, dataType, timestampAt⟩

/-- Octets of the right length hold a record. -/
theorem exists_fills {layout : Layout} (size : raw.length = layout.length) :
    ∃ record : Record, record.layout = layout ∧ record.Fills raw := by
  have long : 8 ≤ raw.length := by
    cases layout <;> simp only [size, Layout.length] <;> omega
  obtain ⟨h, header⟩ := Header.exists_fills long
  cases layout with
  | spot =>
    have size : raw.length = 28 := size
    obtain ⟨value1, value1At⟩ := Bytes.exists_word32At? (show 8 + 4 ≤ raw.length by omega)
    obtain ⟨value2, value2At⟩ := Bytes.exists_word32At? (show 12 + 4 ≤ raw.length by omega)
    obtain ⟨value3, value3At⟩ := Bytes.exists_word32At? (show 16 + 4 ≤ raw.length by omega)
    obtain ⟨value4, value4At⟩ := Bytes.exists_word32At? (show 20 + 4 ≤ raw.length by omega)
    exact ⟨.spot ⟨h, value1, value2, value3, value4⟩, rfl,
      ⟨header, value1At, value2At, value3At, value4At⟩⟩
  | counter =>
    obtain ⟨value, valueAt⟩ := Bytes.exists_word64At? (Nat.le_of_eq size.symm : 8 + 8 ≤ raw.length)
    exact ⟨.counter ⟨h, value⟩, rfl, ⟨header, valueAt⟩⟩
  | block => exact ⟨.block ⟨h, _⟩, rfl, ⟨header, rfl⟩⟩

end

/-! ## Writing the fields to their places -/

section

variable {object : UInt16} {record : Record}

theorem Header.read_encode_append (h : Header) (rest : Bytes) :
    Header.read (h.encode ++ rest) = some (h, rest) := by
  unfold Header.encode Header.read
  simp only [List.append_assoc, List.cons_append, List.nil_append]
  rw [Reader.bind_of_read (Reader.word8_cons _ _),
    Reader.bind_of_read (Reader.word16_ofWord16 _ _),
    Reader.bind_of_read (Reader.word8_cons _ _),
    Reader.bind_of_read (Reader.word32_ofWord32 _ _)]
  rfl

theorem Header.length_encode (h : Header) : h.encode.length = 8 := by
  simp [Header.encode]

theorem length_encode (valid : record.Valid object) (unused : UInt32) :
    (record.encode unused).length = record.layout.length := by
  cases record with
  | spot r => simp [encode, Header.length_encode, layout, Layout.length]
  | counter r => simp [encode, Header.length_encode, layout, Layout.length]
  | block r =>
    simp [encode, Header.length_encode, valid.block r rfl, layout, Layout.length]

theorem read_encode (valid : record.Valid object) (unused : UInt32) :
    record.layout.read (record.encode unused) = some (record, []) := by
  cases record with
  | spot r =>
    refine Reader.map_of_read Record.spot ?_
    unfold encode Spot.read
    simp only [List.append_assoc]
    rw [Reader.bind_of_read (Header.read_encode_append _ _),
      Reader.bind_of_read (Reader.word32_ofWord32 _ _),
      Reader.bind_of_read (Reader.word32_ofWord32 _ _),
      Reader.bind_of_read (Reader.word32_ofWord32 _ _),
      Reader.bind_of_read (Reader.word32_ofWord32 _ _)]
    rfl
  | counter r =>
    refine Reader.map_of_read Record.counter ?_
    unfold encode Counter.read
    rw [Reader.bind_of_read (Header.read_encode_append _ _),
      ← List.append_nil (Bytes.ofWord64 r.value),
      Reader.bind_of_read (Reader.word64_ofWord64 _ _)]
    rfl
  | block r =>
    refine Reader.map_of_read Record.block ?_
    unfold encode Block.read
    rw [Reader.bind_of_read (Header.read_encode_append _ _), ← List.append_nil r.data,
      Reader.bind_of_read (Reader.octets_append (valid.block r rfl) _)]
    rfl

theorem fills_encode (valid : record.Valid object) (unused : UInt32) :
    record.Fills (record.encode unused) := by
  obtain ⟨other, same, fills⟩ := exists_fills (length_encode valid unused)
  have read := read_of_fills fills (same ▸ length_encode valid unused)
  rw [same, read_encode valid unused] at read
  cases read
  exact fills

end

end SolarTelemetry.Record
