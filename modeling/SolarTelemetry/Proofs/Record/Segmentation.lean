import SolarTelemetry.Proofs.Record.Layout

/-!
# Cutting an answer into records

The octets of an answer can be cut into those of one record after the other and a rest that is too
short for a record, in one way only. Decoding returns these records, and it never fails: octets of
the length that a layout asks for can always be read.
-/

namespace SolarTelemetry.Record

/-- The records of an answer, or nothing if the type octet of one is not there or one that is
there in full cannot be read. -/
def decode? (object : UInt16) (data : Bytes) : Option (List Record) :=
  if data.length < Header.length then some []
  else
    match (data[3]?).map (Layout.ofType object) with
    | none => none
    | some layout =>
      if data.length < layout.length then some []
      else
        match layout.read (data.take layout.length) with
        | none => none
        | some (record, _) => (decode? object (data.drop layout.length)).map (record :: ·)
termination_by data.length
decreasing_by
  have := layout.length_pos
  simp only [List.length_drop]
  omega

/-- The octets of one record in an answer: as many as its layout asks for, which the fourth of them
decides, with every field at its place. -/
structure Occupies (object : UInt16) (raw : Bytes) (record : Record) : Prop where
  layout : (raw[3]?).map (Layout.ofType object) = some record.layout
  size : raw.length = record.layout.length
  fills : record.Fills raw

/-- Not even a header, or a header and less than its layout asks for. -/
def TooShort (object : UInt16) (rest : Bytes) : Prop :=
  rest.length < Header.length ∨
    ∃ dataType, rest[3]? = some dataType ∧ rest.length < (Layout.ofType object dataType).length

/-- An answer is made of the octets of one record after the other and a rest. -/
structure Segments (object : UInt16) (data : Bytes) (pieces : List (Bytes × Record))
    (rest : Bytes) : Prop where
  whole : pieces.flatMap Prod.fst ++ rest = data
  occupies : ∀ piece ∈ pieces, Occupies object piece.1 piece.2
  ends : TooShort object rest

section

variable {object : UInt16} {data raw rest : Bytes} {record : Record}

theorem header_le_length (layout : Layout) : Header.length ≤ layout.length := by
  cases layout <;> decide

/-- The layout of a record can be told from the octets in front, whatever follows. -/
theorem Occupies.getElem?_append (occupies : Occupies object raw record) (rest : Bytes) :
    ((raw ++ rest)[3]?).map (Layout.ofType object) = some record.layout := by
  have four : 3 < raw.length := by
    rw [occupies.size]
    exact Nat.lt_of_lt_of_le (by decide) (header_le_length record.layout)
  rw [List.getElem?_append_left four]
  exact occupies.layout

theorem Occupies.length_le (occupies : Occupies object raw record) (rest : Bytes) :
    record.layout.length ≤ (raw ++ rest).length := by
  rw [List.length_append, occupies.size]
  exact Nat.le_add_right _ _

theorem Occupies.header_le (occupies : Occupies object raw record) (rest : Bytes) :
    Header.length ≤ (raw ++ rest).length :=
  Nat.le_trans (header_le_length record.layout) (occupies.length_le rest)

theorem Occupies.layout?_append (occupies : Occupies object raw record) (rest : Bytes) :
    layout? object (raw ++ rest) = some record.layout := by
  rw [layout?, if_neg (Nat.not_lt.mpr (occupies.header_le rest)), occupies.getElem?_append]

theorem Occupies.not_tooShort (occupies : Occupies object raw record) (rest : Bytes) :
    ¬TooShort object (raw ++ rest) := by
  rintro (few | ⟨dataType, fourth, few⟩)
  · exact Nat.not_lt.mpr (occupies.header_le rest) few
  · have layout := occupies.getElem?_append rest
    rw [fourth, Option.map_some, Option.some.injEq] at layout
    rw [layout] at few
    exact Nat.not_lt.mpr (occupies.length_le rest) few

/-- Where the octets of a record begin, no others do. -/
theorem Occupies.unique {raw' rest' : Bytes} {record' : Record}
    (occupies : Occupies object raw record) (occupies' : Occupies object raw' record')
    (same : raw ++ rest = raw' ++ rest') : raw' = raw ∧ record' = record ∧ rest' = rest := by
  have layout : record'.layout = record.layout := by
    have told := occupies'.getElem?_append rest'
    rw [← same, occupies.getElem?_append rest] at told
    exact (Option.some.inj told).symm
  have size : raw.length = raw'.length := by rw [occupies.size, occupies'.size, layout]
  obtain ⟨rfl, rfl⟩ := List.append_inj same size
  exact ⟨rfl, eq_of_fills occupies.fills occupies'.fills occupies.size layout, rfl⟩

/-- An answer that is not too short opens with a record. -/
theorem exists_occupies (long : ¬TooShort object data) :
    ∃ raw record rest, data = raw ++ rest ∧ Occupies object raw record := by
  obtain ⟨eight, full⟩ := not_or.mp long
  have four : 3 < data.length := by
    have : Header.length = 8 := rfl
    omega
  have enough : (Layout.ofType object data[3]).length ≤ data.length :=
    Nat.not_lt.mp fun few => full ⟨_, List.getElem?_eq_getElem four, few⟩
  generalize chosen : Layout.ofType object data[3] = layout at enough
  have size : (data.take layout.length).length = layout.length := List.length_take_of_le enough
  have fourth : (data.take layout.length)[3]? = some data[3] := by
    have within : 3 < layout.length :=
      Nat.lt_of_lt_of_le (by decide) (header_le_length layout)
    rw [List.getElem?_take_of_lt within, List.getElem?_eq_getElem four]
  obtain ⟨record, same, fills⟩ := exists_fills size
  refine ⟨_, record, data.drop layout.length, (List.take_append_drop _ _).symm, ?_,
    same ▸ size, fills⟩
  rw [fourth, Option.map_some, chosen, same]

/-- An answer is too short, or the octets of a record and another answer. -/
@[elab_as_elim]
theorem segment_induction (object : UInt16) {motive : Bytes → Prop}
    (short : ∀ data, TooShort object data → motive data)
    (step : ∀ raw record rest, Occupies object raw record → motive rest → motive (raw ++ rest))
    (data : Bytes) : motive data := by
  induction size : data.length using Nat.strongRecOn generalizing data with
  | ind n ih =>
    by_cases few : TooShort object data
    · exact short data few
    · obtain ⟨raw, record, rest, rfl, occupies⟩ := exists_occupies few
      have shorter : rest.length < n := by
        have := record.layout.length_pos
        rw [← size, List.length_append, occupies.size]
        omega
      exact step raw record rest occupies (ih _ shorter rest rfl)

/-! ## Decoding, record by record -/

theorem decode_of_tooShort (short : TooShort object data) : decode object data = [] := by
  rw [decode, layout?]
  rcases short with few | ⟨dataType, fourth, few⟩
  · rw [if_pos few]
  · by_cases eight : data.length < Header.length
    · rw [if_pos eight]
    · rw [if_neg eight, fourth]
      exact if_pos few

theorem decode_append_of_occupies (occupies : Occupies object raw record) (rest : Bytes) :
    decode object (raw ++ rest) = record :: decode object rest := by
  rw [decode, occupies.layout?_append rest]
  simp only [if_neg (Nat.not_lt.mpr (occupies.length_le rest))]
  rw [List.take_left' occupies.size, List.drop_left' occupies.size,
    read_of_fills occupies.fills occupies.size]

/-- The octets of records are decoded to these records, and then what follows is decoded. -/
theorem decode_flatMap_append {pieces : List (Bytes × Record)}
    (occupies : ∀ piece ∈ pieces, Occupies object piece.1 piece.2) (rest : Bytes) :
    decode object (pieces.flatMap Prod.fst ++ rest) =
      pieces.map Prod.snd ++ decode object rest := by
  induction pieces with
  | nil => rfl
  | cons piece pieces ih =>
    have first := occupies piece List.mem_cons_self
    have others := ih fun p later => occupies p (List.mem_cons_of_mem piece later)
    rw [List.flatMap_cons, List.append_assoc, decode_append_of_occupies first, others]
    rfl

theorem decode?_eq (object : UInt16) (data : Bytes) :
    decode? object data = some (decode object data) := by
  induction data using segment_induction object with
  | short data short =>
    rw [decode_of_tooShort short, decode?]
    rcases short with few | ⟨dataType, fourth, few⟩
    · rw [if_pos few]
    · by_cases eight : data.length < Header.length
      · rw [if_pos eight]
      · simp only [if_neg eight, fourth, Option.map_some, if_pos few]
  | step raw record rest occupies ih =>
    rw [decode_append_of_occupies occupies, decode?,
      if_neg (Nat.not_lt.mpr (occupies.header_le rest)), occupies.getElem?_append rest]
    simp only [if_neg (Nat.not_lt.mpr (occupies.length_le rest)), List.take_left' occupies.size,
      List.drop_left' occupies.size, read_of_fills occupies.fills occupies.size, ih,
      Option.map_some]

/-! ## Segments -/

theorem Segments.decode_eq {pieces : List (Bytes × Record)}
    (segments : Segments object data pieces rest) : decode object data = pieces.map Prod.snd := by
  rw [← segments.whole, decode_flatMap_append segments.occupies, decode_of_tooShort segments.ends,
    List.append_nil]

theorem exists_segments (object : UInt16) (data : Bytes) :
    ∃ pieces rest, Segments object data pieces rest := by
  induction data using segment_induction object with
  | short data short => exact ⟨[], data, rfl, nofun, short⟩
  | step raw record rest occupies ih =>
    obtain ⟨pieces, last, whole, each, ends⟩ := ih
    refine ⟨(raw, record) :: pieces, last, ?_, ?_, ends⟩
    · rw [List.flatMap_cons, List.append_assoc, whole]
    · rintro piece (_ | ⟨_, later⟩)
      · exact occupies
      · exact each piece later

theorem Segments.of_cons {piece : Bytes × Record} {pieces : List (Bytes × Record)}
    (segments : Segments object data (piece :: pieces) rest) :
    ∃ left, data = piece.1 ++ left ∧ Occupies object piece.1 piece.2 ∧
      Segments object left pieces rest := by
  have whole := segments.whole
  rw [List.flatMap_cons, List.append_assoc] at whole
  exact ⟨_, whole.symm, segments.occupies piece List.mem_cons_self, rfl,
    fun p later => segments.occupies p (List.mem_cons_of_mem piece later), segments.ends⟩

theorem Segments.unique {pieces pieces' : List (Bytes × Record)} {rest' : Bytes}
    (segments : Segments object data pieces rest)
    (segments' : Segments object data pieces' rest') : pieces' = pieces ∧ rest' = rest := by
  induction pieces generalizing data pieces' with
  | nil =>
    have alone : rest = data := segments.whole
    cases pieces' with
    | nil => exact ⟨rfl, segments'.whole.trans alone.symm⟩
    | cons piece pieces' =>
      obtain ⟨left, opens, first, -⟩ := segments'.of_cons
      exact absurd (alone.trans opens ▸ segments.ends) (first.not_tooShort left)
  | cons piece pieces ih =>
    obtain ⟨left, opens, first, others⟩ := segments.of_cons
    cases pieces' with
    | nil =>
      have alone : rest' = data := segments'.whole
      exact absurd (alone.trans opens ▸ segments'.ends) (first.not_tooShort left)
    | cons piece' pieces' =>
      obtain ⟨left', opens', first', others'⟩ := segments'.of_cons
      obtain ⟨raw, record, rfl⟩ := first.unique first' (opens.symm.trans opens')
      obtain ⟨rfl, rfl⟩ := ih others others'
      exact ⟨congrArg (· :: _) (Prod.ext raw record), rfl⟩

theorem occupies_encode (valid : record.Valid object) (unused : UInt32) :
    Occupies object (record.encode unused) record := by
  have fills := fills_encode valid unused
  have dataType : (record.encode unused)[3]? = some record.header.dataType := by
    cases record with
    | spot r => exact fills.header.dataType
    | counter r => exact fills.header.dataType
    | block r => exact fills.header.dataType
  refine ⟨?_, length_encode valid unused, fills⟩
  rw [dataType, Option.map_some, valid.layout]

theorem segments_written {written : List (Record × UInt32)}
    (valid : ∀ w ∈ written, w.1.Valid object) :
    Segments object (written.flatMap fun w => w.1.encode w.2)
      (written.map fun w => (w.1.encode w.2, w.1)) [] where
  whole := by rw [List.append_nil, List.flatMap_map]
  occupies := by
    intro piece mem
    obtain ⟨w, listed, rfl⟩ := List.mem_map.mp mem
    exact occupies_encode (valid w listed) w.2
  ends := .inl (by decide)

end

/-- Decoding never fails. It returns the records of the one way to cut an answer into records and a
rest, so answers that leave no rest can be put in front of others, and records that were written
for the object come out as they were. -/
theorem decode_segmented (object : UInt16) :
    (∀ data, decode? object data = some (decode object data) ∧
      ∃ pieces rest, Segments object data pieces rest ∧
        decode object data = pieces.map Prod.snd ∧
        ∀ pieces' rest', Segments object data pieces' rest' →
          pieces' = pieces ∧ rest' = rest) ∧
    (∀ a b pieces, Segments object a pieces [] →
      decode object (a ++ b) = decode object a ++ decode object b) ∧
    ∀ written : List (Record × UInt32), (∀ w ∈ written, w.1.Valid object) →
      decode object (written.flatMap fun w => w.1.encode w.2) = written.map Prod.fst := by
  refine ⟨fun data => ⟨decode?_eq object data, ?_⟩, ?_, ?_⟩
  · obtain ⟨pieces, rest, segments⟩ := exists_segments object data
    exact ⟨pieces, rest, segments, segments.decode_eq, fun _ _ others => segments.unique others⟩
  · intro a b pieces segments
    have whole : pieces.flatMap Prod.fst = a := by
      rw [← segments.whole, List.append_nil]
    rw [segments.decode_eq, ← whole, decode_flatMap_append segments.occupies]
  · intro written valid
    rw [(segments_written valid).decode_eq, List.map_map]
    rfl

/-- A status and a power reading, each of its own length, and three octets more. -/
theorem decode_segmented_mixed :
    let status : Record := .block ⟨⟨1, 0x2148, statusType, 1700000000⟩, List.replicate 32 1⟩
    let power : Record := .spot ⟨⟨1, 0x263F, signedType, 1700000000⟩, 1500, 1500, 1500, 1500⟩
    let written : List (Record × UInt32) := [(status, 0), (power, 7)]
    let octets := written.flatMap fun w => w.1.encode w.2
    (∀ w ∈ written, w.1.Valid 0x5180) ∧
      Segments 0x5180 octets (written.map fun w => (w.1.encode w.2, w.1)) [] ∧
      decode 0x5180 octets = [status, power] ∧
      decode 0x5180 (octets ++ [1, 2, 3]) = [status, power] := by
  intro status power written octets
  have thirtyTwo : ∀ r, status = .block r → r.data.length = 32 := by
    intro r same
    obtain rfl := Record.block.inj same
    decide
  have valid : ∀ w ∈ written, w.1.Valid 0x5180 :=
    List.forall_mem_cons.mpr ⟨⟨by decide, thirtyTwo⟩,
      List.forall_mem_singleton.mpr ⟨by decide, nofun⟩⟩
  have segments := segments_written valid
  obtain ⟨-, joins, reads⟩ := decode_segmented 0x5180
  have decoded : decode 0x5180 octets = [status, power] := reads written valid
  refine ⟨valid, segments, decoded, ?_⟩
  rw [joins octets [1, 2, 3] _ segments, decoded, decode_of_tooShort (.inl (by decide))]
  rfl

end SolarTelemetry.Record
