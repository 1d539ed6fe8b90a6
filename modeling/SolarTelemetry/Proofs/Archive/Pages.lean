import SolarTelemetry.Archive
import SolarTelemetry.Proofs.Reader

/-!
# The entries of an archive page

A page is looked at in stretches of the length of one entry. Each stretch gives the entry whose
fields stand at their places in it, unless its time is zero or its yield has no value, and then it
gives none; what is left at the end gives none either. Nothing of that can fail.
-/

namespace SolarTelemetry.Archive

/-- What a stretch holds, empty or not. -/
def readEntry (kind : Kind) (raw : Bytes) : Except Error (Option Entry) :=
  if kind.holdsEvents then
    match Event.read raw with
    | some (e, _) => .ok (some (.event e))
    | none => .error (.protocol (.reported "short event record"))
  else
    match YieldSample.read raw with
    | some (s, _) => .ok (s.map .sample)
    | none => .error (.protocol (.reported "short day yield record"))

/-- The entries of a page, where a stretch that cannot be read is a fault of the whole page. -/
def readEntries (kind : Kind) (data : Bytes) : Except Error (List Entry) :=
  if data.length < kind.entryLength then .ok []
  else
    match readEntry kind (data.take kind.entryLength) with
    | .error e => .error e
    | .ok entry =>
      (readEntries kind (data.drop kind.entryLength)).map
        ((entry.filter (·.time != 0)).toList ++ ·)
termination_by data.length
decreasing_by
  have := entryLength_pos kind
  simp only [List.length_drop]
  omega

/-- A sample is twelve octets. -/
structure YieldSample.Fills (s : YieldSample) (raw : Bytes) : Prop where
  size : raw.length = 12
  time : Bytes.word32At? 0 raw = some s.time
  total : (Bytes.word64At? 4 raw).map (fun w => (w.toNat : Int)) = some s.total

/-- An event is forty-eight octets; the word at twenty is not used. -/
structure Event.Fills (e : Event) (raw : Bytes) : Prop where
  size : raw.length = 48
  time : Bytes.word32At? 0 raw = some e.time
  entryId : Bytes.word16At? 4 raw = some e.entryId
  susyId : Bytes.word16At? 6 raw = some e.susyId
  serial : Bytes.word32At? 8 raw = some e.serial
  eventCode : Bytes.word16At? 12 raw = some e.eventCode
  flags : Bytes.word16At? 14 raw = some e.flags
  group : Bytes.word32At? 16 raw = some e.group
  tag : Bytes.word32At? 24 raw = some e.tag
  counter : Bytes.word32At? 28 raw = some e.counter
  changeTime : Bytes.word32At? 32 raw = some e.changeTime
  parameter : Bytes.word32At? 36 raw = some e.parameter
  newValue : Bytes.word32At? 40 raw = some e.newValue
  oldValue : Bytes.word32At? 44 raw = some e.oldValue

/-- An entry of an archive fills a stretch and is not empty. -/
def Entry.Fills (kind : Kind) (raw : Bytes) : Entry → Prop
  | .sample s => kind.holdsEvents = false ∧ s.Fills raw ∧ s.total < 2 ^ 63 ∧ s.time ≠ 0
  | .event e => kind.holdsEvents = true ∧ e.Fills raw ∧ e.time ≠ 0

/-- An archive can hold the entry. -/
def Entry.Valid (kind : Kind) : Entry → Prop
  | .sample s => kind.holdsEvents = false ∧ 0 ≤ s.total ∧ s.total < 2 ^ 63 ∧ s.time ≠ 0
  | .event e => kind.holdsEvents = true ∧ e.time ≠ 0

def YieldSample.encode (s : YieldSample) : Bytes :=
  Bytes.ofWord32 s.time ++ Bytes.ofWord64 (UInt64.ofNat s.total.toNat)

def Event.encode (unused : UInt32) (e : Event) : Bytes :=
  Bytes.ofWord32 e.time ++ Bytes.ofWord16 e.entryId ++ Bytes.ofWord16 e.susyId ++
    Bytes.ofWord32 e.serial ++ Bytes.ofWord16 e.eventCode ++ Bytes.ofWord16 e.flags ++
    Bytes.ofWord32 e.group ++ Bytes.ofWord32 unused ++ Bytes.ofWord32 e.tag ++
    Bytes.ofWord32 e.counter ++ Bytes.ofWord32 e.changeTime ++ Bytes.ofWord32 e.parameter ++
    Bytes.ofWord32 e.newValue ++ Bytes.ofWord32 e.oldValue

def Entry.encode (unused : UInt32) : Entry → Bytes
  | .sample s => s.encode
  | .event e => e.encode unused

/-- The stretch of a page that can hold the entry of this number. -/
def stretch (kind : Kind) (data : Bytes) (i : Nat) : Bytes :=
  (data.drop (i * kind.entryLength)).take kind.entryLength

/-! ## One stretch -/

section

variable {kind : Kind} {raw : Bytes}

theorem Event.read_of_fills {e : Event} (fills : e.Fills raw) :
    Event.read raw = some (e, raw.drop 48) := by
  have time : Reader.word32 raw = some (e.time, raw.drop 4) := Reader.word32_drop fills.time
  have unused : 20 + 4 ≤ raw.length := by
    rw [fills.size]
    decide
  unfold Event.read
  rw [Reader.bind_of_read time, Reader.bind_of_read (Reader.word16_drop fills.entryId),
    Reader.bind_of_read (Reader.word16_drop fills.susyId),
    Reader.bind_of_read (Reader.word32_drop fills.serial),
    Reader.bind_of_read (Reader.word16_drop fills.eventCode),
    Reader.bind_of_read (Reader.word16_drop fills.flags),
    Reader.bind_of_read (Reader.word32_drop fills.group),
    Reader.bind_of_read (Reader.octets_drop unused),
    Reader.bind_of_read (Reader.word32_drop fills.tag),
    Reader.bind_of_read (Reader.word32_drop fills.counter),
    Reader.bind_of_read (Reader.word32_drop fills.changeTime),
    Reader.bind_of_read (Reader.word32_drop fills.parameter),
    Reader.bind_of_read (Reader.word32_drop fills.newValue),
    Reader.bind_of_read (Reader.word32_drop fills.oldValue)]
  rfl

theorem Event.exists_fills (size : raw.length = 48) : ∃ e : Event, e.Fills raw := by
  have within {offset width : Nat} (before : offset + width ≤ 48) :
      offset + width ≤ raw.length := size ▸ before
  obtain ⟨time, timeAt⟩ := Bytes.exists_word32At? (within (by decide : 0 + 4 ≤ 48))
  obtain ⟨entryId, entryIdAt⟩ := Bytes.exists_word16At? (within (by decide : 4 + 2 ≤ 48))
  obtain ⟨susyId, susyIdAt⟩ := Bytes.exists_word16At? (within (by decide : 6 + 2 ≤ 48))
  obtain ⟨serial, serialAt⟩ := Bytes.exists_word32At? (within (by decide : 8 + 4 ≤ 48))
  obtain ⟨eventCode, eventCodeAt⟩ := Bytes.exists_word16At? (within (by decide : 12 + 2 ≤ 48))
  obtain ⟨flags, flagsAt⟩ := Bytes.exists_word16At? (within (by decide : 14 + 2 ≤ 48))
  obtain ⟨group, groupAt⟩ := Bytes.exists_word32At? (within (by decide : 16 + 4 ≤ 48))
  obtain ⟨tag, tagAt⟩ := Bytes.exists_word32At? (within (by decide : 24 + 4 ≤ 48))
  obtain ⟨counter, counterAt⟩ := Bytes.exists_word32At? (within (by decide : 28 + 4 ≤ 48))
  obtain ⟨changeTime, changeTimeAt⟩ := Bytes.exists_word32At? (within (by decide : 32 + 4 ≤ 48))
  obtain ⟨parameter, parameterAt⟩ := Bytes.exists_word32At? (within (by decide : 36 + 4 ≤ 48))
  obtain ⟨newValue, newValueAt⟩ := Bytes.exists_word32At? (within (by decide : 40 + 4 ≤ 48))
  obtain ⟨oldValue, oldValueAt⟩ := Bytes.exists_word32At? (within (by decide : 44 + 4 ≤ 48))
  exact ⟨⟨time, entryId, susyId, serial, eventCode, flags, group, tag, counter, changeTime,
    parameter, newValue, oldValue⟩, size, timeAt, entryIdAt, susyIdAt, serialAt, eventCodeAt,
    flagsAt, groupAt, tagAt, counterAt, changeTimeAt, parameterAt, newValueAt, oldValueAt⟩

theorem Event.eq_of_fills {e other : Event} (fills : e.Fills raw) (others : other.Fills raw) :
    other = e := by
  have read := Event.read_of_fills others
  rw [Event.read_of_fills fills] at read
  cases read
  rfl

/-- Both numbers that stand for no value are too large for a signed word, too. -/
theorem counter?_bind (time : UInt32) (w : UInt64) :
    ((Record.counter? w).bind fun total =>
      if total < 2 ^ 63 then some (⟨time, total⟩ : YieldSample) else none) =
      if w.toNat < 2 ^ 63 then some ⟨time, w.toNat⟩ else none := by
  unfold Record.counter?
  by_cases void : w = 0xFFFFFFFFFFFFFFFF ∨ w = 0x8000000000000000
  · have large : ¬w.toNat < 2 ^ 63 := by
      rcases void with rfl | rfl <;> decide
    rw [if_pos void, if_neg large]
    rfl
  · rw [if_neg void]
    rfl

theorem YieldSample.read_eq {time : UInt32} {w : UInt64}
    (timeAt : Bytes.word32At? 0 raw = some time) (totalAt : Bytes.word64At? 4 raw = some w) :
    YieldSample.read raw =
      some (if w.toNat < 2 ^ 63 then some ⟨time, w.toNat⟩ else none, raw.drop 12) := by
  have first : Reader.word32 raw = some (time, raw.drop 4) := Reader.word32_drop timeAt
  unfold YieldSample.read
  rw [Reader.bind_of_read first, Reader.bind_of_read (Reader.word64_drop totalAt), counter?_bind]
  rfl

/-- Twelve octets show the sample that fills them, if a signed word holds its total. -/
theorem YieldSample.exists_read (size : raw.length = 12) :
    ∃ shown, YieldSample.read raw = some (shown, raw.drop 12) ∧
      ∀ s, shown = some s ↔ s.Fills raw ∧ s.total < 2 ^ 63 := by
  obtain ⟨time, timeAt⟩ := Bytes.exists_word32At? (show 0 + 4 ≤ raw.length by omega)
  obtain ⟨w, totalAt⟩ := Bytes.exists_word64At? (show 4 + 8 ≤ raw.length by omega)
  refine ⟨_, YieldSample.read_eq timeAt totalAt, fun s => ⟨fun shown => ?_, ?_⟩⟩
  · split at shown
    · next small =>
      obtain rfl := Option.some.inj shown
      have signed : (w.toNat : Int) < 2 ^ 63 := by omega
      exact ⟨⟨size, timeAt, congrArg _ totalAt⟩, signed⟩
    · cases shown
  · rintro ⟨fills, signed⟩
    have sameTime := fills.time
    have sameTotal := fills.total
    rw [timeAt, Option.some.injEq] at sameTime
    rw [totalAt, Option.map_some, Option.some.injEq] at sameTotal
    have small : w.toNat < 2 ^ 63 := by omega
    rw [if_pos small, sameTime, sameTotal]

theorem Kind.entryLength_of_events (events : kind.holdsEvents = true) : kind.entryLength = 48 :=
  if_pos events

theorem Kind.entryLength_of_samples (samples : kind.holdsEvents = false) :
    kind.entryLength = 12 :=
  if_neg (by simp [samples])

/-- A stretch can always be read. -/
theorem readEntry_of_size (size : raw.length = kind.entryLength) :
    ∃ entry, readEntry kind raw = .ok entry ∧
      entryOf? kind raw = entry.filter (·.time != 0) := by
  unfold readEntry entryOf?
  cases holds : kind.holdsEvents with
  | true =>
    rw [Kind.entryLength_of_events holds] at size
    obtain ⟨e, fills⟩ := Event.exists_fills size
    rw [Event.read_of_fills fills]
    exact ⟨_, rfl, rfl⟩
  | false =>
    rw [Kind.entryLength_of_samples holds] at size
    obtain ⟨shown, read, -⟩ := YieldSample.exists_read size
    rw [read]
    exact ⟨_, rfl, rfl⟩

/-- A stretch gives the entry that fills it. -/
theorem entryOf?_eq_some_iff (size : raw.length = kind.entryLength) (entry : Entry) :
    entryOf? kind raw = some entry ↔ entry.Fills kind raw := by
  unfold entryOf?
  cases holds : kind.holdsEvents with
  | true =>
    rw [Kind.entryLength_of_events holds] at size
    obtain ⟨e, fills⟩ := Event.exists_fills size
    have only (other : Event) : other.Fills raw ↔ e = other :=
      ⟨fun others => (Event.eq_of_fills fills others).symm, fun same => same ▸ fills⟩
    rw [Event.read_of_fills fills]
    cases entry with
    | sample s => simp [Entry.Fills, holds]
    | event other => simp [Entry.Fills, holds, only, Option.filter_eq_some_iff, Entry.time]
  | false =>
    rw [Kind.entryLength_of_samples holds] at size
    obtain ⟨shown, read, only⟩ := YieldSample.exists_read size
    rw [read]
    cases entry with
    | sample s =>
      have timed : s.time ≠ 0 → (shown = some s ↔ s.Fills raw ∧ s.total < 2 ^ 63) := fun _ => only s
      simpa [Entry.Fills, holds, ← and_assoc, Option.filter_eq_some_iff, Entry.time] using timed
    | event other => simp [Entry.Fills, holds]

/-! ## Written entries -/

theorem Event.read_encode (unused : UInt32) (e : Event) :
    Event.read (e.encode unused) = some (e, []) := by
  unfold Event.encode Event.read
  simp only [List.append_assoc]
  rw [Reader.bind_of_read (Reader.word32_ofWord32 _ _),
    Reader.bind_of_read (Reader.word16_ofWord16 _ _),
    Reader.bind_of_read (Reader.word16_ofWord16 _ _),
    Reader.bind_of_read (Reader.word32_ofWord32 _ _),
    Reader.bind_of_read (Reader.word16_ofWord16 _ _),
    Reader.bind_of_read (Reader.word16_ofWord16 _ _),
    Reader.bind_of_read (Reader.word32_ofWord32 _ _),
    Reader.bind_of_read (Reader.octets_append (Bytes.length_ofWord32 unused) _),
    Reader.bind_of_read (Reader.word32_ofWord32 _ _),
    Reader.bind_of_read (Reader.word32_ofWord32 _ _),
    Reader.bind_of_read (Reader.word32_ofWord32 _ _),
    Reader.bind_of_read (Reader.word32_ofWord32 _ _),
    Reader.bind_of_read (Reader.word32_ofWord32 _ _), ← List.append_nil (Bytes.ofWord32 e.oldValue),
    Reader.bind_of_read (Reader.word32_ofWord32 _ _)]
  rfl

theorem YieldSample.read_encode {s : YieldSample} (positive : 0 ≤ s.total)
    (signed : s.total < 2 ^ 63) : YieldSample.read s.encode = some (some s, []) := by
  have small : (UInt64.ofNat s.total.toNat).toNat = s.total.toNat := by
    rw [UInt64.toNat_ofNat']
    omega
  have fits : (UInt64.ofNat s.total.toNat).toNat < 2 ^ 63 := by omega
  have total : ((UInt64.ofNat s.total.toNat).toNat : Int) = s.total := by omega
  unfold YieldSample.encode YieldSample.read
  rw [Reader.bind_of_read (Reader.word32_ofWord32 _ _),
    ← List.append_nil (Bytes.ofWord64 (UInt64.ofNat s.total.toNat)),
    Reader.bind_of_read (Reader.word64_ofWord64 _ _), counter?_bind, if_pos fits, total]
  rfl

theorem Entry.length_encode {entry : Entry} (valid : entry.Valid kind) (unused : UInt32) :
    (entry.encode unused).length = kind.entryLength := by
  cases entry with
  | sample s =>
    rw [Kind.entryLength_of_samples valid.1]
    simp [Entry.encode, YieldSample.encode]
  | event e =>
    rw [Kind.entryLength_of_events valid.1]
    simp [Entry.encode, Event.encode]

theorem entryOf?_encode {entry : Entry} (valid : entry.Valid kind) (unused : UInt32) :
    entryOf? kind (entry.encode unused) = some entry := by
  unfold entryOf?
  cases entry with
  | sample s =>
    obtain ⟨samples, positive, signed, timed⟩ := valid
    rw [Entry.encode, YieldSample.read_encode positive signed]
    simp [samples, Entry.time, timed]
  | event e =>
    obtain ⟨events, timed⟩ := valid
    rw [Entry.encode, Event.read_encode]
    simp [events, Entry.time, timed]

/-! ## A page, stretch by stretch -/

theorem entriesOf_of_short {data : Bytes} (short : data.length < kind.entryLength) :
    entriesOf kind data = [] := by
  rw [entriesOf, if_pos short]

theorem not_short (size : raw.length = kind.entryLength) (rest : Bytes) :
    ¬(raw ++ rest).length < kind.entryLength := by
  rw [List.length_append, size]
  omega

theorem entriesOf_append_of_size (size : raw.length = kind.entryLength) (rest : Bytes) :
    entriesOf kind (raw ++ rest) = (entryOf? kind raw).toList ++ entriesOf kind rest := by
  rw [entriesOf, if_neg (not_short size rest), List.take_left' size, List.drop_left' size]

/-- A page is too short for an entry, or a stretch and another page. -/
@[elab_as_elim]
theorem stretch_induction (kind : Kind) {motive : Bytes → Prop}
    (short : ∀ data, data.length < kind.entryLength → motive data)
    (step : ∀ raw rest, raw.length = kind.entryLength → motive rest → motive (raw ++ rest))
    (data : Bytes) : motive data := by
  induction size : data.length using Nat.strongRecOn generalizing data with
  | ind n ih =>
    by_cases few : data.length < kind.entryLength
    · exact short data few
    · have shorter : (data.drop kind.entryLength).length < n := by
        have := entryLength_pos kind
        rw [List.length_drop]
        omega
      rw [← List.take_append_drop kind.entryLength data]
      exact step _ _ (List.length_take_of_le (Nat.not_lt.mp few)) (ih _ shorter _ rfl)

theorem readEntries_eq (kind : Kind) (data : Bytes) :
    readEntries kind data = .ok (entriesOf kind data) := by
  induction data using stretch_induction kind with
  | short data few => rw [entriesOf_of_short few, readEntries, if_pos few]
  | step raw rest size ih =>
    obtain ⟨entry, read, kept⟩ := readEntry_of_size size
    rw [entriesOf_append_of_size size, readEntries, if_neg (not_short size rest),
      List.take_left' size, List.drop_left' size, read, ih, kept]
    rfl

theorem entriesOf_append {a : Bytes} (whole : kind.entryLength ∣ a.length) (b : Bytes) :
    entriesOf kind (a ++ b) = entriesOf kind a ++ entriesOf kind b := by
  induction a using stretch_induction kind with
  | short a few =>
    have none : a = [] := List.eq_nil_of_length_eq_zero (Nat.eq_zero_of_dvd_of_lt whole few)
    have empty : entriesOf kind [] = [] := entriesOf_of_short (entryLength_pos kind)
    rw [none, empty]
    rfl
  | step raw rest size ih =>
    have others : kind.entryLength ∣ rest.length := by
      rw [List.length_append, size] at whole
      exact (Nat.dvd_add_right (Nat.dvd_refl _)).mp whole
    rw [List.append_assoc, entriesOf_append_of_size size, entriesOf_append_of_size size,
      ih others, List.append_assoc]

theorem stretch_zero (size : raw.length = kind.entryLength) (rest : Bytes) :
    stretch kind (raw ++ rest) 0 = raw := by
  rw [stretch, Nat.zero_mul, List.drop_zero, List.take_left' size]

theorem stretch_succ (size : raw.length = kind.entryLength) (rest : Bytes) (i : Nat) :
    stretch kind (raw ++ rest) (i + 1) = stretch kind rest i := by
  rw [stretch, Nat.succ_mul, Nat.add_comm, ← List.drop_drop, List.drop_left' size, stretch]

theorem length_stretch {data : Bytes} {i : Nat} (within : i < data.length / kind.entryLength) :
    (stretch kind data i).length = kind.entryLength := by
  have ends : (i + 1) * kind.entryLength ≤ data.length :=
    (Nat.le_div_iff_mul_le (entryLength_pos kind)).mp within
  rw [Nat.succ_mul] at ends
  rw [stretch, List.length_take_of_le]
  rw [List.length_drop]
  omega

theorem entriesOf_eq_filterMap (kind : Kind) (data : Bytes) :
    entriesOf kind data = (List.range (data.length / kind.entryLength)).filterMap fun i =>
      entryOf? kind (stretch kind data i) := by
  induction data using stretch_induction kind with
  | short data few =>
    rw [entriesOf_of_short few, Nat.div_eq_of_lt few]
    rfl
  | step raw rest size ih =>
    have count : (raw ++ rest).length / kind.entryLength =
        rest.length / kind.entryLength + 1 := by
      rw [List.length_append, size, Nat.add_div_left _ (entryLength_pos kind)]
    rw [entriesOf_append_of_size size, ih, count, List.range_succ_eq_map, List.filterMap_cons,
      List.filterMap_map]
    simp only [stretch_zero size, Function.comp_def, Nat.succ_eq_add_one, stretch_succ size]
    cases entryOf? kind raw <;> rfl

end

/-- Decoding a page never fails. It gives, for one complete stretch after the other, the entry that
fills it and is not empty, so pages can be cut between two stretches, and entries that were written
for the archive come out as they were. -/
theorem entriesOf_stretches (kind : Kind) :
    (∀ data, readEntries kind data = .ok (entriesOf kind data) ∧
      ∃ found : Nat → Option Entry,
        (∀ i < data.length / kind.entryLength, ∀ entry,
          found i = some entry ↔ entry.Fills kind (stretch kind data i)) ∧
        entriesOf kind data =
          (List.range (data.length / kind.entryLength)).filterMap found) ∧
    (∀ written : List (Entry × UInt32), (∀ w ∈ written, w.1.Valid kind) →
      entriesOf kind (written.flatMap fun w => w.1.encode w.2) = written.map Prod.fst) ∧
    ∀ a b, kind.entryLength ∣ a.length →
      entriesOf kind (a ++ b) = entriesOf kind a ++ entriesOf kind b := by
  refine ⟨fun data => ⟨readEntries_eq kind data, _, ?_, entriesOf_eq_filterMap kind data⟩, ?_,
    fun a b whole => entriesOf_append whole b⟩
  · intro i within entry
    exact entryOf?_eq_some_iff (length_stretch within) entry
  · intro written valid
    induction written with
    | nil => exact entriesOf_of_short (entryLength_pos kind)
    | cons w written ih =>
      have first := valid w List.mem_cons_self
      have others := ih fun v later => valid v (List.mem_cons_of_mem w later)
      rw [List.flatMap_cons, entriesOf_append_of_size (Entry.length_encode first w.2),
        entryOf?_encode first w.2, others]
      rfl

/-- An event with something in its unused word, and then one without a time and four octets. -/
theorem entriesOf_stretches_event :
    let event : Entry := .event ⟨1700000000, 17, 0x83, 2130012345, 10001, 0, 4, 0x1234, 3,
      1699999940, 0x00462F00, 7, 6⟩
    let octets := event.encode 0xDEADBEEF
    event.Valid .userEvents ∧ Kind.userEvents.entryLength ∣ octets.length ∧
      entriesOf .userEvents octets = [event] ∧
      entriesOf .userEvents (octets ++ List.replicate 52 0) = [event] := by
  intro event octets
  have valid : event.Valid .userEvents := ⟨rfl, by decide⟩
  have whole : Kind.userEvents.entryLength ∣ octets.length :=
    ⟨1, by rw [Entry.length_encode valid, Nat.mul_one]⟩
  obtain ⟨-, reads, joins⟩ := entriesOf_stretches .userEvents
  have decoded : entriesOf .userEvents octets = [event] :=
    reads [(event, 0xDEADBEEF)] (List.forall_mem_singleton.mpr valid)
  have void : entriesOf .userEvents (List.replicate 52 0) = [] := by decide +kernel
  exact ⟨valid, whole, decoded, by rw [joins octets _ whole, decoded, void]; rfl⟩

end SolarTelemetry.Archive
