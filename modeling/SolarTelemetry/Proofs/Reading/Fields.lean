import Mathlib.Data.List.Induction
import SolarTelemetry.Proofs.Reading.Values
import SolarTelemetry.Proofs.Record.Layout
import SolarTelemetry.Reading.Info
import SolarTelemetry.Reading.Power
import SolarTelemetry.Reading.Statistics
import SolarTelemetry.Reading.Status

/-!
# Which record a field is read from

Every field of the readings has a layout and an index, and one of a tracker a source, too. Of all
records that have these the last one counts, also where it is void; no other record has any part in
the field. So only the order among the records of one field matters.
-/

namespace SolarTelemetry

open Record

namespace DcReadings

def tracker (r : DcReadings) : Fin 2 → Tracker
  | 0 => r.first
  | 1 => r.second

end DcReadings

/-- The fields of all readings. -/
inductive Field where
  | acTotalPower
  | acPhasePower (phase : Fin 3)
  | acPhaseVoltage (phase : Fin 3)
  | acPhaseCurrent (phase : Fin 3)
  | acFrequency
  | dcPower (tracker : Fin 2)
  | dcVoltage (tracker : Fin 2)
  | dcCurrent (tracker : Fin 2)
  | totalYield
  | dayYield
  | operationTime
  | feedInTime
  | deviceStatus
  | gridRelay
  | name
  | deviceClass
  | deviceType
  | firmware

namespace Field

def layout : Field → Layout
  | acTotalPower | acPhasePower _ | acPhaseVoltage _ | acPhaseCurrent _ | acFrequency
  | dcPower _ | dcVoltage _ | dcCurrent _ => .spot
  | totalYield | dayYield | operationTime | feedInTime => .counter
  | deviceStatus | gridRelay | name | deviceClass | deviceType | firmware => .block

def index : Field → UInt16
  | acTotalPower => 0x263F
  | acPhasePower phase => [0x4640, 0x4641, 0x4642].get phase
  | acPhaseVoltage phase => [0x4648, 0x4649, 0x464A].get phase
  | acPhaseCurrent phase => [0x4653, 0x4654, 0x4655].get phase
  | acFrequency => 0x4657
  | dcPower _ => 0x251E
  | dcVoltage _ => 0x451F
  | dcCurrent _ => 0x4521
  | totalYield => 0x2601
  | dayYield => 0x2622
  | operationTime => 0x462E
  | feedInTime => 0x462F
  | deviceStatus => 0x2148
  | gridRelay => 0x4164
  | name => 0x821E
  | deviceClass => 0x821F
  | deviceType => 0x8220
  | firmware => 0x8234

/-- The source that a record of the field has to name: a tracker, counted from one. -/
def source? : Field → Option UInt8
  | dcPower tracker | dcVoltage tracker | dcCurrent tracker => some ([1, 2].get tracker)
  | _ => none

def Value : Field → Type
  | acTotalPower | acPhasePower _ | dcPower _ => Int
  | acPhaseVoltage _ | acPhaseCurrent _ | acFrequency | dcVoltage _ | dcCurrent _ => Decimal
  | totalYield | dayYield | operationTime | feedInTime | deviceClass | deviceType => Nat
  | deviceStatus => DeviceStatus
  | gridRelay => GridRelay
  | name => String
  | firmware => Firmware

/-- What the readings made of records say in the field. -/
def read (records : List Record) : (f : Field) → Option f.Value
  | acTotalPower => (AcReadings.ofRecords records).totalPower
  | acPhasePower phase => (AcReadings.ofRecords records).phasePower.get phase
  | acPhaseVoltage phase => (AcReadings.ofRecords records).phaseVoltage.get phase
  | acPhaseCurrent phase => (AcReadings.ofRecords records).phaseCurrent.get phase
  | acFrequency => (AcReadings.ofRecords records).frequency
  | dcPower tracker => ((DcReadings.ofRecords records).tracker tracker).power
  | dcVoltage tracker => ((DcReadings.ofRecords records).tracker tracker).voltage
  | dcCurrent tracker => ((DcReadings.ofRecords records).tracker tracker).current
  | totalYield => (Statistics.ofRecords records).totalYield
  | dayYield => (Statistics.ofRecords records).dayYield
  | operationTime => (Statistics.ofRecords records).operationTime
  | feedInTime => (Statistics.ofRecords records).feedInTime
  | deviceStatus => (Status.ofRecords records).deviceStatus
  | gridRelay => (Status.ofRecords records).gridRelay
  | name => (DeviceInfo.ofRecords records).name
  | deviceClass => (DeviceInfo.ofRecords records).deviceClass
  | deviceType => (DeviceInfo.ofRecords records).deviceType
  | firmware => (DeviceInfo.ofRecords records).firmware

/-- The record has the layout, the index and, for a tracker, the source of the field. -/
def IsFedBy (f : Field) (record : Record) : Prop :=
  record.layout = f.layout ∧ record.header.index = f.index ∧
    (f.source? = none ∨ f.source? = some record.header.source)

instance : DecidableRel IsFedBy := fun _ _ => inferInstanceAs (Decidable (_ ∧ _))

/-- The records of the field, in order. -/
def feeding (f : Field) (records : List Record) : List Record := records.filter (f.IsFedBy ·)

/-- What one record says in the field. -/
def valueOf : (f : Field) → Record → Option f.Value
  | acTotalPower | acPhasePower _ | dcPower _ => fun record => record.spot?.bind (·.reading)
  | acPhaseVoltage _ | acFrequency | dcVoltage _ => fun record =>
    (record.spot?.bind (·.reading)).map .hundredths
  | acPhaseCurrent _ | dcCurrent _ => fun record =>
    (record.spot?.bind (·.reading)).map .thousandths
  | totalYield | dayYield | operationTime | feedInTime => fun record =>
    record.counterRecord?.bind (·.reading)
  | deviceStatus => fun record => (record.block?.bind (·.selected)).map .ofAttribute
  | gridRelay => fun record => (record.block?.bind (·.selected)).map .ofAttribute
  | deviceClass | deviceType => fun record => record.block?.bind (·.selected)
  | name => fun record => record.block?.bind (·.text)
  | firmware => fun record =>
    record.block?.bind fun b => Firmware.ofOctets? (b.data.drop DeviceInfo.firmwareOffset)

/-- The record stands for the lack of a value in the field: a number by its mark, attributes by
none selected, a text by blanks, and a version by octets that are not there. -/
def IsVoid : Field → Record → Prop
  | _, .spot s => s.IsVoid
  | _, .counter c => c.IsVoid
  | name, .block b => b.IsBlank
  | firmware, .block b => b.data.length < 20
  | _, .block b => b.SelectsNothing

end Field

/-! ## What a record is noted in -/

section Noting

/-- The entries of three phases after a value has been noted for those that an index names. -/
def notedAt {α : Type} (indices : Vector UInt16 3) (index : UInt16) (value : α)
    (old : Vector α 3) : Vector α 3 :=
  .ofFn fun phase => if index = indices.get phase then value else old.get phase

variable {α : Type} {indices : Vector UInt16 3} {index : UInt16} {value : α} {old : Vector α 3}

theorem get_notedAt (phase : Fin 3) :
    (notedAt indices index value old).get phase =
      if index = indices.get phase then value else old.get phase :=
  Vector.getElem_ofFn phase.isLt

theorem notedAt_of_ne (indices : Vector UInt16 3)
    (other : ∀ phase : Fin 3, index ≠ indices.get phase) :
    notedAt indices index value old = old := by
  refine Vector.ext fun i within => ?_
  exact (get_notedAt ⟨i, within⟩).trans (if_neg (other ⟨i, within⟩))

theorem finIdxOf?_eq_some {phase : Fin 3} (found : indices.finIdxOf? index = some phase) :
    index = indices.get phase := by
  rw [Vector.finIdxOf?, Option.map_eq_some_iff] at found
  obtain ⟨place, found, rfl⟩ := found
  exact (Array.finIdxOf?_eq_some_iff.mp found).1.symm

theorem ne_of_finIdxOf?_ne (absent : ∀ phase, indices.finIdxOf? index ≠ some phase)
    (phase : Fin 3) : index ≠ indices.get phase := by
  have missing := Option.eq_none_iff_forall_ne_some.mpr absent
  rw [Vector.finIdxOf?, Option.map_eq_none_iff, Array.finIdxOf?_eq_none_iff] at missing
  rintro rfl
  exact missing (Vector.getElem_mem phase.isLt).val

theorem set_of_finIdxOf? (distinct : ∀ p q : Fin 3, indices.get p = indices.get q → p = q)
    {phase : Fin 3} (found : indices.finIdxOf? index = some phase) :
    old.set phase value phase.isLt = notedAt indices index value old := by
  refine Vector.ext fun i within => ?_
  refine Eq.trans ?_ (get_notedAt ⟨i, within⟩).symm
  rw [Vector.getElem_set, finIdxOf?_eq_some found]
  by_cases here : phase = ⟨i, within⟩
  · rw [if_pos (congrArg Fin.val here), if_pos (congrArg indices.get here)]
  · rw [if_neg fun same => here (Fin.ext same), if_neg fun same => here (distinct _ _ same)]
    rfl

end Noting

/-- A record is noted in the one field that its index names. -/
theorem AcReadings.note_eq (r : AcReadings) (s : Spot) :
    r.note s =
      { totalPower := if s.header.index = totalPowerIndex then s.reading else r.totalPower
        phasePower := notedAt phasePowerIndices s.header.index s.reading r.phasePower
        phaseVoltage := notedAt phaseVoltageIndices s.header.index (s.reading.map .hundredths)
          r.phaseVoltage
        phaseCurrent := notedAt phaseCurrentIndices s.header.index (s.reading.map .thousandths)
          r.phaseCurrent
        frequency := if s.header.index = frequencyIndex then s.reading.map .hundredths
          else r.frequency } := by
  unfold note
  generalize s.header.index = index
  dsimp only
  split
  · next total =>
    subst total
    rw [if_neg (by decide), notedAt_of_ne _ (by decide), notedAt_of_ne _ (by decide),
      notedAt_of_ne _ (by decide)]
  split
  · next frequency =>
    subst frequency
    rw [notedAt_of_ne _ (by decide), notedAt_of_ne _ (by decide), notedAt_of_ne _ (by decide)]
  split
  · next phase found =>
    rw [set_of_finIdxOf? (by decide) found]
    obtain rfl := finIdxOf?_eq_some found
    rw [notedAt_of_ne phaseVoltageIndices (by clear * -; revert phase; decide),
      notedAt_of_ne phaseCurrentIndices (by clear * -; revert phase; decide)]
  next power =>
  rw [notedAt_of_ne _ (ne_of_finIdxOf?_ne power)]
  split
  · next phase found =>
    rw [set_of_finIdxOf? (by decide) found]
    obtain rfl := finIdxOf?_eq_some found
    rw [notedAt_of_ne phaseCurrentIndices (by clear * -; revert phase; decide)]
  next voltage =>
  rw [notedAt_of_ne _ (ne_of_finIdxOf?_ne voltage)]
  split
  · next phase found => rw [set_of_finIdxOf? (by decide) found]
  next current => rw [notedAt_of_ne _ (ne_of_finIdxOf?_ne current)]

theorem Tracker.note_eq (t : Tracker) (s : Spot) :
    t.note s =
      { power := if s.header.index = powerIndex then s.reading else t.power
        voltage := if s.header.index = voltageIndex then s.reading.map .hundredths else t.voltage
        current := if s.header.index = currentIndex then s.reading.map .thousandths
          else t.current } := by
  unfold note
  generalize s.header.index = index
  dsimp only
  split
  · next power => subst power; rfl
  split
  · next voltage => subst voltage; rfl
  split
  · rfl
  · rfl

theorem DcReadings.tracker_note (r : DcReadings) (s : Spot) (tracker : Fin 2) :
    (r.note s).tracker tracker =
      if s.header.source = [1, 2].get tracker then (r.tracker tracker).note s
      else r.tracker tracker := by
  unfold note
  generalize s.header.source = source
  split
  · next first => subst first; match tracker with | 0 | 1 => rfl
  split
  · next second => subst second; match tracker with | 0 | 1 => rfl
  · next first second =>
    match tracker with
    | 0 => exact (if_neg first).symm
    | 1 => exact (if_neg second).symm

theorem Statistics.note_eq (r : Statistics) (c : Counter) :
    r.note c =
      { totalYield := if c.header.index = totalYieldIndex then c.reading else r.totalYield
        dayYield := if c.header.index = dayYieldIndex then c.reading else r.dayYield
        operationTime := if c.header.index = operationTimeIndex then c.reading
          else r.operationTime
        feedInTime := if c.header.index = feedInTimeIndex then c.reading else r.feedInTime } := by
  unfold note
  generalize c.header.index = index
  dsimp only
  split
  · next total => subst total; rfl
  split
  · next day => subst day; rfl
  split
  · next operation => subst operation; rfl
  split
  · rfl
  · rfl

theorem Status.note_eq (r : Status) (b : Block) :
    r.note b =
      { deviceStatus := if b.header.index = deviceStatusIndex then b.selected.map .ofAttribute
          else r.deviceStatus
        gridRelay := if b.header.index = gridRelayIndex then b.selected.map .ofAttribute
          else r.gridRelay } := by
  unfold note
  generalize b.header.index = index
  dsimp only
  split
  · next device => subst device; rfl
  split
  · rfl
  · rfl

theorem DeviceInfo.note_eq (r : DeviceInfo) (b : Block) :
    r.note b =
      { name := if b.header.index = nameIndex then b.text else r.name
        deviceClass := if b.header.index = classIndex then b.selected else r.deviceClass
        deviceType := if b.header.index = typeIndex then b.selected else r.deviceType
        firmware := if b.header.index = firmwareIndex then
          Firmware.ofOctets? (b.data.drop firmwareOffset) else r.firmware } := by
  unfold note
  generalize b.header.index = index
  dsimp only
  split
  · next name => subst name; rfl
  split
  · next deviceClass => subst deviceClass; rfl
  split
  · next deviceType => subst deviceType; rfl
  split
  · rfl
  · rfl

/-! ## The last record of a field -/

/-- The records of one layout are picked from all records. -/
structure Record.Picks {σ : Type} (layout : Layout) (embed : σ → Record)
    (select : Record → Option σ) : Prop where
  select_embed : ∀ s, select (embed s) = some s
  eq_embed : ∀ {record s}, select record = some s → record = embed s
  exists_embed : ∀ {record : Record}, record.layout = layout → ∃ s, record = embed s

theorem Record.picks_spot : Picks .spot .spot spot? where
  select_embed _ := rfl
  eq_embed {record _} chosen := by cases record <;> cases chosen; rfl
  exists_embed {record} same := by cases record <;> cases same; exact ⟨_, rfl⟩

theorem Record.picks_counter : Picks .counter .counter counterRecord? where
  select_embed _ := rfl
  eq_embed {record _} chosen := by cases record <;> cases chosen; rfl
  exists_embed {record} same := by cases record <;> cases same; exact ⟨_, rfl⟩

theorem Record.picks_block : Picks .block .block block? where
  select_embed _ := rfl
  eq_embed {record _} chosen := by cases record <;> cases chosen; rfl
  exists_embed {record} same := by cases record <;> cases same; exact ⟨_, rfl⟩

namespace Field

/-- Where every record of a field is noted in it, and no other, the last one counts. -/
theorem get_foldl (f : Field) {ρ σ : Type} {embed : σ → Record} {select : Record → Option σ}
    (picks : Picks f.layout embed select) {note : ρ → σ → ρ} (get : ρ → Option f.Value)
    (step : ∀ r s, get (note r s) =
      if f.IsFedBy (embed s) then f.valueOf (embed s) else get r)
    {init : ρ} (empty : get init = none) (records : List Record) :
    get ((records.filterMap select).foldl note init) =
      (f.feeding records).getLast?.bind f.valueOf := by
  induction records using List.reverseRecOn with
  | nil => exact empty
  | append_singleton records record ih =>
    unfold feeding at ih ⊢
    rw [List.filterMap_append, List.foldl_append, List.filter_append]
    cases chosen : select record with
    | none =>
      have apart : ¬f.IsFedBy record := by
        intro fed
        obtain ⟨s, rfl⟩ := picks.exists_embed fed.1
        rw [picks.select_embed] at chosen
        cases chosen
      simp [chosen, apart, ih]
    | some s =>
      obtain rfl := picks.eq_embed chosen
      have noted := step ((records.filterMap select).foldl note init) s
      by_cases fed : f.IsFedBy (embed s)
      · rw [if_pos fed] at noted
        simp [chosen, fed, noted]
      · rw [if_neg fed, ih] at noted
        simp [chosen, fed, noted]

/-- Without a source, layout and index tell the records of a field. -/
theorem get_foldl_of_index (f : Field) {ρ σ : Type} {embed : σ → Record}
    {select : Record → Option σ} (picks : Picks f.layout embed select)
    (layout : ∀ s, (embed s).layout = f.layout) (anywhere : f.source? = none)
    {note : ρ → σ → ρ} (get : ρ → Option f.Value)
    (step : ∀ r s, get (note r s) =
      if (embed s).header.index = f.index then f.valueOf (embed s) else get r)
    {init : ρ} (empty : get init = none) (records : List Record) :
    get ((records.filterMap select).foldl note init) =
      (f.feeding records).getLast?.bind f.valueOf := by
  refine get_foldl f picks get (fun r s => (step r s).trans ?_) empty records
  exact if_congr ⟨fun index => ⟨layout s, index, .inl anywhere⟩, fun fed => fed.2.1⟩ rfl rfl

/-- Each phase has an index of its own. -/
theorem get_foldl_of_phase (f : Field) (phase : Fin 3) (layout : f.layout = .spot)
    (anywhere : f.source? = none) {indices : Vector UInt16 3}
    (index : f.index = indices.get phase) (get : AcReadings → Vector (Option f.Value) 3)
    (step : ∀ r s, get (AcReadings.note r s) =
      notedAt indices s.header.index (f.valueOf (.spot s)) (get r))
    (empty : get {} = .replicate 3 none) (records : List Record) :
    (get (AcReadings.ofRecords records)).get phase =
      (f.feeding records).getLast?.bind f.valueOf := by
  have blank : (get {}).get phase = none := by
    rw [empty]
    exact Vector.getElem_replicate phase.isLt
  have picks : Picks f.layout .spot spot? := layout ▸ picks_spot
  refine get_foldl_of_index f picks (fun _ => layout.symm) anywhere
    (fun r : AcReadings => (get r).get phase) (fun r s => ?_) blank records
  rw [step, get_notedAt, index]
  rfl

/-- Each tracker notes the records of its own source. -/
theorem get_foldl_of_tracker (f : Field) (tracker : Fin 2) (layout : f.layout = .spot)
    (tied : f.source? = some ([1, 2].get tracker)) (get : Tracker → Option f.Value)
    (step : ∀ t s, get (Tracker.note t s) =
      if s.header.index = f.index then f.valueOf (.spot s) else get t)
    (empty : get {} = none) (records : List Record) :
    get ((DcReadings.ofRecords records).tracker tracker) =
      (f.feeding records).getLast?.bind f.valueOf := by
  have blank : get (({} : DcReadings).tracker tracker) = none := by
    match tracker with
    | 0 | 1 => exact empty
  refine get_foldl f (layout ▸ picks_spot) (fun r : DcReadings => get (r.tracker tracker))
    (fun r s => ?_) blank records
  rw [DcReadings.tracker_note, apply_ite get, step, ← ite_and]
  refine if_congr ⟨fun both => ⟨layout.symm, both.2, .inr ?_⟩, fun fed => ⟨?_, fed.2.1⟩⟩ rfl rfl
  · exact tied.trans (congrArg some both.1.symm)
  · rcases fed.2.2 with none | same
    · cases tied.symm.trans none
    · exact Option.some.inj (same.symm.trans tied)

/-- A field is read from the last record that feeds it. -/
theorem read_eq (f : Field) (records : List Record) :
    f.read records = (f.feeding records).getLast?.bind f.valueOf := by
  cases f with
  | acTotalPower =>
    exact get_foldl_of_index acTotalPower picks_spot (fun _ => rfl) rfl AcReadings.totalPower
      (fun r s => congrArg AcReadings.totalPower (r.note_eq s)) rfl records
  | acFrequency =>
    exact get_foldl_of_index acFrequency picks_spot (fun _ => rfl) rfl AcReadings.frequency
      (fun r s => congrArg AcReadings.frequency (r.note_eq s)) rfl records
  | acPhasePower phase =>
    exact get_foldl_of_phase (acPhasePower phase) phase rfl rfl rfl AcReadings.phasePower
      (fun r s => congrArg AcReadings.phasePower (r.note_eq s)) rfl records
  | acPhaseVoltage phase =>
    exact get_foldl_of_phase (acPhaseVoltage phase) phase rfl rfl rfl AcReadings.phaseVoltage
      (fun r s => congrArg AcReadings.phaseVoltage (r.note_eq s)) rfl records
  | acPhaseCurrent phase =>
    exact get_foldl_of_phase (acPhaseCurrent phase) phase rfl rfl rfl AcReadings.phaseCurrent
      (fun r s => congrArg AcReadings.phaseCurrent (r.note_eq s)) rfl records
  | dcPower tracker =>
    exact get_foldl_of_tracker (dcPower tracker) tracker rfl rfl Tracker.power
      (fun t s => congrArg Tracker.power (t.note_eq s)) rfl records
  | dcVoltage tracker =>
    exact get_foldl_of_tracker (dcVoltage tracker) tracker rfl rfl Tracker.voltage
      (fun t s => congrArg Tracker.voltage (t.note_eq s)) rfl records
  | dcCurrent tracker =>
    exact get_foldl_of_tracker (dcCurrent tracker) tracker rfl rfl Tracker.current
      (fun t s => congrArg Tracker.current (t.note_eq s)) rfl records
  | totalYield =>
    exact get_foldl_of_index totalYield picks_counter (fun _ => rfl) rfl Statistics.totalYield
      (fun r c => congrArg Statistics.totalYield (r.note_eq c)) rfl records
  | dayYield =>
    exact get_foldl_of_index dayYield picks_counter (fun _ => rfl) rfl Statistics.dayYield
      (fun r c => congrArg Statistics.dayYield (r.note_eq c)) rfl records
  | operationTime =>
    exact get_foldl_of_index operationTime picks_counter (fun _ => rfl) rfl
      Statistics.operationTime (fun r c => congrArg Statistics.operationTime (r.note_eq c)) rfl
      records
  | feedInTime =>
    exact get_foldl_of_index feedInTime picks_counter (fun _ => rfl) rfl Statistics.feedInTime
      (fun r c => congrArg Statistics.feedInTime (r.note_eq c)) rfl records
  | deviceStatus =>
    exact get_foldl_of_index deviceStatus picks_block (fun _ => rfl) rfl Status.deviceStatus
      (fun r b => congrArg Status.deviceStatus (r.note_eq b)) rfl records
  | gridRelay =>
    exact get_foldl_of_index gridRelay picks_block (fun _ => rfl) rfl Status.gridRelay
      (fun r b => congrArg Status.gridRelay (r.note_eq b)) rfl records
  | name =>
    exact get_foldl_of_index name picks_block (fun _ => rfl) rfl DeviceInfo.name
      (fun r b => congrArg DeviceInfo.name (r.note_eq b)) rfl records
  | deviceClass =>
    exact get_foldl_of_index deviceClass picks_block (fun _ => rfl) rfl DeviceInfo.deviceClass
      (fun r b => congrArg DeviceInfo.deviceClass (r.note_eq b)) rfl records
  | deviceType =>
    exact get_foldl_of_index deviceType picks_block (fun _ => rfl) rfl DeviceInfo.deviceType
      (fun r b => congrArg DeviceInfo.deviceType (r.note_eq b)) rfl records
  | firmware =>
    exact get_foldl_of_index firmware picks_block (fun _ => rfl) rfl DeviceInfo.firmware
      (fun r b => congrArg DeviceInfo.firmware (r.note_eq b)) rfl records

/-- A record of a field says nothing in it just if it is void. -/
theorem valueOf_eq_none_iff {f : Field} {record : Record} (fed : f.IsFedBy record) :
    f.valueOf record = none ↔ f.IsVoid record := by
  cases f with
  | acTotalPower | acPhasePower _ | dcPower _ =>
    obtain ⟨s, rfl⟩ := picks_spot.exists_embed fed.1
    exact Spot.reading_eq_none_iff
  | acPhaseVoltage _ | acPhaseCurrent _ | acFrequency | dcVoltage _ | dcCurrent _ =>
    obtain ⟨s, rfl⟩ := picks_spot.exists_embed fed.1
    exact Option.map_eq_none_iff.trans Spot.reading_eq_none_iff
  | totalYield | dayYield | operationTime | feedInTime =>
    obtain ⟨c, rfl⟩ := picks_counter.exists_embed fed.1
    exact Counter.reading_eq_none_iff
  | deviceStatus | gridRelay =>
    obtain ⟨b, rfl⟩ := picks_block.exists_embed fed.1
    exact Option.map_eq_none_iff.trans Block.selected_eq_none_iff
  | deviceClass | deviceType =>
    obtain ⟨b, rfl⟩ := picks_block.exists_embed fed.1
    exact Block.selected_eq_none_iff
  | name =>
    obtain ⟨b, rfl⟩ := picks_block.exists_embed fed.1
    exact Block.text_eq_none_iff
  | firmware =>
    obtain ⟨b, rfl⟩ := picks_block.exists_embed fed.1
    exact Firmware.ofOctets?_drop_eq_none_iff

/-- No record of another field has any part in a field. -/
theorem read_congr {f : Field} {records others : List Record}
    (same : f.feeding others = f.feeding records) : f.read others = f.read records := by
  rw [read_eq, read_eq, same]

/-- Two neighbours that feed no field together can change places. -/
theorem feeding_exchange {r s : Record} {f : Field} (apart : ¬(f.IsFedBy r ∧ f.IsFedBy s))
    (before after : List Record) :
    f.feeding (before ++ s :: r :: after) = f.feeding (before ++ r :: s :: after) := by
  unfold feeding
  rw [List.filter_append, List.filter_append]
  by_cases first : f.IsFedBy r
  · have second : ¬f.IsFedBy s := fun fed => apart ⟨first, fed⟩
    simp [first, second]
  · simp [List.filter_cons, first]

end Field

/-- All readings that are made of the records. -/
def SameReadings (records others : List Record) : Prop :=
  AcReadings.ofRecords records = AcReadings.ofRecords others ∧
    DcReadings.ofRecords records = DcReadings.ofRecords others ∧
    Statistics.ofRecords records = Statistics.ofRecords others ∧
    Status.ofRecords records = Status.ofRecords others ∧
    DeviceInfo.ofRecords records = DeviceInfo.ofRecords others

attribute [ext] AcReadings Tracker DcReadings Statistics Status DeviceInfo

/-- Readings that agree in every field are the same. -/
theorem sameReadings_of_read {records others : List Record}
    (same : ∀ f : Field, f.read records = f.read others) : SameReadings records others := by
  have tracker (n : Fin 2) : (DcReadings.ofRecords records).tracker n =
      (DcReadings.ofRecords others).tracker n :=
    Tracker.ext (same (.dcPower n)) (same (.dcVoltage n)) (same (.dcCurrent n))
  refine ⟨AcReadings.ext (same .acTotalPower) ?_ ?_ ?_ (same .acFrequency),
    DcReadings.ext (tracker 0) (tracker 1),
    Statistics.ext (same .totalYield) (same .dayYield) (same .operationTime) (same .feedInTime),
    Status.ext (same .deviceStatus) (same .gridRelay),
    DeviceInfo.ext (same .name) (same .deviceClass) (same .deviceType) (same .firmware)⟩
  · exact Vector.ext fun i within => same (.acPhasePower ⟨i, within⟩)
  · exact Vector.ext fun i within => same (.acPhaseVoltage ⟨i, within⟩)
  · exact Vector.ext fun i within => same (.acPhaseCurrent ⟨i, within⟩)

end SolarTelemetry
