import SolarTelemetry.Proofs.Json.RoundTrip
import SolarTelemetry.Proofs.Polling

/-!
# What an entry says

Every quantity of the readings has a place of its own in the data of an entry, a path of names and
positions. Whoever reads the data finds it there, and finds a null if it is absent.
-/

namespace SolarTelemetry

namespace Json

/-- A step into a value. -/
inductive Key where
  | name (s : String)
  | place (i : Nat)

/-- What stands at the end of a path. -/
def Value.at? : Value → List Key → Option Value
  | v, [] => some v
  | .object members, .name s :: path => (members.find? (·.1 == s)).bind (·.2.at? path)
  | .list items, .place i :: path => items[i]?.bind (·.at? path)
  | _, _ => none

/-- The end of a path says this, or it is a null if there is nothing to say. -/
def Says (j : Json) (path : List Key) (said : Option Json) : Prop :=
  j.value.at? path = some (said.elim .null value)

section

variable {path : List Key} {said : Option Json} {j : Json}

theorem says_ofOption {α : Type} (f : α → Json) (o : Option α) :
    (ofOption f o).Says [] (o.map f) := by
  cases o <;> rfl

theorem find?_of_nodup {α : Type} {members : List (String × α)} {name : String} {a : α}
    (distinct : (members.map Prod.fst).Nodup) (member : (name, a) ∈ members) :
    members.find? (·.1 == name) = some (name, a) := by
  induction members with
  | nil => cases member
  | cons first others ih =>
    rw [List.map_cons, List.nodup_cons] at distinct
    rcases List.mem_cons.mp member with rfl | later
    · rw [List.find?_cons_of_pos (by simp)]
    · have other : first.1 ≠ name := by
        rintro rfl
        exact distinct.1 (List.mem_map.mpr ⟨_, later, rfl⟩)
      rw [List.find?_cons_of_neg (by simpa using other), ih distinct.2 later]

/-- The fields of an object are found by their names, in whatever order they are. -/
theorem says_record {fields : List (String × Json)} {name : String}
    (distinct : (fields.map Prod.fst).Nodup) (member : (name, j) ∈ fields)
    (inside : j.Says path said) : (record fields).Says (.name name :: path) said := by
  have sorted := fields.mergeSort_perm fun a b => decide (a.1 ≤ b.1)
  have kept : ((members (fields.mergeSort fun a b => decide (a.1 ≤ b.1))).map Prod.fst).Nodup := by
    rw [members_eq_map, List.map_map]
    exact (sorted.map Prod.fst).nodup_iff.mpr distinct
  have written : (name, j.value) ∈ members (fields.mergeSort fun a b => decide (a.1 ≤ b.1)) := by
    rw [members_eq_map]
    exact List.mem_map_of_mem (sorted.mem_iff.mpr member)
  rw [Says, record, value, Value.at?, find?_of_nodup kept written]
  exact inside

theorem says_list {items : List Json} {i : Nat} (item : items[i]? = some j)
    (inside : j.Says path said) : (list items).Says (.place i :: path) said := by
  have found : (values items)[i]? = some j.value := by
    rw [values_eq_map, List.getElem?_map, item, Option.map_some]
  rw [Says, value, Value.at?, found]
  exact inside

theorem says_phases {α : Type} (f : α → Json) (phases : Vector (Option α) 3) (phase : Fin 3) :
    (list (phases.toList.map (ofOption f))).Says [.place phase] ((phases.get phase).map f) :=
  says_list (by simp [Vector.get]) (says_ofOption f (phases.get phase))

end

end Json

namespace Poller.Entry

open Json (Key)

/-- Where the quantities of an entry stand in its data. -/
def fields : Entry → List (List Key × Option Json)
  | info _ r =>
    [([.name "name"], r.name.map .text),
      ([.name "device_class"], r.deviceClass.map .nat),
      ([.name "device_type"], r.deviceType.map .nat),
      ([.name "firmware"], r.firmware.map fun v => .text v.text)]
  | ac _ r =>
    [([.name "total_power"], r.totalPower.map .integer),
      ([.name "frequency"], r.frequency.map .decimal)] ++
    (List.finRange 3).flatMap fun phase =>
      [([.name "phase_power", .place phase], (r.phasePower.get phase).map .integer),
        ([.name "phase_voltage", .place phase], (r.phaseVoltage.get phase).map .decimal),
        ([.name "phase_current", .place phase], (r.phaseCurrent.get phase).map .decimal)]
  | dc _ r =>
    (r.trackers.zipIdx).flatMap fun (t, i) =>
      [([.name "trackers", .place i, .name "power"], t.power.map .integer),
        ([.name "trackers", .place i, .name "voltage"], t.voltage.map .decimal),
        ([.name "trackers", .place i, .name "current"], t.current.map .decimal)]
  | statistics _ r =>
    [([.name "total_yield"], r.totalYield.map .nat),
      ([.name "day_yield"], r.dayYield.map .nat),
      ([.name "operation_time"], r.operationTime.map .nat),
      ([.name "feed_in_time"], r.feedInTime.map .nat)]
  | status _ r =>
    [([.name "device_status"], r.deviceStatus.map DeviceStatus.toJson),
      ([.name "grid_relay"], r.gridRelay.map GridRelay.toJson)]
  | dailyYields _ yields =>
    yields.zipIdx.flatMap fun (y, i) =>
      [([.place i, .name "time"], some (.nat y.time.toNat)),
        ([.place i, .name "energy"], some (.integer y.energy))]

theorem says_fields (e : Entry) : ∀ field ∈ e.fields, e.data.Says field.1 field.2 := by
  cases e with
  | info _ r =>
    simp only [fields, List.forall_mem_cons]
    refine ⟨?_, ?_, ?_, ?_, by simp⟩
    all_goals exact Json.says_record (by simp) (by simp) (Json.says_ofOption _ _)
  | ac _ r =>
    simp only [fields, List.forall_mem_append, List.forall_mem_cons, List.forall_mem_flatMap]
    refine ⟨⟨?_, ?_, by simp⟩, fun phase _ => ⟨?_, ?_, ?_, by simp⟩⟩
    · exact Json.says_record (by simp) (by simp) (Json.says_ofOption _ _)
    · exact Json.says_record (by simp) (by simp) (Json.says_ofOption _ _)
    all_goals exact Json.says_record (by simp) (by simp) (Json.says_phases _ _ phase)
  | dc _ r =>
    simp only [fields, List.forall_mem_cons, List.forall_mem_flatMap]
    rintro ⟨t, i⟩ member
    have item : (r.trackers.map Tracker.toJson)[i]? = some t.toJson := by
      rw [List.getElem?_map, List.mem_zipIdx_iff_getElem?.mp member, Option.map_some]
    refine ⟨?_, ?_, ?_, by simp⟩
    all_goals
      refine Json.says_record (by simp) (by simp) (Json.says_list item ?_)
      exact Json.says_record (by simp) (by simp) (Json.says_ofOption _ _)
  | statistics _ r =>
    simp only [fields, List.forall_mem_cons]
    refine ⟨?_, ?_, ?_, ?_, by simp⟩
    all_goals exact Json.says_record (by simp) (by simp) (Json.says_ofOption _ _)
  | status _ r =>
    simp only [fields, List.forall_mem_cons]
    refine ⟨?_, ?_, by simp⟩
    all_goals exact Json.says_record (by simp) (by simp) (Json.says_ofOption _ _)
  | dailyYields _ yields =>
    simp only [fields, List.forall_mem_cons, List.forall_mem_flatMap]
    rintro ⟨y, i⟩ member
    have item : (yields.map (·.toJson))[i]? = some y.toJson := by
      rw [List.getElem?_map, List.mem_zipIdx_iff_getElem?.mp member, Option.map_some]
    refine ⟨?_, ?_, by simp⟩
    all_goals exact Json.says_list item (Json.says_record (by simp) (by simp) rfl)

end Poller.Entry

end SolarTelemetry
