import SolarTelemetry.Endpoint
import SolarTelemetry.Proofs.Config.Validation

/-!
# What is opened at an address

An address is checked without the blanks at its ends but opened with them. So a path with a blank
in front of it passes for the path of a device and is opened as a host and port; this is the only
way in which the two can differ, and nothing keeps such an address out of a configuration.
-/

namespace SolarTelemetry

namespace Endpoint

theorem ofAddress_of_isPath {address : String} (path : IsPath address.toList) :
    ofAddress address = .device address := by
  obtain ⟨rest, slash⟩ := path
  simp [ofAddress, slash]

theorem ofAddress_of_not_isPath {address : String} (other : ¬IsPath address.toList) :
    ofAddress address = .bridge address := by
  unfold ofAddress
  split
  · next rest slash => exact absurd ⟨rest, slash⟩ other
  · rfl

theorem ofAddress_eq_device_iff {address path : String} :
    ofAddress address = .device path ↔ path = address ∧ IsPath address.toList := by
  by_cases isPath : IsPath address.toList
  · simp [ofAddress_of_isPath isPath, isPath, eq_comm]
  · simp [ofAddress_of_not_isPath isPath, isPath]

theorem ofAddress_eq_bridge_iff {address other : String} :
    ofAddress address = .bridge other ↔ other = address ∧ ¬IsPath address.toList := by
  by_cases isPath : IsPath address.toList
  · simp [ofAddress_of_isPath isPath, isPath]
  · simp [ofAddress_of_not_isPath isPath, isPath, eq_comm]

theorem ofAddress_injective : Function.Injective ofAddress := by
  intro address other same
  by_cases isPath : IsPath other.toList
  · rw [ofAddress_of_isPath isPath, ofAddress_eq_device_iff] at same
    exact same.1.symm
  · rw [ofAddress_of_not_isPath isPath, ofAddress_eq_bridge_iff] at same
    exact same.1.symm

/-! ## Blanks in front -/

/-- A text begins with a blank. -/
def Indented (cs : List Char) : Prop := ∃ blank ∈ cs.head?, Text.isBlank blank

theorem not_isPath_of_indented {cs : List Char} (indented : Indented cs) : ¬IsPath cs := by
  rintro ⟨rest, rfl⟩
  obtain ⟨blank, first, isBlank⟩ := indented
  cases first
  exact absurd isBlank (by decide)

/-- A slash that is left in front was in front before, or else behind blanks. -/
theorem isPath_or_indented_of_trim {cs : List Char} (path : IsPath (Text.trim cs)) :
    IsPath cs ∨ Indented cs := by
  obtain ⟨front, back, whole, blank, -⟩ := Text.exists_around_trim cs
  obtain ⟨rest, slash⟩ := path
  rw [slash] at whole
  cases front with
  | nil => exact .inl ⟨rest ++ back, whole⟩
  | cons first more =>
    refine .inr ⟨first, ?_, blank first List.mem_cons_self⟩
    rw [whole]
    rfl

theorem isPath_trim {cs : List Char} (path : IsPath cs) : IsPath (Text.trim cs) := by
  obtain ⟨front, back, whole, before, behind⟩ := Text.exists_around_trim cs
  obtain ⟨rest, rfl⟩ := path
  have shown : ¬Text.isBlank '/' := by decide
  cases front with
  | cons first more =>
    obtain ⟨rfl, -⟩ := List.cons.inj whole
    exact absurd (before '/' List.mem_cons_self) shown
  | nil =>
    rw [List.nil_append] at whole
    cases trimmed : Text.trim ('/' :: rest) with
    | nil =>
      rw [trimmed, List.nil_append] at whole
      exact absurd (behind '/' (whole ▸ List.mem_cons_self)) shown
    | cons first more =>
      rw [trimmed] at whole
      cases whole
      exact ⟨more, rfl⟩

theorem isPath_iff_trim (cs : List Char) : IsPath cs ↔ IsPath (Text.trim cs) ∧ ¬Indented cs := by
  constructor
  · exact fun path => ⟨isPath_trim path, fun indented => not_isPath_of_indented indented path⟩
  · rintro ⟨path, flush⟩
    exact (isPath_or_indented_of_trim path).resolve_right flush

end Endpoint

/-! ## Configurations -/

/-- The same inverter with a blank in front of its address. -/
def Inverter.indented (blank : Char) (i : Inverter) : Inverter :=
  { i with address := String.ofList (blank :: i.address.toList) }

def Config.indented (blank : Char) (c : Config) : Config :=
  { c with inverters := c.inverters.map (·.indented blank) }

theorem Inverter.Sound.indented {i : Inverter} (sound : i.Sound) {blank : Char}
    (isBlank : Text.isBlank blank) : (i.indented blank).Sound where
  address := by simpa [Inverter.indented, Text.trim, isBlank] using sound.address
  password := sound.password
  devices := sound.devices
  timeout := sound.timeout

theorem Config.Sound.indented {c : Config} (sound : c.Sound) {blank : Char}
    (isBlank : Text.isBlank blank) : (c.indented blank).Sound where
  interval := sound.interval
  inverters := by
    intro i listed enabled
    obtain ⟨j, original, rfl⟩ := List.mem_map.mp listed
    exact (sound.inverters j original enabled).indented isBlank

namespace Endpoint

/-- A device is opened only at the path of one. The check and the opening differ just in paths with
a blank in front, which are opened as hosts and ports, and what is opened is what was checked just
if no blank stands at either end. With a blank in front of its addresses a configuration is accepted
as before, but no device of it is opened. -/
theorem ofAddress_accepted {text : String} {c : Config} (accepted : Config.ofText text = .ok c)
    {i : Inverter} (listed : i ∈ c.inverters) (enabled : i.enabled) :
    let cs := i.address.toList
    (∀ path, ofAddress i.address = .device path ↔
      path = i.address ∧ IsPath (Text.trim cs) ∧ ¬Indented cs) ∧
    (∀ address, ofAddress i.address = .bridge address ↔
      address = i.address ∧ (¬IsPath (Text.trim cs) ∧ IsHostAndPort (Text.trim cs) ∨
        IsPath (Text.trim cs) ∧ Indented cs)) ∧
    (ofAddress (String.ofList (Text.trim cs)) = ofAddress i.address ↔
      (∀ first ∈ cs.head?, ¬Text.isBlank first) ∧ ∀ last ∈ cs.getLast?, ¬Text.isBlank last) ∧
    ∀ blank, Text.isBlank blank → (c.indented blank).error? = none ∧
      ∀ j ∈ (c.indented blank).inverters, ofAddress j.address = .bridge j.address := by
  intro cs
  have sound : c.Sound := Config.error?_eq_none_iff.mp (Config.error?_of_ofText accepted)
  have named : Names (Text.trim cs) := (sound.inverters i listed enabled).address
  refine ⟨fun path => ?device, fun address => ?bridge, ?same, fun blank isBlank => ⟨?sound, ?none⟩⟩
  case device => rw [ofAddress_eq_device_iff, isPath_iff_trim]
  case bridge =>
    rw [ofAddress_eq_bridge_iff, isPath_iff_trim]
    have either : IsPath (Text.trim cs) ∨ IsHostAndPort (Text.trim cs) := named
    tauto
  case same =>
    rw [ofAddress_injective.eq_iff, ← Text.trim_eq_self_iff, String.ext_iff, String.toList_ofList]
  case sound => exact Config.error?_eq_none_iff.mpr (sound.indented isBlank)
  case none =>
    intro j listed
    obtain ⟨original, -, rfl⟩ := List.mem_map.mp listed
    apply ofAddress_of_not_isPath
    apply not_isPath_of_indented
    exact ⟨blank, by simp [Inverter.indented], isBlank⟩

/-- The path of a device, which is taken for a path and opened as a host and port. -/
theorem ofAddress_accepted_indented :
    let i : Inverter := { address := " /dev/rfcomm0" }
    let cs := i.address.toList
    Config.ofText "inverters:\n- address: ' /dev/rfcomm0'\n" = .ok { inverters := [i] } ∧
      IsPath (Text.trim cs) ∧ ofAddress i.address = .bridge " /dev/rfcomm0" ∧
      ¬((∃ path, ofAddress i.address = .device path) ↔ IsPath (Text.trim cs)) := by
  intro i cs
  have accepted : Config.ofText "inverters:\n- address: ' /dev/rfcomm0'\n" =
      .ok { inverters := [i] } := by decide +kernel
  have path : IsPath (Text.trim cs) := ⟨"dev/rfcomm0".toList, by decide +kernel⟩
  have indented : Indented cs := ⟨' ', by decide +kernel, by decide⟩
  obtain ⟨device, bridge, -⟩ := ofAddress_accepted accepted List.mem_cons_self rfl
  refine ⟨accepted, path, (bridge _).mpr ⟨rfl, .inr ⟨path, indented⟩⟩, fun agree => ?_⟩
  obtain ⟨opened, isDevice⟩ := agree.mpr path
  exact ((device opened).mp isDevice).2.2 indented

end Endpoint

end SolarTelemetry
