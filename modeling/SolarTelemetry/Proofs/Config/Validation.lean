import SolarTelemetry.Config.Document
import SolarTelemetry.Proofs.Config.Address
import SolarTelemetry.Proofs.Message.Password

/-!
# Which configurations are accepted

A configuration is accepted just if it keeps every rule, and otherwise the error tells the rule that
is broken first: that of the polls before any inverter, and of the inverters in use the first that
breaks one. A password may be as long as the octets that are sent for it, so every inverter in use
can be logged on to.
-/

namespace SolarTelemetry

namespace Inverter

open Endpoint

/-- What is asked of an inverter in use. -/
structure Sound (i : Inverter) : Prop where
  address : Names (Text.trim i.address.toList)
  password : i.password.utf8ByteSize ≤ 12
  devices : 1 ≤ i.deviceCount
  timeout : 1 ≤ i.readTimeout

/-- The rule that an inverter breaks first. -/
inductive Breaks (i : Inverter) : Fault → Prop where
  | address {fault : Fault} (wrong : Misnames (Text.trim i.address.toList) fault) : Breaks i fault
  | password (address : Names (Text.trim i.address.toList)) (long : 12 < i.password.utf8ByteSize) :
      Breaks i .longPassword
  | devices (address : Names (Text.trim i.address.toList)) (password : i.password.utf8ByteSize ≤ 12)
      (none : i.deviceCount = 0) : Breaks i .noDevices
  | timeout (address : Names (Text.trim i.address.toList)) (password : i.password.utf8ByteSize ≤ 12)
      (devices : 1 ≤ i.deviceCount) (none : i.readTimeout = 0) : Breaks i .noReadTimeout

variable {i : Inverter} {fault other : Fault}

theorem Breaks.not_sound (breaks : i.Breaks fault) : ¬i.Sound := by
  intro sound
  cases breaks with
  | address wrong => exact wrong.not_names sound.address
  | password _ long => exact absurd sound.password (Nat.not_le.mpr long)
  | devices _ _ none => exact absurd sound.devices (by omega)
  | timeout _ _ _ none => exact absurd sound.timeout (by omega)

theorem Breaks.unique (breaks : i.Breaks fault) (alike : i.Breaks other) : fault = other := by
  cases breaks with
  | address wrong =>
    cases alike with
    | address alike => exact wrong.unique alike
    | password address | devices address | timeout address => exact absurd address wrong.not_names
  | password address =>
    cases alike with
    | address wrong => exact absurd address wrong.not_names
    | password => rfl
    | devices | timeout => omega
  | devices address =>
    cases alike with
    | address wrong => exact absurd address wrong.not_names
    | password | timeout => omega
    | devices => rfl
  | timeout address =>
    cases alike with
    | address wrong => exact absurd address wrong.not_names
    | password | devices => omega
    | timeout => rfl

theorem fault?_sound (i : Inverter) : i.fault?.elim i.Sound i.Breaks := by
  unfold fault? maxPasswordLength
  cases checked : addressFault? i.address with
  | some fault => exact Breaks.address (addressFault?_eq_some_iff.mp checked)
  | none =>
    have address := addressFault?_eq_none_iff.mp checked
    split_ifs with long devices timeout
    · exact Breaks.password address long
    · exact Breaks.devices address (Nat.not_lt.mp long) devices
    · exact Breaks.timeout address (Nat.not_lt.mp long) (Nat.pos_of_ne_zero devices) timeout
    · exact Sound.mk address (Nat.not_lt.mp long) (Nat.pos_of_ne_zero devices)
        (Nat.pos_of_ne_zero timeout)

theorem fault?_eq_none_iff : i.fault? = none ↔ i.Sound :=
  (check_exact i.fault?_sound Breaks.not_sound Breaks.unique).1

theorem fault?_eq_some_iff : i.fault? = some fault ↔ i.Breaks fault :=
  (check_exact i.fault?_sound Breaks.not_sound Breaks.unique).2 fault

end Inverter

namespace Config

/-- What is asked of a configuration. -/
structure Sound (c : Config) : Prop where
  interval : 1 ≤ c.pollInterval
  inverters : ∀ i ∈ c.inverters, i.enabled → i.Sound

/-- The rule that a configuration breaks first. -/
inductive Breaks (c : Config) : ConfigError → Prop where
  | interval (none : c.pollInterval = 0) : Breaks c .noPollInterval
  | inverter {before after : List Inverter} {i : Inverter} {fault : Inverter.Fault}
      (interval : 1 ≤ c.pollInterval) (split : c.inverters = before ++ i :: after)
      (sound : ∀ earlier ∈ before, earlier.enabled → earlier.Sound) (enabled : i.enabled)
      (breaks : i.Breaks fault) : Breaks c (.inverter before.length fault)

variable {c : Config} {e : ConfigError}

theorem inverterError?_eq_none_iff {inverters : List Inverter} :
    inverterError? inverters.zipIdx = none ↔ ∀ i ∈ inverters, i.enabled → i.Sound := by
  simp only [inverterError?, List.findSome?_eq_none_iff, Prod.forall, ite_eq_right_iff,
    Option.map_eq_none_iff, Inverter.fault?_eq_none_iff, List.mem_zipIdx_iff_getElem?]
  simp only [List.mem_iff_getElem?, forall_exists_index]

/-- Before the inverter whose fault is reported there are as many as its index, and of these none
that is in use has a fault. -/
theorem inverterError?_eq_some_iff {inverters : List Inverter} :
    inverterError? inverters.zipIdx = some e ↔
      ∃ before i after fault, inverters = before ++ i :: after ∧
        (∀ earlier ∈ before, earlier.enabled → earlier.Sound) ∧ i.enabled ∧ i.Breaks fault ∧
        e = .inverter before.length fault := by
  constructor
  · intro found
    obtain ⟨before, ⟨i, index⟩, after, split, reported, passed⟩ :=
      List.findSome?_eq_some_iff.mp found
    obtain ⟨before, rest, rfl, rfl, last⟩ := List.zipIdx_eq_append_iff.mp split
    obtain ⟨j, after, rfl, same, -⟩ := List.zipIdx_eq_cons_iff.mp last.symm
    cases same
    have sound := inverterError?_eq_none_iff.mp (List.findSome?_eq_none_iff.mpr passed)
    obtain ⟨enabled, checked⟩ := Option.ite_none_right_eq_some.mp reported
    obtain ⟨fault, broken, rfl⟩ := Option.map_eq_some_iff.mp checked
    refine ⟨before, i, after, fault, rfl, sound, enabled, Inverter.fault?_eq_some_iff.mp broken, ?_⟩
    rw [Nat.zero_add]
  · rintro ⟨before, i, after, fault, rfl, sound, enabled, broken, rfl⟩
    have passed := inverterError?_eq_none_iff.mpr sound
    have found := Inverter.fault?_eq_some_iff.mpr broken
    unfold inverterError? at passed ⊢
    simp [List.zipIdx_append, List.findSome?_append, passed, enabled, found]

theorem error?_eq_none_iff : c.error? = none ↔ c.Sound := by
  unfold error?
  split_ifs with none
  · exact iff_of_false nofun fun sound => absurd sound.interval (by omega)
  · rw [inverterError?_eq_none_iff]
    exact ⟨fun inverters => ⟨Nat.pos_of_ne_zero none, inverters⟩, Sound.inverters⟩

theorem error?_eq_some_iff : c.error? = some e ↔ c.Breaks e := by
  unfold error?
  split_ifs with none
  · constructor
    · rintro ⟨⟩
      exact .interval none
    · intro breaks
      cases breaks with
      | interval => rfl
      | inverter interval => omega
  · rw [inverterError?_eq_some_iff]
    constructor
    · rintro ⟨before, i, after, fault, split, sound, enabled, broken, rfl⟩
      exact .inverter (Nat.pos_of_ne_zero none) split sound enabled broken
    · intro breaks
      cases breaks with
      | interval zero => exact absurd zero none
      | inverter _ split sound enabled broken =>
        exact ⟨_, _, _, _, split, sound, enabled, broken, rfl⟩

section

variable {text : String}

theorem error?_of_ofText (accepted : ofText text = .ok c) : c.error? = none := by
  unfold ofText at accepted
  split at accepted
  · cases accepted
  · split at accepted
    · cases accepted
    · next sound =>
      cases accepted
      exact sound

variable (read : (Yaml.Node.ofText? text).bind ofNode? = some c)
include read

theorem ofText_eq_ok_iff {accepted : Config} :
    ofText text = .ok accepted ↔ accepted = c ∧ c.Sound := by
  rw [ofText, read, ← error?_eq_none_iff]
  cases checked : c.error? <;> simp [checked, eq_comm]

theorem ofText_eq_error_iff : ofText text = .error e ↔ c.Breaks e := by
  rw [ofText, read, ← error?_eq_some_iff]
  cases checked : c.error? <;> simp [checked]

end

/-- A configuration that can be read is accepted just if it is sound, and otherwise the rule that is
broken first is reported. The password of an inverter in use of one that is accepted can be sent,
and the inverter gets back the octets of the password with zeros behind them. -/
theorem ofText_exact {text : String} {c : Config}
    (read : (Yaml.Node.ofText? text).bind ofNode? = some c) :
    (∀ accepted, ofText text = .ok accepted ↔ accepted = c ∧ c.Sound) ∧
    (∀ e, ofText text = .error e ↔ c.Breaks e) ∧
    (ofText text = .ok c → ∀ i ∈ c.inverters, i.enabled →
      ∃ encoded, Password.encode i.userGroup i.password = .ok encoded ∧ encoded.length = 12 ∧
        encoded.map (· ^^^ i.userGroup.key) =
          i.password.toUTF8.toList ++ List.replicate (12 - i.password.utf8ByteSize) 0) := by
  refine ⟨fun _ => ofText_eq_ok_iff read, fun _ => ofText_eq_error_iff read, ?_⟩
  intro accepted i listed enabled
  obtain ⟨-, sound⟩ := (ofText_eq_ok_iff read).mp accepted
  have short := (sound.inverters i listed enabled).password
  rw [← Password.length_octets] at short
  obtain ⟨encoded, sent⟩ := Password.exists_encode i.userGroup short
  exact ⟨encoded, sent, Password.length_of_encode sent, Password.map_key_of_encode sent⟩

/-- Ten letters of a password take twelve octets and eleven take thirteen, and an inverter that is
not in use may be wrong. -/
theorem ofText_exact_accented :
    let soundText := "inverters:\n- address: b:+502\n  password: pässwört12\n"
    let brokenText := "inverters:\n- address: b\n  enabled: false\n" ++
      "- address: b:+502\n  password: pässwört123\n  device_count: 0\n"
    ofText soundText = .ok { inverters := [{ address := "b:+502", password := "pässwört12" }] } ∧
    ofText brokenText = .error (.inverter 1 .longPassword) ∧
    ∃ encoded, Password.encode .user "pässwört12" = .ok encoded ∧ encoded.length = 12 ∧
      encoded.map (· ^^^ 0x88) = "pässwört12".toUTF8.toList := by
  intro soundText brokenText
  let short : Inverter := { address := "b:+502", password := "pässwört12" }
  let spare : Inverter := { address := "b", enabled := false }
  let long : Inverter := { address := "b:+502", password := "pässwört123", deviceCount := 0 }
  have readSound : (Yaml.Node.ofText? soundText).bind ofNode? =
      some { inverters := [short] } := by decide +kernel
  have readBroken : (Yaml.Node.ofText? brokenText).bind ofNode? =
      some { inverters := [spare, long] } := by decide +kernel
  obtain ⟨accepts, -, sends⟩ := ofText_exact readSound
  obtain ⟨-, rejects, -⟩ := ofText_exact readBroken
  have accepted := (accepts _).mpr ⟨rfl, error?_eq_none_iff.mp (by decide +kernel)⟩
  have rejected := (rejects (.inverter 1 .longPassword)).mpr
    (error?_eq_some_iff.mp (by decide +kernel))
  obtain ⟨encoded, sent, length, decoded⟩ := sends accepted short List.mem_cons_self rfl
  have full : 12 - short.password.utf8ByteSize = 0 := by decide +kernel
  rw [full, List.replicate_zero, List.append_nil] at decoded
  exact ⟨accepted, rejected, encoded, sent, length, decoded⟩

end Config

end SolarTelemetry
