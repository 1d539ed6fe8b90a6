import SolarTelemetry.Proofs.Link.Handshake

/-!
# No index is out of range

Octets are picked out of a buffer or a payload by their places, each behind a check of the length.
Here a place beyond the end stops everything, and an address of the wrong length is an error of its
own. Neither ever happens: what is computed this way is what decoding and handling compute.
-/

namespace SolarTelemetry.Checked

open Link (topologyEntryLength)

def octet? (bs : Bytes) (i : Nat) : Option UInt8 := bs[i]?

def slice? (bs : Bytes) (first last : Nat) : Option Bytes :=
  if first ≤ last ∧ last ≤ bs.length then some ((bs.drop first).take (last - first)) else none

/-- Six octets of a packet, as an address. -/
def address (bs : Bytes) : Except Error Address :=
  match Address.ofWire? bs with
  | some a => .ok a
  | none => .error (.protocol (.addressLength bs.length))

/-- The packet that fills these octets. -/
def packet (raw : Bytes) : Option (Except Error Packet) := do
  let source ← slice? raw 4 10
  let destination ← slice? raw 10 16
  let code ← octet? raw 16
  let payload ← slice? raw Packet.headerLength raw.length
  return do
    let source ← address source
    let destination ← address destination
    return ⟨source, destination, code, payload⟩

/-- The packet at the front of a buffer and what follows it. -/
def decode (buffer : Bytes) : Option (Except Error (Option (Packet × Bytes))) :=
  if buffer.length < 4 then some (.ok none)
  else do
    let start ← octet? buffer 0
    let length ← octet? buffer 1
    let zero ← octet? buffer 2
    let guard ← octet? buffer 3
    if start ≠ Packet.startOctet then return .error (.link (.badSync start))
    else if guard ≠ start ^^^ length ^^^ zero then
      return .error (.link (.headerChecksum (← slice? buffer 0 4)))
    else if length.toNat < Packet.headerLength then
      return .error (.link (.badLength length.toNat))
    else if buffer.length < length.toNat then return .ok none
    else
      let raw ← slice? buffer 0 length.toNat
      let rest ← slice? buffer length.toNat buffer.length
      return (← packet raw).map fun p => some (p, rest)

/-- Handling a packet has come to this. -/
abbrev Handled := Option (Outcome Link Unit)

def joinNetwork (p : Packet) (link : Link) : Handled :=
  if link.phase ≠ .awaitingIdAck ∨ p.payload.length < 5 then some (.ok () link)
  else do
    let netId ← octet? p.payload 4
    let link := { link with info := { link.info with netId, peerAddress := p.source } }
    match Link.transmit [.of .idExchange .zero p.source p.payload] link with
    | .ok () link => return .ok () { link with phase := .awaitingOwnAddress }
    | .error e link => return .error e link

def noteAddresses (p : Packet) (link : Link) : Handled :=
  if link.phase ≠ .awaitingOwnAddress ∨ p.payload.length < 13 then some (.ok () link)
  else do
    let peer ← slice? p.payload 0 6
    let own ← slice? p.payload 7 13
    match Address.ofWire? peer, Address.ofWire? own with
    | some peer, some own =>
      return .ok () { link with
        info := { link.info with peerAddress := peer, ownAddress := own }
        phase := .awaitingDeviceCount }
    | _, _ => return .ok () link

/-- The addresses that open the entries of a device list, entry by entry. -/
def topologyAddresses (payload : Bytes) : Option (List Address) :=
  if payload.isEmpty then some []
  else do
    let octets ← slice? (payload.take topologyEntryLength) 0 6
    let others ← topologyAddresses (payload.drop topologyEntryLength)
    return (Address.ofWire? octets).toList ++ others
termination_by payload.length
decreasing_by
  next full =>
  have : 0 < topologyEntryLength := by decide
  have := List.length_pos_iff.mpr (fun empty => full (List.isEmpty_iff.mpr empty))
  simp only [List.length_drop]
  omega

def noteDevices (p : Packet) (link : Link) : Handled :=
  if link.phase ≠ .awaitingDeviceCount ∨ p.payload.isEmpty ∨
      p.payload.length % topologyEntryLength ≠ 0 then some (.ok () link)
  else do
    let addresses ← topologyAddresses p.payload
    let devices := addresses.filter (· != link.info.ownAddress)
    return .ok () { link with info := { link.info with devices }, phase := .deviceListKnown }

def noteSignal (p : Packet) (link : Link) : Handled :=
  if p.payload.length < 5 then some (.ok () link)
  else do
    let level ← octet? p.payload 4
    return .ok () { link with signal := some (level.toNat * 100 / 255) }

def handle (p : Packet) (link : Link) : Handled :=
  match p.command? with
  | some .idExchange => joinNetwork p link
  | some .address => noteAddresses p link
  | some .topology => noteDevices p link
  | some .signalReport => noteSignal p link
  | some .data => some (.ok () (Link.takeData true p link))
  | some .dataPart => some (.ok () (Link.takeData false p link))
  | some .signalQuery | none => some (.ok () link)

section Places

variable {bs : Bytes} {first last : Nat}

theorem octet?_of_lt {i : Nat} (within : i < bs.length) : octet? bs i = some bs[i] :=
  List.getElem?_eq_getElem within

theorem slice?_of_le (ordered : first ≤ last) (within : last ≤ bs.length) :
    slice? bs first last = some ((bs.drop first).take (last - first)) :=
  if_pos ⟨ordered, within⟩

/-- Up to the end of the octets. -/
theorem slice?_length (within : first ≤ bs.length) :
    slice? bs first bs.length = some (bs.drop first) := by
  rw [slice?_of_le within (Nat.le_refl _), ← List.length_drop, List.take_length]

theorem ofWire?_slice (within : first + 6 ≤ bs.length) :
    Address.ofWire? ((bs.drop first).take 6) = some (Link.addressAt first bs) :=
  Link.ofWire?_addressAt within

theorem address_slice (within : first + 6 ≤ bs.length) :
    address ((bs.drop first).take 6) = .ok (Link.addressAt first bs) := by
  rw [address, Link.ofWire?_addressAt within]

end Places

/-- A packet that is whole has a place for everything. -/
theorem packet_eq {raw : Bytes} (long : Packet.headerLength ≤ raw.length) :
    ∃ p, packet raw = some (.ok p) ∧ Packet.ofWire? raw = some p ∧
      p.payload = raw.drop Packet.headerLength := by
  have eighteen : 18 ≤ raw.length := long
  have source : 4 + 6 ≤ raw.length := by omega
  have destination : 10 + 6 ≤ raw.length := by omega
  have code : 16 < raw.length := by omega
  refine ⟨⟨Link.addressAt 4 raw, Link.addressAt 10 raw, raw[16], raw.drop Packet.headerLength⟩,
    ?_, ?_, rfl⟩
  · rw [packet, slice?_of_le (by decide) source, slice?_of_le (by decide) destination,
      octet?_of_lt code, slice?_length long]
    simp only [Option.bind_eq_bind, Option.bind_some, address_slice source,
      address_slice destination]
    rfl
  · rw [Packet.ofWire?, Link.ofWire?_addressAt source, Link.ofWire?_addressAt destination,
      List.getElem?_eq_getElem code]
    rfl

/-- Decoding reads no octet that is not there, and all addresses have their length. -/
theorem decode_eq (buffer : Bytes) :
    decode buffer = some ((Packet.decode buffer).mapError Error.link) := by
  unfold Packet.decode
  split
  · next start length zero guard tail =>
    generalize here : start :: length :: zero :: guard :: tail = buffer
    have four : 4 ≤ buffer.length := by
      rw [← here]
      simp
    have opening : slice? buffer 0 4 = some [start, length, zero, guard] := by
      rw [slice?_of_le (Nat.zero_le _) four, ← here]
      rfl
    have places : octet? buffer 0 = some start ∧ octet? buffer 1 = some length ∧
        octet? buffer 2 = some zero ∧ octet? buffer 3 = some guard := by
      rw [← here]
      exact ⟨rfl, rfl, rfl, rfl⟩
    rw [decode, if_neg (Nat.not_lt.mpr four)]
    simp only [places, opening, Option.bind_eq_bind, Option.bind_some]
    unfold Packet.headerFault?
    by_cases starts : start ≠ Packet.startOctet
    · simp only [if_pos starts]
      rfl
    by_cases differs : guard ≠ start ^^^ length ^^^ zero
    · simp only [if_neg starts, if_pos differs]
      rfl
    by_cases short : length.toNat < Packet.headerLength
    · simp only [if_neg starts, if_neg differs, if_pos short]
      rfl
    by_cases unfinished : buffer.length < length.toNat
    · simp only [if_neg starts, if_neg differs, if_neg short, if_pos unfinished]
      rfl
    simp only [if_neg starts, if_neg differs, if_neg short, if_neg unfinished]
    have whole := Nat.not_lt.mp unfinished
    have long : Packet.headerLength ≤ (buffer.take length.toNat).length := by
      rw [List.length_take]
      omega
    obtain ⟨p, picked, read, -⟩ := packet_eq long
    rw [slice?_of_le (Nat.zero_le _) whole, slice?_length whole, read]
    simp only [Option.bind_some, Nat.sub_zero, List.drop_zero, picked]
    rfl
  · next short =>
    have few : buffer.length < 4 := by
      match buffer with
      | [] | [_] | [_, _] | [_, _, _] => simp
      | a :: b :: c :: d :: tail => exact (short a b c d tail rfl).elim
    rw [decode, if_pos few]
    rfl

section Handling

variable (p : Packet) (link : Link)

theorem joinNetwork_eq : joinNetwork p link = some (Link.joinNetwork p link) := by
  unfold joinNetwork Link.joinNetwork
  by_cases skips : link.phase ≠ .awaitingIdAck ∨ p.payload.length < 5
  · rw [if_pos skips]
    split
    · next netId phase found =>
      have long := (List.getElem?_eq_some_iff.mp found).1
      rcases skips with other | short
      · exact absurd phase other
      · omega
    · rfl
  · rw [if_neg skips]
    obtain ⟨other, long⟩ := not_or.mp skips
    have phase : link.phase = .awaitingIdAck := Decidable.of_not_not other
    have place : 4 < p.payload.length := by omega
    simp only [phase, octet?_of_lt place, List.getElem?_eq_getElem place, Option.bind_eq_bind,
      Option.bind_some]
    cases ran : Link.transmit [.of .idExchange .zero p.source p.payload] { link with
      phase := .awaitingIdAck
      info := { link.info with netId := p.payload[4], peerAddress := p.source } } with
    | ok _ next => rfl
    | error e next => rfl

theorem noteAddresses_eq :
    noteAddresses p link = some (.ok () (Link.noteAddresses p link)) := by
  unfold noteAddresses Link.noteAddresses
  by_cases skips : link.phase ≠ .awaitingOwnAddress ∨ p.payload.length < 13
  · rw [if_pos skips]
    split
    · next peer own phase found =>
      rcases skips with other | short
      · exact absurd phase other
      · rw [Link.addressesOf?_of_short (by omega)] at found
        cases found
    · rfl
  · rw [if_neg skips]
    obtain ⟨other, long⟩ := not_or.mp skips
    have phase : link.phase = .awaitingOwnAddress := Decidable.of_not_not other
    have thirteen : 13 ≤ p.payload.length := by omega
    have peer : 0 + 6 ≤ p.payload.length := by omega
    have own : 7 + 6 ≤ p.payload.length := thirteen
    rw [slice?_of_le (by decide) peer, slice?_of_le (by decide) own]
    simp only [Option.bind_eq_bind, Option.bind_some, ofWire?_slice peer, ofWire?_slice own, phase,
      Link.addressesOf?_of_long thirteen]
    rfl

theorem topologyAddresses_eq {payload : Bytes} (whole : topologyEntryLength ∣ payload.length) :
    topologyAddresses payload = some (Link.topologyAddresses payload) := by
  fun_induction topologyAddresses payload with
  | case1 payload empty =>
    rw [List.isEmpty_iff.mp empty, Link.topologyAddresses]
    rfl
  | case2 payload full ih =>
    have some : payload ≠ [] := fun empty => full (List.isEmpty_iff.mpr empty)
    have entry : topologyEntryLength ≤ payload.length :=
      Nat.le_of_dvd (List.length_pos_iff.mpr some) whole
    have six : 6 ≤ (payload.take topologyEntryLength).length := by
      rw [List.length_take, Nat.min_eq_left entry]
      decide
    have rest : topologyEntryLength ∣ (payload.drop topologyEntryLength).length := by
      rw [List.length_drop]
      exact Nat.dvd_sub whole (Nat.dvd_refl _)
    have opening : ((payload.take topologyEntryLength).drop 0).take (6 - 0) = payload.take 6 :=
      List.take_take
    rw [Link.topologyAddresses, if_neg (Nat.not_lt.mpr entry), slice?_of_le (Nat.zero_le _) six,
      ih rest, opening]
    rfl

theorem noteDevices_eq : noteDevices p link = some (.ok () (Link.noteDevices p link)) := by
  unfold noteDevices Link.noteDevices
  by_cases skips : link.phase ≠ .awaitingDeviceCount ∨ p.payload.isEmpty ∨
      p.payload.length % topologyEntryLength ≠ 0
  · rw [if_pos skips]
    split
    · next phase topology =>
      rw [Link.isTopology, Bool.and_eq_true, Bool.not_eq_true', beq_iff_eq] at topology
      rcases skips with other | empty | uneven
      · exact absurd phase other
      · rw [topology.1] at empty
        cases empty
      · exact absurd topology.2 uneven
    · rfl
  · rw [if_neg skips]
    obtain ⟨other, long⟩ := not_or.mp skips
    obtain ⟨full, uneven⟩ := not_or.mp long
    have phase : link.phase = .awaitingDeviceCount := Decidable.of_not_not other
    have whole : p.payload.length % topologyEntryLength = 0 := Decidable.of_not_not uneven
    have topology : Link.isTopology p.payload = true := by
      simp [Link.isTopology, full, whole]
    rw [topologyAddresses_eq (Nat.dvd_of_mod_eq_zero whole)]
    simp only [phase, topology]
    rfl

theorem noteSignal_eq : noteSignal p link = some (.ok () (Link.noteSignal p link)) := by
  unfold noteSignal Link.noteSignal
  by_cases short : p.payload.length < 5
  · rw [if_pos short, List.getElem?_eq_none (by omega)]
  · have place : 4 < p.payload.length := by omega
    rw [if_neg short, octet?_of_lt place, List.getElem?_eq_getElem place]
    rfl

/-- Handling reads no octet that is not there. -/
theorem handle_eq : handle p link = some (Link.handle p link) := by
  unfold handle Link.handle
  cases p.command? with
  | none => rfl
  | some command =>
    cases command with
    | idExchange => exact joinNetwork_eq p link
    | address => exact noteAddresses_eq p link
    | topology => exact noteDevices_eq p link
    | signalReport => exact noteSignal_eq p link
    | data | dataPart | signalQuery => rfl

end Handling

end SolarTelemetry.Checked
