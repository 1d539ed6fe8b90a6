import SolarTelemetry.Proofs.Link.Sending

/-!
# The handshake, whatever arrives

Three packets carry a handshake: the first identity exchange that names a network, the first
announcement of addresses after it, and the first list of devices after that. `Handshake.of` finds
them among all that is handled, and the link is then as they left it.
-/

namespace SolarTelemetry

namespace Packet

/-- A packet that can come off the wire. -/
def Received (p : Packet) : Prop := ∃ buffer, p ∈ (drain buffer).packets

theorem length_le_of_decode {buffer rest : Bytes} {p : Packet}
    (h : decode buffer = .ok (some (p, rest))) : p.payload.length ≤ maxPayload := by
  have whole := length_of_decode h
  unfold decode at h
  split at h
  · next start length zero guard tail =>
    cases sound : headerFault? start length zero guard with
    | some fault => simp [sound] at h
    | none =>
      simp only [sound] at h
      split at h
      · cases h
      · simp only [Except.ok.injEq, Option.map_eq_some_iff, Prod.mk.injEq] at h
        obtain ⟨q, -, -, rfl⟩ := h
        have short : length.toNat < 256 := length.toNat_lt
        have bound : maxPayload + headerLength = 255 := rfl
        rw [List.length_drop] at whole
        omega
  · cases h

theorem received_iff {p : Packet} : p.Received ↔ p.payload.length ≤ maxPayload := by
  constructor
  · rintro ⟨buffer, member⟩
    fun_induction drain buffer with
    | case1 | case2 => cases member
    | case3 buffer first rest decoded d ih =>
      rcases List.mem_cons.mp member with rfl | later
      · exact length_le_of_decode decoded
      · exact ih later
  · intro fits
    have alone : ∀ q ∈ [p], q.payload.length ≤ maxPayload := by
      intro q member
      rwa [List.mem_singleton.mp member]
    refine ⟨[p].flatMap layout ++ [], ?_⟩
    rw [drain_layouts alone]
    exact List.mem_cons_self

end Packet

namespace Link

/-- An identity exchange that is long enough to name a network. -/
def isHello (p : Packet) : Bool := p.command? == some .idExchange && decide (5 ≤ p.payload.length)

def isAnnouncement (p : Packet) : Bool :=
  p.command? == some .address && decide (13 ≤ p.payload.length)

/-- A list of entries of eight octets, at least one. -/
def isDeviceList (p : Packet) : Bool :=
  p.command? == some .topology && decide (p.payload ≠ [] ∧ 8 ∣ p.payload.length)

/-- The first packet of a kind and those after it. -/
def first? (kind : Packet → Bool) : List Packet → Option (Packet × List Packet)
  | [] => none
  | p :: ps => if kind p then some (p, ps) else first? kind ps

/-- The address that stands at an offset of a payload. -/
def addressAt (offset : Nat) (payload : Bytes) : Address :=
  (Address.ofWire? ((payload.drop offset).take 6)).getD .zero

/-- How far a handshake has come, and by which packets. -/
inductive Handshake where
  | begun
  | joined (hello : Packet)
  | addressed (hello announcement : Packet)
  | listed (hello announcement devices : Packet)

namespace Handshake

def of (ps : List Packet) : Handshake :=
  match first? isHello ps with
  | none => .begun
  | some (hello, ps) =>
    match first? isAnnouncement ps with
    | none => .joined hello
    | some (announcement, ps) =>
      match first? isDeviceList ps with
      | none => .addressed hello announcement
      | some (devices, _) => .listed hello announcement devices

def phase : Handshake → Phase
  | .begun => .awaitingIdAck
  | .joined _ => .awaitingOwnAddress
  | .addressed _ _ => .awaitingDeviceCount
  | .listed _ _ _ => .deviceListKnown

/-- What is known of the network, given what was known before. -/
def info (before : Info) : Handshake → Info
  | .begun => before
  | .joined hello =>
    { before with netId := hello.payload.getD 4 0, peerAddress := hello.source }
  | .addressed hello announcement =>
    { before with
      netId := hello.payload.getD 4 0
      peerAddress := addressAt 0 announcement.payload
      ownAddress := addressAt 7 announcement.payload }
  | .listed hello announcement devices =>
    { netId := hello.payload.getD 4 0
      peerAddress := addressAt 0 announcement.payload
      ownAddress := addressAt 7 announcement.payload
      devices := ((List.range (devices.payload.length / 8)).map fun n =>
        addressAt (8 * n) devices.payload).filter (· != addressAt 7 announcement.payload) }

/-- The answer to the packet that named the network. -/
def answer (hello : Packet) : Address × Bytes :=
  (hello.source, (Packet.of .idExchange .zero hello.source hello.payload).layout)

/-- All that is written in the course of a handshake. -/
def written : Handshake → List (Address × Bytes)
  | .begun => []
  | .joined hello | .addressed hello _ | .listed hello _ _ => [answer hello]

end Handshake

/-- A packet that the handshake waits for in this phase. -/
def Phase.awaits : Phase → Packet → Bool
  | .awaitingIdAck, p => isHello p
  | .awaitingOwnAddress, p => isAnnouncement p
  | .awaitingDeviceCount, p => isDeviceList p
  | _, _ => false

namespace Handshake

def advance : Handshake → Packet → Handshake
  | .begun, p => .joined p
  | .joined hello, p => .addressed hello p
  | .addressed hello announcement, p => .listed hello announcement p
  | .listed hello announcement devices, _ => .listed hello announcement devices

/-- A packet that is not waited for changes nothing. -/
def note (h : Handshake) (p : Packet) : Handshake := if h.phase.awaits p then h.advance p else h

theorem foldl_note (h : Handshake) (ps : List Packet) :
    ps.foldl note h =
      match first? h.phase.awaits ps with
      | none => h
      | some (p, rest) => rest.foldl note (h.advance p) := by
  induction ps with
  | nil => rfl
  | cons p ps ih =>
    rw [List.foldl_cons, first?]
    by_cases awaited : h.phase.awaits p = true
    · rw [if_pos awaited, note, if_pos awaited]
    · rw [if_neg awaited, note, if_neg awaited, ih]

theorem foldl_note_listed (hello announcement devices : Packet) (ps : List Packet) :
    ps.foldl note (.listed hello announcement devices) = .listed hello announcement devices := by
  induction ps with
  | nil => rfl
  | cons p ps ih => exact ih

theorem of_eq_foldl (ps : List Packet) : of ps = ps.foldl note .begun := by
  have hellos : Handshake.begun.phase.awaits = isHello := rfl
  rw [foldl_note, hellos, of]
  rcases first? isHello ps with _ | ⟨hello, ps⟩
  · rfl
  · have announcements : (Handshake.joined hello).phase.awaits = isAnnouncement := rfl
    simp only [advance]
    rw [foldl_note, announcements]
    rcases first? isAnnouncement ps with _ | ⟨announcement, ps⟩
    · rfl
    · have lists : (Handshake.addressed hello announcement).phase.awaits = isDeviceList := rfl
      simp only [advance]
      rw [foldl_note, lists]
      rcases first? isDeviceList ps with _ | ⟨devices, ps⟩
      · rfl
      · exact (foldl_note_listed hello announcement devices ps).symm

theorem of_concat (ps : List Packet) (p : Packet) : of (ps ++ [p]) = (of ps).note p := by
  rw [of_eq_foldl, of_eq_foldl, List.foldl_append]
  rfl

end Handshake

theorem isHello_iff {p : Packet} :
    isHello p ↔ p.command? = some .idExchange ∧ 5 ≤ p.payload.length := by
  rw [isHello, Bool.and_eq_true, beq_iff_eq, decide_eq_true_iff]

theorem isAnnouncement_iff {p : Packet} :
    isAnnouncement p ↔ p.command? = some .address ∧ 13 ≤ p.payload.length := by
  rw [isAnnouncement, Bool.and_eq_true, beq_iff_eq, decide_eq_true_iff]

theorem isDeviceList_iff {p : Packet} :
    isDeviceList p ↔ p.command? = some .topology ∧ p.payload ≠ [] ∧ 8 ∣ p.payload.length := by
  rw [isDeviceList, Bool.and_eq_true, beq_iff_eq, decide_eq_true_iff]

theorem isTopology_iff {payload : Bytes} :
    isTopology payload ↔ payload ≠ [] ∧ 8 ∣ payload.length := by
  rw [isTopology, Bool.and_eq_true, beq_iff_eq, Bool.not_eq_true', List.isEmpty_eq_false_iff,
    Nat.dvd_iff_mod_eq_zero]
  rfl

section Reading

variable {payload : Bytes} {offset : Nat}

theorem ofWire?_addressAt (long : offset + 6 ≤ payload.length) :
    Address.ofWire? ((payload.drop offset).take 6) = some (addressAt offset payload) := by
  have six : ((payload.drop offset).take 6).reverse.length = 6 := by
    rw [List.length_reverse, List.length_take, List.length_drop]
    omega
  have found : Address.ofWire? ((payload.drop offset).take 6) =
      some ⟨((payload.drop offset).take 6).reverse, six⟩ := dif_pos six
  rw [addressAt, found, Option.getD_some]

theorem addressesOf?_of_long (long : 13 ≤ payload.length) :
    addressesOf? payload = some (addressAt 0 payload, addressAt 7 payload) := by
  have peer := @ofWire?_addressAt payload 0 (Nat.le_trans (by decide) long)
  have own := @ofWire?_addressAt payload 7 long
  rw [List.drop_zero] at peer
  rw [addressesOf?, peer, own]
  rfl

theorem addressesOf?_of_short (short : ¬13 ≤ payload.length) : addressesOf? payload = none := by
  have five : ((payload.drop 7).take 6).reverse.length ≠ 6 := by
    rw [List.length_reverse, List.length_take, List.length_drop]
    omega
  have own : Address.ofWire? ((payload.drop 7).take 6) = none := dif_neg five
  rw [addressesOf?, own]
  cases Address.ofWire? (payload.take 6) <;> rfl

/-- A device list names one address for each of its entries. -/
theorem topologyAddresses_eq (whole : 8 ∣ payload.length) :
    topologyAddresses payload =
      (List.range (payload.length / 8)).map fun n => addressAt (8 * n) payload := by
  fun_induction topologyAddresses payload with
  | case1 payload short =>
    have none : payload.length / 8 = 0 := Nat.div_eq_of_lt short
    rw [none]
    rfl
  | case2 payload long ih =>
    have eight : 8 ≤ payload.length := Nat.not_lt.mp long
    have first := @ofWire?_addressAt payload 0 (Nat.le_trans (by decide) eight)
    have fewer : (payload.drop topologyEntryLength).length = payload.length - 8 := List.length_drop
    have count : payload.length / 8 = (payload.length - 8) / 8 + 1 := by omega
    rw [List.drop_zero] at first
    rw [fewer] at ih
    rw [first, ih (by omega), count, List.range_succ_eq_map, List.map_cons, List.map_map]
    refine congrArg (addressAt 0 payload :: ·) (List.map_congr_left fun n _ => ?_)
    simp only [addressAt, topologyEntryLength, List.drop_drop, Function.comp_apply]
    rw [Nat.mul_succ, Nat.add_comm]

end Reading

section Handling

variable {p : Packet} {link : Link}

/-- A packet that is not waited for leaves the handshake where it is. -/
theorem handle_of_not_awaited (other : ¬link.phase.awaits p) :
    handle p link = .ok () (digest p link) := by
  unfold handle digest
  cases command : p.command? with
  | none => rfl
  | some kind =>
    cases kind with
    | idExchange =>
      simp only [joinNetwork]
      split
      · next netId phase long =>
        have hello : isHello p := by
          obtain ⟨within, -⟩ := List.getElem?_eq_some_iff.mp long
          exact isHello_iff.mpr ⟨command, within⟩
        rw [phase] at other
        exact absurd hello other
      · rfl
    | address =>
      change EStateM.Result.ok _ (noteAddresses p link) = _
      unfold noteAddresses
      split
      · next phase found =>
        rw [phase] at other
        have short : ¬13 ≤ p.payload.length := fun long =>
          other (isAnnouncement_iff.mpr ⟨command, long⟩)
        rw [addressesOf?_of_short short] at found
        cases found
      · rfl
    | topology =>
      change EStateM.Result.ok _ (noteDevices p link) = _
      unfold noteDevices
      split
      · next phase whole =>
        rw [phase] at other
        exact absurd (isDeviceList_iff.mpr ⟨command, isTopology_iff.mp whole⟩) other
      · rfl
    | signalReport | data | dataPart | signalQuery => rfl

theorem handle_hello (phase : link.phase = .awaitingIdAck) (hello : isHello p)
    (fits : p.payload.length ≤ Packet.maxPayload) (accepts : link.transport.Accepts 1) :
    ∃ transport,
      handle p link =
        .ok () { link with
          transport
          info := { link.info with netId := p.payload.getD 4 0, peerAddress := p.source }
          phase := .awaitingOwnAddress } ∧
        transport.sent = link.transport.sent ++ [Handshake.answer p] := by
  obtain ⟨command, long⟩ := isHello_iff.mp hello
  have netId : p.payload[4]? = some (p.payload.getD 4 0) := by
    rw [List.getD_eq_getElem?_getD, List.getElem?_eq_getElem long, Option.getD_some]
  have fit : ∀ q ∈ [Packet.of .idExchange .zero p.source p.payload],
      q.payload.length ≤ Packet.maxPayload := by
    intro q member
    rwa [List.mem_singleton.mp member]
  obtain ⟨transport, transmitted, sent⟩ := @transmit_of_accepts _ { link with
    info := { link.info with netId := p.payload.getD 4 0, peerAddress := p.source } } fit accepts
  refine ⟨transport, ?_, sent⟩
  simp only [phase] at transmitted
  rw [handle, command]
  simp only [joinNetwork, phase, netId, transmitted]

theorem handle_announcement (phase : link.phase = .awaitingOwnAddress)
    (announcement : isAnnouncement p) :
    handle p link =
      .ok () { link with
        info := { link.info with
          peerAddress := addressAt 0 p.payload
          ownAddress := addressAt 7 p.payload }
        phase := .awaitingDeviceCount } := by
  obtain ⟨command, long⟩ := isAnnouncement_iff.mp announcement
  rw [handle, command]
  change EStateM.Result.ok _ (noteAddresses p link) = _
  simp only [noteAddresses, phase, addressesOf?_of_long long]

theorem handle_deviceList (phase : link.phase = .awaitingDeviceCount) (list : isDeviceList p) :
    handle p link =
      .ok () { link with
        info := { link.info with
          devices := ((List.range (p.payload.length / 8)).map fun n =>
            addressAt (8 * n) p.payload).filter (· != link.info.ownAddress) }
        phase := .deviceListKnown } := by
  obtain ⟨command, full, whole⟩ := isDeviceList_iff.mp list
  have topology : isTopology p.payload = true := isTopology_iff.mpr ⟨full, whole⟩
  rw [handle, command]
  change EStateM.Result.ok _ (noteDevices p link) = _
  simp only [noteDevices, phase, topology, topologyAddresses_eq whole]

end Handling

namespace Handshake

/-- A link as a handshake has left it, given how it was before. -/
structure Describes (h : Handshake) (start link : Link) : Prop where
  phase : link.phase = h.phase
  info : link.info = h.info start.info
  sent : link.transport.sent = start.transport.sent ++ h.written
  /-- The one packet that is still to be written will not be refused. -/
  accepts : h = .begun → link.transport.Accepts 1

theorem note_of_awaited {h : Handshake} {p : Packet} (awaited : h.phase.awaits p) :
    h.note p = h.advance p := if_pos awaited

theorem not_awaits_of_note {h : Handshake} {p : Packet} (same : h.note p = h) :
    ¬h.phase.awaits p := by
  intro awaited
  rw [note_of_awaited awaited] at same
  cases h with
  | listed => cases awaited
  | begun | joined | addressed => cases same

namespace Describes

variable {h : Handshake} {start link : Link}

/-- One packet takes a link as far as it takes the handshake. -/
theorem handle {p : Packet} (described : h.Describes start link) (received : p.Received) :
    ∃ link', handle p link = .ok () link' ∧ (h.note p).Describes start link' := by
  by_cases awaited : h.phase.awaits p
  · have phase := described.phase
    have info := described.info
    have sent := described.sent
    rw [note_of_awaited awaited]
    cases h with
    | begun =>
      obtain ⟨transport, ran, written⟩ := handle_hello phase awaited
        (Packet.received_iff.mp received) (described.accepts rfl)
      refine ⟨_, ran, ⟨rfl, ?_, ?_, ?_⟩⟩
      · exact congrArg (fun info : Info => { info with
          netId := p.payload.getD 4 0, peerAddress := p.source }) info
      · exact written.trans (congrArg (· ++ [answer p]) (sent.trans (List.append_nil _)))
      · intro same
        cases same
    | joined hello =>
      refine ⟨_, handle_announcement phase awaited, ⟨rfl, ?_, sent, ?_⟩⟩
      · exact congrArg (fun info : Info => { info with
          peerAddress := addressAt 0 p.payload, ownAddress := addressAt 7 p.payload }) info
      · intro same
        cases same
    | addressed hello announcement =>
      refine ⟨_, handle_deviceList phase awaited, ⟨rfl, ?_, sent, ?_⟩⟩
      · simp only [info, Handshake.info]
        rfl
      · intro same
        cases same
    | listed => cases awaited
  · have unchanged : h.note p = h := if_neg awaited
    have elsewhere : ¬link.phase.awaits p := by rwa [described.phase]
    obtain ⟨_, _, _, eq⟩ := exists_digest_eq p link
    rw [unchanged, handle_of_not_awaited elsewhere, eq]
    exact ⟨_, rfl, ⟨described.phase, described.info, described.sent, described.accepts⟩⟩

theorem handleAll {ps : List Packet} (described : h.Describes start link)
    (received : ∀ p ∈ ps, p.Received) :
    ∃ link', handleAll ps link = .ok () link' ∧ (ps.foldl note h).Describes start link' := by
  induction ps generalizing h link with
  | nil => exact ⟨link, rfl, described⟩
  | cons p ps ih =>
    obtain ⟨next, ran, noted⟩ := described.handle (received p List.mem_cons_self)
    obtain ⟨link', rest, all⟩ := ih noted fun q member => received q (List.mem_cons_of_mem p member)
    exact ⟨link', (Action.bind_of_ok ran).trans rest, all⟩

end Describes

end Handshake

/-- Whatever packets are handled, in whatever order, a link that waits for the handshake to begin
comes as far as the packets that carry a handshake take it: its phase, what it knows of the network
and what it has written are theirs, and any other packet leaves all of this alone. -/
theorem handleAll_handshake {link : Link} (waiting : link.phase = .awaitingIdAck)
    (accepts : link.transport.Accepts 1) (ps : List Packet) (received : ∀ p ∈ ps, p.Received) :
    (∃ link', handleAll ps link = .ok () link' ∧
      link'.phase = (Handshake.of ps).phase ∧
      link'.info = (Handshake.of ps).info link.info ∧
      link'.transport.sent = link.transport.sent ++ (Handshake.of ps).written) ∧
    ∀ before p after, ps = before ++ p :: after →
      Handshake.of (before ++ [p]) = Handshake.of before →
      ∃ reached signal queue parts, handleAll before link = .ok () reached ∧
        handle p reached = .ok () { reached with signal, queue, parts } := by
  have start : Handshake.begun.Describes link link :=
    ⟨waiting, rfl, (List.append_nil _).symm, fun _ => accepts⟩
  constructor
  · obtain ⟨link', ran, described⟩ := start.handleAll received
    rw [← Handshake.of_eq_foldl] at described
    exact ⟨link', ran, described.phase, described.info, described.sent⟩
  · rintro before p after rfl same
    obtain ⟨reached, ran, described⟩ := start.handleAll fun q member =>
      received q (List.mem_append_left _ member)
    rw [← Handshake.of_eq_foldl] at described
    rw [Handshake.of_concat] at same
    have other := Handshake.not_awaits_of_note same
    rw [← described.phase] at other
    obtain ⟨signal, queue, parts, eq⟩ := exists_digest_eq p reached
    refine ⟨reached, signal, queue, parts, ran, ?_⟩
    rw [handle_of_not_awaited other, eq]

/-- Packets that come too early, too short or twice. -/
theorem handleAll_handshake_unruly :
    let peer : Address := ⟨[0x00, 0x80, 0x25, 0x00, 0x00, 0x01], rfl⟩
    let own : Address := ⟨[0x00, 0x80, 0x25, 0x00, 0x00, 0x09], rfl⟩
    let link : Link := { transport := {}, phase := .awaitingIdAck }
    let hello : Packet := .of .idExchange peer .zero [0, 4, 0x70, 0, 3, 0, 0, 0, 0, 1, 0, 0, 0]
    let addresses : Packet := .of .address peer own (peer.wire ++ [1] ++ own.wire)
    let list : Packet := .of .topology peer own (own.wire ++ [1, 0] ++ peer.wire ++ [2, 1])
    let ps : List Packet :=
      [addresses, list, .of .idExchange peer .zero [0, 4], hello, hello, list, addresses,
        .of .topology peer own [0, 0, 0, 0, 0, 0, 0], list, addresses]
    ∃ link', handleAll ps link = .ok () link' ∧ link'.phase = .deviceListKnown ∧
      link'.info = { netId := 3, ownAddress := own, peerAddress := peer, devices := [peer] } ∧
      link'.transport.sent = [(peer, (Packet.of .idExchange .zero peer hello.payload).layout)] := by
  intro peer own link hello addresses list ps
  have short : ∀ p ∈ ps, p.payload.length ≤ Packet.maxPayload := by decide
  have accepts : link.transport.Accepts 1 := by
    intro reactions member
    cases member
  obtain ⟨⟨link', ran, phase, info, sent⟩, -⟩ := @handleAll_handshake link rfl accepts ps
    fun p member => Packet.received_iff.mpr (short p member)
  exact ⟨link', ran, phase.trans (by decide +kernel), info.trans (by decide +kernel),
    sent.trans (by decide +kernel)⟩

end Link

end SolarTelemetry
