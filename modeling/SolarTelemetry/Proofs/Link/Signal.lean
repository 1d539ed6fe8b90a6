import SolarTelemetry.Proofs.Link.Intake

/-!
# Whose signal it is

Whoever asks for the signal of a peer empties one register, and is told what stands in it next. Any
report is put there, over the one before it. So the answer is the last report that was taken in
since the question began, and nothing in it tells of the peer.
-/

namespace SolarTelemetry.Link

/-- What a packet reports of the signal, in percent. -/
def reported? (p : Packet) : Option Nat :=
  match p.command? with
  | some .signalReport => (p.payload[4]?).map fun level => level.toNat * 100 / 255
  | _ => none

theorem leaves_signal_transmitOne (p : Packet) : (transmitOne p).Leaves signal := by
  intro link
  cases ran : transmitOne p link with
  | ok _ next =>
    obtain ⟨transport, octets, rfl, -⟩ := eq_of_transmitOne_ok ran
    rfl
  | error e next =>
    obtain ⟨transport, rfl, -⟩ := eq_of_transmitOne_error ran
    rfl

theorem leaves_signal_joinNetwork (p : Packet) : (joinNetwork p).Leaves signal := by
  intro link
  unfold joinNetwork
  split
  · next netId _ _ =>
    have sent := leaves_signal_transmitOne (.of .idExchange .zero p.source p.payload)
      { link with info := { link.info with netId, peerAddress := p.source } }
    rw [transmit_singleton]
    simp only
    split <;> next ran => rw [ran] at sent; exact sent
  · rfl

theorem signal_takeData (last : Bool) (p : Packet) (link : Link) :
    (takeData last p link).signal = link.signal := by
  unfold takeData
  split
  · split <;> rfl
  · rfl

/-- A report takes the place of the one before it, whoever sent it. -/
theorem signal_handle (p : Packet) (link : Link) :
    (Outcome.state (handle p link)).signal = (reported? p).or link.signal := by
  unfold handle reported?
  cases p.command? with
  | none => rfl
  | some command =>
    cases command with
    | idExchange => exact leaves_signal_joinNetwork p link
    | address =>
      change (noteAddresses p link).signal = link.signal
      unfold noteAddresses
      split <;> rfl
    | topology =>
      change (noteDevices p link).signal = link.signal
      unfold noteDevices
      split <;> rfl
    | signalReport =>
      change (noteSignal p link).signal = _
      unfold noteSignal
      cases p.payload[4]? <;> rfl
    | data => exact signal_takeData true p link
    | dataPart => exact signal_takeData false p link
    | signalQuery => rfl

theorem reported?_of_networkOf? {link : Link} {p : Packet} {netId : UInt8}
    (names : link.networkOf? p = some netId) : reported? p = none := by
  unfold networkOf? at names
  split at names
  · next phase command => rw [reported?, command]
  · cases names

namespace Tasks

variable {t next start u : Tasks} {trace : List (Event × Tasks)} {peer : Address}

/-- A step that shows nothing leaves the register alone, unless it takes a report off the buffer. -/
theorem Step.signal (step : Step t .quiet next) :
    next.link.signal = ((packetOf? t next).bind reported?).or t.link.signal := by
  have untaken (nothing : packetOf? t next = none) (same : next.link.signal = t.link.signal) :
      next.link.signal = ((packetOf? t next).bind reported?).or t.link.signal := by
    rw [nothing, same]
    rfl
  cases step with
  | world | goOn | halt | lapse | drained | turn | noticeFailure | giveUp | startSending | asked =>
    exact untaken (packetOf?_of_same rfl) rfl
  | arrive stands | breakDown stands =>
    apply untaken (packetOf?_of_ne ?_) rfl
    rw [stands]
    nofun
  | malformed stands decoded =>
    apply untaken ?_ rfl
    rw [packetOf?, if_pos stands, decoded]
  | @packet p rest link stands decoded plain handled =>
    obtain ⟨link', eq, -, -, left, -⟩ := @exists_of_handle p { t.link with buffer := rest } plain
    rw [eq] at handled
    cases handled
    have noted := signal_handle p { t.link with buffer := rest }
    rw [eq] at noted
    rw [packetOf?_of_decode stands decoded left]
    exact noted
  | hello stands decoded names =>
    rw [packetOf?_of_decode stands decoded rfl, Option.bind_some, reported?_of_networkOf? names]
    rfl
  | answered stands written =>
    obtain ⟨transport, octets, rfl, -⟩ := eq_of_transmitOne_ok written
    exact untaken (packetOf?_of_same rfl) rfl
  | unanswered stands refused =>
    obtain ⟨transport, rfl, -⟩ := eq_of_transmitOne_error refused
    apply untaken (packetOf?_of_ne ?_) rfl
    rw [stands]
    nofun
  | send stands written =>
    obtain ⟨transport, octets, rfl, -⟩ := eq_of_transmitOne_ok written
    exact untaken (packetOf?_of_same rfl) rfl

/-- What stands in the register is the last report that was taken in, or what stood there before. -/
theorem Run.signal (run : Run t trace u) (quiet : ∀ x ∈ trace, x.1 = .quiet) :
    u.link.signal = (((packetsIn t trace).filterMap reported?).getLast?).or t.link.signal := by
  induction run with
  | nil => rfl
  | @cons t next last e trace step rest ih =>
    obtain ⟨rfl, later⟩ := List.forall_mem_cons.mp quiet
    rw [ih later, step.signal, packetsIn_cons, List.filterMap_append, List.getLast?_append,
      Option.or_assoc]
    cases packetOf? t next with
    | none => rfl
    | some p => cases reported : reported? p <;> simp [reported]

/-- Of some packets, the last that reports anything reports this. -/
def LastReport (ps : List Packet) (p : Packet) (percent : Nat) : Prop :=
  ∃ before after, ps = before ++ p :: after ∧ reported? p = some percent ∧
    ∀ q ∈ after, reported? q = none

theorem getLast?_reported_iff {ps : List Packet} {percent : Nat} :
    (ps.filterMap reported?).getLast? = some percent ↔ ∃ p, LastReport ps p percent := by
  rw [List.getLast?_eq_some_iff]
  constructor
  · rintro ⟨others, split⟩
    obtain ⟨first, rest, rfl, -, alone⟩ := List.filterMap_eq_append_iff.mp split
    obtain ⟨silent, p, after, rfl, -, reported, nothing⟩ := List.filterMap_eq_cons_iff.mp alone
    refine ⟨p, first ++ silent, after, ?_, reported, List.filterMap_eq_nil_iff.mp nothing⟩
    rw [List.append_assoc]
  · rintro ⟨p, before, after, rfl, reported, silent⟩
    refine ⟨before.filterMap reported?, ?_⟩
    rw [List.filterMap_append, List.filterMap_cons_some reported,
      List.filterMap_eq_nil_iff.mpr silent]

/-- Who asks for the signal of a peer is answered once a report has been taken in since, whoever
sent it, and the answer is the last that has. -/
theorem signalStrength_returns_iff (begun : Step t (.begins (.signalStrength peer)) start)
    (run : Run start trace u) (quiet : ∀ x ∈ trace, x.1 = .quiet) (percent : Nat) :
    (∃ last, Step u (.returns (.signalStrength peer) (.ok (.strength percent))) last) ↔
      u.caller = .listening peer ∧ ∃ p, LastReport (packetsIn start trace) p percent := by
  have emptied : start.link.signal = none := by
    cases begun with
    | signalStrength => rfl
  have stands := run.signal quiet
  rw [emptied, Option.or_none] at stands
  rw [← getLast?_reported_iff, ← stands]
  constructor
  · rintro ⟨last, returned⟩
    cases returned with
    | hear listens reported => exact ⟨listens, reported⟩
  · rintro ⟨listens, reported⟩
    exact ⟨_, .hear listens reported⟩

/-- A run of which nothing shows, and the packets that are taken in meanwhile. -/
structure Meanwhile (t : Tasks) (ps : List Packet) (trace : List (Event × Tasks)) (u : Tasks) :
    Prop where
  run : Run t trace u
  quiet : ∀ x ∈ trace, x.1 = .quiet
  packets : packetsIn t trace = ps

namespace Meanwhile

variable {ps : List Packet}

theorem begin (_ : Step t (.begins (.signalStrength peer)) start) : Meanwhile start [] [] start :=
  ⟨.nil, List.forall_mem_nil _, rfl⟩

theorem step {taken : Option Packet} (meanwhile : Meanwhile t ps trace u)
    (step : Step u .quiet next) (takes : packetOf? u next = taken) :
    Meanwhile t (ps ++ taken.toList) (trace ++ [(.quiet, next)]) next := by
  obtain ⟨run, quiet, rfl⟩ := meanwhile
  subst takes
  refine ⟨run.append (.cons step .nil), ?_, gather_concat _ run⟩
  exact List.forall_mem_append.mpr ⟨quiet, List.forall_mem_singleton.mpr rfl⟩

end Meanwhile

/-- A device that was not asked reports its signal, and the peer does not. -/
theorem signalStrength_returns_stranger :
    let peer : Address := ⟨[0x00, 0x80, 0x25, 0x00, 0x00, 0x01], rfl⟩
    let stranger : Address := ⟨[0x00, 0x80, 0x25, 0x00, 0x00, 0x02], rfl⟩
    ∃ t start trace u last, t.Reached ∧ Step t (.begins (.signalStrength peer)) start ∧
      Run start trace u ∧ (∀ x ∈ trace, x.1 = .quiet) ∧
      Step u (.returns (.signalStrength peer) (.ok (.strength 80))) last ∧
      (∃ p, LastReport (packetsIn start trace) p 80) ∧
      ∀ p ∈ packetsIn start trace, p.source = stranger := by
  intro peer stranger
  let own : Address := ⟨[0x00, 0x80, 0x25, 0x00, 0x00, 0x09], rfl⟩
  let hello : Packet := .of .idExchange peer .zero [0, 4, 0x70, 0, 3]
  let addresses : Packet := .of .address peer own (peer.wire ++ [1] ++ own.wire)
  let list : Packet := .of .topology peer own (peer.wire ++ [2, 1])
  let report : Packet := .of .signalReport stranger own [0, 0, 0, 0, 0xCC]
  let listed := list.layout ++ []
  let addressed := addresses.layout ++ listed
  let transport : Transport :=
    { arrivals := [⟨0, .octets (hello.layout ++ addressed)⟩, ⟨0, .octets (report.layout ++ [])⟩] }
  have decodes {p : Packet} (fits : p.payload.length ≤ Packet.maxPayload) (rest : Bytes) :
      Packet.decode (p.layout ++ rest) = .ok (some (p, rest)) :=
    Packet.decode_layout_append fits rest
  have unused : (new transport).Reached := ⟨transport, [], .nil⟩
  have begun := unused.step (.connect rfl rfl)
  have reads := begun.step (.goOn rfl rfl)
  have arrived := reads.step (@Step.arrive _ 500 _ _ rfl rfl)
  have greeted := arrived.step (@Step.hello _ hello addressed 3 rfl (decodes (by decide) _) rfl)
  have answers := greeted.step (.turn rfl rfl)
  have answered := answers.step (.answered rfl rfl)
  have learnt := answered.step (@Step.packet _ addresses listed _ rfl (decodes (by decide) _) rfl
    (handle_announcement rfl (by decide)))
  have known := learnt.step (@Step.packet _ list [] _ rfl (decodes (by decide) _) rfl
    (handle_deviceList rfl (by decide)))
  have connected := known.step (.connected rfl rfl)
  have drained := connected.step (.drained rfl rfl)
  have asks {t : Tasks} (_ : t.Reached) (free : t.caller = .idle) (usable : t.link.fault? = none) :
      Step t (.begins (.signalStrength peer))
        { t with
          link := { t.link with signal := none }
          caller := .queueing (.signalStrength peer) [t.link.signalQuery peer] } :=
    .signalStrength free usable
  have asking := asks drained rfl rfl
  have writes := (Meanwhile.begin asking).step (.startSending rfl rfl) (packetOf?_of_same rfl)
  have written := writes.step (.send rfl rfl) (packetOf?_of_same rfl)
  have listens := written.step (.asked rfl) (packetOf?_of_same rfl)
  have looks := listens.step (.goOn rfl rfl) (packetOf?_of_same rfl)
  have hears := looks.step (@Step.arrive _ 500 _ _ rfl rfl) (packetOf?_of_ne nofun)
  have notes := hears.step (@Step.packet _ report [] _ rfl (decodes (by decide) []) rfl
    (handle_of_takesData rfl report)) (packetOf?_of_decode rfl (decodes (by decide) []) rfl)
  have returns {u : Tasks} (stands : u.caller = .listening peer)
      (reported : u.link.signal = some 80) :
      Step u (.returns (.signalStrength peer) (.ok (.strength 80))) { u with caller := .idle } :=
    .hear stands reported
  obtain ⟨-, last⟩ :=
    (signalStrength_returns_iff asking notes.run notes.quiet 80).mp ⟨_, returns rfl rfl⟩
  refine ⟨_, _, _, _, _, drained, asking, notes.run, notes.quiet, returns rfl rfl, last, ?_⟩
  rw [notes.packets]
  exact List.forall_mem_singleton.mpr rfl

end Tasks

end SolarTelemetry.Link
