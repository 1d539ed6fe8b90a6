import SolarTelemetry.Proofs.Link.Surviving

/-!
# Connecting again

A new connection begins with an empty buffer and without parts, so every payload that is completed
from then on is made of packets that arrived since. The queue is not emptied: a payload that nobody
read before the link was closed is still there, and is what the next read returns if none has been
completed by then.
-/

namespace SolarTelemetry

namespace Link

variable {link : Link} {p : Packet}

/-- Before the devices are known, no packet touches what is held or the queue. -/
theorem handle_of_not_takesData (early : ¬link.phase.takesData) (p : Packet) :
    (Outcome.state (handle p link)).parts = link.parts ∧
      (Outcome.state (handle p link)).queue = link.queue := by
  have untaken (last : Bool) : takeData last p link = link := by
    unfold takeData
    rw [Bool.eq_false_iff.mpr early]
    rfl
  cases names : link.networkOf? p with
  | some netId => exact handle_hello_keeps names
  | none =>
    rcases handle_of_plain names with digests | ⟨-, _, handled⟩ | ⟨-, _, handled⟩
    · rw [digests]
      change (digest p link).parts = link.parts ∧ (digest p link).queue = link.queue
      unfold digest
      split
      · unfold noteSignal
        split <;> exact ⟨rfl, rfl⟩
      · simp [untaken]
      · simp [untaken]
      · exact ⟨rfl, rfl⟩
    · rw [handled]
      exact ⟨rfl, rfl⟩
    · rw [handled]
      exact ⟨rfl, rfl⟩

theorem takesData_of_completed? {d : Delivery} (completes : completed? p link = some d) :
    link.phase.takesData := by
  by_contra early
  have untouched := (@handle_of_not_takesData { link with queue := none } early p).2
  rw [completed?, untouched] at completes
  cases completes

/-- A packet adds its payload to what is held of its sender, or leaves nothing of it. -/
theorem held_handle (p : Packet) (link : Link) (source : Address) :
    (Outcome.state (handle p link)).parts.held source = link.parts.held source ∨
      (Outcome.state (handle p link)).parts.held source = [] ∨
      p.source = source ∧ (Outcome.state (handle p link)).parts.held source =
        link.parts.held source ++ p.payload := by
  by_cases takes : link.phase.takesData
  · rw [handle_of_takesData takes]
    change (digest p link).parts.held source = _ ∨ (digest p link).parts.held source = [] ∨
      p.source = source ∧ (digest p link).parts.held source = _
    rw [held_digest takes]
    cases brings : partFrom? link.info.ownAddress source p with
    | none => exact .inl rfl
    | some brought =>
      obtain ⟨part, last⟩ := brought
      unfold partFrom? at brings
      split at brings
      · next mine =>
        obtain ⟨closing, _, same⟩ := Option.map_eq_some_iff.mp brings
        obtain ⟨rfl, rfl⟩ := Prod.mk.inj same
        simp only [Option.toList_some, joinParts]
        by_cases emptied : (joinPart (link.parts.held source) p.payload closing).2 = []
        · exact .inr (.inl emptied)
        · exact .inr (.inr ⟨mine.1, joinPart_of_ne_nil emptied⟩)
      · cases brings
  · rw [(handle_of_not_takesData takes p).1]
    exact .inl rfl

/-- These octets are payloads of packets from one sender, in the order of their arrival. -/
def MadeOf (seen : List Packet) (source : Address) (octets : Bytes) : Prop :=
  ∃ ps : List Packet, ps.Sublist seen ∧ (∀ p ∈ ps, p.source = source) ∧
    octets = ps.flatMap (·.payload)

namespace MadeOf

variable {seen : List Packet} {source : Address} {octets : Bytes}

theorem nil : MadeOf seen source [] := ⟨[], List.nil_sublist seen, nofun, rfl⟩

theorem mono {more : List Packet} (made : MadeOf seen source octets) (within : seen.Sublist more) :
    MadeOf more source octets := by
  obtain ⟨ps, sub, rest⟩ := made
  exact ⟨ps, sub.trans within, rest⟩

theorem concat (made : MadeOf seen source octets) (same : p.source = source) :
    MadeOf (seen ++ [p]) source (octets ++ p.payload) := by
  obtain ⟨ps, sub, sources, rfl⟩ := made
  refine ⟨ps ++ [p], sub.append (List.Sublist.refl [p]), ?_, by simp⟩
  intro q member
  rcases List.mem_append.mp member with old | new
  · exact sources q old
  · rw [List.mem_singleton.mp new]
    exact same

end MadeOf

namespace Tasks

variable {t next start u last : Tasks} {e : Event} {trace : List (Event × Tasks)}
  {octets : Bytes} {seen : List Packet} {completed : List Delivery}

/-- All that a link has of the packets it takes in comes from what was taken from the transport. -/
structure Since (octets : Bytes) (seen : List Packet) (completed : List Delivery) (t : Tasks) :
    Prop where
  buffer : t.link.buffer <:+ octets
  received : ∀ p ∈ seen, ∃ raw, Packet.decode raw = .ok (some (p, [])) ∧ raw <:+: octets
  held : ∀ source, MadeOf seen source (t.link.parts.held source)
  made : ∀ d ∈ completed, MadeOf seen d.source d.payload

theorem since_begun (begun : Step t (.begins .connect) start) : Since [] [] [] start := by
  cases begun with
  | connect =>
    exact ⟨List.suffix_refl _, nofun, fun _ => .nil, nofun⟩

/-- Packets that are taken off the buffer later were received as well. -/
theorem Since.received_append (since : Since octets seen completed t) (more : Bytes) :
    ∀ p ∈ seen, ∃ raw, Packet.decode raw = .ok (some (p, [])) ∧ raw <:+: octets ++ more := by
  intro p member
  obtain ⟨raw, decoded, within⟩ := since.received p member
  exact ⟨raw, decoded, within.trans (List.prefix_append octets more).isInfix⟩

theorem Since.step (since : Since octets seen completed t) (sound : t.Sound)
    (step : Step t e next) :
    Since (octets ++ octetsOf t next) (seen ++ (packetOf? t next).toList)
      (completed ++ (completionOf? t next).toList) next := by
  have intake := sound.intake step
  unfold completionOf?
  generalize octetsOf t next = taken, packetOf? t next = unpacked at intake ⊢
  have empty {bs : Bytes} (nothing : next.link.buffer = []) : next.link.buffer <:+ bs := by
    rw [nothing]
    exact List.nil_suffix
  cases intake with
  | rests _ _ buffer parts | delivers _ buffer parts =>
    simp only [Option.toList_none, List.append_nil, Option.bind_none]
    exact ⟨buffer ▸ since.buffer, since.received, parts ▸ since.held, since.made⟩
  | drops _ _ buffer parts =>
    simp only [Option.toList_none, List.append_nil, Option.bind_none]
    exact ⟨empty buffer, since.received, parts ▸ since.held, since.made⟩
  | begins buffer parts =>
    simp only [Option.toList_none, List.append_nil, Option.bind_none]
    refine ⟨empty buffer, since.received, fun source => ?_, since.made⟩
    rw [parts]
    exact .nil
  | arrives stands unpacks buffer parts =>
    simp only [Option.toList_none, List.append_nil, Option.bind_none]
    refine ⟨?_, since.received_append taken, parts ▸ since.held, since.made⟩
    obtain ⟨before, rfl⟩ := since.buffer
    rw [buffer]
    exact ⟨before, by simp⟩
  | @unpacks p rest stands decoded buffer parts queue =>
    obtain ⟨raw, front, alone⟩ := Packet.exists_raw_of_decode decoded
    have within : raw ++ rest <:+ octets := front ▸ since.buffer
    have later : seen.Sublist (seen ++ [p]) := List.sublist_append_left seen [p]
    simp only [Option.toList_some, List.append_nil, Option.bind_some]
    refine ⟨?_, ?_, ?_, ?_⟩
    · rw [buffer]
      exact (List.suffix_append raw rest).trans within
    · intro q member
      rcases List.mem_append.mp member with old | new
      · exact since.received q old
      · rw [List.mem_singleton.mp new]
        exact ⟨raw, alone, (List.prefix_append raw rest).isInfix.trans within.isInfix⟩
    · intro source
      rw [parts]
      rcases held_handle p t.link source with same | none | ⟨mine, more⟩
      · rw [same]
        exact (since.held source).mono later
      · rw [none]
        exact .nil
      · rw [more]
        exact (since.held source).concat mine
    · intro d member
      rcases List.mem_append.mp member with old | new
      · exact (since.made d old).mono later
      · have completes : completed? p t.link = some d := Option.mem_toList.mp new
        obtain ⟨brings, payload⟩ :=
          eq_of_completed? (takesData_of_completed? completes) completes
        have mine : p.source = d.source := by
          unfold partFrom? at brings
          split at brings
          · next here => exact here.1
          · cases brings
        rw [payload]
        exact (since.held d.source).concat mine

theorem Since.run (since : Since octets seen completed t) (sound : t.Sound)
    (run : Run t trace last) :
    Since (octets ++ octetsIn t trace) (seen ++ packetsIn t trace)
      (completed ++ completionsIn t trace) last := by
  induction run generalizing octets seen completed with
  | nil =>
    simpa using since
  | cons step rest ih =>
    have whole := ih (since.step sound step) (sound.step step).1
    simpa only [octetsIn_cons, packetsIn_cons, completionsIn_cons, List.append_assoc] using whole

/-- Whatever stands in the queue was completed on the way, or was there before and nothing has been
completed or read since. -/
theorem Run.queue {d : Delivery} (run : Run t trace last) (sound : t.Sound)
    (found : last.link.queue = some d) :
    d ∈ completionsIn t trace ∨
      t.link.queue = some d ∧ completionsIn t trace = [] ∧
        ∀ x ∈ trace, delivered? x.1 = none := by
  induction run with
  | nil => exact .inr ⟨found, rfl, List.forall_mem_nil _⟩
  | @cons t next last e trace step rest ih =>
    have intake := sound.intake step
    rw [completionsIn_cons, completionOf?]
    generalize octetsOf t next = taken, packetOf? t next = unpacked at intake ⊢
    rcases ih (sound.step step).1 found with later | ⟨before, none, unread⟩
    · exact .inl (List.mem_append_right _ later)
    · have silent (same : next.link.queue = t.link.queue) (quiet : delivered? e = Option.none) :
          t.link.queue = some d ∧ ∀ x ∈ (e, next) :: trace, delivered? x.1 = Option.none :=
        ⟨same ▸ before, List.forall_mem_cons.mpr ⟨quiet, unread⟩⟩
      cases intake with
      | rests quiet _ _ _ same | drops quiet _ _ _ same =>
        obtain ⟨old, still⟩ := silent same quiet
        exact .inr ⟨old, by simpa using none, still⟩
      | begins _ _ same | arrives _ _ _ _ same =>
        obtain ⟨old, still⟩ := silent same rfl
        exact .inr ⟨old, by simpa using none, still⟩
      | @unpacks p left _ _ _ _ queue =>
        rw [queue, Option.or_eq_some_iff] at before
        rcases before with now | ⟨nothing, old⟩
        · exact .inl (by simp [now])
        · refine .inr ⟨old, by simpa [nothing] using none, ?_⟩
          exact List.forall_mem_cons.mpr ⟨rfl, unread⟩
      | delivers _ _ _ _ emptied =>
        rw [emptied] at before
        cases before

/-- A payload that was completed after a connection had begun, of nothing but what arrived since. -/
structure Fresh (start : Tasks) (trace : List (Event × Tasks)) (d : Delivery) : Prop where
  completed : d ∈ completionsIn start trace
  made : MadeOf (packetsIn start trace) d.source d.payload
  received : ∀ p ∈ packetsIn start trace,
    ∃ raw, Packet.decode raw = .ok (some (p, [])) ∧ raw <:+: octetsIn start trace

/-- Nothing has been completed on the way, and nothing read. -/
def Untouched (start : Tasks) (trace : List (Event × Tasks)) : Prop :=
  completionsIn start trace = [] ∧ ∀ x ∈ trace, delivered? x.1 = none

/-- What a read returns after a connection has begun is fresh, unless nothing has been completed and
nothing read since: then it is what the queue held when the connection began. -/
theorem Reached.read_after_connect {wait : Nat} {d : Delivery} (reached : t.Reached)
    (begun : Step t (.begins .connect) start) (run : Run start trace u)
    (returned : Step u (.returns (.read wait) (.ok (.received (some d)))) last) :
    (Untouched start trace → t.link.queue = some d) ∧
      (¬Untouched start trace → Fresh start trace d) := by
  have sound := (reached.step begun).sound
  have found : u.link.queue = some d := by
    cases returned with
    | receive stands found => exact found
  have kept : start.link.queue = t.link.queue := by
    cases begun with
    | connect => rfl
  have since := (since_begun begun).run sound run
  simp only [List.nil_append] at since
  rcases run.queue sound found with completed | ⟨old, none, unread⟩
  · refine ⟨fun untouched => ?_, fun _ => ⟨completed, since.made d completed, since.received⟩⟩
    rw [untouched.1] at completed
    cases completed
  · exact ⟨fun _ => kept ▸ old, fun touched => absurd ⟨none, unread⟩ touched⟩

theorem completionOf?_of_not_takesData (early : ¬t.link.phase.takesData) :
    completionOf? t next = none := by
  unfold completionOf?
  cases packetOf? t next with
  | none => rfl
  | some p =>
    cases completes : completed? p t.link with
    | none => exact completes
    | some d => exact absurd (takesData_of_completed? completes) early

theorem completionOf?_of_same (same : next.link.buffer = t.link.buffer) :
    completionOf? t next = none := by
  rw [completionOf?, packetOf?_of_same same, Option.bind_none]

theorem completionsIn_concat (run : Run t trace u) :
    completionsIn t (trace ++ [(e, next)]) =
      completionsIn t trace ++ (completionOf? u next).toList :=
  gather_concat _ run

/-- A run on which nothing is completed and nothing read. -/
structure Passes (t : Tasks) (trace : List (Event × Tasks)) (u : Tasks) : Prop where
  run : Run t trace u
  untouched : Untouched t trace

theorem Passes.begin (_ : Step t e start) : Passes start [] start :=
  ⟨.nil, rfl, List.forall_mem_nil _⟩

theorem Passes.step (passes : Passes t trace u) (step : Step u e next)
    (nothing : completionOf? u next = none) (silent : delivered? e = none) :
    Passes t (trace ++ [(e, next)]) next := by
  obtain ⟨run, uncompleted, unread⟩ := passes
  refine ⟨run.append (.cons step .nil), ?_, ?_⟩
  · rw [completionsIn_concat run, uncompleted, nothing]
    rfl
  · exact List.forall_mem_append.mpr ⟨unread, List.forall_mem_singleton.mpr silent⟩

/-- A payload that comes in just before the link is closed is read on the next connection. -/
theorem Reached.read_after_connect_unread :
    let peer : Address := ⟨[0x00, 0x80, 0x25, 0x00, 0x00, 0x01], rfl⟩
    ∃ t start trace u last, t.Reached ∧ Step t (.begins .connect) start ∧ Run start trace u ∧
      Step u (.returns (.read 1000) (.ok (.received (some ⟨peer, [7, 8]⟩)))) last ∧
      Untouched start trace ∧ t.link.queue = some ⟨peer, [7, 8]⟩ := by
  intro peer
  let own : Address := ⟨[0x00, 0x80, 0x25, 0x00, 0x00, 0x09], rfl⟩
  let hello : Packet := .of .idExchange peer .zero [0, 4, 0x70, 0, 3]
  let addresses : Packet := .of .address peer own (peer.wire ++ [1] ++ own.wire)
  let list : Packet := .of .topology peer own (peer.wire ++ [2, 1])
  let data : Packet := .of .data peer own [7, 8]
  let handshake (rest : Bytes) : Bytes :=
    hello.layout ++ (addresses.layout ++ (list.layout ++ rest))
  let transport : Transport :=
    { arrivals := [⟨0, .octets (handshake (data.layout ++ []))⟩, ⟨0, .octets (handshake [])⟩] }
  have decodes {p : Packet} (fits : p.payload.length ≤ Packet.maxPayload) (rest : Bytes) :
      Packet.decode (p.layout ++ rest) = .ok (some (p, rest)) :=
    Packet.decode_layout_append fits rest
  have unused : (new transport).Reached := ⟨transport, [], .nil⟩
  have begun := unused.step (.connect rfl rfl)
  have reads := begun.step (.goOn rfl rfl)
  have arrived := reads.step (@Step.arrive _ 500 _ _ rfl rfl)
  have greeted := arrived.step (@Step.hello _ hello _ 3 rfl (decodes (by decide) _) rfl)
  have answers := greeted.step (.turn rfl rfl)
  have answered := answers.step (.answered rfl rfl)
  have learnt := answered.step (@Step.packet _ addresses _ _ rfl (decodes (by decide) _) rfl
    (handle_announcement rfl (by decide)))
  have known := learnt.step (@Step.packet _ list _ _ rfl (decodes (by decide) _) rfl
    (handle_deviceList rfl (by decide)))
  have connected := known.step (.connected rfl rfl)
  have taken := connected.step (@Step.packet _ data [] _ rfl (decodes (by decide) []) rfl
    (handle_of_takesData rfl data))
  have drained := taken.step (.drained rfl rfl)
  have closing := drained.step (.close rfl)
  have halted := closing.step (.halt rfl rfl)
  have closed := halted.step (.closed rfl rfl)
  have connects {t : Tasks} (_ : t.Reached) (free : t.caller = .idle)
      (phase : t.link.phase = .notConnected) :
      Step t (.begins .connect) ⟨t.link.started, false, .looping, .connecting⟩ :=
    .connect free phase
  have again := connects closed rfl rfl
  have early {t next : Tasks} (phase : t.link.phase.takesData = false) :
      completionOf? t next = none :=
    completionOf?_of_not_takesData (by rw [phase]; nofun)
  have looks := (Passes.begin again).step (.goOn rfl rfl) (early rfl) rfl
  have hears := looks.step (@Step.arrive _ 500 _ _ rfl rfl) (early rfl) rfl
  have greets := hears.step (@Step.hello _ hello _ 3 rfl (decodes (by decide) _) rfl)
    (early rfl) rfl
  have waits := greets.step (.turn rfl rfl) (early rfl) rfl
  have joins := waits.step (.answered rfl rfl) (early rfl) rfl
  have learns := joins.step (@Step.packet _ addresses _ _ rfl (decodes (by decide) _) rfl
    (handle_announcement rfl (by decide))) (early rfl) rfl
  have lists := learns.step (@Step.packet _ list _ _ rfl (decodes (by decide) _) rfl
    (handle_deviceList rfl (by decide))) (early rfl) rfl
  have completes := lists.step (.connected rfl rfl) (completionOf?_of_same rfl) rfl
  have asks := completes.step (@Step.read _ 1000 rfl rfl) (completionOf?_of_same rfl) rfl
  have returns {u : Tasks} (stands : u.caller = .receiving 1000)
      (found : u.link.queue = some ⟨peer, [7, 8]⟩) :
      Step u (.returns (.read 1000) (.ok (.received (some ⟨peer, [7, 8]⟩))))
        { u with link := { u.link with queue := none }, caller := .idle } :=
    .receive stands found
  exact ⟨_, _, _, _, _, closed, again, asks.run, returns rfl rfl, asks.untouched,
    (closed.read_after_connect again asks.run (returns rfl rfl)).1 asks.untouched⟩

end Tasks

end Link

end SolarTelemetry
