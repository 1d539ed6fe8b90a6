import SolarTelemetry.Proofs.Link.Scheduling

/-!
# What a reader takes in

Along a run the reader takes octets from the transport, and packets off its buffer. Whatever else
happens in between, a step that is not the reader's leaves its buffer alone, unless it begins a
connection.
-/

namespace SolarTelemetry.Link

/-- The packet that opens the handshake brings no data. -/
theorem handle_hello_keeps {link : Link} {p : Packet} {netId : UInt8}
    (names : link.networkOf? p = some netId) :
    (Outcome.state (handle p link)).parts = link.parts ∧
      (Outcome.state (handle p link)).queue = link.queue := by
  rw [handle_of_networkOf? names]
  cases ran : transmitOne (.of .idExchange .zero p.source p.payload)
      { link with info := { link.info with netId, peerAddress := p.source } } with
  | ok _ next =>
    obtain ⟨transport, octets, rfl, -⟩ := eq_of_transmitOne_ok ran
    exact ⟨rfl, rfl⟩
  | error e next =>
    obtain ⟨transport, rfl, -⟩ := eq_of_transmitOne_error ran
    exact ⟨rfl, rfl⟩

namespace Tasks

/-- The octets that a step takes from the transport. -/
def octetsOf (t next : Tasks) : Bytes :=
  if t.reader = .reading ∧ next.reader = .unpacking then
    next.link.buffer.drop t.link.buffer.length
  else []

/-- The packet that a step takes off the buffer. -/
def packetOf? (t next : Tasks) : Option Packet :=
  if t.reader = .unpacking then
    match Packet.decode t.link.buffer with
    | .ok (some (p, rest)) => if next.link.buffer = rest then some p else none
    | _ => none
  else none

/-- The payload that a step completes. -/
def completionOf? (t next : Tasks) : Option Delivery :=
  (packetOf? t next).bind (completed? · t.link)

/-- What the steps of a run bring, one after the other. -/
def gather {α : Type} (brings : Tasks → Tasks → List α) : Tasks → List (Event × Tasks) → List α
  | _, [] => []
  | t, (_, next) :: trace => brings t next ++ gather brings next trace

def octetsIn : Tasks → List (Event × Tasks) → Bytes := gather octetsOf

def packetsIn : Tasks → List (Event × Tasks) → List Packet :=
  gather fun t next => (packetOf? t next).toList

def completionsIn : Tasks → List (Event × Tasks) → List Delivery :=
  gather fun t next => (completionOf? t next).toList

variable {t next last : Tasks} {e : Event} {trace : List (Event × Tasks)}

@[simp] theorem octetsIn_nil (t : Tasks) : octetsIn t [] = [] := rfl

@[simp] theorem packetsIn_nil (t : Tasks) : packetsIn t [] = [] := rfl

@[simp] theorem completionsIn_nil (t : Tasks) : completionsIn t [] = [] := rfl

@[simp] theorem octetsIn_cons (t next : Tasks) (e : Event) (trace : List (Event × Tasks)) :
    octetsIn t ((e, next) :: trace) = octetsOf t next ++ octetsIn next trace := by
  rw [octetsIn, gather]

@[simp] theorem packetsIn_cons (t next : Tasks) (e : Event) (trace : List (Event × Tasks)) :
    packetsIn t ((e, next) :: trace) = (packetOf? t next).toList ++ packetsIn next trace := by
  rw [packetsIn, gather]

@[simp] theorem completionsIn_cons (t next : Tasks) (e : Event) (trace : List (Event × Tasks)) :
    completionsIn t ((e, next) :: trace) =
      (completionOf? t next).toList ++ completionsIn next trace := by
  rw [completionsIn, gather]

theorem gather_concat {α : Type} (brings : Tasks → Tasks → List α) (run : Run t trace last) :
    gather brings t (trace ++ [(e, next)]) = gather brings t trace ++ brings last next := by
  induction run with
  | nil => simp [gather]
  | cons step rest ih => simp [gather, ih]

theorem Reached.run (reached : t.Reached) (run : Run t trace last) : last.Reached := by
  obtain ⟨transport, before, first⟩ := reached
  exact ⟨transport, before ++ trace, first.append run⟩

theorem octetsOf_of_ne (other : t.reader ≠ .reading ∨ next.reader ≠ .unpacking) :
    octetsOf t next = [] := by
  unfold octetsOf
  rw [if_neg]
  rintro ⟨reads, unpacks⟩
  rcases other with idle | idle
  · exact idle reads
  · exact idle unpacks

theorem octetsOf_of_same (same : next.reader = t.reader) : octetsOf t next = [] := by
  apply octetsOf_of_ne
  rw [same]
  cases t.reader <;> simp

theorem packetOf?_of_ne (other : t.reader ≠ .unpacking) : packetOf? t next = none := if_neg other

theorem packetOf?_of_same (same : next.link.buffer = t.link.buffer) : packetOf? t next = none := by
  unfold packetOf?
  split
  · split
    · next p rest decoded =>
      have shorter := Packet.length_of_decode decoded
      have : 0 < Packet.headerLength := by decide
      rw [if_neg]
      intro taken
      rw [same] at taken
      rw [taken] at shorter
      omega
    · rfl
  · rfl

theorem packetOf?_of_decode {p : Packet} {rest : Bytes} (stands : t.reader = .unpacking)
    (decoded : Packet.decode t.link.buffer = .ok (some (p, rest)))
    (taken : next.link.buffer = rest) : packetOf? t next = some p := by
  unfold packetOf?
  rw [if_pos stands, decoded]
  exact if_pos taken

/-- The payload that a read returns with. -/
def delivered? : Event → Option Delivery
  | .returns _ (.ok (.received d)) => d
  | _ => none

/-- What one step makes of the buffer, of the parts and of the queue. -/
inductive Intake (t next : Tasks) : Event → Bytes → Option Packet → Prop
  | rests {e : Event} (silent : delivered? e = none)
    (still : t.reader = .ended → next.reader = .ended) (buffer : next.link.buffer = t.link.buffer)
    (parts : next.link.parts = t.link.parts) (queue : next.link.queue = t.link.queue) :
    Intake t next e [] none
  | arrives {octets : Bytes} (stands : t.reader = .reading) (unpacks : next.reader = .unpacking)
    (buffer : next.link.buffer = t.link.buffer ++ octets)
    (parts : next.link.parts = t.link.parts) (queue : next.link.queue = t.link.queue) :
    Intake t next .quiet octets none
  | unpacks {p : Packet} {rest : Bytes} (stands : t.reader = .unpacking)
    (decoded : Packet.decode t.link.buffer = .ok (some (p, rest)))
    (buffer : next.link.buffer = rest)
    (parts : next.link.parts = (Outcome.state (handle p t.link)).parts)
    (queue : next.link.queue = (completed? p t.link).or t.link.queue) :
    Intake t next .quiet [] (some p)
  /-- The link fails, and its reader with it. -/
  | drops {e : Event} (silent : delivered? e = none) (ended : next.reader = .ended)
    (buffer : next.link.buffer = []) (parts : next.link.parts = t.link.parts)
    (queue : next.link.queue = t.link.queue) : Intake t next e [] none
  | begins (buffer : next.link.buffer = []) (parts : next.link.parts = [])
    (queue : next.link.queue = t.link.queue) : Intake t next (.begins .connect) [] none
  | delivers {wait : Nat} {d : Delivery} (reader : next.reader = t.reader)
    (buffer : next.link.buffer = t.link.buffer) (parts : next.link.parts = t.link.parts)
    (found : t.link.queue = some d) (queue : next.link.queue = none) :
    Intake t next (.returns (.read wait) (.ok (.received (some d)))) [] none

theorem Intake.of_rests (silent : delivered? e = none)
    (still : t.reader = .ended → next.reader = .ended)
    (reads : t.reader = .reading → next.reader ≠ .unpacking)
    (buffer : next.link.buffer = t.link.buffer) (parts : next.link.parts = t.link.parts)
    (queue : next.link.queue = t.link.queue) :
    Intake t next e (octetsOf t next) (packetOf? t next) := by
  have nothing : octetsOf t next = [] := by
    unfold octetsOf
    rw [if_neg]
    rintro ⟨stands, unpacking⟩
    exact reads stands unpacking
  rw [nothing, packetOf?_of_same buffer]
  exact .rests silent still buffer parts queue

theorem Intake.of_same (silent : delivered? e = none) (reader : next.reader = t.reader)
    (buffer : next.link.buffer = t.link.buffer) (parts : next.link.parts = t.link.parts)
    (queue : next.link.queue = t.link.queue) :
    Intake t next e (octetsOf t next) (packetOf? t next) := by
  refine .of_rests silent (fun ended => reader.trans ended) (fun stands unpacks => ?_) buffer parts
    queue
  rw [reader, stands] at unpacks
  cases unpacks

theorem Intake.of_delivers {wait : Nat} {d : Delivery} (reader : next.reader = t.reader)
    (buffer : next.link.buffer = t.link.buffer) (parts : next.link.parts = t.link.parts)
    (found : t.link.queue = some d) (queue : next.link.queue = none) :
    Intake t next (.returns (.read wait) (.ok (.received (some d)))) (octetsOf t next)
      (packetOf? t next) := by
  rw [octetsOf_of_same reader, packetOf?_of_same buffer]
  exact .delivers reader buffer parts found queue

theorem Intake.of_drops (silent : delivered? e = none)
    (stood : t.reader = .unpacking → ∃ fault, Packet.decode t.link.buffer = .error fault)
    (ended : next.reader = .ended)
    (buffer : next.link.buffer = []) (parts : next.link.parts = t.link.parts)
    (queue : next.link.queue = t.link.queue) :
    Intake t next e (octetsOf t next) (packetOf? t next) := by
  have nothing : packetOf? t next = none := by
    unfold packetOf?
    split
    · next stands =>
      obtain ⟨fault, decoded⟩ := stood stands
      rw [decoded]
    · rfl
  rw [nothing, octetsOf_of_ne (.inr (by rw [ended]; nofun))]
  exact .drops silent ended buffer parts queue

/-- Only the reader takes anything in, and only a new connection throws it away unfailed. -/
theorem Sound.intake (sound : t.Sound) (step : Step t e next) :
    Intake t next e (octetsOf t next) (packetOf? t next) := by
  cases step with
  | world | refuseConnect | connected | noticeFailure | giveUp | broken | close | refuse | write
  | signalStrength | read | startSending | written | asked | receiveFailure | receiveNothing | hear
  | hearNothing => exact .of_same rfl rfl rfl rfl rfl
  | goOn stands | halt stands | lapse stands | drained stands | turn stands =>
    have running : t.reader ≠ .ended := by
      rw [stands]
      nofun
    exact .of_rests rfl (fun ended => absurd ended running) (fun _ => nofun) rfl rfl rfl
  | @arrive limit octets transport stands taken =>
    have taken : octetsOf t ⟨{ t.link with
        transport, since := transport.now, buffer := t.link.buffer ++ octets },
        t.unwanted, .unpacking, t.caller⟩ = octets := by
      rw [octetsOf, if_pos ⟨stands, rfl⟩]
      exact List.drop_left
    have other : t.reader ≠ .unpacking := by
      rw [stands]
      nofun
    rw [taken, packetOf?_of_ne other]
    exact .arrives stands rfl rfl rfl rfl
  | breakDown stands =>
    refine .of_drops rfl (fun unpacks => ?_) rfl rfl rfl rfl
    rw [stands] at unpacks
    cases unpacks
  | malformed stands decoded => exact .of_drops rfl (fun _ => ⟨_, decoded⟩) rfl rfl rfl rfl
  | @packet p rest link stands decoded plain handled =>
    obtain ⟨link', eq, -, -, left, -⟩ := @exists_of_handle p { t.link with buffer := rest } plain
    obtain rfl : link' = link := by
      rw [eq] at handled
      cases handled
      rfl
    have mapped : handle p { t.link with buffer := rest } = _ :=
      respects_handle_buffering rest p t.link
    have state := congrArg Outcome.state (eq.symm.trans mapped)
    rw [Outcome.state_mapState] at state
    rw [octetsOf_of_ne (.inl (by rw [stands]; nofun)), packetOf?_of_decode stands decoded left]
    obtain rfl : link' = buffering rest (Outcome.state (handle p t.link)) := state
    exact .unpacks stands decoded left rfl (queue_handle p t.link)
  | @hello p rest netId stands decoded names =>
    have nothing : completed? p t.link = none :=
      (@handle_hello_keeps { t.link with queue := none } p netId names).2
    rw [octetsOf_of_ne (.inl (by rw [stands]; nofun)), packetOf?_of_decode stands decoded rfl]
    refine .unpacks stands decoded rfl ?_ ?_
    · exact (handle_hello_keeps names).1.symm
    · rw [nothing]
      rfl
  | answered stands written =>
    obtain ⟨transport, octets, rfl, -⟩ := eq_of_transmitOne_ok written
    refine .of_rests rfl (fun ended => ?_) (fun reads => ?_) rfl rfl rfl
    · rw [stands] at ended
      cases ended
    · rw [stands] at reads
      cases reads
  | unanswered stands refused =>
    obtain ⟨transport, rfl, -⟩ := eq_of_transmitOne_error refused
    refine .of_drops rfl (fun unpacks => ?_) rfl rfl rfl rfl
    rw [stands] at unpacks
    cases unpacks
  | connect free phase =>
    have idle : t.reader = .ended := by
      by_contra running
      have reads := sound.running running
      rw [phase] at reads
      cases reads
    rw [octetsOf_of_ne (.inl (by rw [idle]; nofun)), packetOf?_of_ne (by rw [idle]; nofun)]
    exact .begins rfl rfl rfl
  | late stands ended =>
    refine .of_drops rfl (fun unpacks => ?_) ended rfl rfl rfl
    rw [ended] at unpacks
    cases unpacks
  | closed stands ended =>
    by_cases failed : t.link.phase = .failed
    · rw [if_pos failed]
      exact .of_same rfl rfl rfl rfl rfl
    · rw [if_neg failed]
      exact .of_same rfl rfl rfl rfl rfl
  | send stands written =>
    obtain ⟨transport, octets, rfl, -⟩ := eq_of_transmitOne_ok written
    exact .of_same rfl rfl rfl rfl rfl
  | unsent stands refused =>
    obtain ⟨transport, rfl, -⟩ := eq_of_transmitOne_error refused
    exact .of_same rfl rfl rfl rfl rfl
  | receive stands found =>
    exact .of_delivers rfl rfl rfl found rfl

end Tasks

end SolarTelemetry.Link
