import SolarTelemetry.Link
import SolarTelemetry.Proofs.Running

/-!
# Payloads that a link completes

The reader completes payloads whether or not somebody waits for them. Which it completes does not
depend on what waits in the queue, and the queue keeps the newest of them.
-/

namespace SolarTelemetry.Link

/-- A link whose queue holds a payload where its own is empty. -/
def offering (unread : Option Delivery) (link : Link) : Link :=
  { link with queue := link.queue.or unread }

theorem offering_queue (link : Link) : offering link.queue { link with queue := none } = link := rfl

/-- A link with other things in its buffer and, where there is nothing yet, in its queue and as its
last signal report. -/
def setAside (unread : Option Delivery) (heard : Option Nat) (octets : Bytes → Bytes)
    (link : Link) : Link :=
  { link with
    queue := link.queue.or unread
    signal := link.signal.or heard
    buffer := octets link.buffer }

theorem offering_eq (unread : Option Delivery) : offering unread = setAside unread none id := by
  funext link
  rw [setAside, Option.or_none]
  rfl

section

variable (unread : Option Delivery) (heard : Option Nat) (octets : Bytes → Bytes) (link : Link)

@[simp] theorem transport_setAside :
    (setAside unread heard octets link).transport = link.transport := rfl

@[simp] theorem phase_setAside : (setAside unread heard octets link).phase = link.phase := rfl

@[simp] theorem info_setAside : (setAside unread heard octets link).info = link.info := rfl

@[simp] theorem parts_setAside : (setAside unread heard octets link).parts = link.parts := rfl

@[simp] theorem isForThisEnd_setAside (p : Packet) :
    (setAside unread heard octets link).isForThisEnd p = link.isForThisEnd p := rfl

theorem respects_transmitOne (p : Packet) :
    (transmitOne p).Respects (setAside unread heard octets) := by
  intro link
  unfold transmitOne
  cases p.encode with
  | error e => rfl
  | ok raw =>
    have sent : (Action.zoom transport (fun link t => { link with transport := t })
        (Transport.write raw p.destination)).Respects (setAside unread heard octets) :=
      Action.respects_zoom (transport_setAside unread heard octets) fun _ _ => rfl
    exact sent link

theorem respects_transmit (ps : List Packet) :
    (transmit ps).Respects (setAside unread heard octets) := by
  induction ps with
  | nil => exact Action.respects_pure ()
  | cons p ps ih => exact (respects_transmitOne unread heard octets p).bind fun _ => ih

theorem respects_joinNetwork (p : Packet) :
    (joinNetwork p).Respects (setAside unread heard octets) := by
  intro link
  unfold joinNetwork
  simp only [phase_setAside, info_setAside]
  split
  · next netId _ _ =>
    have sent := respects_transmit unread heard octets [.of .idExchange .zero p.source p.payload]
      { link with info := { link.info with netId, peerAddress := p.source } }
    simp only [setAside] at sent ⊢
    rw [sent]
    cases transmit [.of .idExchange .zero p.source p.payload]
      { link with info := { link.info with netId, peerAddress := p.source } } <;> rfl
  · rfl

theorem takeData_setAside (last : Bool) (p : Packet) :
    takeData last p (setAside unread heard octets link) =
      setAside unread heard octets (takeData last p link) := by
  unfold takeData
  simp only [phase_setAside, isForThisEnd_setAside, parts_setAside]
  by_cases taken : link.phase.takesData && link.isForThisEnd p
  · simp only [taken, if_true]
    rcases link.parts.accept p.source p.payload last with ⟨_ | payload, parts⟩ <;> rfl
  · simp only [taken, if_false, Bool.false_eq_true]

/-- Handling a packet looks neither into the queue nor into the buffer, and not at the last signal
report. -/
theorem respects_handle_setAside (p : Packet) :
    (handle p).Respects (setAside unread heard octets) := by
  unfold handle
  split
  · exact respects_joinNetwork unread heard octets p
  · apply Action.respects_modify
    intro link
    simp only [noteAddresses, phase_setAside]
    split <;> rfl
  · apply Action.respects_modify
    intro link
    simp only [noteDevices, phase_setAside]
    split <;> rfl
  · apply Action.respects_modify
    intro link
    simp only [noteSignal]
    split <;> rfl
  · exact Action.respects_modify fun link => takeData_setAside unread heard octets link true p
  · exact Action.respects_modify fun link => takeData_setAside unread heard octets link false p
  all_goals exact Action.respects_pure ()

theorem respects_handleAll_setAside (ps : List Packet) :
    (handleAll ps).Respects (setAside unread heard octets) := by
  induction ps with
  | nil => exact Action.respects_pure ()
  | cons p ps ih => exact (respects_handle_setAside unread heard octets p).bind fun _ => ih

end

theorem respects_handle (unread : Option Delivery) (p : Packet) :
    (handle p).Respects (offering unread) := by
  rw [offering_eq]
  exact respects_handle_setAside unread none id p

/-- The payload that a packet completes, if it completes one. -/
def completed? (p : Packet) (link : Link) : Option Delivery :=
  (Outcome.state (handle p { link with queue := none })).queue

theorem queue_handle (p : Packet) (link : Link) :
    (Outcome.state (handle p link)).queue = (completed? p link).or link.queue := by
  have split := respects_handle link.queue p { link with queue := none }
  rw [offering_queue] at split
  rw [split]
  unfold completed?
  cases handle p { link with queue := none } <;> rfl

/-- Every payload that is completed while packets are handled in turn. -/
def completions : List Packet → Link → List Delivery
  | [], _ => []
  | p :: ps, link =>
    (completed? p link).toList ++
      match handle p link with
      | .ok () link => completions ps link
      | .error _ _ => []

theorem getLast?_toList_append (first : Option Delivery) (others : List Delivery) :
    (first.toList ++ others).getLast? = others.getLast?.or first := by
  rw [List.getLast?_append]
  cases first <;> rfl

/-- The queue keeps the newest payload. -/
theorem queue_handleAll (ps : List Packet) (link : Link) :
    (Outcome.state (handleAll ps link)).queue = (completions ps link).getLast?.or link.queue := by
  induction ps generalizing link with
  | nil => rfl
  | cons p ps ih =>
    have first := queue_handle p link
    unfold handleAll completions
    cases ran : handle p link with
    | ok u next =>
      rw [ran] at first
      rw [Action.bind_of_ok ran, ih next, getLast?_toList_append, Option.or_assoc, ← first]
      rfl
    | error e next =>
      rw [ran] at first
      rw [Action.bind_of_error ran, getLast?_toList_append]
      exact first

theorem completions_offering (unread : Option Delivery) (ps : List Packet) (link : Link) :
    completions ps (offering unread link) = completions ps link := by
  induction ps generalizing link with
  | nil => rfl
  | cons p ps ih =>
    unfold completions
    rw [respects_handle unread p link]
    cases handle p link with
    | ok u next => exact congrArg ((completed? p link).toList ++ ·) (ih next)
    | error e next => rfl

/-- Every payload that is completed when a read has yielded something. -/
def completedBy (got : Except String Bytes) (link : Link) : List Delivery :=
  match got with
  | .error _ => []
  | .ok octets =>
    completions (Packet.drain (link.buffer ++ octets)).packets { link with buffer := [] }

theorem queue_accept (got : Except String Bytes) (link : Link) :
    (accept got link).queue = (completedBy got link).getLast?.or link.queue := by
  unfold accept completedBy
  cases got with
  | error reason => rfl
  | ok octets =>
    have newest := queue_handleAll (Packet.drain (link.buffer ++ octets)).packets
      { link with buffer := [] }
    simp only
    rw [← newest]
    cases handleAll (Packet.drain (link.buffer ++ octets)).packets { link with buffer := [] } with
    | error e next => rfl
    | ok u next => cases (Packet.drain (link.buffer ++ octets)).fault <;> rfl

theorem completedBy_offering (unread : Option Delivery) (got : Except String Bytes) (link : Link) :
    completedBy got (offering unread link) = completedBy got link := by
  cases got with
  | error reason => rfl
  | ok octets => exact completions_offering unread _ { link with buffer := [] }

theorem accept_setAside (unread : Option Delivery) (heard : Option Nat) (got : Except String Bytes)
    (link : Link) :
    accept got (setAside unread heard id link) = setAside unread heard id (accept got link) := by
  cases got with
  | error reason => rfl
  | ok octets =>
    have handled := respects_handleAll_setAside unread heard id
      (Packet.drain (link.buffer ++ octets)).packets { link with buffer := [] }
    have same : (setAside unread heard id link).buffer = link.buffer := rfl
    have emptied : ({ setAside unread heard id link with buffer := [] } : Link) =
        setAside unread heard id { link with buffer := [] } := rfl
    simp only [accept, same]
    rw [emptied, handled]
    cases handleAll (Packet.drain (link.buffer ++ octets)).packets { link with buffer := [] } with
    | error e next => rfl
    | ok u next => cases (Packet.drain (link.buffer ++ octets)).fault <;> rfl

theorem accept_offering (unread : Option Delivery) (got : Except String Bytes) (link : Link) :
    accept got (offering unread link) = offering unread (accept got link) := by
  rw [offering_eq]
  exact accept_setAside unread none got link

end SolarTelemetry.Link
