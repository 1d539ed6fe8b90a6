import SolarTelemetry.Calendar
import SolarTelemetry.Frame.Stream
import SolarTelemetry.Message.Reply
import SolarTelemetry.Retry
import SolarTelemetry.Numbering

/-!
# Sessions

A session makes one request at a time. Each attempt at one has a transaction number of its own and
starts with an empty buffer; of the replies, those that carry the number are looked at and all
others are passed over. Every reply is paid for out of what the channel can still deliver.
-/

namespace SolarTelemetry

structure Device where
  serial : UInt32
  susyId : UInt16
  /-- Where its discovery reply came from. -/
  address : Address
  authenticated : Bool := false
  deriving DecidableEq

def Device.target (d : Device) : Target := ⟨d.susyId, d.serial⟩

structure Session (σ : Type) where
  stream : FrameStream σ
  ownSerial : UInt32
  /-- How long to wait for a reply, in milliseconds. -/
  timeout : Nat
  /-- What the wall clock shows, in seconds since 1970. -/
  wallClock : Int
  numbering : Numbering := {}
  devices : List Device := []

namespace Session

variable {σ : Type} [Channel σ] {α : Type}

instance : Clock (Session σ) where
  now s := Clock.now s.stream
  sleep ms s := { s with stream := Clock.sleep ms s.stream }

def pending (s : Session σ) : Nat := s.stream.pending

def onStream (act : Action (FrameStream σ) α) : Action (Session σ) α :=
  act.zoom stream fun s stream => { s with stream }

def ofProtocol (r : Except ProtocolError α) : Action (Session σ) α :=
  .ofExcept (r.mapError .protocol)

def send (request : Request) (destination : Address) (packetId : UInt16) :
    Action (Session σ) Unit := fun s =>
  onStream (FrameStream.write (request.encode s.ownSerial packetId) destination) s

/-- The next reply with a packet number, before a moment, and where it came from. -/
def receiveUntil (deadline : Nat) (packetId : UInt16) (s : Session σ) :
    Outcome (Session σ) (Address × Reply) :=
  let now := Clock.now s
  if deadline ≤ now then .error (.timeout "reply") s
  else
    match _read : FrameStream.read (deadline - now) s.stream with
    | .error e stream => .error e { s with stream }
    | .ok frame stream =>
      match Reply.decode frame.payload with
      | .error _ => receiveUntil deadline packetId { s with stream }
      | .ok reply =>
        if reply.packetId = packetId &&& ~~~Request.packetFlag then
          .ok (frame.source, reply) { s with stream }
        else receiveUntil deadline packetId { s with stream }
termination_by s.pending
decreasing_by all_goals exact (FrameStream.spends_read _).lt _read

def receive (packetId : UInt16) : Action (Session σ) (Address × Reply) := fun s =>
  receiveUntil (Clock.now s + s.timeout) packetId s

/-- Runs an attempt under the current transaction number, which is used up whatever comes of it. -/
def transaction (attempt : UInt16 → Action (Session σ) α) : Action (Session σ) α := fun s =>
  match attempt s.numbering.current s with
  | .ok a s => .ok a { s with numbering := s.numbering.next }
  | .error e s => .error e { s with numbering := s.numbering.next }

/-- A transaction that begins with nothing buffered. -/
def exchange (attempt : UInt16 → Action (Session σ) α) : Action (Session σ) α :=
  transaction fun packetId => do
    onStream FrameStream.discard
    attempt packetId

def device (serial : UInt32) : Action (Session σ) Device := fun s =>
  match s.devices.find? (·.serial == serial) with
  | some d => .ok d s
  | none => .error (.protocol (.unknownDevice serial)) s

theorem pending_sleep_le (ms : Nat) (s : Session σ) :
    pending (Clock.sleep ms s) ≤ pending s :=
  FrameStream.pending_sleep_le ms s.stream

theorem keeps_onStream {act : Action (FrameStream σ) α} (h : act.Keeps FrameStream.pending) :
    (onStream act).Keeps pending :=
  h.zoom fun _ _ le => le

theorem keeps_send (request : Request) (destination : Address) (packetId : UInt16) :
    (send (σ := σ) request destination packetId).Keeps pending := fun s =>
  keeps_onStream (FrameStream.keeps_write _ _) s

theorem keeps_ofProtocol (r : Except ProtocolError α) :
    (ofProtocol (σ := σ) r).Keeps pending :=
  Action.keeps_ofExcept _

theorem keeps_device (serial : UInt32) : (device (σ := σ) serial).Keeps pending := by
  intro s
  unfold device
  split <;> exact Nat.le_refl _

theorem spends_receiveUntil (deadline : Nat) (packetId : UInt16) :
    Action.Spends (σ := Session σ) pending (receiveUntil deadline packetId) := by
  intro s
  fun_induction receiveUntil deadline packetId s with
  | case1 => exact Nat.le_refl _
  | case2 s now early e stream read => exact (FrameStream.spends_read _).keeps.le_of_error read
  | case3 s now early frame stream read e decoded ih =>
    have := (FrameStream.spends_read _).lt read
    cases again : receiveUntil deadline packetId { s with stream } <;>
      simp only [again, pending] at ih ⊢ <;> omega
  | case4 s now early frame stream read reply decoded wanted =>
    exact (FrameStream.spends_read _).lt read
  | case5 s now early frame stream read reply decoded other ih =>
    have := (FrameStream.spends_read _).lt read
    cases again : receiveUntil deadline packetId { s with stream } <;>
      simp only [again, pending] at ih ⊢ <;> omega

theorem spends_receive (packetId : UInt16) : (receive (σ := σ) packetId).Spends pending :=
  fun s => spends_receiveUntil _ packetId s

theorem spends_transaction {attempt : UInt16 → Action (Session σ) α}
    (h : ∀ packetId, (attempt packetId).Spends pending) : (transaction attempt).Spends pending := by
  intro s
  have step := h s.numbering.current s
  unfold transaction
  cases eq : attempt s.numbering.current s <;> simp only [eq] at step ⊢ <;> exact step

theorem keeps_discard : (onStream (σ := σ) FrameStream.discard).Keeps pending :=
  keeps_onStream FrameStream.keeps_discard

theorem spends_exchange {attempt : UInt16 → Action (Session σ) α}
    (h : ∀ packetId, (attempt packetId).Spends pending) : (exchange attempt).Spends pending :=
  spends_transaction fun packetId => keeps_discard.bind_spends fun _ => h packetId

theorem spends_withRetries {attempt : Action (Session σ) α} (h : attempt.Spends pending) :
    (withRetries attempt).Spends pending :=
  RetryBudget.spends_run h pending_sleep_le _

end Session

end SolarTelemetry
