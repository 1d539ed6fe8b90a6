import SolarTelemetry.Channel
import SolarTelemetry.Link.Phase
import SolarTelemetry.Link.Reassembly
import SolarTelemetry.Transport

/-!
# Links

A link stands between a transport and whoever exchanges payloads over it. Its reader takes packets
as they arrive, whoever may be waiting for what; what the reader has to hand over, it leaves in the
state. `load` bounds the octets that the state can still deliver.
-/

namespace SolarTelemetry

structure Link.Info where
  netId : UInt8 := 0
  ownAddress : Address := .zero
  peerAddress : Address := .zero
  devices : List Address := []
  deriving DecidableEq

structure Link where
  transport : Transport
  phase : Link.Phase := .notConnected
  info : Link.Info := {}
  /-- The last signal strength reported since it was asked for, in percent. -/
  signal : Option Nat := none
  failure : Option String := none
  /-- The last payload that nobody has read. -/
  queue : Option Delivery := none
  parts : Link.Parts := []
  /-- What the reader has taken but not handled. -/
  buffer : Bytes := []
  /-- When the reader began its current read. -/
  since : Nat := 0

namespace Link

def now (link : Link) : Nat := link.transport.now

/-- Ends the link for a reason that every later caller is told. -/
def fail (reason : String) (link : Link) : Link :=
  { link with failure := some reason, phase := .failed, buffer := [] }

def failureError (link : Link) : Error := .link (.failed (link.failure.getD "link failed"))

/-- Why the link cannot be used, if it cannot. -/
def fault? (link : Link) : Option Error :=
  match link.phase with
  | .failed => some link.failureError
  | .notConnected => some (.link .notConnected)
  | _ => none

def transmitOne (p : Packet) : Action Link Unit := fun link =>
  match p.encode with
  | .error e => .error (.link e) link
  | .ok octets =>
    (Transport.write octets p.destination).zoom transport
      (fun link t => { link with transport := t }) link

/-- Writes packets back to back, up to the first that is refused. -/
def transmit : List Packet → Action Link Unit
  | [] => pure ()
  | p :: ps => do
    transmitOne p
    transmit ps

/-- The packets that carry a payload; all but the last announce that more follows. -/
def packetsOf (source destination : Address) (payload : Bytes) : List Packet :=
  if payload.length ≤ Packet.maxPayload then
    if payload.isEmpty then [] else [.of .data source destination payload]
  else
    .of .dataPart source destination (payload.take Packet.maxPayload) ::
      packetsOf source destination (payload.drop Packet.maxPayload)
termination_by payload.length
decreasing_by
  simp only [List.length_drop]
  have : 0 < Packet.maxPayload := by decide
  omega

def weight (link : Link) : Nat := link.transport.weight

def queued (link : Link) : Nat := (link.queue.map (·.payload.length + 1)).getD 0

def load (link : Link) : Nat := link.weight + link.parts.size + link.queued

def pending (link : Link) : Nat := link.load + link.buffer.length

/-- Only the transport is changed by sending. -/
theorem keeps_transmitOne {size : Link → Nat}
    (lift : ∀ (link : Link) (t : Transport), t.weight ≤ link.weight →
      size { link with transport := t } ≤ size link) (p : Packet) :
    (transmitOne p).Keeps size := by
  intro link
  unfold transmitOne
  split
  · exact Nat.le_refl _
  · exact (Transport.keeps_write _ p.destination).zoom lift link

theorem keeps_transmit {size : Link → Nat}
    (lift : ∀ (link : Link) (t : Transport), t.weight ≤ link.weight →
      size { link with transport := t } ≤ size link) (ps : List Packet) :
    (transmit ps).Keeps size := by
  induction ps with
  | nil => exact Action.keeps_pure ()
  | cons p ps ih => exact (keeps_transmitOne lift p).bind fun _ => ih

theorem weight_of_transport (link : Link) (t : Transport) (h : t.weight ≤ link.weight) :
    weight { link with transport := t } ≤ weight link := h

theorem load_of_transport (link : Link) (t : Transport) (h : t.weight ≤ link.weight) :
    load { link with transport := t } ≤ load link := by
  simp only [load, weight, queued] at h ⊢
  omega

theorem pending_of_transport (link : Link) (t : Transport) (h : t.weight ≤ link.weight) :
    pending { link with transport := t } ≤ pending link :=
  Nat.add_le_add_right (load_of_transport link t h) _

end Link

end SolarTelemetry
