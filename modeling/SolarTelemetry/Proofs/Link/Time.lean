import SolarTelemetry.Link
import SolarTelemetry.Proofs.Running

/-!
# Time on a link

Time passes only while somebody waits: neither writing nor handling what has been read takes any.
-/

namespace SolarTelemetry

theorem Transport.now_foldl_react (reactions : List Reaction) (t : Transport) :
    (reactions.foldl react t).now = t.now := by
  induction reactions generalizing t with
  | nil => rfl
  | cons r rest ih =>
    rw [List.foldl_cons, ih]
    cases r <;> rfl

theorem Transport.leaves_now_write (octets : Bytes) (destination : Address) :
    (write octets destination).Leaves now := by
  intro t
  unfold write
  simp only
  split
  · rfl
  · exact now_foldl_react _ _

namespace Link

theorem leaves_now_transmitOne (p : Packet) : (transmitOne p).Leaves now := by
  intro link
  unfold transmitOne
  split
  · rfl
  · next octets _ =>
    have sent : (Action.zoom transport (fun link t => { link with transport := t })
        (Transport.write octets p.destination)).Leaves now :=
      (Transport.leaves_now_write octets p.destination).zoom fun _ _ same => same
    exact sent link

theorem leaves_now_transmit (ps : List Packet) : (transmit ps).Leaves now := by
  induction ps with
  | nil => exact Action.leaves_pure ()
  | cons p ps ih => exact (leaves_now_transmitOne p).bind fun _ => ih

theorem leaves_now_joinNetwork (p : Packet) : (joinNetwork p).Leaves now := by
  intro link
  unfold joinNetwork
  split
  · next netId _ _ =>
    have sent := leaves_now_transmit [.of .idExchange .zero p.source p.payload]
      { link with info := { link.info with netId, peerAddress := p.source } }
    simp only
    split <;> next ran => rw [ran] at sent; exact sent
  · rfl

theorem now_takeData (last : Bool) (p : Packet) (link : Link) :
    (takeData last p link).now = link.now := by
  unfold takeData
  split
  · split <;> rfl
  · rfl

theorem leaves_now_handle (p : Packet) : (handle p).Leaves now := by
  unfold handle
  split
  · exact leaves_now_joinNetwork p
  · apply Action.leaves_modify
    intro link
    unfold noteAddresses
    split <;> rfl
  · apply Action.leaves_modify
    intro link
    unfold noteDevices
    split <;> rfl
  · apply Action.leaves_modify
    intro link
    unfold noteSignal
    split <;> rfl
  · exact Action.leaves_modify (now_takeData true p)
  · exact Action.leaves_modify (now_takeData false p)
  all_goals exact Action.leaves_pure ()

theorem leaves_now_handleAll (ps : List Packet) : (handleAll ps).Leaves now := by
  induction ps with
  | nil => exact Action.leaves_pure ()
  | cons p ps ih => exact (leaves_now_handle p).bind fun _ => ih

theorem now_accept (got : Except String Bytes) (link : Link) : (accept got link).now = link.now := by
  unfold accept
  cases got with
  | error reason => rfl
  | ok octets =>
    have kept := leaves_now_handleAll (Packet.drain (link.buffer ++ octets)).packets
      { link with buffer := [] }
    simp only
    cases ran : handleAll (Packet.drain (link.buffer ++ octets)).packets
      { link with buffer := [] } with
    | error e next =>
      rw [ran] at kept
      exact kept
    | ok u next =>
      rw [ran] at kept
      simp only
      split <;> exact kept

end Link

end SolarTelemetry
