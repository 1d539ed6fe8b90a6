import SolarTelemetry.Channel
import SolarTelemetry.Frame.Format

/-!
# Frames over a channel

What arrives is put into a buffer, and frames are taken from it one at a time. A frame belongs to
the sender of the delivery that completed it. Neither a timeout nor a failure loses what has been
buffered.
-/

namespace SolarTelemetry

structure FrameStream (σ : Type) where
  channel : σ
  format : FrameFormat := {}
  buffer : Bytes := []
  /-- The sender of the last delivery. -/
  source : Address := .zero

namespace FrameStream

variable {σ : Type} [Channel σ]

def pending (f : FrameStream σ) : Nat := Channel.pending f.channel + f.buffer.length

instance : Clock (FrameStream σ) where
  now f := Clock.now f.channel
  sleep ms f := { f with channel := Clock.sleep ms f.channel }

def onChannel {α : Type} (act : Action σ α) : Action (FrameStream σ) α :=
  act.zoom channel fun f c => { f with channel := c }

def write (payload : Bytes) (destination : Address) : Action (FrameStream σ) Unit := fun f =>
  match f.format.encode payload with
  | .error e => .error (.frame e) f
  | .ok octets => onChannel (Channel.send octets destination) f

/-- The next frame, or the fault of one, before a moment. -/
def readUntil (deadline : Nat) (f : FrameStream σ) : Outcome (FrameStream σ) Delivery :=
  match _decoded : f.format.decode f.buffer with
  | (some (.ok payload), rest) => .ok ⟨f.source, payload⟩ { f with buffer := rest }
  | (some (.error e), rest) => .error (.frame e) { f with buffer := rest }
  | (none, rest) =>
    let now := Clock.now f.channel
    if deadline ≤ now then .error (.timeout "frame") { f with buffer := rest }
    else
      match _received : Channel.receive (deadline - now) f.channel with
      | .error e channel => .error e { f with channel, buffer := rest }
      | .ok none channel => .error (.timeout "frame") { f with channel, buffer := rest }
      | .ok (some d) channel =>
        readUntil deadline { f with channel, buffer := rest ++ d.payload, source := d.source }
termination_by f.pending
decreasing_by
  have shorter := f.format.length_decode_le f.buffer
  have less := Channel.pending_receive_lt _received
  simp only [_decoded] at shorter
  simp only [pending, List.length_append]
  omega

def read (wait : Nat) : Action (FrameStream σ) Delivery := fun f =>
  readUntil (Clock.now f + wait) f

/-- Forgets what is buffered. -/
def discard : Action (FrameStream σ) Unit := modify fun f => { f with buffer := [] }

theorem pending_sleep_le (ms : Nat) (f : FrameStream σ) :
    pending (Clock.sleep ms f) ≤ pending f := by
  have := Channel.pending_sleep_le ms f.channel
  simp only [pending, Clock.sleep]
  omega

theorem keeps_onChannel {α : Type} {act : Action σ α} (h : act.Keeps Channel.pending) :
    (onChannel act).Keeps pending :=
  h.zoom fun _ _ le => Nat.add_le_add_right le _

theorem keeps_write (payload : Bytes) (destination : Address) :
    (write (σ := σ) payload destination).Keeps pending := by
  intro f
  unfold write
  split
  · exact Nat.le_refl _
  · exact keeps_onChannel (Channel.keeps_send _ _) f

theorem keeps_discard : (discard (σ := σ)).Keeps pending := by
  intro f
  change Channel.pending f.channel + 0 ≤ pending f
  simp only [pending]
  omega

theorem spends_readUntil (deadline : Nat) :
    Action.Spends (σ := FrameStream σ) pending (readUntil deadline) := by
  intro f
  fun_induction readUntil deadline f with
  | case1 f payload rest decoded =>
    have found : (f.format.decode f.buffer).1.isSome := by simp [decoded]
    have := f.format.length_decode_lt found
    simp only [decoded] at this
    simp only [pending]
    omega
  | case2 f e rest decoded =>
    have := f.format.length_decode_le f.buffer
    simp only [decoded] at this
    simp only [pending]
    omega
  | case3 f rest decoded now late =>
    have := f.format.length_decode_le f.buffer
    simp only [decoded] at this
    simp only [pending]
    omega
  | case4 f rest decoded now early e channel received =>
    have := f.format.length_decode_le f.buffer
    have := (Channel.keeps_receive _).le_of_error received
    simp only [decoded] at *
    simp only [pending]
    omega
  | case5 f rest decoded now early channel received =>
    have := f.format.length_decode_le f.buffer
    have := (Channel.keeps_receive _).le received
    simp only [decoded] at *
    simp only [pending]
    omega
  | case6 f rest decoded now early d channel received ih =>
    have := f.format.length_decode_le f.buffer
    have := Channel.pending_receive_lt received
    simp only [decoded] at *
    cases again : readUntil deadline
        { f with channel, buffer := rest ++ d.payload, source := d.source } <;>
      simp only [again, pending, List.length_append] at ih ⊢ <;> omega

theorem spends_read (wait : Nat) : (read (σ := σ) wait).Spends pending := fun f =>
  spends_readUntil _ f

end FrameStream

end SolarTelemetry
