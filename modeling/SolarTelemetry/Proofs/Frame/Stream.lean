import SolarTelemetry.Frame.Stream
import SolarTelemetry.Proofs.Frame.Synchronisation

/-!
# Reading frames from a channel

A read hands out the frame that its buffer holds, and takes deliveries into the buffer until it
holds one.
-/

namespace SolarTelemetry

theorem FrameFormat.decode_nil (format : FrameFormat) : format.decode [] = (none, []) := by
  rw [FrameFormat.decode]
  rfl

/-- A decoding step takes the first verdict on the buffer and whatever comes after it. -/
theorem FrameFormat.verdicts_decode_append (format : FrameFormat) (buffer more : Bytes) :
    match format.decode buffer with
    | (none, rest) => format.verdicts (buffer ++ more) = format.verdicts (rest ++ more)
    | (some result, rest) =>
      format.verdicts (buffer ++ more) = result.toOption :: format.verdicts (rest ++ more) := by
  have step := format.verdicts_decode buffer
  rcases found : format.decode buffer with ⟨_ | result, rest⟩
  · rw [found] at step
    change format.verdicts (buffer ++ more) = _
    rw [format.verdicts_append, step.1, step.2]
    rfl
  · rw [found] at step
    change format.verdicts (buffer ++ more) = _
    rw [format.verdicts_append, step.1, step.2, format.verdicts_append rest]
    rfl

namespace FrameStream

variable {σ : Type} [Channel σ] {f : FrameStream σ} {deadline : Nat}

/-- A read decodes what is buffered, and unless that yields something it receives, if it is not too
late. -/
theorem readUntil_eq (deadline : Nat) (f : FrameStream σ) :
    readUntil deadline f =
      match f.format.decode f.buffer with
      | (some (.ok payload), rest) => .ok ⟨f.source, payload⟩ { f with buffer := rest }
      | (some (.error e), rest) => .error (.frame e) { f with buffer := rest }
      | (none, rest) =>
        if deadline ≤ Clock.now f.channel then .error (.timeout "frame") { f with buffer := rest }
        else
          match Channel.receive (deadline - Clock.now f.channel) f.channel with
          | .error e channel => .error e { f with channel, buffer := rest }
          | .ok none channel => .error (.timeout "frame") { f with channel, buffer := rest }
          | .ok (some d) channel =>
            readUntil deadline
              { f with channel, buffer := rest ++ d.payload, source := d.source } := by
  rw [readUntil]
  split
  · next decoded => rw [decoded]
  · next decoded => rw [decoded]
  · next decoded =>
    rw [decoded]
    simp only
    split
    · rfl
    · split
      · next received => rw [received]
      · next received => rw [received]
      · next received => rw [received]

theorem readUntil_of_frame {payload rest : Bytes}
    (decoded : f.format.decode f.buffer = (some (.ok payload), rest)) :
    readUntil deadline f = .ok ⟨f.source, payload⟩ { f with buffer := rest } := by
  rw [readUntil_eq, decoded]

theorem readUntil_of_delivery {rest : Bytes} {d : Delivery} {channel : σ}
    (decoded : f.format.decode f.buffer = (none, rest))
    (early : Clock.now f.channel < deadline)
    (received : Channel.receive (deadline - Clock.now f.channel) f.channel = .ok (some d) channel) :
    readUntil deadline f =
      readUntil deadline { f with channel, buffer := rest ++ d.payload, source := d.source } := by
  rw [readUntil_eq, decoded]
  simp only [if_neg (Nat.not_le.mpr early), received]

/-- A delivery that is a whole frame is read at once, if nothing was left of earlier ones. -/
theorem read_of_delivery {payload rest : Bytes} {d : Delivery} {channel : σ} {wait : Nat}
    (unread : f.buffer = []) (patient : 0 < wait)
    (received : Channel.receive wait f.channel = .ok (some d) channel)
    (decoded : f.format.decode d.payload = (some (.ok payload), rest)) :
    f.read wait = .ok ⟨d.source, payload⟩ { f with channel, buffer := rest, source := d.source } := by
  have nothing : f.format.decode f.buffer = (none, []) := by rw [unread, f.format.decode_nil]
  have early : Clock.now f.channel < Clock.now f.channel + wait := Nat.lt_add_of_pos_right patient
  have remaining : Clock.now f.channel + wait - Clock.now f.channel = wait :=
    Nat.add_sub_cancel_left _ _
  change readUntil (Clock.now f.channel + wait) f = _
  rw [readUntil_of_delivery nothing early (by rw [remaining, received])]
  exact readUntil_of_frame decoded

section

variable (supply : σ → List Delivery)

/-- The verdicts on what is buffered and on all that a channel will deliver. -/
def expected (f : FrameStream σ) : List (Option Bytes) :=
  f.format.verdicts (f.buffer ++ (supply f.channel).flatMap Delivery.payload)

variable {supply} (law : ∀ {wait c d c'}, Channel.receive wait c = .ok (some d) c' →
  supply c = d :: supply c')

include law

/-- A frame that is read is the first that was to be expected, and the others are left. -/
theorem expected_readUntil {frame : Delivery} {f' : FrameStream σ}
    (ran : readUntil deadline f = .ok frame f') :
    expected supply f = some frame.payload :: expected supply f' := by
  fun_induction readUntil deadline f with
  | case1 f payload rest decoded =>
    cases ran
    have step := f.format.verdicts_decode_append f.buffer
      ((supply f.channel).flatMap Delivery.payload)
    rw [decoded] at step
    exact step
  | case2 => cases ran
  | case3 => cases ran
  | case4 => cases ran
  | case5 => cases ran
  | case6 f rest decoded now early d channel received ih =>
    have step := f.format.verdicts_decode_append f.buffer
      ((supply f.channel).flatMap Delivery.payload)
    rw [decoded] at step
    rw [← ih ran, expected, step, law received, List.flatMap_cons, ← List.append_assoc]
    rfl

theorem expected_read {wait : Nat} {frame : Delivery} {f' : FrameStream σ}
    (ran : f.read wait = .ok frame f') :
    expected supply f = some frame.payload :: expected supply f' :=
  expected_readUntil law ran

end

end FrameStream

end SolarTelemetry
