import SolarTelemetry.Channel.Script
import SolarTelemetry.Proofs.Frame.Completing
import SolarTelemetry.Proofs.Frame.Stream
import SolarTelemetry.Proofs.Running

/-!
# Whose frame it is

A stream has one field for the sender, whatever its buffer holds. That is enough because a delivery
is only taken when nothing can be decoded: all that the buffer still yields was completed by the
last delivery. So the frames and faults that are read, and those still held, are what the deliveries
yield one after the other, each with its sender.
-/

namespace SolarTelemetry

open SolarTelemetry.Frame

/-- A channel that is watched: what it has handed over so far, and how often it failed to. -/
structure Observed (σ : Type) where
  channel : σ
  delivered : List Delivery := []
  failures : Nat := 0

namespace Observed

variable {σ : Type} [Channel σ]

def receive (wait : Nat) : Action (Observed σ) (Option Delivery) := fun o =>
  match Channel.receive wait o.channel with
  | .ok (some d) channel => .ok (some d) { o with channel, delivered := o.delivered ++ [d] }
  | .ok none channel => .ok none { o with channel }
  | .error e channel => .error e { o with channel, failures := o.failures + 1 }

def send (payload : Bytes) (destination : Address) : Action (Observed σ) Unit :=
  (Channel.send payload destination).zoom channel fun o channel => { o with channel }

variable {wait : Nat} {o o' : Observed σ}

theorem channel_receive (wait : Nat) (o : Observed σ) :
    Outcome.mapState channel (receive wait o) = Channel.receive wait o.channel := by
  unfold receive
  split <;> next received => rw [received]; rfl

theorem receive_eq_some {d : Delivery} (received : receive wait o = .ok (some d) o') :
    o'.delivered = o.delivered ++ [d] ∧ o'.failures = o.failures := by
  unfold receive at received
  split at received <;> cases received
  exact ⟨rfl, rfl⟩

theorem receive_eq_none (received : receive wait o = .ok none o') :
    o'.delivered = o.delivered ∧ o'.failures = o.failures := by
  unfold receive at received
  split at received <;> cases received
  exact ⟨rfl, rfl⟩

theorem receive_eq_error {e : Error} (received : receive wait o = .error e o') :
    o'.delivered = o.delivered ∧ o'.failures = o.failures + 1 := by
  unfold receive at received
  split at received <;> cases received
  exact ⟨rfl, rfl⟩

def pending (o : Observed σ) : Nat := Channel.pending o.channel

instance : Channel (Observed σ) where
  now o := Clock.now o.channel
  sleep ms o := { o with channel := Clock.sleep ms o.channel }
  send := send
  receive := receive
  pending := pending
  pending_sleep_le ms o := Channel.pending_sleep_le ms o.channel
  keeps_send payload destination := (Channel.keeps_send payload destination).zoom fun _ _ le => le
  keeps_receive wait o := by
    have kept := Channel.keeps_receive wait o.channel
    rw [← channel_receive, Outcome.state_mapState] at kept
    exact kept
  pending_receive_lt {wait o d o'} received := by
    have plain := channel_receive wait o
    rw [received] at plain
    exact Channel.pending_receive_lt plain.symm

end Observed

namespace FrameFormat

variable (format : FrameFormat)

theorem drain_of_none {buffer rest : Bytes} (decoded : format.decode buffer = (none, rest)) :
    format.drain buffer = ([], rest) := by
  rw [drain]
  split
  · next same =>
    rw [decoded] at same
    cases same
    rfl
  · next same =>
    rw [decoded] at same
    cases same

theorem drain_of_some {buffer rest : Bytes} {result : Except FrameError Bytes}
    (decoded : format.decode buffer = (some result, rest)) :
    format.drain buffer = (result :: (format.drain rest).1, (format.drain rest).2) := by
  rw [drain]
  split
  · next same =>
    rw [decoded] at same
    cases same
  · next same =>
    rw [decoded] at same
    cases same
    rfl

/-- What cannot be decoded yet cannot be decoded the second time either. -/
theorem drain_left_of_none {buffer rest : Bytes} (decoded : format.decode buffer = (none, rest)) :
    format.drain rest = ([], rest) := by
  have again := format.drain_drain buffer
  rwa [format.drain_of_none decoded] at again

/-- What a decoder yields to which deliveries are fed one by one, each frame with the sender of the
delivery that completed it. -/
def framesOf (deliveries : List Delivery) : List (Except FrameError Delivery) :=
  (format.drainTagged [] (deliveries.map fun d => (d.source, d.payload))).1.map
    fun (source, result) => result.map (Delivery.mk source)

/-- What a decoder keeps of deliveries that are fed to it. -/
def leftOf (deliveries : List Delivery) : Bytes :=
  (format.drainTagged [] (deliveries.map fun d => (d.source, d.payload))).2

theorem framesOf_concat (deliveries : List Delivery) (d : Delivery) :
    format.framesOf (deliveries ++ [d]) =
        format.framesOf deliveries ++
          (format.drain (format.leftOf deliveries ++ d.payload)).1.map
            (Except.map (Delivery.mk d.source)) ∧
      format.leftOf (deliveries ++ [d]) =
        (format.drain (format.leftOf deliveries ++ d.payload)).2 := by
  simp [framesOf, leftOf, drainTagged_append, drainTagged, Function.comp_def]

theorem map_payload_framesOf (deliveries : List Delivery) :
    (format.framesOf deliveries).map (Except.map Delivery.payload) =
      (format.drainAll [] (deliveries.map Delivery.payload)).1 := by
  have plain := format.map_snd_drainTagged [] (deliveries.map fun d => (d.source, d.payload))
  simp only [List.map_map, Function.comp_def] at plain
  rw [← plain, framesOf, List.map_map]
  congr 1
  funext tagged
  obtain ⟨source, result⟩ := tagged
  cases result <;> rfl

variable {format}

/-- The sender of a frame is that of the delivery with its closing sync byte. -/
theorem exists_delivery_of_framesOf {deliveries : List Delivery} {n : Nat} {frame : Delivery}
    (found : (format.framesOf deliveries)[n]? = some (.ok frame)) :
    ∃ before d after opening rest, deliveries = before ++ d :: after ∧
      d.source = frame.source ∧ d.payload = opening ++ sync :: rest ∧
      (format.drainAll [] (before.map Delivery.payload ++ [opening])).1.length = n ∧
      (format.drainAll [] (before.map Delivery.payload ++ [opening ++ [sync]])).1[n]? =
        some (.ok frame.payload) := by
  rw [framesOf, List.getElem?_map, Option.map_eq_some_iff] at found
  obtain ⟨⟨source, result⟩, found, same⟩ := found
  cases result with
  | error e => cases same
  | ok payload =>
    cases same
    obtain ⟨chunks, opening, rest, others, split, counted, closed⟩ :=
      format.exists_chunk_of_drainTagged rfl found
    obtain ⟨before, more, rfl, rfl, later⟩ := List.map_eq_append_iff.mp split
    obtain ⟨d, after, rfl, same, -⟩ := List.map_eq_cons_iff.mp later
    obtain ⟨sender, octets⟩ := Prod.mk.inj same
    simp only [List.map_map, Function.comp_def] at counted closed
    exact ⟨before, d, after, opening, rest, rfl, sender, octets, counted, closed⟩

end FrameFormat

namespace FrameStream

variable {σ : Type}

/-- The frames and faults that a stream has not given out yet. -/
def held (f : FrameStream σ) : List (Except FrameError Delivery) :=
  (f.format.drain f.buffer).1.map (Except.map (Delivery.mk f.source))

/-- A stream as it would be if nobody watched its channel. -/
def unobserved (f : FrameStream (Observed σ)) : FrameStream σ :=
  { channel := f.channel.channel, format := f.format, buffer := f.buffer, source := f.source }

/-- To watch a channel makes no difference to what is read. -/
theorem readUntil_unobserved [Channel σ] (deadline : Nat) (f : FrameStream (Observed σ)) :
    readUntil deadline f.unobserved = Outcome.mapState unobserved (readUntil deadline f) := by
  have plain (f : FrameStream (Observed σ)) :
      Channel.receive (deadline - Clock.now f.unobserved.channel) f.unobserved.channel =
        Outcome.mapState Observed.channel
          (Channel.receive (deadline - Clock.now f.channel) f.channel) :=
    (Observed.channel_receive _ _).symm
  have same (f : FrameStream (Observed σ)) :
      f.unobserved.format.decode f.unobserved.buffer = f.format.decode f.buffer := rfl
  fun_induction readUntil deadline f with
  | case1 f payload rest decoded =>
    rw [readUntil_eq, same, decoded]
    rfl
  | case2 f e rest decoded =>
    rw [readUntil_eq, same, decoded]
    rfl
  | case3 f rest decoded now late =>
    rw [readUntil_eq, same, decoded]
    exact if_pos late
  | case4 f rest decoded now early e channel received =>
    rw [readUntil_eq, same, decoded, plain, received]
    exact if_neg early
  | case5 f rest decoded now early channel received =>
    rw [readUntil_eq, same, decoded, plain, received]
    exact if_neg early
  | case6 f rest decoded now early d channel received ih =>
    rw [readUntil_eq, same, decoded, plain, received, ← ih]
    exact if_neg early

/-- What a read gives out: a frame, or the fault of one. What the channel failed with is neither. -/
def returned (failures : Nat) :
    Outcome (FrameStream (Observed σ)) Delivery → List (Except FrameError Delivery)
  | .ok frame _ => [.ok frame]
  | .error (.frame fault) f => if f.channel.failures = failures then [.error fault] else []
  | .error _ _ => []

theorem returned_timeout (failures : Nat) (awaited : String) (f : FrameStream (Observed σ)) :
    returned failures (.error (.timeout awaited) f) = [] := rfl

theorem returned_of_failed {failures : Nat} {f : FrameStream (Observed σ)}
    (failed : f.channel.failures ≠ failures) (e : Error) : returned failures (.error e f) = [] := by
  cases e with
  | frame fault => exact if_neg failed
  | _ => rfl

/-- What the deliveries so far have yielded is what has been given out and what is still held. -/
structure Account (format : FrameFormat) (given : List (Except FrameError Delivery))
    (f : FrameStream (Observed σ)) : Prop where
  format_eq : f.format = format
  frames : format.framesOf f.channel.delivered = given ++ f.held
  left : format.leftOf f.channel.delivered = (format.drain f.buffer).2

namespace Account

variable {format : FrameFormat} {given : List (Except FrameError Delivery)}
  {f : FrameStream (Observed σ)} {rest : Bytes} {channel : Observed σ} {d : Delivery}

theorem begin (channel : σ) (format : FrameFormat) (source : Address) :
    Account format []
      ({ channel := { channel }, format, source } : FrameStream (Observed σ)) where
  format_eq := rfl
  frames := by
    simp [held, format.drain_of_none format.decode_nil, FrameFormat.framesOf,
      FrameFormat.drainTagged]
  left := by
    rw [format.drain_of_none format.decode_nil]
    rfl

/-- What is taken from the front of the buffer is given out. -/
theorem give (account : Account format given f) {result : Except FrameError Bytes}
    (decoded : f.format.decode f.buffer = (some result, rest)) :
    Account format (given ++ [result.map (Delivery.mk f.source)]) { f with buffer := rest } where
  format_eq := account.format_eq
  frames := by
    rw [account.frames, held, f.format.drain_of_some decoded, List.append_assoc]
    rfl
  left := by
    rw [account.left, ← account.format_eq, f.format.drain_of_some decoded]

/-- What cannot be decoded yet is kept, whatever else becomes of the channel. -/
theorem keep (account : Account format given f)
    (decoded : f.format.decode f.buffer = (none, rest))
    (same : channel.delivered = f.channel.delivered) :
    Account format given { f with channel, buffer := rest } where
  format_eq := account.format_eq
  frames := by
    rw [same, account.frames, held, held, f.format.drain_of_none decoded,
      f.format.drain_left_of_none decoded]
  left := by
    rw [same, account.left, ← account.format_eq, f.format.drain_of_none decoded,
      f.format.drain_left_of_none decoded]

theorem leftOf_of_none (account : Account format given f)
    (decoded : f.format.decode f.buffer = (none, rest)) :
    format.leftOf f.channel.delivered = rest := by
  rw [account.left, ← account.format_eq, f.format.drain_of_none decoded]

/-- When nothing is held, a delivery can be taken: all that is held then is from its sender. -/
theorem take (account : Account format given f)
    (decoded : f.format.decode f.buffer = (none, rest))
    (more : channel.delivered = f.channel.delivered ++ [d]) :
    Account format given
      { f with channel, buffer := rest ++ d.payload, source := d.source } where
  format_eq := account.format_eq
  frames := by
    have nothing : f.held = [] := by
      rw [held, f.format.drain_of_none decoded, List.map_nil]
    rw [more, (format.framesOf_concat _ d).1, account.frames, nothing, List.append_nil,
      account.leftOf_of_none decoded, held, account.format_eq]
  left := by
    rw [more, (format.framesOf_concat _ d).2, account.leftOf_of_none decoded]

/-- A read gives out what it returns and keeps everything else. -/
theorem readUntil [Channel σ] (account : Account format given f) (deadline : Nat) :
    Account format (given ++ returned f.channel.failures (readUntil deadline f))
      (Outcome.state (f.readUntil deadline)) := by
  fun_induction FrameStream.readUntil deadline f with
  | case1 f payload rest decoded => exact account.give decoded
  | case2 f e rest decoded =>
    have own : returned f.channel.failures (.error (.frame e) { f with buffer := rest }) =
        [.error e] := if_pos rfl
    rw [own]
    exact account.give decoded
  | case3 f rest decoded now late =>
    rw [returned_timeout, List.append_nil]
    exact account.keep decoded rfl
  | case4 f rest decoded now early e channel received =>
    obtain ⟨same, failed⟩ := Observed.receive_eq_error received
    have counted : channel.failures ≠ f.channel.failures := by
      rw [failed]
      exact Nat.succ_ne_self _
    rw [returned_of_failed counted, List.append_nil]
    exact account.keep decoded same
  | case5 f rest decoded now early channel received =>
    rw [returned_timeout, List.append_nil]
    exact account.keep decoded (Observed.receive_eq_none received).1
  | case6 f rest decoded now early d channel received ih =>
    obtain ⟨more, same⟩ := Observed.receive_eq_some received
    rw [← same]
    exact ih (account.take decoded more)

end Account

/-- What is done with a stream that is never told to forget: it is read, or its channel is used for
something else. -/
inductive Call (σ : Type) where
  | read (wait : Nat)
  | other (change : σ → σ)

/-- What a call returns of frames and faults, and what it leaves. -/
def Call.run [Channel σ] : Call σ → FrameStream (Observed σ) →
    List (Except FrameError Delivery) × FrameStream (Observed σ)
  | read wait, f => (returned f.channel.failures (f.read wait), Outcome.state (f.read wait))
  | other change, f => ([], { f with channel.channel := change f.channel.channel })

def runAll [Channel σ] : List (Call σ) → FrameStream (Observed σ) →
    List (Except FrameError Delivery) × FrameStream (Observed σ)
  | [], f => ([], f)
  | call :: calls, f =>
    let (first, f) := call.run f
    let (more, f) := runAll calls f
    (first ++ more, f)

theorem Account.runAll [Channel σ] {format : FrameFormat}
    {given : List (Except FrameError Delivery)} {f : FrameStream (Observed σ)}
    (account : Account format given f) (calls : List (Call σ)) :
    Account format (given ++ (runAll calls f).1) (runAll calls f).2 := by
  induction calls generalizing given f with
  | nil => simpa [FrameStream.runAll] using account
  | cons call calls ih =>
    rw [FrameStream.runAll, ← List.append_assoc]
    apply ih
    cases call with
    | read wait => exact account.readUntil _
    | other change =>
      rw [Call.run, List.append_nil]
      exact ⟨account.format_eq, account.frames, account.left⟩

/-- Whatever a channel delivers and however a stream is read from, the frames and faults that are
returned are, in order, the first of those that a decoder yields to which the deliveries are fed one
by one, and all others are still held: none is lost or returned twice, whatever else a read ends
with. A frame comes with the sender of the delivery in which its closing sync byte stands. That the
channel is watched makes no difference. -/
theorem runAll_attributed {σ : Type} [Channel σ] (channel : σ) (format : FrameFormat)
    (source : Address) (calls : List (Call σ)) :
    let start : FrameStream (Observed σ) := { channel := { channel }, format, source }
    let returned := (runAll calls start).1
    let f := (runAll calls start).2
    let delivered := f.channel.delivered
    (∀ (g : FrameStream (Observed σ)) (wait : Nat),
      g.unobserved.read wait = Outcome.mapState unobserved (g.read wait)) ∧
    format.framesOf delivered = returned ++ f.held ∧
    (format.framesOf delivered).map (Except.map Delivery.payload) =
      (format.drainAll [] (delivered.map Delivery.payload)).1 ∧
    ∀ (n : Nat) (frame : Delivery), returned[n]? = some (.ok frame) →
      ∃ before d after opening rest, delivered = before ++ d :: after ∧
        d.source = frame.source ∧ d.payload = opening ++ sync :: rest ∧
        (format.drainAll [] (before.map Delivery.payload ++ [opening])).1.length = n ∧
        (format.drainAll [] (before.map Delivery.payload ++ [opening ++ [sync]])).1[n]? =
          some (.ok frame.payload) := by
  intro start returned f delivered
  have account := (Account.begin channel format source).runAll calls
  refine ⟨fun g wait => readUntil_unobserved _ g, account.frames,
    format.map_payload_framesOf delivered, ?_⟩
  intro n frame found
  have inside := (List.getElem?_eq_some_iff.mp found).1
  apply FrameFormat.exists_delivery_of_framesOf
  have same : format.framesOf delivered = returned ++ f.held := account.frames
  rw [same, List.getElem?_append_left inside, found]

/-- A frame that is begun by one sender and closed by another, with a second frame behind it. A read
times out before it is there, and one fails when half of it is. -/
theorem runAll_attributed_between :
    let begun : Bytes := [0x7E, 0xFF, 0x03, 0x60]
    let closed : Bytes :=
      [0x65, 0x01, 0xC9, 0x10, 0x7E, 0xFF, 0x03, 0x60, 0x65, 0x02, 0x52, 0x22, 0x7E]
    let script : Script := { items := [⟨10, .delivery ⟨.zero, begun⟩⟩,
      ⟨10, .failure (.transport "lost")⟩, ⟨10, .delivery ⟨.broadcast, closed⟩⟩] }
    let start : FrameStream (Observed Script) := { channel := { channel := script } }
    let calls : List (Call Script) := [.read 5, .read 50, .read 50, .read 0]
    (runAll calls start).1 = [.ok ⟨.broadcast, [0x01]⟩, .ok ⟨.broadcast, [0x02]⟩] ∧
      ∃ before d after opening rest,
        (runAll calls start).2.channel.delivered = before ++ d :: after ∧
          d.source = .broadcast ∧ d.payload = opening ++ sync :: rest := by
  intro begun closed script start calls
  have read : (runAll calls start).1 =
      [.ok ⟨.broadcast, [0x01]⟩, .ok ⟨.broadcast, [0x02]⟩] := by decide +kernel
  obtain ⟨before, d, after, opening, rest, split, sender, octets, -⟩ :=
    (runAll_attributed script {} .zero calls).2.2.2 0 ⟨.broadcast, [0x01]⟩ (by rw [read]; rfl)
  exact ⟨read, before, d, after, opening, rest, split, sender, octets⟩

end FrameStream

end SolarTelemetry
