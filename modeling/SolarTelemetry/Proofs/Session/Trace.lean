import SolarTelemetry.Proofs.Message.Header
import SolarTelemetry.Proofs.Session.Receiving
import SolarTelemetry.Session.Logon

/-!
# What happens in a transaction

Within a transaction a session hands over payloads to be written and accepts replies; apart from
that it may forget what is buffered and mark the devices that it has logged on to. A trace lists the
payloads and the replies in order. Nothing in a trace ties either to a packet number, so that they
belong to the number of the transaction is a statement about the actions that leave the trace.
-/

namespace SolarTelemetry

namespace Session

/-- What a transaction shows of itself: a payload handed over to be written, with what came of it,
or a reply that was accepted. -/
inductive Event where
  | wrote (destination : Address) (payload : Bytes) (result : Except Error Unit)
  | accepted (source : Address) (reply : Reply)

namespace Event

/-- Requests carry the number of their transaction with the flag, and replies are matched to it
without. -/
def BelongsTo (packetId : UInt16) : Event → Prop
  | wrote _ payload _ => ∃ header body, Header.read payload = some (header, body) ∧
      header.packetId = packetId ||| Request.packetFlag
  | accepted _ reply => reply.packetId = packetId &&& ~~~Request.packetFlag

def reply? : Event → Option Reply
  | wrote .. => none
  | accepted _ reply => some reply

def written? : Event → Option (Address × Bytes)
  | wrote destination payload _ => some (destination, payload)
  | accepted .. => none

/-- Whether a payload went out. -/
def isSent : Event → Bool
  | wrote _ _ (.ok ()) => true
  | _ => false

end Event

def repliesIn (events : List Event) : List Reply := events.filterMap Event.reply?

def writesIn (events : List Event) : List (Address × Bytes) := events.filterMap Event.written?

namespace Event

variable {packetId : UInt16} {events : List Event}

theorem belongsTo_of_written (mine : ∀ event ∈ events, event.BelongsTo packetId)
    {destination : Address} {payload : Bytes} (written : (destination, payload) ∈ writesIn events) :
    ∃ header body, Header.read payload = some (header, body) ∧
      header.packetId = packetId ||| Request.packetFlag := by
  obtain ⟨event, member, shown⟩ := List.mem_filterMap.mp written
  cases event with
  | wrote destination' payload' result =>
    cases shown
    exact mine _ member
  | accepted source reply => cases shown

theorem belongsTo_of_accepted (mine : ∀ event ∈ events, event.BelongsTo packetId) {reply : Reply}
    (accepted : reply ∈ repliesIn events) :
    reply.packetId = packetId &&& ~~~Request.packetFlag := by
  obtain ⟨event, member, shown⟩ := List.mem_filterMap.mp accepted
  cases event with
  | wrote destination payload result => cases shown
  | accepted source reply' =>
    cases shown
    exact mine _ member

end Event

@[simp] theorem repliesIn_nil : repliesIn [] = [] := rfl

@[simp] theorem writesIn_nil : writesIn [] = [] := rfl

@[simp] theorem repliesIn_cons_wrote {destination : Address} {payload : Bytes}
    {result : Except Error Unit} {events : List Event} :
    repliesIn (.wrote destination payload result :: events) = repliesIn events :=
  rfl

@[simp] theorem writesIn_cons_wrote {destination : Address} {payload : Bytes}
    {result : Except Error Unit} {events : List Event} :
    writesIn (.wrote destination payload result :: events) =
      (destination, payload) :: writesIn events :=
  rfl

theorem repliesIn_append (events more : List Event) :
    repliesIn (events ++ more) = repliesIn events ++ repliesIn more :=
  List.filterMap_append

theorem writesIn_append (events more : List Event) :
    writesIn (events ++ more) = writesIn events ++ writesIn more :=
  List.filterMap_append

variable {σ : Type}

/-- What is done on the stream of a session leaves the rest of it as it was. -/
theorem exists_stream_of_onStream {α : Type} (act : Action (FrameStream σ) α) (s : Session σ) :
    ∃ stream, Outcome.state (onStream act s) = { s with stream } := by
  unfold onStream Action.zoom
  cases act s.stream with
  | ok a stream => exact ⟨stream, rfl⟩
  | error e stream => exact ⟨stream, rfl⟩

variable [Channel σ]

/-- Hands a payload over to be framed and sent. -/
def write (payload : Bytes) (destination : Address) : Action (Session σ) Unit :=
  onStream (FrameStream.write payload destination)

theorem exists_stream_of_write (payload : Bytes) (destination : Address) (s : Session σ) :
    ∃ stream, Outcome.state (write payload destination s) = { s with stream } :=
  exists_stream_of_onStream _ s

/-- The ways from one session to another within a transaction. -/
inductive Trace : Session σ → List Event → Session σ → Prop where
  | refl {s} : Trace s [] s
  | clear {s t events} : Trace s.cleared events t → Trace s events t
  | write {s t events} (payload destination) :
      Trace (Outcome.state (write payload destination s)) events t →
      Trace s (.wrote destination payload (Outcome.result (write payload destination s)) :: events) t
  | accept {s t u packetId source reply events} :
      receive packetId s = .ok (source, reply) t → Trace t events u →
      Trace s (.accepted source reply :: events) u
  | miss {s t u packetId e events} : receive packetId s = .error e t → Trace t events u →
      Trace s events u
  | mark {s t devices events} : forgetLogons devices = forgetLogons s.devices →
      Trace { s with devices } events t → Trace s events t

section

variable {s t u : Session σ} {events more : List Event} {packetId : UInt16}

theorem Trace.append (first : Trace s events t) (second : Trace t more u) :
    Trace s (events ++ more) u := by
  induction first with
  | refl => exact second
  | clear _ ih => exact .clear (ih second)
  | write payload destination _ ih => exact .write payload destination (ih second)
  | accept received _ ih => exact .accept received (ih second)
  | miss received _ ih => exact .miss received (ih second)
  | mark same _ ih => exact .mark same (ih second)

theorem Trace.write_of_eq {payload : Bytes} {destination : Address}
    {outcome : Outcome (Session σ) Unit} (ran : Session.write payload destination s = outcome)
    (rest : Trace outcome.state events t) :
    Trace s (.wrote destination payload outcome.result :: events) t := by
  subst ran
  exact .write payload destination rest

/-- Waiting for a reply changes nothing but the stream. -/
theorem exists_stream_of_receive {outcome : Outcome (Session σ) (Address × Reply)}
    (ran : receive packetId s = outcome) : ∃ stream, outcome.state = { s with stream } := by
  subst ran
  unfold receive
  generalize Clock.now s + s.timeout = deadline
  fun_induction receiveUntil deadline packetId s with
  | case1 s => exact ⟨s.stream, rfl⟩
  | case2 s now early e stream read => exact ⟨stream, rfl⟩
  | case3 s now early frame stream read e decoded ih =>
    obtain ⟨final, same⟩ := ih
    exact ⟨final, same⟩
  | case4 s now early frame stream read reply decoded wanted => exact ⟨stream, rfl⟩
  | case5 s now early frame stream read reply decoded other ih =>
    obtain ⟨final, same⟩ := ih
    exact ⟨final, same⟩

/-- Only replies with the number asked for are accepted. -/
theorem packetId_of_receive {source : Address} {reply : Reply}
    (received : receive packetId s = .ok (source, reply) t) :
    reply.packetId = packetId &&& ~~~Request.packetFlag := by
  unfold receive at received
  generalize Clock.now s + s.timeout = deadline at received
  fun_induction receiveUntil deadline packetId s with
  | case1 => cases received
  | case2 => cases received
  | case3 s now early frame stream read e decoded ih => exact ih received
  | case4 s now early frame stream read reply decoded wanted =>
    cases received
    exact wanted
  | case5 s now early frame stream read reply decoded other ih => exact ih received

/-- A transaction leaves the session as it was, but for its stream and for the marks of its
devices. -/
theorem Trace.exists_eq (trace : Trace s events t) :
    ∃ stream devices, t = { s with stream, devices } ∧
      forgetLogons devices = forgetLogons s.devices := by
  induction trace with
  | @refl s => exact ⟨s.stream, s.devices, rfl, rfl⟩
  | clear _ ih => exact ih
  | @write s t events payload destination _ ih =>
    obtain ⟨written, same⟩ := exists_stream_of_write payload destination s
    rw [same] at ih
    exact ih
  | @accept s t u packetId source reply events received _ ih =>
    obtain ⟨stream, rfl⟩ := exists_stream_of_receive received
    exact ih
  | @miss s t u packetId e events received _ ih =>
    obtain ⟨stream, rfl⟩ := exists_stream_of_receive received
    exact ih
  | mark same _ ih =>
    obtain ⟨stream, devices, equal, marks⟩ := ih
    exact ⟨stream, devices, equal, marks.trans same⟩

/-- One session comes to another by events that belong to a packet number. -/
def Deals (packetId : UInt16) (s t : Session σ) : Prop :=
  ∃ events, Trace s events t ∧ ∀ event ∈ events, event.BelongsTo packetId

namespace Deals

theorem refl (s : Session σ) : Deals packetId s s := ⟨[], .refl, by simp⟩

theorem trans (first : Deals packetId s t) (second : Deals packetId t u) : Deals packetId s u := by
  obtain ⟨events, trace, mine⟩ := first
  obtain ⟨more, trace', mine'⟩ := second
  refine ⟨events ++ more, trace.append trace', ?_⟩
  intro event member
  rcases List.mem_append.mp member with earlier | later
  · exact mine event earlier
  · exact mine' event later

theorem clear (s : Session σ) : Deals packetId s s.cleared := ⟨[], .clear .refl, by simp⟩

theorem belongsTo_wrote (request : Request) (ownSerial : UInt32) (destination : Address)
    (result : Except Error Unit) :
    (Event.wrote destination (request.encode ownSerial packetId) result).BelongsTo packetId :=
  ⟨_, _, request.read_encode ownSerial packetId, rfl⟩

theorem send (request : Request) (destination : Address) (s : Session σ) :
    Deals packetId s (Outcome.state (send request destination packetId s)) := by
  refine ⟨_, .write (request.encode s.ownSerial packetId) destination .refl, ?_⟩
  intro event member
  rw [List.mem_singleton.mp member]
  exact belongsTo_wrote request s.ownSerial destination _

theorem accept {source : Address} {reply : Reply}
    (received : receive packetId s = .ok (source, reply) t) : Deals packetId s t := by
  refine ⟨_, .accept received .refl, ?_⟩
  intro event member
  rw [List.mem_singleton.mp member]
  exact packetId_of_receive received

theorem miss {e : Error} (received : receive packetId s = .error e t) : Deals packetId s t :=
  ⟨[], .miss received .refl, by simp⟩

end Deals

/-- An action of which all that it writes and accepts belongs to a packet number. -/
def KeepsTo {α : Type} (packetId : UInt16) (act : Action (Session σ) α) : Prop :=
  ∀ s, Deals packetId s (Outcome.state (act s))

namespace KeepsTo

variable {α β : Type} {act : Action (Session σ) α} {next : α → Action (Session σ) β}

theorem bind (first : KeepsTo packetId act) (second : ∀ a, KeepsTo packetId (next a)) :
    KeepsTo packetId (act >>= next) := by
  intro s
  have begun := first s
  cases ran : act s with
  | ok a t =>
    rw [ran] at begun
    rw [Action.bind_of_ok ran]
    exact begun.trans (second a t)
  | error e t =>
    rw [ran] at begun
    rw [Action.bind_of_error ran]
    exact begun

theorem pure (a : α) : KeepsTo (σ := σ) packetId (Pure.pure a) := fun s => .refl s

theorem get : KeepsTo (σ := σ) packetId MonadState.get := fun s => .refl s

theorem ofProtocol (r : Except ProtocolError α) :
    KeepsTo (σ := σ) packetId (Session.ofProtocol r) := by
  intro s
  cases r <;> exact .refl s

theorem receive : KeepsTo (σ := σ) packetId (receive packetId) := by
  intro s
  cases received : Session.receive packetId s with
  | ok answer t => exact .accept received
  | error e t => exact .miss received

end KeepsTo

end

end Session

end SolarTelemetry
