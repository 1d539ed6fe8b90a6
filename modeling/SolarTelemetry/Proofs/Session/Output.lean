import SolarTelemetry.Proofs.Link.Output
import SolarTelemetry.Proofs.Session.Transactions

/-!
# What a session writes

All that a session puts on its transport are the requests of its transactions, each framed and cut
into packets, and its queries for the signal strength. A message whose packets the transport refuses
may be cut short. Only closing a session writes a request to log off.
-/

namespace SolarTelemetry.Session

/-- A message as far as the transport took it. -/
inductive Message where
  | signalQuery (count : Nat)
  | request (request : Request) (destination : Address) (packetId : UInt16) (count : Nat)

namespace Message

def isLogoff : Message → Bool
  | signalQuery _ => false
  | request r .. => r.controlWord == .logoff

/-- The packets of a message that the transport took. -/
def packets (s : Session Link) : Message → List Packet
  | signalQuery count => [s.link.signalQuery s.link.info.peerAddress].take count
  | request r destination packetId count =>
    match s.stream.format.encode (r.encode s.ownSerial packetId) with
    | .ok frame => (Link.packetsOf s.link.info.ownAddress destination frame).take count
    | .error _ => []

end Message

def packetsOf (s : Session Link) (messages : List Message) : List Packet :=
  messages.flatMap (·.packets s)

/-- From one session to another some messages were written, and nothing was done with the link that
whoever uses one cannot do. -/
structure Writes (s : Session Link) (messages : List Message) (t : Session Link) : Prop where
  ownSerial : t.ownSerial = s.ownSerial
  format : t.stream.format = s.stream.format
  link : s.link.Onward (packetsOf s messages) t.link
  used : ∃ uses : List Link.Use, t.link = uses.foldl Link.use s.link

variable {s t u : Session Link} {messages more : List Message}

namespace Writes

theorem packetsOf_eq (writes : Writes s messages t) (more : List Message) :
    packetsOf t more = packetsOf s more := by
  have each (m : Message) : m.packets t = m.packets s := by
    cases m with
    | signalQuery count => simp only [Message.packets, Link.signalQuery, writes.link.info]
    | request r destination packetId count =>
      simp only [Message.packets, writes.ownSerial, writes.format, writes.link.info]
  unfold packetsOf
  simp only [each]

theorem trans (first : Writes s messages t) (second : Writes t more u) :
    Writes s (messages ++ more) u where
  ownSerial := second.ownSerial.trans first.ownSerial
  format := second.format.trans first.format
  link := by
    have rest := second.link
    rw [first.packetsOf_eq] at rest
    have both := first.link.trans rest
    rwa [packetsOf, packetsOf, ← List.flatMap_append] at both
  used := by
    obtain ⟨uses, used⟩ := first.used
    obtain ⟨others, used'⟩ := second.used
    exact ⟨uses ++ others, by rw [used', used, List.foldl_append]⟩

/-- What changes neither the link nor what requests look like writes nothing. -/
theorem same (link : t.link = s.link) (ownSerial : t.ownSerial = s.ownSerial)
    (format : t.stream.format = s.stream.format) : Writes s [] t :=
  ⟨ownSerial, format, link ▸ .refl s.link, [], link⟩

end Writes

/-- Between two sessions nothing was said. -/
def Silent (s t : Session Link) : Prop := s.link.Settled → Writes s [] t

namespace Silent

theorem refl (s : Session Link) : Silent s s := fun _ => .same rfl rfl rfl

theorem trans (first : Silent s t) (second : Silent t u) : Silent s u := by
  intro settled
  have begun := first settled
  exact begun.trans (second (begun.link.settled settled))

instance : Std.Refl Silent := ⟨refl⟩

instance : Trans Silent Silent Silent := ⟨trans⟩

end Silent

/-- Between two sessions nothing was said that would log off. -/
def Converses (s t : Session Link) : Prop :=
  s.link.Settled → ∃ messages, (∀ m ∈ messages, m.isLogoff = false) ∧ Writes s messages t

namespace Converses

theorem silent (silent : Silent s t) : Converses s t :=
  fun settled => ⟨[], by simp, silent settled⟩

theorem same (link : t.link = s.link) (ownSerial : t.ownSerial = s.ownSerial)
    (format : t.stream.format = s.stream.format) : Converses s t :=
  silent fun _ => .same link ownSerial format

theorem refl (s : Session Link) : Converses s s := same rfl rfl rfl

theorem trans (first : Converses s t) (second : Converses t u) : Converses s u := by
  intro settled
  obtain ⟨messages, plain, writes⟩ := first settled
  obtain ⟨more, plain', writes'⟩ := second (writes.link.settled settled)
  exact ⟨messages ++ more, List.forall_mem_append.mpr ⟨plain, plain'⟩, writes.trans writes'⟩

instance : Std.Refl Converses := ⟨refl⟩

instance : Trans Converses Converses Converses := ⟨trans⟩

end Converses

theorem silent_sleep (ms : Nat) (s : Session Link) : Silent s (Clock.sleep ms s) :=
  fun settled => ⟨rfl, rfl, Link.onward_await settled _ _, [.sleep ms], rfl⟩

theorem converses_sleep (ms : Nat) (s : Session Link) : Converses s (Clock.sleep ms s) :=
  .silent (silent_sleep ms s)

section

variable {packetId : UInt16}

/-- Reading from a stream of frames takes what its link delivers. -/
theorem onward_readUntil (deadline : Nat) (f : FrameStream Link) (settled : f.channel.Settled) :
    let outcome : Outcome _ _ := f.readUntil deadline
    outcome.state.format = f.format ∧ f.channel.Onward [] outcome.state.channel ∧
      ∃ uses : List Link.Use, outcome.state.channel = uses.foldl Link.use f.channel := by
  have next {f : FrameStream Link} (settled : f.channel.Settled) {wait : Nat}
      {outcome : Outcome Link (Option Delivery)}
      (received : Channel.receive wait f.channel = outcome) :
      f.channel.Onward [] outcome.state ∧
        outcome.state = f.channel.use (.perform (.read wait)) := by
    subst received
    exact ⟨Link.onward_read settled wait, (Link.use_read wait f.channel).symm⟩
  fun_induction FrameStream.readUntil deadline f with
  | case1 | case2 | case3 => exact ⟨rfl, .refl _, [], rfl⟩
  | case4 f rest decoded now early e channel received
  | case5 f rest decoded now early channel received =>
    obtain ⟨read, used⟩ := next settled received
    exact ⟨rfl, read, [.perform (.read (deadline - now))], used⟩
  | case6 f rest decoded now early d channel received ih =>
    obtain ⟨read, used⟩ := next settled received
    obtain ⟨format, onward, uses, used'⟩ := ih (read.settled settled)
    exact ⟨format, read.silent onward, .perform (.read (deadline - now)) :: uses,
      used'.trans (congrArg (uses.foldl Link.use ·) used)⟩

theorem silent_receive (packetId : UInt16) : Action.Leads Silent (receive packetId) := by
  intro s
  have next {s : Session Link} {deadline now : Nat} {outcome : Outcome (FrameStream Link) Delivery}
      (read : FrameStream.read (deadline - now) s.stream = outcome) :
      Silent s { s with stream := outcome.state } := by
    intro settled
    obtain ⟨format, onward, used⟩ := onward_readUntil _ s.stream settled
    rw [FrameStream.read] at read
    rw [read] at format onward used
    exact ⟨rfl, format, onward, used⟩
  unfold receive
  generalize Clock.now s + s.timeout = deadline
  fun_induction receiveUntil deadline packetId s with
  | case1 s late => exact .refl s
  | case2 s now early e stream read => exact next read
  | case3 s now early frame stream read e decoded ih => exact (next read).trans ih
  | case4 s now early frame stream read reply decoded wanted => exact next read
  | case5 s now early frame stream read reply decoded other ih => exact (next read).trans ih

theorem leads_receive (packetId : UInt16) : Action.Leads Converses (receive packetId) :=
  fun s => .silent (silent_receive packetId s)

theorem state_onStream {α : Type} (act : Action (FrameStream Link) α) (s : Session Link) :
    Outcome.state (onStream act s) = { s with stream := Outcome.state (act s.stream) } := by
  unfold onStream
  rw [Action.state_zoom]

theorem state_send (request : Request) (destination : Address) (s : Session Link) :
    Outcome.state (send request destination packetId s) =
      { s with
        stream := Outcome.state
          (FrameStream.write (request.encode s.ownSerial packetId) destination s.stream) } :=
  state_onStream (FrameStream.write (request.encode s.ownSerial packetId) destination) s

theorem state_write {f : FrameStream Link} {payload frame : Bytes}
    (encoded : f.format.encode payload = .ok frame) (destination : Address) :
    Outcome.state (FrameStream.write payload destination f) =
      { f with channel := Outcome.state (Link.write frame destination f.channel) } := by
  have framed : FrameStream.write payload destination f =
      FrameStream.onChannel (Link.write frame destination) f := by
    rw [FrameStream.write, encoded]
    rfl
  rw [framed]
  exact Action.state_zoom _ _ _ f

theorem state_write_of_error {f : FrameStream Link} {payload : Bytes} {e : FrameError}
    (tooLong : f.format.encode payload = .error e) (destination : Address) :
    Outcome.state (FrameStream.write payload destination f) = f := by
  rw [FrameStream.write, tooLong]
  rfl

theorem leads_send {request : Request} (plain : (request.controlWord == .logoff) = false)
    (destination : Address) (packetId : UInt16) :
    Action.Leads Converses (send request destination packetId) := by
  intro s settled
  rw [state_send]
  cases encoded : s.stream.format.encode (request.encode s.ownSerial packetId) with
  | error e =>
    rw [state_write_of_error encoded]
    exact Converses.refl s settled
  | ok frame =>
    obtain ⟨count, onward⟩ := Link.onward_write frame destination s.link
    rw [state_write encoded]
    refine ⟨[.request request destination packetId count], ?_, rfl, rfl, ?_,
      [.perform (.write frame destination)], (Link.use_write frame destination s.link).symm⟩
    · exact List.forall_mem_singleton.mpr plain
    · simp only [packetsOf, Message.packets, encoded, List.flatMap_singleton]
      exact onward

theorem leads_device (serial : UInt32) : Action.Leads Converses (device (σ := Link) serial) := by
  intro s
  unfold device
  split <;> exact .refl s

theorem leads_ofProtocol {α : Type} (r : Except ProtocolError α) :
    Action.Leads Converses (ofProtocol (σ := Link) r) :=
  Action.leads_ofExcept _

end

section

variable {α : Type}

theorem leads_exchange {attempt : UInt16 → Action (Session Link) α}
    (h : ∀ packetId, Action.Leads Converses (attempt packetId)) :
    Action.Leads Converses (exchange attempt) := by
  intro s
  rw [exchange_eq, Outcome.state_mapState]
  have begun : Converses s s.cleared := .same rfl rfl rfl
  have finished (t : Session Link) : Converses t t.ended := .same rfl rfl rfl
  exact (begun.trans (h s.numbering.current s.cleared)).trans (finished _)

theorem leads_withRetries {attempt : Action (Session Link) α}
    (h : Action.Leads Converses attempt) : Action.Leads Converses (withRetries attempt) :=
  RetryBudget.leads_run h converses_sleep {}

/-- A wait for a reply, whatever comes of it. -/
theorem converses_of_receive {packetId : UInt16} {s : Session Link}
    {outcome : Outcome (Session Link) (Address × Reply)} (ran : receive packetId s = outcome) :
    Converses s outcome.state :=
  ran ▸ leads_receive packetId s

theorem leads_collectDevices (expected : Nat) (packetId : UInt16) (found : List Device) :
    Action.Leads Converses (collectDevices expected packetId found) := by
  intro s
  fun_induction collectDevices expected packetId found s with
  | case1 found s enough => exact .refl s
  | case2 found s few e t received => exact converses_of_receive received
  | case3 found s few address reply t received source known ih =>
    exact (converses_of_receive received).trans ih
  | case4 found s few address reply t received source fresh ih =>
    exact (converses_of_receive received).trans ih

theorem leads_discover (expected : Nat) : Action.Leads Converses (discover expected) := by
  have once (packetId : UInt16) : Action.Leads Converses (discoverOnce expected packetId) :=
    (leads_send rfl _ _).bind fun _ => leads_collectDevices expected packetId []
  have asked := (leads_withRetries (leads_exchange once)).mapError .discoveryFailed
  refine asked.bind fun devices => .bind ?_ fun _ => Action.leads_pure _
  exact Action.leads_modify fun s => .same rfl rfl rfl

theorem leads_collectLogons (password : Bytes) (packetId : UInt16) (answered : List UInt32) :
    Action.Leads Converses (collectLogons password packetId answered) := by
  intro s
  fun_induction collectLogons password packetId answered s with
  | case1 answered s all => exact .refl s
  | case2 answered s some e t received => exact converses_of_receive received
  | case3 answered s some address reply t received serial known ih =>
    exact (converses_of_receive received).trans ih
  | case4 answered s some address reply t received serial fresh devices ih =>
    have marked : Converses t { t with devices } := .same rfl rfl rfl
    exact (converses_of_receive received).trans (marked.trans ih)

theorem leads_logOnOnce (who : UserGroup) (password : Bytes) (packetId : UInt16) :
    Action.Leads Converses (logOnOnce who password packetId) := by
  refine Action.leads_get.bind fun s => (leads_send rfl _ _).bind fun _ => ?_
  refine .bind (Action.leads_modify fun s => .same rfl rfl rfl) fun _ => ?_
  refine (leads_collectLogons password packetId []).bind fun _ => .bind ?_ fun _ => ?_
  · refine Action.leads_get.bind fun s => ?_
    split
    · exact leads_send rfl _ _
    · exact Action.leads_pure _
  · refine Action.leads_get.bind fun s => ?_
    split
    · exact Action.leads_pure _
    · exact Action.leads_throw _

theorem leads_logOn (password : String) (who : UserGroup) :
    Action.Leads Converses (logOn password who) := by
  intro s
  cases allowed : logonRefusal? password who s with
  | some e =>
    rw [logOn_of_refused allowed]
    exact .refl s
  | none =>
    obtain ⟨some, encoded, granted⟩ := encoded_of_logonRefusal allowed
    rw [logOn_of_encoded some granted]
    have asked := leads_withRetries (leads_exchange (leads_logOnOnce who encoded))
    exact asked.mapError asLogonError s

theorem leads_syncClockOnce (packetId : UInt16) :
    Action.Leads Converses (syncClockOnce packetId) := by
  refine (leads_send rfl _ _).bind fun _ => (leads_receive packetId).bind fun answer => ?_
  refine (leads_ofProtocol _).bind fun reading => (leads_send rfl _ _).bind fun _ => ?_
  refine Action.leads_get.bind fun s => ?_
  simp only
  split
  · exact leads_send rfl _ _
  · exact Action.leads_pure _

theorem leads_syncClock : Action.Leads Converses syncClock :=
  leads_withRetries (leads_exchange leads_syncClockOnce)

theorem leads_queryChannel (serial : UInt32) (object : UInt16) (first last : UInt32) :
    Action.Leads Converses (queryChannel serial object first last) := by
  refine (leads_device serial).bind fun d => leads_exchange fun packetId => ?_
  refine (leads_send rfl _ _).bind fun _ => (leads_receive packetId).bind fun _ => ?_
  exact (leads_ofProtocol _).bind fun _ => Action.leads_pure _

/-- All readings are what is made of the records of one query. -/
theorem leads_readings (query : Query) (ofRecords : List Record → α) (serial : UInt32) :
    Action.Leads Converses
      (do return ofRecords (← queryRecords serial query) : Action (Session Link) α) := by
  have asked := leads_withRetries (leads_queryChannel serial query.object query.first query.last)
  exact (asked.bind fun _ => Action.leads_pure _).bind fun _ => Action.leads_pure _

theorem leads_collectPages (kind : Archive.Kind) (packetId : UInt16)
    (entries : List Archive.Entry) :
    Action.Leads Converses (collectPages kind packetId entries) := by
  intro s
  fun_induction collectPages kind packetId entries s with
  | case1 entries s e t received => exact converses_of_receive received
  | case2 entries s address reply t received e other => exact converses_of_receive received
  | case3 entries s address reply t received page entries' more ih =>
    exact (converses_of_receive received).trans ih
  | case4 entries s address reply t received page entries' stops =>
    exact converses_of_receive received

theorem leads_readArchive (serial : UInt32) (kind : Archive.Kind) (first last : UInt32) :
    Action.Leads Converses (readArchive serial kind first last) := by
  refine .bind (leads_withRetries ?_) fun _ => Action.leads_pure _
  refine (leads_device serial).bind fun d => leads_exchange fun packetId => ?_
  exact (leads_send rfl _ _).bind fun _ => leads_collectPages kind packetId []

theorem leads_signalStrength : Action.Leads Converses signalStrength := by
  intro s settled
  obtain ⟨count, onward⟩ := Link.onward_signalStrength settled s.link.info.peerAddress
  have asked : Outcome.state (signalStrength s) =
      { s with
        stream := { s.stream with
          channel := Outcome.state (Link.signalStrength s.link.info.peerAddress s.link) } } := by
    unfold signalStrength onLink
    rw [Action.get_bind, state_onStream, FrameStream.onChannel, Action.state_zoom]
    rfl
  rw [asked]
  refine ⟨[.signalQuery count], List.forall_mem_singleton.mpr rfl, rfl, rfl, ?_,
    [.perform (.signalStrength s.link.info.peerAddress)], (Link.use_signalStrength _ s.link).symm⟩
  rw [packetsOf, List.flatMap_singleton]
  exact onward

end

theorem leads_readSamples (serial : UInt32) (kind : Archive.Kind) (first last : UInt32) :
    Action.Leads Converses (readSamples serial kind first last) :=
  (leads_readArchive serial kind first last).bind fun _ => Action.leads_pure _

end SolarTelemetry.Session
