import SolarTelemetry.Proofs.Session.Transactions

/-!
# What a session keeps

Reading from devices leaves the device table as it is, and nothing that a session does turns its
clock.
-/

namespace SolarTelemetry

namespace Session

section

variable {σ : Type} {α β : Type}

/-- What reading from a session leaves as it is. -/
def settings (s : Session σ) : Int × List Device := (s.wallClock, s.devices)

theorem leaves_onStream (act : Action (FrameStream σ) α) :
    Action.Leaves settings (onStream act) := by
  intro s
  obtain ⟨stream, same⟩ := exists_stream_of_onStream act s
  rw [same]
  rfl

theorem leaves_device (serial : UInt32) : Action.Leaves settings (device (σ := σ) serial) := by
  intro s
  unfold device
  split <;> rfl

theorem leaves_ofProtocol (r : Except ProtocolError α) :
    Action.Leaves settings (ofProtocol (σ := σ) r) :=
  fun s => congrArg settings (Action.state_ofExcept _ s)

theorem leaves_exchange {attempt : UInt16 → Action (Session σ) α}
    (h : ∀ packetId, Action.Leaves settings (attempt packetId)) :
    Action.Leaves settings (exchange attempt) := by
  intro s
  rw [exchange_eq, Outcome.state_mapState]
  exact h s.numbering.current s.cleared

variable [Channel σ]

theorem leaves_send (request : Request) (destination : Address) (packetId : UInt16) :
    Action.Leaves settings (send (σ := σ) request destination packetId) :=
  fun s => leaves_onStream (FrameStream.write (request.encode s.ownSerial packetId) destination) s

theorem leaves_receive (packetId : UInt16) :
    Action.Leaves settings (receive (σ := σ) packetId) := by
  intro s
  obtain ⟨stream, same⟩ := exists_stream_of_receive (rfl : receive packetId s = _)
  rw [same]
  rfl

theorem leaves_withRetries {view : Session σ → β} {attempt : Action (Session σ) α}
    (h : Action.Leaves view attempt) (rest : ∀ ms s, view (Clock.sleep ms s) = view s) :
    Action.Leaves view (withRetries attempt) := by
  intro s
  unfold withRetries
  generalize ({} : RetryBudget) = b
  fun_induction RetryBudget.run b attempt s with
  | case1 b s a t ran => exact (ran ▸ h s :)
  | case2 b s e t ran refused => exact (ran ▸ h s :)
  | case3 b s e t ran c granted ih =>
    have failed : view t = view s := (ran ▸ h s :)
    rw [ih, rest, failed]

theorem leaves_collectPages (kind : Archive.Kind) (packetId : UInt16)
    (entries : List Archive.Entry) :
    Action.Leaves settings (collectPages (σ := σ) kind packetId entries) := by
  intro s
  have next {u : Session σ} {outcome} (ran : receive packetId u = outcome) :
      settings (Outcome.state outcome) = settings u := ran ▸ leaves_receive packetId u
  fun_induction collectPages kind packetId entries s with
  | case1 entries s e t received => exact next received
  | case2 entries s address reply t received e other => exact next received
  | case3 entries s address reply t received page entries' more ih => exact ih.trans (next received)
  | case4 entries s address reply t received page entries' stops => exact next received

theorem leaves_queryRecords (serial : UInt32) (query : Query) :
    Action.Leaves settings (queryRecords (σ := σ) serial query) := by
  refine .bind (leaves_withRetries ?_ fun _ _ => rfl) fun _ => Action.leaves_pure _
  refine (leaves_device serial).bind fun d => leaves_exchange fun packetId => ?_
  refine (leaves_send _ _ _).bind fun _ => (leaves_receive packetId).bind fun _ => ?_
  exact (leaves_ofProtocol _).bind fun _ => Action.leaves_pure _

/-- All readings are what is made of the records of one query. -/
theorem leaves_readings (query : Query) (ofRecords : List Record → β) (serial : UInt32) :
    Action.Leaves settings
      (do return ofRecords (← queryRecords serial query) : Action (Session σ) β) :=
  (leaves_queryRecords serial query).bind fun _ => Action.leaves_pure _

theorem leaves_readArchive (serial : UInt32) (kind : Archive.Kind) (first last : UInt32) :
    Action.Leaves settings (readArchive (σ := σ) serial kind first last) := by
  refine .bind (leaves_withRetries ?_ fun _ _ => rfl) fun _ => Action.leaves_pure _
  refine (leaves_device serial).bind fun d => leaves_exchange fun packetId => ?_
  exact (leaves_send _ _ _).bind fun _ => leaves_collectPages kind packetId []

theorem leaves_readMonthSamples (serial first last : UInt32) :
    Action.Leaves settings (readMonthSamples (σ := σ) serial first last) :=
  (leaves_readArchive _ _ _ _).bind fun _ => Action.leaves_pure _

theorem leaves_syncClock : Action.Leaves settings (syncClock (σ := σ)) := by
  refine leaves_withRetries (leaves_exchange fun packetId => ?_) fun _ _ => rfl
  refine (leaves_send _ _ _).bind fun _ => (leaves_receive packetId).bind fun answer => ?_
  refine (leaves_ofProtocol _).bind fun reading => (leaves_send _ _ _).bind fun _ => ?_
  refine .bind (fun _ => rfl) fun s => ?_
  simp only
  split
  · exact leaves_send _ _ _
  · exact Action.leaves_pure _

theorem leaves_wallClock_exchange {attempt : UInt16 → Action (Session σ) α}
    (keeps : ∀ packetId, KeepsTo packetId (attempt packetId)) :
    Action.Leaves wallClock (exchange attempt) := by
  intro s
  rw [exchange_eq, Outcome.state_mapState]
  obtain ⟨events, trace, -⟩ := keeps s.numbering.current s.cleared
  obtain ⟨stream, devices, same, -⟩ := trace.exists_eq
  rw [same]
  rfl

theorem leaves_wallClock_discover (expected : Nat) :
    Action.Leaves wallClock (discover (σ := σ) expected) := by
  have asked := leaves_withRetries
    (leaves_wallClock_exchange fun _ => keepsTo_discoverOnce (σ := σ) expected) fun _ _ => rfl
  refine .bind (fun s => ?_) fun devices => ?_
  · rw [Action.state_mapError]
    exact asked s
  · exact .bind (Action.leaves_modify fun _ => rfl) fun _ => Action.leaves_pure _

theorem leaves_wallClock_logOn (password : String) (who : UserGroup) :
    Action.Leaves wallClock (logOn (σ := σ) password who) := by
  intro s
  cases allowed : logonRefusal? password who s with
  | some e =>
    rw [logOn_of_refused allowed]
    rfl
  | none =>
    obtain ⟨some, encoded, granted⟩ := encoded_of_logonRefusal allowed
    rw [logOn_of_encoded some granted, Action.state_mapError]
    exact leaves_withRetries
      (leaves_wallClock_exchange fun _ => keepsTo_logOnOnce (σ := σ) who encoded)
      (fun _ _ => rfl) s

end

theorem leaves_signalStrength : Action.Leaves settings signalStrength :=
  .bind (fun _ => rfl) fun _ => leaves_onStream _

end Session

end SolarTelemetry
