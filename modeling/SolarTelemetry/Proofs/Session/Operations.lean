import SolarTelemetry.Proofs.Session.Archives
import SolarTelemetry.Proofs.Session.Transactions

/-!
# Operations of a session

Whatever is asked of a session, it makes one transaction for each attempt, and none if it refuses at
once. As the numbers of transactions go round, a reply to one of them can be taken for a reply to
another only if their distance is a multiple of the count of numbers.
-/

namespace SolarTelemetry

namespace Session

def logOff : Action (Session Link) Unit :=
  transaction fun packetId => send logoffRequest .broadcast packetId

theorem link_closed (s : Session Link) : s.closed.link = s.link.close := rfl

theorem close_eq (s : Session Link) : close s = (Outcome.state (logOff s)).closed.link := by
  rw [link_closed]
  rfl

/-- Whether a device is in the table. -/
def Knows (serial : UInt32) (s : Session Link) : Prop := serial ∈ s.devices.map Device.serial

instance (serial : UInt32) (s : Session Link) : Decidable (Knows serial s) :=
  inferInstanceAs (Decidable (serial ∈ _))

theorem exists_device_of_knows {serial : UInt32} {s : Session Link} (known : Knows serial s) :
    ∃ d, device serial s = .ok d s := by
  obtain ⟨d, member, same⟩ := List.mem_map.mp known
  unfold device
  cases found : s.devices.find? (·.serial == serial) with
  | some d => exact ⟨d, rfl⟩
  | none => exact absurd (beq_iff_eq.mpr same) (List.find?_eq_none.mp found d member)

theorem device_of_not_knows {serial : UInt32} {s : Session Link} (unknown : ¬Knows serial s) :
    device serial s = .error (.protocol (.unknownDevice serial)) s := by
  unfold device
  cases found : s.devices.find? (·.serial == serial) with
  | some d =>
    have same := List.find?_some found
    exact absurd (List.mem_map.mpr ⟨d, List.mem_of_find?_eq_some found, eq_of_beq same⟩) unknown
  | none => rfl

def unknown? (serial : UInt32) (s : Session Link) : Option Error :=
  if Knows serial s then none else some (.protocol (.unknownDevice serial))

theorem unknown?_eq_some_iff {serial : UInt32} {s : Session Link} {e : Error} :
    unknown? serial s = some e ↔ ¬Knows serial s ∧ e = .protocol (.unknownDevice serial) := by
  unfold unknown?
  split
  · next known => simp [known]
  · next unknown => simp [unknown, eq_comm]

theorem unknown?_eq_none_iff {serial : UInt32} {s : Session Link} :
    unknown? serial s = none ↔ Knows serial s := by
  unfold unknown?
  split
  · next known => simp [known]
  · next unknown => simp [unknown]

section

variable {α : Type} {serial : UInt32} {once : Device → UInt16 → Action (Session Link) α}

theorem withRetries_of_not_knows {s : Session Link} (unknown : ¬Knows serial s) :
    withRetries (device serial >>= fun d => exchange (once d)) s =
      .error (.protocol (.unknownDevice serial)) s :=
  RetryBudget.run_of_refused (Action.bind_of_error (device_of_not_knows unknown))
    (RetryBudget.grant?_of_final rfl)

/-- A transaction leaves the serials in the table. -/
theorem transacts_device (keeps : ∀ d packetId, KeepsTo packetId (once d packetId))
    {s : Session Link} (known : Knows serial s) :
    Transacts s 1 (Outcome.state ((device serial >>= fun d => exchange (once d)) s)) ∧
      Knows serial (Outcome.state ((device serial >>= fun d => exchange (once d)) s)) := by
  obtain ⟨d, found⟩ := exists_device_of_knows known
  rw [Action.bind_of_ok found]
  refine ⟨.exchange (keeps d) s, ?_⟩
  obtain ⟨events, trace, -⟩ := (Deals.clear s).trans (keeps d s.numbering.current s.cleared)
  obtain ⟨stream, devices, same, unmarked⟩ := trace.exists_eq
  rw [exchange_eq, Outcome.state_mapState, same]
  have serials := congrArg (List.map Device.serial) unmarked
  rw [serials_forgetLogons, serials_forgetLogons] at serials
  change serial ∈ devices.map Device.serial
  rwa [serials]

theorem transacts_withRetries_device (keeps : ∀ d packetId, KeepsTo packetId (once d packetId))
    {s : Session Link} (known : Knows serial s) :
    Transacts s (RetryBudget.attempts {} (device serial >>= fun d => exchange (once d)) s)
      (Outcome.state (withRetries (device serial >>= fun d => exchange (once d)) s)) :=
  .run (fun _ known => transacts_device keeps known) (fun _ _ known => known) {} s known

end

theorem queryRecords_of_not_knows {serial : UInt32} {s : Session Link} (query : Query)
    (unknown : ¬Knows serial s) :
    queryRecords serial query s = .error (.protocol (.unknownDevice serial)) s :=
  Action.bind_of_error (withRetries_of_not_knows unknown)

theorem readArchive_of_not_knows {serial first last : UInt32} {kind : Archive.Kind}
    {s : Session Link} (unknown : ¬Knows serial s) :
    readArchive serial kind first last s = .error (.protocol (.unknownDevice serial)) s := by
  rw [readArchive_eq, tryArchive, withRetries_of_not_knows unknown]

theorem readEvents_of_holdsEvents {serial first last : UInt32} {kind : Archive.Kind}
    (holds : kind.holdsEvents) :
    readEvents (σ := Link) serial kind first last =
      (readArchive serial kind first last >>= fun entries =>
        pure (entries.filterMap Archive.Entry.event?)) := by
  unfold readEvents
  rw [holds]
  rfl

theorem readEvents_of_not_holdsEvents {serial first last : UInt32} {kind : Archive.Kind}
    {s : Session Link} (holdsNone : ¬kind.holdsEvents) :
    readEvents serial kind first last s = .error (.protocol (.notAnEventArchive kind)) s := by
  unfold readEvents
  rw [Bool.eq_false_iff.mpr holdsNone]
  rfl

/-- The sets of readings that a device is asked for. -/
inductive Readings where
  | ac
  | dc
  | statistics
  | status
  | info

namespace Readings

def query : Readings → Query
  | ac => .ac
  | dc => .dc
  | statistics => .statistics
  | status => .status
  | info => .deviceInfo

def read (serial : UInt32) : Readings → Action (Session Link) Unit
  | ac => discard (readAc serial)
  | dc => discard (readDc serial)
  | statistics => discard (readStatistics serial)
  | status => discard (readStatus serial)
  | info => discard (readInfo serial)

theorem state_read (what : Readings) (serial : UInt32) (s : Session Link) :
    Outcome.state (what.read serial s) =
      Outcome.state (withRetries
        (queryChannel serial what.query.object what.query.first what.query.last) s) := by
  cases what <;>
    exact (Action.state_discard _ _).trans ((Action.state_map _ _ _).trans (Action.state_map _ _ _))

end Readings

theorem transacts_discover (expected : Nat) (s : Session Link) :
    Transacts s (RetryBudget.attempts {} (exchange (discoverOnce expected)) s)
      (Outcome.state (discard (discover expected) s)) := by
  have made := Transacts.withRetries_exchange (fun _ => keepsTo_discoverOnce expected) s
  rw [Action.state_discard, discover]
  cases ran : withRetries (exchange (discoverOnce expected)) s with
  | ok devices t =>
    have named : (withRetries (exchange (discoverOnce expected))).mapError .discoveryFailed s =
        .ok devices t := by
      rw [Action.mapError, ran]
    rw [ran] at made
    rw [Action.bind_of_ok named]
    exact made.trans (.of_run (.learn devices .refl))
  | error e t =>
    have named : (withRetries (exchange (discoverOnce expected))).mapError .discoveryFailed s =
        .error (.discoveryFailed e) t := by
      rw [Action.mapError, ran]
    rw [ran] at made
    rw [Action.bind_of_error named]
    exact made

theorem transacts_readArchive {serial : UInt32} {s : Session Link} (kind : Archive.Kind)
    (first last : UInt32) (known : Knows serial s) :
    Transacts s (RetryBudget.attempts {} (tryArchive serial kind first last) s)
      (Outcome.state (readArchive serial kind first last s)) := by
  have made := transacts_withRetries_device (fun d _ => keepsTo_fetchOnce d kind first last) known
  exact (Action.state_map _ _ _).symm ▸ made

theorem transacts_close (s : Session Link) :
    Transacts s 1 { Outcome.state (logOff s) with
      stream := { (Outcome.state (logOff s)).stream with channel := close s } } := by
  have left : Outcome.state (logOff s) = ended
      (Outcome.state (send logoffRequest .broadcast s.numbering.current s)) := by
    rw [logOff, transaction_eq, Outcome.state_mapState]
  have mine : KeepsTo s.numbering.current
      (send (σ := Link) logoffRequest .broadcast s.numbering.current) := keepsTo_send _ _
  obtain ⟨events, trace, mine⟩ := mine s
  generalize Outcome.state (send logoffRequest .broadcast s.numbering.current s) = t at trace left
  rw [close_eq, link_closed, left]
  exact ⟨_, .transact trace (.close .refl), rfl, List.forall_mem_singleton.mpr mine⟩

/-- What can be asked of a session, and what can happen to it meanwhile. -/
inductive Operation where
  | discover (expected : Nat)
  | logOn (password : String) (who : UserGroup)
  | syncClock
  | read (what : Readings) (serial : UInt32)
  | queryChannel (serial : UInt32) (object : UInt16) (first last : UInt32)
  | readArchive (serial : UInt32) (kind : Archive.Kind) (first last : UInt32)
  | readSamples (serial : UInt32) (kind : Archive.Kind) (first last : UInt32)
  | readEvents (serial : UInt32) (kind : Archive.Kind) (first last : UInt32)
  | signalStrength
  | close
  | rest (ms : Nat)
  | setClock (wallClock : Int)

namespace Operation

def act : Operation → Action (Session Link) Unit
  | discover expected => discard (Session.discover expected)
  | logOn password who => Session.logOn password who
  | syncClock => Session.syncClock
  | read what serial => what.read serial
  | queryChannel serial object first last => discard (Session.queryChannel serial object first last)
  | readArchive serial kind first last => discard (Session.readArchive serial kind first last)
  | readSamples serial kind first last => discard (Session.readSamples serial kind first last)
  | readEvents serial kind first last => discard (Session.readEvents serial kind first last)
  | signalStrength => discard Session.signalStrength
  | close => fun s =>
    let t := Outcome.state (logOff s)
    .ok () { t with stream := { t.stream with channel := Session.close s } }
  | rest ms => modify (Clock.sleep ms)
  | setClock wallClock => modify fun s => { s with wallClock }

/-- Why an operation is refused before anything is sent, if it is. -/
def refusal? : Operation → Session Link → Option Error
  | logOn password who, s => logonRefusal? password who s
  | read _ serial, s | queryChannel serial .., s | readArchive serial .., s
  | readSamples serial .., s => unknown? serial s
  | readEvents serial kind .., s =>
    if kind.holdsEvents then unknown? serial s else some (.protocol (.notAnEventArchive kind))
  | _, _ => none

/-- How many attempts an operation makes. -/
def attempts (op : Operation) (s : Session Link) : Nat :=
  if (op.refusal? s).isSome then 0
  else
    match op with
    | discover expected => RetryBudget.attempts {} (exchange (discoverOnce expected)) s
    | logOn password who =>
      match Password.encode who password with
      | .ok encoded => RetryBudget.attempts {} (exchange (logOnOnce who encoded)) s
      | .error _ => 0
    | syncClock => RetryBudget.attempts {} (exchange syncClockOnce) s
    | read what serial =>
      let query := what.query
      RetryBudget.attempts {} (Session.queryChannel serial query.object query.first query.last) s
    | readArchive serial kind first last | readSamples serial kind first last
    | readEvents serial kind first last =>
      RetryBudget.attempts {} (tryArchive serial kind first last) s
    | queryChannel .. | close => 1
    | signalStrength | rest _ | setClock _ => 0

/-- The session that an operation leaves. -/
def after (op : Operation) (s : Session Link) : Session Link := Outcome.state (op.act s)

theorem act_of_refused {op : Operation} {s : Session Link} {e : Error}
    (refused : op.refusal? s = some e) : op.act s = .error e s := by
  cases op with
  | logOn password who => exact logOn_of_refused refused
  | read what serial =>
    obtain ⟨unknown, rfl⟩ := unknown?_eq_some_iff.mp refused
    cases what <;>
      exact Action.discard_of_error
        (Action.bind_of_error (queryRecords_of_not_knows _ unknown))
  | queryChannel serial object first last =>
    obtain ⟨unknown, rfl⟩ := unknown?_eq_some_iff.mp refused
    exact Action.discard_of_error (Action.bind_of_error (device_of_not_knows unknown))
  | readArchive serial kind first last =>
    obtain ⟨unknown, rfl⟩ := unknown?_eq_some_iff.mp refused
    exact Action.discard_of_error (readArchive_of_not_knows unknown)
  | readSamples serial kind first last =>
    obtain ⟨unknown, rfl⟩ := unknown?_eq_some_iff.mp refused
    exact Action.discard_of_error (Action.bind_of_error (readArchive_of_not_knows unknown))
  | readEvents serial kind first last =>
    change (if kind.holdsEvents then unknown? serial s
      else some (.protocol (.notAnEventArchive kind))) = some e at refused
    apply Action.discard_of_error
    split at refused
    · next holds =>
      obtain ⟨unknown, rfl⟩ := unknown?_eq_some_iff.mp refused
      rw [readEvents_of_holdsEvents holds]
      exact Action.bind_of_error (readArchive_of_not_knows unknown)
    · next holdsNone =>
      cases refused
      exact readEvents_of_not_holdsEvents holdsNone
  | discover | syncClock | signalStrength | close | rest | setClock => cases refused

theorem transacts (op : Operation) (s : Session Link) :
    Transacts s (op.attempts s) (op.after s) := by
  cases refused : op.refusal? s with
  | some e =>
    unfold attempts after
    rw [act_of_refused refused, refused]
    exact .of_run .refl
  | none =>
    unfold attempts after
    rw [refused]
    cases op with
    | discover expected => exact transacts_discover expected s
    | logOn password who =>
      obtain ⟨some, encoded, granted⟩ := encoded_of_logonRefusal refused
      simp only [act, granted]
      rw [logOn_of_encoded some granted, Action.state_mapError]
      exact .withRetries_exchange (fun _ => keepsTo_logOnOnce who encoded) s
    | syncClock => exact .withRetries_exchange (fun _ => keepsTo_syncClockOnce) s
    | read what serial =>
      change Transacts s _ (Outcome.state (what.read serial s))
      rw [Readings.state_read]
      exact transacts_withRetries_device (fun d _ => keepsTo_queryOnce d _ _ _)
        (unknown?_eq_none_iff.mp refused)
    | queryChannel serial object first last =>
      change Transacts s 1 (Outcome.state (discard (Session.queryChannel _ _ _ _) s))
      rw [Action.state_discard]
      have known := unknown?_eq_none_iff.mp refused
      exact (transacts_device (fun d _ => keepsTo_queryOnce d _ _ _) known).1
    | readArchive serial kind first last =>
      change Transacts s _ (Outcome.state (discard (Session.readArchive _ _ _ _) s))
      rw [Action.state_discard]
      exact transacts_readArchive kind first last (unknown?_eq_none_iff.mp refused)
    | readSamples serial kind first last =>
      change Transacts s _ (Outcome.state (discard (Session.readSamples _ _ _ _) s))
      rw [Action.state_discard, Session.readSamples, Action.state_map]
      exact transacts_readArchive kind first last (unknown?_eq_none_iff.mp refused)
    | readEvents serial kind first last =>
      change (if kind.holdsEvents then unknown? serial s
        else some (.protocol (.notAnEventArchive kind))) = none at refused
      split at refused
      · next holds =>
        change Transacts s _ (Outcome.state (discard (Session.readEvents _ _ _ _) s))
        rw [Action.state_discard, readEvents_of_holdsEvents holds, Action.state_map]
        exact transacts_readArchive kind first last (unknown?_eq_none_iff.mp refused)
      · cases refused
    | signalStrength =>
      change Transacts s 0 (Outcome.state (discard Session.signalStrength s))
      rw [Action.state_discard]
      exact .of_run (.measure .refl)
    | close => exact transacts_close s
    | rest ms => exact .of_run (.sleep ms .refl)
    | setClock wallClock => exact .of_run (.setClock wallClock .refl)

end Operation

/-- The session that is left by one operation after another. -/
def afterAll (ops : List Operation) (s : Session Link) : Session Link :=
  ops.foldl (fun s op => op.after s) s

/-- How many attempts operations make, one after another. -/
def attemptsOf : List Operation → Session Link → Nat
  | [], _ => 0
  | op :: ops, s => op.attempts s + attemptsOf ops (op.after s)

theorem transacts_afterAll (ops : List Operation) (s : Session Link) :
    Transacts s (attemptsOf ops s) (afterAll ops s) := by
  induction ops generalizing s with
  | nil => exact .of_run .refl
  | cons op ops ih => exact (op.transacts s).trans (ih (op.after s))

/-- Whatever is asked of a session, there is one transaction for each attempt, they have the numbers
one after the other, and each writes requests with its own number only and accepts replies to its
own number only. So a reply to one of them can be accepted by those only that are a multiple of the
count of numbers away. What is refused before anything is sent changes nothing. -/
theorem transactions_apart (link : Link) (ownSerial : UInt32) (timeout : Nat) (wallClock : Int)
    (ops : List Operation) :
    let s := ofLink link ownSerial timeout wallClock
    ∃ ts, Run s ts (afterAll ops s) ∧ ts.length = attemptsOf ops s ∧
      (∀ (k : Nat) (tx : Transaction), ts[k]? = some tx →
        tx.packetId.toNat = 0x8000 + k % 0x8000 ∧
        (∀ destination payload, (destination, payload) ∈ tx.writes →
          ∃ header body, Header.read payload = some (header, body) ∧
            header.packetId = tx.packetId) ∧
        ∀ reply ∈ tx.replies, reply.packetId = tx.packetId &&& ~~~Request.packetFlag ∧
          ∀ (j : Nat) (other : Transaction), ts[j]? = some other →
            reply.packetId = other.packetId &&& ~~~Request.packetFlag →
            j % 0x8000 = k % 0x8000) ∧
      (afterAll ops s).numbering.current.toNat = 0x8000 + ts.length % 0x8000 ∧
      ∀ (op : Operation) (e : Error), op.refusal? (afterAll ops s) = some e →
        op.attempts (afterAll ops s) = 0 ∧
          op.act (afterAll ops s) = .error e (afterAll ops s) := by
  intro s
  obtain ⟨ts, run, length, sound⟩ := transacts_afterAll ops s
  obtain ⟨final, numbers⟩ := run.numbers (k := 0) rfl
  have numbered (k : Nat) (tx : Transaction) (found : ts[k]? = some tx) :
      tx.packetId = (Numbering.nth k).current := by
    rw [numbers k tx found, Nat.zero_add]
  refine ⟨ts, run, length, ?_, ?_, ?_⟩
  · intro k tx found
    have mine := sound tx (List.mem_of_getElem? found)
    refine ⟨?_, ?_, ?_⟩
    · rw [numbered k tx found, Numbering.toNat_nth]
    · intro destination payload written
      obtain ⟨header, body, read, same⟩ := Event.belongsTo_of_written mine written
      refine ⟨header, body, read, ?_⟩
      rw [same, numbered k tx found, Numbering.flag_nth]
    · intro reply accepted
      have matched := Event.belongsTo_of_accepted mine accepted
      refine ⟨matched, ?_⟩
      intro j other found' same
      rw [matched, numbered k tx found, numbered j other found'] at same
      exact (Numbering.mod_eq_of_unflagged same).symm
  · rw [final, Nat.zero_add, Numbering.toNat_nth]
  · intro op e refused
    refine ⟨?_, Operation.act_of_refused refused⟩
    unfold Operation.attempts
    rw [refused]
    rfl

end Session

end SolarTelemetry
