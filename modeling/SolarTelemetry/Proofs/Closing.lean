import SolarTelemetry.Proofs.Polling.Window
import SolarTelemetry.Proofs.Session.Closing

/-!
# How a poller ends

A poller asks one thing after the other of its session and closes it when it is asked to stop or
when something fails. Whatever it has come to by then, the session can be closed; and without a
failure it goes on until it is asked to stop. Only where a number does not fit is the poller gone
before it has closed anything.
-/

namespace SolarTelemetry

namespace Poller

/-- From one state to another nothing has been done on the session that would log off. -/
def Reaches (p q : Poller) : Prop := Session.Converses p.session q.session

namespace Reaches

variable {p q r : Poller}

theorem same (session : q.session = p.session) : Reaches p q := by
  unfold Reaches
  rw [session]
  exact .refl _

theorem trans (first : Reaches p q) (second : Reaches q r) : Reaches p r :=
  Session.Converses.trans first second

instance : Std.Refl Reaches := ⟨fun _ => same rfl⟩

instance : Trans Reaches Reaches Reaches := ⟨trans⟩

end Reaches

section

variable {α : Type}

theorem leads_onSession {act : Action (Session Link) α}
    (converses : Action.Leads Session.Converses act) : Action.Leads Reaches (onSession act) := by
  intro p
  rw [state_onSession]
  exact converses p.session

theorem leads_record (serial : UInt32) (kind : String) (data : Json) :
    Action.Leads Reaches (record serial kind data) := fun _ => .same rfl

variable (i : Inverter)

theorem leads_discover : Action.Leads Reaches (discover i) := by
  unfold discover
  split
  · refine leads_bind (leads_onSession (Session.leads_discover _)) fun _ => ?_
    exact Action.leads_pure _
  · refine leads_bind (leads_onSession ?_) fun _ => Action.leads_pure none
    exact (Session.leads_withRetries (Session.leads_exchange fun _ =>
      Session.leads_send rfl _ _)).mapError _

theorem leads_recordInfos (serials : List UInt32) :
    Action.Leads Reaches (recordInfos serials) := by
  induction serials with
  | nil => exact Action.leads_pure _
  | cons serial rest ih =>
    refine leads_bind (leads_onSession ?_) fun info => ?_
    · exact Session.leads_readings .deviceInfo DeviceInfo.ofRecords serial
    · exact leads_bind (leads_record _ _ _) fun _ => ih

theorem leads_setUp : Action.Leads Reaches (setUp i) := by
  refine leads_bind (leads_discover i) fun _ => ?_
  refine leads_bind (leads_onSession (Session.leads_logOn _ _)) fun _ => ?_
  refine leads_bind (leads_onSession fun s => Session.leads_syncClock s) fun _ => ?_
  refine leads_bind (leads_onSession fun s => Session.leads_signalStrength s) fun _ => ?_
  exact leads_bind (fun _ => .same rfl) fun p => leads_recordInfos p.authenticated

theorem leads_recordDailyYields (serial : UInt32) :
    Action.Leads Reaches (recordDailyYields i serial) := by
  refine leads_bind (fun _ => .same rfl) fun p => leads_bind (fun _ => .same rfl) fun start => ?_
  refine leads_bind (leads_onSession (Session.leads_readSamples _ _ _ _)) fun samples => ?_
  exact leads_record _ _ _

theorem leads_visit (serial : UInt32) : Action.Leads Reaches (visit i serial) := by
  refine leads_bind (leads_onSession ?_) fun ac => leads_bind (leads_onSession ?_) fun dc => ?_
  · exact Session.leads_readings .ac AcReadings.ofRecords serial
  · exact Session.leads_readings .dc DcReadings.ofRecords serial
  refine leads_bind (leads_onSession ?_) fun statistics =>
    leads_bind (leads_onSession ?_) fun status => ?_
  · exact Session.leads_readings .statistics Statistics.ofRecords serial
  · exact Session.leads_readings .status Status.ofRecords serial
  refine leads_bind (leads_record _ _ _) fun _ => leads_bind (leads_record _ _ _) fun _ => ?_
  refine leads_bind (leads_record _ _ _) fun _ => leads_bind (leads_record _ _ _) fun _ => ?_
  split
  · exact leads_recordDailyYields i serial
  · exact Action.leads_pure _

theorem leads_visitAll (serials : List UInt32) : Action.Leads Reaches (visitAll i serials) := by
  induction serials with
  | nil => exact Action.leads_pure _
  | cons serial rest ih => exact leads_bind (leads_visit i serial) fun _ => ih

theorem reaches_sleepUntil (moment : Nat) (p : Poller) : Reaches p (p.sleepUntil moment) := by
  unfold sleepUntil
  simp only
  split
  · exact .same rfl
  · exact Session.converses_sleep _ _

/-- Rounds end only because the poller is asked to stop, unless it breaks off. -/
theorem reaches_rounds (interval : Nat) (serial : UInt32) (others : List UInt32) (due : Nat)
    (p : Poller) :
    let outcome := rounds i interval serial others due p
    Reaches p (Outcome.state outcome) ∧
      (result? outcome = some (.ok ()) → (Outcome.state outcome).isAskedToStop) := by
  have round {due : Nat} {p : Poller} {outcome : Outcome Poller (Option Unit)}
      (polled : visitAll i (serial :: others) (p.sleepUntil due) = outcome) :
      Reaches p outcome.state :=
    (reaches_sleepUntil due p).trans (polled ▸ leads_visitAll i (serial :: others) _)
  fun_induction rounds i interval serial others due p with
  | case1 due p moment stops =>
    exact ⟨reaches_sleepUntil moment p,
      fun _ => isAskedToStop_sleepUntil (askedAt?_of_stopsAt? stops)⟩
  | case2 due p wanted e q polled =>
    refine ⟨round polled, fun finished => ?_⟩
    cases finished
  | case3 due p wanted q polled =>
    refine ⟨round polled, fun finished => ?_⟩
    cases finished
  | case4 due p wanted q polled began ih => exact ⟨(round polled).trans ih.1, ih.2⟩

theorem reaches_poll (interval : Nat) (p : Poller) :
    let outcome : Outcome _ _ := poll i interval p
    Reaches p outcome.state ∧
      (result? outcome = some (.ok ()) → outcome.state.isAskedToStop) := by
  have begun := leads_setUp i p
  by_cases ready : result? (setUp i p) = some (.ok ())
  · obtain ⟨q, ran⟩ := eq_ok_of_result? ready
    rw [ran] at begun
    cases marked : q.authenticated with
    | nil => exact absurd marked (authenticated_of_setUp ran)
    | cons serial others =>
      obtain ⟨rest, asked⟩ := reaches_rounds i interval serial others (Clock.now q.session) q
      rw [poll_of_ready ran marked]
      exact ⟨Reaches.trans begun rest, asked⟩
  · rw [poll_of_unready ready]
    exact ⟨begun, fun finished => absurd finished ready⟩

end

/-! ## Pollers that are never gone -/

/-- Whatever comes of it, the poller is still there. -/
def Stays {α : Type} (act : Polling α) : Prop := ∀ p q, act p ≠ .ok none q

namespace Stays

variable {α β : Type}

theorem pure (a : α) : Stays (Pure.pure a) := by
  intro p q gone
  have there : (Pure.pure a : Polling α) p = .ok (some a) p := rfl
  rw [there] at gone
  cases gone

theorem bind {act : Polling α} {next : α → Polling β} (first : Stays act)
    (second : ∀ a, Stays (next a)) : Stays (act >>= next) := by
  intro p q
  cases ran : act p with
  | error e p' =>
    rw [bind_of_failed ran]
    nofun
  | ok outcome p' =>
    cases outcome with
    | none => exact absurd ran (first p p')
    | some a =>
      rw [bind_of_some ran]
      exact second a p' q

theorem get_bind {next : Poller → Polling β} (rest : ∀ p, Stays (next p)) :
    Stays (MonadState.get >>= next) := by
  intro p q
  rw [Poller.get_bind]
  exact rest p p q

theorem onSession (act : Action (Session Link) α) : Stays (Poller.onSession act) := by
  intro p q
  cases ran : act p.session with
  | ok a session =>
    rw [onSession_of_ok ran]
    nofun
  | error e session =>
    rw [onSession_of_error ran]
    nofun

theorem record (serial : UInt32) (kind : String) (data : Json) :
    Stays (Poller.record serial kind data) := by
  intro p q gone
  have there : Poller.record serial kind data p = .ok (some ()) _ := rfl
  rw [there] at gone
  cases gone

end Stays

/-- Whether all numbers of an inverter fit where they belong. -/
def Fits (i : Inverter) : Prop :=
  canDiscover i ∧ (i.archiveDays = 0 ∨ (i.archiveDays.toNat + 1) * 86400 < 2 ^ 32)

section

variable {i : Inverter} (fits : Fits i)

theorem stays_recordInfos (serials : List UInt32) : Stays (recordInfos serials) := by
  induction serials with
  | nil => exact .pure _
  | cons serial rest ih => exact .bind (.onSession _) fun _ => .bind (.record _ _ _) fun _ => ih

include fits

theorem stays_setUp : Stays (setUp i) := by
  have called : Stays (discover i) := by
    rw [discover, if_pos fits.1]
    exact .bind (.onSession _) fun _ => .pure _
  refine called.bind fun _ => .bind (.onSession _) fun _ => .bind (.onSession _) fun _ => ?_
  exact .bind (.onSession _) fun _ => .get_bind fun p => stays_recordInfos _

theorem stays_visit (serial : UInt32) : Stays (visit i serial) := by
  refine .bind (.onSession _) fun _ => .bind (.onSession _) fun _ => ?_
  refine .bind (.onSession _) fun _ => .bind (.onSession _) fun _ => ?_
  refine .bind (.record _ _ _) fun _ => .bind (.record _ _ _) fun _ => ?_
  refine .bind (.record _ _ _) fun _ => .bind (.record _ _ _) fun _ => ?_
  split
  · next wanted =>
    have short := fits.2.resolve_left (UInt32.pos_iff_ne_zero.mp wanted)
    refine .get_bind fun p => ?_
    obtain ⟨start, begins, -⟩ :=
      @exists_archiveStart (Calendar.unixSeconds p.session.wallClock) _ short
    simp only [begins]
    exact .bind (.pure start) fun _ => .bind (.onSession _) fun _ => .record _ _ _
  · exact .pure _

theorem stays_visitAll (serials : List UInt32) : Stays (visitAll i serials) := by
  induction serials with
  | nil => exact .pure _
  | cons serial rest ih => exact (stays_visit fits serial).bind fun _ => ih

theorem stays_rounds (interval : Nat) (serial : UInt32) (others : List UInt32) (due : Nat)
    (p : Poller) : result? (rounds i interval serial others due p) ≠ none := by
  fun_induction rounds i interval serial others due p with
  | case1 | case2 => exact Option.some_ne_none _
  | case3 due p wanted q polled => exact absurd polled (stays_visitAll fits _ _ _)
  | case4 due p wanted q polled began ih => exact ih

theorem stays_poll (interval : Nat) (p : Poller) : result? (poll i interval p) ≠ none := by
  cases ran : setUp i p with
  | error e q =>
    rw [show poll i interval p = _ from bind_of_failed ran]
    nofun
  | ok outcome q =>
    cases outcome with
    | none => exact absurd ran (stays_setUp fits p q)
    | some _ =>
      cases marked : q.authenticated with
      | nil => exact absurd marked (authenticated_of_setUp ran)
      | cons serial others =>
        rw [poll_of_ready ran marked]
        exact stays_rounds fits interval serial others _ q

end

/-! ## Opening and closing -/

theorem connect_settled {transport : Transport} {timeout : Nat} {wallClock : Int} :
    match Session.connect transport timeout wallClock with
    | .ok session _ => session.link.Settled ∧
      ∃ hello, Link.isHello hello ∧
        session.link.transport.sent = transport.sent ++ [Link.Handshake.answer hello]
    | .error _ link => link.phase = .failed ∧
      (link.transport.sent = transport.sent ∨
        ∃ hello, Link.isHello hello ∧
          link.transport.sent = transport.sent ++ [Link.Handshake.answer hello]) := by
  have connected := @Link.sent_connect { transport } rfl
  unfold Session.connect
  cases ran : Link.connect { transport } with
  | ok _ link =>
    rw [ran] at connected
    exact ⟨.inl connected.1, connected.2⟩
  | error e link =>
    rw [ran] at connected
    exact connected

theorem link_of_connect {transport : Transport} {timeout : Nat} {wallClock : Int} :
    match Session.connect transport timeout wallClock with
    | .ok session _ => session.link = Link.use { transport } (.perform .connect)
    | .error _ link => link = Link.use { transport } (.perform .connect) := by
  rw [Link.use_connect]
  unfold Session.connect
  cases Link.connect { transport } <;> rfl

/-- A poller closes what it has opened, unless it is gone. If the link cannot be connected, nothing
has been asked of anybody, and there is no reader. Otherwise the session is closed at the end, or
the poller has met with a number that does not fit: then the session is left as it stands. The
poller succeeds only if it is asked to stop. -/
theorem run_closes (i : Inverter) (pollInterval : Nat) (transport : Transport) (wallClock : Int)
    (log : Option Datalog) (stopAt : Option Nat) (picks : List Bool) :
    let report := run i pollInterval transport wallClock log stopAt picks
    match Session.connect transport (1000 * i.readTimeout) wallClock with
    | .error e link =>
      report = ⟨some (.error e), link, log⟩ ∧ link.phase = .failed ∧
      (∃ trace t, Link.Tasks.Run (.new transport) trace t ∧
        t.reader = .ended ∧ t.caller = .idle ∧ t.link = link) ∧
      (link.transport.sent = transport.sent ∨
        ∃ hello, Link.isHello hello ∧
          link.transport.sent = transport.sent ++ [Link.Handshake.answer hello])
    | .ok session _ =>
      let ended := Outcome.state
        (poll i (1000 * pollInterval) { session, datalog := log, stopAt, picks })
      (report.result = some (.ok ()) → ended.isAskedToStop) ∧
      (∃ hello, Link.isHello hello ∧
        Session.Closes transport (transport.sent ++ [Link.Handshake.answer hello]) session
          ended.session) ∧
      (report.result ≠ none → report.link = ended.session.close) ∧
      (report.result = none → report.link = ended.session.link ∧ ¬Fits i) := by
  intro report
  have settled := @connect_settled transport (1000 * i.readTimeout) wallClock
  have used := @link_of_connect transport (1000 * i.readTimeout) wallClock
  cases connected : Session.connect transport (1000 * i.readTimeout) wallClock with
  | error e link =>
    rw [connected] at settled used
    obtain ⟨failed, sent⟩ := settled
    have fresh : (Link.Tasks.new transport).Rests { transport } := ⟨false, rfl, fun _ => rfl⟩
    obtain ⟨trace, t, run, rests⟩ := fresh.exists_run (.perform .connect)
    rw [← used] at rests
    have none : t.reader = .ended := rests.ended (by rw [failed]; rfl)
    obtain ⟨_, rfl, -⟩ := rests
    exact ⟨run_of_unconnected i connected, failed, ⟨trace, _, run, none, rfl, rfl⟩, sent⟩
  | ok session link =>
    rw [connected] at settled used
    obtain ⟨settled, hello, opened, sent⟩ := settled
    have held : report = _ := run_of_connected i connected
    obtain ⟨reached, asked⟩ :=
      reaches_poll i (1000 * pollInterval) { session, datalog := log, stopAt, picks }
    have stays (fits : Fits i) :=
      stays_poll fits (1000 * pollInterval) { session, datalog := log, stopAt, picks }
    have made : session.link = [Link.Use.perform .connect].foldl Link.use { transport } := used
    have closes := Session.closes_of_converses made settled reached
    rw [sent] at closes
    rw [held]
    refine ⟨asked, ⟨hello, opened, closes⟩, fun there => if_pos ?_, fun gone => ⟨?_, ?_⟩⟩
    · exact Option.isSome_iff_ne_none.mpr there
    · exact if_neg (mt Option.isSome_iff_ne_none.mp (not_not.mpr gone))
    · exact fun fits => stays fits gone

/-- A device that is logged on to and read, until the yields of too many days are wanted of it: the
link is left connected. -/
example :
    let peer : Address := ⟨[0x00, 0x80, 0x25, 0x00, 0x00, 0x01], rfl⟩
    let own : Address := ⟨[0x00, 0x80, 0x25, 0x00, 0x00, 0x09], rfl⟩
    let greeting : List Packet :=
      [.of .idExchange peer .zero [0, 4, 0x70, 0, 3],
        .of .address peer own (peer.wire ++ [1] ++ own.wire),
        .of .topology peer own (peer.wire ++ [2, 1])]
    let answer := fun (r : Reply) => [Reaction.answer 10 (.octets (Session.packed [r]))]
    let records := fun packetId (query : Query) => answer
      { header := ⟨9, 0x90, ⟨0x7D, 7⟩, 0, ⟨0x83, 1⟩, 0, 0, 0, packetId⟩
        body := Bytes.ofWord32 (query.object.toUInt32 <<< 16) ++ List.replicate 8 0 }
    let transport : Transport :=
      { arrivals := [⟨10, .octets (greeting.flatMap Packet.layout)⟩]
        reactions :=
          -- Nobody answers the greeting, the acknowledgement, the four questions for the time or
          -- the query for the signal.
          [[], answer (Session.logonAnswer 1 0 0x8000 []),
            answer (Session.logonAnswer 1 0 0x8001 (Session.onLine .user "0000")),
            [], [], [], [], [], [], records 0x8006 .deviceInfo, records 0x8007 .ac,
            records 0x8008 .dc, records 0x8009 .statistics, records 0x800A .status] }
    let i : Inverter := { address := "/d", archiveDays := 49710 }
    let report := run i 300 transport 1700259200 none none []
    report.result.isNone ∧ report.link.phase = .connected := by
  decide +kernel

end Poller

end SolarTelemetry
