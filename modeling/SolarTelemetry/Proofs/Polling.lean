import SolarTelemetry.Poller
import SolarTelemetry.Proofs.Link.Punctuality
import SolarTelemetry.Proofs.Loop
import SolarTelemetry.Proofs.Session.Authentication
import SolarTelemetry.Proofs.Session.Settings

/-!
# What a poller writes

A poller writes a line of information for each device it could log on to, and then, round by round,
the readings of each of them. The readings of a device are written once all of them are there. So
whatever fails, only the end of the log shows it; and the log has as many whole rounds as the loop.
-/

namespace SolarTelemetry

namespace Poller

/-- What a poller can write about a device. -/
inductive Entry where
  | info (serial : UInt32) (info : DeviceInfo)
  | ac (serial : UInt32) (readings : AcReadings)
  | dc (serial : UInt32) (readings : DcReadings)
  | statistics (serial : UInt32) (statistics : Statistics)
  | status (serial : UInt32) (status : Status)
  | dailyYields (serial : UInt32) (yields : List Archive.DailyYield)

namespace Entry

def serial : Entry → UInt32
  | info serial _ | ac serial _ | dc serial _ | statistics serial _ | status serial _
  | dailyYields serial _ => serial

def kind : Entry → String
  | info .. => "info"
  | ac .. => "ac"
  | dc .. => "dc"
  | statistics .. => "statistics"
  | status .. => "status"
  | dailyYields .. => "daily_yields"

def data : Entry → Json
  | info _ found => found.toJson
  | ac _ found => found.toJson
  | dc _ found => found.toJson
  | statistics _ found => found.toJson
  | status _ found => found.toJson
  | dailyYields _ yields => .list (yields.map (·.toJson))

end Entry

/-- The log with a line added for each entry. -/
def writeAll (wallClock : Int) (entries : List Entry) (log : Datalog) : Datalog :=
  entries.foldl (fun log entry => log.write wallClock entry.serial entry.kind entry.data) log

def infoEntries (infos : List (UInt32 × DeviceInfo)) : List Entry :=
  infos.map fun found => .info found.1 found.2

/-- The readings of one device. -/
def readingEntries (serial : UInt32) (ac : AcReadings) (dc : DcReadings) (statistics : Statistics)
    (status : Status) : List Entry :=
  [.ac serial ac, .dc serial dc, .statistics serial statistics, .status serial status]

/-- All that is written about a device in one round. -/
inductive Visit (i : Inverter) (serial : UInt32) : List Entry → Prop where
  | readings {ac dc statistics status} : i.archiveDays = 0 →
      Visit i serial (readingEntries serial ac dc statistics status)
  | andYields {ac dc statistics status yields} : 0 < i.archiveDays →
      Visit i serial
        (readingEntries serial ac dc statistics status ++ [.dailyYields serial yields])

/-- What is written about a device before the poller breaks off, for an error or because it is gone.
The readings are there only if all of them have been read. -/
inductive Abandoned (i : Inverter) (serial : UInt32) : Option Error → List Entry → Prop where
  | unread {e} : Abandoned i serial (some e) []
  | withoutYields {cause ac dc statistics status} : 0 < i.archiveDays →
      Abandoned i serial cause (readingEntries serial ac dc statistics status)

/-- A round that comes to its end. -/
inductive Cycle (i : Inverter) : List UInt32 → List Entry → Prop where
  | nil : Cycle i [] []
  | cons {serial rest written entries} : Visit i serial written → Cycle i rest entries →
      Cycle i (serial :: rest) (written ++ entries)

/-- A round that breaks off at some device. -/
inductive Broken (i : Inverter) : List UInt32 → Option Error → List Entry → Prop where
  | here {serial rest cause written} : Abandoned i serial cause written →
      Broken i (serial :: rest) cause written
  | later {serial rest cause written entries} : Visit i serial written →
      Broken i rest cause entries → Broken i (serial :: rest) cause (written ++ entries)

/-- So many whole rounds. After them the poller has been asked to stop, or it has broken off in the
next. -/
inductive Rounds (i : Inverter) (serials : List UInt32) :
    Nat → List Entry → Outcome Poller (Option Unit) → Prop where
  | stopped {p} : p.isAskedToStop → Rounds i serials 0 [] (.ok (some ()) p)
  | gone {entries p} : Broken i serials none entries → Rounds i serials 0 entries (.ok none p)
  | failed {entries e p} : Broken i serials (some e) entries →
      Rounds i serials 0 entries (.error e p)
  | again {n written entries outcome} : Cycle i serials written →
      Rounds i serials n entries outcome → Rounds i serials (n + 1) (written ++ entries) outcome

/-- The log of a poller that is logged on to some devices: first who they are, then so many whole
rounds and what comes after. If there are no rounds because the set-up has not been finished, it
ends with one of the first. -/
inductive Logged (i : Inverter) (serials : List UInt32) :
    Option Nat → List Entry → Outcome Poller (Option Unit) → Prop where
  | unready {infos outcome} : infos.map Prod.fst <+: serials →
      result? outcome ≠ some (.ok ()) → Logged i serials none (infoEntries infos) outcome
  | polled {infos n entries outcome} : infos.map Prod.fst = serials →
      Rounds i serials n entries outcome →
      Logged i serials (some n) (infoEntries infos ++ entries) outcome

section

variable {i : Inverter} {serial : UInt32} {serials : List UInt32} {entries : List Entry}
  {cause : Option Error} {n : Nat} {outcome : Outcome Poller (Option Unit)}

theorem serial_of_readingEntries {ac dc statistics status} {entry : Entry}
    (member : entry ∈ readingEntries serial ac dc statistics status) : entry.serial = serial := by
  simp only [readingEntries, List.mem_cons, List.not_mem_nil, or_false] at member
  rcases member with rfl | rfl | rfl | rfl <;> rfl

theorem Visit.serial_eq (visit : Visit i serial entries) :
    ∀ entry ∈ entries, entry.serial = serial := by
  intro entry member
  cases visit with
  | readings => exact serial_of_readingEntries member
  | andYields =>
    rcases List.mem_append.mp member with reading | yields
    · exact serial_of_readingEntries reading
    · rw [List.mem_singleton.mp yields]
      rfl

theorem Abandoned.serial_eq (abandoned : Abandoned i serial cause entries) :
    ∀ entry ∈ entries, entry.serial = serial := by
  intro entry member
  cases abandoned with
  | unread => cases member
  | withoutYields => exact serial_of_readingEntries member

theorem Cycle.serial_mem (cycle : Cycle i serials entries) :
    ∀ entry ∈ entries, entry.serial ∈ serials := by
  induction cycle with
  | nil => simp
  | cons visit _ ih =>
    refine List.forall_mem_append.mpr ⟨?_, ?_⟩
    · intro entry member
      exact visit.serial_eq entry member ▸ List.mem_cons_self
    · intro entry member
      exact List.mem_cons_of_mem _ (ih entry member)

theorem Broken.serial_mem (broken : Broken i serials cause entries) :
    ∀ entry ∈ entries, entry.serial ∈ serials := by
  induction broken with
  | here abandoned =>
    intro entry member
    exact abandoned.serial_eq entry member ▸ List.mem_cons_self
  | later visit _ ih =>
    refine List.forall_mem_append.mpr ⟨?_, ?_⟩
    · intro entry member
      exact visit.serial_eq entry member ▸ List.mem_cons_self
    · intro entry member
      exact List.mem_cons_of_mem _ (ih entry member)

theorem Rounds.serial_mem (rounds : Rounds i serials n entries outcome) :
    ∀ entry ∈ entries, entry.serial ∈ serials := by
  induction rounds with
  | stopped => simp
  | gone broken | failed broken => exact broken.serial_mem
  | again cycle _ ih => exact List.forall_mem_append.mpr ⟨cycle.serial_mem, ih⟩

theorem serial_mem_of_infoEntries {infos : List (UInt32 × DeviceInfo)}
    (listed : infos.map Prod.fst ⊆ serials) :
    ∀ entry ∈ infoEntries infos, entry.serial ∈ serials := by
  refine List.forall_mem_map.mpr fun found member => ?_
  exact listed (List.mem_map_of_mem member)

theorem Logged.serial_mem {cycles : Option Nat} (logged : Logged i serials cycles entries outcome) :
    ∀ entry ∈ entries, entry.serial ∈ serials := by
  cases logged with
  | unready some => exact serial_mem_of_infoEntries some.subset
  | polled all rounds =>
    exact List.forall_mem_append.mpr
      ⟨serial_mem_of_infoEntries (all ▸ List.Subset.refl _), rounds.serial_mem⟩

end

/-- From one state to another nothing has changed but the session, whose clock shows the same, and
the log, to which entries have been added. -/
structure Logs (p : Poller) (entries : List Entry) (q : Poller) : Prop where
  datalog : q.datalog = p.datalog.map (writeAll p.session.wallClock entries)
  wallClock : q.session.wallClock = p.session.wallClock

namespace Logs

variable {p q r : Poller} {entries more : List Entry}

theorem refl (p : Poller) : Logs p [] p := by
  refine ⟨?_, rfl⟩
  cases p.datalog <;> rfl

theorem trans (first : Logs p entries q) (second : Logs q more r) : Logs p (entries ++ more) r := by
  refine ⟨?_, second.wallClock.trans first.wallClock⟩
  rw [second.datalog, first.datalog, first.wallClock, Option.map_map]
  congr 1
  funext log
  exact List.foldl_append.symm

end Logs

section

variable {α β : Type} {act : Polling α} {next : α → Polling β} {p q : Poller} {a : α} {e : Error}

theorem bind_of_some (ran : act p = .ok (some a) q) : (act >>= next : Polling β) p = next a q :=
  Action.bind_of_ok ran

theorem bind_of_gone (ran : act p = .ok none q) : (act >>= next : Polling β) p = .ok none q :=
  Action.bind_of_ok ran

theorem bind_of_failed (ran : act p = .error e q) : (act >>= next : Polling β) p = .error e q :=
  Action.bind_of_error ran

theorem bind_eq_some_iff {b : β} :
    (act >>= next : Polling β) p = .ok (some b) q ↔
      ∃ a p', act p = .ok (some a) p' ∧ next a p' = .ok (some b) q := by
  constructor
  · intro ran
    obtain ⟨outcome, p', first, second⟩ := Action.bind_eq_ok_iff.mp ran
    cases outcome with
    | none => cases second
    | some a => exact ⟨a, p', first, second⟩
  · rintro ⟨a, p', first, second⟩
    rw [bind_of_some first, second]

theorem get_bind (next : Poller → Polling β) (p : Poller) :
    (MonadState.get >>= next : Polling β) p = next p p :=
  bind_of_some rfl

theorem eq_ok_of_result? {outcome : Outcome Poller (Option α)}
    (passed : result? outcome = some (.ok a)) : ∃ q, outcome = .ok (some a) q := by
  unfold result? at passed
  split at passed <;> cases passed
  exact ⟨_, rfl⟩

theorem leads_bind {R : Poller → Poller → Prop} [Std.Refl R] [Trans R R R]
    (first : Action.Leads R act) (second : ∀ a, Action.Leads R (next a)) :
    Action.Leads R (act >>= next : Polling β) :=
  Action.Leads.bind first fun
    | some a => second a
    | none => Action.leads_pure none

theorem onSession_of_ok {read : Action (Session Link) α} {session : Session Link}
    (ran : read p.session = .ok a session) :
    onSession read p = .ok (some a) { p with session } := by
  have zoomed : read.zoom Poller.session (fun p session => { p with session }) p =
      .ok a { p with session } := by
    rw [Action.zoom, ran]
  exact Action.bind_of_ok zoomed

theorem onSession_of_error {read : Action (Session Link) α} {session : Session Link}
    (ran : read p.session = .error e session) :
    onSession read p = .error e { p with session } := by
  have zoomed : read.zoom Poller.session (fun p session => { p with session }) p =
      .error e { p with session } := by
    rw [Action.zoom, ran]
  exact Action.bind_of_error zoomed

theorem state_onSession (read : Action (Session Link) α) (p : Poller) :
    Outcome.state (onSession read p) =
      { p with session := Outcome.state (read p.session) } := by
  cases ran : read p.session with
  | ok a session =>
    rw [onSession_of_ok ran]
    rfl
  | error e session =>
    rw [onSession_of_error ran]
    rfl

end

/-- Nothing is added to the log. -/
def Quiet (p q : Poller) : Prop := Logs p [] q

instance : Std.Refl Quiet := ⟨Logs.refl⟩

instance : Trans Quiet Quiet Quiet := ⟨Logs.trans⟩

/-- What the poller adds to the log if it gets through, and what it adds if it breaks off. It
changes no mark of a device. -/
def Writes {α : Type} (act : Polling α) (passed : α → List Entry → Prop)
    (broken : Option Error → List Entry → Prop) : Prop :=
  ∀ p, ∃ entries, Logs p entries (Outcome.state (act p)) ∧
    (Outcome.state (act p)).authenticated = p.authenticated ∧
    match act p with
    | .ok (some a) _ => passed a entries
    | .ok none _ => broken none entries
    | .error e _ => broken (some e) entries

namespace Writes

variable {α β : Type} {act : Polling α} {next : α → Polling β} {middle : α → List Entry → Prop}
  {passed : β → List Entry → Prop} {broken : Option Error → List Entry → Prop}

theorem bind (first : Writes act middle broken)
    (second : ∀ a before, middle a before →
      Writes (next a) (fun b after => passed b (before ++ after))
        fun cause after => broken cause (before ++ after)) :
    Writes (act >>= next) passed broken := by
  intro p
  obtain ⟨before, logs, marks, met⟩ := first p
  cases ran : act p with
  | error e q =>
    rw [ran] at logs marks met
    rw [bind_of_failed ran]
    exact ⟨before, logs, marks, met⟩
  | ok outcome q =>
    rw [ran] at logs marks met
    cases outcome with
    | none =>
      rw [bind_of_gone ran]
      exact ⟨before, logs, marks, met⟩
    | some a =>
      rw [bind_of_some ran]
      obtain ⟨after, logs', marks', met'⟩ := second a before met q
      exact ⟨before ++ after, logs.trans logs', marks'.trans marks, met'⟩

theorem imp {passed passed' : α → List Entry → Prop} {broken' : Option Error → List Entry → Prop}
    (h : Writes act passed broken) (ok : ∀ a entries, passed a entries → passed' a entries)
    (bad : ∀ cause entries, broken cause entries → broken' cause entries) :
    Writes act passed' broken' := by
  intro p
  obtain ⟨entries, logs, marks, met⟩ := h p
  refine ⟨entries, logs, marks, ?_⟩
  cases ran : act p with
  | error e q =>
    rw [ran] at met
    exact bad _ entries met
  | ok outcome q =>
    rw [ran] at met
    cases outcome with
    | none => exact bad _ entries met
    | some a => exact ok a entries met

theorem pure {passed : α → List Entry → Prop} {a : α} (ok : passed a []) :
    Writes (Pure.pure a) passed broken :=
  fun p => ⟨[], .refl p, rfl, ok⟩

theorem get_bind {next : Poller → Polling β} (rest : ∀ p, Writes (next p) passed broken) :
    Writes (MonadState.get >>= next) passed broken := by
  intro p
  rw [Poller.get_bind]
  exact rest p p

/-- A number that may not fit. -/
theorem option_bind {wanted : Option α} (bad : broken none [])
    (rest : ∀ a, Writes (next a) passed broken) :
    Writes (OptionT.mk (Pure.pure wanted) >>= next) passed broken := by
  cases wanted with
  | none => exact fun p => ⟨[], .refl p, rfl, bad⟩
  | some a => exact rest a

/-- Reading from the session writes nothing. -/
theorem onSession_bind {read : Action (Session Link) α} (h : Action.Leaves Session.settings read)
    (bad : ∀ e, broken (some e) []) (rest : ∀ a, Writes (next a) passed broken) :
    Writes (onSession read >>= next) passed broken := by
  have quiet : Writes (onSession read) (fun _ entries => entries = []) broken := by
    intro p
    have kept := h p.session
    have marks {t : Session Link} (same : Session.settings t = Session.settings p.session) :
        (t.devices.filter Device.authenticated).map Device.serial = p.authenticated :=
      congrArg (fun kept => (kept.2.filter Device.authenticated).map Device.serial) same
    cases ran : read p.session with
    | ok a session =>
      rw [ran] at kept
      rw [onSession_of_ok ran]
      exact ⟨[], ⟨(Logs.refl p).datalog, congrArg Prod.fst kept⟩, marks kept, rfl⟩
    | error e session =>
      rw [ran] at kept
      rw [onSession_of_error ran]
      exact ⟨[], ⟨(Logs.refl p).datalog, congrArg Prod.fst kept⟩, marks kept, bad e⟩
  refine quiet.bind ?_
  rintro a _ rfl
  exact rest a

theorem record {passed : Unit → List Entry → Prop} (entry : Entry) (ok : passed () [entry]) :
    Writes (Poller.record entry.serial entry.kind entry.data) passed broken :=
  fun _ => ⟨[entry], ⟨rfl, rfl⟩, rfl, ok⟩

theorem record_bind {next : Unit → Polling β} (entry : Entry)
    (rest : Writes (next ()) (fun b entries => passed b (entry :: entries))
      fun cause entries => broken cause (entry :: entries)) :
    Writes (Poller.record entry.serial entry.kind entry.data >>= next) passed broken := by
  have line : Writes (Poller.record entry.serial entry.kind entry.data)
      (fun _ entries => entries = [entry]) broken := record entry rfl
  refine line.bind ?_
  rintro _ _ rfl
  exact rest

end Writes

variable (i : Inverter)

theorem writes_recordDailyYields (serial : UInt32) :
    Writes (recordDailyYields i serial)
      (fun _ entries => ∃ yields, entries = [.dailyYields serial yields])
      fun _ entries => entries = [] := by
  refine .get_bind fun p => .option_bind rfl fun start => ?_
  refine .onSession_bind (Session.leaves_readMonthSamples _ _ _) (fun _ => rfl) fun samples => ?_
  exact .record (.dailyYields serial (Archive.dailyYields samples)) ⟨_, rfl⟩

theorem writes_visit (serial : UInt32) :
    Writes (visit i serial) (fun _ => Visit i serial) (Abandoned i serial) := by
  apply Writes.onSession_bind
    (Session.leaves_readings .ac AcReadings.ofRecords serial) fun _ => .unread
  intro ac
  apply Writes.onSession_bind
    (Session.leaves_readings .dc DcReadings.ofRecords serial) fun _ => .unread
  intro dc
  apply Writes.onSession_bind
    (Session.leaves_readings .statistics Statistics.ofRecords serial) fun _ => .unread
  intro statistics
  apply Writes.onSession_bind
    (Session.leaves_readings .status Status.ofRecords serial) fun _ => .unread
  intro status
  -- Nothing has been written so far, and the four lines that follow cannot fail.
  apply Writes.record_bind (.ac serial ac)
  apply Writes.record_bind (.dc serial dc)
  apply Writes.record_bind (.statistics serial statistics)
  apply Writes.record_bind (.status serial status)
  split
  · next wanted =>
    apply (writes_recordDailyYields i serial).imp
    · rintro _ _ ⟨yields, rfl⟩
      exact .andYields wanted
    · rintro _ _ rfl
      exact .withoutYields wanted
  · next unwanted =>
    have none : i.archiveDays = 0 := by
      have zero := mt UInt32.pos_iff_ne_zero.mpr unwanted
      exact not_not.mp zero
    exact .pure (.readings none)

theorem writes_visitAll (serials : List UInt32) :
    Writes (visitAll i serials) (fun _ => Cycle i serials) (Broken i serials) := by
  induction serials with
  | nil => exact .pure .nil
  | cons serial rest ih =>
    refine .bind ((writes_visit i serial).imp (fun _ _ visited => visited) fun _ _ => .here) ?_
    intro _ written visited
    exact ih.imp (fun _ _ cycle => .cons visited cycle) fun _ _ broken => .later visited broken

theorem writes_recordInfos (serials : List UInt32) :
    Writes (recordInfos serials)
      (fun _ entries => ∃ infos, infos.map Prod.fst = serials ∧ entries = infoEntries infos)
      fun _ entries => ∃ infos, infos.map Prod.fst <+: serials ∧ entries = infoEntries infos := by
  induction serials with
  | nil => exact .pure ⟨[], rfl, rfl⟩
  | cons serial rest ih =>
    apply Writes.onSession_bind (Session.leaves_readings .deviceInfo DeviceInfo.ofRecords serial)
    · exact fun _ => ⟨[], List.nil_prefix, rfl⟩
    intro info
    apply Writes.record_bind (.info serial info)
    refine ih.imp ?_ ?_
    · rintro _ _ ⟨infos, all, rfl⟩
      exact ⟨(serial, info) :: infos, congrArg (serial :: ·) all, rfl⟩
    · rintro _ _ ⟨infos, some, rfl⟩
      exact ⟨(serial, info) :: infos, (List.prefix_cons_inj serial).mpr some, rfl⟩

theorem logs_sleepUntil (moment : Nat) (p : Poller) :
    Logs p [] (p.sleepUntil moment) ∧ (p.sleepUntil moment).authenticated = p.authenticated := by
  unfold sleepUntil
  simp only
  split
  · exact ⟨.refl p, rfl⟩
  · exact ⟨⟨(Logs.refl p).datalog, rfl⟩, rfl⟩

theorem now_sleepUntil (moment : Nat) (p : Poller) :
    Clock.now (p.sleepUntil moment).session = max (Clock.now p.session) moment := by
  unfold sleepUntil
  simp only
  split
  · next past => exact (Nat.max_eq_left past).symm
  · next ahead =>
    have soon := Nat.le_of_lt (Nat.lt_of_not_le ahead)
    have slept : Clock.now (Clock.sleep (moment - Clock.now p.session) p.session) =
        Clock.now p.session + (moment - Clock.now p.session) :=
      (Link.now_await (fun _ => false) (Nat.le_add_right p.session.link.now _)).2.2 rfl
    rw [slept, Nat.add_sub_cancel' soon, Nat.max_eq_right soon]

theorem askedAt?_of_stopsAt? {due moment : Nat} {p : Poller}
    (stops : p.stopsAt? due = some moment) : p.askedAt? = some moment :=
  (Option.filter_eq_some_iff.mp stops).1

/-- A poller that waits for a request to stop has got it then. -/
theorem isAskedToStop_sleepUntil {moment : Nat} {p : Poller} (asked : p.askedAt? = some moment) :
    (p.sleepUntil moment).isAskedToStop := by
  have now := now_sleepUntil moment p
  unfold isAskedToStop
  rw [beq_iff_eq]
  by_cases past : moment ≤ Clock.now p.session
  · have same : p.sleepUntil moment = p := if_pos past
    have begun : Clock.now p.session ≤ moment := by
      unfold askedAt? at asked
      simp only at asked
      split at asked
      · exact Nat.le_of_eq (Option.some.inj asked)
      · obtain ⟨stop, -, rfl⟩ := Option.map_eq_some_iff.mp asked
        exact Nat.le_max_left _ _
    rw [same, asked, Nat.le_antisymm begun past]
  · have ahead := Nat.lt_of_not_le past
    have slept : p.sleepUntil moment =
        { p with session := Clock.sleep (moment - Clock.now p.session) p.session } := if_neg past
    rw [Nat.max_eq_right (Nat.le_of_lt ahead)] at now
    unfold askedAt? at asked ⊢
    simp only at asked ⊢
    split at asked
    · exact absurd (Option.some.inj asked) (Nat.ne_of_lt ahead)
    · obtain ⟨stop, wanted, rfl⟩ := Option.map_eq_some_iff.mp asked
      have still : (p.sleepUntil (max (Clock.now p.session) stop)).stopAt = some stop := by
        rw [slept]
        exact wanted
      rw [still, now]
      split
      · rfl
      · rw [Option.map_some, Nat.max_assoc, Nat.max_self]

/-- One turn of the loop: the poller stops or breaks off, or it goes on with the tick after. -/
def round (i : Inverter) (interval : Nat) (serials : List UInt32) (s : Nat × Poller) :
    Outcome Poller (Option Unit) ⊕ (Nat × Poller) :=
  match s.2.stopsAt? s.1 with
  | some moment => .inl (.ok (some ()) (s.2.sleepUntil moment))
  | none =>
    let woken := s.2.sleepUntil s.1
    match visitAll i serials woken with
    | .ok (some ()) q =>
      .inr (tickAfter s.1 (Clock.now woken.session) interval, { q with picks := q.picks.tail })
    | .ok none q => .inl (.ok none q)
    | .error e q => .inl (.error e q)

section

variable {i} {interval due : Nat} {serials : List UInt32} {p q : Poller}

theorem round_of_stopped {moment : Nat} (stops : p.stopsAt? due = some moment) :
    round i interval serials (due, p) = .inl (.ok (some ()) (p.sleepUntil moment)) := by
  rw [round, stops]

/-- A poller that is not asked to stop before it takes up its tick, and gets through its visits,
goes on to another round. -/
theorem round_of_visited (wanted : p.stopsAt? due = none)
    (visited : visitAll i serials (p.sleepUntil due) = .ok (some ()) q) :
    round i interval serials (due, p) =
      .inr (tickAfter due (Clock.now (p.sleepUntil due).session) interval,
        { q with picks := q.picks.tail }) := by
  simp only [round, wanted, visited]

theorem round_of_gone (wanted : p.stopsAt? due = none)
    (visited : visitAll i serials (p.sleepUntil due) = .ok none q) :
    round i interval serials (due, p) = .inl (.ok none q) := by
  simp only [round, wanted, visited]

theorem round_of_failed {e : Error} (wanted : p.stopsAt? due = none)
    (visited : visitAll i serials (p.sleepUntil due) = .error e q) :
    round i interval serials (due, p) = .inl (.error e q) := by
  simp only [round, wanted, visited]

end

/-- The loop ends after so many whole rounds, and so many are in the log. -/
theorem exists_of_rounds (interval : Nat) (serial : UInt32) (others : List UInt32) (due : Nat)
    (p : Poller) :
    let outcome := rounds i interval serial others due p
    ∃ n entries, Ends (round i interval (serial :: others)) (due, p) n outcome ∧
      Logs p entries (Outcome.state outcome) ∧
      (Outcome.state outcome).authenticated = p.authenticated ∧
      Rounds i (serial :: others) n entries outcome := by
  -- Along the rounds. The devices logged on to stay the same, and so each goes through all of them.
  fun_induction rounds i interval serial others due p with
  | case1 due p moment stops =>
    obtain ⟨slept, marks⟩ := logs_sleepUntil moment p
    have asked := isAskedToStop_sleepUntil (askedAt?_of_stopsAt? stops)
    exact ⟨0, [], .last (round_of_stopped stops), slept, marks, .stopped asked⟩
  | case2 due p wanted e q polled =>
    obtain ⟨slept, marks⟩ := logs_sleepUntil due p
    obtain ⟨entries, logs, marks', broken⟩ :=
      writes_visitAll i (serial :: others) (p.sleepUntil due)
    rw [polled] at logs marks' broken
    exact ⟨0, entries, .last (round_of_failed wanted polled), slept.trans logs, marks'.trans marks,
      .failed broken⟩
  | case3 due p wanted q polled =>
    obtain ⟨slept, marks⟩ := logs_sleepUntil due p
    obtain ⟨entries, logs, marks', broken⟩ :=
      writes_visitAll i (serial :: others) (p.sleepUntil due)
    rw [polled] at logs marks' broken
    exact ⟨0, entries, .last (round_of_gone wanted polled), slept.trans logs, marks'.trans marks,
      .gone broken⟩
  | case4 due p wanted q polled began ih =>
    obtain ⟨slept, marks⟩ := logs_sleepUntil due p
    obtain ⟨written, logs, marks', cycle⟩ :=
      writes_visitAll i (serial :: others) (p.sleepUntil due)
    rw [polled] at logs marks' cycle
    obtain ⟨n, entries, ends, logs', marks'', rounds⟩ := ih
    have picked : Logs q [] { q with picks := q.picks.tail } := ⟨(Logs.refl q).datalog, rfl⟩
    exact ⟨n + 1, written ++ entries, .again (round_of_visited wanted polled) ends,
      slept.trans (logs.trans (picked.trans logs')), marks''.trans (marks'.trans marks),
      .again cycle rounds⟩

theorem quiet_onSession {α : Type} {act : Action (Session Link) α}
    (h : Action.Leaves Session.wallClock act) : Action.Leads Quiet (onSession act) := by
  intro p
  rw [state_onSession]
  exact ⟨(Logs.refl p).datalog, h p.session⟩

/-- The devices are called without a word in the log, whether or not they can be waited for. -/
theorem quiet_discover : Action.Leads Quiet (discover i) := by
  unfold discover
  split
  · refine leads_bind (quiet_onSession (Session.leaves_wallClock_discover _)) fun _ => ?_
    exact Action.leads_pure _
  · refine leads_bind (quiet_onSession fun s => ?_) fun _ => Action.leads_pure none
    rw [Action.state_mapError]
    have asked := Session.leaves_withRetries (σ := Link)
      (Session.leaves_exchange fun packetId => Session.leaves_send
        (.query .any Session.discoveryObject 0 0) .broadcast packetId) fun _ _ => rfl
    exact congrArg Prod.fst (asked s)

/-- Who the devices are that are logged on to, or the first of them if the poller breaks off. -/
def Introduced (outcome : Outcome Poller (Option Unit)) (entries : List Entry) : Prop :=
  ∃ infos, entries = infoEntries infos ∧
    infos.map Prod.fst <+: (Outcome.state outcome).authenticated ∧
    (result? outcome = some (.ok ()) →
      infos.map Prod.fst = (Outcome.state outcome).authenticated)

/-- After something that writes nothing, those are introduced that the next introduces. -/
theorem exists_introduced_of_bind {α : Type} {act : Polling α} {next : α → Polling Unit}
    (quiet : Action.Leads Quiet act)
    (second : ∀ a q, ∃ entries, Logs q entries (Outcome.state (next a q)) ∧
      Introduced (next a q) entries) (p : Poller) :
    ∃ entries, Logs p entries (Outcome.state ((act >>= next : Polling Unit) p)) ∧
      Introduced ((act >>= next : Polling Unit) p) entries := by
  have before := quiet p
  cases ran : act p with
  | error e q =>
    rw [ran] at before
    rw [bind_of_failed ran]
    exact ⟨[], before, [], rfl, List.nil_prefix, nofun⟩
  | ok outcome q =>
    rw [ran] at before
    cases outcome with
    | none =>
      rw [bind_of_gone ran]
      exact ⟨[], before, [], rfl, List.nil_prefix, nofun⟩
    | some a =>
      rw [bind_of_some ran]
      obtain ⟨entries, logs, introduced⟩ := second a q
      exact ⟨entries, before.trans logs, introduced⟩

theorem exists_of_recordInfos (p : Poller) :
    ∃ entries, Logs p entries (Outcome.state (recordInfos p.authenticated p)) ∧
      Introduced (recordInfos p.authenticated p) entries := by
  obtain ⟨entries, logs, marks, written⟩ := writes_recordInfos p.authenticated p
  refine ⟨entries, logs, ?_⟩
  generalize p.authenticated = serials at marks written ⊢
  cases ran : recordInfos serials p with
  | error e q =>
    rw [ran] at marks written
    obtain ⟨infos, some, rfl⟩ := written
    exact ⟨infos, rfl, marks.symm ▸ some, nofun⟩
  | ok outcome q =>
    rw [ran] at marks written
    cases outcome with
    | none =>
      obtain ⟨infos, some, rfl⟩ := written
      exact ⟨infos, rfl, marks.symm ▸ some, nofun⟩
    | some _ =>
      obtain ⟨infos, all, rfl⟩ := written
      have listed := all.trans marks.symm
      exact ⟨infos, rfl, listed ▸ List.prefix_rfl, fun _ => listed⟩

theorem exists_of_setUp (p : Poller) :
    ∃ entries, Logs p entries (Outcome.state (setUp i p)) ∧ Introduced (setUp i p) entries := by
  unfold setUp
  refine exists_introduced_of_bind (quiet_discover i) (fun _ q => ?_) p
  refine exists_introduced_of_bind (quiet_onSession (Session.leaves_wallClock_logOn _ _))
    (fun _ q => ?_) q
  refine exists_introduced_of_bind (quiet_onSession fun s => ?_) (fun _ q => ?_) q
  · exact congrArg Prod.fst (Session.leaves_syncClock s)
  refine exists_introduced_of_bind (quiet_onSession fun s => ?_) (fun _ q => ?_) q
  · exact congrArg Prod.fst (Session.leaves_signalStrength s)
  rw [get_bind]
  exact exists_of_recordInfos q

section

variable {i} {interval : Nat} {p q : Poller}

theorem authenticated_of_attempt {α : Type} {act : Action (Session Link) α} {tried : Except Error α}
    (leaves : Action.Leaves Session.settings act)
    (ran : onSession act.attempt p = .ok (some tried) q) : q.authenticated = p.authenticated := by
  have kept := state_onSession act.attempt p
  rw [ran] at kept
  change q = { p with session := Outcome.state (act p.session) } at kept
  rw [kept]
  exact congrArg (fun s => (s.2.filter Device.authenticated).map Device.serial) (leaves p.session)

/-- Once a session is set up, there is something to poll. -/
theorem authenticated_of_setUp (ready : setUp i p = .ok (some ()) q) : q.authenticated ≠ [] := by
  obtain ⟨_, called, -, logsOn⟩ := bind_eq_some_iff.mp ready
  obtain ⟨_, loggedOn, logon, syncs⟩ := bind_eq_some_iff.mp logsOn
  obtain ⟨_, synced, sync, measures⟩ := bind_eq_some_iff.mp syncs
  obtain ⟨_, measured, measure, introduces⟩ := bind_eq_some_iff.mp measures
  have marked : loggedOn.authenticated ≠ [] := by
    cases granted : Session.logOn i.password i.userGroup called.session with
    | error e session =>
      rw [onSession_of_error granted] at logon
      cases logon
    | ok _ session =>
      rw [onSession_of_ok granted] at logon
      cases logon
      obtain ⟨d, listed, accepted⟩ := Session.exists_authenticated_of_logOn granted
      have member : d ∈ session.devices.filter (·.authenticated) :=
        List.mem_filter.mpr ⟨listed, accepted⟩
      exact List.ne_nil_of_mem (List.mem_map_of_mem member)
  -- What follows the logon reads from the session only.
  have first := authenticated_of_attempt Session.leaves_syncClock sync
  have second := authenticated_of_attempt Session.leaves_signalStrength measure
  obtain ⟨_, -, third, -⟩ := writes_recordInfos measured.authenticated measured
  rw [get_bind] at introduces
  rw [introduces] at third
  exact (third.trans (second.trans first)).trans_ne marked

theorem poll_of_unready (unready : result? (setUp i p) ≠ some (.ok ())) :
    poll i interval p = setUp i p := by
  cases ran : setUp i p with
  | error e q => exact bind_of_failed ran
  | ok outcome q =>
    cases outcome with
    | none => exact bind_of_gone ran
    | some _ =>
      rw [ran] at unready
      exact absurd rfl unready

/-- What is polled are the devices that the set-up has logged on to. -/
theorem poll_of_ready (ready : setUp i p = .ok (some ()) q) {serial : UInt32}
    {others : List UInt32} (marked : q.authenticated = serial :: others) :
    poll i interval p = rounds i interval serial others (Clock.now q.session) q := by
  refine ((bind_of_some ready).trans (get_bind _ q)).trans ?_
  rw [marked]

end

/-- The whole rounds of a poller, if it gets so far as to poll, and what comes of it. -/
inductive Lasts (interval : Nat) (p : Poller) :
    Option Nat → Outcome Poller (Option Unit) → Prop where
  | unready : result? (setUp i p) ≠ some (.ok ()) → Lasts interval p none (setUp i p)
  | polls {q n outcome} : setUp i p = .ok (some ()) q →
      Ends (round i interval q.authenticated) (Clock.now q.session, q) n outcome →
      Lasts interval p (some n) outcome

theorem exists_of_poll (interval : Nat) (p : Poller) :
    let done := poll i interval p
    ∃ cycles entries, Lasts i interval p cycles done ∧ Logs p entries (Outcome.state done) ∧
      Logged i (Outcome.state done).authenticated cycles entries done := by
  obtain ⟨entries, logs, infos, rfl, some, all⟩ := exists_of_setUp i p
  by_cases ready : result? (setUp i p) = .some (.ok ())
  · obtain ⟨q, ran⟩ := eq_ok_of_result? ready
    rw [ran] at logs
    have listed : infos.map Prod.fst = q.authenticated := by
      have := all ready
      rwa [ran] at this
    cases marked : q.authenticated with
    | nil => exact absurd marked (authenticated_of_setUp ran)
    | cons serial others =>
      obtain ⟨n, entries, ends, logs', marks, rounds⟩ :=
        exists_of_rounds i interval serial others (Clock.now q.session) q
      rw [poll_of_ready ran marked]
      refine ⟨.some n, _, .polls ran (marked ▸ ends), logs.trans logs', ?_⟩
      rw [marks, marked]
      exact .polled (listed.trans marked) rounds
  · rw [poll_of_unready ready]
    exact ⟨none, _, .unready ready, logs, .unready some ready⟩

theorem wallClock_of_connect {transport : Transport} {timeout : Nat} {wallClock : Int}
    {session : Session Link} {link : Link}
    (connected : Session.connect transport timeout wallClock = .ok session link) :
    session.wallClock = wallClock := by
  unfold Session.connect at connected
  split at connected
  · cases connected
    rfl
  · cases connected

section

variable {pollInterval : Nat} {transport : Transport} {wallClock : Int} {log : Option Datalog}
  {stopAt : Option Nat} {picks : List Bool} {link : Link}

theorem run_of_unconnected {e : Error}
    (failed : Session.connect transport (1000 * i.readTimeout) wallClock = .error e link) :
    run i pollInterval transport wallClock log stopAt picks = ⟨some (.error e), link, log⟩ := by
  unfold run
  rw [failed]

theorem run_of_connected {session : Session Link}
    (connected : Session.connect transport (1000 * i.readTimeout) wallClock = .ok session link) :
    let done := poll i (1000 * pollInterval) { session, datalog := log, stopAt, picks }
    let ended := Outcome.state done
    run i pollInterval transport wallClock log stopAt picks =
      ⟨result? done, if (result? done).isSome then ended.session.close else ended.session.link,
        ended.datalog⟩ := by
  unfold run
  rw [connected]

end

end Poller

end SolarTelemetry
