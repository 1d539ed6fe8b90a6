import SolarTelemetry.Config.Basic
import SolarTelemetry.Datalog
import SolarTelemetry.Session

/-!
# Polling

A poller sets up a session, then reads every device it could log on to, again and again at an
interval, until it is asked to stop. What it reads goes to the log, each device's readings together.
Numbers that a configuration asks for can be too large for words, and that is the end of the poller.
A round of reading costs at least one reply, so the rounds come to an end with what the link can
still deliver.
-/

namespace SolarTelemetry

structure Poller where
  session : Session Link
  datalog : Option Datalog := none
  /-- When it is asked from outside to stop, if ever. -/
  stopAt : Option Nat := none
  /-- Round by round, whether it notices its tick before a request to stop that has come as well. -/
  picks : List Bool := []

namespace Poller

/-- What a poller does. It comes to nothing where a number does not fit: then the poller is gone at
once, and nothing that should follow is done. -/
abbrev Polling (α : Type) := OptionT (Action Poller) α

def onSession {α : Type} (act : Action (Session Link) α) : Polling α :=
  .lift (act.zoom session fun p session => { p with session })

def pending (p : Poller) : Nat := p.session.pending

def record (serial : UInt32) (kind : String) (data : Json) : Polling Unit :=
  modify fun p =>
    { p with datalog := p.datalog.map (·.write p.session.wallClock serial kind data) }

/-- The devices that were logged on to, in the order of their discovery. -/
def authenticated (p : Poller) : List UInt32 :=
  (p.session.devices.filter (·.authenticated)).map (·.serial)

/-- Whether there is room for as many devices as are expected, sixteen octets for each, and the
clock goes as far as a reply is waited for. -/
def canDiscover (i : Inverter) : Bool := i.deviceCount < 2 ^ 59 && i.readTimeout < 2 ^ 63

/-- Where there is no room or no such moment, this shows only after the devices have been called. -/
def discover (i : Inverter) : Polling Unit := do
  if canDiscover i then
    let _ ← onSession (Session.discover i.deviceCount)
  else
    let call (packetId : UInt16) : Action (Session Link) Unit :=
      Session.send (.query .any Session.discoveryObject 0 0) .broadcast packetId
    onSession ((withRetries (Session.exchange call)).mapError .discoveryFailed)
    failure

def recordInfos : List UInt32 → Polling Unit
  | [] => pure ()
  | serial :: rest => do
    record serial "info" (← onSession (Session.readInfo serial)).toJson
    recordInfos rest

/-- Clocks that cannot be set and a signal that cannot be measured are no reason to give up. -/
def setUp (i : Inverter) : Polling Unit := do
  discover i
  onSession (Session.logOn i.password i.userGroup)
  let _ ← onSession (Action.attempt Session.syncClock)
  let _ ← onSession (Action.attempt Session.signalStrength)
  recordInfos (← get).authenticated

def dayLength : Nat := 86400

/-- A number as a word, if it fits. -/
def word? (n : Nat) : Option UInt32 := if n < 2 ^ 32 then some (UInt32.ofNat n) else none

/-- The time from which to read samples: one day earlier than the first yield that is wanted. -/
def archiveStart? (now days : UInt32) : Option UInt32 := do
  let wanted ← word? (days.toNat + 1)
  let span ← word? (wanted.toNat * dayLength)
  return if now < span then 0 else now - span

def recordDailyYields (i : Inverter) (serial : UInt32) : Polling Unit := do
  let now := Calendar.unixSeconds (← get).session.wallClock
  let start ← .mk (pure (archiveStart? now i.archiveDays))
  let samples ← onSession (Session.readMonthSamples serial start now)
  record serial "daily_yields" (.list ((Archive.dailyYields samples).map (·.toJson)))

def visit (i : Inverter) (serial : UInt32) : Polling Unit := do
  let ac ← onSession (Session.readAc serial)
  let dc ← onSession (Session.readDc serial)
  let statistics ← onSession (Session.readStatistics serial)
  let status ← onSession (Session.readStatus serial)
  record serial "ac" ac.toJson
  record serial "dc" dc.toJson
  record serial "statistics" statistics.toJson
  record serial "status" status.toJson
  if 0 < i.archiveDays then recordDailyYields i serial

def visitAll (i : Inverter) : List UInt32 → Polling Unit
  | [] => pure ()
  | serial :: rest => do
    visit i serial
    visitAll i rest

/-- The next moment at which there is a request to stop, if there ever is one. -/
def askedAt? (p : Poller) : Option Nat :=
  let now := Clock.now p.session
  if p.session.link.transport.shutdown then some now else p.stopAt.map (max now)

def isAskedToStop (p : Poller) : Bool := p.askedAt? == some (Clock.now p.session)

/-- When the poller stops instead of taking up a tick, if it does. If both are there it goes by the
next pick, and stops unless that is for the tick. -/
def stopsAt? (due : Nat) (p : Poller) : Option Nat :=
  let tick := max (Clock.now p.session) due
  p.askedAt?.filter fun moment => moment < tick || moment = tick && !p.picks.headD false

def sleepUntil (moment : Nat) (p : Poller) : Poller :=
  let now := Clock.now p.session
  if moment ≤ now then p else { p with session := Clock.sleep (moment - now) p.session }

/-- A tick may be so late, in milliseconds, before those after it are put off. -/
def tickSlack : Nat := 5

/-- When the tick after one that was due is due itself, all in milliseconds. -/
def tickAfter (due now interval : Nat) : Nat :=
  (if due + tickSlack < now then now else due) + interval

section Measure

variable {α β : Type}

theorem keeps_bind {act : Polling α} {next : α → Polling β} (first : Action.Keeps pending act)
    (second : ∀ a, Action.Keeps pending (next a)) :
    Action.Keeps pending (act >>= next : Polling β) :=
  Action.Keeps.bind first fun
    | some a => second a
    | none => Action.keeps_pure none

theorem spends_bind {act : Polling α} {next : α → Polling β} (first : Action.Spends pending act)
    (second : ∀ a, Action.Keeps pending (next a)) :
    Action.Spends pending (act >>= next : Polling β) :=
  Action.Spends.bind first fun
    | some a => second a
    | none => Action.keeps_pure none

theorem keeps_onSession {act : Action (Session Link) α} (h : act.Keeps Session.pending) :
    Action.Keeps pending (onSession act) :=
  .bind (h.zoom fun _ _ le => le) fun _ => Action.keeps_pure _

theorem spends_onSession {act : Action (Session Link) α} (h : act.Spends Session.pending) :
    Action.Spends pending (onSession act) :=
  .bind (h.zoom (fun _ _ le => le) fun _ _ lt => lt) fun _ => Action.keeps_pure _

theorem keeps_record (serial : UInt32) (kind : String) (data : Json) :
    Action.Keeps pending (record serial kind data) := fun _ => Nat.le_refl _

theorem keeps_recordDailyYields (i : Inverter) (serial : UInt32) :
    Action.Keeps pending (recordDailyYields i serial) := by
  refine keeps_bind (fun _ => Nat.le_refl _) fun p => keeps_bind (Action.keeps_pure _) fun _ => ?_
  refine keeps_bind (keeps_onSession (Session.spends_readMonthSamples _ _ _).keeps) fun _ => ?_
  exact keeps_record _ _ _

theorem spends_visit (i : Inverter) (serial : UInt32) :
    Action.Spends pending (visit i serial) := by
  refine spends_bind (spends_onSession (Session.spends_readAc _)) fun _ => ?_
  refine keeps_bind (keeps_onSession (Session.spends_readDc _).keeps) fun _ => ?_
  refine keeps_bind (keeps_onSession (Session.spends_readStatistics _).keeps) fun _ => ?_
  refine keeps_bind (keeps_onSession (Session.spends_readStatus _).keeps) fun _ => ?_
  refine keeps_bind (keeps_record _ _ _) fun _ => keeps_bind (keeps_record _ _ _) fun _ => ?_
  refine keeps_bind (keeps_record _ _ _) fun _ => keeps_bind (keeps_record _ _ _) fun _ => ?_
  split
  · exact keeps_recordDailyYields i serial
  · exact Action.keeps_pure _

theorem keeps_visitAll (i : Inverter) (serials : List UInt32) :
    Action.Keeps pending (visitAll i serials) := by
  induction serials with
  | nil => exact Action.keeps_pure _
  | cons serial rest ih => exact keeps_bind (spends_visit i serial).keeps fun _ => ih

theorem spends_visitAll (i : Inverter) (serial : UInt32) (rest : List UInt32) :
    Action.Spends pending (visitAll i (serial :: rest)) :=
  spends_bind (spends_visit i serial) fun _ => keeps_visitAll i rest

theorem pending_sleepUntil_le (moment : Nat) (p : Poller) :
    (p.sleepUntil moment).pending ≤ p.pending := by
  unfold sleepUntil
  simp only
  split
  · exact Nat.le_refl _
  · exact Session.pending_sleep_le _ _

end Measure

/-- Polls devices from a tick on, until asked to stop. -/
def rounds (i : Inverter) (interval : Nat) (serial : UInt32) (others : List UInt32) (due : Nat)
    (p : Poller) : Outcome Poller (Option Unit) :=
  match p.stopsAt? due with
  | some moment => .ok (some ()) (p.sleepUntil moment)
  | none =>
    match _polled : visitAll i (serial :: others) (p.sleepUntil due) with
    | .error e q => .error e q
    | .ok none q => .ok none q
    | .ok (some ()) q =>
      let began := Clock.now (p.sleepUntil due).session
      rounds i interval serial others (tickAfter due began interval)
        { q with picks := q.picks.tail }
termination_by p.pending
decreasing_by
  have := pending_sleepUntil_le due p
  have := (spends_visitAll i serial others).lt _polled
  simp only [pending] at *
  omega

/-- Sets up and polls; the first round begins at once. With no device there is nothing to poll. -/
def poll (i : Inverter) (interval : Nat) : Polling Unit := do
  setUp i
  match (← get).authenticated with
  | [] => pure ()
  | serial :: others => fun p => rounds i interval serial others (Clock.now p.session) p

/-- What comes of something that a poller does, unless it is gone. -/
def result? {α : Type} : Outcome Poller (Option α) → Option (Except Error α)
  | .ok (some a) _ => some (.ok a)
  | .ok none _ => none
  | .error e _ => some (.error e)

/-- What is left of a session over a transport. -/
structure Report where
  /-- Nothing comes of a poller that is gone. -/
  result : Option (Except Error Unit)
  link : Link
  datalog : Option Datalog

/-- Holds one session over a transport. Whatever comes of it the session is closed, unless the
poller is gone. -/
def run (i : Inverter) (pollInterval : Nat) (transport : Transport) (wallClock : Int)
    (datalog : Option Datalog) (stopAt : Option Nat) (picks : List Bool) : Report :=
  match Session.connect transport (1000 * i.readTimeout) wallClock with
  | .error e link => ⟨some (.error e), link, datalog⟩
  | .ok session _ =>
    let done := poll i (1000 * pollInterval) { session, datalog, stopAt, picks }
    let p := Outcome.state done
    let link := if (result? done).isSome then p.session.close else p.session.link
    ⟨result? done, link, p.datalog⟩

end Poller

end SolarTelemetry
