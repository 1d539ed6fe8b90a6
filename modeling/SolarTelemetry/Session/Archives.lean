import SolarTelemetry.Archive
import SolarTelemetry.Session.Basic

/-!
# Reading archives

An archive arrives page by page, each in a reply of its own, until one says that none follows. Of a
reply only the object is looked at. Entries outside the range asked for are left out.
-/

namespace SolarTelemetry.Session

variable {σ : Type} [Channel σ]

def collectPages (kind : Archive.Kind) (packetId : UInt16) (entries : List Archive.Entry)
    (s : Session σ) : Outcome (Session σ) (List Archive.Entry) :=
  match _received : receive packetId s with
  | .error e s => .error e s
  | .ok (_, reply) s =>
    match reply.requireObject kind.object with
    | .error e => .error (.protocol e) s
    | .ok () =>
      let entries := entries ++ Archive.entriesOf kind reply.records
      if reply.hasMore then collectPages kind packetId entries s else .ok entries s
termination_by s.pending
decreasing_by exact (spends_receive packetId).lt _received

def fetchOnce (device : Device) (kind : Archive.Kind) (first last : UInt32) (packetId : UInt16) :
    Action (Session σ) (List Archive.Entry) := do
  send (.query device.target kind.object first last) device.address packetId
  collectPages kind packetId []

/-- The entries of an archive that are stamped between two times, both included. -/
def readArchive (serial : UInt32) (kind : Archive.Kind) (first last : UInt32) :
    Action (Session σ) (List Archive.Entry) := do
  let attempt := do
    let device ← device serial
    exchange (fetchOnce device kind first last)
  return Archive.within first last (← withRetries attempt)

def readSamples (serial : UInt32) (kind : Archive.Kind) (first last : UInt32) :
    Action (Session σ) (List Archive.YieldSample) := do
  return (← readArchive serial kind first last).filterMap Archive.Entry.sample?

/-- One sample every five minutes. -/
def readDaySamples (serial : UInt32) (first last : UInt32) :
    Action (Session σ) (List Archive.YieldSample) :=
  readSamples serial .dayData first last

/-- One sample a day. -/
def readMonthSamples (serial : UInt32) (first last : UInt32) :
    Action (Session σ) (List Archive.YieldSample) :=
  readSamples serial .monthData first last

def readEvents (serial : UInt32) (kind : Archive.Kind) (first last : UInt32) :
    Action (Session σ) (List Archive.Event) := do
  unless kind.holdsEvents do throw (.protocol (.notAnEventArchive kind))
  return (← readArchive serial kind first last).filterMap Archive.Entry.event?

theorem spends_collectPages (kind : Archive.Kind) (packetId : UInt16)
    (entries : List Archive.Entry) :
    Action.Spends (σ := Session σ) pending (collectPages kind packetId entries) := by
  intro s
  fun_induction collectPages kind packetId entries s with
  | case1 entries s e s' received => exact (spends_receive packetId).keeps.le_of_error received
  | case2 entries s address reply s' received e other =>
    exact Nat.le_of_lt ((spends_receive packetId).lt received)
  | case3 entries s address reply s' received expected entries' more ih =>
    have := (spends_receive packetId).lt received
    cases again : collectPages kind packetId entries' s' <;> simp only [again] at ih ⊢ <;> omega
  | case4 entries s address reply s' received expected entries' last =>
    exact (spends_receive packetId).lt received

theorem spends_readArchive (serial : UInt32) (kind : Archive.Kind) (first last : UInt32) :
    (readArchive (σ := σ) serial kind first last).Spends pending := by
  refine Action.Spends.bind (spends_withRetries ?_) fun _ => Action.keeps_pure _
  exact (keeps_device serial).bind_spends fun _ => spends_exchange fun packetId =>
    (keeps_send _ _ _).bind_spends fun _ => spends_collectPages kind packetId []

theorem spends_readMonthSamples (serial : UInt32) (first last : UInt32) :
    (readMonthSamples (σ := σ) serial first last).Spends pending :=
  (spends_readArchive _ _ _ _).bind fun _ => Action.keeps_pure _

end SolarTelemetry.Session
