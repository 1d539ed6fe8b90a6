import SolarTelemetry.Proofs.Attempts
import SolarTelemetry.Proofs.Session.Logon
import SolarTelemetry.Session

/-!
# Transactions of a session

A session goes through transactions one after the other. Their numbers go up by one from each to
the next and start again after the last, so that a number comes back after as many transactions as
there are numbers. Each attempt of a message exchange is a transaction of which nothing belongs to
another.
-/

namespace SolarTelemetry

namespace Numbering

/-- The numbering after so many transactions. -/
def nth : Nat → Numbering
  | 0 => {}
  | k + 1 => (nth k).next

theorem toNat_nth (k : Nat) : (nth k).current.toNat = 0x8000 + k % 0x8000 := by
  induction k with
  | zero => rfl
  | succ k ih =>
    have bound : k % 0x8000 < 0x8000 := Nat.mod_lt _ (by decide)
    change (if (nth k).current = last then first else (nth k).current + 1).toNat = _
    have atEnd : (nth k).current = last ↔ k % 0x8000 = 0x7FFF := by
      rw [← UInt16.toNat_inj, ih]
      change 0x8000 + k % 0x8000 = 0xFFFF ↔ _
      omega
    split
    · next ended =>
      have full := atEnd.mp ended
      change 0x8000 = _
      omega
    · next goesOn =>
      have room : k % 0x8000 ≠ 0x7FFF := fun full => goesOn (atEnd.mpr full)
      rw [UInt16.toNat_add, ih]
      change (0x8000 + k % 0x8000 + 1) % 0x10000 = _
      omega

/-- The flag is the top bit, which every number has. -/
theorem flag_nth (k : Nat) : (nth k).current ||| Request.packetFlag = (nth k).current := by
  have below : k % 0x8000 < 2 ^ 15 := Nat.mod_lt _ (by decide)
  have parts : 0x8000 + k % 0x8000 = 0x8000 ||| k % 0x8000 := Nat.two_pow_add_eq_or_of_lt below 1
  apply UInt16.toNat_inj.mp
  calc ((nth k).current ||| Request.packetFlag).toNat
      = (0x8000 + k % 0x8000) ||| 0x8000 := by rw [UInt16.toNat_or, toNat_nth]; rfl
    _ = 0x8000 ||| k % 0x8000 := by rw [parts, Nat.or_comm, ← Nat.or_assoc, Nat.or_self]
    _ = (nth k).current.toNat := by rw [← parts, toNat_nth]

theorem toNat_unflagged (w : UInt16) : (w &&& ~~~Request.packetFlag).toNat = w.toNat % 0x8000 := by
  have mask : ~~~Request.packetFlag = 0x7FFF := by decide
  rw [mask, UInt16.toNat_and]
  exact Nat.and_two_pow_sub_one_eq_mod _ 15

/-- Without the flag the numbers go up by one and round, wherever they are. -/
theorem toNat_current_next (n : Numbering) :
    n.next.current.toNat % 0x8000 = (n.current.toNat + 1) % 0x8000 := by
  unfold next
  split
  · next ended =>
    rw [ended]
    rfl
  · rw [UInt16.toNat_add]
    change (n.current.toNat + 1) % 0x10000 % 0x8000 = _
    omega

/-- Without the flag the numbers still tell as many transactions apart. -/
theorem mod_eq_of_unflagged {k k' : Nat}
    (same : (nth k).current &&& ~~~Request.packetFlag =
      (nth k').current &&& ~~~Request.packetFlag) : k % 0x8000 = k' % 0x8000 := by
  have low (k : Nat) : ((nth k).current &&& ~~~Request.packetFlag).toNat = k % 0x8000 := by
    rw [toNat_unflagged, toNat_nth]
    omega
  rw [← low k, ← low k', same]

end Numbering

namespace Session

section

variable {σ α : Type} [Channel σ] {packetId : UInt16}

theorem keepsTo_send (request : Request) (destination : Address) :
    KeepsTo packetId (send (σ := σ) request destination packetId) :=
  fun s => .send request destination s

theorem keepsTo_discoverOnce (expected : Nat) :
    KeepsTo packetId (discoverOnce (σ := σ) expected packetId) := by
  refine (keepsTo_send _ _).bind fun _ s => ?_
  generalize ([] : List Device) = found
  fun_induction collectDevices expected packetId found s with
  | case1 found s enough => exact .refl s
  | case2 found s few e t received => exact .miss received
  | case3 found s few address reply t received source known ih =>
    exact (Deals.accept received).trans ih
  | case4 found s few address reply t received source fresh ih =>
    exact (Deals.accept received).trans ih

theorem keepsTo_logOnOnce (who : UserGroup) (password : Bytes) :
    KeepsTo packetId (logOnOnce (σ := σ) who password packetId) := by
  intro s
  obtain ⟨events, trace, mine, -⟩ :=
    attempt_of_logOnOnce who password s rfl rfl packetId
  exact ⟨events, trace, mine⟩

theorem keepsTo_syncClockOnce : KeepsTo packetId (syncClockOnce (σ := σ) packetId) := by
  refine (keepsTo_send _ _).bind fun _ => KeepsTo.receive.bind fun answer => ?_
  refine (KeepsTo.ofProtocol _).bind fun reading => (keepsTo_send _ _).bind fun _ => ?_
  refine KeepsTo.get.bind fun s => ?_
  simp only
  split
  · exact keepsTo_send _ _
  · exact .pure _

theorem keepsTo_queryOnce (device : Device) (object : UInt16) (first last : UInt32) :
    KeepsTo packetId (queryOnce (σ := σ) device object first last packetId) :=
  (keepsTo_send _ _).bind fun _ => KeepsTo.receive.bind fun _ =>
    (KeepsTo.ofProtocol _).bind fun _ => .pure _

theorem keepsTo_fetchOnce (device : Device) (kind : Archive.Kind) (first last : UInt32) :
    KeepsTo packetId (fetchOnce (σ := σ) device kind first last packetId) := by
  refine (keepsTo_send _ _).bind fun _ s => ?_
  generalize ([] : List Archive.Entry) = entries
  fun_induction collectPages kind packetId entries s with
  | case1 entries s e t received => exact .miss received
  | case2 entries s address reply t received e other => exact .accept received
  | case3 entries s address reply t received page entries' more ih =>
    exact (Deals.accept received).trans ih
  | case4 entries s address reply t received page entries' stops => exact .accept received

/-- An exchange uses up a number, whatever comes of it. -/
theorem numbering_exchange {attempt : UInt16 → Action (Session σ) α}
    (keeps : ∀ packetId, KeepsTo packetId (attempt packetId)) (s : Session σ) :
    (Outcome.state (exchange attempt s)).numbering = s.numbering.next := by
  obtain ⟨events, trace, -⟩ := keeps s.numbering.current s.cleared
  obtain ⟨stream, devices, same, -⟩ := trace.exists_eq
  rw [exchange_eq, Outcome.state_mapState, same]
  rfl

/-- An attempt that is worth a retry has got as far as to use up a number. -/
theorem numbering_of_transient {serial : UInt32} {once : Device → UInt16 → Action (Session σ) α}
    (keeps : ∀ d packetId, KeepsTo packetId (once d packetId)) {s t : Session σ} {e : Error}
    (failed : (device serial >>= fun d => exchange (once d)) s = .error e t)
    (transient : e.isTransient = true) : t.numbering = s.numbering.next := by
  cases found : device serial s with
  | error other u =>
    rw [Action.bind_of_error found] at failed
    cases failed
    unfold device at found
    split at found <;> cases found
    cases transient
  | ok d u =>
    obtain ⟨rfl, -⟩ := device_eq_ok found
    rw [Action.bind_of_ok found] at failed
    have used := numbering_exchange (keeps d) u
    rw [failed] at used
    exact used

section

variable {attempt : Action (Session σ) α} (uses : ∀ {s t e}, attempt s = .error e t →
  e.isTransient = true → t.numbering = s.numbering.next)

include uses

/-- So many numbers have been used up as attempts have been made before. -/
theorem toNat_numbering_starts {b : RetryBudget} {k : Nat} {s t : Session σ}
    (began : (b.starts attempt s)[k]? = some t) :
    t.numbering.current.toNat % 0x8000 = (s.numbering.current.toNat + k) % 0x8000 := by
  fun_induction RetryBudget.starts b attempt s generalizing k with
  | case1 | case2 =>
    cases k with
    | zero =>
      cases began
      rfl
    | succ k => cases began
  | case3 b s e u ran c granted ih =>
    cases k with
    | zero =>
      cases began
      rfl
    | succ k =>
      have used : u.numbering = s.numbering.next :=
        uses ran (RetryBudget.transient_of_granted granted)
      have slept : (Clock.sleep c.pause u).numbering = u.numbering := rfl
      have next := s.numbering.toNat_current_next
      have rest := ih began
      rw [slept, used] at rest
      omega

/-- The attempts of a run have different numbers, also without the flag. -/
theorem nodup_unflagged_starts (s : Session σ) :
    ((RetryBudget.starts {} attempt s).map fun start =>
      start.numbering.current &&& ~~~Request.packetFlag).Nodup := by
  have few : (RetryBudget.starts {} attempt s).length ≤ 4 :=
    RetryBudget.length_starts_le {} attempt s
  rw [List.Nodup, List.pairwise_iff_getElem]
  intro i j inside inside' apart same
  rw [List.length_map] at inside inside'
  rw [List.getElem_map, List.getElem_map] at same
  have first := toNat_numbering_starts uses (List.getElem?_eq_getElem inside)
  have second := toNat_numbering_starts uses (List.getElem?_eq_getElem inside')
  have unflagged := congrArg UInt16.toNat same
  rw [Numbering.toNat_unflagged, Numbering.toNat_unflagged] at unflagged
  omega

/-- Attempts of one number are one attempt. -/
theorem eq_of_unflagged_starts {s t u : Session σ} {j k : Nat}
    (began : (RetryBudget.starts {} attempt s)[j]? = some t)
    (began' : (RetryBudget.starts {} attempt s)[k]? = some u)
    (same : t.numbering.current &&& ~~~Request.packetFlag =
      u.numbering.current &&& ~~~Request.packetFlag) : t = u := by
  have inside := (List.getElem?_eq_some_iff.mp began).1
  have alike : j = k := by
    apply (List.getElem?_inj (by rwa [List.length_map]) (nodup_unflagged_starts uses s)).mp
    rw [List.getElem?_map, List.getElem?_map, began, began', Option.map_some, Option.map_some, same]
  rw [alike, began'] at began
  exact (Option.some.inj began).symm

end

end

/-- What happened under one number. -/
structure Transaction where
  packetId : UInt16
  events : List Event

namespace Transaction

def replies (tx : Transaction) : List Reply := repliesIn tx.events

def writes (tx : Transaction) : List (Address × Bytes) := writesIn tx.events

/-- All that is written and accepted belongs to the number. -/
def IsSound (tx : Transaction) : Prop := ∀ event ∈ tx.events, event.BelongsTo tx.packetId

end Transaction

/-- A session whose link has been closed. -/
def closed (s : Session Link) : Session Link :=
  { s with stream := { s.stream with channel := s.link.close } }

/-- The ways of a session through transactions. Between two of them it may rest, take note of what
devices there are, have the signal measured or its link closed, and the wall clock may be set. -/
inductive Run : Session Link → List Transaction → Session Link → Prop where
  | refl {s} : Run s [] s
  | transact {s t u events rest} : Trace s events t → Run t.ended rest u →
      Run s (⟨s.numbering.current, events⟩ :: rest) u
  | sleep {s t ts} (ms) : Run (Clock.sleep ms s) ts t → Run s ts t
  | learn {s t ts} (devices) : Run { s with devices } ts t → Run s ts t
  | measure {s t ts} : Run (Outcome.state (signalStrength s)) ts t → Run s ts t
  | close {s t ts} : Run s.closed ts t → Run s ts t
  | setClock {s t ts} (wallClock) : Run { s with wallClock } ts t → Run s ts t

namespace Run

variable {s t u : Session Link} {ts more : List Transaction}

theorem append (first : Run s ts t) (second : Run t more u) : Run s (ts ++ more) u := by
  induction first with
  | refl => exact second
  | transact trace _ ih => exact .transact trace (ih second)
  | sleep ms _ ih => exact .sleep ms (ih second)
  | learn devices _ ih => exact .learn devices (ih second)
  | measure _ ih => exact .measure (ih second)
  | close _ ih => exact .close (ih second)
  | setClock wallClock _ ih => exact .setClock wallClock (ih second)

theorem numbering_signalStrength (s : Session Link) :
    (Outcome.state (signalStrength s)).numbering = s.numbering := by
  obtain ⟨stream, same⟩ := exists_stream_of_onStream
    (FrameStream.onChannel (Link.signalStrength s.link.info.peerAddress)) s
  unfold signalStrength
  rw [Action.get_bind, onLink, same]

/-- The transactions have the numbers one after the other. -/
theorem numbers (run : Run s ts t) {k : Nat} (start : s.numbering = .nth k) :
    t.numbering = .nth (k + ts.length) ∧
      ∀ i tx, ts[i]? = some tx → tx.packetId = (Numbering.nth (k + i)).current := by
  -- Only a transaction takes a number; every other step leaves the numbering as it is.
  induction run generalizing k with
  | refl => exact ⟨start, by simp⟩
  | @transact s t u events rest trace _ ih =>
    obtain ⟨_, _, same, -⟩ := trace.exists_eq
    have next : t.ended.numbering = .nth (k + 1) := by
      rw [same]
      change s.numbering.next = _
      rw [start]
      rfl
    obtain ⟨final, numbers⟩ := ih next
    refine ⟨?_, ?_⟩
    · rw [final, List.length_cons, Nat.add_assoc, Nat.add_comm 1]
    · intro i tx found
      cases i with
      | zero =>
        cases found
        rw [start]
        rfl
      | succ i =>
        rw [numbers i tx found, Nat.add_assoc, Nat.add_comm 1]
  | sleep _ _ ih => exact ih start
  | learn _ _ ih => exact ih start
  | measure _ ih => exact ih ((numbering_signalStrength _).trans start)
  | close _ ih => exact ih start
  | setClock _ _ ih => exact ih start

end Run

/-- One session comes to another by so many transactions, all of one sort. -/
def Makes (sort : Transaction → Prop) (s : Session Link) (count : Nat) (t : Session Link) : Prop :=
  ∃ ts, Run s ts t ∧ ts.length = count ∧ ∀ tx ∈ ts, sort tx

namespace Makes

variable {sort : Transaction → Prop} {s t u : Session Link} {m n : Nat} {α : Type}

theorem trans (first : Makes sort s m t) (second : Makes sort t n u) : Makes sort s (m + n) u := by
  obtain ⟨ts, run, length, all⟩ := first
  obtain ⟨more, run', length', all'⟩ := second
  refine ⟨ts ++ more, run.append run', ?_, List.forall_mem_append.mpr ⟨all, all'⟩⟩
  rw [List.length_append, length, length']

/-- With retries there is a transaction for each attempt, as long as the session stays ready for
one. -/
theorem run {ready : Session Link → Prop} {act : Action (Session Link) α}
    (once : ∀ s, ready s → Makes sort s 1 (Outcome.state (act s)) ∧ ready (Outcome.state (act s)))
    (rest : ∀ ms s, ready s → ready (Clock.sleep ms s)) (b : RetryBudget) (s : Session Link)
    (start : ready s) : Makes sort s (b.attempts act s) (Outcome.state (b.run act s)) := by
  -- Along the attempts. The last one is a transaction by itself, any other comes before the rest.
  fun_induction RetryBudget.attempts b act s with
  | case1 b s a t ran =>
    rw [RetryBudget.run_of_ok ran, ← ran]
    exact (once s start).1
  | case2 b s e t ran refused =>
    rw [RetryBudget.run_of_refused ran refused, ← ran]
    exact (once s start).1
  | case3 b s e t ran c granted ih =>
    obtain ⟨made, still⟩ := once s start
    rw [ran] at made still
    obtain ⟨ts, run, length, all⟩ := ih (rest c.pause t still)
    rw [RetryBudget.run_of_granted ran granted]
    exact made.trans ⟨ts, .sleep c.pause run, length, all⟩

end Makes

/-- One session comes to another by so many transactions, with nothing in any of them that belongs
to another. -/
def Transacts (s : Session Link) (count : Nat) (t : Session Link) : Prop :=
  ∃ ts, Run s ts t ∧ ts.length = count ∧ ∀ tx ∈ ts, tx.IsSound

namespace Transacts

variable {s t u : Session Link} {m n : Nat}

theorem of_run (run : Run s [] t) : Transacts s 0 t := ⟨[], run, rfl, by simp⟩

theorem trans (first : Transacts s m t) (second : Transacts t n u) : Transacts s (m + n) u :=
  Makes.trans first second

variable {α : Type}

theorem exchange {attempt : UInt16 → Action (Session Link) α}
    (keeps : ∀ packetId, KeepsTo packetId (attempt packetId)) (s : Session Link) :
    Transacts s 1 (Outcome.state (exchange attempt s)) := by
  obtain ⟨events, trace, mine⟩ := (Deals.clear s).trans (keeps s.numbering.current s.cleared)
  rw [exchange_eq, Outcome.state_mapState]
  exact ⟨_, .transact trace .refl, rfl, List.forall_mem_singleton.mpr mine⟩

theorem run {ready : Session Link → Prop} {act : Action (Session Link) α}
    (once : ∀ s, ready s → Transacts s 1 (Outcome.state (act s)) ∧ ready (Outcome.state (act s)))
    (rest : ∀ ms s, ready s → ready (Clock.sleep ms s)) (b : RetryBudget) (s : Session Link)
    (start : ready s) : Transacts s (b.attempts act s) (Outcome.state (b.run act s)) :=
  Makes.run once rest b s start

theorem withRetries_exchange {attempt : UInt16 → Action (Session Link) α}
    (keeps : ∀ packetId, KeepsTo packetId (attempt packetId)) (s : Session Link) :
    Transacts s (RetryBudget.attempts {} (Session.exchange attempt) s)
      (Outcome.state (withRetries (Session.exchange attempt) s)) := by
  have once (s : Session Link) (_ : True) :
      Transacts s 1 (Outcome.state (Session.exchange attempt s)) ∧ True :=
    ⟨exchange keeps s, trivial⟩
  exact run once (fun _ _ _ => trivial) {} s trivial

end Transacts

end Session

end SolarTelemetry
