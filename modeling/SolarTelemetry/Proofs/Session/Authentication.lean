import Mathlib.Data.List.Induction
import SolarTelemetry.Proofs.Message.Password
import SolarTelemetry.Proofs.Session.Paging
import SolarTelemetry.Proofs.Session.Wire

/-!
# Who is logged on

A logon makes attempts until one succeeds or fails for good. The marks in the device table are then
those of the last attempt that got as far as asking: a device is marked if its first answer there
reports no fault and repeats the password.
-/

namespace SolarTelemetry

namespace Session

theorem grants_eq_true_iff {password : Bytes} {replies : List Reply} {serial : UInt32} :
    grants password replies serial = true ↔
      ∃ reply, replies.find? (·.source.serial == serial) = some reply ∧
        reply.header.status = 0 ∧ (reply.body.drop echoOffset).take Password.length = password := by
  simp [grants, accepts, Option.any_eq_true]

theorem hasAnswered_eq_true_iff {replies : List Reply} {serial : UInt32} :
    hasAnswered replies serial = true ↔ ∃ reply ∈ replies, reply.source.serial = serial := by
  simp [hasAnswered]

/-- Whether the request of a transaction went out. -/
def Transaction.hasAsked (tx : Transaction) : Bool := tx.events.any Event.isSent

/-- The last transaction whose request went out. -/
def lastAsked? (ts : List Transaction) : Option Transaction :=
  (ts.filter Transaction.hasAsked).getLast?

theorem lastAsked?_concat (ts : List Transaction) (tx : Transaction) :
    lastAsked? (ts ++ [tx]) = if tx.hasAsked then some tx else lastAsked? ts := by
  unfold lastAsked?
  rw [List.filter_append]
  split <;> next asked => simp [asked]

theorem mem_of_lastAsked {ts : List Transaction} {tx : Transaction} (asked : tx ∈ lastAsked? ts) :
    tx ∈ ts ∧ tx.hasAsked :=
  List.mem_filter.mp (List.mem_of_mem_getLast? asked)

/-- Of the marks that attempts leave one after the other, those of the last one that asked
remain. -/
theorem foldl_marks (l : Logon) (table : List Device) (ts : List Transaction)
    (before : List Device) :
    ts.foldl (fun devices tx => l.marks table tx.events devices) before =
      match lastAsked? ts with
      | some tx => table.map (Device.judged l.password tx.replies)
      | none => before := by
  -- From the end, as the last attempt overrides all before it unless it did not ask.
  induction ts using List.reverseRecOn with
  | nil => rfl
  | append_singleton ts tx ih =>
    rw [List.foldl_append, List.foldl_cons, List.foldl_nil, ih, lastAsked?_concat, Logon.marks]
    change (if tx.hasAsked then _ else _) = _
    by_cases asked : tx.hasAsked
    · rw [if_pos asked, if_pos asked]
      rfl
    · rw [if_neg asked, if_neg asked]

/-- What an attempt writes stands on the transport afterwards, unless it has met with an error that
is final. -/
theorem posts_of_attempt {l : Logon} {table : List Device} {packetId : UInt16}
    {events : List Event} {result : Except Error Unit} {s t : Session Link}
    (attempt : l.Attempt table packetId events result) (trace : Trace s events t)
    (settled : s.link.Settled) (padded : l.password.length = 12)
    (passing : ∀ e, result = .error e → e.isTransient) : Posts s (writesIn events) t := by
  have short : ∀ posting ∈ writesIn events, posting.2.length ≤ maxShort := by
    intro posting member
    rw [attempt.length_of_mem_writes padded posting member]
    decide
  obtain ⟨posts, final⟩ := trace.posts settled short
  have all : ∀ destination payload e, .wrote destination payload (.error e) ∉ events := by
    intro destination payload e member
    have lasting : e.isTransient = false := final _ member
    rw [passing e (attempt.of_unsent member)] at lasting
    cases lasting
  rwa [sentIn_eq_writesIn all] at posts

/-- The attempts that a logon makes of one session, and what they come to. All but the last
have failed. -/
structure Attempted (l : Logon) (table : List Device) (s : Session Link)
    (outcome : Outcome (Session Link) Unit) (earlier : List Transaction) (last : Transaction) :
    Prop where
  run : Run s (earlier ++ [last]) outcome.state
  sound : ∀ tx ∈ earlier ++ [last], tx.IsSound
  failed : ∀ tx ∈ earlier, ∃ e, l.Attempt table tx.packetId tx.events (.error e)
  final : l.Attempt table last.packetId last.events outcome.result
  marked : outcome.state.devices =
    (earlier ++ [last]).foldl (fun devices tx => l.marks table tx.events devices) s.devices
  posted : s.link.Settled → l.password.length = 12 →
    (∀ e, outcome.result = .error e → e.isTransient) →
    Posts s ((earlier ++ [last]).flatMap Transaction.writes) outcome.state

section

variable {l : Logon} {table : List Device} {who : UserGroup} {password : Bytes} {s : Session Link}

theorem attempted_of_exchange {outcome : Outcome (Session Link) Unit}
    (ran : exchange (logOnOnce who password) s = outcome) (asking : s.logon who password = l)
    (listed : forgetLogons s.devices = forgetLogons table) :
    ∃ last, Attempted l table s outcome [] last ∧ outcome.state.logon who password = l ∧
      forgetLogons outcome.state.devices = forgetLogons table := by
  obtain ⟨events, trace, mine, attempt, marked⟩ :=
    attempt_of_logOnOnce who password s.cleared asking listed s.numbering.current
  rw [exchange_eq] at ran
  generalize logOnOnce who password s.numbering.current s.cleared = attempted at *
  subst ran
  obtain ⟨stream, devices, left, unmarked⟩ := trace.exists_eq
  rw [Outcome.state_mapState]
  refine ⟨⟨s.numbering.current, events⟩, ⟨?_, ?_, by simp, ?_, ?_, ?_⟩, ?_, ?_⟩
  · rw [Outcome.state_mapState]
    exact .transact (.clear trace) .refl
  · exact List.forall_mem_singleton.mpr mine
  · rw [Outcome.result_mapState]
    exact attempt
  · rw [Outcome.state_mapState]
    exact marked
  · intro settled padded passing
    rw [Outcome.result_mapState] at passing
    have posts := posts_of_attempt attempt trace settled padded passing
    rw [Outcome.state_mapState, List.nil_append, List.flatMap_singleton]
    exact ⟨posts.format, posts.link⟩
  · rw [left]
    exact asking
  · rw [left]
    exact unmarked.trans listed

theorem exists_attempted (who : UserGroup) (password : Bytes) (s : Session Link)
    (asking : s.logon who password = l)
    (listed : forgetLogons s.devices = forgetLogons table) (b : RetryBudget) :
    ∃ earlier last,
      Attempted l table s (b.run (exchange (logOnOnce who password)) s) earlier last ∧
      (earlier ++ [last]).length = b.attempts (exchange (logOnOnce who password)) s := by
  -- Along the attempts. What is asked and of whom stays the same, so each is of the same logon.
  fun_induction RetryBudget.attempts b (exchange (logOnOnce who password)) s with
  | case1 b s a t ran =>
    obtain ⟨last, made, -⟩ := attempted_of_exchange ran asking listed
    rw [RetryBudget.run_of_ok ran]
    exact ⟨[], last, made, rfl⟩
  | case2 b s e t ran refused =>
    obtain ⟨last, made, -⟩ := attempted_of_exchange ran asking listed
    rw [RetryBudget.run_of_refused ran refused]
    exact ⟨[], last, made, rfl⟩
  | case3 b s e t ran c granted ih =>
    obtain ⟨first, made, asking', listed'⟩ := attempted_of_exchange ran asking listed
    obtain ⟨earlier, last, rest, length⟩ := ih asking' listed'
    rw [RetryBudget.run_of_granted ran granted]
    refine ⟨first :: earlier, last, ⟨?_, ?_, ?_, rest.final, ?_, ?_⟩, ?_⟩
    · exact made.run.append (.sleep c.pause rest.run)
    · exact List.forall_mem_cons.mpr ⟨made.sound first (by simp), rest.sound⟩
    · exact List.forall_mem_cons.mpr ⟨⟨e, made.final⟩, rest.failed⟩
    · have marked : (Clock.sleep c.pause t).devices = l.marks table first.events s.devices :=
        made.marked
      rw [rest.marked, marked, List.cons_append, List.foldl_cons]
    · intro settled padded passing
      have transient : ∀ other, Except.error e = Except.error (α := Unit) other →
          other.isTransient := by
        rintro _ ⟨⟩
        exact RetryBudget.transient_of_granted granted
      have posts := made.posted settled padded transient
      have slept := Posts.of_writes (silent_sleep c.pause t (posts.settled settled))
      have both := posts.silent slept
      rw [List.nil_append, List.flatMap_singleton] at both
      exact both.trans (rest.posted (both.settled settled) padded passing)
    · rw [List.cons_append, List.length_cons, length, Nat.add_comm]

theorem Attempted.devices_eq {outcome : Outcome (Session Link) Unit} {earlier : List Transaction}
    {last : Transaction} (h : Attempted l table s outcome earlier last) :
    outcome.state.devices =
      match lastAsked? (earlier ++ [last]) with
      | some tx => table.map (Device.judged l.password tx.replies)
      | none => s.devices := by
  rw [h.marked, foldl_marks]

theorem Attempted.forgetLogons_eq {outcome : Outcome (Session Link) Unit}
    {earlier : List Transaction} {last : Transaction}
    (h : Attempted l table s outcome earlier last)
    (listed : forgetLogons s.devices = forgetLogons table) :
    forgetLogons outcome.state.devices = forgetLogons table := by
  rw [h.devices_eq]
  split
  · rw [forgetLogons, List.map_map]
    rfl
  · exact listed

theorem Attempted.exists_attempt {outcome : Outcome (Session Link) Unit}
    {earlier : List Transaction} {last : Transaction}
    (h : Attempted l table s outcome earlier last) :
    ∀ tx ∈ earlier ++ [last], ∃ result, l.Attempt table tx.packetId tx.events result := by
  intro tx member
  rcases List.mem_append.mp member with early | late
  · obtain ⟨e, attempt⟩ := h.failed tx early
    exact ⟨_, attempt⟩
  · rw [List.mem_singleton.mp late]
    exact ⟨_, h.final⟩

/-- A successful logon has been answered by all in its last attempt, and marks by the answers. -/
theorem Attempted.of_ok {t : Session Link} {earlier : List Transaction} {last : Transaction}
    (h : Attempted l table s (.ok () t) earlier last) :
    t.devices = table.map (Device.judged l.password last.replies) ∧
      (∀ d ∈ table, hasAnswered last.replies d.serial) ∧
      ∃ d ∈ table, grants l.password last.replies d.serial := by
  obtain ⟨asked, answered⟩ := h.final.of_ok rfl
  refine ⟨?_, answered⟩
  have devices := h.devices_eq
  rw [lastAsked?_concat, if_pos (show last.hasAsked from asked)] at devices
  exact devices

end

theorem exists_authenticated_of_logOn {password : String} {who : UserGroup} {s t : Session Link}
    (ran : logOn password who s = .ok () t) : ∃ d ∈ t.devices, d.authenticated := by
  cases allowed : logonRefusal? password who s with
  | some e =>
    rw [logOn_of_refused allowed] at ran
    cases ran
  | none =>
    obtain ⟨some, encoded, granted⟩ := encoded_of_logonRefusal allowed
    rw [logOn_of_encoded some granted] at ran
    have passed : RetryBudget.run {} (exchange (logOnOnce who encoded)) s = .ok () t :=
      Action.mapError_eq_ok ran
    obtain ⟨earlier, last, attempted, -⟩ := exists_attempted who encoded s rfl rfl {}
    rw [passed] at attempted
    obtain ⟨marked, -, d, listed, accepted⟩ := attempted.of_ok
    rw [marked]
    exact ⟨_, List.mem_map_of_mem listed, accepted⟩

/-- An answer of a device to a logon, with a status and a password. -/
def logonAnswer (serial : UInt32) (status packetId : UInt16) (password : Bytes) : Reply where
  header := ⟨15, 0x90, ⟨0x7D, 7⟩, 0, ⟨0x83, serial⟩, 0, status, 0, packetId⟩
  body := List.replicate echoOffset 0 ++ password

/-- How a password goes over the line. -/
def onLine (who : UserGroup) (password : String) : Bytes :=
  (Password.encode who password).toOption.getD []

section

variable {σ : Type} [Channel σ]

/-- A table with each device in it once, and none of them logged on to. -/
structure Fresh (devices : List Device) : Prop where
  distinct : (devices.map Device.serial).Nodup
  unmarked : ∀ d ∈ devices, d.authenticated = false

theorem Fresh.forgetLogons_eq {devices : List Device} (fresh : Fresh devices) :
    forgetLogons devices = devices := by
  unfold forgetLogons
  rw [List.map_congr_left (g := id), List.map_id]
  intro d member
  rw [← fresh.unmarked d member]
  rfl

theorem fresh_of_collectDevices {expected : Nat} {packetId : UInt16} {found devices : List Device}
    {s t : Session σ} (ran : collectDevices expected packetId found s = .ok devices t)
    (start : Fresh found) : Fresh devices := by
  fun_induction collectDevices expected packetId found s with
  | case1 found s enough =>
    cases ran
    exact start
  | case2 => cases ran
  | case3 found s few address reply u received source known ih => exact ih ran start
  | case4 found s few address reply u received source new ih =>
    have unknown : source.serial ∉ found.map Device.serial := by
      intro member
      obtain ⟨d, listed, same⟩ := List.mem_map.mp member
      exact new (List.any_eq_true.mpr ⟨d, listed, beq_iff_eq.mpr same⟩)
    refine ih ran ⟨?_, ?_⟩
    · rw [List.map_append, List.nodup_append]
      refine ⟨start.distinct, List.pairwise_singleton _ _, ?_⟩
      rintro serial member other single rfl
      rw [List.mem_singleton.mp single] at member
      exact unknown member
    · exact List.forall_mem_append.mpr ⟨start.unmarked, List.forall_mem_singleton.mpr rfl⟩

theorem fresh_of_discover {expected : Nat} {devices : List Device} {s t : Session σ}
    (ran : discover expected s = .ok devices t) : t.devices = devices ∧ Fresh devices := by
  obtain ⟨found, u, asked, rest⟩ := Action.bind_eq_ok_iff.mp ran
  cases rest
  refine ⟨rfl, ?_⟩
  obtain ⟨_, v, -, last⟩ := RetryBudget.exists_last (exchange (discoverOnce expected)) {} s
  have tried := Action.mapError_eq_ok asked
  rw [withRetries, last, exchange_eq] at tried
  obtain ⟨w, once, -⟩ := Outcome.mapState_eq_ok tried
  obtain ⟨_, _, -, collected⟩ := Action.bind_eq_ok_iff.mp once
  exact fresh_of_collectDevices collected ⟨List.nodup_nil, by simp⟩

end

/-- A logon that fails leaves the marks of its last attempt that asked. So a device that accepted
the password there stays marked; the logon has failed although it did because another device was
silent, or because the acknowledgement to the only one was not sent. -/
theorem marked_after_failed_logOn {expected : Nat} {devices : List Device} {password : String}
    {who : UserGroup} {s₀ s s' : Session Link} {e : Error}
    (discovered : discover expected s₀ = .ok devices s) (some : devices ≠ [])
    (short : password.toUTF8.toList.length ≤ Password.length)
    (failed : logOn password who s = .error e s') :
    ∃ encoded ts, Password.encode who password = .ok encoded ∧ Run s ts s' ∧
      (∀ tx ∈ ts, tx.IsSound) ∧
      ts.length = RetryBudget.attempts {} (exchange (logOnOnce who encoded)) s ∧
      forgetLogons s'.devices = devices ∧
      (∀ d ∈ s'.devices, d.authenticated = true ↔
        ∃ tx ∈ lastAsked? ts, grants encoded tx.replies d.serial = true) ∧
      ∀ tx ∈ lastAsked? ts, (∃ d ∈ devices, grants encoded tx.replies d.serial = true) →
        (∃ d ∈ devices, hasAnswered tx.replies d.serial = false) ∨
          ∃ d cause, devices = [d] ∧
            .wrote d.address ((s.logon who encoded).acknowledgement d tx.packetId) (.error cause) ∈
              tx.events := by
  obtain ⟨listed, fresh⟩ := fresh_of_discover discovered
  subst listed
  obtain ⟨encoded, granted⟩ := Password.exists_encode who short
  rw [logOn_of_encoded some granted] at failed
  obtain ⟨cause, gaveUp, -⟩ := Action.mapError_eq_error failed
  obtain ⟨earlier, last, h, length⟩ :=
    exists_attempted who encoded s rfl rfl {}
  rw [show RetryBudget.run {} (exchange (logOnOnce who encoded)) s = .error cause s' from gaveUp]
    at h
  have refused : ∀ tx ∈ earlier ++ [last], ∃ e,
      (s.logon who encoded).Attempt s.devices tx.packetId tx.events (.error e) :=
    List.forall_mem_append.mpr ⟨h.failed, List.forall_mem_singleton.mpr ⟨cause, h.final⟩⟩
  have devices := h.devices_eq
  refine ⟨encoded, earlier ++ [last], granted, h.run, h.sound, length, ?_, ?_, ?_⟩
  · rw [← fresh.forgetLogons_eq]
    exact h.forgetLogons_eq rfl
  · cases asked : lastAsked? (earlier ++ [last]) with
    | none =>
      rw [asked] at devices
      change s'.devices = s.devices at devices
      rw [devices]
      intro d member
      simp [fresh.unmarked d member]
    | some tx =>
      rw [asked] at devices
      intro d member
      obtain ⟨d, -, rfl⟩ := List.mem_map.mp (devices ▸ member)
      simp [Device.judged, logon]
  · intro tx asked accepted
    obtain ⟨member, sent⟩ := mem_of_lastAsked asked
    obtain ⟨e, attempt⟩ := refused tx member
    exact attempt.of_error rfl sent fresh.distinct accepted

/-- Two devices are discovered. The first accepts the password every time, the second never answers;
the logon fails, and the first is marked. -/
theorem marked_after_failed_logOn_silence :
    let answer := fun serial packetId => logonAnswer serial 0 packetId (onLine .user "0000")
    let s₀ := replying
      [[(10, [answer 1 0x8000]), (12, [answer 2 0x8000])], [(10, [answer 1 0x8001])],
        [(10, [answer 1 0x8002])], [(10, [answer 1 0x8003])], [(10, [answer 1 0x8004])]]
    ∃ devices s e s', discover 2 s₀ = .ok devices s ∧ devices ≠ [] ∧
      "0000".toUTF8.toList.length ≤ Password.length ∧ logOn "0000" .user s = .error e s' ∧
      s'.devices.map Device.authenticated = [true, false] ∧
      ∃ encoded ts, Run s ts s' ∧
        ∀ tx ∈ lastAsked? ts, (∃ d ∈ devices, grants encoded tx.replies d.serial = true) →
          (∃ d ∈ devices, hasAnswered tx.replies d.serial = false) ∨
            ∃ d cause, devices = [d] ∧
              .wrote d.address ((s.logon .user encoded).acknowledgement d tx.packetId)
                (.error cause) ∈ tx.events := by
  intro answer s₀
  generalize started : s₀ = before
  have listed : (Outcome.result (discover 2 before)).toOption =
      some [⟨1, 0x83, .zero, false⟩, ⟨2, 0x83, .zero, false⟩] := by
    subst started
    decide +kernel
  have discovered := Outcome.eq_ok_of_result listed
  have short : "0000".toUTF8.toList.length ≤ Password.length := by decide +kernel
  have ended : let outcome : Outcome _ _ := logOn "0000" .user (Outcome.state (discover 2 before))
      (outcome.result.toOption, outcome.state.devices.map Device.authenticated) =
        (none, [true, false]) := by
    subst started
    decide +kernel
  cases ran : logOn "0000" .user (Outcome.state (discover 2 before)) with
  | ok _ t =>
    rw [ran] at ended
    cases ended
  | error e t =>
    rw [ran] at ended
    obtain ⟨encoded, ts, -, run, -, -, -, -, why⟩ :=
      marked_after_failed_logOn discovered (by simp) short ran
    have marks := (Prod.mk.inj ended).2
    exact ⟨_, _, e, t, discovered, by simp, short, ran, marks, encoded, ts, run, why⟩

end Session

end SolarTelemetry
