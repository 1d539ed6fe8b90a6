import SolarTelemetry.Proofs.Message.RoundTrip
import SolarTelemetry.Proofs.Session.Marks

/-!
# Attempts to log on

An attempt to log on goes one of four ways: its request is not sent, a device stays silent, all
answer, or the only one answers and is sent an acknowledgement. It succeeds if all have answered and
one of them has accepted, and what it leaves in the table are the marks that its answers give.
-/

namespace SolarTelemetry

namespace Session

@[simp] theorem repliesIn_acceptances (answers : List (Address × Reply)) :
    repliesIn (acceptances answers) = answers.map Prod.snd := by
  induction answers with
  | nil => rfl
  | cons answer rest ih => exact congrArg (answer.2 :: ·) ih

@[simp] theorem writesIn_acceptances (answers : List (Address × Reply)) :
    writesIn (acceptances answers) = [] := by
  induction answers with
  | nil => rfl
  | cons answer rest ih => exact ih

/-- Whether some device has accepted the password. -/
def verdict (password : Bytes) (table : List Device) (replies : List Reply) : Except Error Unit :=
  if table.any fun d => grants password replies d.serial then .ok ()
  else .error (.authenticationFailed .rejectedByAll)

end Session

/-- What a logon puts into its messages. -/
structure Logon where
  who : UserGroup
  password : Bytes
  now : UInt32
  ownSerial : UInt32

namespace Logon

open Session

def request (l : Logon) (packetId : UInt16) : Bytes :=
  (logonRequest .any logonCommand l.who l.now l.password).encode l.ownSerial packetId

def acknowledgement (l : Logon) (d : Device) (packetId : UInt16) : Bytes :=
  Request.encode
    { logonRequest d.target logonAcknowledgement l.who l.now l.password with
      control := .unsolicited }
    l.ownSerial packetId

/-- The ways an attempt to log on goes, with what comes of it. -/
inductive Attempt (l : Logon) (table : List Device) (packetId : UInt16) :
    List Event → Except Error Unit → Prop where
  | unsent {e} :
      Attempt l table packetId [.wrote .broadcast (l.request packetId) (.error e)] (.error e)
  | silent {answers e} :
      ((table.map Device.serial).Nodup →
        ∃ d ∈ table, hasAnswered (answers.map Prod.snd) d.serial = false) →
      Attempt l table packetId
        (.wrote .broadcast (l.request packetId) (.ok ()) :: acceptances answers) (.error e)
  | answered {answers} : (∀ d ∈ table, hasAnswered (answers.map Prod.snd) d.serial) →
      table.length ≠ 1 →
      Attempt l table packetId
        (.wrote .broadcast (l.request packetId) (.ok ()) :: acceptances answers)
        (verdict l.password table (answers.map Prod.snd))
  | acknowledged {answers d result} : table = [d] →
      hasAnswered (answers.map Prod.snd) d.serial →
      Attempt l table packetId
        (.wrote .broadcast (l.request packetId) (.ok ()) ::
          (acceptances answers ++ [.wrote d.address (l.acknowledgement d packetId) result]))
        (do result; verdict l.password table (answers.map Prod.snd))

section

variable {l : Logon} {table : List Device} {packetId : UInt16} {events : List Event}
  {result : Except Error Unit}

theorem exists_grants_of_verdict {password : Bytes} {replies : List Reply}
    (passed : verdict password table replies = .ok ()) :
    ∃ d ∈ table, grants password replies d.serial := by
  unfold verdict at passed
  split at passed
  · next some => exact List.any_eq_true.mp some
  · cases passed

theorem not_grants_of_verdict {password : Bytes} {replies : List Reply} {e : Error}
    (failed : verdict password table replies = .error e) :
    ∀ d ∈ table, grants password replies d.serial = false := by
  unfold verdict at failed
  split at failed
  · cases failed
  · next none =>
    intro d member
    apply Bool.eq_false_iff.mpr
    exact fun granted => none (List.any_eq_true.mpr ⟨d, member, granted⟩)

/-- An attempt succeeds only if every device has answered and one of them has accepted. -/
theorem Attempt.of_ok (attempt : l.Attempt table packetId events result)
    (passed : result = .ok ()) :
    events.any Event.isSent ∧ (∀ d ∈ table, hasAnswered (repliesIn events) d.serial) ∧
      ∃ d ∈ table, grants l.password (repliesIn events) d.serial := by
  cases attempt with
  | unsent => cases passed
  | silent => cases passed
  | answered all =>
    simp only [repliesIn_cons_wrote, repliesIn_acceptances]
    exact ⟨rfl, all, exists_grants_of_verdict passed⟩
  | @acknowledged answers d sent single heard =>
    simp only [repliesIn_append, repliesIn_cons_wrote, repliesIn_acceptances, repliesIn_nil,
      List.append_nil]
    refine ⟨rfl, ?_, ?_⟩
    · intro other member
      rw [single, List.mem_singleton] at member
      rwa [member]
    · cases sent with
      | ok => exact exists_grants_of_verdict passed
      | error e => cases passed

/-- An attempt that fails although a device has accepted has met with a silent device, or could not
send the acknowledgement. -/
theorem Attempt.of_error (attempt : l.Attempt table packetId events result) {e : Error}
    (failed : result = .error e) (asked : events.any Event.isSent)
    (distinct : (table.map Device.serial).Nodup)
    (granted : ∃ d ∈ table, grants l.password (repliesIn events) d.serial) :
    (∃ d ∈ table, hasAnswered (repliesIn events) d.serial = false) ∨
      ∃ d cause, table = [d] ∧
        .wrote d.address (l.acknowledgement d packetId) (.error cause) ∈ events := by
  cases attempt with
  | unsent => cases asked
  | silent silence =>
    simp only [repliesIn_cons_wrote, repliesIn_acceptances]
    exact .inl (silence distinct)
  | answered =>
    simp only [repliesIn_cons_wrote, repliesIn_acceptances] at granted
    obtain ⟨d, member, accepted⟩ := granted
    rw [not_grants_of_verdict failed d member] at accepted
    cases accepted
  | @acknowledged answers d sent single heard =>
    cases sent with
    | error cause => exact .inr ⟨d, cause, single, by simp⟩
    | ok =>
      simp only [repliesIn_append, repliesIn_cons_wrote, repliesIn_acceptances, repliesIn_nil,
        List.append_nil] at granted
      obtain ⟨d, member, accepted⟩ := granted
      rw [not_grants_of_verdict failed d member] at accepted
      cases accepted

/-- An attempt that could not send something comes to that. -/
theorem Attempt.of_unsent (attempt : l.Attempt table packetId events result)
    {destination : Address} {payload : Bytes} {e : Error}
    (unsent : .wrote destination payload (.error e) ∈ events) : result = .error e := by
  have accepting {answers : List (Address × Reply)} :
      Event.wrote destination payload (.error e) ∉ acceptances answers := by
    intro member
    obtain ⟨_, -, other⟩ := List.mem_map.mp member
    cases other
  cases attempt with
  | unsent =>
    cases List.mem_singleton.mp unsent
    rfl
  | silent | answered =>
    rcases List.mem_cons.mp unsent with first | later
    · cases first
    · exact absurd later accepting
  | acknowledged =>
    rcases List.mem_cons.mp unsent with first | later
    · cases first
    · rcases List.mem_append.mp later with answer | last
      · exact absurd answer accepting
      · cases List.mem_singleton.mp last
        rfl

/-- A device that is alone is sent one acknowledgement if it has answered, and none otherwise. -/
theorem Attempt.writes_of_single {d : Device} (attempt : l.Attempt table packetId events result)
    (single : table = [d]) :
    writesIn events = (.broadcast, l.request packetId) ::
      if hasAnswered (repliesIn events) d.serial then [(d.address, l.acknowledgement d packetId)]
      else [] := by
  cases attempt with
  | unsent => rfl
  | silent silence =>
    subst single
    obtain ⟨other, member, unheard⟩ := silence (List.pairwise_singleton _ _)
    rw [List.mem_singleton.mp member] at unheard
    simp [unheard]
  | answered _ several =>
    subst single
    exact absurd rfl several
  | acknowledged also heard =>
    obtain rfl := List.singleton_inj.mp (single.symm.trans also)
    simp [writesIn_append, repliesIn_append, heard]

/-- Where there are several devices, or none, only the request is written. -/
theorem Attempt.writes_of_several (attempt : l.Attempt table packetId events result)
    (several : table.length ≠ 1) : writesIn events = [(.broadcast, l.request packetId)] := by
  cases attempt with
  | unsent => rfl
  | silent | answered => simp
  | acknowledged single => exact absurd (congrArg List.length single) several

theorem length_encode_logonRequest (target : Target) (command : UInt32) (who : UserGroup)
    (now : UInt32) {password : Bytes} (padded : password.length = 12) (control : Control)
    (ownSerial : UInt32) (packetId : UInt16) :
    (Request.encode { logonRequest target command who now password with control } ownSerial
      packetId).length = 56 := by
  have body : (logonRequest target command who now password).body.length = 32 := by
    simp [logonRequest, Request.words, Request.word, Request.octets, Bytes.length_ofWord32, padded]
  rw [Request.length_encode, Request.padding, Header.length, body]

/-- What an attempt writes is short. -/
theorem Attempt.length_of_mem_writes (attempt : l.Attempt table packetId events result)
    (padded : l.password.length = 12) : ∀ posting ∈ writesIn events, posting.2.length = 56 := by
  have request : (l.request packetId).length = 56 :=
    length_encode_logonRequest .any logonCommand l.who l.now padded .request l.ownSerial packetId
  cases attempt with
  | unsent => exact List.forall_mem_singleton.mpr request
  | silent | answered =>
    rw [writesIn_cons_wrote, writesIn_acceptances]
    exact List.forall_mem_singleton.mpr request
  | @acknowledged answers d =>
    rw [writesIn_cons_wrote, writesIn_append, writesIn_acceptances]
    refine List.forall_mem_cons.mpr ⟨request, List.forall_mem_singleton.mpr ?_⟩
    exact length_encode_logonRequest d.target logonAcknowledgement l.who l.now padded .unsolicited
      l.ownSerial packetId

end

/-- The marks that an attempt leaves: those that its answers give, if it came so far as to ask. -/
def marks (l : Logon) (table : List Device) (events : List Event) (before : List Device) :
    List Device :=
  if events.any Event.isSent then table.map (Device.judged l.password (repliesIn events))
  else before

end Logon

namespace Session

variable {σ : Type}

/-- What a session would put into the messages of a logon. -/
def logon (who : UserGroup) (password : Bytes) (s : Session σ) : Logon :=
  ⟨who, password, Calendar.unixSeconds s.wallClock, s.ownSerial⟩

section

variable {password : String} {who : UserGroup} {s : Session σ}

/-- Why a logon is refused before anything is sent, if it is. -/
def logonRefusal? (password : String) (who : UserGroup) (s : Session σ) : Option Error :=
  if s.devices.isEmpty then some (.authenticationFailed .noDevices)
  else
    match Password.encode who password with
    | .error e => some (.authenticationFailed e)
    | .ok _ => none

theorem encoded_of_logonRefusal (allowed : logonRefusal? password who s = none) :
    s.devices ≠ [] ∧ ∃ encoded, Password.encode who password = .ok encoded := by
  unfold logonRefusal? at allowed
  split at allowed
  · cases allowed
  · next some =>
    split at allowed
    · cases allowed
    · next encoded granted => exact ⟨mt List.isEmpty_iff.mpr some, encoded, granted⟩

end

theorem verdict_eq {password : Bytes} {table : List Device} {replies : List Reply} {s : Session σ}
    (marked : s.devices = table.map (Device.judged password replies)) :
    (do unless (← get).devices.any (·.authenticated) do
          throw (.authenticationFailed .rejectedByAll) : Action (Session σ) Unit) s =
      Action.ofExcept (verdict password table replies) s := by
  have any : s.devices.any (·.authenticated) =
      table.any fun d => grants password replies d.serial := by
    rw [marked, List.any_map]
    rfl
  unfold verdict
  rw [← any]
  change (if s.devices.any (·.authenticated) then pure ()
    else throw (.authenticationFailed .rejectedByAll) : Action (Session σ) Unit) s = _
  split <;> rfl

theorem heard_nil (password : Bytes) {table : List Device} {s : Session σ}
    (same : forgetLogons s.devices = forgetLogons table) :
    Heard password table [] [] { s with devices := forgetLogons s.devices } :=
  ⟨same, by simp [hasAnswered], List.nodup_nil⟩

variable [Channel σ]

section

variable {l : Logon} {packetId : UInt16} {table : List Device} {replies : List Reply}
  {s : Session σ}

/-- What an attempt to log on does once every device has answered. -/
def conclude (l : Logon) (packetId : UInt16) : Action (Session σ) Unit := do
  acknowledgeLogon l.who l.now l.password packetId
  unless (← get).devices.any (·.authenticated) do
    throw (.authenticationFailed .rejectedByAll)

theorem acknowledgeLogon_eq (own : s.ownSerial = l.ownSerial) :
    acknowledgeLogon l.who l.now l.password packetId s =
      (match s.devices with
        | [d] => write (l.acknowledgement d packetId) d.address
        | _ => pure () : Action (Session σ) Unit) s := by
  unfold acknowledgeLogon Logon.acknowledgement
  rw [Action.get_bind, ← own]
  match s.devices with
  | [] => rfl
  | [_] => rfl
  | _ :: _ :: _ => rfl

theorem conclude_of_single {d : Device} (single : table = [d]) (own : s.ownSerial = l.ownSerial)
    (marked : s.devices = table.map (Device.judged l.password replies)) :
    conclude l packetId s =
      (write (l.acknowledgement d packetId) d.address >>= fun _ =>
        .ofExcept (verdict l.password table replies)) s := by
  have acknowledging : acknowledgeLogon l.who l.now l.password packetId s =
      write (l.acknowledgement d packetId) d.address s := by
    rw [acknowledgeLogon_eq own, marked, single]
    rfl
  obtain ⟨stream, same⟩ := exists_stream_of_write (l.acknowledgement d packetId) d.address s
  unfold conclude
  cases sent : write (l.acknowledgement d packetId) d.address s with
  | error e t =>
    rw [sent] at acknowledging
    rw [Action.bind_of_error acknowledging, Action.bind_of_error sent]
  | ok _ t =>
    rw [sent] at acknowledging
    rw [sent] at same
    rw [Action.bind_of_ok acknowledging, Action.bind_of_ok sent]
    apply verdict_eq
    rw [show t = { s with stream } from same]
    exact marked

theorem conclude_of_several (several : table.length ≠ 1) (own : s.ownSerial = l.ownSerial)
    (marked : s.devices = table.map (Device.judged l.password replies)) :
    conclude l packetId s = Action.ofExcept (verdict l.password table replies) s := by
  have acknowledging : acknowledgeLogon l.who l.now l.password packetId s = .ok () s := by
    rw [acknowledgeLogon_eq own, marked]
    match table, several with
    | [], _ => rfl
    | [_], several => exact absurd rfl several
    | _ :: _ :: _, _ => rfl
  unfold conclude
  rw [Action.bind_of_ok acknowledging]
  exact verdict_eq marked

theorem logOnOnce_of_error {who : UserGroup} {password : Bytes} {t : Session σ} {e : Error}
    (failed : write ((s.logon who password).request packetId) .broadcast s = .error e t) :
    logOnOnce who password packetId s = .error e t := by
  unfold logOnOnce
  rw [Action.get_bind]
  exact Action.bind_of_error failed

theorem logOnOnce_of_ok {who : UserGroup} {password : Bytes} {t : Session σ}
    (sent : write ((s.logon who password).request packetId) .broadcast s = .ok () t) :
    logOnOnce who password packetId s =
      (collectLogons password packetId [] >>= fun _ => conclude (s.logon who password) packetId)
        { t with devices := forgetLogons t.devices } := by
  have forgotten :
      (modify fun s => { s with devices := forgetLogons s.devices } : Action (Session σ) PUnit) t =
        .ok () { t with devices := forgetLogons t.devices } := rfl
  have asked : send (logonRequest .any logonCommand who (Calendar.unixSeconds s.wallClock) password)
      .broadcast packetId s = .ok () t := sent
  unfold logOnOnce
  rw [Action.get_bind, Action.bind_of_ok asked, Action.bind_of_ok forgotten]
  rfl

theorem exists_of_conclude (packetId : UInt16) {answers : List (Address × Reply)}
    (own : s.ownSerial = l.ownSerial)
    (marked : s.devices = table.map (Device.judged l.password (answers.map Prod.snd)))
    (all : ∀ d ∈ table, hasAnswered (answers.map Prod.snd) d.serial) :
    ∃ events, Trace s events (Outcome.state (conclude l packetId s)) ∧
      (∀ event ∈ events, event.BelongsTo packetId) ∧ repliesIn events = [] ∧
      (Outcome.state (conclude l packetId s)).devices = s.devices ∧
      l.Attempt table packetId
        (.wrote .broadcast (l.request packetId) (.ok ()) :: (acceptances answers ++ events))
        (Outcome.result (conclude l packetId s)) := by
  by_cases count : table.length = 1
  · obtain ⟨d, single⟩ := List.length_eq_one_iff.mp count
    obtain ⟨stream, same⟩ := exists_stream_of_write (l.acknowledgement d packetId) d.address s
    rw [conclude_of_single single own marked, Action.state_bind_ofExcept,
      Action.result_bind_ofExcept]
    refine ⟨_, .write (l.acknowledgement d packetId) d.address .refl, ?_, rfl, ?_,
      .acknowledged single (all d (single ▸ List.mem_singleton_self d))⟩
    · exact List.forall_mem_singleton.mpr (Deals.belongsTo_wrote _ _ _ _)
    · rw [same]
  · rw [conclude_of_several count own marked, Action.state_ofExcept, Action.result_ofExcept]
    refine ⟨[], .refl, by simp, rfl, rfl, ?_⟩
    rw [List.append_nil]
    exact .answered all count

/-- The part of an attempt that follows its request. -/
theorem exists_of_collectLogons_conclude (packetId : UInt16) (own : s.ownSerial = l.ownSerial)
    (heard : Heard l.password table [] [] s) :
    let outcome := (collectLogons l.password packetId [] >>= fun _ => conclude l packetId) s
    ∃ events, Trace s events (Outcome.state outcome) ∧
      (∀ event ∈ events, event.BelongsTo packetId) ∧
      (Outcome.state outcome).devices = table.map (Device.judged l.password (repliesIn events)) ∧
      l.Attempt table packetId (.wrote .broadcast (l.request packetId) (.ok ()) :: events)
        (Outcome.result outcome) := by
  obtain ⟨answers, answered, trace, mine, final, enough, few⟩ :=
    exists_of_collectLogons packetId heard
  rw [List.nil_append] at final
  intro outcome
  cases collected : collectLogons l.password packetId [] s with
  | error e t =>
    have ran : outcome = .error e t := Action.bind_of_error collected
    rw [collected] at trace final
    rw [ran]
    refine ⟨_, trace, mine, ?_, .silent ?_⟩
    · rw [repliesIn_acceptances]
      exact final.devices
    · intro distinct
      exact final.exists_silent distinct (few e t collected)
  | ok _ t =>
    have ran : outcome = conclude l packetId t := Action.bind_of_ok collected
    rw [collected] at trace final
    obtain ⟨_, _, left, _⟩ := trace.exists_eq
    change t = _ at left
    have own' : t.ownSerial = l.ownSerial := by
      rw [left]
      exact own
    obtain ⟨events, trace', mine', silent, kept, attempt⟩ :=
      exists_of_conclude packetId own' final.devices (final.all_answered (enough t collected))
    rw [ran]
    refine ⟨_, trace.append trace', ?_, ?_, attempt⟩
    · exact List.forall_mem_append.mpr ⟨mine, mine'⟩
    · rw [kept, repliesIn_append, silent, List.append_nil, repliesIn_acceptances]
      exact final.devices

end

/-- The attempt that logging on makes, with what it writes, what it accepts and the marks it leaves.
The marks from before have no part in it. -/
theorem attempt_of_logOnOnce (who : UserGroup) (password : Bytes) (s : Session σ)
    {table : List Device} {l : Logon} (asking : s.logon who password = l)
    (listed : forgetLogons s.devices = forgetLogons table) (packetId : UInt16) :
    ∃ events, Trace s events (Outcome.state (logOnOnce who password packetId s)) ∧
      (∀ event ∈ events, event.BelongsTo packetId) ∧
      l.Attempt table packetId events (Outcome.result (logOnOnce who password packetId s)) ∧
      (Outcome.state (logOnOnce who password packetId s)).devices =
        l.marks table events s.devices := by
  have unmarked : l.password = password := asking ▸ rfl
  have own : s.ownSerial = l.ownSerial := asking ▸ rfl
  have asked (result) : (Event.wrote .broadcast (l.request packetId) result).BelongsTo packetId :=
    Deals.belongsTo_wrote _ _ _ _
  obtain ⟨stream, same⟩ := exists_stream_of_write (l.request packetId) .broadcast s
  cases sent : write (l.request packetId) .broadcast s with
  | error e t =>
    rw [sent] at same
    subst same
    rw [logOnOnce_of_error (asking ▸ sent)]
    exact ⟨_, .write_of_eq sent .refl, List.forall_mem_singleton.mpr (asked _), .unsent, rfl⟩
  | ok _ t =>
    rw [sent] at same
    subst same
    rw [logOnOnce_of_ok (asking ▸ sent), asking, ← unmarked]
    obtain ⟨events, rest, mine, marked, attempt⟩ :=
      exists_of_collectLogons_conclude (l := l) packetId
        (s := { s with stream, devices := forgetLogons s.devices }) own
        (heard_nil l.password (s := { s with stream }) listed)
    have trace := Trace.write_of_eq sent (.mark (forgetLogons_forgetLogons s.devices) rest)
    exact ⟨_, trace, List.forall_mem_cons.mpr ⟨asked _, mine⟩, attempt, marked⟩

section

variable {password : String} {who : UserGroup} {s : Session σ}

theorem logOn_of_refused {e : Error} (refused : logonRefusal? password who s = some e) :
    logOn password who s = .error e s := by
  unfold logonRefusal? at refused
  unfold logOn
  rw [Action.get_bind]
  split at refused
  · next none =>
    cases refused
    rw [none]
    rfl
  · next some =>
    split at refused
    · next e bad =>
      cases refused
      rw [Bool.eq_false_iff.mpr some, bad]
      rfl
    · cases refused

theorem logOn_of_encoded {encoded : Bytes} (some : s.devices ≠ [])
    (granted : Password.encode who password = .ok encoded) :
    logOn password who s =
      ((withRetries (exchange (logOnOnce who encoded))).mapError asLogonError) s := by
  unfold logOn
  rw [Action.get_bind, granted, List.isEmpty_eq_false_iff.mpr some]
  rfl

end

end Session

end SolarTelemetry
