import SolarTelemetry.Link.Tasks
import SolarTelemetry.Proofs.Link.Handshake
import SolarTelemetry.Proofs.Link.Reassembly

/-!
# The life of a link

However its reader and its caller take turns, and whatever the transport does, a link goes through
its phases in order, fails for good, and is closed only by its caller. The guards of both tasks are
read before they wait and acted on afterwards; `Sound` says why nothing has changed in between.
-/

namespace SolarTelemetry.Link

/-- A write that was taken adds to what was sent and to nothing else. -/
theorem eq_of_transmitOne_ok {p : Packet} {link link' : Link}
    (written : transmitOne p link = .ok () link') :
    ∃ transport octets, link' = { link with transport } ∧
      transport.sent = link.transport.sent ++ [(p.destination, octets)] := by
  unfold transmitOne at written
  cases encoded : p.encode with
  | error e =>
    rw [encoded] at written
    cases written
  | ok octets =>
    simp only [encoded, Action.zoom, Transport.write] at written
    cases refusal : (link.transport.reactions.headD []).findSome? Reaction.refusal? with
    | some reason =>
      simp only [refusal] at written
      cases written
    | none =>
      simp only [refusal] at written
      cases written
      exact ⟨_, octets, rfl, (Transport.sent_foldl_react _ _).1⟩

/-- A write that was refused sends nothing. -/
theorem eq_of_transmitOne_error {p : Packet} {link link' : Link} {e : Error}
    (refused : transmitOne p link = .error e link') :
    ∃ transport, link' = { link with transport } ∧ transport.sent = link.transport.sent := by
  unfold transmitOne at refused
  cases encoded : p.encode with
  | error fault =>
    rw [encoded] at refused
    cases refused
    exact ⟨link.transport, rfl, rfl⟩
  | ok octets =>
    simp only [encoded, Action.zoom, Transport.write] at refused
    cases refusal : (link.transport.reactions.headD []).findSome? Reaction.refusal? with
    | some reason =>
      simp only [refusal] at refused
      cases refused
      exact ⟨_, rfl, rfl⟩
    | none =>
      simp only [refusal] at refused
      cases refused

theorem networkOf?_eq_none_iff {link : Link} {p : Packet} :
    link.networkOf? p = none ↔ (link.phase = .awaitingIdAck → ¬isHello p) := by
  unfold networkOf?
  split
  · next phase command =>
    rw [List.getElem?_eq_none_iff]
    constructor
    · intro short _ hello
      exact absurd (isHello_iff.mp hello).2 (Nat.not_le.mpr (Nat.lt_succ_of_le short))
    · intro other
      by_contra long
      exact other phase (isHello_iff.mpr ⟨command, Nat.not_le.mp long⟩)
  · next other =>
    refine ⟨fun _ phase hello => ?_, fun _ => rfl⟩
    exact other phase (isHello_iff.mp hello).1

/-- How the phase of a link may change, and with which event. -/
inductive Phase.Move : Event → Phase → Phase → Prop
  | stays {e : Event} {phase : Phase} : Move e phase phase
  | begins : Move (.begins .connect) .notConnected .awaitingIdAck
  | joins : Move .quiet .awaitingIdAck .awaitingOwnAddress
  | learns : Move .quiet .awaitingOwnAddress .awaitingDeviceCount
  | lists : Move .quiet .awaitingDeviceCount .deviceListKnown
  | completes : Move (.returns .connect (.ok .done)) .deviceListKnown .connected
  | fails {e : Event} {phase : Phase} (begun : phase.isReading) : Move e phase .failed
  | closes {phase : Phase} (sound : phase ≠ .failed) :
    Move (.returns .close (.ok .done)) phase .notConnected

theorem Phase.isReading_of_ne {phase : Phase} (begun : phase ≠ .notConnected)
    (sound : phase ≠ .failed) : phase.isReading := by
  cases phase with
  | notConnected => exact absurd rfl begun
  | failed => exact absurd rfl sound
  | awaitingIdAck | awaitingOwnAddress | awaitingDeviceCount | deviceListKnown | connected => rfl

theorem Phase.ne_failed_of_isReading {phase : Phase} (begun : phase.isReading) :
    phase ≠ .failed := by
  rintro rfl
  cases begun

theorem bounded_digest {link : Link} (p : Packet) (bounded : link.parts.Bounded) :
    (digest p link).parts.Bounded := by
  by_cases takes : link.phase.takesData
  · intro source
    rw [held_digest takes]
    exact length_joinParts_le (bounded source)
  · have none (last : Bool) : takeData last p link = link := by
      unfold takeData
      rw [Bool.eq_false_iff.mpr takes]
      rfl
    unfold digest
    split
    · unfold noteSignal
      split <;> exact bounded
    · rwa [none]
    · rwa [none]
    · exact bounded

/-- A packet that does not open the handshake takes it one phase on, or is taken as it would be by a
link that carries data. -/
theorem handle_of_plain {p : Packet} {link : Link} (plain : link.networkOf? p = none) :
    handle p link = .ok () (digest p link) ∨
      (link.phase = .awaitingOwnAddress ∧
        ∃ info, handle p link = .ok () { link with info, phase := .awaitingDeviceCount }) ∨
      (link.phase = .awaitingDeviceCount ∧
        ∃ info, handle p link = .ok () { link with info, phase := .deviceListKnown }) := by
  by_cases awaited : link.phase.awaits p
  · right
    cases phase : link.phase with
    | awaitingIdAck =>
      rw [phase] at awaited
      exact absurd awaited (networkOf?_eq_none_iff.mp plain phase)
    | awaitingOwnAddress =>
      rw [phase] at awaited
      exact .inl ⟨rfl, _, handle_announcement phase awaited⟩
    | awaitingDeviceCount =>
      rw [phase] at awaited
      exact .inr ⟨rfl, _, handle_deviceList phase awaited⟩
    | notConnected | deviceListKnown | connected | failed =>
      rw [phase] at awaited
      cases awaited
  · exact .inl (handle_of_not_awaited awaited)

/-- A packet that does not open the handshake moves the link at most one phase on. -/
theorem exists_of_handle {p : Packet} {link : Link} (plain : link.networkOf? p = none) :
    ∃ link', handle p link = .ok () link' ∧ Phase.Move .quiet link.phase link'.phase ∧
      link'.phase.isReading = link.phase.isReading ∧ link'.buffer = link.buffer ∧
      (link.parts.Bounded → link'.parts.Bounded) := by
  rcases handle_of_plain plain with digests | ⟨phase, _, handled⟩ | ⟨phase, _, handled⟩
  · have bounded : link.parts.Bounded → (digest p link).parts.Bounded := bounded_digest p
    obtain ⟨_, _, _, eq⟩ := exists_digest_eq p link
    rw [digests]
    rw [eq] at bounded ⊢
    exact ⟨_, rfl, .stays, rfl, rfl, bounded⟩
  · rw [handled, phase]
    exact ⟨_, rfl, .learns, rfl, rfl, id⟩
  · rw [handled, phase]
    exact ⟨_, rfl, .lists, rfl, rfl, id⟩

/-- Nothing but its caller takes a link out of its connection or completes it. -/
theorem Phase.Move.connecting {phase phase' : Phase} (moves : Phase.Move .quiet phase phase')
    (unfinished : phase ≠ .notConnected ∧ phase ≠ .connected) :
    phase' ≠ .notConnected ∧ phase' ≠ .connected := by
  cases moves with
  | stays => exact unfinished
  | joins | learns | lists | fails => exact ⟨nofun, nofun⟩

theorem Phase.Move.of_failed {e : Event} {phase phase' : Phase} (moves : Phase.Move e phase phase')
    (failed : phase = .failed) : phase' = .failed := by
  cases moves with
  | stays => exact failed
  | fails => rfl
  | closes sound => exact absurd failed sound
  | begins | joins | learns | lists | completes => cases failed

def Phase.handshake : List Phase :=
  [.awaitingIdAck, .awaitingOwnAddress, .awaitingDeviceCount, .deviceListKnown]

/-- What is left of the handshake. -/
def Phase.onward (phase : Phase) : List Phase := handshake.dropWhile (· != phase)

theorem Phase.Move.onward_sublist {phase phase' : Phase} (moves : Phase.Move .quiet phase phase')
    (sound : phase' ≠ .failed) : phase.onward.Sublist (phase :: phase'.onward) := by
  cases moves with
  | stays => exact List.sublist_cons_self _ _
  | joins | learns | lists => exact List.Sublist.refl _
  | fails => exact absurd rfl sound

/-- The reader is answering the packet that opens the handshake. -/
def Reader.isGreeting : Reader → Bool
  | .queueing _ | .answering _ => true
  | _ => false

/-- The caller waits for the handshake, or for the reader after it waited too long. -/
def Caller.isConnecting : Caller → Bool
  | .connecting | .stopping .late => true
  | _ => false

/-- The operation whose packets the caller is writing. -/
def Caller.writes? : Caller → Option Operation
  | .queueing op _ | .sending op _ => some op
  | _ => none

namespace Tasks

open Operation (Answer)

/-- What holds between any two steps. -/
structure Sound (t : Tasks) : Prop where
  running : t.reader ≠ .ended → t.link.phase.isReading
  greeting : t.reader.isGreeting → t.link.phase = .awaitingIdAck
  connecting : t.caller.isConnecting → t.link.phase ≠ .notConnected ∧ t.link.phase ≠ .connected
  broken : t.caller = .stopping .broken → t.link.phase = .failed
  writing : ∀ op, t.caller.writes? = some op → op.isUse

theorem sound_new (transport : Transport) : (new transport).Sound where
  running ended := absurd rfl ended
  greeting := nofun
  connecting := nofun
  broken := nofun
  writing := nofun

variable {t next : Tasks} {e : Event}

/-- One step keeps what holds, and moves the link as it may. -/
theorem Sound.step (sound : t.Sound) (step : Step t e next) :
    next.Sound ∧ Phase.Move e t.link.phase next.link.phase := by
  have begun {reader : Reader} (stands : t.reader = reader) (running : reader ≠ .ended) :
      t.link.phase.isReading := sound.running (stands ▸ running)
  -- A link that fails under its reader.
  have ends {link : Link} (reads : t.link.phase.isReading) (failed : link.phase = .failed) :
      Sound { t with link, reader := .ended } ∧ Phase.Move .quiet t.link.phase link.phase := by
    refine ⟨⟨fun running => absurd rfl running, nofun, ?_, fun _ => failed, sound.writing⟩, ?_⟩
    · intro _
      rw [failed]
      exact ⟨nofun, nofun⟩
    · rw [failed]
      exact .fails reads
  cases step with
  | world =>
    exact ⟨⟨sound.running, sound.greeting, sound.connecting, sound.broken, sound.writing⟩, .stays⟩
  | goOn stands | lapse stands | arrive stands | drained stands =>
    have reads := begun stands nofun
    exact ⟨⟨fun _ => reads, nofun, sound.connecting, sound.broken, sound.writing⟩, .stays⟩
  | halt stands =>
    refine ⟨⟨?_, nofun, sound.connecting, sound.broken, sound.writing⟩, .stays⟩
    exact fun running => absurd rfl running
  | breakDown stands | malformed stands => exact ends (begun stands nofun) rfl
  | @packet p rest link stands decoded plain handled =>
    have reads := begun stands nofun
    obtain ⟨link', eq, moves, still, -⟩ := @exists_of_handle p { t.link with buffer := rest } plain
    obtain rfl : link' = link := by
      rw [eq] at handled
      cases handled
      rfl
    refine ⟨⟨fun _ => still.trans reads, ?_, ?_, ?_, sound.writing⟩, moves⟩
    · intro greets
      rw [stands] at greets
      cases greets
    · exact fun waits => moves.connecting (sound.connecting waits)
    · exact fun waits => absurd (sound.broken waits) (Phase.ne_failed_of_isReading reads)
  | @hello p rest netId stands decoded names =>
    have phase : t.link.phase = .awaitingIdAck := by
      by_contra other
      have none : t.link.networkOf? p = none :=
        networkOf?_eq_none_iff.mpr fun phase => absurd phase other
      rw [none] at names
      cases names
    have reads := begun stands nofun
    exact ⟨⟨fun _ => reads, fun _ => phase, sound.connecting, sound.broken, sound.writing⟩, .stays⟩
  | turn stands =>
    have phase := sound.greeting (by rw [stands]; rfl)
    have reads := begun stands nofun
    exact ⟨⟨fun _ => reads, fun _ => phase, sound.connecting, sound.broken, sound.writing⟩, .stays⟩
  | answered stands written =>
    -- The phase that was read before the answer was written is still that of the link.
    have phase := sound.greeting (by rw [stands]; rfl)
    obtain ⟨transport, octets, rfl, -⟩ := eq_of_transmitOne_ok written
    refine ⟨⟨fun _ => rfl, nofun, fun _ => ⟨nofun, nofun⟩, ?_, sound.writing⟩, ?_⟩
    · intro waits
      rw [sound.broken waits] at phase
      cases phase
    · rw [phase]
      exact .joins
  | unanswered stands => exact ends (begun stands nofun) rfl
  | refuseConnect | refuse => exact ⟨sound, .stays⟩
  | connect free phase =>
    refine ⟨⟨fun _ => rfl, nofun, fun _ => ⟨nofun, nofun⟩, nofun, nofun⟩, ?_⟩
    rw [phase]
    exact .begins
  | connected stands phase =>
    refine ⟨⟨fun _ => rfl, ?_, nofun, nofun, nofun⟩, ?_⟩
    · intro greets
      rw [sound.greeting greets] at phase
      cases phase
    · rw [phase]
      exact .completes
  | noticeFailure stands phase =>
    exact ⟨⟨sound.running, sound.greeting, nofun, fun _ => phase, nofun⟩, .stays⟩
  | giveUp stands =>
    have unfinished := sound.connecting (by rw [stands]; rfl)
    exact ⟨⟨sound.running, sound.greeting, fun _ => unfinished, nofun, nofun⟩, .stays⟩
  | late stands ended =>
    have unfinished := sound.connecting (by rw [stands]; rfl)
    refine ⟨⟨fun running => absurd ended running, ?_, nofun, nofun, nofun⟩, ?_⟩
    · intro greets
      rw [ended] at greets
      cases greets
    · by_cases failed : t.link.phase = .failed
      · rw [failed]
        exact .stays
      · exact .fails (Phase.isReading_of_ne unfinished.1 failed)
  | closed stands ended =>
    refine ⟨⟨fun running => absurd ended running, ?_, nofun, nofun, nofun⟩, ?_⟩
    · intro greets
      rw [ended] at greets
      cases greets
    · by_cases failed : t.link.phase = .failed
      · rw [if_pos failed]
        exact .stays
      · rw [if_neg failed]
        exact .closes failed
  | startSending stands =>
    have use := sound.writing _ (by rw [stands]; rfl)
    refine ⟨⟨sound.running, sound.greeting, nofun, nofun, ?_⟩, .stays⟩
    rintro op ⟨⟩
    exact use
  | send stands written =>
    obtain ⟨transport, octets, rfl, -⟩ := eq_of_transmitOne_ok written
    have use := sound.writing _ (by rw [stands]; rfl)
    refine ⟨⟨sound.running, sound.greeting, nofun, nofun, ?_⟩, .stays⟩
    rintro op ⟨⟩
    exact use
  | unsent stands refused =>
    obtain ⟨transport, rfl, -⟩ := eq_of_transmitOne_error refused
    exact ⟨⟨sound.running, sound.greeting, nofun, nofun, nofun⟩, .stays⟩
  | write | signalStrength =>
    refine ⟨⟨sound.running, sound.greeting, nofun, nofun, ?_⟩, .stays⟩
    rintro op ⟨⟩
    rfl
  | broken | close | read | written | asked | receive | receiveFailure | receiveNothing | hear
  | hearNothing =>
    exact ⟨⟨sound.running, sound.greeting, nofun, nofun, nofun⟩, .stays⟩

variable {last : Tasks} {trace : List (Event × Tasks)}

theorem Run.append {u : Tasks} {others : List (Event × Tasks)} (run : Run t trace u)
    (rest : Run u others last) : Run t (trace ++ others) last := by
  induction run with
  | nil => exact rest
  | cons step run ih => exact .cons step (ih rest)

theorem Reached.step (reached : t.Reached) (step : Step t e next) : next.Reached := by
  obtain ⟨transport, trace, run⟩ := reached
  exact ⟨transport, _, run.append (.cons step .nil)⟩

/-- What every step keeps, a run keeps. -/
theorem Run.keeps {holds : Tasks → Prop}
    (kept : ∀ {t e next}, holds t → Step t e next → holds next) (run : Run t trace last)
    (first : holds t) : holds last := by
  induction run with
  | nil => exact first
  | cons step rest ih => exact ih (kept first step)

theorem Run.sound (run : Run t trace last) (first : t.Sound) : last.Sound :=
  run.keeps (fun sound step => (sound.step step).1) first

theorem Reached.sound (reached : t.Reached) : t.Sound := by
  obtain ⟨transport, trace, run⟩ := reached
  exact run.sound (sound_new transport)

theorem Run.failed (run : Run t trace last) (sound : t.Sound) (failed : t.link.phase = .failed) :
    last.link.phase = .failed := by
  induction run with
  | nil => exact failed
  | cons step rest ih =>
    obtain ⟨still, moves⟩ := sound.step step
    exact ih still (moves.of_failed failed)

theorem Sound.ended (sound : t.Sound) (failed : t.link.phase = .failed) : t.reader = .ended := by
  by_contra running
  have reads := sound.running running
  rw [failed] at reads
  cases reads

/-- A link that has failed under a caller who is writing nothing. -/
structure Spent (t : Tasks) : Prop where
  sound : t.Sound
  failed : t.link.phase = .failed
  unwritten : t.caller.writes? = none

theorem Spent.fault? (spent : t.Spent) : t.link.fault? = some t.link.failureError := by
  unfold Link.fault?
  rw [spent.failed]

/-- There is no reader anymore, and nothing that would write is begun. -/
theorem Spent.step (spent : t.Spent) (step : Step t e next) :
    next.Spent ∧ next.link.transport.sent = t.link.transport.sent := by
  obtain ⟨sound, moves⟩ := spent.sound.step step
  have failed : next.link.phase = .failed := moves.of_failed spent.failed
  have reader {reader : Reader} (stands : t.reader = reader) (running : reader ≠ .ended) : False :=
    running (stands ▸ spent.sound.ended spent.failed)
  have writer {op : Operation} (stands : t.caller.writes? = some op) : False := by
    rw [spent.unwritten] at stands
    cases stands
  have user (usable : t.link.fault? = none) : False := by
    rw [spent.fault?] at usable
    cases usable
  cases step with
  | world same => exact ⟨⟨sound, failed, spent.unwritten⟩, same⟩
  | goOn stands | halt stands | lapse stands | arrive stands | breakDown stands | drained stands
  | malformed stands | packet stands | hello stands | turn stands | answered stands
  | unanswered stands => exact (reader stands nofun).elim
  | refuseConnect | refuse => exact ⟨spent, rfl⟩
  | connect free phase =>
    rw [spent.failed] at phase
    cases phase
  | write free usable | signalStrength free usable | read free usable => exact (user usable).elim
  | startSending stands | send stands | unsent stands | written stands | asked stands =>
    exact (writer (congrArg Caller.writes? stands)).elim
  | closed =>
    refine ⟨⟨sound, failed, rfl⟩, ?_⟩
    rw [if_pos spent.failed]
  | connected | noticeFailure | giveUp | broken | late | close | receive | receiveFailure
  | receiveNothing | hear | hearNothing => exact ⟨⟨sound, failed, rfl⟩, rfl⟩

theorem Run.spent (run : Run t trace last) (spent : t.Spent) :
    last.Spent ∧ last.link.transport.sent = t.link.transport.sent := by
  induction run with
  | nil => exact ⟨spent, rfl⟩
  | cons step rest ih =>
    obtain ⟨still, silent⟩ := spent.step step
    obtain ⟨atLast, unsent⟩ := ih still
    exact ⟨atLast, unsent.trans silent⟩

/-- No phase of a handshake that comes to its end is left out. -/
theorem Run.onward_sublist (run : Run t trace last) (quiet : ∀ x ∈ trace, x.1 = .quiet)
    (sound : t.Sound) (known : last.link.phase = .deviceListKnown) :
    t.link.phase.onward.Sublist ((t :: trace.map Prod.snd).map (·.link.phase)) := by
  induction run with
  | @nil t =>
    change t.link.phase.onward.Sublist [t.link.phase]
    rw [known]
    exact List.Sublist.refl _
  | @cons t next last e trace step rest ih =>
    obtain ⟨still, moves⟩ := sound.step step
    obtain rfl : e = .quiet := quiet _ List.mem_cons_self
    have unbroken : next.link.phase ≠ .failed := by
      intro failed
      rw [rest.failed still failed] at known
      cases known
    have later := ih (fun x member => quiet x (List.mem_cons_of_mem _ member)) still known
    exact (moves.onward_sublist unbroken).trans (later.cons_cons _)

/-- Of no sender more is ever held than may be joined. -/
theorem Reached.bounded (reached : t.Reached) : t.link.parts.Bounded := by
  obtain ⟨transport, trace, run⟩ := reached
  have start : (new transport).link.parts.Bounded := Parts.bounded_nil
  refine run.keeps (fun {t e next} (bounded : t.link.parts.Bounded) step => ?_) start
  cases step with
  | @packet p rest link stands decoded plain handled =>
    obtain ⟨link', eq, -, -, -, still⟩ := @exists_of_handle p { t.link with buffer := rest } plain
    rw [eq] at handled
    cases handled
    exact still bounded
  | connect => exact Parts.bounded_nil
  | answered stands written | send stands written =>
    obtain ⟨transport, octets, rfl, -⟩ := eq_of_transmitOne_ok written
    exact bounded
  | unanswered stands refused | unsent stands refused =>
    obtain ⟨transport, rfl, -⟩ := eq_of_transmitOne_error refused
    exact bounded
  | closed =>
    change Parts.Bounded (if t.link.phase = .failed then t.link else _).parts
    split <;> exact bounded
  | _ => exact bounded

/-- What whoever uses a link may rely on in a state. -/
structure LifeCycle (t : Tasks) : Prop where
  moves : ∀ e next, Step t e next → Phase.Move e t.link.phase next.link.phase
  /-- Connecting an unused link completes the handshake or fails the link. -/
  connects : ∀ e start trace u result last, t.link.phase = .notConnected →
    Step t e start → e.started? = some .connect →
    Run start trace u → (∀ x ∈ trace, x.1 = .quiet) → Step u (.returns .connect result) last →
    match result with
    | .ok _ => last.link.phase = .connected ∧
        Phase.handshake.Sublist ((start :: trace.map Prod.snd).map (·.link.phase))
    | .error _ => last.link.phase = .failed
  /-- Any other link is not connected again. -/
  connectsOnce : ∀ e next, t.link.phase ≠ .notConnected →
    Step t e next → e.started? = some .connect →
    e = .refuses .connect (.link (.connecting t.link.phase)) ∧ next = t
  remains : ∀ trace last, t.link.phase = .failed → Run t trace last → last.link.phase = .failed
  /-- A link that has failed refuses everything but to be closed. -/
  refuses : ∀ op e next, t.link.phase = .failed → op ≠ .close →
    Step t e next → e.started? = some op → ∃ cause, e = .refuses op (.link cause) ∧ next = t
  answers : ∀ op, t.link.phase = .failed → op ≠ .close → t.caller = .idle →
    ∃ cause, Step t (.refuses op (.link cause)) t
  /-- Nothing is sent over it anymore, whatever is asked of it. -/
  silent : ∀ trace last, t.link.phase = .failed → t.caller = .idle → Run t trace last →
    last.link.transport.sent = t.link.transport.sent

/-- A connection that was begun either stands, after the whole handshake, or has failed. -/
theorem connects {start u : Tasks} {result : Except Error Answer} (sound : start.Sound)
    (begun : start.link.phase = .awaitingIdAck) (run : Run start trace u)
    (quiet : ∀ x ∈ trace, x.1 = .quiet) :
    Step u (.returns .connect result) last →
    match result with
    | .ok _ => last.link.phase = .connected ∧
        Phase.handshake.Sublist ((start :: trace.map Prod.snd).map (·.link.phase))
    | .error _ => last.link.phase = .failed := by
  intro returns
  have still := run.sound sound
  cases returns with
  | connected stands known =>
    have whole := run.onward_sublist quiet sound known
    rw [begun] at whole
    exact ⟨rfl, whole⟩
  | broken stands ended => exact still.broken stands
  | late stands ended => rfl
  | unsent stands refused =>
    have use := still.writing .connect (congrArg Caller.writes? stands)
    cases use

theorem Reached.lifeCycle (reached : t.Reached) : t.LifeCycle where
  moves e next step := (reached.sound.step step).2
  connects e start trace u result last phase step starts run quiet returns := by
    have sound := (reached.sound.step step).1
    cases step with
    | connect => exact Tasks.connects sound rfl run quiet returns
    | refuseConnect free other => exact absurd phase other
    | refuse free use =>
      cases starts
      cases use
    | _ => cases starts
  connectsOnce e next phase step starts := by
    cases step with
    | refuseConnect => exact ⟨rfl, rfl⟩
    | connect free unused => exact absurd unused phase
    | refuse free use =>
      cases starts
      cases use
    | _ => cases starts
  remains trace last failed run := run.failed reached.sound failed
  refuses op e next failed other step starts := by
    cases step with
    | refuseConnect =>
      cases starts
      exact ⟨_, rfl, rfl⟩
    | refuse free use fault =>
      cases starts
      rw [fault?, failed] at fault
      cases fault
      exact ⟨_, rfl, rfl⟩
    | connect free unused =>
      rw [failed] at unused
      cases unused
    | write free usable | signalStrength free usable | read free usable =>
      rw [fault?, failed] at usable
      cases usable
    | close =>
      cases starts
      exact absurd rfl other
    | _ => cases starts
  answers op failed other free := by
    have fault : t.link.fault? = some t.link.failureError := by
      rw [fault?, failed]
    cases op with
    | connect => exact ⟨_, .refuseConnect free (by rw [failed]; nofun)⟩
    | close => exact absurd rfl other
    | write | read | signalStrength => exact ⟨_, .refuse free rfl fault⟩
  silent trace last failed free run := by
    have spent : t.Spent := ⟨reached.sound, failed, by rw [free]; rfl⟩
    exact (run.spent spent).2

/-- A link that has been through the whole of it. -/
theorem Reached.lifeCycle_connected :
    let peer : Address := ⟨[0x00, 0x80, 0x25, 0x00, 0x00, 0x01], rfl⟩
    let own : Address := ⟨[0x00, 0x80, 0x25, 0x00, 0x00, 0x09], rfl⟩
    ∃ t : Tasks, t.Reached ∧ t.link.phase = .connected ∧ t.link.info.ownAddress = own ∧
      t.link.transport.sent.map Prod.fst = [peer] ∧ t.LifeCycle := by
  intro peer own
  let hello : Packet := .of .idExchange peer .zero [0, 4, 0x70, 0, 3]
  let addresses : Packet := .of .address peer own (peer.wire ++ [1] ++ own.wire)
  let list : Packet := .of .topology peer own (peer.wire ++ [2, 1])
  let listed := list.layout ++ []
  let addressed := addresses.layout ++ listed
  let transport : Transport := { arrivals := [⟨0, .octets (hello.layout ++ addressed)⟩] }
  have unused : (new transport).Reached := ⟨transport, [], .nil⟩
  have begun := unused.step (.connect rfl rfl)
  have reads := begun.step (.goOn rfl rfl)
  have arrived := reads.step (@Step.arrive _ 500 _ _ rfl rfl)
  have greeted := arrived.step (@Step.hello _ hello addressed 3 rfl
    (Packet.decode_layout_append (by decide) addressed) rfl)
  have answers := greeted.step (.turn rfl rfl)
  have answered := answers.step (.answered rfl rfl)
  have learnt := answered.step (@Step.packet _ addresses listed _ rfl
    (Packet.decode_layout_append (by decide) listed) rfl (handle_announcement rfl (by decide)))
  have known := learnt.step (@Step.packet _ list [] _ rfl
    (Packet.decode_layout_append (by decide) []) rfl (handle_deviceList rfl (by decide)))
  have connected := known.step (.connected rfl rfl)
  exact ⟨_, connected, rfl, rfl, rfl, connected.lifeCycle⟩

end Tasks

end SolarTelemetry.Link
