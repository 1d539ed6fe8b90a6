import Mathlib.Logic.Relation
import SolarTelemetry.Proofs.Link.LifeCycle

/-!
# Operations as runs

An operation that runs on its own lets the reader take every arrival before the caller goes on. That
is one way for the two to take turns: what comes of the operation, and the link it leaves, are those
of a run.
-/

namespace SolarTelemetry.Link

open Operation (Answer)

def perform : Operation → Action Link Answer
  | .connect => do
    connect
    return .done
  | .write payload destination => do
    write payload destination
    return .done
  | .read wait => do return .received (← read wait)
  | .signalStrength peer => do return .strength (← signalStrength peer)
  | .close => do
    modify close
    return .done

/-- What is done with a link, one after the other. -/
inductive Use where
  | perform (op : Operation)
  | sleep (ms : Nat)

def use (link : Link) : Use → Link
  | .perform op => Outcome.state (perform op link)
  | .sleep ms => sleep ms link

theorem use_read (wait : Nat) (link : Link) :
    link.use (.perform (.read wait)) = Outcome.state (read wait link) :=
  Action.state_map _ (read wait) link

theorem use_write (payload : Bytes) (destination : Address) (link : Link) :
    link.use (.perform (.write payload destination)) =
      Outcome.state (write payload destination link) :=
  Action.state_map _ (write payload destination) link

theorem use_signalStrength (peer : Address) (link : Link) :
    link.use (.perform (.signalStrength peer)) = Outcome.state (signalStrength peer link) :=
  Action.state_map _ (signalStrength peer) link

theorem use_connect (link : Link) :
    link.use (.perform .connect) = Outcome.state (connect link) :=
  Action.state_map _ connect link

section Accepting

variable {link : Link} {p : Packet} {rest : Bytes}

theorem accept_octets (octets : Bytes) (link : Link) :
    accept (.ok octets) link = accept (.ok []) { link with buffer := link.buffer ++ octets } := by
  simp only [accept, List.append_nil]

theorem accept_of_rest (decoded : Packet.decode link.buffer = .ok none) :
    accept (.ok []) link = link := by
  simp only [accept, List.append_nil, Packet.drain_of_none decoded]
  rfl

theorem accept_of_malformed {fault : LinkError}
    (decoded : Packet.decode link.buffer = .error fault) :
    accept (.ok []) link = link.fail (Error.link fault).message := by
  simp only [accept, List.append_nil, Packet.drain_of_error decoded]
  rfl

theorem respects_handle_buffering (octets : Bytes) (p : Packet) :
    (handle p).Respects (buffering octets) := by
  have same : setAside none none (fun _ => octets) = buffering octets := by
    funext link
    rw [setAside, Option.or_none, Option.or_none]
    rfl
  rw [← same]
  exact respects_handle_setAside none none (fun _ => octets) p

/-- Of the packets in the buffer the first is handled, and then the others. -/
theorem accept_of_packet (decoded : Packet.decode link.buffer = .ok (some (p, rest))) :
    accept (.ok []) link =
      match handle p { link with buffer := rest } with
      | .ok () next => accept (.ok []) { next with buffer := rest }
      | .error e next => next.fail e.message := by
  have emptied : handle p { link with buffer := [] } =
      Outcome.mapState (buffering []) (handle p { link with buffer := rest }) :=
    respects_handle_buffering [] p { link with buffer := rest }
  simp only [accept, List.append_nil, Packet.drain_of_packet decoded, handleAll]
  cases ran : handle p { link with buffer := rest } with
  | ok u next =>
    rw [ran] at emptied
    rw [Action.bind_of_ok emptied]
    rfl
  | error e next =>
    rw [ran] at emptied
    rw [Action.bind_of_error emptied]
    rfl

theorem isReading_of_poll? {limit : Nat} {polled : Link} (eq : link.poll? limit = some polled) :
    link.phase.isReading := by
  by_contra idle
  rw [poll?, if_neg idle] at eq
  cases eq

theorem exists_finishRead (reads : link.phase.isReading) :
    ∃ limit, link.finishRead = (link.poll? limit).getD (link.advance limit) :=
  ⟨_, if_pos reads⟩

end Accepting

section Using

variable {link : Link}

theorem isReading_close (link : Link) : link.close.phase.isReading = false := by
  unfold close
  simp only
  split
  · next failed =>
    rw [failed]
    rfl
  · rfl

/-- A link that has waited for its handshake. -/
def awaitHandshake (link : Link) : Link :=
  link.started.await (link.now + handshakeLimit) handshakeOver

theorem connect_of_unused (unused : link.phase = .notConnected) :
    connect link =
      match link.awaitHandshake.phase with
      | .deviceListKnown => .ok () { link.awaitHandshake with phase := .connected }
      | .failed => .error link.awaitHandshake.failureError link.awaitHandshake
      | _ => .error .handshakeTimeout (link.awaitHandshake.finishRead.fail "handshake timeout") :=
  if_neg (not_not.mpr unused)

theorem requireUsable_of_none (usable : link.fault? = none) :
    requireUsable link = .ok () link := by
  rw [requireUsable, usable]

theorem write_of_usable {payload : Bytes} {destination : Address} (usable : link.fault? = none) :
    write payload destination link =
      transmit (packetsOf link.info.ownAddress destination payload) link :=
  Action.bind_of_ok (requireUsable_of_none usable)

/-- A link that has waited for a signal report. -/
def awaitReport (link : Link) : Link :=
  link.await (link.now + signalLimit) (·.signal.isSome)

theorem signalStrength_of_usable {peer : Address} (usable : link.fault? = none) :
    signalStrength peer link =
      match transmitOne (link.signalQuery peer) { link with signal := none } with
      | .error e next => .error e next
      | .ok () next =>
        match next.awaitReport.signal with
        | some strength => .ok strength next.awaitReport
        | none => .error (.timeout "signal strength") next.awaitReport := by
  refine (Action.bind_of_ok (requireUsable_of_none usable)).trans ?_
  change (transmitOne (link.signalQuery peer) >>= _) { link with signal := none } = _
  cases ran : transmitOne (link.signalQuery peer) { link with signal := none } with
  | error e next => exact Action.bind_of_error ran
  | ok u next =>
    rw [Action.bind_of_ok ran]
    change (match next.awaitReport.signal with
      | some strength => pure strength
      | none => throw (.timeout "signal strength") : Action Link Nat) next.awaitReport = _
    cases heard : next.awaitReport.signal <;> simp only [heard] <;> rfl

/-- What needs a usable link is refused by any other. -/
theorem perform_of_fault {op : Operation} {e : Error} (use : op.isUse)
    (fault : link.fault? = some e) : perform op link = .error e link := by
  have refused : requireUsable link = .error e link := by
    rw [requireUsable, fault]
  cases op with
  | connect | close => cases use
  | write payload destination => exact Action.bind_of_error (Action.bind_of_error refused)
  | signalStrength peer => exact Action.bind_of_error (Action.bind_of_error refused)
  | read wait =>
    have ran : read wait link = .error e link := by
      rw [read, fault]
    exact Action.bind_of_error ran

end Using

theorem transmit_singleton (p : Packet) : transmit [p] = transmitOne p :=
  bind_pure_unit

theorem handle_of_networkOf? {link : Link} {p : Packet} {netId : UInt8}
    (names : link.networkOf? p = some netId) :
    handle p link =
      match transmitOne (.of .idExchange .zero p.source p.payload)
        { link with info := { link.info with netId, peerAddress := p.source } } with
      | .ok () next => .ok () { next with phase := .awaitingOwnAddress }
      | .error e next => .error e next := by
  unfold networkOf? at names
  split at names
  · next phase command =>
    have sent := congrFun (transmit_singleton (.of .idExchange .zero p.source p.payload))
      { link with info := { link.info with netId, peerAddress := p.source } }
    rw [handle, command]
    change joinNetwork p link = _
    unfold joinNetwork
    split
    · next named _ found =>
      obtain rfl : named = netId := Option.some.inj (found.symm.trans names)
      cases ran : transmitOne (.of .idExchange .zero p.source p.payload)
          { link with info := { link.info with netId := named, peerAddress := p.source } } with
      | ok u next =>
        rw [ran] at sent
        simp only [sent]
      | error e next =>
        rw [ran] at sent
        simp only [sent]
    · next other => exact (other netId phase names).elim
  · cases names

/-- Where the reader stands when it has handled what it took. -/
def Reader.emptied (phase : Phase) : Reader := if phase.isReading then .looping else .ended

/-- Where the reader stands when it has nothing to do. -/
def Reader.waiting (phase : Phase) : Reader := if phase.isReading then .reading else .ended

namespace Tasks

variable {t last : Tasks}

/-- Steps may lead from one state to another without anything to be seen of them. -/
def Unseen : Tasks → Tasks → Prop := Relation.ReflTransGen (Step · .quiet ·)

theorem Unseen.exists_run (unseen : Unseen t last) :
    ∃ trace, Run t trace last ∧ ∀ x ∈ trace, x.1 = .quiet := by
  induction unseen using Relation.ReflTransGen.head_induction_on with
  | refl => exact ⟨[], .nil, fun _ member => absurd member List.not_mem_nil⟩
  | head step _ ih =>
    obtain ⟨trace, run, quiet⟩ := ih
    refine ⟨_, .cons step run, ?_⟩
    intro x member
    rcases List.mem_cons.mp member with rfl | later
    · rfl
    · exact quiet x later

/-- The reader handles every packet in its buffer. -/
theorem unseen_unpacking (stands : t.reader = .unpacking) (reads : t.link.phase.isReading)
    (free : t.caller.isWriting = false) :
    Unseen t { t with
      link := accept (.ok []) t.link
      reader := .emptied (accept (.ok []) t.link).phase } := by
  generalize whole : t.link.buffer = buffer
  fun_induction Packet.drain buffer generalizing t with
  | case1 buffer fault decoded =>
    subst whole
    rw [accept_of_malformed decoded]
    exact Relation.ReflTransGen.single (.malformed stands decoded)
  | case2 buffer decoded =>
    subst whole
    rw [accept_of_rest decoded, Reader.emptied, if_pos reads]
    exact Relation.ReflTransGen.single (.drained stands decoded)
  | case3 buffer p rest decoded d =>
    rename_i ih
    subst whole
    rw [accept_of_packet decoded]
    cases names : t.link.networkOf? p with
    | none =>
      obtain ⟨next, handled, -, still, kept, -⟩ :=
        @exists_of_handle p { t.link with buffer := rest } names
      have same : { next with buffer := rest } = next := by
        rw [← show next.buffer = rest from kept]
      rw [handled]
      simp only [same]
      exact Relation.ReflTransGen.head (.packet stands decoded names handled)
        (@ih { t with link := next } stands (still.trans reads) free kept)
    | some netId =>
      have greets : Unseen t _ := Relation.ReflTransGen.head (Step.hello stands decoded names)
        (.single (.turn rfl free))
      rw [@handle_of_networkOf? { t.link with buffer := rest } p netId names]
      cases ran : transmitOne (.of .idExchange .zero p.source p.payload)
          { t.link with
            buffer := rest, info := { t.link.info with netId, peerAddress := p.source } } with
      | ok u next =>
        have kept : next.buffer = rest := by
          obtain ⟨transport, octets, rfl, -⟩ := eq_of_transmitOne_ok ran
          rfl
        have same : { next with phase := .awaitingOwnAddress, buffer := rest } =
            { next with phase := .awaitingOwnAddress } := by
          rw [← kept]
        simp only [same]
        exact (greets.tail (.answered rfl ran)).trans
          (@ih ⟨{ next with phase := .awaitingOwnAddress }, t.unwanted, .unpacking, t.caller⟩
            rfl rfl free kept)
      | error e next => exact greets.tail (.unanswered rfl ran)

/-- A read that gets something is a step, and so is the handling of every packet in it. -/
theorem unseen_reading {limit : Nat} {link : Link} (stands : t.reader = .reading)
    (free : t.caller.isWriting = false) (polled : t.link.poll? limit = some link) :
    Unseen t { t with link, reader := .emptied link.phase } := by
  have reads := isReading_of_poll? polled
  obtain ⟨got, transport, taken, rfl⟩ := poll_eq_some polled
  cases got with
  | error reason => exact Relation.ReflTransGen.single (.breakDown stands taken)
  | ok octets =>
    rw [accept_octets]
    exact Relation.ReflTransGen.head (.arrive stands taken) (unseen_unpacking rfl reads free)

/-- A link whose reader has nothing to do. -/
def attended (unwanted : Bool) (caller : Caller) (link : Link) : Tasks :=
  ⟨link, unwanted, .waiting link.phase, caller⟩

section Waiting

variable {unwanted : Bool} {caller : Caller} {link polled : Link} {limit : Nat}
  (free : caller.isWriting = false) (wanted : link.phase.isReading → unwanted = false)

include free wanted

theorem unseen_poll (eq : link.poll? limit = some polled) :
    Unseen (attended unwanted caller link) (attended unwanted caller polled) := by
  have reads := isReading_of_poll? eq
  have taken := @unseen_reading (attended unwanted caller link) _ _ (if_pos reads) free eq
  unfold attended Reader.waiting
  unfold Reader.emptied at taken
  by_cases still : polled.phase.isReading
  · rw [if_pos still] at taken ⊢
    exact taken.tail (.goOn rfl (wanted reads))
  · rw [if_neg still] at taken ⊢
    exact taken

theorem unseen_catchUp :
    Unseen (attended unwanted caller link) (attended unwanted caller link.catchUp) ∧
      (link.catchUp.phase.isReading → unwanted = false) := by
  fun_induction catchUp link with
  | case1 link idle => exact ⟨.refl, wanted⟩
  | case2 link polled eq ih =>
    have first := unseen_poll free wanted eq
    obtain ⟨others, still⟩ := ih fun _ => wanted (isReading_of_poll? eq)
    exact ⟨first.trans others, still⟩

theorem unseen_await (wake : Link → Bool) :
    Unseen (attended unwanted caller link) (attended unwanted caller (link.await limit wake)) ∧
      ((link.await limit wake).phase.isReading → unwanted = false) := by
  fun_induction await limit wake link with
  | case1 link idle => exact ⟨.single (.world rfl), wanted⟩
  | case2 link polled eq settled awake =>
    have first := unseen_poll free wanted eq
    obtain ⟨others, still⟩ := unseen_catchUp free fun _ => wanted (isReading_of_poll? eq)
    exact ⟨first.trans others, still⟩
  | case3 link polled eq settled asleep ih =>
    have first := unseen_poll free wanted eq
    obtain ⟨others, still⟩ := unseen_catchUp free fun _ => wanted (isReading_of_poll? eq)
    obtain ⟨rest, atLast⟩ := ih still
    exact ⟨first.trans (others.trans rest), atLast⟩

end Waiting

/-- A reader that is no longer wanted ends after its current read. -/
theorem unseen_finishRead {caller : Caller} {link : Link} (free : caller.isWriting = false) :
    Unseen (attended true caller link) ⟨link.finishRead, true, .ended, caller⟩ := by
  by_cases reads : link.phase.isReading
  · obtain ⟨limit, finished⟩ := exists_finishRead reads
    have stands : (attended true caller link).reader = .reading := if_pos reads
    rw [finished]
    cases eq : link.poll? limit with
    | none =>
      have waits : Unseen (attended true caller link) (attended true caller (link.advance limit)) :=
        .single (.world rfl)
      exact (waits.tail (.lapse stands)).tail (.halt rfl rfl)
    | some polled =>
      have taken := unseen_reading stands free eq
      unfold Reader.emptied at taken
      by_cases still : polled.phase.isReading
      · rw [if_pos still] at taken
        exact taken.tail (.halt rfl rfl)
      · rw [if_neg still] at taken
        exact taken
  · rw [finishRead, if_neg reads, attended, Reader.waiting, if_neg reads]
    exact .refl

theorem unseen_awaitHandshake (link : Link) :
    Unseen ⟨link.started, false, .looping, .connecting⟩
      (attended false .connecting link.awaitHandshake) := by
  have reads : Unseen ⟨link.started, false, .looping, .connecting⟩
      (attended false .connecting link.started) := .single (.goOn rfl rfl)
  have waits : Unseen (attended false .connecting link.started)
      (attended false .connecting link.awaitHandshake) :=
    (unseen_await rfl (fun _ => rfl) handshakeOver).1
  exact reads.trans waits

theorem step_connected {link : Link} (known : link.phase = .deviceListKnown) :
    Step (attended false .connecting link) (.returns .connect (.ok .done))
      (attended false .idle { link with phase := .connected }) := by
  have still : Reader.waiting link.phase = .waiting .connected := by
    rw [known]
    rfl
  have returns : Step (attended false .connecting link) (.returns .connect (.ok .done))
      ⟨{ link with phase := .connected }, false, .waiting link.phase, .idle⟩ := .connected rfl known
  rwa [still] at returns

theorem unseen_startSending {unwanted : Bool} {op : Operation} {ps : List Packet} {link : Link} :
    Unseen (attended unwanted (.queueing op ps) link)
      (attended unwanted (.sending op ps) link) := by
  have free : (Reader.waiting link.phase).isWriting = false := by
    unfold Reader.waiting
    split <;> rfl
  exact Relation.ReflTransGen.single (.startSending rfl free)

/-- Packets are written one after the other, up to the first that is refused. -/
theorem unseen_transmit {unwanted : Bool} {op : Operation} (ps : List Packet) (link : Link) :
    match transmit ps link with
    | .ok () next => next.phase = link.phase ∧
        Unseen (attended unwanted (.sending op ps) link) (attended unwanted (.sending op []) next)
    | .error e next => next.phase = link.phase ∧
        ∃ u, Unseen (attended unwanted (.sending op ps) link) u ∧
          Step u (.returns op (.error e)) (attended unwanted .idle next) := by
  induction ps generalizing link with
  | nil => exact ⟨rfl, .refl⟩
  | cons p ps ih =>
    cases ran : transmitOne p link with
    | error e next =>
      obtain ⟨transport, rfl, -⟩ := eq_of_transmitOne_error ran
      rw [transmit, Action.bind_of_error ran]
      exact ⟨rfl, _, .refl, .unsent rfl ran⟩
    | ok u next =>
      obtain ⟨transport, octets, rfl, -⟩ := eq_of_transmitOne_ok ran
      have others := ih { link with transport }
      have first : Unseen (attended unwanted (.sending op (p :: ps)) link)
        (attended unwanted (.sending op ps) { link with transport }) := .single (.send rfl ran)
      rw [transmit, Action.bind_of_ok ran]
      cases rest : transmit ps { link with transport } with
      | ok u next =>
        rw [rest] at others
        exact ⟨others.1, first.trans others.2⟩
      | error e next =>
        rw [rest] at others
        obtain ⟨phase, u, more, refused⟩ := others
        exact ⟨phase, u, first.trans more, refused⟩

/-- Nothing is under way, and the reader is there just if the link needs it. -/
def Rests (t : Tasks) (link : Link) : Prop :=
  ∃ unwanted, t = attended unwanted .idle link ∧ (link.phase.isReading → unwanted = false)

/-- What comes of an operation and the link it leaves, if the operation is refused or if it begins,
goes on unseen and returns. -/
def Performs (t : Tasks) (op : Operation) (outcome : Outcome Link Answer) : Prop :=
  ∃ last, last.Rests outcome.state ∧
    ((∃ e, outcome.result = .error e ∧ last = t ∧ Step t (.refuses op e) t) ∨
      ∃ start u, Step t (.begins op) start ∧ Unseen start u ∧
        Step u (.returns op outcome.result) last)

section Performing

variable {t : Tasks} {link : Link} (rests : t.Rests link)

include rests

/-- An operation that is refused leaves everything as it is. -/
theorem performs_of_refused {op : Operation} {e : Error} (refused : Step t (.refuses op e) t)
    (ran : perform op link = .error e link) : t.Performs op (perform op link) := by
  rw [ran]
  exact ⟨t, rests, .inl ⟨e, rfl, rfl, refused⟩⟩

theorem performs_connect : t.Performs .connect (perform .connect link) := by
  by_cases unused : link.phase = .notConnected
  · obtain ⟨unwanted, rfl, -⟩ := rests
    have begins : Step (attended unwanted .idle link) (.begins .connect)
        ⟨link.started, false, .looping, .connecting⟩ := .connect rfl unused
    have ran := connect_of_unused unused
    by_cases known : link.awaitHandshake.phase = .deviceListKnown
    · have connects : connect link = .ok () { link.awaitHandshake with phase := .connected } := by
        rw [ran, known]
      rw [show perform .connect link = _ from Action.bind_of_ok connects]
      exact ⟨_, ⟨false, rfl, fun _ => rfl⟩,
        .inr ⟨_, _, begins, unseen_awaitHandshake link, step_connected known⟩⟩
    by_cases failed : link.awaitHandshake.phase = .failed
    · have breaks : connect link = .error link.awaitHandshake.failureError link.awaitHandshake := by
        rw [ran, failed]
      have ended : (attended false .connecting link.awaitHandshake).reader = .ended := by
        rw [attended, failed]
        rfl
      have none : ¬link.awaitHandshake.phase.isReading := by
        rw [failed]
        exact Bool.false_ne_true
      have stops := (unseen_awaitHandshake link).tail (.noticeFailure rfl failed)
      rw [show perform .connect link = _ from Action.bind_of_error breaks]
      exact ⟨_, ⟨true, rfl, fun reads => absurd reads none⟩,
        .inr ⟨_, _, begins, stops, .broken rfl ended⟩⟩
    · have late : connect link = .error .handshakeTimeout
          (link.awaitHandshake.finishRead.fail "handshake timeout") := by
        rw [ran]
        split
        · next other => exact absurd other known
        · next other => exact absurd other failed
        · rfl
      have unfinished : link.awaitHandshake.handshakeOver = false := by
        rw [handshakeOver, beq_false_of_ne known, beq_false_of_ne failed]
        rfl
      have stops := ((unseen_awaitHandshake link).tail (.giveUp rfl unfinished)).trans
        (unseen_finishRead rfl)
      rw [show perform .connect link = _ from Action.bind_of_error late]
      exact ⟨_, ⟨true, rfl, nofun⟩, .inr ⟨_, _, begins, stops, .late rfl rfl⟩⟩
  · have refused : Step t (.refuses .connect (.link (.connecting link.phase))) t := by
      obtain ⟨unwanted, rfl, -⟩ := rests
      exact .refuseConnect rfl unused
    have ran : connect link = .error (.link (.connecting link.phase)) link := if_pos unused
    exact performs_of_refused rests refused (Action.bind_of_error ran)

theorem performs_close : t.Performs .close (perform .close link) := by
  obtain ⟨unwanted, rfl, -⟩ := rests
  have begins : Step (attended unwanted .idle link) (.begins .close)
      (attended true (.stopping .closing) link) := .close rfl
  have stops : Unseen (attended true (.stopping .closing) link) _ := unseen_finishRead rfl
  have returns := Step.closed (t := ⟨link.finishRead, true, .ended, .stopping .closing⟩) rfl rfl
  have none := Bool.eq_false_iff.mp (isReading_close link)
  have still : Reader.waiting (close link).phase = .ended := if_neg none
  have rests : (attended true .idle (close link)).Rests (close link) :=
    ⟨true, rfl, fun reads => absurd reads none⟩
  refine ⟨_, rests, .inr ⟨_, _, begins, stops, ?_⟩⟩
  rw [attended, still]
  exact returns

theorem performs_write (payload : Bytes) (destination : Address) (usable : link.fault? = none) :
    t.Performs (.write payload destination) (perform (.write payload destination) link) := by
  obtain ⟨unwanted, rfl, wanted⟩ := rests
  have begins := @Step.write (attended unwanted .idle link) payload destination rfl usable
  have written := @unseen_transmit unwanted (.write payload destination)
    (packetsOf link.info.ownAddress destination payload) link
  rw [← write_of_usable usable] at written
  cases ran : write payload destination link with
  | ok u next =>
    rw [ran] at written
    obtain ⟨phase, sent⟩ := written
    rw [show perform (.write payload destination) link = _ from Action.bind_of_ok ran]
    exact ⟨_, ⟨unwanted, rfl, phase ▸ wanted⟩,
      .inr ⟨_, _, begins, unseen_startSending.trans sent, .written rfl⟩⟩
  | error e next =>
    rw [ran] at written
    obtain ⟨phase, u, sent, returns⟩ := written
    rw [show perform (.write payload destination) link = _ from Action.bind_of_error ran]
    exact ⟨_, ⟨unwanted, rfl, phase ▸ wanted⟩,
      .inr ⟨_, _, begins, unseen_startSending.trans sent, returns⟩⟩

theorem performs_read (wait : Nat) (usable : link.fault? = none) :
    t.Performs (.read wait) (perform (.read wait) link) := by
  obtain ⟨unwanted, rfl, wanted⟩ := rests
  have begins := @Step.read (attended unwanted .idle link) wait rfl usable
  have waits : Unseen (attended unwanted (.receiving wait) link)
        (attended unwanted (.receiving wait) (link.awaitPayload wait)) ∧
      ((link.awaitPayload wait).phase.isReading → unwanted = false) := by
    unfold awaitPayload
    split
    · exact ⟨.refl, wanted⟩
    · exact unseen_await rfl wanted _
  have ran := read_eq wait usable
  generalize link.awaitPayload wait = waited at *
  cases queue : waited.queue with
  | some d =>
    rw [queue] at ran
    rw [show perform (.read wait) link = _ from Action.bind_of_ok ran]
    exact ⟨_, ⟨unwanted, rfl, waits.2⟩, .inr ⟨_, _, begins, waits.1, .receive rfl queue⟩⟩
  | none =>
    rw [queue] at ran
    by_cases failed : waited.phase = .failed
    · have breaks : read wait link = .error waited.failureError waited := ran.trans (if_pos failed)
      rw [show perform (.read wait) link = _ from Action.bind_of_error breaks]
      exact ⟨_, ⟨unwanted, rfl, waits.2⟩,
        .inr ⟨_, _, begins, waits.1, .receiveFailure rfl failed⟩⟩
    · have nothing : read wait link = .ok none waited := ran.trans (if_neg failed)
      rw [show perform (.read wait) link = _ from Action.bind_of_ok nothing]
      exact ⟨_, ⟨unwanted, rfl, waits.2⟩, .inr ⟨_, _, begins, waits.1, .receiveNothing rfl⟩⟩

theorem performs_signalStrength (peer : Address) (usable : link.fault? = none) :
    t.Performs (.signalStrength peer) (perform (.signalStrength peer) link) := by
  obtain ⟨unwanted, rfl, wanted⟩ := rests
  have begins := @Step.signalStrength (attended unwanted .idle link) peer rfl usable
  have written := @unseen_transmit unwanted (.signalStrength peer) [link.signalQuery peer]
    { link with signal := none }
  have ran := @signalStrength_of_usable link peer usable
  rw [transmit_singleton] at written
  cases sent : transmitOne (link.signalQuery peer) { link with signal := none } with
  | error e next =>
    rw [sent] at written ran
    obtain ⟨phase, u, unsent, returns⟩ := written
    rw [show perform (.signalStrength peer) link = _ from Action.bind_of_error ran]
    exact ⟨_, ⟨unwanted, rfl, phase ▸ wanted⟩,
      .inr ⟨_, _, begins, unseen_startSending.trans unsent, returns⟩⟩
  | ok u next =>
    rw [sent] at written ran
    obtain ⟨phase, asks⟩ := written
    have asked := (unseen_startSending.trans asks).tail (.asked rfl)
    obtain ⟨waits, still⟩ := @unseen_await unwanted (.listening peer) next
      (next.now + signalLimit) rfl (phase ▸ wanted) (·.signal.isSome)
    have listened := asked.trans waits
    cases heard : next.awaitReport.signal with
    | some strength =>
      simp only [heard] at ran
      rw [show perform (.signalStrength peer) link = _ from Action.bind_of_ok ran]
      exact ⟨_, ⟨unwanted, rfl, still⟩, .inr ⟨_, _, begins, listened, .hear rfl heard⟩⟩
    | none =>
      simp only [heard] at ran
      rw [show perform (.signalStrength peer) link = _ from Action.bind_of_error ran]
      exact ⟨_, ⟨unwanted, rfl, still⟩, .inr ⟨_, _, begins, listened, .hearNothing rfl heard⟩⟩

/-- Every operation runs as a caller who takes turns with the reader would run it. -/
theorem Rests.performs (op : Operation) : t.Performs op (perform op link) := by
  have free : t.caller = .idle ∧ t.link = link := by
    obtain ⟨unwanted, rfl, -⟩ := rests
    exact ⟨rfl, rfl⟩
  have use (isUse : op.isUse) (usable : link.fault? = none → t.Performs op (perform op link)) :
      t.Performs op (perform op link) := by
    cases fault : link.fault? with
    | none => exact usable fault
    | some e =>
      have refused : Step t (.refuses op e) t := .refuse free.1 isUse (free.2 ▸ fault)
      exact performs_of_refused rests refused (perform_of_fault isUse fault)
  cases op with
  | connect => exact performs_connect rests
  | close => exact performs_close rests
  | write payload destination => exact use rfl (performs_write rests payload destination)
  | read wait => exact use rfl (performs_read rests wait)
  | signalStrength peer => exact use rfl (performs_signalStrength rests peer)

end Performing

theorem Performs.exists_run {t : Tasks} {op : Operation} {outcome : Outcome Link Answer}
    (performs : t.Performs op outcome) :
    ∃ trace last, Run t trace last ∧ last.Rests outcome.state := by
  obtain ⟨last, rests, ⟨e, -, rfl, refused⟩ | ⟨start, u, begins, unseen, returns⟩⟩ := performs
  · exact ⟨_, _, .cons refused .nil, rests⟩
  · obtain ⟨trace, run, -⟩ := unseen.exists_run
    exact ⟨_, _, .cons begins (run.append (.cons returns .nil)), rests⟩

theorem Rests.exists_run {t : Tasks} {link : Link} (rests : t.Rests link) (u : Use) :
    ∃ trace last, Run t trace last ∧ last.Rests (link.use u) := by
  cases u with
  | perform op => exact (rests.performs op).exists_run
  | sleep ms =>
    obtain ⟨unwanted, rfl, wanted⟩ := rests
    obtain ⟨waits, still⟩ :=
      @unseen_await unwanted .idle link (link.now + ms) rfl wanted fun _ => false
    obtain ⟨trace, run, -⟩ := waits.exists_run
    exact ⟨trace, _, run, ⟨unwanted, rfl, still⟩⟩

theorem Rests.exists_run_all {t : Tasks} {link : Link} (rests : t.Rests link) (uses : List Use) :
    ∃ trace last, Run t trace last ∧ last.Rests (uses.foldl use link) := by
  induction uses generalizing t link with
  | nil => exact ⟨_, t, .nil, rests⟩
  | cons first uses ih =>
    obtain ⟨trace, next, run, still⟩ := rests.exists_run first
    obtain ⟨others, last, rest, atLast⟩ := ih still
    exact ⟨_, last, run.append rest, atLast⟩

/-- Whatever use has been made of a link, some run of its reader and its caller leads to it. -/
theorem exists_reached (transport : Transport) (uses : List Use) :
    ∃ t : Tasks, t.Reached ∧ t.Rests (uses.foldl use { transport }) := by
  have fresh : (new transport).Rests { transport } := ⟨false, rfl, fun _ => rfl⟩
  obtain ⟨trace, t, run, rests⟩ := fresh.exists_run_all uses
  exact ⟨t, ⟨transport, trace, run⟩, rests⟩

/-- At rest there is no reader to a link that is not connected or has failed. -/
theorem Rests.ended {t : Tasks} {link : Link} (rests : t.Rests link)
    (idle : link.phase.isReading = false) : t.reader = .ended := by
  obtain ⟨unwanted, rfl, -⟩ := rests
  exact if_neg (Bool.eq_false_iff.mp idle)

/-- A call to close a link at rest returns in the end, and the reader has come to its end by then.
-/
theorem Rests.exists_closed {t : Tasks} {link : Link} (rests : t.Rests link) :
    ∃ trace u last, Run t trace u ∧ Step u (.returns .close (.ok .done)) last ∧
      last.reader = .ended ∧ last.caller = .idle ∧ last.link = link.close := by
  obtain ⟨last, still, ⟨e, -, -, refused⟩ | ⟨start, u, begins, unseen, returns⟩⟩ :=
    rests.performs .close
  · cases refused with
    | refuse free use fault => cases use
  · obtain ⟨trace, run, -⟩ := unseen.exists_run
    have ended : last.reader = .ended := still.ended (isReading_close link)
    obtain ⟨_, rfl, -⟩ := still
    exact ⟨_, u, _, .cons begins run, returns, ended, rfl, rfl⟩

/-- A link that failed in use stays so and sends nothing anymore, whatever else is done with it. -/
theorem failed_of_use {transport : Transport} {uses : List Use}
    (failed : (uses.foldl use { transport }).phase = .failed) (others : List Use) :
    ((uses ++ others).foldl use { transport }).phase = .failed ∧
      ((uses ++ others).foldl use { transport }).transport.sent =
        (uses.foldl use { transport }).transport.sent := by
  obtain ⟨t, reached, rests⟩ := exists_reached transport uses
  obtain ⟨trace, last, run, atLast⟩ := rests.exists_run_all others
  obtain ⟨_, rfl, -⟩ := rests
  obtain ⟨spent, silent⟩ := run.spent ⟨reached.sound, failed, rfl⟩
  obtain ⟨_, rfl, -⟩ := atLast
  rw [List.foldl_append]
  exact ⟨spent.failed, silent⟩

end Tasks

end SolarTelemetry.Link
