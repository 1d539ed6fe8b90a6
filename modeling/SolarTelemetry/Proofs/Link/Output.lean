import Mathlib.Order.Bounds.Defs
import SolarTelemetry.Proofs.Link.Exclusion
import SolarTelemetry.Proofs.Link.Scheduling

/-!
# What a link writes

In its handshake a link writes one packet, the answer to the packet that named the network. After
that, it writes only what its user hands over: a payload as its packets, up to the first that is
refused, and a query for each signal report. Waiting and reading write nothing.
-/

namespace SolarTelemetry

theorem Transport.sent_take? {t t' : Transport} {limit : Nat} {got : Except String Bytes}
    (taken : t.take? limit = some (got, t')) : t'.sent = t.sent := by
  unfold take? at taken
  split at taken
  · cases taken
  · split at taken
    · cases taken
    · simp only at taken
      split at taken
      · cases taken
        rfl
      · split at taken <;> cases taken <;> rfl

/-- The next write is taken. -/
theorem Transport.accepts_one_iff {t : Transport} :
    t.Accepts 1 ↔ (t.reactions.headD []).findSome? Reaction.refusal? = none := by
  rw [List.findSome?_eq_none_iff, Accepts]
  cases t.reactions with
  | nil => simp
  | cons first rest => simp

instance (writes : Nat) (t : Transport) : Decidable (t.Accepts writes) :=
  inferInstanceAs (Decidable (∀ reactions ∈ t.reactions.take writes, ∀ reaction ∈ reactions, _))

namespace Link

/-- What neither an arrival nor the passing of time can make untrue. -/
structure Persistent (P : Link → Prop) : Prop where
  accept {link : Link} (got : Except String Bytes) (transport : Transport) :
    P link → link.phase.isReading → transport.sent = link.transport.sent →
      P (accept got (link.reading transport))
  advance {link : Link} (moment : Nat) : P link → P (link.advance moment)

namespace Persistent

variable {P : Link → Prop} {link : Link}

theorem poll? {polled : Link} {limit : Nat} (persistent : Persistent P) (holds : P link)
    (eq : link.poll? limit = some polled) : P polled := by
  obtain ⟨got, transport, taken, rfl⟩ := poll_eq_some eq
  exact persistent.accept got transport holds (isReading_of_poll? eq) (Transport.sent_take? taken)

theorem catchUp (persistent : Persistent P) (holds : P link) : P link.catchUp := by
  fun_induction Link.catchUp link with
  | case1 link idle => exact holds
  | case2 link polled eq ih => exact ih (persistent.poll? holds eq)

theorem await (persistent : Persistent P) (limit : Nat) (wake : Link → Bool) (holds : P link) :
    P (link.await limit wake) := by
  fun_induction Link.await limit wake link with
  | case1 link idle => exact persistent.advance limit holds
  | case2 link polled eq settled awake => exact persistent.catchUp (persistent.poll? holds eq)
  | case3 link polled eq settled asleep ih =>
    exact ih (persistent.catchUp (persistent.poll? holds eq))

theorem finishRead (persistent : Persistent P) (holds : P link) : P link.finishRead := by
  by_cases reads : link.phase.isReading
  · obtain ⟨limit, finished⟩ := exists_finishRead reads
    rw [finished]
    cases eq : link.poll? limit with
    | none => exact persistent.advance limit holds
    | some polled => exact persistent.poll? holds eq
  · rwa [Link.finishRead, if_neg reads]

end Persistent

section Greeting

/-- How far a link has come with the answer that it owes to the other end. -/
inductive Greeted (before : List (Address × Bytes)) (link : Link) : Prop
  | waiting : link.phase = .awaitingIdAck ∨ link.phase = .failed → link.transport.sent = before →
    Greeted before link
  | answered {hello : Packet} : isHello hello → link.phase ≠ .awaitingIdAck →
    link.transport.sent = before ++ [Handshake.answer hello] → Greeted before link

variable {before : List (Address × Bytes)} {link : Link}

theorem isHello_of_networkOf? {p : Packet} {netId : UInt8}
    (names : link.networkOf? p = some netId) : link.phase = .awaitingIdAck ∧ isHello p := by
  have named : link.networkOf? p ≠ none := by simp [names]
  have both := mt networkOf?_eq_none_iff.mpr named
  simpa using both

/-- A packet that does not open the handshake writes nothing and does not make the link wait for one
that does. -/
theorem sent_handle_of_plain {p : Packet} (plain : link.networkOf? p = none) :
    (Outcome.state (handle p link)).transport = link.transport ∧
      ((Outcome.state (handle p link)).phase = link.phase ∨
        link.phase ≠ .awaitingIdAck ∧ link.phase ≠ .failed ∧
          (Outcome.state (handle p link)).phase ≠ .awaitingIdAck) := by
  rcases handle_of_plain plain with digests | ⟨phase, _, handled⟩ | ⟨phase, _, handled⟩
  · obtain ⟨_, _, _, eq⟩ := exists_digest_eq p link
    rw [digests, eq]
    exact ⟨rfl, .inl rfl⟩
  · rw [handled, phase]
    exact ⟨rfl, .inr ⟨nofun, nofun, nofun⟩⟩
  · rw [handled, phase]
    exact ⟨rfl, .inr ⟨nofun, nofun, nofun⟩⟩

namespace Greeted

theorem fail (greeted : Greeted before link) (reason : String) :
    Greeted before (link.fail reason) := by
  cases greeted with
  | waiting phase sent => exact .waiting (.inr rfl) sent
  | answered hello phase sent => exact .answered hello nofun sent

theorem handle (greeted : Greeted before link) (p : Packet) :
    Greeted before (Outcome.state (handle p link)) := by
  cases names : link.networkOf? p with
  | none =>
    obtain ⟨transport, moves⟩ := sent_handle_of_plain names
    cases greeted with
    | waiting phase sent =>
      rcases moves with same | ⟨begun, sound, -⟩
      · exact .waiting (same ▸ phase) (transport ▸ sent)
      · rcases phase with phase | phase
        · exact absurd phase begun
        · exact absurd phase sound
    | answered hello phase sent =>
      rcases moves with same | ⟨-, -, later⟩
      · exact .answered hello (same ▸ phase) (transport ▸ sent)
      · exact .answered hello later (transport ▸ sent)
  | some netId =>
    obtain ⟨begun, hello⟩ := isHello_of_networkOf? names
    cases greeted with
    | answered _ phase _ => exact absurd begun phase
    | waiting _ sent =>
      rw [handle_of_networkOf? names]
      cases ran : transmitOne (.of .idExchange .zero p.source p.payload)
          { link with info := { link.info with netId, peerAddress := p.source } } with
      | ok u next =>
        have written := sent_of_transmitOne_ok ran
        rw [sent] at written
        exact .answered hello nofun written
      | error e next =>
        obtain ⟨transport, rfl, unsent⟩ := eq_of_transmitOne_error ran
        exact .waiting (.inl begun) (unsent.trans sent)

theorem handleAll (greeted : Greeted before link) (ps : List Packet) :
    Greeted before (Outcome.state (handleAll ps link)) := by
  induction ps generalizing link with
  | nil => exact greeted
  | cons p ps ih =>
    have first := greeted.handle p
    change Greeted before (Outcome.state ((Link.handle p >>= fun _ => Link.handleAll ps) link))
    cases ran : Link.handle p link with
    | ok u next =>
      rw [ran] at first
      rw [Action.bind_of_ok ran]
      exact ih first
    | error e next =>
      rw [ran] at first
      rw [Action.bind_of_error ran]
      exact first

theorem of_same {other : Link} (greeted : Greeted before link) (phase : other.phase = link.phase)
    (sent : other.transport.sent = link.transport.sent) : Greeted before other := by
  cases greeted with
  | waiting standing unsent => exact .waiting (phase ▸ standing) (sent ▸ unsent)
  | answered hello begun written => exact .answered hello (phase ▸ begun) (sent ▸ written)

theorem accept (greeted : Greeted before link) (got : Except String Bytes) :
    Greeted before (accept got link) := by
  cases got with
  | error reason => exact greeted.fail _
  | ok octets =>
    have emptied : Greeted before { link with buffer := [] } := greeted.of_same rfl rfl
    have handled := emptied.handleAll (Packet.drain (link.buffer ++ octets)).packets
    unfold Link.accept
    simp only
    cases ran : Link.handleAll (Packet.drain (link.buffer ++ octets)).packets
        { link with buffer := [] } with
    | error e next =>
      rw [ran] at handled
      exact handled.fail _
    | ok u next =>
      rw [ran] at handled
      simp only
      split
      · exact handled.fail _
      · exact handled.of_same rfl rfl

end Greeted

theorem persistent_greeted (before : List (Address × Bytes)) : Persistent (Greeted before) where
  accept {link} got transport greeted _ sent := by
    have taken : Greeted before (link.reading transport) := greeted.of_same rfl sent
    exact taken.accept got
  advance _ greeted := greeted.of_same rfl rfl

/-- Connecting writes no more than one answer. A link that cannot be connected has failed. -/
theorem sent_connect (unused : link.phase = .notConnected) :
    match connect link with
    | .ok _ next => next.phase = .connected ∧
      ∃ hello, isHello hello ∧
        next.transport.sent = link.transport.sent ++ [Handshake.answer hello]
    | .error _ next => next.phase = .failed ∧
      (next.transport.sent = link.transport.sent ∨
        ∃ hello, isHello hello ∧
          next.transport.sent = link.transport.sent ++ [Handshake.answer hello]) := by
  have started : Greeted link.transport.sent link.started := .waiting (.inl rfl) rfl
  have waited : Greeted link.transport.sent link.awaitHandshake :=
    (persistent_greeted _).await _ _ started
  have failed {next : Link} (greeted : Greeted link.transport.sent next) :
      next.transport.sent = link.transport.sent ∨
        ∃ hello, isHello hello ∧
          next.transport.sent = link.transport.sent ++ [Handshake.answer hello] := by
    cases greeted with
    | waiting _ sent => exact .inl sent
    | answered hello _ sent => exact .inr ⟨_, hello, sent⟩
  rw [connect_of_unused unused]
  cases phase : link.awaitHandshake.phase with
  | deviceListKnown =>
    cases waited with
    | waiting standing _ => simp [phase] at standing
    | answered hello _ sent => exact ⟨rfl, _, hello, sent⟩
  | failed => exact ⟨phase, failed waited⟩
  | notConnected | awaitingIdAck | awaitingOwnAddress | awaitingDeviceCount | connected =>
    exact ⟨rfl, failed (((persistent_greeted _).finishRead waited).fail _)⟩

end Greeting

section Using

/-- A link whose handshake is over and that has not been closed. -/
def Settled (link : Link) : Prop := link.phase = .connected ∨ link.phase = .failed

/-- From one link to another some packets were written, and the link may have failed. -/
structure Onward (link : Link) (ps : List Packet) (next : Link) : Prop where
  info : next.info = link.info
  phase : next.phase = link.phase ∨ next.phase = .failed
  sent : next.transport.sent = link.transport.sent ++ ps.map Packet.posted

variable {link next last : Link} {ps qs : List Packet}

namespace Onward

theorem refl (link : Link) : Onward link [] link := ⟨rfl, .inl rfl, (List.append_nil _).symm⟩

theorem trans (first : Onward link ps next) (second : Onward next qs last) :
    Onward link (ps ++ qs) last where
  info := second.info.trans first.info
  phase := by
    rcases second.phase with same | failed
    · rw [same]
      exact first.phase
    · exact .inr failed
  sent := by rw [second.sent, first.sent, List.append_assoc, List.map_append]

/-- What is done in silence adds nothing. -/
theorem silent (first : Onward link ps next) (second : Onward next [] last) :
    Onward link ps last :=
  List.append_nil ps ▸ first.trans second

theorem settled (onward : Onward link ps next) (settled : link.Settled) : next.Settled := by
  rcases onward.phase with same | failed
  · rw [Settled, same]
    exact settled
  · exact .inr failed

end Onward

theorem Settled.takesData (settled : link.Settled) (sound : link.phase ≠ .failed) :
    link.phase.takesData := by
  rcases settled with phase | phase
  · rw [phase]
    rfl
  · exact absurd phase sound

theorem onward_accept (takes : link.phase.takesData) (got : Except String Bytes) :
    Onward link [] (accept got link) := by
  have still := (List.append_nil link.transport.sent).symm
  cases got with
  | error reason => exact ⟨rfl, .inr rfl, still⟩
  | ok octets =>
    obtain ⟨_, _, _, eq⟩ := exists_digestAll_eq (Packet.drain (link.buffer ++ octets)).packets
      { link with buffer := [] }
    have handled := @handleAll_of_takesData { link with buffer := [] } takes
      (Packet.drain (link.buffer ++ octets)).packets
    rw [eq] at handled
    unfold accept
    simp only [handled]
    split
    · exact ⟨rfl, .inr rfl, still⟩
    · exact ⟨rfl, .inl rfl, still⟩

/-- Whoever waits on a settled link writes nothing. -/
theorem persistent_onward (settled : link.Settled) (ps : List Packet) :
    Persistent (Onward link ps) where
  accept {next} got transport onward reads sent := by
    have takes := (onward.settled settled).takesData (Phase.ne_failed_of_isReading reads)
    have taken : Onward link ps (next.reading transport) :=
      ⟨onward.info, onward.phase, sent.trans onward.sent⟩
    exact taken.silent (@onward_accept (next.reading transport) takes got)
  advance _ onward := ⟨onward.info, onward.phase, onward.sent⟩

theorem onward_await (settled : link.Settled) (limit : Nat) (wake : Link → Bool) :
    Onward link [] (link.await limit wake) :=
  (persistent_onward settled []).await limit wake (.refl link)

/-- Of some packets those up to the first that is refused are written. -/
theorem onward_transmit (ps : List Packet) (link : Link) :
    ∃ count, Onward link (ps.take count) (Outcome.state (transmit ps link)) := by
  induction ps generalizing link with
  | nil => exact ⟨0, .refl link⟩
  | cons p ps ih =>
    change ∃ count, Onward link _ (Outcome.state ((transmitOne p >>= fun _ => transmit ps) link))
    cases ran : transmitOne p link with
    | ok u next =>
      obtain ⟨count, rest⟩ := ih next
      obtain ⟨transport, octets, rfl, -⟩ := eq_of_transmitOne_ok ran
      have first : Onward link [p] { link with transport } :=
        ⟨rfl, .inl rfl, sent_of_transmitOne_ok ran⟩
      rw [Action.bind_of_ok ran]
      exact ⟨count + 1, first.trans rest⟩
    | error e next =>
      obtain ⟨transport, rfl, unsent⟩ := eq_of_transmitOne_error ran
      rw [Action.bind_of_error ran]
      exact ⟨0, rfl, .inl rfl, unsent.trans (List.append_nil _).symm⟩

theorem requireUsable_of_fault {e : Error} (fault : link.fault? = some e) :
    requireUsable link = .error e link := by
  rw [requireUsable, fault]

theorem write_of_fault {e : Error} (fault : link.fault? = some e) (payload : Bytes)
    (destination : Address) : write payload destination link = .error e link :=
  Action.bind_of_error (requireUsable_of_fault fault)

theorem onward_write (payload : Bytes) (destination : Address) (link : Link) :
    ∃ count, Onward link ((packetsOf link.info.ownAddress destination payload).take count)
      (Outcome.state (write payload destination link)) := by
  cases fault : link.fault? with
  | none =>
    rw [write_of_usable fault]
    exact onward_transmit _ link
  | some e =>
    rw [write_of_fault fault]
    exact ⟨0, .refl link⟩

/-- A packet that cannot be written is an error that is final. -/
theorem transmitOne_of_refused {p : Packet} (refused : ¬link.transport.Accepts 1) :
    ∃ e transport, transmitOne p link = .error e { link with transport } ∧
      e.isTransient = false ∧ transport.sent = link.transport.sent := by
  cases ran : transmitOne p link with
  | error e next =>
    obtain ⟨transport, rfl, unsent⟩ := eq_of_transmitOne_error ran
    refine ⟨e, transport, rfl, ?_, unsent⟩
    unfold transmitOne at ran
    split at ran
    · obtain ⟨rfl, -⟩ := EStateM.Result.error.inj ran
      rfl
    · simp only [Action.zoom, Transport.write] at ran
      split at ran
      · cases ran
      · next written =>
        split at written
        · cases written
          obtain ⟨rfl, -⟩ := EStateM.Result.error.inj ran
          rfl
        · cases written
  | ok u next =>
    refine absurd (Transport.accepts_one_iff.mpr ?_) refused
    unfold transmitOne at ran
    split at ran
    · cases ran
    · simp only [Action.zoom, Transport.write] at ran
      split at ran
      · next written =>
        split at written
        · cases written
        · next granted => exact granted
      · cases ran

section

variable {payload : Bytes} {destination : Address} {p : Packet} (settled : link.Settled)
  (single : packetsOf link.info.ownAddress destination payload = [p])

include settled single

/-- A payload that fits into one packet is written whole, if the link is sound and the transport
takes it. -/
theorem write_of_single {writes : Nat} (fits : p.payload.length ≤ Packet.maxPayload)
    (sound : link.phase ≠ .failed) (accepts : link.transport.Accepts (writes + 1)) :
    ∃ transport, write payload destination link = .ok () { link with transport } ∧
      transport.sent = link.transport.sent ++ [p.posted] ∧ transport.Accepts writes := by
  obtain ⟨transport, written, sent, others⟩ :=
    Transport.write_of_accepts accepts p.layout p.destination
  refine ⟨transport, ?_, sent, others⟩
  rw [write_of_usable (fault?_of_takesData (settled.takesData sound)), single, transmit_singleton,
    transmitOne, Packet.encode_of_le fits]
  simp only [Action.zoom, written]

/-- And else not at all, which is an error that is final. -/
theorem write_of_single_of_refused
    (refused : ¬(link.phase ≠ .failed ∧ link.transport.Accepts 1)) :
    ∃ e transport, write payload destination link = .error e { link with transport } ∧
      e.isTransient = false ∧ transport.sent = link.transport.sent := by
  by_cases failed : link.phase = .failed
  · have fault : link.fault? = some link.failureError := by
      rw [fault?, failed]
    exact ⟨_, link.transport, write_of_fault fault payload destination, rfl, rfl⟩
  · have usable := fault?_of_takesData (settled.takesData failed)
    rw [write_of_usable usable, single, transmit_singleton]
    exact transmitOne_of_refused fun accepts => refused ⟨failed, accepts⟩

theorem sent_write_of_single (fits : p.payload.length ≤ Packet.maxPayload) :
    (Outcome.state (write payload destination link)).transport.sent = link.transport.sent ++
      if link.phase ≠ .failed ∧ link.transport.Accepts 1 then [p.posted] else [] := by
  split
  · next taken =>
    obtain ⟨transport, written, sent, -⟩ := write_of_single settled single fits taken.1 taken.2
    rw [written]
    exact sent
  · next refused =>
    obtain ⟨e, transport, failed, -, unsent⟩ := write_of_single_of_refused settled single refused
    rw [failed]
    exact unsent.trans (List.append_nil _).symm

end

theorem onward_read (settled : link.Settled) (wait : Nat) :
    Onward link [] (Outcome.state (read wait link)) := by
  cases fault : link.fault? with
  | some e =>
    have refused : read wait link = .error e link := by
      rw [read, fault]
    rw [refused]
    exact .refl link
  | none =>
    have waited : Onward link [] (link.awaitPayload wait) := by
      unfold awaitPayload
      split
      · exact .refl link
      · exact onward_await settled _ _
    rw [read_eq wait fault]
    cases (link.awaitPayload wait).queue with
    | some d => exact ⟨waited.info, waited.phase, waited.sent⟩
    | none =>
      simp only
      split <;> exact waited

theorem onward_signalStrength (settled : link.Settled) (peer : Address) :
    ∃ count, Onward link ([link.signalQuery peer].take count)
      (Outcome.state (signalStrength peer link)) := by
  cases fault : link.fault? with
  | some e =>
    have unasked : signalStrength peer link = .error e link :=
      Action.bind_of_error (requireUsable_of_fault fault)
    rw [unasked]
    exact ⟨0, .refl link⟩
  | none =>
    rw [signalStrength_of_usable fault]
    cases ran : transmitOne (link.signalQuery peer) { link with signal := none } with
    | error e next =>
      obtain ⟨transport, rfl, unsent⟩ := eq_of_transmitOne_error ran
      exact ⟨0, rfl, .inl rfl, unsent.trans (List.append_nil _).symm⟩
    | ok u next =>
      have written := sent_of_transmitOne_ok ran
      obtain ⟨transport, octets, rfl, -⟩ := eq_of_transmitOne_ok ran
      have asked : Onward link [link.signalQuery peer] { link with signal := none, transport } :=
        ⟨rfl, .inl rfl, written⟩
      have waited : Onward link _ (awaitReport { link with signal := none, transport }) :=
        asked.silent (onward_await (asked.settled settled) _ _)
      refine ⟨1, ?_⟩
      simp only
      split <;> exact waited

/-- A link that is closed stops reading, and writes nothing while it does. -/
theorem close_settled (settled : link.Settled) :
    (link.close.phase = .notConnected ∨ link.close.phase = .failed) ∧
      link.close.transport.sent = link.transport.sent := by
  have finished := (persistent_onward settled []).finishRead (.refl link)
  have still := finished.sent.trans (List.append_nil _)
  unfold close
  simp only
  split
  · next failed => exact ⟨.inr failed, still⟩
  · exact ⟨.inl rfl, still⟩

end Using

section Closing

/-- A moment that has not passed and at which the read under way lapses if nothing arrives: so many
whole waits after the last arrival. -/
def Lapses (link : Link) (moment : Nat) : Prop :=
  link.now ≤ moment ∧ ∃ waits, 0 < waits ∧ moment = link.since + 500 * waits

/-- How the last read of the reader ends: with what arrives before it lapses for the first time, or
then. -/
inductive LastRead (link : Link) : Link → Prop where
  | idle : ¬link.phase.isReading → LastRead link link
  | arrived {moment got transport} : link.phase.isReading →
      IsLeast {moment | link.Lapses moment} moment →
      link.transport.take? moment = some (got, transport) →
      LastRead link (accept got (link.reading transport))
  | lapsed {moment} : link.phase.isReading → IsLeast {moment | link.Lapses moment} moment →
      link.transport.take? moment = none →
      LastRead link { link with transport := link.transport.advance moment }

theorem isLeast_lapse (link : Link) :
    IsLeast {moment | link.Lapses moment}
      (link.since + readWait * max 1 ((link.now - link.since + readWait - 1) / readWait)) := by
  have wait : readWait = 500 := rfl
  rw [wait]
  refine ⟨⟨?_, _, Nat.lt_of_lt_of_le Nat.one_pos (Nat.le_max_left _ _), rfl⟩, ?_⟩
  · omega
  · rintro _ ⟨ahead, waits, some, rfl⟩
    omega

theorem lastRead_finishRead (link : Link) : LastRead link link.finishRead := by
  by_cases reads : link.phase.isReading
  · obtain ⟨moment, first, finished⟩ : ∃ moment, IsLeast {moment | link.Lapses moment} moment ∧
        link.finishRead = (link.poll? moment).getD (link.advance moment) :=
      ⟨_, link.isLeast_lapse, if_pos reads⟩
    rw [finished, poll?, if_pos reads]
    cases taken : link.transport.take? moment with
    | none => exact .lapsed reads first taken
    | some arrival => exact .arrived reads first taken
  · rw [finishRead, if_neg reads]
    exact .idle reads

/-- Whoever closes a link waits for its last read. -/
theorem exists_lastRead_of_close (link : Link) :
    ∃ left, LastRead link left ∧
      link.close = if left.phase = .failed then left else { left with phase := .notConnected } :=
  ⟨_, lastRead_finishRead link, rfl⟩

end Closing

end Link

end SolarTelemetry
