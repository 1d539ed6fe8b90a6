import SolarTelemetry.Proofs.Session.Querying
import SolarTelemetry.Proofs.Session.Wire
import SolarTelemetry.Session.Clocks

/-!
# Setting clocks

The reply that an attempt accepts decides what else it writes. If it tells a time, the sender gets
an acknowledgement, and all devices are told the time if the two clocks are more than ten seconds
apart; if it does not, nothing more is written and nothing is tried again.
-/

namespace SolarTelemetry

namespace Request

theorem words_eq (r : Request) (ws : List UInt32) :
    r.words ws = { r with body := r.body ++ ws.flatMap Bytes.ofWord32 } := by
  unfold words
  induction ws generalizing r with
  | nil => simp
  | cons w ws ih => simp [ih, word]

theorem words_of_empty {r : Request} (empty : r.body = []) (ws : List UInt32) :
    r.words ws = { r with body := ws.flatMap Bytes.ofWord32 } := by
  rw [words_eq, empty, List.nil_append]

/-- The octets of a request that is made of words, and so needs no zeros. -/
def wordsEncoded (ownSerial : UInt32) (packetId : UInt16) (control : UInt8) (target : Target)
    (controlWord : UInt16) (ws : List UInt32) : Bytes :=
  Header.encode
    { words := UInt8.ofNat (6 + ws.length)
      control
      destination := target
      destinationControl := controlWord
      source := ⟨0x007D, ownSerial⟩
      sourceControl := controlWord
      status := 0
      fragment := 0
      packetId := packetId ||| 0x8000 } ++ ws.flatMap Bytes.ofWord32

theorem length_flatMap_ofWord32 (ws : List UInt32) :
    (ws.flatMap Bytes.ofWord32).length = 4 * ws.length := by
  induction ws with
  | nil => rfl
  | cons w ws ih => simp [ih, Bytes.length_ofWord32, Nat.mul_add, Nat.add_comm]

theorem length_wordsEncoded (ownSerial : UInt32) (packetId : UInt16) (control : UInt8)
    (target : Target) (controlWord : UInt16) (ws : List UInt32) :
    (wordsEncoded ownSerial packetId control target controlWord ws).length =
      24 + 4 * ws.length := by
  rw [wordsEncoded, List.length_append, Header.length_encode, length_flatMap_ofWord32]
  rfl

theorem encode_of_words {r : Request} {ws : List UInt32} (body : r.body = ws.flatMap Bytes.ofWord32)
    (ownSerial : UInt32) (packetId : UInt16) :
    r.encode ownSerial packetId =
      wordsEncoded ownSerial packetId r.control.code r.target r.controlWord.code ws := by
  have length : r.body.length = 4 * ws.length := by
    rw [body, length_flatMap_ofWord32]
  have full : r.padding = 0 := by
    unfold padding
    omega
  have counted : (Header.length + r.body.length + r.padding) / 4 = 6 + ws.length := by
    rw [full, length, Header.length]
    omega
  rw [encode, header, counted, full, body, List.replicate_zero, List.append_nil]
  rfl

end Request

namespace Reply

variable {r : Reply} {offset : Nat} {w : UInt32}

theorem word_eq_ok_iff : r.word offset = .ok w ↔ r.body.word32At? offset = some w := by
  unfold word
  cases r.body.word32At? offset <;> simp

end Reply

/-! ## What a reply tells -/

theorem except_bind_eq_ok_iff {ε α β : Type} {first : Except ε α} {next : α → Except ε β} {b : β} :
    (first >>= next) = .ok b ↔ ∃ a, first = .ok a ∧ next a = .ok b := by
  cases first <;> simp [bind, Except.bind]

namespace Session

theorem ClockReading.ofReply_eq_ok_iff {reply : Reply} {reading : ClockReading} :
    ofReply reply = .ok reading ↔
      reply.object = .ok clockObject ∧ reply.word 40 = .ok reading.time ∧
        (∃ other, reply.word 44 = .ok other) ∧ reply.word 52 = .ok reading.zone := by
  unfold ofReply
  simp only [except_bind_eq_ok_iff, ← Reply.requireObject_eq_ok_iff]
  constructor
  · rintro ⟨_, about, time, first, other, second, zone, third, same⟩
    cases same
    exact ⟨about, first, ⟨other, second⟩, third⟩
  · rintro ⟨about, first, ⟨other, second⟩, third⟩
    exact ⟨(), about, reading.time, first, other, second, reading.zone, third, rfl⟩

/-- Two times and a zone are read from a reply that is about the clock and long enough. -/
theorem exists_reading_iff {reply : Reply} :
    (∃ reading, ClockReading.ofReply reply = .ok reading) ↔
      reply.object = .ok clockObject ∧ 56 ≤ reply.body.length := by
  constructor
  · rintro ⟨reading, read⟩
    obtain ⟨about, -, -, zone⟩ := ClockReading.ofReply_eq_ok_iff.mp read
    rw [Reply.word_eq_ok_iff] at zone
    obtain ⟨n, stands, -⟩ := Option.map_eq_some_iff.mp zone
    exact ⟨about, (Bytes.wordAt?_eq_some stands).1⟩
  · rintro ⟨about, long⟩
    have word {offset : Nat} (within : offset ≤ 52) : ∃ w, reply.word offset = .ok w := by
      simp only [Reply.word_eq_ok_iff]
      exact Bytes.exists_word32At? (Nat.le_trans (Nat.add_le_add_right within 4) long)
    obtain ⟨time, first⟩ := word (by decide : 40 ≤ 52)
    obtain ⟨zone, third⟩ := word (Nat.le_refl 52)
    have second := word (by decide : 44 ≤ 52)
    exact ⟨⟨time, zone⟩, ClockReading.ofReply_eq_ok_iff.mpr ⟨about, first, second, third⟩⟩

theorem isOff_iff {device now : UInt32} :
    isOff device now ↔ now.toNat + 10 < device.toNat ∨ device.toNat + 10 < now.toNat := by
  unfold isOff clockTolerance
  rw [decide_eq_true_iff]
  omega

/-! ## What an attempt writes -/

variable {σ : Type} [Channel σ]

/-- The words of a message that tells a time. -/
def timeWords (time zone : UInt32) : List UInt32 :=
  [0xF000020A, 0x00236D00, 0x00236D00, 0x00236D00, time, time, time, zone, 0, 1]

/-- The octets with which a clock is asked for. -/
def clockQuestion (ownSerial : UInt32) (packetId : UInt16) : Bytes :=
  Request.wordsEncoded ownSerial packetId 0xA0 ⟨0xFFFF, 0xFFFFFFFF⟩ 0
    [0xF000020A, 0x00236D00, 0x00236D00]

/-- What a time is answered with: an acknowledgement, and another time for all if the two are too
far apart. -/
def clockAnswer (ownSerial : UInt32) (packetId : UInt16) (address : Address) (sender : Target)
    (time zone now : UInt32) : List Posting :=
  let message := Request.wordsEncoded ownSerial packetId
  (address, message 0xE0 sender 0 (timeWords time zone)) ::
    if now.toNat + 10 < time.toNat ∨ time.toNat + 10 < now.toNat then
      [(.broadcast, message 0xA0 ⟨0xFFFF, 0xFFFFFFFF⟩ 0x0100 (timeWords now zone))]
    else []

theorem clockRequest_eq (target : Target) (time zone : UInt32) :
    clockRequest target time zone =
      { target, body := (timeWords time zone).flatMap Bytes.ofWord32 } :=
  Request.words_of_empty rfl (timeWords time zone)

theorem send_eq_write {request : Request} {ws : List UInt32}
    (body : request.body = ws.flatMap Bytes.ofWord32) (destination : Address)
    (packetId : UInt16) (s : Session σ) :
    send request destination packetId s =
      write (Request.wordsEncoded s.ownSerial packetId request.control.code request.target
        request.controlWord.code ws) destination s := by
  rw [← Request.encode_of_words body]
  rfl

/-- What an attempt does with a time is to answer it. -/
theorem tellTime_eq (packetId : UInt16) (address : Address) (sender : Target) (time zone : UInt32)
    (s : Session σ) :
    (do
      let acknowledgement := clockRequest sender time zone
      send { acknowledgement with control := .unsolicited } address packetId
      let now := Calendar.unixSeconds (← get).wallClock
      if isOff time now then
        send { clockRequest .any now zone with controlWord := .logon } .broadcast packetId) s =
      writeAll (clockAnswer s.ownSerial packetId address sender time zone
        (Calendar.unixSeconds s.wallClock)) s := by
  have acknowledging (s : Session σ) :
      send { clockRequest sender time zone with control := .unsolicited } address packetId s =
        write (Request.wordsEncoded s.ownSerial packetId 0xE0 sender 0 (timeWords time zone))
          address s := by
    rw [clockRequest_eq]
    exact send_eq_write rfl address packetId s
  have correcting (now : UInt32) (s : Session σ) :
      send { clockRequest .any now zone with controlWord := .logon } .broadcast packetId s =
        writeAll [(.broadcast, Request.wordsEncoded s.ownSerial packetId 0xA0 ⟨0xFFFF, 0xFFFFFFFF⟩
          0x0100 (timeWords now zone))] s := by
    rw [clockRequest_eq, writeAll_singleton]
    exact send_eq_write rfl .broadcast packetId s
  -- The wall clock is looked at after the acknowledgement, which leaves it as it was.
  obtain ⟨stream, left⟩ := exists_stream_of_write
    (Request.wordsEncoded s.ownSerial packetId 0xE0 sender 0 (timeWords time zone)) address s
  unfold clockAnswer writeAll
  cases acknowledged : write (Request.wordsEncoded s.ownSerial packetId 0xE0 sender 0
      (timeWords time zone)) address s with
  | error e t =>
    rw [Action.bind_of_error acknowledged]
    exact Action.bind_of_error ((acknowledging s).trans acknowledged)
  | ok _ t =>
    rw [acknowledged] at left
    have same : t = { s with stream } := left
    rw [Action.bind_of_ok acknowledged]
    apply (Action.bind_of_ok ((acknowledging s).trans acknowledged)).trans
    rw [Action.get_bind, same]
    simp only [isOff_iff]
    split
    · exact correcting _ _
    · rfl

section

variable {packetId : UInt16} {s asked heard : Session σ} {address : Address} {reply : Reply}
  (sent : write (clockQuestion s.ownSerial packetId) .broadcast s = .ok () asked)
  (received : receive packetId asked = .ok (address, reply) heard)

include sent in
theorem send_question :
    send (({ target := .any } : Request).words [clockCommand, clockIndex, clockIndex]) .broadcast
      packetId s = .ok () asked := by
  rw [Request.words_of_empty rfl]
  exact (send_eq_write rfl .broadcast packetId s).trans sent

include sent received

theorem syncClockOnce_of_error {e : ProtocolError}
    (wrong : ClockReading.ofReply reply = .error e) :
    syncClockOnce packetId s = .error (.protocol e) heard := by
  have refused : ofProtocol (ClockReading.ofReply reply) heard = .error (.protocol e) heard := by
    rw [wrong]
    rfl
  unfold syncClockOnce
  apply (Action.bind_of_ok (send_question sent)).trans
  apply (Action.bind_of_ok received).trans
  exact Action.bind_of_error refused

theorem syncClockOnce_of_ok {time zone : UInt32}
    (read : ClockReading.ofReply reply = .ok ⟨time, zone⟩) :
    syncClockOnce packetId s =
      writeAll (clockAnswer s.ownSerial packetId address reply.source time zone
        (Calendar.unixSeconds heard.wallClock)) heard := by
  have accepted : ofProtocol (ClockReading.ofReply reply) heard = .ok ⟨time, zone⟩ heard := by
    rw [read]
    rfl
  unfold syncClockOnce
  apply (Action.bind_of_ok (send_question sent)).trans
  apply (Action.bind_of_ok received).trans
  apply (Action.bind_of_ok accepted).trans
  obtain ⟨stream, written⟩ :=
    exists_stream_of_write (clockQuestion s.ownSerial packetId) .broadcast s
  rw [sent] at written
  obtain ⟨later, same⟩ := exists_stream_of_receive received
  have own : heard.ownSerial = s.ownSerial := by
    rw [show heard = _ from same, show asked = _ from written]
  rw [← own]
  exact tellTime_eq packetId address reply.source time zone heard

end

theorem short_wordsEncoded {ownSerial : UInt32} {packetId : UInt16} {control : UInt8}
    {target : Target} {controlWord : UInt16} {ws : List UInt32} (few : 24 + 4 * ws.length ≤ 111) :
    (Request.wordsEncoded ownSerial packetId control target controlWord ws).length ≤ maxShort := by
  rwa [Request.length_wordsEncoded]

@[simp] theorem length_timeWords (time zone : UInt32) : (timeWords time zone).length = 10 := rfl

theorem length_of_mem_clockAnswer {ownSerial : UInt32} {packetId : UInt16} {address : Address}
    {sender : Target} {time zone now : UInt32} :
    ∀ posting ∈ clockAnswer ownSerial packetId address sender time zone now,
      posting.2.length ≤ maxShort := by
  refine List.forall_mem_cons.mpr ⟨short_wordsEncoded (by simp), ?_⟩
  split
  · exact List.forall_mem_singleton.mpr (short_wordsEncoded (by simp))
  · simp

/-! ## What stands on the transport -/

section

variable {packetId : UInt16} {s asked heard : Session Link} {address : Address} {reply : Reply}
  (settled : s.link.Settled)
  (sent : write (clockQuestion s.ownSerial packetId) .broadcast s = .ok () asked)
  (received : receive packetId asked = .ok (address, reply) heard)

include settled sent received

/-- Until a reply has been accepted, it is the question. -/
theorem posts_of_heard : Posts s [(.broadcast, clockQuestion s.ownSerial packetId)] heard := by
  have short : (clockQuestion s.ownSerial packetId).length ≤ maxShort :=
    short_wordsEncoded (by decide)
  have posts := posts_write short settled .broadcast sent
  have silent := silent_receive packetId asked (posts.settled settled)
  rw [received] at silent
  exact posts.silent (.of_writes silent)

variable {time zone : UInt32} {answer : List Posting}
  (read : ClockReading.ofReply reply = .ok ⟨time, zone⟩)
  (answers : clockAnswer s.ownSerial packetId address reply.source time zone
    (Calendar.unixSeconds heard.wallClock) = answer)

include read answers

/-- Then comes the answer to a time, up to the first message of it that is not sent; and that is
final. -/
theorem posts_of_told {outcome : Outcome (Session Link) Unit}
    (once : syncClockOnce packetId s = outcome) :
    match outcome with
    | .ok _ t => Posts s ((.broadcast, clockQuestion s.ownSerial packetId) :: answer) t
    | .error e t => e.isTransient = false ∧ ∃ count,
        Posts s ((.broadcast, clockQuestion s.ownSerial packetId) :: answer.take count) t := by
  have asking := posts_of_heard settled sent received
  rw [syncClockOnce_of_ok sent received read, answers] at once
  have answering :=
    posts_writeAll (asking.settled settled) (answers ▸ length_of_mem_clockAnswer) once
  cases outcome with
  | ok _ t => exact asking.trans answering
  | error e t =>
    obtain ⟨final, count, posts⟩ := answering
    exact ⟨final, count, asking.trans posts⟩

/-- All of it is sent if the link is sound and the transport takes it. -/
theorem syncClockOnce_of_accepts (sound : heard.link.phase ≠ .failed)
    (accepts : heard.link.transport.Accepts answer.length) :
    ∃ t, syncClockOnce packetId s = .ok () t := by
  have standing := (posts_of_heard settled sent received).settled settled
  rw [syncClockOnce_of_ok sent received read, answers]
  exact writeAll_of_accepts standing (answers ▸ length_of_mem_clockAnswer) sound accepts

end

/-- The reply that an attempt accepts decides the rest of it, and the attempt is the last. If the
reply tells a time, what goes onto the transport behind the question, under the number of it, is the
answer: the sender gets an acknowledgement with its time and its zone, and all devices get the time
of this end with the same zone if the two are more than ten seconds apart. It goes out up to the
first message that the link cannot send. After any other reply nothing more is written. -/
theorem syncClock_exact {s start asked heard : Session Link} {k : Nat} {address : Address}
    {reply : Reply} (settled : s.link.Settled)
    (began : (RetryBudget.starts {} (exchange syncClockOnce) s)[k]? = some start)
    (sent : write (clockQuestion start.ownSerial start.numbering.current) .broadcast start.cleared =
      .ok () asked)
    (received : receive start.numbering.current asked = .ok (address, reply) heard) :
    let outcome : Outcome (Session Link) Unit := exchange syncClockOnce start
    let question : Posting := (.broadcast, clockQuestion start.ownSerial start.numbering.current)
    let stands := fun postings => outcome.state.link.transport.sent =
      start.link.transport.sent ++ start.posted postings
    (RetryBudget.starts {} (exchange syncClockOnce) s).length = k + 1 ∧ syncClock s = outcome ∧
    (reply.object = .ok 0xF000 ∧ 56 ≤ reply.body.length →
      ∃ time zone, reply.body.word32At? 40 = some time ∧ reply.body.word32At? 52 = some zone ∧
        let answer := clockAnswer start.ownSerial start.numbering.current address reply.source time
          zone (Calendar.unixSeconds heard.wallClock)
        (∃ count, stands (question :: answer.take count)) ∧
        (outcome.result = .ok () → stands (question :: answer)) ∧
        (heard.link.phase ≠ .failed → heard.link.transport.Accepts answer.length →
          outcome.result = .ok ())) ∧
    (¬(reply.object = .ok 0xF000 ∧ 56 ≤ reply.body.length) →
      ∃ e, outcome.result = .error (.protocol e) ∧ stands [question]) := by
  intro outcome question stands
  have standing : start.cleared.link.Settled := by
    have led := RetryBudget.leads_starts (leads_exchange leads_syncClockOnce) converses_sleep began
    obtain ⟨messages, -, writes⟩ := led settled
    exact writes.link.settled settled
  have ran {once : Outcome (Session Link) Unit}
      (same : syncClockOnce start.numbering.current start.cleared = once) :
      exchange syncClockOnce start = Outcome.mapState ended once :=
    (exchange_eq syncClockOnce start).trans (congrArg _ same)
  have left {postings : List Posting} {once : Outcome (Session Link) Unit}
      (same : syncClockOnce start.numbering.current start.cleared = once)
      (posts : Posts start.cleared postings once.state) : stands postings := by
    simp only [stands, outcome]
    rw [ran same, Outcome.state_mapState]
    exact posts.sent
  cases read : ClockReading.ofReply reply with
  | error e =>
    have once := syncClockOnce_of_error (s := start.cleared) sent received read
    obtain ⟨length, failed⟩ :=
      RetryBudget.starts_of_final began (ran once) (fun passing => nomatch passing.1)
    refine ⟨length, failed.trans (ran once).symm, fun tells => ?_, fun _ => ⟨e, ?_, ?_⟩⟩
    · obtain ⟨reading, told⟩ := exists_reading_iff.mpr tells
      rw [read] at told
      cases told
    · exact congrArg Outcome.result (ran once)
    · exact left once (posts_of_heard standing sent received)
  | ok reading =>
    obtain ⟨-, time, -, zone⟩ := ClockReading.ofReply_eq_ok_iff.mp read
    rw [Reply.word_eq_ok_iff] at time zone
    have tells := exists_reading_iff.mp ⟨reading, read⟩
    obtain ⟨answer, answers⟩ : ∃ answer, clockAnswer start.ownSerial start.numbering.current address
      reply.source reading.time reading.zone (Calendar.unixSeconds heard.wallClock) = answer :=
        ⟨_, rfl⟩
    have all := syncClockOnce_of_accepts standing sent received read answers
    cases once : syncClockOnce start.numbering.current start.cleared with
    | ok _ t =>
      have whole := left once (posts_of_told standing sent received read answers once)
      obtain ⟨length, passed⟩ := RetryBudget.starts_of_success began (ran once)
      refine ⟨length, passed.trans (ran once).symm, fun _ => ?_, fun silent => absurd tells silent⟩
      refine ⟨reading.time, reading.zone, time, zone, ?_⟩
      rw [answers]
      refine ⟨⟨answer.length, ?_⟩, fun _ => whole, fun _ _ => congrArg Outcome.result (ran once)⟩
      rw [List.take_length]
      exact whole
    | error e t =>
      obtain ⟨final, count, posts⟩ := posts_of_told standing sent received read answers once
      have part := left once posts
      obtain ⟨length, failed⟩ := RetryBudget.starts_of_final began (ran once) (by simp [final])
      refine ⟨length, failed.trans (ran once).symm, fun _ => ?_, fun silent => absurd tells silent⟩
      refine ⟨reading.time, reading.zone, time, zone, ?_⟩
      rw [answers]
      refine ⟨⟨count, part⟩, fun passed => ?_, fun sound accepts => ?_⟩
      · rw [show outcome = _ from ran once] at passed
        cases passed
      · obtain ⟨u, other⟩ := all sound accepts
        rw [once] at other
        cases other

/-- A reply about a clock, of so many octets behind its header. -/
def clockReply (length : Nat) (time zone : UInt32) : Reply where
  header := ⟨20, 0x90, ⟨0x7D, 7⟩, 0, ⟨0x83, 1⟩, 0, 0, 0, 0x8000⟩
  body := ([0xF000020A, 0, 0, 0, 0, 0, 0, 0, 0, 0, time, 0, 0, zone].flatMap Bytes.ofWord32).take
    length

set_option maxRecDepth 1000 in
/-- The clocks are farther apart than ever, though only by a few seconds if words went round: behind
the question stand an acknowledgement and the time. A reply that lacks the last octet of its zone
tells no time, and nothing is written but the question. -/
theorem syncClock_exact_around :
    let told : Session Link :=
      { replying [[(10, [clockReply 56 3 0x0E11])]] with wallClock := 4294967295 }
    let cut : Session Link :=
      { replying [[(10, [clockReply 55 3 0x0E11])]] with wallClock := 4294967295 }
    let message := Request.wordsEncoded 7 0x8000
    let question : Posting := (.broadcast, clockQuestion 7 0x8000)
    (∃ t, syncClock told = .ok () t ∧ t.link.transport.sent = told.posted
      [question, (.zero, message 0xE0 ⟨0x0083, 1⟩ 0 (timeWords 3 0x0E11)),
        (.broadcast, message 0xA0 ⟨0xFFFF, 0xFFFFFFFF⟩ 0x0100 (timeWords 4294967295 0x0E11))]) ∧
    ∃ e t, syncClock cut = .error (.protocol e) t ∧
      t.link.transport.sent = cut.posted [question] := by
  intro told cut message question
  -- Behind a variable each step is evaluated once only.
  constructor
  · generalize started : told = s
    have sent : write question.2 .broadcast s.cleared = .ok () _ := Outcome.eq_ok_of_result (by
      subst started
      decide +kernel)
    generalize asking : Outcome.state (write question.2 .broadcast s.cleared) = asked at sent
    have received : receive 0x8000 asked = .ok (.zero, clockReply 56 3 0x0E11) _ :=
      Outcome.eq_ok_of_result (by
        subst asking started
        decide +kernel)
    generalize hearing : Outcome.state (receive 0x8000 asked) = heard at received
    have ready : Calendar.unixSeconds heard.wallClock = 4294967295 ∧ heard.link.phase ≠ .failed ∧
        heard.link.transport.Accepts 2 := by
      subst hearing asking started
      decide +kernel
    have began := RetryBudget.getElem?_starts_zero {} (exchange syncClockOnce) s
    subst started
    obtain ⟨-, same, answers, -⟩ := syncClock_exact (.inl rfl) began sent received
    obtain ⟨time, zone, first, third, -, all, goes⟩ := answers ⟨by decide, by decide⟩
    have three : (clockReply 56 3 0x0E11).body.word32At? 40 = some 3 := by decide
    have winter : (clockReply 56 3 0x0E11).body.word32At? 52 = some 0x0E11 := by decide
    obtain rfl := Option.some.inj (first.symm.trans three)
    obtain rfl := Option.some.inj (third.symm.trans winter)
    rw [ready.1] at all goes
    have passed := goes ready.2.1 ready.2.2
    exact ⟨_, same.trans (Outcome.eq_ok_of_result (congrArg Except.toOption passed)), all passed⟩
  · generalize started : cut = s
    have sent : write question.2 .broadcast s.cleared = .ok () _ := Outcome.eq_ok_of_result (by
      subst started
      decide +kernel)
    generalize asking : Outcome.state (write question.2 .broadcast s.cleared) = asked at sent
    have received : receive 0x8000 asked = .ok (.zero, clockReply 55 3 0x0E11) _ :=
      Outcome.eq_ok_of_result (by
        subst asking started
        decide +kernel)
    have began := RetryBudget.getElem?_starts_zero {} (exchange syncClockOnce) s
    subst started
    obtain ⟨-, same, -, refused⟩ := syncClock_exact (.inl rfl) began sent received
    obtain ⟨e, failed, nothing⟩ := refused fun tells => absurd tells.2 (by decide)
    cases ran : exchange syncClockOnce cut with
    | ok _ t =>
      rw [ran] at failed
      cases failed
    | error e' t =>
      rw [ran] at same failed nothing
      cases failed
      exact ⟨e, t, same, nothing⟩

end Session

end SolarTelemetry
