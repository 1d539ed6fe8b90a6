import SolarTelemetry.Proofs.Session.Paging
import SolarTelemetry.Proofs.Session.Transactions

/-!
# What the last attempt collects

Between its request and its result an attempt at an archive does nothing but take frames off its
stream. The replies among them that carry its number are its pages, and whatever answers an attempt
that failed carries another number.
-/

namespace SolarTelemetry

namespace Session

variable {σ : Type} [Channel σ]

/-- Frames that a session takes off its stream one after the other. -/
inductive Reads : Session σ → List Delivery → Session σ → Prop where
  | nil {s} : Reads s [] s
  | cons {s t wait frame frames stream} : s.stream.read wait = .ok frame stream →
      Reads { s with stream } frames t → Reads s (frame :: frames) t

/-- The replies with a packet number among some frames. -/
def repliesAmong (packetId : UInt16) (frames : List Delivery) : List Reply :=
  frames.filterMap fun frame => replyTo? packetId frame.payload

/-- The same, each with where it came from. -/
def answersAmong (packetId : UInt16) (frames : List Delivery) : List (Address × Reply) :=
  frames.filterMap fun frame => (replyTo? packetId frame.payload).map (frame.source, ·)

/-- Of the frames that are read before a moment, one holds a reply with a packet number, and none
that was passed over does. -/
inductive FirstReply (deadline : Nat) (packetId : UInt16) :
    Session σ → List Delivery → Delivery → Reply → Session σ → Prop where
  | found {s frame reply stream} : Clock.now s < deadline →
      s.stream.read (deadline - Clock.now s) = .ok frame stream →
      replyTo? packetId frame.payload = some reply →
      FirstReply deadline packetId s [] frame reply { s with stream }
  | passed {s t other frames frame reply stream} : Clock.now s < deadline →
      s.stream.read (deadline - Clock.now s) = .ok other stream →
      replyTo? packetId other.payload = none →
      FirstReply deadline packetId { s with stream } frames frame reply t →
      FirstReply deadline packetId s (other :: frames) frame reply t

section

variable {s t u : Session σ} {frames more passed : List Delivery} {frame : Delivery}
  {deadline : Nat} {packetId : UInt16} {address : Address} {reply : Reply}

theorem Reads.append (first : Reads s frames t) (second : Reads t more u) :
    Reads s (frames ++ more) u := by
  induction first with
  | nil => exact second
  | cons read _ ih => exact .cons read (ih second)

theorem packetId_of_mem_repliesAmong (member : reply ∈ repliesAmong packetId frames) :
    reply.packetId = packetId &&& ~~~Request.packetFlag := by
  obtain ⟨frame, -, found⟩ := List.mem_filterMap.mp member
  exact of_decide_eq_true (Option.filter_eq_some_iff.mp found).2

/-- A frame that was read is looked at, and if it holds no reply with the number, the next is. -/
theorem receiveUntil_of_read {frame : Delivery} {stream : FrameStream σ}
    (early : Clock.now s < deadline)
    (read : s.stream.read (deadline - Clock.now s) = .ok frame stream) :
    receiveUntil deadline packetId s =
      match replyTo? packetId frame.payload with
      | some reply => .ok (frame.source, reply) { s with stream }
      | none => receiveUntil deadline packetId { s with stream } := by
  rw [receiveUntil]
  simp only [if_neg (Nat.not_le.mpr early)]
  split
  · next other =>
    rw [read] at other
    cases other
  · next other =>
    rw [read] at other
    cases other
    cases decoded : Reply.decode frame.payload with
    | error e => rw [replyTo?_of_malformed decoded]
    | ok reply =>
      rw [replyTo?_of_decoded decoded]
      by_cases wanted : reply.packetId = packetId &&& ~~~Request.packetFlag
      · simp only [if_pos wanted]
      · simp only [if_neg wanted]

theorem exists_firstReply_of_receiveUntil
    (ran : receiveUntil deadline packetId s = .ok (address, reply) t) :
    ∃ passed frame, FirstReply deadline packetId s passed frame reply t ∧
      frame.source = address := by
  fun_induction receiveUntil deadline packetId s with
  | case1 => cases ran
  | case2 => cases ran
  | case3 s now early frame stream read e malformed ih =>
    obtain ⟨passed, last, first, source⟩ := ih ran
    have stray : replyTo? packetId frame.payload = none := replyTo?_of_malformed malformed
    exact ⟨frame :: passed, last, .passed (Nat.lt_of_not_le early) read stray first, source⟩
  | case4 s now early frame stream read got decoded wanted =>
    cases ran
    have own : replyTo? packetId frame.payload = some reply := by
      rw [replyTo?_of_decoded decoded, if_pos wanted]
    exact ⟨[], frame, .found (Nat.lt_of_not_le early) read own, rfl⟩
  | case5 s now early frame stream read got decoded other ih =>
    obtain ⟨passed, last, first, source⟩ := ih ran
    have stray : replyTo? packetId frame.payload = none := by
      rw [replyTo?_of_decoded decoded, if_neg other]
    exact ⟨frame :: passed, last, .passed (Nat.lt_of_not_le early) read stray first, source⟩

theorem FirstReply.receiveUntil_eq (first : FirstReply deadline packetId s passed frame reply t) :
    receiveUntil deadline packetId s = .ok (frame.source, reply) t := by
  induction first with
  | found early read own => rw [receiveUntil_of_read early read, own]
  | passed early read stray _ ih => rw [receiveUntil_of_read early read, stray, ih]

/-- To receive is to take the first reply, if there is one in time. -/
theorem receive_eq_ok_iff :
    receive packetId s = .ok (address, reply) t ↔ ∃ passed frame,
      FirstReply (Clock.now s + s.timeout) packetId s passed frame reply t ∧
        frame.source = address := by
  constructor
  · exact exists_firstReply_of_receiveUntil
  · rintro ⟨passed, frame, first, rfl⟩
    exact first.receiveUntil_eq

theorem FirstReply.reads (first : FirstReply deadline packetId s passed frame reply t) :
    Reads s (passed ++ [frame]) t := by
  induction first with
  | found _ read => exact .cons read .nil
  | passed _ read _ _ ih => exact .cons read ih

theorem FirstReply.answersAmong_eq
    (first : FirstReply deadline packetId s passed frame reply t) :
    answersAmong packetId (passed ++ [frame]) = [(frame.source, reply)] := by
  induction first with
  | found _ _ own => simp [answersAmong, own]
  | passed _ _ stray _ ih => simpa [answersAmong, stray] using ih

theorem answersAmong_append (packetId : UInt16) (frames more : List Delivery) :
    answersAmong packetId (frames ++ more) =
      answersAmong packetId frames ++ answersAmong packetId more :=
  List.filterMap_append

theorem repliesAmong_eq (packetId : UInt16) (frames : List Delivery) :
    repliesAmong packetId frames = (answersAmong packetId frames).map Prod.snd := by
  simp [repliesAmong, answersAmong, List.map_filterMap, Function.comp_def]

theorem exists_reads_of_receive (ran : receive packetId s = .ok (address, reply) t) :
    ∃ frames, Reads s frames t ∧ answersAmong packetId frames = [(address, reply)] := by
  obtain ⟨passed, frame, first, rfl⟩ := receive_eq_ok_iff.mp ran
  exact ⟨passed ++ [frame], first.reads, first.answersAmong_eq⟩

theorem exists_reads_of_received {replies : List Reply} (received : Received packetId s replies t) :
    ∃ frames, Reads s frames t ∧ repliesAmong packetId frames = replies := by
  induction received with
  | nil => exact ⟨[], .nil, rfl⟩
  | cons first _ ih =>
    obtain ⟨frames, reads, found⟩ := exists_reads_of_receive first
    obtain ⟨more, others, rest⟩ := ih
    refine ⟨frames ++ more, reads.append others, ?_⟩
    rw [repliesAmong, List.filterMap_append, ← repliesAmong, ← repliesAmong,
      repliesAmong_eq packetId frames, found, rest]
    rfl

end

section

variable {serial : UInt32} {kind : Archive.Kind} {first last : UInt32} {s t : Session σ}

/-- The number of an attempt at an archive that failed. -/
def FailedArchive (serial : UInt32) (kind : Archive.Kind) (first last : UInt32) (s : Session σ)
    (packetId : UInt16) : Prop :=
  ∃ budget t e u, RetryBudget.Retried (tryArchive serial kind first last) {} s budget t ∧
    tryArchive serial kind first last t = .error e u ∧ t.numbering.current = packetId

/-- A number of an attempt that failed is not the one under which the pages were collected. -/
theorem FailedArchive.ne_of_asked {failed packetId : UInt16} {asked : Session σ}
    {entries : List Archive.Entry} (h : FailedArchive serial kind first last s failed)
    (succeeds : AskedArchive serial kind first last s packetId asked)
    (collected : collectPages kind packetId [] asked = .ok entries t) :
    packetId &&& ~~~Request.packetFlag ≠ failed &&& ~~~Request.packetFlag := by
  obtain ⟨b, u, e, v, before, ran, rfl⟩ := h
  obtain ⟨d, w, device, whole, found, rfl, sent⟩ := succeeds
  have success := tryArchive_of_sent found sent
  rw [collected] at success
  obtain ⟨j, one⟩ := before.exists_getElem?_starts
  obtain ⟨k, other⟩ := whole.exists_getElem?_starts
  intro same
  have alike : w = u := eq_of_unflagged_starts
    (fun failed => numbering_of_transient (fun d _ => keepsTo_fetchOnce d kind first last) failed)
    other one same
  rw [alike, ran] at success
  cases success

/-- What an archive read returns. -/
theorem readArchive_exact (serial : UInt32) (kind : Archive.Kind) (first last : UInt32)
    (s : Session σ) :
    (∀ entries s', readArchive serial kind first last s = .ok entries s' →
      ∃ packetId asked frames before final t,
        AskedArchive serial kind first last s packetId asked ∧ Reads asked frames t ∧
        s' = t.ended ∧ repliesAmong packetId frames = before ++ [final] ∧
        (∀ page ∈ before, page.header.fragment ≠ 0) ∧ final.header.fragment = 0 ∧
        entries = ((before ++ [final]).flatMap fun page =>
          Archive.entriesOf kind page.records).filter
            (fun entry => first ≤ entry.time && entry.time ≤ last) ∧
        ∀ failed, FailedArchive serial kind first last s failed →
          ∀ page ∈ before ++ [final], page.packetId ≠ failed &&& ~~~Request.packetFlag) ∧
    ∀ pages reply t other, LooksAt serial kind first last s pages reply t →
      reply.object = .ok other → other ≠ kind.object →
      readArchive serial kind first last s =
        .error (.protocol (.unexpectedObject kind.object other)) t.ended := by
  constructor
  · intro entries s' ran
    obtain ⟨packetId, asked, all, t, h, collected, ended, rfl⟩ :=
      exists_askedArchive_of_readArchive ran
    obtain ⟨before, final, received, taken, -, stops, rfl⟩ := exists_of_collectPages collected
    obtain ⟨frames, reads, found⟩ := exists_reads_of_received received
    refine ⟨packetId, asked, frames, before, final, t, h, reads, ended, found, ?_, ?_, rfl, ?_⟩
    · intro page member
      exact bne_iff_ne.mp (taken page member).2
    · exact bne_eq_false_iff_eq.mp stops
    · intro failed attempted page member
      rw [packetId_of_mem_repliesAmong (found ▸ member)]
      exact attempted.ne_of_asked h collected
  · intro pages reply t other looked named different
    apply looked.readArchive_eq.1
    unfold Reply.requireObject
    rw [named]
    exact if_neg different

end

/-- A page that came before a timeout is not kept, and what was late for the attempt is passed over;
an answer about another archive ends the read. -/
theorem readArchive_exact_retried :
    let page (packetId fragment : UInt16) (time : UInt8) : Reply :=
      { samplePage fragment time with
        header := { (samplePage fragment time).header with packetId } }
    let s : Session Link := { answered [] with
      stream.channel.transport.reactions :=
        [[.answer 10 (.octets (packed [page 0x8000 1 9]))],
         [.answer 10 (.octets (packed [page 0x8000 0 9])),
          .answer 12 (.octets (packed [page 0x8001 1 7])),
          .answer 14 (.octets (packed [page 0x8001 0 8]))]] }
    let stray : Reply := { samplePage 0 9 with body := [0x01, 0x02, 0x20, 0x70] }
    (∃ s', readArchive 1 .dayData 0 20 s = .ok [.sample ⟨7, 1000⟩, .sample ⟨8, 1000⟩] s' ∧
      FailedArchive 1 .dayData 0 20 s 0x8000 ∧
      ∃ pages : List Reply, (∀ page ∈ pages, page.packetId ≠ 0) ∧
        [.sample ⟨7, 1000⟩, .sample ⟨8, 1000⟩] =
          (pages.flatMap fun page => Archive.entriesOf .dayData page.records).filter
            (fun entry => 0 ≤ entry.time && entry.time ≤ 20)) ∧
    ∃ t, LooksAt 1 .dayData 0 20 (answered [(10, [stray])]) [] stray t ∧
      readArchive 1 .dayData 0 20 (answered [(10, [stray])]) =
        .error (.protocol (.unexpectedObject 0x7000 0x7020)) t.ended := by
  intro page s stray
  constructor
  · generalize started : s = s
    have ran : readArchive 1 .dayData 0 20 s =
        .ok [.sample ⟨7, 1000⟩, .sample ⟨8, 1000⟩] _ := Outcome.eq_ok_of_result (by
      subst started
      decide +kernel)
    have failed : FailedArchive 1 .dayData 0 20 s 0x8000 := by
      have nothing : (Outcome.result (tryArchive 1 .dayData 0 20 s)).toOption = none := by
        subst started
        decide +kernel
      cases tried : tryArchive 1 .dayData 0 20 s with
      | ok entries t =>
        rw [tried] at nothing
        cases nothing
      | error e t =>
        refine ⟨{}, s, e, t, .none, tried, ?_⟩
        subst started
        rfl
    obtain ⟨packetId, asked, frames, before, final, t, h, reads, ended, found, more, stops, entries,
      apart⟩ := (readArchive_exact 1 .dayData 0 20 s).1 _ _ ran
    exact ⟨_, ran, failed, before ++ [final], apart _ failed, entries⟩
  · generalize started : answered [(10, [stray])] = s
    have found : device 1 s = .ok ⟨1, 0x83, .zero, false⟩ s := by
      subst started
      rfl
    have sent : send (.query ⟨0x83, 1⟩ 0x7000 0 20) .zero 0x8000 s.cleared = .ok () _ :=
      Outcome.eq_ok_of_result (by
        subst started
        decide +kernel)
    have received : receive 0x8000 (Outcome.state
        (send (.query ⟨0x83, 1⟩ 0x7000 0 20) .zero 0x8000 s.cleared)) = .ok (.zero, stray) _ :=
      Outcome.eq_ok_of_result (by
        subst started
        decide +kernel)
    have looked : LooksAt 1 .dayData 0 20 s [] stray _ :=
      ⟨0x8000, _, _, .zero, ⟨{}, s, _, .none, found, by subst started; rfl, sent⟩, .nil, by simp,
        received⟩
    have named : stray.object = .ok 0x7020 := by decide +kernel
    exact ⟨_, looked, (readArchive_exact 1 .dayData 0 20 s).2 [] stray _ _ looked named (by decide)⟩

end Session

end SolarTelemetry
