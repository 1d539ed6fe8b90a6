import SolarTelemetry.Proofs.Link.Reading
import SolarTelemetry.Proofs.Session.Archives
import SolarTelemetry.Session

/-!
# Which pages an archive read gets

The replies that a session receives under a number are those among the frames that its channel is
still to deliver. A link delivers the last payload of every moment, so an archive read gets every
page, unless a payload that is completed at the same moment takes the place of one before.
-/

namespace SolarTelemetry

/-- Every payload that waits or will be completed, whether or not it will be read. -/
def Link.oncoming (link : Link) : List Delivery := link.queue.toList ++ link.upcoming.map Prod.snd

theorem Link.supply_eq_oncoming {link : Link}
    (apart : (link.upcoming.map Prod.fst).Pairwise (· < ·)) : link.supply = link.oncoming := by
  rw [supply, survivors_of_pairwise apart, oncoming]

/-- Replies of which each but the last announces another. -/
def Reply.IsSeries (replies : List Reply) : Prop :=
  ∃ before last, replies = before ++ [last] ∧ (∀ reply ∈ before, reply.hasMore) ∧
    last.hasMore = false

/-- Where a series begins, no other does. -/
theorem Reply.IsSeries.unique {replies others rest rest' : List Reply} (series : IsSeries replies)
    (also : IsSeries others) (same : replies ++ rest = others ++ rest') : replies = others := by
  obtain ⟨before, last, rfl, more, stops⟩ := series
  obtain ⟨before', last', rfl, more', stops'⟩ := also
  induction before generalizing before' with
  | nil =>
    cases before' with
    | nil => rw [(List.cons.inj same).1]
    | cons reply before' =>
      have goesOn := more' reply List.mem_cons_self
      rw [← (List.cons.inj same).1, stops] at goesOn
      cases goesOn
  | cons reply before ih =>
    cases before' with
    | nil =>
      have goesOn := more reply List.mem_cons_self
      rw [(List.cons.inj same).1, stops'] at goesOn
      cases goesOn
    | cons reply' before' =>
      obtain ⟨rfl, tail⟩ := List.cons.inj same
      have others := ih (fun r member => more r (List.mem_cons_of_mem _ member)) before' tail
        (fun r member => more' r (List.mem_cons_of_mem _ member))
      exact congrArg (reply :: ·) others

namespace Session

/-- The reply that a frame holds, if it carries a packet number. -/
def replyTo? (packetId : UInt16) (payload : Bytes) : Option Reply :=
  (Reply.decode payload).toOption.filter (·.packetId = packetId &&& ~~~Request.packetFlag)

theorem replyTo?_of_malformed {packetId : UInt16} {payload : Bytes} {e : ProtocolError}
    (malformed : Reply.decode payload = .error e) : replyTo? packetId payload = none := by
  simp [replyTo?, malformed, Except.toOption]

theorem replyTo?_of_decoded {packetId : UInt16} {payload : Bytes} {reply : Reply}
    (decoded : Reply.decode payload = .ok reply) :
    replyTo? packetId payload =
      if reply.packetId = packetId &&& ~~~Request.packetFlag then some reply else none := by
  simp [replyTo?, decoded, Except.toOption, Option.filter_some]

section

variable {σ : Type} [Channel σ] (packetId : UInt16) (supply : σ → List Delivery)

/-- The replies with a packet number among the frames that a channel is to deliver. -/
def repliesTo (s : Session σ) : List Reply :=
  (s.stream.expected supply).filterMap fun verdict => verdict.bind (replyTo? packetId)

variable {packetId supply} (law : ∀ {wait c d c'}, Channel.receive wait c = .ok (some d) c' →
  supply c = d :: supply c')

include law

/-- A frame that is read is the first of those to be delivered. -/
theorem repliesTo_read {wait : Nat} {s : Session σ} {frame : Delivery} {stream : FrameStream σ}
    (read : s.stream.read wait = .ok frame stream) :
    repliesTo packetId supply s =
      (replyTo? packetId frame.payload).toList ++ repliesTo packetId supply { s with stream } := by
  rw [repliesTo, FrameStream.expected_read law read, List.filterMap_cons, Option.bind_some]
  cases replyTo? packetId frame.payload <;> rfl

theorem repliesTo_receiveUntil {deadline : Nat} {s t : Session σ} {address : Address}
    {reply : Reply} (ran : receiveUntil deadline packetId s = .ok (address, reply) t) :
    repliesTo packetId supply s = reply :: repliesTo packetId supply t := by
  fun_induction receiveUntil deadline packetId s with
  | case1 => cases ran
  | case2 => cases ran
  | case3 s now early frame stream read e decoded ih =>
    rw [← ih ran, repliesTo_read law read, replyTo?_of_malformed decoded]
    rfl
  | case4 s now early frame stream read got decoded wanted =>
    cases ran
    rw [repliesTo_read law read, replyTo?_of_decoded decoded, if_pos wanted]
    rfl
  | case5 s now early frame stream read got decoded other ih =>
    rw [← ih ran, repliesTo_read law read, replyTo?_of_decoded decoded, if_neg other]
    rfl

theorem repliesTo_received {s t : Session σ} {replies : List Reply}
    (received : Received packetId s replies t) :
    repliesTo packetId supply s = replies ++ repliesTo packetId supply t := by
  induction received with
  | nil => rfl
  | cons first _ ih => rw [repliesTo_receiveUntil law first, ih, List.cons_append]

end

section

variable {serial : UInt32} {kind : Archive.Kind} {first last : UInt32} {s s' : Session Link}
  {entries : List Archive.Entry}

/-- An archive read over a link takes the first series of replies to its request among those that
the link delivers. The link keeps the newest unread payload only; so where no two payloads are
completed at the same moment, the entries of every page that the device sent are there. -/
theorem readArchive_complete (ran : readArchive serial kind first last s = .ok entries s') :
    ∃ packetId asked pages t, AskedArchive serial kind first last s packetId asked ∧
      Received packetId asked pages t ∧ s' = t.ended ∧
      Reply.IsSeries pages ∧ pages <+: repliesTo packetId Link.supply asked ∧
      entries = Archive.within first last (entriesOfPages kind pages) ∧
      ((asked.link.upcoming.map Prod.fst).Pairwise (· < ·) → ∀ fragments,
        Reply.IsSeries fragments → fragments <+: repliesTo packetId Link.oncoming asked →
        ∀ fragment ∈ fragments, ∀ entry ∈ Archive.entriesOf kind fragment.records,
          first ≤ entry.time → entry.time ≤ last → entry ∈ entries) := by
  obtain ⟨packetId, asked, before, final, t, h, received, ended, taken, -, stops, rfl⟩ :=
    exists_of_readArchive ran
  have series : Reply.IsSeries (before ++ [final]) :=
    ⟨before, final, rfl, fun page member => (taken page member).2, stops⟩
  have delivered := repliesTo_received Link.supply_read received
  refine ⟨packetId, asked, before ++ [final], t, h, received, ended, series, ⟨_, delivered.symm⟩,
    rfl, ?_⟩
  intro apart fragments also sent fragment member entry found early late
  obtain ⟨rest, sent⟩ := sent
  have complete : Link.supply asked.stream.channel = Link.oncoming asked.stream.channel :=
    Link.supply_eq_oncoming apart
  rw [repliesTo, FrameStream.expected, complete] at delivered
  have same : fragments = before ++ [final] := also.unique series (sent.trans delivered)
  rw [Archive.within, List.mem_filter, entriesOfPages, List.mem_flatMap]
  refine ⟨⟨fragment, same ▸ member, found⟩, ?_⟩
  simp [early, late]

end

/-- A page of one sample. -/
def samplePage (fragment : UInt16) (time : UInt8) : Reply where
  header := ⟨12, 0x90, ⟨0x7D, 7⟩, 0, ⟨0x83, 1⟩, 0, 0, fragment, 0x8000⟩
  body := [0x01, 0x02, 0x00, 0x70, 0, 0, 0, 0, 0, 0, 0, 0] ++
    [time, 0, 0, 0, 0xE8, 0x03, 0, 0, 0, 0, 0, 0]

/-- The octets of packets that each hold one reply. -/
def packed (replies : List Reply) : Bytes := replies.flatMap fun reply =>
  let frame := Frame.sync ::
    (Frame.stuff (FrameFormat.assemble {} (reply.header.encode ++ reply.body)) ++ [Frame.sync])
  (Packet.of .data .zero .broadcast frame).encode.toOption.getD []

/-- A session whose next request is answered in bursts. -/
def answered (bursts : List (Nat × List Reply)) : Session Link where
  stream :=
    { channel :=
        { transport :=
            { reactions := [bursts.map fun burst => .answer burst.1 (.octets (packed burst.2))] }
          phase := .connected } }
  ownSerial := 7
  timeout := 1000
  wallClock := 0
  devices := [⟨1, 0x83, .zero, false⟩]

/-- A session that knows no device yet and of which each request is answered in bursts. -/
def replying (requests : List (List (Nat × List Reply))) : Session Link where
  stream :=
    { channel :=
        { transport :=
            { reactions := requests.map fun bursts =>
                bursts.map fun burst => .answer burst.1 (.octets (packed burst.2)) }
          phase := .connected } }
  ownSerial := 7
  timeout := 1000
  wallClock := 0

/-- Two pages that arrive one after the other are both read. -/
theorem readArchive_complete_apart :
    ∃ entries s', readArchive 1 .dayData 0 20
        (answered [(10, [samplePage 1 9]), (12, [samplePage 0 8])]) = .ok entries s' ∧
      .sample ⟨9, 1000⟩ ∈ entries ∧ .sample ⟨8, 1000⟩ ∈ entries := by
  generalize started : answered [(10, [samplePage 1 9]), (12, [samplePage 0 8])] = s
  have ran : readArchive 1 .dayData 0 20 s =
      .ok [.sample ⟨9, 1000⟩, .sample ⟨8, 1000⟩] _ := Outcome.eq_ok_of_result (by
    subst started
    decide +kernel)
  have tried : tryArchive 1 .dayData 0 20 s =
      .ok [.sample ⟨9, 1000⟩, .sample ⟨8, 1000⟩] _ := Outcome.eq_ok_of_result (by
    subst started
    decide +kernel)
  obtain ⟨packetId, asked, pages, t, h, -, -, -, -, -, complete⟩ := readArchive_complete ran
  obtain ⟨device, found, rfl, sent⟩ := h.sent_of_tryArchive tried
  obtain rfl : device = ⟨1, 0x83, .zero, false⟩ := by
    subst started
    cases found
    rfl
  have state : Outcome.state (send (.query ⟨0x83, 1⟩ 0x7000 0 20) .zero s.numbering.current
      s.cleared) = asked := congrArg Outcome.state sent
  have apart : (asked.link.upcoming.map Prod.fst).Pairwise (· < ·) := by
    subst state started
    decide +kernel
  have replies : repliesTo s.numbering.current Link.oncoming asked =
      [samplePage 1 9, samplePage 0 8] := by
    subst state started
    decide +kernel
  have series : Reply.IsSeries [samplePage 1 9, samplePage 0 8] :=
    ⟨[samplePage 1 9], samplePage 0 8, rfl, by decide, rfl⟩
  have all := complete apart _ series (replies ▸ List.prefix_refl _)
  have nine : .sample ⟨9, 1000⟩ ∈ Archive.entriesOf .dayData (samplePage 1 9).records := by
    decide +kernel
  have eight : .sample ⟨8, 1000⟩ ∈ Archive.entriesOf .dayData (samplePage 0 8).records := by
    decide +kernel
  exact ⟨_, _, ran, all _ (by decide) _ nine (by decide) (by decide),
    all _ (by decide) _ eight (by decide) (by decide)⟩

/-- Of two pages that arrive in one burst only the second is read. -/
theorem readArchive_overrun :
    ∃ asked, AskedArchive 1 .dayData 0 20 (answered [(10, [samplePage 1 9, samplePage 0 8])])
        0x8000 asked ∧
      Reply.IsSeries [samplePage 1 9, samplePage 0 8] ∧
      repliesTo 0x8000 Link.oncoming asked = [samplePage 1 9, samplePage 0 8] ∧
      ∃ entry ∈ Archive.entriesOf .dayData (samplePage 1 9).records,
        0 ≤ entry.time ∧ entry.time ≤ 20 ∧
        ∃ entries s', readArchive 1 .dayData 0 20
            (answered [(10, [samplePage 1 9, samplePage 0 8])]) = .ok entries s' ∧
          entry ∉ entries := by
  generalize started : answered [(10, [samplePage 1 9, samplePage 0 8])] = s
  have found : device 1 s = .ok ⟨1, 0x83, .zero, false⟩ s := by
    subst started
    rfl
  have sent : send (.query ⟨0x83, 1⟩ 0x7000 0 20) .zero 0x8000 s.cleared = .ok () _ :=
    Outcome.eq_ok_of_result (by
      subst started
      decide +kernel)
  have ran : readArchive 1 .dayData 0 20 s = .ok [.sample ⟨8, 1000⟩] _ :=
    Outcome.eq_ok_of_result (by
      subst started
      decide +kernel)
  have series : Reply.IsSeries [samplePage 1 9, samplePage 0 8] :=
    ⟨[samplePage 1 9], samplePage 0 8, rfl, by decide, rfl⟩
  have nine : .sample ⟨9, 1000⟩ ∈ Archive.entriesOf .dayData (samplePage 1 9).records := by
    decide +kernel
  refine ⟨_, ⟨{}, s, _, .none, found, ?_, sent⟩, series, ?_, .sample ⟨9, 1000⟩, nine, by decide,
    by decide, _, _, ran, by decide⟩
  · subst started
    rfl
  · subst started
    decide +kernel

end Session

end SolarTelemetry
