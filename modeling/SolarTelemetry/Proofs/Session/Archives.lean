import SolarTelemetry.Channel.Script
import SolarTelemetry.Proofs.Attempts
import SolarTelemetry.Proofs.Frame.Stream
import SolarTelemetry.Proofs.Session.Receiving
import SolarTelemetry.Session.Archives
import SolarTelemetry.Session.Readings

/-!
# What an archive read takes in

An archive read goes through the replies to its request one after the other, takes the entries of
each that is about the right object, and stops at the first that announces no other or is about
something else. Neither the sender of a reply nor its status has any part in that.
-/

namespace SolarTelemetry.Session

variable {σ : Type} [Channel σ]

/-- The entries of pages, in order. -/
def entriesOfPages (kind : Archive.Kind) (pages : List Reply) : List Archive.Entry :=
  pages.flatMap fun page => Archive.entriesOf kind page.records

/-- A reply that an archive read takes the entries of. -/
def IsPage (kind : Archive.Kind) (reply : Reply) : Prop := reply.requireObject kind.object = .ok ()

section

variable {kind : Archive.Kind} {packetId : UInt16} {entries : List Archive.Entry}
  {s t : Session σ} {address : Address} {reply : Reply}

theorem collectPages_of_reply (received : receive packetId s = .ok (address, reply) t) :
    collectPages kind packetId entries s =
      match reply.requireObject kind.object with
      | .error e => .error (.protocol e) t
      | .ok () =>
        if reply.hasMore then
          collectPages kind packetId (entries ++ Archive.entriesOf kind reply.records) t
        else .ok (entries ++ Archive.entriesOf kind reply.records) t := by
  rw [collectPages]
  split
  · next same =>
    rw [received] at same
    cases same
  · next same =>
    rw [received] at same
    cases same
    rfl

end

/-- Pages that announce another are passed one after the other. -/
theorem collectPages_of_received {kind : Archive.Kind} {packetId : UInt16} {s t : Session σ}
    {pages : List Reply} (received : Received packetId s pages t)
    (taken : ∀ page ∈ pages, IsPage kind page ∧ page.hasMore) (entries : List Archive.Entry) :
    collectPages kind packetId entries s =
      collectPages kind packetId (entries ++ entriesOfPages kind pages) t := by
  induction received generalizing entries with
  | nil => rw [entriesOfPages, List.flatMap_nil, List.append_nil]
  | cons first _ ih =>
    obtain ⟨page, more⟩ := taken _ List.mem_cons_self
    have others := ih fun q member => taken q (List.mem_cons_of_mem _ member)
    rw [collectPages_of_reply first, page]
    simp only [more, if_true]
    rw [others, List.append_assoc]
    rfl

/-- What has been collected is the entries of the pages up to the first that announces no other. -/
theorem exists_of_collectPages {kind : Archive.Kind} {packetId : UInt16}
    {entries all : List Archive.Entry} {s t : Session σ}
    (ran : collectPages kind packetId entries s = .ok all t) :
    ∃ before last, Received packetId s (before ++ [last]) t ∧
      (∀ page ∈ before, IsPage kind page ∧ page.hasMore) ∧ IsPage kind last ∧
      last.hasMore = false ∧ all = entries ++ entriesOfPages kind (before ++ [last]) := by
  fun_induction collectPages kind packetId entries s with
  | case1 => cases ran
  | case2 => cases ran
  | case3 entries s address reply u received page entries' more ih =>
    obtain ⟨before, last, others, taken, final, stops, rfl⟩ := ih ran
    refine ⟨reply :: before, last, .cons received others, ?_, final, stops, ?_⟩
    · intro q member
      rcases List.mem_cons.mp member with rfl | later
      · exact ⟨page, more⟩
      · exact taken q later
    · exact List.append_assoc _ _ _
  | case4 entries s address reply u received page entries' stops =>
    obtain ⟨same, rfl⟩ := EStateM.Result.ok.inj ran
    refine ⟨[], reply, .cons received .nil, ?_, page, Bool.eq_false_iff.mpr stops, ?_⟩
    · intro q member
      cases member
    · rw [← same, List.nil_append, entriesOfPages, List.flatMap_singleton]

/-- One attempt at an archive. -/
def tryArchive (serial : UInt32) (kind : Archive.Kind) (first last : UInt32) :
    Action (Session σ) (List Archive.Entry) := do
  let device ← device serial
  exchange (fetchOnce device kind first last)

/-- A session in which an attempt at an archive has just sent its request under a packet number. -/
def AskedArchive (serial : UInt32) (kind : Archive.Kind) (first last : UInt32) (s : Session σ)
    (packetId : UInt16) (asked : Session σ) : Prop :=
  ∃ budget t device, RetryBudget.Retried (tryArchive serial kind first last) {} s budget t ∧
    Session.device serial t = .ok device t ∧ t.numbering.current = packetId ∧
    send (.query device.target kind.object first last) device.address packetId t.cleared =
      .ok () asked

section

variable {serial : UInt32} {kind : Archive.Kind} {first last : UInt32} {s s' : Session σ}
  {entries : List Archive.Entry}

theorem readArchive_eq : readArchive serial kind first last s =
    match withRetries (tryArchive serial kind first last) s with
    | .ok entries t => .ok (Archive.within first last entries) t
    | .error e t => .error e t := by
  change EStateM.bind (withRetries (tryArchive serial kind first last)) _ s = _
  unfold EStateM.bind
  cases withRetries (tryArchive serial kind first last) s <;> rfl

/-- An attempt comes to what collecting the pages comes to, once the request has been sent. -/
theorem tryArchive_of_sent {device : Device} {asked : Session σ}
    (found : Session.device serial s = .ok device s)
    (sent : send (.query device.target kind.object first last) device.address s.numbering.current
      s.cleared = .ok () asked) :
    tryArchive serial kind first last s =
      Outcome.mapState ended (collectPages kind s.numbering.current [] asked) := by
  unfold tryArchive
  rw [Action.bind_of_ok found, exchange_eq]
  exact congrArg (Outcome.mapState ended) (Action.bind_of_ok sent)

theorem AskedArchive.withRetries_eq {packetId : UInt16} {asked : Session σ}
    (h : AskedArchive serial kind first last s packetId asked) :
    (∀ entries t, collectPages kind packetId [] asked = .ok entries t →
      withRetries (tryArchive serial kind first last) s = .ok entries t.ended) ∧
    (∀ e t, collectPages kind packetId [] asked = .error e t → e.isTransient = false →
      withRetries (tryArchive serial kind first last) s = .error e t.ended) := by
  obtain ⟨budget, t, device, retried, found, rfl, sent⟩ := h
  have attempt := tryArchive_of_sent found sent
  unfold withRetries
  rw [retried.run_eq]
  constructor
  · intro entries u collected
    rw [collected] at attempt
    exact RetryBudget.run_of_ok attempt
  · intro e u collected final
    rw [collected] at attempt
    exact RetryBudget.run_of_refused attempt (RetryBudget.grant?_of_final final)

theorem exists_askedArchive {all : List Archive.Entry}
    (ran : withRetries (tryArchive serial kind first last) s = .ok all s') :
    ∃ packetId asked t, AskedArchive serial kind first last s packetId asked ∧
      collectPages kind packetId [] asked = .ok all t ∧ s' = t.ended := by
  obtain ⟨budget, t, retried, same⟩ :=
    RetryBudget.exists_last (tryArchive serial kind first last) {} s
  rw [withRetries, same, tryArchive, Action.bind_eq_ok_iff] at ran
  obtain ⟨device, u, found, exchanged⟩ := ran
  obtain ⟨rfl, -⟩ := device_eq_ok found
  rw [exchange_eq] at exchanged
  obtain ⟨v, fetched, final⟩ := Outcome.mapState_eq_ok exchanged
  obtain ⟨_, asked, sent, collected⟩ := Action.bind_eq_ok_iff.mp fetched
  exact ⟨_, asked, v, ⟨budget, u, device, retried, found, rfl, sent⟩, collected, final.symm⟩

/-- The first attempt, if it succeeds, is the only one that asks. -/
theorem AskedArchive.sent_of_tryArchive {packetId : UInt16} {asked t : Session σ}
    {all : List Archive.Entry} (h : AskedArchive serial kind first last s packetId asked)
    (ran : tryArchive serial kind first last s = .ok all t) :
    ∃ device, Session.device serial s = .ok device s ∧ s.numbering.current = packetId ∧
      send (.query device.target kind.object first last) device.address packetId s.cleared =
        .ok () asked := by
  obtain ⟨budget, u, device, retried, found, current, sent⟩ := h
  cases retried with
  | none => exact ⟨device, found, current, sent⟩
  | retry failed =>
    rw [ran] at failed
    cases failed

theorem exists_askedArchive_of_readArchive
    (ran : readArchive serial kind first last s = .ok entries s') :
    ∃ packetId asked all t, AskedArchive serial kind first last s packetId asked ∧
      collectPages kind packetId [] asked = .ok all t ∧ s' = t.ended ∧
      entries = Archive.within first last all := by
  rw [readArchive_eq] at ran
  cases tried : withRetries (tryArchive serial kind first last) s with
  | error e t =>
    rw [tried] at ran
    cases ran
  | ok all t =>
    rw [tried] at ran
    cases ran
    obtain ⟨packetId, asked, u, h, collected, ended⟩ := exists_askedArchive tried
    exact ⟨packetId, asked, all, u, h, collected, ended, rfl⟩

/-- An archive that has been read is the entries of the pages that its last attempt received, up to
the first that announced no other. -/
theorem exists_of_readArchive (ran : readArchive serial kind first last s = .ok entries s') :
    ∃ packetId asked before final t, AskedArchive serial kind first last s packetId asked ∧
      Received packetId asked (before ++ [final]) t ∧ s' = t.ended ∧
      (∀ page ∈ before, IsPage kind page ∧ page.hasMore) ∧ IsPage kind final ∧
      final.hasMore = false ∧
      entries = Archive.within first last (entriesOfPages kind (before ++ [final])) := by
  obtain ⟨packetId, asked, all, t, h, collected, ended, rfl⟩ :=
    exists_askedArchive_of_readArchive ran
  obtain ⟨before, final, received, taken, page, stops, rfl⟩ := exists_of_collectPages collected
  exact ⟨packetId, asked, before, final, t, h, received, ended, taken, page, stops, rfl⟩

/-- After pages that each announced another, an attempt at an archive looks at one more reply. -/
def LooksAt (serial : UInt32) (kind : Archive.Kind) (first last : UInt32) (s : Session σ)
    (pages : List Reply) (reply : Reply) (t : Session σ) : Prop :=
  ∃ packetId asked before address, AskedArchive serial kind first last s packetId asked ∧
    Received packetId asked pages before ∧ (∀ page ∈ pages, IsPage kind page ∧ page.hasMore) ∧
    receive packetId before = .ok (address, reply) t

theorem LooksAt.readArchive_eq {pages : List Reply} {reply : Reply} {t : Session σ}
    (h : LooksAt serial kind first last s pages reply t) :
    (∀ e, reply.requireObject kind.object = .error e →
      readArchive serial kind first last s = .error (.protocol e) t.ended) ∧
    (IsPage kind reply → reply.hasMore = false →
      readArchive serial kind first last s =
        .ok (Archive.within first last (entriesOfPages kind (pages ++ [reply]))) t.ended) := by
  obtain ⟨packetId, asked, before, address, h, received, taken, next⟩ := h
  have passed := collectPages_of_received received taken []
  rw [collectPages_of_reply next, List.nil_append] at passed
  rw [Session.readArchive_eq]
  constructor
  · intro e refused
    rw [refused] at passed
    rw [h.withRetries_eq.2 _ _ passed rfl]
  · intro page stops
    have last : entriesOfPages kind pages ++ Archive.entriesOf kind reply.records =
        entriesOfPages kind (pages ++ [reply]) := by
      simp [entriesOfPages]
    rw [page, last, stops] at passed
    rw [h.withRetries_eq.1 _ _ passed]

end

/-- A query looks at one reply, and at all of it. -/
theorem queryChannel_of_reply {serial first last : UInt32} {object : UInt16} {device : Device}
    {s asked t : Session σ} {address : Address} {reply : Reply}
    (found : Session.device serial s = .ok device s)
    (sent : send (.query device.target object first last) device.address s.numbering.current
      s.cleared = .ok () asked)
    (received : receive s.numbering.current asked = .ok (address, reply) t) :
    queryChannel serial object first last s =
      match reply.requireAnswer serial object with
      | .error e => .error (.protocol e) t.ended
      | .ok () => .ok reply t.ended := by
  obtain ⟨-, same⟩ := device_eq_ok found
  unfold queryChannel
  rw [Action.bind_of_ok found, exchange_eq, queryOnce, Action.bind_of_ok sent,
    Action.bind_of_ok received, same]
  change Outcome.mapState ended
    ((ofProtocol (reply.requireAnswer serial object) >>= fun _ => pure reply) t) = _
  cases reply.requireAnswer serial object <;> rfl

/-- An archive read judges a reply by its object alone, where a query judges it by its sender and
its status as well. What it returns is the entries of whatever replies were about the right object;
they are all answers of the device, without a fault, just if a query would have taken each of them.
A reply that is about something else ends the read, without a retry, and one about the right object
does not, whoever sent it; so the two judgements differ on a reply unless it names the device and
reports no fault. -/
theorem readArchive_acceptance (serial : UInt32) (kind : Archive.Kind) (first last : UInt32)
    (s : Session σ) :
    (∀ entries s', readArchive serial kind first last s = .ok entries s' →
      ∃ packetId asked pages t, AskedArchive serial kind first last s packetId asked ∧
        Received packetId asked pages t ∧
        entries = Archive.within first last (entriesOfPages kind pages) ∧
        (∀ page ∈ pages, IsPage kind page) ∧
        ((∀ page ∈ pages, page.source.serial = serial ∧ page.header.status = 0) ↔
          ∀ page ∈ pages, page.requireAnswer serial kind.object = .ok ())) ∧
    (∀ pages reply t, LooksAt serial kind first last s pages reply t →
      (∀ e, reply.requireObject kind.object = .error e →
        readArchive serial kind first last s = .error (.protocol e) t.ended) ∧
      (IsPage kind reply → reply.hasMore = false →
        readArchive serial kind first last s =
          .ok (Archive.within first last (entriesOfPages kind (pages ++ [reply]))) t.ended)) ∧
    (∀ device asked address reply t, Session.device serial s = .ok device s →
      send (.query device.target kind.object first last) device.address s.numbering.current
        s.cleared = .ok () asked →
      receive s.numbering.current asked = .ok (address, reply) t →
      queryChannel serial kind.object first last s =
        match reply.requireAnswer serial kind.object with
        | .error e => .error (.protocol e) t.ended
        | .ok () => .ok reply t.ended) ∧
    ∀ reply : Reply, reply.requireAnswer serial kind.object = reply.requireObject kind.object ↔
      reply.source.serial = serial ∧ reply.header.status = 0 := by
  refine ⟨?_, fun _ _ _ looked => looked.readArchive_eq, fun _ _ _ _ _ => queryChannel_of_reply,
    fun _ => Reply.requireAnswer_eq_requireObject_iff⟩
  intro entries s' ran
  obtain ⟨packetId, asked, before, final, u, h, received, -, taken, page, -, same⟩ :=
    exists_of_readArchive ran
  have pages : ∀ page ∈ before ++ [final], IsPage kind page := by
    intro q member
    rcases List.mem_append.mp member with earlier | rest
    · exact (taken q earlier).1
    · rw [List.mem_singleton.mp rest]
      exact page
  refine ⟨packetId, asked, before ++ [final], u, h, received, same, pages, ?_⟩
  constructor
  · intro right q member
    exact Reply.requireAnswer_eq_ok_iff.mpr
      ⟨(right q member).1, (right q member).2, pages q member⟩
  · intro answers q member
    have answer := Reply.requireAnswer_eq_ok_iff.mp (answers q member)
    exact ⟨answer.1, answer.2.1⟩

/-- A page of another device: an archive read takes its entry, and a query refuses it. -/
theorem readArchive_acceptance_stranger :
    let header : Header := ⟨12, 0x90, ⟨0x7D, 7⟩, 0, ⟨0x83, 2⟩, 0, 0, 0, 0x8000⟩
    let reply : Reply := ⟨header, [0x01, 0x02, 0x00, 0x70, 0, 0, 0, 0, 0, 0, 0, 0] ++
      [9, 0, 0, 0, 0xE8, 0x03, 0, 0, 0, 0, 0, 0]⟩
    let frame : Bytes := Frame.sync ::
      (Frame.stuff (FrameFormat.assemble {} (header.encode ++ reply.body)) ++ [Frame.sync])
    let s : Session Script :=
      { stream := { channel := { items := [⟨5, .delivery ⟨.zero, frame⟩⟩] } }
        ownSerial := 7, timeout := 1000, wallClock := 0, devices := [⟨1, 0x83, .zero, false⟩] }
    ∃ t, LooksAt 1 .dayData 0 20 s [] reply t ∧
      readArchive 1 .dayData 0 20 s = .ok [.sample ⟨9, 1000⟩] t.ended ∧
      queryChannel 1 0x7000 0 20 s = .error (.protocol (.wrongSender 1 2)) t.ended := by
  intro header reply frame s
  have encoded := FrameFormat.encode_of_le {}
    (show (header.encode ++ reply.body).length ≤ Frame.maxPayload by decide)
  have asking := FrameFormat.encode_of_le {}
    (show ((Request.query ⟨0x83, 1⟩ 0x7000 0 20).encode 7 0x8000).length ≤ Frame.maxPayload by decide)
  have found : Session.device 1 s = .ok ⟨1, 0x83, .zero, false⟩ s := rfl
  obtain ⟨asked, sent, patient, format, unread, channel, delivered⟩ : ∃ asked : Session Script,
      send (.query ⟨0x83, 1⟩ 0x7000 0 20) .zero 0x8000 s.cleared = .ok () asked ∧
      0 < asked.timeout ∧ asked.stream.format = {} ∧ asked.stream.buffer = [] ∧
      ∃ channel, Channel.receive asked.timeout asked.stream.channel =
        .ok (some ⟨.zero, frame⟩) channel :=
    ⟨_, send_of_encoded asking rfl, by decide, rfl, rfl, _, rfl⟩
  obtain ⟨rest, decoded⟩ := FrameFormat.decode_frame {} encoded
  have intact : asked.stream.format.decode frame =
      (some (.ok (header.encode ++ reply.body)), rest) := by
    rw [format]
    exact decoded
  have read := FrameStream.read_of_delivery unread patient delivered intact
  have parsed : Reply.decode (header.encode ++ reply.body) = .ok reply := by decide +kernel
  have wanted : reply.packetId = (0x8000 : UInt16) &&& ~~~Request.packetFlag := by decide
  have received := receive_of_frame patient read parsed wanted
  have looked : LooksAt 1 .dayData 0 20 s [] reply _ :=
    ⟨0x8000, asked, asked, .zero, ⟨{}, s, _, .none, found, rfl, sent⟩, .nil, by simp, received⟩
  have accepted := readArchive_acceptance 1 .dayData 0 20 s
  have page : IsPage .dayData reply := by
    unfold IsPage
    decide +kernel
  have entries : Archive.within 0 20 (entriesOfPages .dayData [reply]) = [.sample ⟨9, 1000⟩] := by
    decide +kernel
  have refused : reply.requireAnswer 1 0x7000 = .error (.wrongSender 1 2) := by decide +kernel
  refine ⟨_, looked, ?_, ?_⟩
  · rw [(accepted.2.1 [] reply _ looked).2 page rfl, List.nil_append, entries]
  · refine (accepted.2.2.1 _ asked .zero reply _ found sent received).trans ?_
    rw [show Archive.Kind.dayData.object = 0x7000 from rfl, refused]

end SolarTelemetry.Session
