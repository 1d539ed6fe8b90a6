import SolarTelemetry.Proofs.Frame.Transfer
import SolarTelemetry.Proofs.Message.RoundTrip
import SolarTelemetry.Proofs.Session.Output

/-!
# Short messages

A message whose frame fits into one packet goes out as that packet or not at all, and if it does
not, the error is final. So what a transaction of short messages leaves on the transport are the
messages that it has sent, packet for packet.
-/

namespace SolarTelemetry

open SolarTelemetry.Frame in
/-- The frame of a payload, however long it is. -/
def FrameFormat.enclose (format : FrameFormat) (payload : Bytes) : Bytes :=
  sync :: (stuff (format.assemble payload) ++ [sync])

/-- At most two octets stand for each, of the payload as of what is put around it. -/
theorem FrameFormat.length_enclose_le (format : FrameFormat) (payload : Bytes) :
    (format.enclose payload).length ≤ 2 * payload.length + 14 := by
  have plain := format.length_assemble payload
  have escaped := (List.countP_le_length : (format.assemble payload).countP Frame.isReserved ≤
    (format.assemble payload).length)
  simp only [enclose, List.length_cons, List.length_append, Frame.length_stuff, List.length_nil]
  omega

theorem Link.packetsOf_of_le {source destination : Address} {payload : Bytes} (full : payload ≠ [])
    (short : payload.length ≤ Packet.maxPayload) :
    packetsOf source destination payload = [.of .data source destination payload] := by
  rw [packetsOf, if_pos short, if_neg (mt List.isEmpty_iff.mp full)]

namespace Session

/-- A payload and where it goes. -/
abbrev Posting := Address × Bytes

/-- The frame of a payload that is no longer fits into one packet, whatever is escaped. -/
def maxShort : Nat := 111

/-- The packet of a payload whose frame fits into one. -/
def packet (s : Session Link) (posting : Posting) : Packet :=
  .of .data s.link.info.ownAddress posting.1 (s.stream.format.enclose posting.2)

/-- What so many payloads are on the transport. -/
def posted (s : Session Link) (postings : List Posting) : List (Address × Bytes) :=
  (postings.map s.packet).map Packet.posted

/-- From one session to another so much was sent and nothing else, each payload as one packet. -/
structure Posts (s : Session Link) (postings : List Posting) (t : Session Link) : Prop where
  format : t.stream.format = s.stream.format
  link : s.link.Onward (postings.map s.packet) t.link

variable {s t u : Session Link} {postings more : List Posting}

namespace Posts

theorem of_writes (writes : Writes s [] t) : Posts s [] t := ⟨writes.format, writes.link⟩

theorem same (link : t.link = s.link) (format : t.stream.format = s.stream.format) :
    Posts s [] t :=
  ⟨format, link ▸ .refl s.link⟩

theorem packet_eq (posts : Posts s postings t) : t.packet = s.packet := by
  funext posting
  rw [packet, packet, posts.format, posts.link.info]

theorem trans (first : Posts s postings t) (second : Posts t more u) :
    Posts s (postings ++ more) u where
  format := second.format.trans first.format
  link := by
    have rest := second.link
    rw [first.packet_eq] at rest
    rw [List.map_append]
    exact first.link.trans rest

/-- What is done in silence adds nothing. -/
theorem silent (first : Posts s postings t) (second : Posts t [] u) : Posts s postings u :=
  List.append_nil postings ▸ first.trans second

theorem settled (posts : Posts s postings t) (settled : s.link.Settled) : t.link.Settled :=
  posts.link.settled settled

theorem sent (posts : Posts s postings t) :
    t.link.transport.sent = s.link.transport.sent ++ s.posted postings :=
  posts.link.sent

end Posts

section OnLink

variable {α : Type} {act : Action Link α} {link : Link}

theorem onLink_of_ok {a : α} (ran : act s.link = .ok a link) :
    onLink act s = .ok a { s with stream.channel := link } := by
  unfold onLink onStream FrameStream.onChannel Action.zoom
  rw [show s.stream.channel = s.link from rfl, ran]

theorem onLink_of_error {e : Error} (ran : act s.link = .error e link) :
    onLink act s = .error e { s with stream.channel := link } := by
  unfold onLink onStream FrameStream.onChannel Action.zoom
  rw [show s.stream.channel = s.link from rfl, ran]

end OnLink

section Writing

variable {payload : Bytes} (short : payload.length ≤ maxShort)

include short

theorem write_eq_of_short (destination : Address) :
    write payload destination s =
      onLink (Link.write (s.stream.format.enclose payload) destination) s := by
  have fits : payload.length ≤ Frame.maxPayload := Nat.le_trans short (by decide)
  unfold write onLink onStream Action.zoom
  rw [FrameStream.write, s.stream.format.encode_of_le fits]
  rfl

theorem packetsOf_enclose (destination : Address) :
    Link.packetsOf s.link.info.ownAddress destination (s.stream.format.enclose payload) =
        [s.packet (destination, payload)] ∧
      (s.packet (destination, payload)).payload.length ≤ Packet.maxPayload := by
  have bound := s.stream.format.length_enclose_le payload
  have fits : (s.stream.format.enclose payload).length ≤ Packet.maxPayload := by
    have : maxShort = 111 := rfl
    have : Packet.maxPayload = 237 := rfl
    omega
  exact ⟨Link.packetsOf_of_le (List.cons_ne_nil _ _) fits, fits⟩

variable (settled : s.link.Settled) (destination : Address)

include settled

/-- A short payload goes out if the link is sound and the transport takes it. -/
theorem write_of_short {writes : Nat} (sound : s.link.phase ≠ .failed)
    (accepts : s.link.transport.Accepts (writes + 1)) :
    ∃ t, write payload destination s = .ok () t ∧ Posts s [(destination, payload)] t ∧
      t.link.phase ≠ .failed ∧ t.link.transport.Accepts writes := by
  obtain ⟨single, fits⟩ := packetsOf_enclose (s := s) short destination
  obtain ⟨transport, written, sent, others⟩ :=
    Link.write_of_single settled single fits sound accepts
  exact ⟨{ s with stream.channel := { s.link with transport } },
    (write_eq_of_short short destination).trans (onLink_of_ok written),
    ⟨rfl, rfl, .inl rfl, sent⟩, sound, others⟩

/-- Of a short payload everything goes out or nothing. -/
theorem posts_write {outcome : Outcome (Session Link) Unit}
    (written : write payload destination s = outcome) :
    match outcome with
    | .ok _ t => Posts s [(destination, payload)] t
    | .error e t => e.isTransient = false ∧ Posts s [] t := by
  by_cases taken : s.link.phase ≠ .failed ∧ s.link.transport.Accepts 1
  · have accepts : s.link.transport.Accepts (0 + 1) := taken.2
    obtain ⟨t, passed, posts, -⟩ := write_of_short short settled destination taken.1 accepts
    obtain rfl := written.symm.trans passed
    exact posts
  · obtain ⟨single, -⟩ := packetsOf_enclose (s := s) short destination
    obtain ⟨e, transport, refused, final, unsent⟩ :=
      Link.write_of_single_of_refused settled single taken
    have failed : write payload destination s =
        .error e { s with stream.channel := { s.link with transport } } :=
      (write_eq_of_short short destination).trans (onLink_of_error refused)
    obtain rfl := written.symm.trans failed
    exact ⟨final, rfl, rfl, .inl rfl, unsent.trans (List.append_nil _).symm⟩

end Writing

/-- Writes payloads one after the other, up to the first that is not sent. -/
def writeAll {σ : Type} [Channel σ] : List Posting → Action (Session σ) Unit
  | [] => pure ()
  | posting :: rest => do
    write posting.2 posting.1
    writeAll rest

theorem writeAll_singleton {σ : Type} [Channel σ] (posting : Posting) :
    writeAll (σ := σ) [posting] = write posting.2 posting.1 :=
  bind_pure_unit

section

variable (settled : s.link.Settled) (short : ∀ posting ∈ postings, posting.2.length ≤ maxShort)

include settled short

/-- Of short payloads those up to the first that is refused go out. -/
theorem posts_writeAll {outcome : Outcome (Session Link) Unit}
    (all : writeAll postings s = outcome) :
    match outcome with
    | .ok _ t => Posts s postings t
    | .error e t => e.isTransient = false ∧ ∃ count, Posts s (postings.take count) t := by
  induction postings generalizing s with
  | nil =>
    subst all
    exact .same rfl rfl
  | cons posting rest ih =>
    obtain ⟨fits, others⟩ := List.forall_mem_cons.mp short
    unfold writeAll at all
    cases written : write posting.2 posting.1 s with
    | error e t =>
      obtain ⟨final, posts⟩ := posts_write fits settled posting.1 written
      rw [Action.bind_of_error written] at all
      subst all
      exact ⟨final, 0, posts⟩
    | ok _ t =>
      have first := posts_write fits settled posting.1 written
      rw [Action.bind_of_ok written] at all
      have next := ih (first.settled settled) others all
      cases outcome with
      | ok _ u => exact first.trans next
      | error e u =>
        obtain ⟨final, count, posts⟩ := next
        exact ⟨final, count + 1, first.trans posts⟩

/-- All of them go out if the link is sound and the transport takes them. -/
theorem writeAll_of_accepts (sound : s.link.phase ≠ .failed)
    (accepts : s.link.transport.Accepts postings.length) : ∃ t, writeAll postings s = .ok () t := by
  induction postings generalizing s with
  | nil => exact ⟨s, rfl⟩
  | cons posting rest ih =>
    obtain ⟨fits, others⟩ := List.forall_mem_cons.mp short
    obtain ⟨t, written, posts, standing, left⟩ :=
      write_of_short fits settled posting.1 sound accepts
    obtain ⟨u, all⟩ := ih (posts.settled settled) others standing left
    exact ⟨u, (Action.bind_of_ok written).trans all⟩

end

/-! ## Transactions -/

namespace Event

/-- The payload of an event, if it went out. -/
def sent? : Event → Option Posting
  | wrote destination payload (.ok ()) => some (destination, payload)
  | _ => none

/-- Nothing kept a payload from going out that could be met by trying again. -/
def IsFinal : Event → Prop
  | wrote _ _ (.error e) => e.isTransient = false
  | _ => True

end Event

def sentIn (events : List Event) : List Posting := events.filterMap Event.sent?

section

variable {events : List Event}

/-- If no write has failed, all that was written went out. -/
theorem sentIn_eq_writesIn
    (all : ∀ destination payload e, .wrote destination payload (.error e) ∉ events) :
    sentIn events = writesIn events := by
  unfold sentIn writesIn
  apply List.filterMap_congr
  intro event member
  cases event with
  | accepted => rfl
  | wrote destination payload result =>
    cases result with
    | ok => rfl
    | error e => exact absurd member (all destination payload e)

/-- What a transaction leaves on the transport are its payloads that went out. -/
theorem Trace.posts (trace : Trace s events t) (settled : s.link.Settled)
    (short : ∀ posting ∈ writesIn events, posting.2.length ≤ maxShort) :
    Posts s (sentIn events) t ∧ ∀ event ∈ events, event.IsFinal := by
  -- Along the trace. Whatever happens next begins in a settled session again.
  induction trace with
  | refl => exact ⟨.same rfl rfl, by simp⟩
  | @clear s t events _ ih =>
    obtain ⟨others, final⟩ := ih settled short
    exact ⟨(Posts.same rfl rfl : Posts s [] s.cleared).trans others, final⟩
  | @write s t events payload destination rest ih =>
    obtain ⟨fits, short⟩ := List.forall_mem_cons.mp short
    cases written : Session.write payload destination s with
    | ok _ u =>
      have posts := posts_write fits settled destination written
      rw [written] at rest ih
      obtain ⟨others, final⟩ := ih (posts.settled settled) short
      exact ⟨posts.trans others, List.forall_mem_cons.mpr ⟨trivial, final⟩⟩
    | error e u =>
      obtain ⟨lasting, posts⟩ := posts_write fits settled destination written
      rw [written] at rest ih
      obtain ⟨others, final⟩ := ih (posts.settled settled) short
      exact ⟨posts.trans others, List.forall_mem_cons.mpr ⟨lasting, final⟩⟩
  | @accept s t u packetId source reply events received _ ih =>
    have silent := silent_receive packetId s settled
    rw [received] at silent
    obtain ⟨others, final⟩ := ih (silent.link.settled settled) short
    exact ⟨(Posts.of_writes silent).trans others, List.forall_mem_cons.mpr ⟨trivial, final⟩⟩
  | @miss s t u packetId e events received _ ih =>
    have silent := silent_receive packetId s settled
    rw [received] at silent
    obtain ⟨others, final⟩ := ih (silent.link.settled settled) short
    exact ⟨(Posts.of_writes silent).trans others, final⟩
  | @mark s t devices events _ _ ih =>
    obtain ⟨others, final⟩ := ih settled short
    exact ⟨(Posts.same rfl rfl : Posts s [] { s with devices }).trans others, final⟩

end

end Session

end SolarTelemetry
