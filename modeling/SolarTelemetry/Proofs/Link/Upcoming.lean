import SolarTelemetry.Proofs.Link.Completion
import SolarTelemetry.Proofs.Link.Time

/-!
# What is still to come

Left to itself, a link reads until nothing more arrives. `upcoming` runs ahead of time in this way
and notes when each payload is completed. Whoever waits sees the newest payload of every moment, so
of the payloads that are completed at one moment all but the last are lost.
-/

namespace SolarTelemetry.Link

/-- What the next read will yield, whenever that is, and the transport as it is then. -/
def arriving? (link : Link) : Option (Except String Bytes × Transport) :=
  if link.phase.isReading then
    link.transport.arrivals.head?.bind fun next => link.transport.take? next.due
  else none

/-- A link whose reader has taken something from the transport. -/
def reading (link : Link) (transport : Transport) : Link :=
  { link with transport, since := transport.now }

theorem exists_of_arriving {link : Link} {got : Except String Bytes} {transport : Transport}
    (h : link.arriving? = some (got, transport)) :
    ∃ next later, link.phase.isReading ∧ link.transport.arrivals = next :: later ∧
      link.transport.take? next.due = some (got, transport) := by
  unfold arriving? at h
  split at h
  · next reads =>
    cases arrivals : link.transport.arrivals with
    | nil => simp [arrivals] at h
    | cons next later =>
      rw [arrivals, List.head?_cons, Option.bind_some] at h
      exact ⟨next, later, reads, rfl, h⟩
  · cases h

/-- What a read yields does not depend on how long it would have waited. -/
theorem take?_of_due {t : Transport} {next : Arrival} {later : List Arrival} {limit : Nat}
    (arrivals : t.arrivals = next :: later) :
    t.take? limit = if next.due ≤ limit then t.take? next.due else none := by
  simp only [Transport.take?, arrivals, Nat.lt_irrefl, if_false]
  by_cases late : limit < next.due
  · rw [if_pos late, if_neg (Nat.not_le.mpr late)]
  · rw [if_neg late, if_pos (Nat.not_lt.mp late)]

theorem now_of_take {t t' : Transport} {next : Arrival} {later : List Arrival} {limit : Nat}
    {got : Except String Bytes} (arrivals : t.arrivals = next :: later)
    (taken : t.take? limit = some (got, t')) : t'.now = max t.now next.due := by
  simp only [Transport.take?, arrivals] at taken
  split at taken
  · cases taken
  · rcases next with ⟨due, octets | reason⟩
    · simp only at taken
      split at taken <;> cases taken <;> rfl
    · cases taken
      rfl

theorem isSome_take? {t : Transport} {next : Arrival} {later : List Arrival}
    (arrivals : t.arrivals = next :: later) : (t.take? next.due).isSome := by
  simp only [Transport.take?, arrivals, Nat.lt_irrefl, if_false]
  cases next.content with
  | octets bs =>
    simp only
    split <;> rfl
  | failure reason => rfl

theorem now_arriving {link : Link} {got : Except String Bytes} {transport : Transport}
    (h : link.arriving? = some (got, transport)) : link.now ≤ transport.now := by
  obtain ⟨next, later, -, arrivals, taken⟩ := exists_of_arriving h
  rw [now_of_take arrivals taken]
  exact Nat.le_max_left _ _

/-- A read that waits gets what arrives next, if that is soon enough. -/
theorem poll?_of_arriving {link : Link} {got : Except String Bytes} {transport : Transport}
    {limit : Nat} (h : link.arriving? = some (got, transport)) (begun : link.now ≤ limit) :
    link.poll? limit =
      if transport.now ≤ limit then some (accept got (link.reading transport)) else none := by
  obtain ⟨next, later, reads, arrivals, taken⟩ := exists_of_arriving h
  have moment : transport.now = max link.now next.due := now_of_take arrivals taken
  have soon : transport.now ≤ limit ↔ next.due ≤ limit := by
    rw [moment]
    omega
  rw [poll?, if_pos reads, take?_of_due arrivals, taken]
  by_cases due : next.due ≤ limit
  · rw [if_pos due, if_pos (soon.mpr due)]
    rfl
  · rw [if_neg due, if_neg (mt soon.mp due)]

theorem arrivals_of_silence {link : Link} (h : link.arriving? = none) (reads : link.phase.isReading) :
    link.transport.arrivals = [] := by
  cases arrivals : link.transport.arrivals with
  | nil => rfl
  | cons next later =>
    obtain ⟨taken, found⟩ := Option.isSome_iff_exists.mp (isSome_take? arrivals)
    simp [arriving?, reads, arrivals, found] at h

theorem poll?_of_silence {link : Link} (h : link.arriving? = none) (limit : Nat) :
    link.poll? limit = none := by
  unfold poll?
  split
  · next reads => simp [Transport.take?, arrivals_of_silence h reads]
  · rfl

theorem weight_arriving_lt {link : Link} {got : Except String Bytes} {transport : Transport}
    (h : link.arriving? = some (got, transport)) :
    (accept got (link.reading transport)).weight < link.weight := by
  obtain ⟨next, later, -, -, taken⟩ := exists_of_arriving h
  exact Nat.lt_of_le_of_lt (weight_accept_le got _) (Transport.weight_take taken).1

/-- Every payload that the reader will complete, with the moment at which it does. -/
def upcoming (link : Link) : List (Nat × Delivery) :=
  match _next : link.arriving? with
  | none => []
  | some (got, transport) =>
    (completedBy got (link.reading transport)).map (transport.now, ·) ++
      upcoming (accept got (link.reading transport))
termination_by link.weight
decreasing_by exact weight_arriving_lt _next

theorem upcoming_of_silence {link : Link} (h : link.arriving? = none) : link.upcoming = [] := by
  rw [upcoming]
  split
  · rfl
  · next same => rw [h] at same; cases same

theorem upcoming_of_arriving {link : Link} {got : Except String Bytes} {transport : Transport}
    (h : link.arriving? = some (got, transport)) :
    link.upcoming = (completedBy got (link.reading transport)).map (transport.now, ·) ++
      (accept got (link.reading transport)).upcoming := by
  rw [upcoming]
  split
  · next same => rw [h] at same; cases same
  · next got' transport' same =>
    rw [h] at same
    cases same
    rfl

theorem upcoming_offering (unread : Option Delivery) (link : Link) :
    (offering unread link).upcoming = link.upcoming := by
  fun_induction upcoming link with
  | case1 link silent => exact upcoming_of_silence silent
  | case2 link got transport arrived ih =>
    have again : (offering unread link).arriving? = some (got, transport) := arrived
    rw [upcoming_of_arriving again, ← ih]
    congr 1
    · exact congrArg _ (completedBy_offering unread got (link.reading transport))
    · exact congrArg _ (accept_offering unread got (link.reading transport))

/-- The queue has no part in what is still to come. -/
theorem upcoming_unread (link : Link) : upcoming { link with queue := none } = link.upcoming := by
  rw [← upcoming_offering link.queue { link with queue := none }, offering_queue]

theorem now_le_upcoming (link : Link) : ∀ x ∈ link.upcoming, link.now ≤ x.1 := by
  fun_induction upcoming link with
  | case1 => intro x member; cases member
  | case2 link got transport arrived ih =>
    intro x member
    have begun := now_arriving arrived
    rcases List.mem_append.mp member with first | later
    · obtain ⟨d, -, rfl⟩ := List.mem_map.mp first
      exact begun
    · have after := ih x later
      rw [now_accept] at after
      exact Nat.le_trans begun after

/-- A read that gets something takes from the front of what is still to come. -/
theorem exists_of_poll? {link polled : Link} {limit : Nat} (h : link.poll? limit = some polled)
    (begun : link.now ≤ limit) :
    ∃ done : List Delivery,
      link.upcoming = done.map (polled.now, ·) ++ polled.upcoming ∧
      polled.queue = done.getLast?.or link.queue ∧ link.now ≤ polled.now ∧ polled.now ≤ limit := by
  cases arrived : link.arriving? with
  | none =>
    rw [poll?_of_silence arrived] at h
    cases h
  | some next =>
    obtain ⟨got, transport⟩ := next
    rw [poll?_of_arriving arrived begun] at h
    split at h
    · next soon =>
      cases h
      have moment : (accept got (link.reading transport)).now = transport.now :=
        now_accept got (link.reading transport)
      rw [moment]
      exact ⟨completedBy got (link.reading transport), upcoming_of_arriving arrived,
        queue_accept got (link.reading transport), now_arriving arrived, soon⟩
    · cases h

/-- A read that gets nothing has nothing to wait for. -/
theorem lt_upcoming_of_poll? {link : Link} {limit : Nat} (h : link.poll? limit = none)
    (begun : link.now ≤ limit) : ∀ x ∈ link.upcoming, limit < x.1 := by
  cases arrived : link.arriving? with
  | none =>
    rw [upcoming_of_silence arrived]
    intro x member
    cases member
  | some next =>
    obtain ⟨got, transport⟩ := next
    rw [poll?_of_arriving arrived begun] at h
    split at h
    · cases h
    · next late =>
      intro x member
      rw [upcoming_of_arriving arrived] at member
      rcases List.mem_append.mp member with first | later
      · obtain ⟨d, -, rfl⟩ := List.mem_map.mp first
        exact Nat.not_le.mp late
      · have after := now_le_upcoming _ x later
        rw [now_accept] at after
        exact Nat.lt_of_lt_of_le (Nat.not_le.mp late) after

end SolarTelemetry.Link
