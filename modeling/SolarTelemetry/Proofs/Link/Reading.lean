import SolarTelemetry.Proofs.Link.Upcoming

/-!
# Reading from a link

Whoever waits on a link goes on when all of a moment has been handled, and then finds the newest
payload of that moment in the queue. So what is read one after the other is what survives of all
that comes: of the payloads completed at one moment the last.
-/

namespace SolarTelemetry.Link

/-- The last payload of every moment. -/
def survivors : List (Nat × Delivery) → List Delivery
  | [] => []
  | [(_, d)] => [d]
  | (moment, d) :: (following, d') :: rest =>
    if moment = following then survivors ((following, d') :: rest)
    else d :: survivors ((following, d') :: rest)

theorem survivors_moment (moment : Nat) (done : List Delivery) (last : Delivery)
    {rest : List (Nat × Delivery)} (later : ∀ x ∈ rest, moment < x.1) :
    survivors ((done ++ [last]).map (moment, ·) ++ rest) = last :: survivors rest := by
  induction done with
  | nil =>
    cases rest with
    | nil => rfl
    | cons x rest =>
      have apart : moment ≠ x.1 := Nat.ne_of_lt (later x List.mem_cons_self)
      exact if_neg apart
  | cons d done ih =>
    cases done with
    | nil => exact (if_pos rfl).trans ih
    | cons d' done => exact (if_pos rfl).trans ih

/-- Nothing is lost where no two payloads are completed at one moment. -/
theorem survivors_of_pairwise {arrivals : List (Nat × Delivery)}
    (apart : (arrivals.map Prod.fst).Pairwise (· < ·)) :
    survivors arrivals = arrivals.map Prod.snd := by
  fun_induction survivors arrivals with
  | case1 => rfl
  | case2 => rfl
  | case3 moment d d' rest ih =>
    have := List.rel_of_pairwise_cons apart List.mem_cons_self
    exact absurd this (Nat.lt_irrefl _)
  | case4 moment d following d' rest distinct ih =>
    rw [ih (List.Pairwise.of_cons apart)]
    rfl

/-- Catching up takes what is completed now and puts the newest of it into the queue. -/
theorem exists_of_catchUp (link : Link) :
    ∃ done : List Delivery,
      link.upcoming = done.map (link.now, ·) ++ link.catchUp.upcoming ∧
      link.catchUp.queue = done.getLast?.or link.queue ∧ link.catchUp.now = link.now ∧
      ∀ x ∈ link.catchUp.upcoming, link.now < x.1 := by
  fun_induction catchUp link with
  | case1 link idle => exact ⟨[], rfl, rfl, rfl, lt_upcoming_of_poll? idle (Nat.le_refl _)⟩
  | case2 link polled eq ih =>
    obtain ⟨first, taken, newest, begun, soon⟩ := exists_of_poll? eq (Nat.le_refl _)
    have same : polled.now = link.now := Nat.le_antisymm soon begun
    obtain ⟨others, split, newer, still, later⟩ := ih
    rw [same] at taken split still later
    refine ⟨first ++ others, ?_, ?_, still, later⟩
    · rw [taken, split, List.map_append, List.append_assoc]
    · rw [newer, newest, List.getLast?_append, Option.or_assoc]

/-- A read and all that is due with it take one moment from the front of what is still to come. -/
theorem exists_of_moment {link polled : Link} {limit : Nat} (eq : link.poll? limit = some polled)
    (begun : link.now ≤ limit) :
    ∃ done : List Delivery,
      link.upcoming = done.map (polled.now, ·) ++ polled.catchUp.upcoming ∧
      polled.catchUp.queue = done.getLast?.or link.queue ∧ polled.catchUp.now = polled.now ∧
      polled.now ≤ limit ∧ ∀ x ∈ polled.catchUp.upcoming, polled.now < x.1 := by
  obtain ⟨first, taken, newest, -, soon⟩ := exists_of_poll? eq begun
  obtain ⟨others, split, newer, still, later⟩ := exists_of_catchUp polled
  refine ⟨first ++ others, ?_, ?_, still, soon, later⟩
  · rw [taken, split, List.map_append, List.append_assoc]
  · rw [newer, newest, List.getLast?_append, Option.or_assoc]

theorem upcoming_of_failed {link : Link} (failed : link.phase = .failed) : link.upcoming = [] := by
  apply upcoming_of_silence
  rw [arriving?, failed]
  rfl

/-- Whoever waits for a payload finds the newest of the first moment at which one is completed, or
none, if that is too late. -/
theorem exists_of_await (limit : Nat) {wake : Link → Bool} {link : Link}
    (wakes : ∀ l : Link, wake l = (l.queue.isSome || l.phase == .failed))
    (empty : link.queue = none) (begun : link.now ≤ limit) :
    match (link.await limit wake).queue with
    | some d => ∃ (moment : Nat) (done : List Delivery), moment ≤ limit ∧
        link.upcoming = (done ++ [d]).map (moment, ·) ++ (link.await limit wake).upcoming ∧
        ∀ x ∈ (link.await limit wake).upcoming, moment < x.1
    | none => ∀ x ∈ link.upcoming, limit < x.1 := by
  fun_induction await limit wake link with
  | case1 link idle =>
    have unread : (link.advance limit).queue = none := empty
    rw [unread]
    exact lt_upcoming_of_poll? idle begun
  | case2 link polled eq settled awake =>
    obtain ⟨done, split, newest, -, soon, later⟩ := exists_of_moment eq begun
    rw [empty, Option.or_none] at newest
    change match polled.catchUp.queue with | some d => _ | none => _
    cases queue : polled.catchUp.queue with
    | some d =>
      rw [queue] at newest
      obtain ⟨before, rfl⟩ := List.getLast?_eq_some_iff.mp newest.symm
      exact ⟨polled.now, before, soon, split, later⟩
    | none =>
      rw [queue] at newest
      have nothing : done = [] := List.getLast?_eq_none_iff.mp newest.symm
      have failed : polled.catchUp.phase = .failed := by
        have cause := (wakes polled.catchUp).symm.trans awake
        simpa [queue] using cause
      rw [split, nothing, upcoming_of_failed failed]
      intro x member
      cases member
  | case3 link polled eq settled asleep ih =>
    obtain ⟨done, split, newest, still, soon, later⟩ := exists_of_moment eq begun
    rw [empty, Option.or_none] at newest
    have idle : (polled.catchUp.queue.isSome || polled.catchUp.phase == .failed) = false :=
      (wakes polled.catchUp).symm.trans (Bool.not_eq_true _ ▸ asleep)
    have unread : polled.catchUp.queue = none :=
      Option.isNone_iff_eq_none.mp (Option.isSome_eq_false_iff.mp (Bool.or_eq_false_iff.mp idle).1)
    rw [unread] at newest
    rw [split, List.getLast?_eq_none_iff.mp newest.symm, List.map_nil, List.nil_append]
    exact ih unread (Nat.le_trans (Nat.le_of_eq still) soon)

/-- Who sleeps finds the newest of all that was completed in the meantime. -/
theorem queue_sleep {limit : Nat} {wake : Link → Bool} {link : Link} (never : ∀ l, wake l = false)
    (begun : link.now ≤ limit) :
    (link.await limit wake).queue =
      ((link.upcoming.filter (·.1 ≤ limit)).getLast?.map Prod.snd).or link.queue := by
  fun_induction await limit wake link with
  | case1 link idle =>
    have later := lt_upcoming_of_poll? idle begun
    have nothing : link.upcoming.filter (·.1 ≤ limit) = [] := by
      rw [List.filter_eq_nil_iff]
      intro x member
      simpa using later x member
    rw [nothing]
    rfl
  | case2 link polled eq settled awake =>
    rw [never] at awake
    cases awake
  | case3 link polled eq settled asleep ih =>
    obtain ⟨done, split, newest, still, soon, -⟩ := exists_of_moment eq begun
    have all : (done.map (polled.now, ·)).filter (·.1 ≤ limit) = done.map (polled.now, ·) := by
      rw [List.filter_eq_self]
      intro x member
      obtain ⟨d, -, rfl⟩ := List.mem_map.mp member
      simpa using soon
    rw [ih (Nat.le_trans (Nat.le_of_eq still) soon), newest, split, List.filter_append, all,
      List.getLast?_append, List.getLast?_map, Option.map_or, Option.or_assoc, Option.map_map]
    congr 2
    exact Option.map_id'.symm

/-- Everything that will be read from a link, provided somebody goes on reading. -/
def supply (link : Link) : List Delivery := link.queue.toList ++ survivors link.upcoming

/-- A link whose queue holds a payload, unless none is completed within so many milliseconds. -/
def awaitPayload (wait : Nat) (link : Link) : Link :=
  if link.queue.isSome then link
  else link.await (link.now + wait) fun link => link.queue.isSome || link.phase == .failed

theorem supply_awaitPayload (wait : Nat) (link : Link) :
    match (link.awaitPayload wait).queue with
    | some d => link.supply = d :: survivors (link.awaitPayload wait).upcoming
    | none => link.queue = none ∧ ∀ x ∈ link.upcoming, link.now + wait < x.1 := by
  unfold awaitPayload supply
  cases queue : link.queue with
  | some d =>
    rw [Option.isSome_some, if_pos rfl, queue]
    rfl
  | none =>
    rw [Option.isSome_none, if_neg Bool.false_ne_true]
    have found := exists_of_await (link.now + wait) (fun _ => rfl) queue
      (Nat.le_add_right link.now wait)
    generalize link.await (link.now + wait) (fun l => l.queue.isSome || l.phase == .failed) = waited
      at found ⊢
    cases newest : waited.queue with
    | some d =>
      rw [newest] at found
      obtain ⟨moment, done, -, split, later⟩ := found
      change survivors link.upcoming = _
      rw [split, survivors_moment moment done d later]
    | none =>
      rw [newest] at found
      exact ⟨rfl, found⟩

theorem read_eq (wait : Nat) {link : Link} (sound : link.fault? = none) :
    read wait link =
      match (link.awaitPayload wait).queue with
      | some d => .ok (some d) { link.awaitPayload wait with queue := none }
      | none =>
        if (link.awaitPayload wait).phase = .failed then
          .error (link.awaitPayload wait).failureError (link.awaitPayload wait)
        else .ok none (link.awaitPayload wait) := by
  unfold read
  rw [sound]
  rfl

/-- A payload that waits in the queue is read at once. -/
theorem read_of_queue {wait : Nat} {link : Link} {d : Delivery} (sound : link.fault? = none)
    (queue : link.queue = some d) : read wait link = .ok (some d) { link with queue := none } := by
  have ready : link.awaitPayload wait = link := by
    rw [awaitPayload, queue]
    rfl
  rw [read_eq wait sound, ready, queue]

/-- A read hands over the first payload of the supply and leaves the others. -/
theorem supply_read {wait : Nat} {link link' : Link} {d : Delivery}
    (ran : read wait link = .ok (some d) link') : link.supply = d :: link'.supply := by
  cases sound : link.fault? with
  | some e =>
    rw [read, sound] at ran
    cases ran
  | none =>
    have found := supply_awaitPayload wait link
    rw [read_eq wait sound] at ran
    cases queue : (link.awaitPayload wait).queue with
    | some newest =>
      rw [queue] at ran found
      cases ran
      rw [found, supply, upcoming_unread]
      rfl
    | none =>
      rw [queue] at ran
      simp only at ran
      split at ran <;> cases ran

/-- A payload that is completed in time ends the wait. -/
theorem exists_of_read {wait moment : Nat} {link : Link} {d : Delivery}
    (sound : link.fault? = none) (due : (moment, d) ∈ link.upcoming)
    (soon : moment ≤ link.now + wait) : ∃ d' link', read wait link = .ok (some d') link' := by
  have found := supply_awaitPayload wait link
  rw [read_eq wait sound]
  cases queue : (link.awaitPayload wait).queue with
  | some newest => exact ⟨_, _, rfl⟩
  | none =>
    rw [queue] at found
    exact absurd (found.2 _ due) (Nat.not_lt.mpr soon)

end SolarTelemetry.Link
