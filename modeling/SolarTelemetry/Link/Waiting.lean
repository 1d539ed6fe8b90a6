import SolarTelemetry.Link.Handling

/-!
# Waiting on a link

Time passes only while someone waits, and the reader takes what arrives in the meantime. Everything
that is due at a moment is handled before whoever waits goes on. Waiting never adds to what the link
can still deliver.
-/

namespace SolarTelemetry.Link

/-- Takes in what a read yielded and handles every packet that is whole now. Whatever fails ends the
link. -/
def accept (got : Except String Bytes) (link : Link) : Link :=
  match got with
  | .error reason => link.fail (Error.transport reason).message
  | .ok octets =>
    let drained := Packet.drain (link.buffer ++ octets)
    match handleAll drained.packets { link with buffer := [] } with
    | .error e link => link.fail e.message
    | .ok () link =>
      match drained.fault with
      | some fault => link.fail (Error.link fault).message
      | none => { link with buffer := drained.left }

/-- The next read, if the reader runs and something arrives by `limit`. -/
def poll? (limit : Nat) (link : Link) : Option Link :=
  if link.phase.isReading then
    match link.transport.take? limit with
    | none => none
    | some (got, transport) => some (accept got { link with transport, since := transport.now })
  else none

theorem weight_accept_le (got : Except String Bytes) (link : Link) :
    (accept got link).weight ≤ link.weight := by
  unfold accept
  split
  · exact Nat.le_refl _
  · next octets =>
    have kept := keeps_weight_handleAll (Packet.drain (link.buffer ++ octets)).packets
      { link with buffer := [] }
    simp only
    split
    · next eq => simpa only [eq, Outcome.state, weight, fail] using kept
    · next eq =>
      simp only [eq, Outcome.state, weight] at kept
      split <;> exact kept

theorem pending_accept_le (got : Except String Bytes) (link : Link) :
    (accept got link).pending ≤ link.pending + (got.toOption.getD []).length := by
  unfold accept
  split
  · simp only [pending, fail, load, weight, queued, List.length_nil]
    omega
  · next octets =>
    have length := Packet.length_of_drain (link.buffer ++ octets)
    have bound := load_handleAll_le (Packet.drain (link.buffer ++ octets)).packets
      { link with buffer := [] }
    have start : Link.load { link with buffer := [] } = link.load := rfl
    rw [List.length_append] at length
    rw [start] at bound
    change _ ≤ link.load + link.buffer.length + octets.length
    simp only
    split
    · next eq =>
      simp only [eq, Outcome.state] at bound
      simp only [pending, fail, load, weight, queued, List.length_nil] at bound ⊢
      omega
    · next eq =>
      simp only [eq, Outcome.state] at bound
      split <;> simp only [pending, fail, load, weight, queued, List.length_nil] at bound ⊢ <;>
        omega

theorem poll_eq_some {limit : Nat} {link link' : Link} (h : link.poll? limit = some link') :
    ∃ got transport, link.transport.take? limit = some (got, transport) ∧
      link' = accept got { link with transport, since := transport.now } := by
  unfold poll? at h
  split at h
  · split at h
    · cases h
    · next got transport taken => exact ⟨got, transport, taken, (Option.some.inj h).symm⟩
  · cases h

theorem weight_poll_lt {limit : Nat} {link link' : Link} (h : link.poll? limit = some link') :
    link'.weight < link.weight := by
  obtain ⟨got, transport, taken, rfl⟩ := poll_eq_some h
  have less := (Transport.weight_take taken).1
  have step := weight_accept_le got { link with transport, since := transport.now }
  simp only [weight] at step ⊢
  omega

theorem pending_poll_le {limit : Nat} {link link' : Link} (h : link.poll? limit = some link') :
    link'.pending ≤ link.pending := by
  obtain ⟨got, transport, taken, rfl⟩ := poll_eq_some h
  have step := pending_accept_le got { link with transport, since := transport.now }
  cases got with
  | error reason =>
    have less := (Transport.weight_take taken).1
    simp only [pending, load, weight, queued, Except.toOption, Option.getD_none,
      List.length_nil] at step ⊢
    omega
  | ok octets =>
    have less := (Transport.weight_take taken).2 octets rfl
    simp only [pending, load, weight, queued, Except.toOption, Option.getD_some] at step ⊢
    omega

/-- Handles all that is due by now. -/
def catchUp (link : Link) : Link :=
  match _polled : link.poll? link.now with
  | none => link
  | some link' => catchUp link'
termination_by link.weight
decreasing_by exact weight_poll_lt _polled

def advance (moment : Nat) (link : Link) : Link :=
  { link with transport := link.transport.advance moment }

theorem catchUp_le (link : Link) :
    link.catchUp.weight ≤ link.weight ∧ link.catchUp.pending ≤ link.pending := by
  fun_induction catchUp link with
  | case1 => exact ⟨Nat.le_refl _, Nat.le_refl _⟩
  | case2 link link' polled ih =>
    have := weight_poll_lt polled
    have := pending_poll_le polled
    omega

/-- Lets time pass until what has arrived makes a condition true, but not beyond `limit`. -/
def await (limit : Nat) (wake : Link → Bool) (link : Link) : Link :=
  match _polled : link.poll? limit with
  | none => link.advance limit
  | some polled =>
    let settled := polled.catchUp
    if wake settled then settled else await limit wake settled
termination_by link.weight
decreasing_by
  have := weight_poll_lt _polled
  have := (catchUp_le polled).1
  omega

theorem pending_await_le (limit : Nat) (wake : Link → Bool) (link : Link) :
    (link.await limit wake).pending ≤ link.pending := by
  fun_induction await limit wake link with
  | case1 => exact Nat.le_refl _
  | case2 link polled eq settled awake =>
    exact Nat.le_trans (catchUp_le polled).2 (pending_poll_le eq)
  | case3 link polled eq settled asleep ih =>
    exact Nat.le_trans ih (Nat.le_trans (catchUp_le polled).2 (pending_poll_le eq))

def sleep (ms : Nat) (link : Link) : Link := link.await (link.now + ms) fun _ => false

/-- How long one read waits, in milliseconds. -/
def readWait : Nat := 500

/-- Waits for the current read to end, by its time or with an arrival. -/
def finishRead (link : Link) : Link :=
  if link.phase.isReading then
    let reads := (link.now - link.since + readWait - 1) / readWait
    let limit := link.since + readWait * max 1 reads
    (link.poll? limit).getD (link.advance limit)
  else link

end SolarTelemetry.Link
