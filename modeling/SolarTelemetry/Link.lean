import SolarTelemetry.Link.Waiting

/-!
# Using a link

A link is connected, used and closed by one caller. Connecting starts the reader and waits for the
handshake to name the devices; reading waits for a payload; closing waits for the reader to end. A
link that has failed stays so, and every use of it reports why.
-/

namespace SolarTelemetry.Link

def handshakeLimit : Nat := 15000

def signalLimit : Nat := 5000

/-- The handshake is over once the devices are known or the link has failed. -/
def handshakeOver (link : Link) : Bool := link.phase == .deviceListKnown || link.phase == .failed

def connect : Action Link Unit := fun link =>
  if link.phase ≠ .notConnected then .error (.link (.connecting link.phase)) link
  else
    let started :=
      { link with phase := .awaitingIdAck, parts := [], buffer := [], since := link.now }
    let link := started.await (started.now + handshakeLimit) handshakeOver
    match link.phase with
    | .deviceListKnown => .ok () { link with phase := .connected }
    | .failed => .error link.failureError link
    | _ => .error .handshakeTimeout (link.finishRead.fail "handshake timeout")

def requireUsable : Action Link Unit := fun link =>
  match link.fault? with
  | some e => .error e link
  | none => .ok () link

/-- Sends a payload in as many packets as it needs. -/
def write (payload : Bytes) (destination : Address) : Action Link Unit := do
  requireUsable
  transmit (packetsOf (← get).info.ownAddress destination payload)

/-- The next payload within so many milliseconds. -/
def read (wait : Nat) : Action Link (Option Delivery) := fun link =>
  match link.fault? with
  | some e => .error e link
  | none =>
    let link :=
      if link.queue.isSome then link
      else link.await (link.now + wait) fun link => link.queue.isSome || link.phase == .failed
    match link.queue with
    | some d => .ok (some d) { link with queue := none }
    | none => if link.phase = .failed then .error link.failureError link else .ok none link

/-- Asks for the signal strength at a peer and takes the next report of one. -/
def signalStrength (peer : Address) : Action Link Nat := do
  requireUsable
  modify fun link => { link with signal := none }
  transmitOne (.of .signalQuery (← get).info.ownAddress peer [0x05, 0x00])
  modify fun link => link.await (link.now + signalLimit) (·.signal.isSome)
  match (← get).signal with
  | some strength => return strength
  | none => throw (.timeout "signal strength")

def close (link : Link) : Link :=
  let link := link.finishRead
  if link.phase = .failed then link else { link with phase := .notConnected }

theorem keeps_requireUsable : requireUsable.Keeps pending := by
  intro link
  unfold requireUsable
  split <;> exact Nat.le_refl _

theorem keeps_write (payload : Bytes) (destination : Address) :
    (write payload destination).Keeps pending :=
  keeps_requireUsable.bind fun _ => Action.keeps_get.bind fun _ =>
    keeps_transmit pending_of_transport _

theorem keeps_signalStrength (peer : Address) : (signalStrength peer).Keeps pending := by
  refine keeps_requireUsable.bind fun _ => ?_
  refine .bind (Action.keeps_modify (by intro; exact Nat.le_refl _)) fun _ => ?_
  refine .bind Action.keeps_get fun _ => ?_
  refine .bind (keeps_transmitOne pending_of_transport _) fun _ => ?_
  refine .bind (Action.keeps_modify (by intro; exact pending_await_le _ _ _)) fun _ => ?_
  refine .bind Action.keeps_get fun link => ?_
  cases link.signal with
  | none => exact Action.keeps_throw _
  | some strength => exact Action.keeps_pure strength

/-- A delivery costs its octets and one more. -/
theorem read_cost (wait : Nat) (link : Link) :
    match read wait link with
    | .ok (some d) link' => link'.pending + d.payload.length < link.pending
    | .ok none link' => link'.pending ≤ link.pending
    | .error _ link' => link'.pending ≤ link.pending := by
  unfold read
  cases link.fault? with
  | some e => exact Nat.le_refl _
  | none =>
    simp only
    generalize eq : (if link.queue.isSome = true then link
      else link.await (link.now + wait) fun link => link.queue.isSome || link.phase == .failed)
        = waited
    have bound : waited.pending ≤ link.pending := by
      subst eq
      split
      · exact Nat.le_refl _
      · exact pending_await_le _ _ _
    cases queue : waited.queue with
    | some d =>
      simp only [pending, load, weight, queued, queue, Option.map_some, Option.map_none,
        Option.getD_some, Option.getD_none] at bound ⊢
      omega
    | none =>
      simp only
      split <;> next outcome => split at outcome <;> cases outcome <;> exact bound

theorem keeps_read (wait : Nat) : (read wait).Keeps pending := by
  intro link
  have cost := read_cost wait link
  split at cost <;> next eq => simp only [eq, Outcome.state]; omega

theorem pending_read_lt {wait : Nat} {link link' : Link} {d : Delivery}
    (eq : read wait link = .ok (some d) link') :
    link'.pending + d.payload.length < link.pending := by
  have cost := read_cost wait link
  simpa only [eq] using cost

instance : Channel Link where
  now := now
  sleep := sleep
  send := write
  receive := read
  pending := pending
  pending_sleep_le _ link := pending_await_le _ _ link
  keeps_send := keeps_write
  keeps_receive := keeps_read
  pending_receive_lt := pending_read_lt

end SolarTelemetry.Link
