import SolarTelemetry.Link.Handling

/-!
# Senders

Anyone may send packets back to back at any time: whoever writes a payload, whoever asks for the
signal strength, and the reader when it answers. A call queues for the lock, hands its packets to
the transport one after the other, and lets go of the lock when it returns. The transport may take
its time over each packet, and in the meantime anything may happen that needs no lock.
-/

namespace SolarTelemetry.Link

/-- Where a call stands. -/
inductive Call.Stage where
  /-- Waits for the lock. -/
  | queueing
  /-- Has the lock, and these packets left. -/
  | sending (left : List Packet)
  /-- Waits for the transport to take a packet; these are left after it. -/
  | handing (p : Packet) (left : List Packet)
  | returned (result : Except Error Unit)

/-- A call that sends packets back to back. -/
structure Call where
  packets : List Packet
  stage : Call.Stage := .queueing

/-- Any number of calls that share a link. -/
structure Senders where
  link : Link
  calls : List Call := []
  /-- Which call has the lock. -/
  holder : Option Nat := none

namespace Senders

inductive Event where
  | quiet
  /-- A call gets the lock. -/
  | locks (i : Nat)
  /-- A call hands a packet to the transport. -/
  | hands (i : Nat) (p : Packet)

/-- Moves a call on to another stage. -/
def move (i : Nat) (ps : List Packet) (stage : Call.Stage) (s : Senders) : Senders :=
  { s with calls := s.calls.set i ⟨ps, stage⟩ }

/-- A call returns and lets go of the lock. -/
def finish (i : Nat) (ps : List Packet) (result : Except Error Unit) (s : Senders) : Senders :=
  { s.move i ps (.returned result) with holder := none }

/-- What may happen next. -/
inductive Step : Senders → Event → Senders → Prop where
  /-- Whatever sends nothing. -/
  | world {s : Senders} {link : Link} (same : link.transport.sent = s.link.transport.sent) :
    Step s .quiet { s with link }
  | call {s : Senders} {ps : List Packet} :
    Step s .quiet { s with calls := s.calls ++ [{ packets := ps }] }
  | lock {s : Senders} {i : Nat} {ps : List Packet} (stands : s.calls[i]? = some ⟨ps, .queueing⟩)
    (free : s.holder = none) :
    Step s (.locks i) { s.move i ps (.sending ps) with holder := some i }
  | hand {s : Senders} {i : Nat} {ps left : List Packet} {p : Packet} {octets : Bytes}
    (stands : s.calls[i]? = some ⟨ps, .sending (p :: left)⟩) (encoded : p.encode = .ok octets) :
    Step s (.hands i p) (s.move i ps (.handing p left))
  | tooLong {s : Senders} {i : Nat} {ps left : List Packet} {p : Packet} {fault : LinkError}
    (stands : s.calls[i]? = some ⟨ps, .sending (p :: left)⟩) (unencoded : p.encode = .error fault) :
    Step s .quiet (s.finish i ps (.error (.link fault)))
  | taken {s : Senders} {i : Nat} {ps left : List Packet} {p : Packet} {link : Link}
    (stands : s.calls[i]? = some ⟨ps, .handing p left⟩)
    (written : transmitOne p s.link = .ok () link) :
    Step s .quiet { s.move i ps (.sending left) with link }
  | refused {s : Senders} {i : Nat} {ps left : List Packet} {p : Packet} {e : Error} {link : Link}
    (stands : s.calls[i]? = some ⟨ps, .handing p left⟩)
    (unwritten : transmitOne p s.link = .error e link) :
    Step s .quiet { s.finish i ps (.error e) with link }
  | sent {s : Senders} {i : Nat} {ps : List Packet}
    (stands : s.calls[i]? = some ⟨ps, .sending []⟩) :
    Step s .quiet (s.finish i ps (.ok ()))

/-- A run from one state to another, with the event of each step. -/
inductive Run : Senders → List Event → Senders → Prop
  | nil {s : Senders} : Run s [] s
  | cons {s next last : Senders} {e : Event} {events : List Event} (step : Step s e next)
    (rest : Run next events last) : Run s (e :: events) last

/-- A link over which nobody sends. -/
def on (link : Link) : Senders := { link }

/-- The calls that got the lock, one after the other. -/
def locked (events : List Event) : List Nat :=
  events.filterMap fun
    | .locks i => some i
    | _ => none

/-- The packets handed to the transport. -/
def handed (events : List Event) : List Packet :=
  events.filterMap fun
    | .hands _ p => some p
    | _ => none

end Senders

end SolarTelemetry.Link
