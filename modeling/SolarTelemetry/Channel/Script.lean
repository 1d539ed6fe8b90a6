import SolarTelemetry.Channel

/-!
# Scripted channels

A script says what happens to whoever receives, one item after the other, and how long each takes.
Waiting for less than an item takes shortens what is left of it. Once the script is over, nothing
arrives. What is sent is kept for inspection.
-/

namespace SolarTelemetry

inductive Script.Event where
  | delivery (d : Delivery)
  | nothing
  | failure (e : Error)
  deriving DecidableEq

structure Script.Item where
  /-- How long to wait for it, in milliseconds. -/
  after : Nat
  event : Event
  deriving DecidableEq

structure Script where
  now : Nat := 0
  items : List Script.Item := []
  sent : List (Address × Bytes) := []

namespace Script

def Event.outcome (e : Event) (s : Script) : Outcome Script (Option Delivery) :=
  match e with
  | .delivery d => .ok (some d) s
  | .nothing => .ok none s
  | .failure e => .error e s

def send (payload : Bytes) (destination : Address) : Action Script Unit :=
  modify fun s => { s with sent := s.sent ++ [(destination, payload)] }

def receive (wait : Nat) : Action Script (Option Delivery) := fun s =>
  match s.items with
  | [] => .ok none { s with now := s.now + wait }
  | item :: items =>
    if wait ≤ item.after then
      .ok none { s with
        now := s.now + wait
        items := { item with after := item.after - wait } :: items }
    else item.event.outcome { s with now := s.now + item.after, items }

def Item.size (item : Item) : Nat :=
  match item.event with
  | .delivery d => d.payload.length + 1
  | _ => 0

def pending (s : Script) : Nat := (s.items.map Item.size).sum

theorem keeps_receive (wait : Nat) : (receive wait).Keeps pending := by
  intro s
  unfold receive
  split
  · exact Nat.le_refl _
  · next item items eq =>
    split
    · simp [Outcome.state, pending, Item.size, eq]
    · cases event : item.event <;>
        simp [Event.outcome, Outcome.state, pending, Item.size, eq]

theorem pending_receive_lt {wait : Nat} {s s' : Script} {d : Delivery}
    (h : receive wait s = .ok (some d) s') : pending s' + d.payload.length < pending s := by
  unfold receive at h
  split at h
  · cases h
  · next item items eq =>
    split at h
    · cases h
    · cases event : item.event <;> simp only [event, Event.outcome] at h <;> cases h
      simp only [pending, Item.size, eq, event, List.map_cons, List.sum_cons]
      omega

instance : Channel Script where
  now := Script.now
  sleep ms s := { s with now := s.now + ms }
  send := send
  receive := receive
  pending := pending
  pending_sleep_le _ _ := Nat.le_refl _
  keeps_send _ _ _ := Nat.le_refl _
  keeps_receive := keeps_receive
  pending_receive_lt := pending_receive_lt

end Script

end SolarTelemetry
