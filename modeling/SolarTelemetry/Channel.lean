import SolarTelemetry.Action
import SolarTelemetry.Address

/-!
# Channels

A channel sends payloads to addresses and hands over those that arrive. What it can still deliver is
bounded by `pending`: nothing makes the bound larger, and each delivery costs more than its payload.
So whoever goes on receiving comes to an end.
-/

namespace SolarTelemetry

/-- A payload and the address it came from. -/
structure Delivery where
  source : Address
  payload : Bytes
  deriving DecidableEq

class Channel (σ : Type) extends Clock σ where
  send : Bytes → Address → Action σ Unit
  /-- The next delivery, if there is one within so many milliseconds. -/
  receive : Nat → Action σ (Option Delivery)
  pending : σ → Nat
  pending_sleep_le : ∀ ms s, pending (sleep ms s) ≤ pending s
  keeps_send : ∀ payload destination, (send payload destination).Keeps pending
  keeps_receive : ∀ wait, (receive wait).Keeps pending
  pending_receive_lt : ∀ {wait s d s'}, receive wait s = .ok (some d) s' →
    pending s' + d.payload.length < pending s

end SolarTelemetry
