import SolarTelemetry.Action

/-!
# Pipes

A pipe carries octets both ways between this end and a peer. Reading yields nothing if nothing
arrives in time, and fails once the peer has closed its end and all that it wrote has been read.
-/

namespace SolarTelemetry

structure Pipe where
  name : String
  now : Nat := 0
  /-- Written by the peer and not yet read here. -/
  inbound : Bytes := []
  /-- Written here and not yet read by the peer. -/
  outbound : Bytes := []
  closed : Bool := false

namespace Pipe

/-- Reads octets for which there is room. Where there is none, nothing read looks like the end. -/
def read (room wait : Nat) : Action Pipe Bytes := fun p =>
  if room > 0 && p.inbound.isEmpty && !p.closed then .ok [] { p with now := p.now + wait }
  else
    match p.inbound.take room with
    | [] => .error (.transport s!"{p.name} closed by peer") p
    | octets => .ok octets { p with inbound := p.inbound.drop room }

/-- Writes octets and says how many. -/
def write (octets : Bytes) : Action Pipe Nat := fun p =>
  if p.closed && !octets.isEmpty then .error (.transport "broken pipe") p
  else .ok octets.length { p with outbound := p.outbound ++ octets }

def peerWrite (octets : Bytes) (p : Pipe) : Pipe := { p with inbound := p.inbound ++ octets }

def peerRead (room : Nat) (p : Pipe) : Bytes × Pipe :=
  (p.outbound.take room, { p with outbound := p.outbound.drop room })

def peerClose (p : Pipe) : Pipe := { p with closed := true }

end Pipe

end SolarTelemetry
