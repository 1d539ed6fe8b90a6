import SolarTelemetry.Address
import SolarTelemetry.Error

/-!
# Link packets

A packet is a header of eighteen octets, whose first four guard themselves by an exclusive or, and
a payload. The stream of packets has no way to find its feet again, so a bad header is fatal: it is
reported and stays at the front of the buffer. Decoding a packet shortens the buffer by at least the
length of a header, and no octet is lost: the packets of a buffer and what is left add up to it.
-/

namespace SolarTelemetry

/-- What a packet asks for or announces. -/
inductive Command where
  | data
  | idExchange
  | signalQuery
  | signalReport
  | topology
  /-- Data that a later packet goes on with. -/
  | dataPart
  | address
  deriving DecidableEq, Repr

namespace Command

def code : Command → UInt8
  | .data => 0x01
  | .idExchange => 0x02
  | .signalQuery => 0x03
  | .signalReport => 0x04
  | .topology => 0x05
  | .dataPart => 0x08
  | .address => 0x0A

def all : List Command :=
  [.data, .idExchange, .signalQuery, .signalReport, .topology, .dataPart, .address]

def ofCode? (code : UInt8) : Option Command := all.find? (·.code == code)

@[simp] theorem ofCode?_code (c : Command) : ofCode? c.code = some c := by
  cases c <;> rfl

def name : Command → String
  | .data => "Data"
  | .idExchange => "IdExchange"
  | .signalQuery => "SignalQuery"
  | .signalReport => "SignalReport"
  | .topology => "Topology"
  | .dataPart => "DataPart"
  | .address => "Address"

end Command

/-- The command is kept as it stands on the wire, for packets of kinds not known here. -/
structure Packet where
  source : Address
  destination : Address
  code : UInt8
  payload : Bytes
  deriving DecidableEq

namespace Packet

def headerLength : Nat := 18

def maxLength : Nat := 255

def maxPayload : Nat := maxLength - headerLength

def startOctet : UInt8 := 0x7E

def of (command : Command) (source destination : Address) (payload : Bytes) : Packet :=
  ⟨source, destination, command.code, payload⟩

def command? (p : Packet) : Option Command := Command.ofCode? p.code

def encode (p : Packet) : Except LinkError Bytes :=
  let length := headerLength + p.payload.length
  if maxLength < length then .error (.packetTooLong length)
  else
    let size := UInt8.ofNat length
    .ok ([startOctet, size, 0, startOctet ^^^ size ^^^ 0] ++ p.source.wire ++ p.destination.wire ++
      [p.code, 0] ++ p.payload)

/-- The fault of the four octets that open a header, if they have one. -/
def headerFault? (start length zero guard : UInt8) : Option LinkError :=
  if start ≠ startOctet then some (.badSync start)
  else if guard ≠ start ^^^ length ^^^ zero then
    some (.headerChecksum [start, length, zero, guard])
  else if length.toNat < headerLength then some (.badLength length.toNat)
  else none

def ofWire? (raw : Bytes) : Option Packet := do
  let source ← Address.ofWire? ((raw.drop 4).take 6)
  let destination ← Address.ofWire? ((raw.drop 10).take 6)
  let code ← raw[16]?
  some ⟨source, destination, code, raw.drop headerLength⟩

/-- The packet at the front of a buffer and what follows it, if all of it is there. -/
def decode (buffer : Bytes) : Except LinkError (Option (Packet × Bytes)) :=
  match buffer with
  | start :: length :: zero :: guard :: _ =>
    match headerFault? start length zero guard with
    | some fault => .error fault
    | none =>
      if buffer.length < length.toNat then .ok none
      else
        .ok ((ofWire? (buffer.take length.toNat)).map (·, buffer.drop length.toNat))
  | _ => .ok none

theorem length_of_decode {buffer rest : Bytes} {p : Packet}
    (h : decode buffer = .ok (some (p, rest))) :
    rest.length + headerLength + p.payload.length = buffer.length := by
  unfold decode at h
  split at h
  · next start length zero guard tail =>
    cases hf : headerFault? start length zero guard with
    | some fault => simp [hf] at h
    | none =>
      simp only [hf] at h
      split at h
      · simp at h
      · next whole =>
        have long : headerLength ≤ length.toNat := by
          unfold headerFault? at hf
          split at hf
          · cases hf
          · split at hf
            · cases hf
            · split at hf
              · cases hf
              · omega
        simp only [Except.ok.injEq, Option.map_eq_some_iff, Prod.mk.injEq] at h
        obtain ⟨q, hq, rfl, rfl⟩ := h
        simp only [ofWire?, Option.bind_eq_bind, Option.bind_eq_some_iff] at hq
        obtain ⟨source, -, destination, -, code, -, hp⟩ := hq
        cases hp
        simp only [List.length_drop, List.length_take]
        omega
  · simp at h

/-- What a buffer comes apart into: its whole packets, the fault after them if there is one, and the
octets that are left. -/
structure Drained where
  packets : List Packet
  fault : Option LinkError
  left : Bytes
  deriving DecidableEq

def drain (buffer : Bytes) : Drained :=
  match _decoded : decode buffer with
  | .error fault => ⟨[], some fault, buffer⟩
  | .ok none => ⟨[], none, buffer⟩
  | .ok (some (p, rest)) =>
    let d := drain rest
    { d with packets := p :: d.packets }
termination_by buffer.length
decreasing_by
  have := length_of_decode _decoded
  have : 0 < headerLength := by decide
  omega

theorem length_of_drain (buffer : Bytes) :
    ((drain buffer).packets.map (headerLength + ·.payload.length)).sum +
      (drain buffer).left.length = buffer.length := by
  fun_induction drain buffer with
  | case1 | case2 => simp
  | case3 buffer p rest decoded d ih =>
    have step := length_of_decode decoded
    subst d
    simp only [List.map_cons, List.sum_cons]
    omega

end Packet

end SolarTelemetry
