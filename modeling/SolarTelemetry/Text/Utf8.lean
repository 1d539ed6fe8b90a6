import SolarTelemetry.Bytes

/-!
# Text from octets

`pieces` cuts a byte string into the characters it encodes and the maximal beginnings of characters
that are never finished. Strict decoding refuses such a beginning, lossy decoding writes one
replacement character for each.
-/

namespace SolarTelemetry.Text.Utf8

/-- A character whose first octets have been read: how many are owed, the range of the next one,
and the bits so far. -/
structure Pending where
  owed : Nat
  low : UInt8 := 0x80
  high : UInt8 := 0xBF
  bits : Nat

inductive Start where
  | whole (c : Char)
  | pending (p : Pending)
  | invalid

def start (b : UInt8) : Start :=
  let n := b.toNat
  if n < 0x80 then .whole (Char.ofNat n)
  else if n < 0xC2 then .invalid
  else if n < 0xE0 then .pending ⟨1, 0x80, 0xBF, n % 0x20⟩
  else if n < 0xF0 then
    .pending ⟨2, if n = 0xE0 then 0xA0 else 0x80, if n = 0xED then 0x9F else 0xBF, n % 0x10⟩
  else if n < 0xF5 then
    .pending ⟨3, if n = 0xF0 then 0x90 else 0x80, if n = 0xF4 then 0x8F else 0xBF, n % 0x08⟩
  else .invalid

/-- The pending character after an octet that it accepts, finished when nothing is owed. -/
def Pending.add (p : Pending) (b : UInt8) : Start :=
  let bits := p.bits * 0x40 + b.toNat % 0x40
  if p.owed ≤ 1 then .whole (Char.ofNat bits) else .pending ⟨p.owed - 1, 0x80, 0xBF, bits⟩

/-- `none` stands for a maximal beginning of a character that is never finished. -/
def pieces : Bytes → List (Option Char) :=
  go none
where
  begin (b : UInt8) (more : Option Pending → List (Option Char)) : List (Option Char) :=
    match start b with
    | .whole c => some c :: more none
    | .pending p => more (some p)
    | .invalid => none :: more none
  go : Option Pending → Bytes → List (Option Char)
    | none, [] => []
    | some _, [] => [none]
    | none, b :: bs => begin b (go · bs)
    | some p, b :: bs =>
      if p.low ≤ b ∧ b ≤ p.high then
        match p.add b with
        | .whole c => some c :: go none bs
        | .pending p => go (some p) bs
        | .invalid => none :: go none bs
      else none :: begin b (go · bs)

def replacement : Char := '\uFFFD'

def decodeLossy (bs : Bytes) : List Char := (pieces bs).map (·.getD replacement)

def decode? (bs : Bytes) : Option (List Char) := (pieces bs).mapM id

end SolarTelemetry.Text.Utf8
