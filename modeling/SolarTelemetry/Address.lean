import SolarTelemetry.Bytes

/-!
# Bluetooth addresses

An address is six octets in the order people write them. Packets carry it the other way round, so
`wire` reverses and `ofWire?` undoes it. The all-zero and the all-ones address reach every device.
-/

namespace SolarTelemetry

structure Address where
  octets : Bytes
  length_eq : octets.length = 6
  deriving DecidableEq

namespace Address

def zero : Address := ⟨List.replicate 6 0x00, rfl⟩

def broadcast : Address := ⟨List.replicate 6 0xFF, rfl⟩

instance : Inhabited Address := ⟨zero⟩

def ofOctets? (bs : Bytes) : Option Address :=
  if h : bs.length = 6 then some ⟨bs, h⟩ else none

def ofWire? (bs : Bytes) : Option Address := ofOctets? bs.reverse

def wire (a : Address) : Bytes := a.octets.reverse

@[simp] theorem length_wire (a : Address) : a.wire.length = 6 := by
  simp [wire, a.length_eq]

@[simp] theorem ofWire?_wire (a : Address) : ofWire? a.wire = some a := by
  simp [ofWire?, ofOctets?, wire, a.length_eq]

theorem ofWire?_eq_some_iff {bs : Bytes} {a : Address} : ofWire? bs = some a ↔ bs = a.wire := by
  constructor
  · intro h
    unfold ofWire? ofOctets? at h
    split at h
    · cases h
      simp [wire]
    · cases h
  · rintro rfl
    exact ofWire?_wire a

def reachesAll (a : Address) : Bool := a == zero || a == broadcast

/-- Six pairs of capital hexadecimal digits, separated by colons. -/
def text (a : Address) : String :=
  String.intercalate ":" (a.octets.map fun b => Text.hexUpper 2 b.toNat)

/-- Reads six hexadecimal numbers below 256, separated by colons. -/
def ofText? (s : String) : Option Address := do
  let octets ← (s.toList.splitOn ':').mapM (Text.unsigned? 16 256)
  ofOctets? (octets.map UInt8.ofNat)

end Address

end SolarTelemetry
