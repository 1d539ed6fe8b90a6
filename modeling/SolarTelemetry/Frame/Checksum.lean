import SolarTelemetry.Bytes

/-!
# Frame check sequence

The sixteen-bit cyclic redundancy check with the reflected polynomial 0x8408. The register starts
full and the sequence sent is its complement, so a frame together with its own sequence always
leaves the register at `residue`.
-/

namespace SolarTelemetry.Frame

def shift (register : UInt16) : UInt16 :=
  if register &&& 1 = 1 then (register >>> 1) ^^^ 0x8408 else register >>> 1

/-- The register after one more octet. -/
def absorb (register : UInt16) (b : UInt8) : UInt16 :=
  Nat.repeat shift 8 (register ^^^ b.toUInt16)

def register (bs : Bytes) : UInt16 := bs.foldl absorb 0xFFFF

def checksum (bs : Bytes) : UInt16 := ~~~(register bs)

def residue : UInt16 := 0xF0B8

end SolarTelemetry.Frame
