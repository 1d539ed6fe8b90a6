/-!
# Channel queries

The object and the range of indices behind each set of readings.
-/

namespace SolarTelemetry

structure Query where
  name : String
  object : UInt16
  first : UInt32
  last : UInt32
  deriving DecidableEq, Repr

namespace Query

def ac : Query := ⟨"ac", 0x5100, 0x00263F00, 0x004657FF⟩

def dc : Query := ⟨"dc", 0x5380, 0x00251E00, 0x004521FF⟩

def statistics : Query := ⟨"statistics", 0x5400, 0x00260100, 0x00462FFF⟩

def status : Query := ⟨"status", 0x5180, 0x00214800, 0x004164FF⟩

def deviceInfo : Query := ⟨"device info", 0x5800, 0x00821E00, 0x008234FF⟩

end Query

end SolarTelemetry
