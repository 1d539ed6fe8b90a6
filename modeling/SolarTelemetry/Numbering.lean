/-!
# Numbering of transactions

Each attempt at an exchange has a number of its own, which its replies repeat. The numbers start at
`first` and go round.
-/

namespace SolarTelemetry

structure Numbering where
  /-- The number of the transaction that is open or comes next. -/
  current : UInt16 := 0x8000
  deriving DecidableEq, Repr

namespace Numbering

def first : UInt16 := 0x8000

def last : UInt16 := 0xFFFF

/-- The numbering once the current transaction has ended. -/
def next (n : Numbering) : Numbering :=
  ⟨if n.current = last then first else n.current + 1⟩

def restart (_ : Numbering) : Numbering := ⟨first⟩

end Numbering

end SolarTelemetry
