import SolarTelemetry.Bytes

/-!
# Byte stuffing

Inside a frame the sync byte, the escape byte and three control characters are written as the escape
byte followed by the octet with one bit flipped. A receiver takes any escaped octet back.
-/

namespace SolarTelemetry.Frame

def sync : UInt8 := 0x7E

def escape : UInt8 := 0x7D

def flip (b : UInt8) : UInt8 := b ^^^ 0x20

def reserved : List UInt8 := [escape, sync, 0x11, 0x12, 0x13]

def isReserved (b : UInt8) : Bool := reserved.contains b

theorem isReserved_iff {b : UInt8} : isReserved b ↔ b ∈ reserved := List.contains_iff_mem

def stuff : Bytes → Bytes
  | [] => []
  | b :: bs => if isReserved b then escape :: flip b :: stuff bs else b :: stuff bs

/-- Fails only where an escape byte is the last of the list. -/
def unstuff? : Bytes → Option Bytes
  | [] => some []
  | [b] => if b = escape then none else some [b]
  | b :: next :: bs =>
    if b = escape then (unstuff? bs).map (flip next :: ·)
    else (unstuff? (next :: bs)).map (b :: ·)

theorem unstuff?_cons_of_ne {b : UInt8} (hb : b ≠ escape) (bs : Bytes) :
    unstuff? (b :: bs) = (unstuff? bs).map (b :: ·) := by
  cases bs <;> simp [unstuff?, hb]

theorem flip_flip (b : UInt8) : flip (flip b) = b := by
  rw [flip, flip, UInt8.xor_assoc, UInt8.xor_self, UInt8.xor_zero]

theorem unstuff?_stuff (bs : Bytes) : unstuff? (stuff bs) = some bs := by
  induction bs with
  | nil => rfl
  | cons b bs ih =>
    by_cases h : isReserved b
    · simp [stuff, h, unstuff?, ih, flip_flip]
    · have hb : b ≠ escape := by
        rintro rfl
        exact h rfl
      simp [stuff, h, unstuff?_cons_of_ne hb, ih]

theorem sync_notMem_stuff (bs : Bytes) : sync ∉ stuff bs := by
  induction bs with
  | nil => simp [stuff]
  | cons b bs ih =>
    by_cases h : isReserved b
    · have distinct : sync ≠ escape := by decide
      have flipped : sync ≠ flip b := by
        intro same
        have : isReserved (flip sync) := by rwa [same, flip_flip]
        exact absurd this (by decide)
      simp [stuff, h, ih, flipped, distinct]
    · have hb : sync ≠ b := by
        rintro rfl
        exact h rfl
      simp [stuff, h, ih, hb]

end SolarTelemetry.Frame
