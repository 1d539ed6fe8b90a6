import SolarTelemetry.Text.Number

/-!
# Byte strings and little-endian words

Everything on the wire is a list of octets, and every number wider than an octet is written least
significant octet first. `encode` and `decode` are inverse on numbers that fit; `wordAt?` reads a
number at an offset and is `none` where it would reach past the end.
-/

namespace SolarTelemetry

abbrev Bytes := List UInt8

namespace LittleEndian

/-- The `width` least significant octets of `n`. -/
def encode : (width : Nat) → (n : Nat) → Bytes
  | 0, _ => []
  | width + 1, n => UInt8.ofNat n :: encode width (n / 256)

def decode : Bytes → Nat
  | [] => 0
  | b :: bs => b.toNat + 256 * decode bs

@[simp] theorem length_encode (width n : Nat) : (encode width n).length = width := by
  induction width generalizing n with
  | zero => rfl
  | succ width ih => simp [encode, ih]

theorem decode_encode (width n : Nat) : decode (encode width n) = n % 256 ^ width := by
  induction width generalizing n with
  | zero => simp [encode, decode, Nat.mod_one]
  | succ width ih =>
    have key : n % 256 + 256 * (n / 256 % 256 ^ width) = n % 256 ^ (width + 1) := by
      rw [Nat.pow_succ', Nat.mod_mul]
    simpa [encode, decode, ih] using key

theorem encode_decode (bs : Bytes) : encode bs.length (decode bs) = bs := by
  induction bs with
  | nil => rfl
  | cons b bs ih =>
    have low : UInt8.ofNat (b.toNat + 256 * decode bs) = b := by
      apply UInt8.toNat_inj.mp
      have := b.toNat_lt
      simp only [UInt8.toNat_ofNat']
      omega
    have high : (b.toNat + 256 * decode bs) / 256 = decode bs := by
      have := b.toNat_lt
      omega
    simp [encode, decode, low, high, ih]

theorem decode_lt (bs : Bytes) : decode bs < 256 ^ bs.length := by
  induction bs with
  | nil => simp [decode]
  | cons b bs ih =>
    have := b.toNat_lt
    simp only [decode, List.length_cons, Nat.pow_succ]
    omega

end LittleEndian

namespace Bytes

def ofWord16 (w : UInt16) : Bytes := LittleEndian.encode 2 w.toNat

def ofWord32 (w : UInt32) : Bytes := LittleEndian.encode 4 w.toNat

def ofWord64 (w : UInt64) : Bytes := LittleEndian.encode 8 w.toNat

def wordAt? (width offset : Nat) (bs : Bytes) : Option Nat :=
  if offset + width ≤ bs.length then
    some (LittleEndian.decode ((bs.drop offset).take width))
  else none

def word16At? (offset : Nat) (bs : Bytes) : Option UInt16 :=
  (wordAt? 2 offset bs).map UInt16.ofNat

def word32At? (offset : Nat) (bs : Bytes) : Option UInt32 :=
  (wordAt? 4 offset bs).map UInt32.ofNat

/-- Two hexadecimal digits for each octet, separated by blanks. -/
def dump (bs : Bytes) : String :=
  String.intercalate " " (bs.map fun b => Text.hex 2 b.toNat)

end Bytes

/-- Takes a value off the front of a byte string, or fails where too few octets are left. -/
abbrev Reader (α : Type) := StateT Bytes Option α

namespace Reader

def number (width : Nat) : Reader Nat := fun bs =>
  if width ≤ bs.length then
    some (LittleEndian.decode (bs.take width), bs.drop width)
  else none

def octets (n : Nat) : Reader Bytes := fun bs =>
  if n ≤ bs.length then some (bs.take n, bs.drop n) else none

def word8 : Reader UInt8 := UInt8.ofNat <$> number 1
def word16 : Reader UInt16 := UInt16.ofNat <$> number 2
def word32 : Reader UInt32 := UInt32.ofNat <$> number 4
def word64 : Reader UInt64 := UInt64.ofNat <$> number 8

end Reader

end SolarTelemetry
