import SolarTelemetry.Text.Number

/-!
# Decimals with fixed places

Devices report quantities as whole numbers of hundredths or thousandths of a unit. A `Decimal` keeps
that number exactly. Its text is the shortest one that still shows a fraction; its value as a
floating-point number is the quotient, rounded again to its places.
-/

namespace SolarTelemetry

structure Decimal where
  units : Int
  places : Nat
  deriving DecidableEq, Repr, Inhabited

namespace Decimal

def hundredths (units : Int) : Decimal := ⟨units, 2⟩

def thousandths (units : Int) : Decimal := ⟨units, 3⟩

def trimZeros (digits : List Char) : List Char :=
  (digits.reverse.dropWhile (· == '0')).reverse

/-- Trailing zeros are left out, but one digit always follows the point. -/
def text (d : Decimal) : List Char :=
  let size := d.units.natAbs
  let whole := Nat.toDigits 10 (size / 10 ^ d.places)
  let fraction := trimZeros (Text.padded d.places (Nat.toDigits 10 (size % 10 ^ d.places)))
  let sign := if d.units < 0 then ['-'] else []
  sign ++ whole ++ '.' :: (if fraction.isEmpty then ['0'] else fraction)

/-- Rounds to a number of decimal places; a half goes away from zero. -/
def round (x : Float) (places : Nat) : Float :=
  let scale := Float.ofNat (10 ^ places)
  (x * scale).round / scale

def toFloat (d : Decimal) : Float :=
  round (Float.ofInt d.units / Float.ofNat (10 ^ d.places)) d.places

end Decimal

end SolarTelemetry
