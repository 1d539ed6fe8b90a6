/-!
# Numbers in text

Padded digits for messages, and the grammar of unsigned numbers: an optional plus sign and at
least one digit of the radix, with a value below the bound.
-/

-- Powers and sums of numbers go by the instances of core, whatever algebra a module brings in.
attribute [instance (high)] instPowNat Zero.ofOfNat0
attribute [default_instance high + 1] instPowNat

namespace SolarTelemetry.Text

def padded (width : Nat) (digits : List Char) : List Char :=
  List.replicate (width - digits.length) '0' ++ digits

def hex (width n : Nat) : String := String.ofList (padded width (Nat.toDigits 16 n))

def hexUpper (width n : Nat) : String :=
  String.ofList ((padded width (Nat.toDigits 16 n)).map Char.toUpper)

def decimal (width n : Nat) : String := String.ofList (padded width (Nat.toDigits 10 n))

def digitValue? (radix : Nat) (c : Char) : Option Nat :=
  let value :=
    if '0' ≤ c ∧ c ≤ '9' then some (c.toNat - '0'.toNat)
    else if 'a' ≤ c ∧ c ≤ 'z' then some (c.toNat - 'a'.toNat + 10)
    else if 'A' ≤ c ∧ c ≤ 'Z' then some (c.toNat - 'A'.toNat + 10)
    else none
  value.filter (· < radix)

/-- The value of a digit string, most significant digit first. -/
def digitsValue? (radix : Nat) : List Char → Option Nat :=
  go 0
where
  go (acc : Nat) : List Char → Option Nat
    | [] => some acc
    | c :: cs => (digitValue? radix c).bind fun d => go (acc * radix + d) cs

def unsigned? (radix bound : Nat) (cs : List Char) : Option Nat :=
  let digits := match cs with
    | '+' :: rest => rest
    | cs => cs
  if digits.isEmpty then none else (digitsValue? radix digits).filter (· < bound)

end SolarTelemetry.Text
