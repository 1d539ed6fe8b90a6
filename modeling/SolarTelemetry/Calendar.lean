import SolarTelemetry.Text.Number

/-!
# Times

Devices count seconds in a word of thirty-two bits. A clock that shows more is held at the ends of
that range, and a date is worked out in years that begin in March, so that a leap day comes last.
-/

namespace SolarTelemetry.Calendar

/-- A clock reading as devices count it. -/
def unixSeconds (now : Int) : UInt32 := UInt32.ofNat (min now.toNat (2 ^ 32 - 1))

/-- The serial number this end takes on; the clock keeps sessions apart. -/
def ownSerial (now : Int) : UInt32 := 900000000 + unixSeconds now % 100000000

structure Date where
  year : Nat
  month : Nat
  day : Nat
  deriving DecidableEq, Repr

/-- The date so many days after the first of January 1970. -/
def Date.ofDays (n : Nat) : Date :=
  -- Days since the first of March of the year 0, in cycles of four hundred years.
  let days := n + 719468
  let cycle := days / 146097
  let dayOfCycle := days % 146097
  let yearOfCycle :=
    (dayOfCycle - dayOfCycle / 1460 + dayOfCycle / 36524 - dayOfCycle / 146096) / 365
  let dayOfYear := dayOfCycle - (365 * yearOfCycle + yearOfCycle / 4 - yearOfCycle / 100)
  let month := (5 * dayOfYear + 2) / 153
  let day := dayOfYear - (153 * month + 2) / 5 + 1
  let year := 400 * cycle + yearOfCycle
  if month < 10 then ⟨year, month + 3, day⟩ else ⟨year + 1, month - 9, day⟩

def text (seconds : UInt32) : String :=
  let date := Date.ofDays (seconds.toNat / 86400)
  let second := seconds.toNat % 86400
  s!"{Text.decimal 4 date.year}-{Text.decimal 2 date.month}-{Text.decimal 2 date.day} " ++
    s!"{Text.decimal 2 (second / 3600)}:{Text.decimal 2 (second / 60 % 60)}:" ++
    s!"{Text.decimal 2 (second % 60)} UTC"

end SolarTelemetry.Calendar
