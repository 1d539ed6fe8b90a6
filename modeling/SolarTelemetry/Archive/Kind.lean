/-!
# Kinds of archive

Each archive of a device has its own object number and one length for all its entries.
-/

namespace SolarTelemetry

inductive Archive.Kind where
  /-- Cumulative yield every five minutes. -/
  | dayData
  | userEvents
  | installerEvents
  /-- Cumulative yield once a day. -/
  | monthData
  deriving DecidableEq, Repr, Inhabited

namespace Archive.Kind

def object : Kind → UInt16
  | .dayData => 0x7000
  | .userEvents => 0x7010
  | .installerEvents => 0x7012
  | .monthData => 0x7020

def ofObject? (object : UInt16) : Option Kind :=
  [dayData, userEvents, installerEvents, monthData].find? (·.object == object)

def holdsEvents : Kind → Bool
  | .userEvents | .installerEvents => true
  | .dayData | .monthData => false

def entryLength (kind : Kind) : Nat := if kind.holdsEvents then 48 else 12

def name : Kind → String
  | .dayData => "DayData"
  | .userEvents => "UserEvents"
  | .installerEvents => "InstallerEvents"
  | .monthData => "MonthData"

end Archive.Kind

end SolarTelemetry
