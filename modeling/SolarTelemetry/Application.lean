import SolarTelemetry.Config.Basic
import SolarTelemetry.Files
import SolarTelemetry.Options

/-!
# The application

The application reads its configuration, opens the log if there is one, and keeps a poller for every
enabled inverter until its time is up or it is asked to stop; a run that neither ends is over after
thirty years. A poller that cannot reach its inverter goes on trying, so it neither ends a run nor
holds up its end.
-/

namespace SolarTelemetry

inductive Application.Failure where
  | config (e : ConfigError)
  | log
  deriving DecidableEq, Repr

namespace Application

/-- Thirty years in milliseconds. -/
def thirtyYears : Nat := 946080000000

/-- The time that a run is given, in milliseconds. One whose end no clock can show is thirty
years. -/
def limit (seconds : Nat) : Nat := if seconds < 2 ^ 63 then 1000 * seconds else thirtyYears

/-- The moment the application stops, in milliseconds. -/
def stopAt (runtime shutdown : Option Nat) : Nat :=
  let asked := shutdown.getD thirtyYears
  (runtime.map limit).elim asked (min asked)

/-- Opens the log that a configuration names; false if it cannot be opened. -/
def openLog (c : Config) (files : Files) (here : List String) : Bool × Files :=
  match c.datalogFile with
  | none => (true, files)
  | some text =>
    let (path, files) := files.openFile here text
    (path.isSome, files)

/-- What has become of a run, when it ended and the files it left. -/
structure Report where
  result : Except Failure Unit
  ended : Nat
  files : Files

/-- A run in which no inverter can be reached. -/
def run (config : Except ConfigError Config) (runtime shutdown : Option Nat) (files : Files)
    (here : List String) : Report :=
  match config with
  | .error e => ⟨.error (.config e), 0, files⟩
  | .ok c =>
    match openLog c files here with
    | (false, files) => ⟨.error .log, 0, files⟩
    | (true, files) => ⟨.ok (), stopAt runtime shutdown, files⟩

end Application

end SolarTelemetry
