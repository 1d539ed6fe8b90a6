import SolarTelemetry.Application
import SolarTelemetry.Config.Document
import SolarTelemetry.Endpoint

/-!
# The command

Reads the options and the configuration, opens the log and runs until the time is up. No endpoint is
opened on this layer, so every inverter stays to be reached. The command exits with 2 if the options
make no sense and with 255 if the application fails.
-/

namespace SolarTelemetry.Command

def version : String := "solar-telemetry 1.0.0"

def usage : String :=
  "Usage: solar-telemetry [OPTIONS]\n\nOptions:\n" ++
  "  -c, --config <FILE>   Config file to read [default: config.yaml]\n" ++
  "  -t, --time <SECONDS>  Optional runtime limit in seconds\n" ++
  "  -h, --help            Print help\n" ++
  "  -V, --version         Print version"

def stopText : Options.Stop → String
  | .unknownArgument => "error: unexpected argument found"
  | .missingValue => "error: a value is required but none was supplied"
  | .unneededValue => "error: unexpected value found"
  | .badValue => "error: invalid value"
  | .repeated => "error: the argument cannot be used multiple times"
  | .help => usage
  | .version => version

def readConfig (path : String) : IO (Except ConfigError Config) := do
  let contents ← try some <$> IO.FS.readBinFile path catch _ => pure none
  return Config.ofFile (contents.map (·.toList))

/-- Opens the log, with the directories that lead to it. -/
def openLog (path : String) : IO Unit := do
  let parent := String.intercalate "/" (path.splitOn "/").dropLast
  unless parent.isEmpty do IO.FS.createDirAll parent
  let _ ← IO.FS.Handle.mk path .append

/-- Waits for a number of seconds, or for ever. -/
partial def waitFor (seconds : Option Nat) : IO Unit := do
  unless seconds = some 0 do
    IO.sleep 1000
    waitFor (seconds.map (· - 1))

def run (options : Options) : IO UInt32 := do
  match ← readConfig options.configFile with
  | .error e =>
    IO.eprintln s!"Application error: {e.message}"
    return 255
  | .ok config =>
    try
      if let some path := config.datalogFile then openLog path
    catch e =>
      IO.eprintln s!"Application error: {e}"
      return 255
    for inverter in config.enabledInverters do
      let place := (Endpoint.ofAddress inverter.address).text
      IO.eprintln s!"inverter {inverter.address}: {place} cannot be reached"
    waitFor options.runtime
    return 0

end SolarTelemetry.Command

open SolarTelemetry in
def main (arguments : List String) : IO UInt32 := do
  match Options.ofArguments arguments with
  | .ok options => Command.run options
  | .error stop =>
    let text := Command.stopText stop
    if stop = .help ∨ stop = .version then
      IO.println text
      return 0
    else
      IO.eprintln text
      return 2
