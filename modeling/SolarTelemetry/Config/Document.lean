import SolarTelemetry.Config.Basic
import SolarTelemetry.Text.Number
import SolarTelemetry.Text.Utf8
import SolarTelemetry.Yaml.Node

/-!
# Reading a configuration

A configuration is written as a mapping. Fields that are not known are passed over, but a known one
may be given only once. Texts are taken as they stand, quoted or not; numbers and truth values have
to stand without quotes.
-/

namespace SolarTelemetry

namespace Yaml.Node

/-- Nothing at all may stand for an empty collection. -/
def isNothing : Node → Bool
  | .scalar text plain => plain && text == ""
  | _ => false

def isNull : Node → Bool
  | .scalar text plain => plain && ["", "~", "null", "Null", "NULL"].contains text
  | _ => false

def text? : Node → Option String
  | .scalar text _ => some text
  | _ => none

def bool? : Node → Option Bool
  | .scalar text true =>
    if ["true", "True", "TRUE"].contains text then some true
    else if ["false", "False", "FALSE"].contains text then some false
    else none
  | _ => none

def digits? (radix : Nat) (cs : List Char) : Option Nat :=
  if cs.isEmpty then none else Text.digitsValue? radix cs

/-- A decimal number does not begin with a zero, unless it is one. -/
def decimal? : List Char → Option Nat
  | '0' :: _ :: _ => none
  | cs => digits? 10 cs

/-- A number in one of four radices, with or without a plus sign. -/
def naturalOf? (cs : List Char) : Option Nat :=
  let unsigned := match cs with
    | '+' :: rest => rest
    | cs => cs
  match unsigned with
  | '0' :: 'x' :: digits => digits? 16 digits
  | '0' :: 'o' :: digits => digits? 8 digits
  | '0' :: 'b' :: digits => digits? 2 digits
  | cs => decimal? cs

def natural? (bound : Nat) : Node → Option Nat
  | .scalar text true => (naturalOf? text.toList).filter (· < bound)
  | _ => none

/-- Null stands for a value that was left out. -/
def optional? {α : Type} (read : Node → Option α) (n : Node) : Option (Option α) :=
  if n.isNull then some none else (read n).map some

def items? : Node → Option (List Node)
  | .sequence items => some items
  | n => if n.isNothing then some [] else none

/-- The fields of a mapping whose keys are all scalars. -/
def fields? : Node → Option (List (String × Node))
  | .mapping entries => entries.mapM fun (key, value) => key.text?.map (·, value)
  | n => if n.isNothing then some [] else none

end Yaml.Node

open Yaml (Node)

/-- Reads a field that may be left out but not given twice. -/
def readField? {α : Type} (fields : List (String × Node)) (name : String)
    (read : Node → Option α) : Option (Option α) :=
  match fields.filter (·.1 == name) with
  | [] => some none
  | [(_, n)] => (read n).map some
  | _ => none

def UserGroup.ofNode? (n : Node) : Option UserGroup := do
  match ← n.text? with
  | "user" => some .user
  | "installer" => some .installer
  | _ => none

def Inverter.ofNode? (n : Node) : Option Inverter := do
  let fields ← n.fields?
  let enabled ← readField? fields "enabled" Node.bool?
  let address ← readField? fields "address" Node.text?
  let password ← readField? fields "password" Node.text?
  let userGroup ← readField? fields "user_type" UserGroup.ofNode?
  let deviceCount ← readField? fields "device_count" (Node.optional? (Node.natural? (2 ^ 64)))
  let archiveDays ← readField? fields "archive_days" (Node.optional? (Node.natural? (2 ^ 32)))
  let readTimeout ← readField? fields "read_timeout" (Node.optional? (Node.natural? (2 ^ 64)))
  return {
    enabled := enabled.getD true
    address := ← address
    password := password.getD "0000"
    userGroup := userGroup.getD .user
    deviceCount := deviceCount.join.getD 1
    archiveDays := UInt32.ofNat (archiveDays.join.getD 0)
    readTimeout := readTimeout.join.getD 5 }

namespace Config

def ofNode? (n : Node) : Option Config := do
  let fields ← n.fields?
  let inverters ← readField? fields "inverters" Node.items?
  let logLevel ← readField? fields "loglevel" Node.text?
  let datalogFile ← readField? fields "datalog_file" (Node.optional? Node.text?)
  let pollInterval ← readField? fields "poll_interval" (Node.natural? (2 ^ 64))
  return {
    inverters := ← (← inverters).mapM Inverter.ofNode?
    logLevel := logLevel.getD "info"
    datalogFile := datalogFile.join
    pollInterval := pollInterval.getD 300 }

def ofText (text : String) : Except ConfigError Config :=
  match (Node.ofText? text).bind ofNode? with
  | none => .error .malformed
  | some c =>
    match c.error? with
    | some e => .error e
    | none => .ok c

/-- The configuration in a file, which has to exist and to hold text. -/
def ofFile (contents : Option Bytes) : Except ConfigError Config :=
  match contents.bind Text.Utf8.decode? with
  | none => .error .unreadable
  | some cs => ofText (String.ofList cs)

end Config

end SolarTelemetry
