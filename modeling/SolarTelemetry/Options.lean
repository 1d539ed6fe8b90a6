import SolarTelemetry.Text.Number

/-!
# Command line options

Arguments are taken from left to right. An option that wants a value takes the next argument, unless
it has one attached or the next argument looks like an option. What an option was given is looked at
only when the next option comes or the arguments are over, so an argument that is not known at all
is complained about first.
-/

namespace SolarTelemetry

structure Options where
  configFile : String := "config.yaml"
  /-- How long to run, in seconds. -/
  runtime : Option Nat := none
  deriving DecidableEq, Repr

/-- Why there are no options to go by; to ask for help or the version is one reason. -/
inductive Options.Stop where
  | unknownArgument
  | missingValue
  | unneededValue
  | badValue
  | repeated
  | help
  | version
  deriving DecidableEq, Repr

inductive Options.Flag where
  | config
  | time
  | help
  | version
  deriving DecidableEq, Repr

/-- An argument by its form. -/
inductive Options.Argument where
  | terminator
  | long (name : String) (value : Option String)
  /-- A letter and what is attached to it. -/
  | short (letter : Char) (attached : List Char)
  | plain (text : String)
  deriving DecidableEq, Repr

namespace Options

def Flag.ofName? : String → Option Flag
  | "config" => some .config
  | "time" => some .time
  | "help" => some .help
  | "version" => some .version
  | _ => none

def Flag.ofLetter? : Char → Option Flag
  | 'c' => some .config
  | 't' => some .time
  | 'h' => some .help
  | 'V' => some .version
  | _ => none

/-- A dash on its own is plain text. -/
def Argument.ofText (text : String) : Argument :=
  match text.toList with
  | ['-', '-'] => .terminator
  | '-' :: '-' :: rest =>
    match rest.span (· != '=') with
    | (name, []) => .long (String.ofList name) none
    | (name, _ :: value) => .long (String.ofList name) (some (String.ofList value))
  | '-' :: letter :: attached => .short letter attached
  | _ => .plain text

/-- A value may be attached to a letter with or without an equals sign. -/
def attachedValue? : List Char → Option String
  | [] => none
  | '=' :: value => some (String.ofList value)
  | value => some (String.ofList value)

structure Reading where
  config : Option String := none
  time : Option Nat := none
  /-- The option that came last, and the argument after it. -/
  pending : Option (Flag × Option String) := none
  /-- Whether options are over. -/
  trailing : Bool := false

namespace Reading

def store (s : Reading) (flag : Flag) (value : String) : Except Stop Reading :=
  match flag with
  | .config => if s.config.isSome then .error .repeated else .ok { s with config := some value }
  | .time =>
    if s.time.isSome then .error .repeated
    else
      match Text.unsigned? 10 (2 ^ 64) value.toList with
      | some n => .ok { s with time := some n }
      | none => .error .badValue
  | .help => .error .help
  | .version => .error .version

/-- Looks at what the last option was given. -/
def settle (s : Reading) : Except Stop Reading :=
  match s.pending with
  | none => .ok s
  | some (_, none) => .error .missingValue
  | some (flag, some value) => store { s with pending := none } flag value

def takeFlag (s : Reading) (flag : Flag) (value : Option String) : Except Stop Reading := do
  let s ← s.settle
  match flag, value with
  | .help, _ => .error .help
  | .version, _ => .error .version
  | flag, some value => s.store flag value
  | flag, none => .ok { s with pending := some (flag, none) }

def isSwitch (flag : Flag) : Bool := flag == .help || flag == .version

def take (s : Reading) (a : Argument) : Except Stop Reading :=
  if s.trailing then .error .unknownArgument
  else
    match a with
    | .terminator => .ok { s with trailing := true }
    | .long name value =>
      match Flag.ofName? name with
      | none => .error .unknownArgument
      | some flag =>
        if isSwitch flag ∧ value.isSome then .error .unneededValue else s.takeFlag flag value
    | .short letter attached =>
      match Flag.ofLetter? letter with
      | none => .error .unknownArgument
      | some flag => s.takeFlag flag (attachedValue? attached)
    | .plain text =>
      match s.pending with
      | some (flag, none) => .ok { s with pending := some (flag, some text) }
      | _ => .error .unknownArgument

def takeAll (s : Reading) : List String → Except Stop Reading
  | [] => .ok s
  | text :: rest => do (← s.take (.ofText text)).takeAll rest

end Reading

def ofArguments (arguments : List String) : Except Stop Options := do
  let s ← (← Reading.takeAll {} arguments).settle
  return { configFile := s.config.getD "config.yaml", runtime := s.time }

end Options

end SolarTelemetry
