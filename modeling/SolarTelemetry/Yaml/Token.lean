/-!
# Tokens of documents

A document is a row of tokens. Block collections are opened and closed by tokens of their own, which
come from the indentation; keys are marked as such before the token that they begin with.
-/

namespace SolarTelemetry.Yaml

inductive Token where
  | documentStart
  | documentEnd
  | blockSequenceStart
  | blockMappingStart
  | blockEnd
  | flowSequenceStart
  | flowSequenceEnd
  | flowMappingStart
  | flowMappingEnd
  | blockEntry
  | flowEntry
  | key
  | value
  /-- A text, and whether it stood without quotes. -/
  | scalar (text : String) (plain : Bool)
  deriving DecidableEq, Repr

end SolarTelemetry.Yaml
