/-!
# Characters of documents

Which characters a document may hold, which of them end a line, and which are blanks or mark the
structure of a collection in flow style.
-/

namespace SolarTelemetry.Yaml

/-- Tabs, line ends and everything printable. -/
def isAllowed (c : Char) : Bool :=
  let n := c.toNat
  n == 0x9 || n == 0xA || n == 0xD || (0x20 ≤ n && n ≤ 0x7E) || n == 0x85 ||
    (0xA0 ≤ n && n ≤ 0xFFFD) || 0x10000 ≤ n

def isBreak (c : Char) : Bool :=
  c == '\n' || c == '\r' || c.toNat == 0x85 || c.toNat == 0x2028 || c.toNat == 0x2029

def isBlank (c : Char) : Bool := c == ' ' || c == '\t'

/-- Whether nothing, a blank or the end of a line comes next. -/
def endsWord : List Char → Bool
  | [] => true
  | c :: _ => isBlank c || isBreak c

/-- The byte order mark, which may stand at the beginning of a line. -/
def isOrderMark (c : Char) : Bool := c.toNat == 0xFEFF

/-- Brackets, braces and commas. -/
def isFlowMark (c : Char) : Bool := ",[]{}".toList.contains c

/-- What no plain scalar begins with; dash, question mark and colon are a matter of what follows. -/
def isIndicator (c : Char) : Bool := isFlowMark c || "#&*!|>'\"%@`".toList.contains c

/-- The ends of lines written as line feeds; a carriage return and a line feed are one end. -/
def normalizeBreaks : List Char → List Char
  | [] => []
  | '\r' :: '\n' :: rest => '\n' :: normalizeBreaks rest
  | c :: rest => (if c = '\r' ∨ c.toNat = 0x85 then '\n' else c) :: normalizeBreaks rest

/-- The characters of a text, if all of them are allowed. -/
def charactersOf? (text : String) : Option (List Char) :=
  if text.toList.all isAllowed then some (normalizeBreaks text.toList) else none

end SolarTelemetry.Yaml
