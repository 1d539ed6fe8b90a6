import SolarTelemetry.Decimal

/-!
# JSON values

Values are written without blanks. An object keeps its fields in the order of their names, so
one value has one text.
-/

namespace SolarTelemetry

inductive Json where
  | null
  | bool (b : Bool)
  | integer (n : Int)
  | decimal (d : Decimal)
  | text (s : String)
  | list (items : List Json)
  | object (fields : List (String × Json))
  deriving Repr, Inhabited

namespace Json

def ofOption {α : Type} (f : α → Json) : Option α → Json
  | some a => f a
  | none => .null

def nat (n : Nat) : Json := .integer n

/-- An object with its fields in the order of their names. -/
def record (fields : List (String × Json)) : Json :=
  .object (fields.mergeSort (fun a b => decide (a.1 ≤ b.1)))

/-- A quote, a backslash and the control characters are escaped, the common ones by a letter. -/
def escape (c : Char) : List Char :=
  if c = '"' then ['\\', '"']
  else if c = '\\' then ['\\', '\\']
  else if c = '\n' then ['\\', 'n']
  else if c = '\r' then ['\\', 'r']
  else if c = '\t' then ['\\', 't']
  else if c.toNat = 0x8 then ['\\', 'b']
  else if c.toNat = 0xC then ['\\', 'f']
  else if c.toNat < 0x20 then ['\\', 'u'] ++ Text.padded 4 (Nat.toDigits 16 c.toNat)
  else [c]

def quote (s : String) : List Char := '"' :: s.toList.flatMap escape ++ ['"']

def integerText (n : Int) : List Char :=
  (if n < 0 then ['-'] else []) ++ Nat.toDigits 10 n.natAbs

mutual

def render : Json → List Char
  | .null => "null".toList
  | .bool b => (if b then "true" else "false").toList
  | .integer n => integerText n
  | .decimal d => d.text
  | .text s => quote s
  | .list items => '[' :: renderItems items ++ [']']
  | .object fields => '{' :: renderFields fields ++ ['}']

def renderItems : List Json → List Char
  | [] => []
  | [item] => render item
  | item :: items => render item ++ ',' :: renderItems items

def renderFields : List (String × Json) → List Char
  | [] => []
  | [(name, value)] => quote name ++ ':' :: render value
  | (name, value) :: fields => quote name ++ ':' :: render value ++ ',' :: renderFields fields

end

def toText (j : Json) : String := String.ofList j.render

end Json

end SolarTelemetry
