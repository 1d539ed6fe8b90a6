import SolarTelemetry.Yaml.Character
import SolarTelemetry.Yaml.Token

/-!
# From characters to tokens

The lexer takes one character at a time and looks ahead no further than it must. Between tokens it
keeps the columns of the open block collections and, for each level of flow style, the place where a
key may have begun: only the colon tells that it did, and then the key is marked after the fact. A
key stands on one line and is at most 1024 octets long.
-/

namespace SolarTelemetry.Yaml

/-- What separates two words of a scalar. -/
inductive Gap where
  | blanks (cs : List Char)
  /-- The end of a line, and those of the empty lines after it. -/
  | fold (first : Char) (others : List Char)
  /-- The end of a line that was escaped, and those of the empty lines after it. -/
  | continued (others : List Char)
  deriving DecidableEq, Repr

namespace Gap

/-- One line end becomes a space, several lose the first. -/
def text : Gap → List Char
  | .blanks cs => cs
  | .fold first others =>
    if first = '\n' then (if others.isEmpty then [' '] else others) else first :: others
  | .continued others => others

def hasBreak : Gap → Bool
  | .blanks _ => false
  | _ => true

/-- The gap with one more blank or line end. -/
def push (gap : Gap) (c : Char) : Gap :=
  match gap with
  | .blanks cs => if isBreak c then .fold c [] else .blanks (cs ++ [c])
  | .fold first others => if isBreak c then .fold first (others ++ [c]) else gap
  | .continued others => if isBreak c then .continued (others ++ [c]) else gap

end Gap

/-- A place where a key may have begun. -/
structure Lexer.Candidate where
  /-- How many tokens stood before it. -/
  tokens : Nat
  line : Nat
  column : Nat
  /-- How many octets stood before it. -/
  offset : Nat
  /-- Nothing but a key can stand there. -/
  required : Bool
  deriving DecidableEq, Repr

/-- The text of an open scalar is kept with its last character first. -/
inductive Lexer.Mode where
  | between
  | comment
  | plain (text : List Char) (gap : Gap)
  | quoted (double : Bool) (text : List Char) (gap : Gap)
  /-- After the first of two quotes that stand for one. -/
  | doubled (text : List Char)
  | escaped (text : List Char)
  /-- After an escape that has so many hexadecimal digits to come. -/
  | code (text : List Char) (digits value : Nat)
  | skip (count : Nat)
  deriving DecidableEq, Repr

structure Lexer where
  mode : Lexer.Mode := .between
  /-- The last token first. -/
  tokens : List Token := []
  count : Nat := 0
  line : Nat := 0
  column : Nat := 0
  /-- The octets taken so far. -/
  offset : Nat := 0
  /-- The columns of the open block collections, the innermost first. -/
  indents : List Nat := []
  /-- Whether a key may begin here. -/
  keyAllowed : Bool := true
  /-- The candidates of the open levels of flow style, the innermost first, and of the block. -/
  candidates : List (Option Lexer.Candidate) := [none]

namespace Lexer

/-- The greatest length of a key, in octets. -/
def maxKey : Nat := 1024

def inFlow (s : Lexer) : Bool := s.candidates.length > 1

def emit (t : Token) (s : Lexer) : Lexer :=
  { s with tokens := t :: s.tokens, count := s.count + 1 }

/-- Puts tokens, the last first, where a candidate begins. -/
def emitAt (place : Nat) (ts : List Token) (s : Lexer) : Lexer :=
  let later := s.count - place
  { s with
    tokens := s.tokens.take later ++ ts ++ s.tokens.drop later
    count := s.count + ts.length }

/-- Whether a column is too far left for what belongs to the innermost block collection. -/
def isOutdented (s : Lexer) : Bool := s.indents.head?.any (s.column ≤ ·)

def isStale (s : Lexer) (k : Candidate) : Bool := k.line < s.line || k.offset + maxKey < s.offset

/-- Gives up the candidates that can no longer be keys. -/
def dropStale (s : Lexer) : Option Lexer := do
  let candidates ← s.candidates.mapM fun
    | some k => if s.isStale k then (if k.required then none else some none) else some (some k)
    | none => some none
  return { s with candidates }

/-- Gives up the innermost candidate. -/
def dropCandidate (s : Lexer) : Option Lexer :=
  match s.candidates with
  | some k :: outer => if k.required then none else some { s with candidates := none :: outer }
  | _ => some s

/-- Notes that a key may begin here. -/
def saveCandidate (s : Lexer) : Option Lexer :=
  if s.keyAllowed then do
    let s ← s.dropCandidate
    let required := !s.inFlow && s.indents.head? == some s.column
    let here : Candidate := ⟨s.count, s.line, s.column, s.offset, required⟩
    return { s with candidates := some here :: s.candidates.tail }
  else some s

/-- Whether a block collection at a column would be a new one. -/
def opensBlock (s : Lexer) (column : Nat) : Bool :=
  !s.inFlow && s.indents.head?.all (· < column)

def openBlock (t : Token) (s : Lexer) : Lexer :=
  if s.opensBlock s.column then emit t { s with indents := s.column :: s.indents } else s

/-- Closes the block collections that begin right of a column. -/
def closeBlocks (s : Lexer) (column : Nat) : Lexer :=
  if s.inFlow then s
  else
    let closed := s.indents.takeWhile (column < ·)
    { s with
      indents := s.indents.drop closed.length
      tokens := closed.map (fun _ => .blockEnd) ++ s.tokens
      count := s.count + closed.length }

def closeAllBlocks (s : Lexer) : Lexer :=
  { s with
    indents := []
    tokens := s.indents.map (fun _ => .blockEnd) ++ s.tokens
    count := s.count + s.indents.length }

/-- Three dashes or dots on their own begin or end a document. -/
def marker? (s : Lexer) (cs : List Char) : Option Token :=
  if s.column = 0 then
    match cs with
    | '-' :: '-' :: '-' :: rest => if endsWord rest then some .documentStart else none
    | '.' :: '.' :: '.' :: rest => if endsWord rest then some .documentEnd else none
    | _ => none
  else none

def mark (t : Token) (s : Lexer) : Option Lexer := do
  let s ← s.closeAllBlocks.dropCandidate
  return { emit t s with keyAllowed := false, mode := .skip 2 }

def openFlow (t : Token) (s : Lexer) : Option Lexer := do
  let s ← s.saveCandidate
  return { emit t s with candidates := none :: s.candidates, keyAllowed := true }

def closeFlow (t : Token) (s : Lexer) : Option Lexer := do
  let s ← s.dropCandidate
  let candidates := if s.inFlow then s.candidates.tail else s.candidates
  return { emit t s with candidates, keyAllowed := false }

def flowEntry (s : Lexer) : Option Lexer := do
  let s ← s.dropCandidate
  return { emit .flowEntry s with keyAllowed := true }

def blockEntry (s : Lexer) : Option Lexer := do
  if !s.inFlow && !s.keyAllowed then none
  let s ← (s.openBlock .blockSequenceStart).dropCandidate
  return { emit .blockEntry s with keyAllowed := true }

def explicitKey (s : Lexer) : Option Lexer := do
  if !s.inFlow && !s.keyAllowed then none
  let s ← (s.openBlock .blockMappingStart).dropCandidate
  return { emit .key s with keyAllowed := !s.inFlow }

/-- A colon makes a key of the innermost candidate, if there is one. -/
def value (s : Lexer) : Option Lexer :=
  match s.candidates with
  | some k :: outer =>
    let s := { s with candidates := none :: outer, keyAllowed := false }
    let s :=
      if s.opensBlock k.column then
        emitAt k.tokens [.key, .blockMappingStart] { s with indents := k.column :: s.indents }
      else emitAt k.tokens [.key] s
    some (s.emit .value)
  | _ =>
    if s.inFlow then some { emit .value s with keyAllowed := false }
    else if s.keyAllowed then
      some { emit .value (s.openBlock .blockMappingStart) with keyAllowed := true }
    else none

def openScalar (mode : Mode) (s : Lexer) : Option Lexer := do
  let s ← s.saveCandidate
  return { s with keyAllowed := false, mode }

/-- Begins the token that a character announces. -/
def token (s : Lexer) (c : Char) (rest : List Char) : Option Lexer :=
  match s.marker? (c :: rest) with
  | some t => s.mark t
  | none =>
    if c = '[' then s.openFlow .flowSequenceStart
    else if c = '{' then s.openFlow .flowMappingStart
    else if c = ']' then s.closeFlow .flowSequenceEnd
    else if c = '}' then s.closeFlow .flowMappingEnd
    else if c = ',' then s.flowEntry
    else if c = '-' ∧ endsWord rest then s.blockEntry
    else if c = '?' ∧ (s.inFlow ∨ endsWord rest) then s.explicitKey
    else if c = ':' ∧ (s.inFlow ∨ endsWord rest) then s.value
    else if c = '\'' then s.openScalar (.quoted false [] (.blanks []))
    else if c = '"' then s.openScalar (.quoted true [] (.blanks []))
    else if isBlank c ∨ isIndicator c then none
    else s.openScalar (.plain [c] (.blanks []))

/-- Takes a character outside every scalar. A byte order mark that begins a line takes up a column
and means nothing. -/
def between (s : Lexer) (c : Char) (rest : List Char) : Option Lexer :=
  if s.column = 0 ∧ isOrderMark c then some s
  else if c = ' ' ∨ (c = '\t' ∧ (s.inFlow ∨ !s.keyAllowed)) then some s
  else if c = '#' then some { s with mode := .comment }
  else if isBreak c then some { s with keyAllowed := s.keyAllowed || !s.inFlow }
  else do
    let s ← s.dropStale
    (s.closeBlocks s.column).token c rest

def closeScalar (s : Lexer) (text : List Char) (plain : Bool) : Lexer :=
  { emit (.scalar (String.ofList text.reverse) plain) s with mode := .between }

/-- The end of a plain scalar. A key may follow it on another line. -/
def closePlain (s : Lexer) (text : List Char) (gap : Gap) : Lexer :=
  { s.closeScalar text true with keyAllowed := gap.hasBreak }

/-- Whether a plain scalar is over before a character. -/
def endsPlain (s : Lexer) (gap : Gap) (c : Char) (rest : List Char) : Bool :=
  let afterGap := gap != .blanks [] &&
    ((!s.inFlow && s.isOutdented) || (s.marker? (c :: rest)).isSome || c == '#')
  afterGap || (c == ':' && endsWord rest) || (s.inFlow && isFlowMark c)

def isFlowAmbiguous (c : Char) (rest : List Char) : Bool :=
  c == ':' && rest.head?.any fun d => isFlowMark d || d == '?'

def inPlain (s : Lexer) (text : List Char) (gap : Gap) (c : Char) (rest : List Char) :
    Option Lexer :=
  if isBlank c || isBreak c then
    if c = '\t' ∧ gap.hasBreak ∧ s.isOutdented then none
    else some { s with mode := .plain text (gap.push c) }
  else if s.endsPlain gap c rest then (s.closePlain text gap).between c rest
  else if s.inFlow ∧ isFlowAmbiguous c rest then none
  else some { s with mode := .plain (c :: (gap.text.reverse ++ text)) (.blanks []) }

def inQuoted (s : Lexer) (double : Bool) (text : List Char) (gap : Gap) (c : Char)
    (rest : List Char) : Option Lexer :=
  if isBlank c || isBreak c then some { s with mode := .quoted double text (gap.push c) }
  else if (s.marker? (c :: rest)).isSome then none
  else
    let text := gap.text.reverse ++ text
    if c = '\'' ∧ !double then
      if rest.head? = some '\'' then some { s with mode := .doubled text }
      else some (s.closeScalar text false)
    else if c = '"' ∧ double then some (s.closeScalar text false)
    else if c = '\\' ∧ double then some { s with mode := .escaped text }
    else some { s with mode := .quoted double (c :: text) (.blanks []) }

/-- The characters that an escape of one letter stands for. -/
def escapes : List (Char × Nat) :=
  [('0', 0x0), ('a', 0x7), ('b', 0x8), ('t', 0x9), ('\t', 0x9), ('n', 0xA), ('v', 0xB), ('f', 0xC),
    ('r', 0xD), ('e', 0x1B), (' ', 0x20), ('"', 0x22), ('/', 0x2F), ('\\', 0x5C), ('N', 0x85),
    ('_', 0xA0), ('L', 0x2028), ('P', 0x2029)]

/-- The number of digits that an escape by number has. -/
def codeDigits : List (Char × Nat) := [('x', 2), ('u', 4), ('U', 8)]

def inEscape (s : Lexer) (text : List Char) (c : Char) : Option Lexer :=
  if isBreak c then some { s with mode := .quoted true text (.continued []) }
  else
    match escapes.lookup c, codeDigits.lookup c with
    | some n, _ => some { s with mode := .quoted true (Char.ofNat n :: text) (.blanks []) }
    | none, some digits => some { s with mode := .code text digits 0 }
    | none, none => none

def hexDigit? (c : Char) : Option Nat :=
  if '0' ≤ c ∧ c ≤ '9' then some (c.toNat - 0x30)
  else if 'a' ≤ c ∧ c ≤ 'f' then some (c.toNat - 0x57)
  else if 'A' ≤ c ∧ c ≤ 'F' then some (c.toNat - 0x37)
  else none

def inCode (s : Lexer) (text : List Char) (digits value : Nat) (c : Char) : Option Lexer := do
  let digit ← hexDigit? c
  let value := 16 * value + digit
  if digits > 1 then return { s with mode := .code text (digits - 1) value }
  else if value.isValidChar then
    return { s with mode := .quoted true (Char.ofNat value :: text) (.blanks []) }
  else none

/-- Takes one character, before it is counted. -/
def take (s : Lexer) (c : Char) (rest : List Char) : Option Lexer :=
  match s.mode with
  | .between => s.between c rest
  | .comment => if isBreak c then { s with mode := .between }.between c rest else some s
  | .plain text gap => s.inPlain text gap c rest
  | .quoted double text gap => s.inQuoted double text gap c rest
  | .doubled text => some { s with mode := .quoted false (c :: text) (.blanks []) }
  | .escaped text => s.inEscape text c
  | .code text digits value => s.inCode text digits value c
  | .skip count => some { s with mode := if count > 1 then .skip (count - 1) else .between }

def move (s : Lexer) (c : Char) : Lexer :=
  let s := { s with offset := s.offset + c.utf8Size }
  if isBreak c then { s with line := s.line + 1, column := 0 }
  else { s with column := s.column + 1 }

def takeAll (s : Lexer) : List Char → Option Lexer
  | [] => some s
  | c :: rest => do
    let s ← s.take c rest
    (s.move c).takeAll rest

/-- The tokens of the whole document; a quoted scalar must have been closed. -/
def finish? (s : Lexer) : Option (List Token) := do
  let s ← match s.mode with
    | .plain text gap => some (s.closePlain text gap)
    | .between | .comment => some s
    | .skip _ | .quoted .. | .doubled _ | .escaped _ | .code .. => none
  let s ← (← s.dropStale).closeAllBlocks.dropCandidate
  return s.tokens.reverse

end Lexer

def Token.ofText? (text : String) : Option (List Token) := do
  let cs ← charactersOf? text
  let s ← Lexer.takeAll {} cs
  s.finish?

end SolarTelemetry.Yaml
