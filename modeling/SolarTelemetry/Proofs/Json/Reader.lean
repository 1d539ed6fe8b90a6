import Mathlib.Data.Rat.Defs
import Mathlib.Algebra.Field.Rat
import SolarTelemetry.Json

/-!
# Reading JSON

A text is cut into tokens, and a value is made of the tokens with a stack of the lists and objects
that are still open. This is all of the grammar: blanks between tokens, numbers with a fraction and
an exponent, and every escape, also where two of them stand for one character. Numbers are read
exactly. An object keeps its members in the order of the text.
-/

namespace SolarTelemetry.Json

/-- What a text says. -/
inductive Value where
  | null
  | bool (b : Bool)
  | number (q : ℚ)
  | text (s : String)
  | list (items : List Value)
  | object (members : List (String × Value))

inductive Token where
  | openList
  | closeList
  | openObject
  | closeObject
  | colon
  | comma
  | null
  | bool (b : Bool)
  | number (q : ℚ)
  | text (s : String)

/-! ## Strings -/

/-- A part of a string. The halves of a character come in this order. -/
inductive Piece where
  | char (c : Char)
  | high (n : Nat)
  | low (n : Nat)

def Piece.ofCode (code : Nat) : Piece :=
  if 0xD800 ≤ code ∧ code < 0xDC00 then .high (code - 0xD800)
  else if 0xDC00 ≤ code ∧ code < 0xE000 then .low (code - 0xDC00)
  else .char (Char.ofNat code)

/-- What a letter after a backslash stands for. -/
def escaped? : Char → Option Char
  | '"' => some '"'
  | '\\' => some '\\'
  | '/' => some '/'
  | 'b' => some (Char.ofNat 0x8)
  | 'f' => some (Char.ofNat 0xC)
  | 'n' => some '\n'
  | 'r' => some '\r'
  | 't' => some '\t'
  | _ => none

/-- The part that follows a backslash, and what comes after it. -/
def escape? : List Char → Option (Piece × List Char)
  | 'u' :: a :: b :: c :: d :: rest =>
    (Text.digitsValue? 16 [a, b, c, d]).map fun code => (.ofCode code, rest)
  | letter :: rest => (escaped? letter).map fun c => (.char c, rest)
  | [] => none

/-- The part that begins with a character, and what comes after it. -/
def piece? (c : Char) (cs : List Char) : Option (Piece × List Char) :=
  if c = '\\' then escape? cs else if c.toNat < 0x20 then none else some (.char c, cs)

theorem length_of_escape? {cs rest : List Char} {piece : Piece}
    (read : escape? cs = some (piece, rest)) : rest.length < cs.length := by
  unfold escape? at read
  split at read
  · obtain ⟨code, -, same⟩ := Option.map_eq_some_iff.mp read
    cases same
    simp only [List.length_cons]
    omega
  · obtain ⟨c, -, same⟩ := Option.map_eq_some_iff.mp read
    cases same
    simp only [List.length_cons]
    omega
  · cases read

theorem length_of_piece? {c : Char} {cs rest : List Char} {piece : Piece}
    (read : piece? c cs = some (piece, rest)) : rest.length ≤ cs.length := by
  unfold piece? at read
  split at read
  · exact Nat.le_of_lt (length_of_escape? read)
  · split at read
    · cases read
    · cases read
      exact Nat.le_refl _

/-- The parts of a string up to its closing quote, and what follows. -/
def pieces? : List Char → Option (List Piece × List Char)
  | [] => none
  | c :: cs =>
    if c = '"' then some ([], cs)
    else
      match _part : piece? c cs with
      | none => none
      | some (piece, rest) => (pieces? rest).map fun (pieces, left) => (piece :: pieces, left)
termination_by cs => cs.length
decreasing_by
  have := length_of_piece? _part
  simp only [List.length_cons]
  omega

/-- The characters that the parts of a string add up to. -/
def join? : List Piece → Option (List Char)
  | [] => some []
  | .char c :: pieces => (join? pieces).map (c :: ·)
  | .high h :: .low l :: pieces =>
    (join? pieces).map (Char.ofNat (0x10000 + 0x400 * h + l) :: ·)
  | _ => none

/-- The string whose opening quote has been read, and what follows it. -/
def string? (cs : List Char) : Option (String × List Char) :=
  (pieces? cs).bind fun (pieces, rest) =>
    (join? pieces).map fun chars => (String.ofList chars, rest)

/-! ## Numbers -/

def digits? (cs : List Char) : Option Nat :=
  if cs.isEmpty || !cs.all Char.isDigit then none else some (Nat.ofDigitChars 10 cs 0)

/-- A whole number of more than one digit does not begin with a zero. -/
def whole? (cs : List Char) : Option Nat :=
  if 1 < cs.length ∧ cs.head? = some '0' then none else digits? cs

/-- Nothing, or a point and digits. -/
def fraction? : List Char → Option ℚ
  | [] => some 0
  | _ :: cs => (digits? cs).map fun n => n / 10 ^ cs.length

/-- Nothing, or a letter and digits that may have a sign. -/
def exponent? : List Char → Option ℤ
  | [] => some 0
  | _ :: '-' :: cs => (digits? cs).map fun n => -n
  | _ :: '+' :: cs => (digits? cs).map fun n => n
  | _ :: cs => (digits? cs).map fun n => n

def isExponentMark (c : Char) : Bool := c == 'e' || c == 'E'

def unsigned? (cs : List Char) : Option ℚ := do
  let mantissa := cs.takeWhile (!isExponentMark ·)
  let whole ← whole? (mantissa.takeWhile (· != '.'))
  let fraction ← fraction? (mantissa.dropWhile (· != '.'))
  let exponent ← exponent? (cs.dropWhile (!isExponentMark ·))
  return (whole + fraction) * 10 ^ exponent

def number? : List Char → Option ℚ
  | '-' :: cs => (unsigned? cs).map (-·)
  | cs => unsigned? cs

/-! ## Tokens -/

def isBlank (c : Char) : Bool := c == ' ' || c == '\t' || c == '\n' || c == '\r'

def isNumberChar (c : Char) : Bool :=
  c.isDigit || c == '-' || c == '+' || c == '.' || isExponentMark c

def symbol? : Char → Option Token
  | '[' => some .openList
  | ']' => some .closeList
  | '{' => some .openObject
  | '}' => some .closeObject
  | ':' => some .colon
  | ',' => some .comma
  | _ => none

def keyword? : List Char → Option (Token × List Char)
  | 'n' :: 'u' :: 'l' :: 'l' :: rest => some (.null, rest)
  | 't' :: 'r' :: 'u' :: 'e' :: rest => some (.bool true, rest)
  | 'f' :: 'a' :: 'l' :: 's' :: 'e' :: rest => some (.bool false, rest)
  | _ => none

/-- The first token of a text that does not begin with a blank, and what follows it. -/
def token? : List Char → Option (Token × List Char)
  | [] => none
  | c :: cs =>
    if c = '"' then (string? cs).map fun (s, rest) => (.text s, rest)
    else if isNumberChar c then
      (number? (c :: cs.takeWhile isNumberChar)).map
        fun q => (.number q, cs.dropWhile isNumberChar)
    else
      match symbol? c with
      | some token => some (token, cs)
      | none => keyword? (c :: cs)

theorem length_of_pieces? {cs left : List Char} {pieces : List Piece}
    (read : pieces? cs = some (pieces, left)) : left.length < cs.length := by
  fun_induction pieces? cs generalizing pieces with
  | case1 => cases read
  | case2 cs =>
    cases read
    simp
  | case3 => cases read
  | case4 c cs _ piece rest part ih =>
    obtain ⟨⟨others, left⟩, later, same⟩ := Option.map_eq_some_iff.mp read
    cases same
    have := length_of_piece? part
    have := ih later
    simp only [List.length_cons]
    omega

theorem length_of_token? {cs rest : List Char} {token : Token}
    (read : token? cs = some (token, rest)) : rest.length < cs.length := by
  unfold token? at read
  split at read
  · cases read
  · next c cs =>
    split at read
    · obtain ⟨⟨s, left⟩, string, same⟩ := Option.map_eq_some_iff.mp read
      obtain ⟨⟨pieces, left'⟩, parts, joined⟩ := Option.bind_eq_some_iff.mp string
      obtain ⟨chars, -, whole⟩ := Option.map_eq_some_iff.mp joined
      cases same
      cases whole
      exact Nat.lt_succ_of_lt (length_of_pieces? parts)
    · split at read
      · obtain ⟨q, -, same⟩ := Option.map_eq_some_iff.mp read
        cases same
        exact Nat.lt_succ_of_le (List.dropWhile_suffix _).length_le
      · split at read
        · cases read
          exact Nat.lt_succ_self _
        · unfold keyword? at read
          split at read
          all_goals cases read
          all_goals simp only [*, List.length_cons]; omega

/-- All tokens of a text. -/
def tokens? (cs : List Char) : Option (List Token) :=
  match _front : cs.dropWhile isBlank with
  | [] => some []
  | c :: others =>
    match _first : token? (c :: others) with
    | none => none
    | some (token, rest) => (tokens? rest).map (token :: ·)
termination_by cs.length
decreasing_by
  have := length_of_token? _first
  have : (c :: others).length ≤ cs.length := _front ▸ (List.dropWhile_suffix _).length_le
  omega

/-! ## Values -/

/-- A list or an object that has been opened, with what has been read of it. -/
inductive Open where
  | list (items : List Value)
  | object (members : List (String × Value)) (name : String)

mutual

/-- The value of tokens that begin with a value, inside of what is open. -/
def expect : List Open → List Token → Option Value
  | stack, .null :: tokens => after .null stack tokens
  | stack, .bool b :: tokens => after (.bool b) stack tokens
  | stack, .number q :: tokens => after (.number q) stack tokens
  | stack, .text s :: tokens => after (.text s) stack tokens
  | stack, .openList :: tokens => expect (.list [] :: stack) tokens
  | .list [] :: stack, .closeList :: tokens => after (.list []) stack tokens
  | stack, .openObject :: .closeObject :: tokens => after (.object []) stack tokens
  | stack, .openObject :: .text name :: .colon :: tokens =>
    expect (.object [] name :: stack) tokens
  | _, _ => none

/-- The value of tokens that go on behind a value. -/
def after (v : Value) : List Open → List Token → Option Value
  | [], [] => some v
  | .list items :: stack, .comma :: tokens => expect (.list (items ++ [v]) :: stack) tokens
  | .list items :: stack, .closeList :: tokens => after (.list (items ++ [v])) stack tokens
  | .object members name :: stack, .comma :: .text next :: .colon :: tokens =>
    expect (.object (members ++ [(name, v)]) next :: stack) tokens
  | .object members name :: stack, .closeObject :: tokens =>
    after (.object (members ++ [(name, v)])) stack tokens
  | _, _ => none

end

/-- The value that a text stands for, if it is one. -/
def read? (s : String) : Option Value := (tokens? s.toList).bind (expect [])

end SolarTelemetry.Json
