import Mathlib.Tactic.SplitIfs
import SolarTelemetry.Proofs.Json.Reader

/-!
# Reading strings back

Whatever characters a string has, its quoted text holds no control character, and the string is read
back from it up to the closing quote and no further: each character is escaped to one part of a
string, which never begins with a quote.
-/

namespace SolarTelemetry.Json

/-- Nothing in a text would end a line or is a control character of another kind. -/
def Printable (cs : List Char) : Prop := ∀ c ∈ cs, 0x20 ≤ c.toNat

theorem printable_nil : Printable [] := by simp [Printable]

theorem Printable.append {cs ds : List Char} (first : Printable cs) (second : Printable ds) :
    Printable (cs ++ ds) := by
  intro c member
  rcases List.mem_append.mp member with member | member
  · exact first c member
  · exact second c member

theorem Printable.cons {c : Char} {cs : List Char} (first : 0x20 ≤ c.toNat)
    (others : Printable cs) : Printable (c :: cs) := by
  intro d member
  rcases List.mem_cons.mp member with rfl | member
  · exact first
  · exact others d member

theorem Printable.newline_notMem {cs : List Char} (printable : Printable cs) : '\n' ∉ cs := by
  intro member
  exact absurd (printable _ member) (by decide)

/-- The four digits of a control character. -/
theorem padded_of_control {n : Nat} (control : n < 0x20) :
    ∃ a b c d, Text.padded 4 (Nat.toDigits 16 n) = [a, b, c, d] ∧
      Text.digitsValue? 16 [a, b, c, d] = some n ∧ Printable [a, b, c, d] := by
  have all : ∀ n < 0x20, (Text.padded 4 (Nat.toDigits 16 n)).length = 4 ∧
      Text.digitsValue? 16 (Text.padded 4 (Nat.toDigits 16 n)) = some n ∧
      (Text.padded 4 (Nat.toDigits 16 n)).all (0x20 ≤ ·.toNat) := by decide +kernel
  obtain ⟨four, value, shown⟩ := all n control
  have printable : Printable (Text.padded 4 (Nat.toDigits 16 n)) := fun c member =>
    of_decide_eq_true (List.all_eq_true.mp shown c member)
  match digits : Text.padded 4 (Nat.toDigits 16 n) with
  | [a, b, c, d] =>
    rw [digits] at value printable
    exact ⟨a, b, c, d, rfl, value, printable⟩
  | [] | [_] | [_, _] | [_, _, _] | _ :: _ :: _ :: _ :: _ :: _ => simp [digits] at four

/-- These characters are read as a part of a string that is this character. -/
structure IsPart (c : Char) (text : List Char) : Prop where
  printable : Printable text
  read : ∃ first others, text = first :: others ∧ first ≠ '"' ∧
    ∀ rest, piece? first (others ++ rest) = some (.char c, rest)

section

variable {c : Char}

theorem isPart_letter {letter : Char} (stands : escaped? letter = some c) (short : letter ≠ 'u')
    (printable : 0x20 ≤ letter.toNat) : IsPart c ['\\', letter] := by
  refine ⟨.cons (by decide) (.cons printable printable_nil), _, _, rfl, by decide, ?_⟩
  intro rest
  simp [piece?, escape?, short, stands]

theorem isPart_code (control : c.toNat < 0x20) :
    IsPart c ('\\' :: 'u' :: Text.padded 4 (Nat.toDigits 16 c.toNat)) := by
  obtain ⟨p, q, r, s, digits, value, printable⟩ := padded_of_control control
  rw [digits]
  refine ⟨.cons (by decide) (.cons (by decide) printable), _, _, rfl, by decide, ?_⟩
  intro rest
  have whole : Piece.ofCode c.toNat = .char c := by
    rw [Piece.ofCode, if_neg (by omega), if_neg (by omega), Char.ofNat_toNat]
  simp [piece?, escape?, value, whole]

theorem isPart_self (literal : c ≠ '\\') (unquoted : c ≠ '"') (printable : ¬c.toNat < 0x20) :
    IsPart c [c] := by
  refine ⟨.cons (Nat.not_lt.mp printable) printable_nil, _, _, rfl, unquoted, ?_⟩
  intro rest
  rw [piece?, if_neg literal, if_neg printable]
  rfl

/-- Each character is escaped to one part of a string. -/
theorem isPart_escape (c : Char) : IsPart c (escape c) := by
  have named {n : Nat} (code : c.toNat = n) : c = Char.ofNat n := by
    rw [← code, Char.ofNat_toNat]
  unfold escape
  split_ifs with quote backslash newline carriage tab backspace feed control
  · exact isPart_letter (by rw [quote]; rfl) (by decide) (by decide)
  · exact isPart_letter (by rw [backslash]; rfl) (by decide) (by decide)
  · exact isPart_letter (by rw [newline]; rfl) (by decide) (by decide)
  · exact isPart_letter (by rw [carriage]; rfl) (by decide) (by decide)
  · exact isPart_letter (by rw [tab]; rfl) (by decide) (by decide)
  · exact isPart_letter (by rw [named backspace]; rfl) (by decide) (by decide)
  · exact isPart_letter (by rw [named feed]; rfl) (by decide) (by decide)
  · exact isPart_code control
  · exact isPart_self backslash quote control

end

theorem printable_quote (s : String) : Printable (quote s) := by
  have inside : Printable (s.toList.flatMap escape) := by
    intro d member
    obtain ⟨c, -, escaped⟩ := List.mem_flatMap.mp member
    exact (isPart_escape c).printable d escaped
  exact .append (.cons (by decide) inside) (.cons (by decide) printable_nil)

theorem pieces?_cons {c : Char} {cs rest : List Char} {piece : Piece} (unquoted : c ≠ '"')
    (part : piece? c cs = some (piece, rest)) :
    pieces? (c :: cs) = (pieces? rest).map fun (pieces, left) => (piece :: pieces, left) := by
  rw [pieces?, if_neg unquoted]
  split
  · next absent =>
    rw [part] at absent
    cases absent
  · next found =>
    rw [part] at found
    cases found
    rfl

theorem pieces?_flatMap_escape (cs rest : List Char) :
    pieces? (cs.flatMap escape ++ '"' :: rest) = some (cs.map .char, rest) := by
  induction cs with
  | nil =>
    rw [List.flatMap_nil, List.nil_append, pieces?]
    rfl
  | cons c cs ih =>
    obtain ⟨first, others, escaped, unquoted, read⟩ := (isPart_escape c).read
    rw [List.flatMap_cons, escaped, List.append_assoc, List.cons_append,
      pieces?_cons unquoted (read _), ih]
    rfl

theorem join?_chars (cs : List Char) : join? (cs.map .char) = some cs := by
  induction cs with
  | nil => rfl
  | cons c cs ih => rw [List.map_cons, join?, ih, Option.map_some]

theorem string?_flatMap_escape (s : String) (rest : List Char) :
    string? (s.toList.flatMap escape ++ '"' :: rest) = some (s, rest) := by
  simp only [string?, pieces?_flatMap_escape, Option.bind_some, join?_chars, Option.map_some,
    String.ofList_toList]

end SolarTelemetry.Json
