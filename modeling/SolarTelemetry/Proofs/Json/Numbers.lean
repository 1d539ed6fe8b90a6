import Mathlib.Algebra.Order.Field.Rat
import Mathlib.Data.List.TakeWhile
import Mathlib.Data.Nat.Cast.Field
import Mathlib.Tactic.FieldSimp
import Mathlib.Tactic.Ring
import SolarTelemetry.Proofs.Json.Reader

/-!
# Reading numbers back

A whole number is read back from its digits. A decimal is read back from its text exactly, although
zeros at its end have been left out: they add nothing to the digits after the point.
-/

namespace SolarTelemetry.Json

/-! ## Digits -/

section

variable {ds ws : List Char} {n w : Nat}

theorem digits?_eq_some (digits : ∀ c ∈ ds, c.isDigit) (filled : ds ≠ []) :
    digits? ds = some (Nat.ofDigitChars 10 ds 0) := by
  have all : ds.all Char.isDigit := List.all_eq_true.mpr digits
  have nonempty : ds.isEmpty = false := by simpa using filled
  rw [digits?, nonempty, all]
  rfl

theorem isDigit_of_digits? (read : digits? ds = some n) {c : Char} (member : c ∈ ds) :
    c.isDigit := by
  unfold digits? at read
  split at read
  · cases read
  · next fair =>
    have all : ds.all Char.isDigit := by
      simp only [Bool.or_eq_true, Bool.not_eq_true', not_or, Bool.not_eq_false] at fair
      exact fair.2
    exact List.all_eq_true.mp all c member

theorem isDigit_of_whole? (read : whole? ws = some w) {c : Char} (member : c ∈ ws) :
    c.isDigit := by
  unfold whole? at read
  split at read
  · cases read
  · exact isDigit_of_digits? read member

theorem ne_point_of_isDigit {c : Char} (digit : c.isDigit) : (c != '.') = true := by
  rw [bne_iff_ne]
  rintro rfl
  exact absurd digit (by decide)

theorem not_isExponentMark_of_isDigit {c : Char} (digit : c.isDigit) :
    (!isExponentMark c) = true := by
  simp only [isExponentMark, Bool.not_or, Bool.and_eq_true, Bool.not_eq_true', beq_eq_false_iff_ne]
  refine ⟨?_, ?_⟩ <;> rintro rfl <;> exact absurd digit (by decide)

/-- Digits after a point, as a number. -/
def fractionOf (ds : List Char) : ℚ := (Nat.ofDigitChars 10 ds 0 : ℚ) / 10 ^ ds.length

/-- The whole digits come to their end at the point, or at the end of all. -/
theorem span_point {tail : List Char} (digits : ∀ c ∈ ws, c.isDigit)
    (pointed : tail = [] ∨ ∃ ds, tail = '.' :: ds ∧ ∀ c ∈ ds, c.isDigit) :
    (ws ++ tail).takeWhile (· != '.') = ws ∧ (ws ++ tail).dropWhile (· != '.') = tail := by
  have unpointed : ∀ c ∈ ws, (c != '.') = true := fun c member =>
    ne_point_of_isDigit (digits c member)
  rw [List.takeWhile_append_of_pos unpointed, List.dropWhile_append_of_pos unpointed]
  obtain rfl | ⟨ds, rfl, -⟩ := pointed <;> simp

theorem not_isExponentMark_of_mem {tail : List Char} (digits : ∀ c ∈ ws, c.isDigit)
    (pointed : tail = [] ∨ ∃ ds, tail = '.' :: ds ∧ ∀ c ∈ ds, c.isDigit) {c : Char}
    (member : c ∈ ws ++ tail) : (!isExponentMark c) = true := by
  rcases List.mem_append.mp member with member | member
  · exact not_isExponentMark_of_isDigit (digits c member)
  · obtain rfl | ⟨ds, rfl, fair⟩ := pointed
    · cases member
    · rcases List.mem_cons.mp member with rfl | member
      · rfl
      · exact not_isExponentMark_of_isDigit (fair c member)

/-- A number without an exponent is its digits before the point and those after it. -/
theorem unsigned?_append {tail : List Char} (whole : whole? ws = some w)
    (pointed : tail = [] ∨ ∃ ds, tail = '.' :: ds ∧ ∀ c ∈ ds, c.isDigit) :
    unsigned? (ws ++ tail) = (fraction? tail).map fun q => (w : ℚ) + q := by
  have digits : ∀ c ∈ ws, c.isDigit := fun c => isDigit_of_whole? whole
  have unmarked : ∀ c ∈ ws ++ tail, (!isExponentMark c) = true :=
    fun c => not_isExponentMark_of_mem digits pointed
  obtain ⟨before, behind⟩ := span_point digits pointed
  simp only [unsigned?, List.takeWhile_eq_self_iff.mpr unmarked,
    List.dropWhile_eq_nil_iff.mpr unmarked, before, behind, whole, exponent?]
  cases fraction? tail <;> simp

theorem fraction?_point (digits : ∀ c ∈ ds, c.isDigit) (filled : ds ≠ []) :
    fraction? ('.' :: ds) = some (fractionOf ds) := by
  rw [fraction?, digits?_eq_some digits filled]
  rfl

end

/-! ## Whole numbers -/

theorem head?_toDigits {n : Nat} (positive : 0 < n) : (Nat.toDigits 10 n).head? ≠ some '0' := by
  have single : ∀ n < 10, 0 < n → [n.digitChar].head? ≠ some '0' := by decide
  rw [Nat.toDigits_eq_if (by decide)]
  split
  · next small => exact single n small positive
  · next large =>
    rw [List.head?_append_of_ne_nil _ Nat.toDigits_ne_nil]
    exact head?_toDigits (Nat.div_pos (Nat.not_lt.mp large) (by decide))

theorem isDigit_toDigits {n : Nat} {c : Char} (member : c ∈ Nat.toDigits 10 n) : c.isDigit :=
  Nat.isDigit_of_mem_toDigits (by decide) (by decide) member

theorem whole?_toDigits (n : Nat) : whole? (Nat.toDigits 10 n) = some n := by
  have fair : ¬(1 < (Nat.toDigits 10 n).length ∧ (Nat.toDigits 10 n).head? = some '0') := by
    rintro ⟨long, zero⟩
    rcases Nat.eq_zero_or_pos n with rfl | positive
    · exact absurd long (by decide)
    · exact head?_toDigits positive zero
  rw [whole?, if_neg fair, digits?_eq_some (fun _ => isDigit_toDigits) Nat.toDigits_ne_nil,
    Nat.ofDigitChars_ten_toDigits]

/-- A minus sign in front of a number that has none. -/
theorem number?_signed (negative : Bool) {cs : List Char} {q : ℚ} (first : cs.head? ≠ some '-')
    (read : unsigned? cs = some q) :
    number? ((if negative then ['-'] else []) ++ cs) = some (if negative then -q else q) := by
  cases negative with
  | true => exact congrArg (Option.map (-·)) read
  | false =>
    change number? cs = some q
    unfold number?
    split
    · exact absurd rfl first
    · exact read

theorem head?_ne_minus {ws : List Char} {w : Nat} (whole : whole? ws = some w)
    (tail : List Char) : (ws ++ tail).head? ≠ some '-' := by
  cases ws with
  | nil => simp [whole?, digits?] at whole
  | cons c ws =>
    have digit := isDigit_of_whole? whole List.mem_cons_self
    intro minus
    cases minus
    exact absurd digit (by decide)

theorem cast_eq_signed (n : Int) :
    (n : ℚ) = if n < 0 then -(n.natAbs : ℚ) else (n.natAbs : ℚ) := by
  split
  · next negative =>
    rw [Nat.cast_natAbs, abs_of_neg negative, Int.cast_neg, neg_neg]
  · next positive => rw [Nat.cast_natAbs, abs_of_nonneg (not_lt.mp positive)]

theorem number?_integerText (n : Int) : number? (integerText n) = some (n : ℚ) := by
  have whole := whole?_toDigits n.natAbs
  have unsigned : unsigned? (Nat.toDigits 10 n.natAbs) = some (n.natAbs : ℚ) := by
    have read := unsigned?_append whole (.inl rfl)
    rwa [List.append_nil, fraction?, Option.map_some, add_zero] at read
  have first := head?_ne_minus whole []
  rw [List.append_nil] at first
  have read := number?_signed (decide (n < 0)) first unsigned
  simp only [decide_eq_true_eq] at read
  rw [integerText, read, ← cast_eq_signed]

/-! ## Decimals -/

theorem fractionOf_append_zeros (ds : List Char) (k : Nat) :
    fractionOf (ds ++ List.replicate k '0') = fractionOf ds := by
  rw [fractionOf, fractionOf, Nat.ofDigitChars_append, Nat.ofDigitChars_replicate_zero,
    List.length_append, List.length_replicate]
  push_cast
  field_simp
  ring

theorem exists_zeros (ds : List Char) :
    ∃ k, ds = Decimal.trimZeros ds ++ List.replicate k '0' := by
  have split := List.takeWhile_append_dropWhile (p := (· == '0')) (l := ds.reverse)
  have zeros : ∀ c ∈ ds.reverse.takeWhile (· == '0'), c = '0' := by
    intro c member
    simpa using List.mem_takeWhile_imp member
  refine ⟨(ds.reverse.takeWhile (· == '0')).length, ?_⟩
  rw [Decimal.trimZeros, ← List.reverse_replicate, ← List.eq_replicate_of_mem zeros,
    ← List.reverse_append, split, List.reverse_reverse]

/-- Digits of a fixed number, zeros in front of them included, are a fraction of that power. -/
theorem fractionOf_padded {places n : Nat} (small : n < 10 ^ places) :
    fractionOf (Text.padded places (Nat.toDigits 10 n)) = (n : ℚ) / 10 ^ places := by
  rcases Nat.eq_zero_or_pos places with rfl | some_places
  · obtain rfl : n = 0 := by simpa using small
    have nothing : fractionOf [] = 0 := by simp [fractionOf]
    rw [Nat.cast_zero, zero_div, ← nothing]
    exact fractionOf_append_zeros [] 1
  · have fits : (Nat.toDigits 10 n).length ≤ places :=
      (Nat.length_toDigits_le_iff (by decide) some_places).mpr small
    have size : (Text.padded places (Nat.toDigits 10 n)).length = places := by
      rw [Text.padded, List.length_append, List.length_replicate, Nat.sub_add_cancel fits]
    rw [fractionOf, size, Text.padded, Nat.ofDigitChars_append, Nat.ofDigitChars_replicate_zero,
      Nat.mul_zero, Nat.ofDigitChars_ten_toDigits]

/-- The digits that follow the point of a decimal. -/
def fractionDigits (d : Decimal) : List Char :=
  let fraction := Decimal.trimZeros
    (Text.padded d.places (Nat.toDigits 10 (d.units.natAbs % 10 ^ d.places)))
  if fraction.isEmpty then ['0'] else fraction

theorem isDigit_of_mem_padded {width n : Nat} {c : Char}
    (member : c ∈ Text.padded width (Nat.toDigits 10 n)) : c.isDigit := by
  rcases List.mem_append.mp member with zero | digit
  · rw [List.eq_of_mem_replicate zero]
    decide
  · exact isDigit_toDigits digit

theorem fractionDigits_ne_nil (d : Decimal) : fractionDigits d ≠ [] := by
  rw [fractionDigits]
  split
  · decide
  · next filled => simpa using filled

theorem isDigit_of_mem_fractionDigits {d : Decimal} {c : Char} (member : c ∈ fractionDigits d) :
    c.isDigit := by
  rw [fractionDigits] at member
  split at member
  · rw [List.mem_singleton.mp member]
    decide
  · obtain ⟨k, split⟩ := exists_zeros
      (Text.padded d.places (Nat.toDigits 10 (d.units.natAbs % 10 ^ d.places)))
    apply isDigit_of_mem_padded
    rw [split]
    exact List.mem_append_left _ member

/-- Zeros left out at the end, and one put in their place, make no difference. -/
theorem fractionOf_fractionDigits (d : Decimal) :
    fractionOf (fractionDigits d) =
      ((d.units.natAbs % 10 ^ d.places : Nat) : ℚ) / 10 ^ d.places := by
  have small : d.units.natAbs % 10 ^ d.places < 10 ^ d.places :=
    Nat.mod_lt _ (Nat.pow_pos (by decide))
  obtain ⟨k, zeros⟩ := exists_zeros
    (Text.padded d.places (Nat.toDigits 10 (d.units.natAbs % 10 ^ d.places)))
  have trimmed := fractionOf_append_zeros (Decimal.trimZeros
    (Text.padded d.places (Nat.toDigits 10 (d.units.natAbs % 10 ^ d.places)))) k
  rw [← zeros, fractionOf_padded small] at trimmed
  rw [trimmed, fractionDigits]
  split
  · next empty =>
    rw [List.isEmpty_iff.mp empty]
    exact fractionOf_append_zeros [] 1
  · rfl

theorem number?_text (d : Decimal) : number? d.text = some ((d.units : ℚ) / 10 ^ d.places) := by
  have whole := whole?_toDigits (d.units.natAbs / 10 ^ d.places)
  have digits : ∀ c ∈ fractionDigits d, c.isDigit := fun c => isDigit_of_mem_fractionDigits
  have unsigned := unsigned?_append whole (.inr ⟨fractionDigits d, rfl, digits⟩)
  rw [fraction?_point digits (fractionDigits_ne_nil d), Option.map_some,
    fractionOf_fractionDigits] at unsigned
  have size : ((d.units.natAbs / 10 ^ d.places : Nat) : ℚ) +
      ((d.units.natAbs % 10 ^ d.places : Nat) : ℚ) / 10 ^ d.places =
      (d.units.natAbs : ℚ) / 10 ^ d.places := by
    have split := congrArg (Nat.cast (R := ℚ)) (Nat.div_add_mod d.units.natAbs (10 ^ d.places))
    push_cast at split
    field_simp
    rw [← split, mul_comm]
  rw [size] at unsigned
  have read := number?_signed (decide (d.units < 0)) (head?_ne_minus whole _) unsigned
  simp only [decide_eq_true_eq] at read
  rw [Decimal.text, List.append_assoc]
  refine read.trans ?_
  rw [cast_eq_signed]
  split <;> ring_nf

end SolarTelemetry.Json
