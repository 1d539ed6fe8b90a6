import Mathlib.Data.List.DropRight
import Mathlib.Data.List.TakeDrop
import SolarTelemetry.Config.Basic
import SolarTelemetry.Text.Number

/-!
# What an address names

Without the blanks at its ends, an address is the path of a device, which begins with a slash, or a
host, a colon and a port. A port is a number from 1 to 65535 in decimal digits, so no colon stands
in it and the last colon is the one in front of it. Of any other text it can be said what is wrong
with it first.
-/

namespace SolarTelemetry

/-- A check is exact if all that it tells is true and nothing else could be told. -/
theorem check_exact {Fault : Type} {Good : Prop} {Bad : Fault → Prop} {found : Option Fault}
    (sound : found.elim Good Bad) (apart : ∀ {f}, Bad f → ¬Good)
    (unique : ∀ {f g}, Bad f → Bad g → f = g) :
    (found = none ↔ Good) ∧ ∀ f, found = some f ↔ Bad f := by
  cases found with
  | none =>
    have good : Good := sound
    exact ⟨iff_of_true rfl good, fun f => iff_of_false nofun fun bad => apart bad good⟩
  | some g =>
    have bad : Bad g := sound
    refine ⟨iff_of_false nofun (apart bad), fun f => ⟨?_, fun same => ?_⟩⟩
    · rintro ⟨⟩
      exact bad
    · rw [unique bad same]

namespace Text

/-! ## Blanks -/

theorem exists_around_trim (cs : List Char) :
    ∃ front back, cs = front ++ trim cs ++ back ∧
      (∀ c ∈ front, isBlank c) ∧ ∀ c ∈ back, isBlank c := by
  let rest := cs.dropWhile isBlank
  have trimmed : trim cs = rest.rdropWhile isBlank := rfl
  refine ⟨cs.takeWhile isBlank, rest.rtakeWhile isBlank, ?_,
    fun _ => List.mem_takeWhile_imp, fun _ => List.mem_rtakeWhile_imp⟩
  rw [trimmed, List.append_assoc, List.rdropWhile_append_rtakeWhile,
    List.takeWhile_append_dropWhile]

theorem trim_eq_self_iff {cs : List Char} :
    trim cs = cs ↔ (∀ c ∈ cs.head?, ¬isBlank c) ∧ ∀ c ∈ cs.getLast?, ¬isBlank c := by
  have trimmed : trim cs = (cs.dropWhile isBlank).rdropWhile isBlank := rfl
  have front : cs.dropWhile isBlank = cs ↔ ∀ c ∈ cs.head?, ¬isBlank c := by
    cases cs <;> simp [List.dropWhile_eq_self_iff]
  have back : cs.rdropWhile isBlank = cs ↔ ∀ c ∈ cs.getLast?, ¬isBlank c := by
    cases cs using List.reverseRecOn <;> simp [List.rdropWhile_eq_self_iff]
  rw [trimmed, ← front, ← back]
  constructor
  · intro same
    have whole : cs.dropWhile isBlank = cs := by
      apply (List.dropWhile_suffix isBlank).eq_of_length_le
      calc cs.length = ((cs.dropWhile isBlank).rdropWhile isBlank).length := by rw [same]
        _ ≤ (cs.dropWhile isBlank).length := (List.rdropWhile_prefix ..).length_le
    rw [whole] at same
    exact ⟨whole, same⟩
  · rintro ⟨first, last⟩
    rw [first, last]

/-! ## Digits -/

theorem isDigit_iff (c : Char) : c.isDigit ↔ '0' ≤ c ∧ c ≤ '9' := by
  simp [Char.isDigit, Char.le_def]

theorem digitValue?_eq_some_iff {c : Char} {digit : Nat} :
    digitValue? 10 c = some digit ↔ c.isDigit ∧ c.toNat - '0'.toNat = digit := by
  unfold digitValue?
  rw [isDigit_iff, Option.filter_eq_some_iff]
  split
  case isTrue decimal =>
    have most : c.toNat ≤ '9'.toNat := decimal.2
    have small : c.toNat - '0'.toNat < 10 := by
      have : '9'.toNat = '0'.toNat + 9 := rfl
      omega
    simp only [Option.some_inj, decide_eq_true_eq, decimal, and_self, true_and]
    constructor
    · exact And.left
    · rintro rfl
      exact ⟨rfl, small⟩
  case isFalse other =>
    -- A letter stands for ten or more.
    simp only [other, false_and, iff_false, not_and, decide_eq_true_eq]
    intro value
    split at value
    · cases value
      omega
    · split at value
      · cases value
        omega
      · cases value

theorem digitsValue?_go_eq_some_iff {cs : List Char} {value n : Nat} :
    digitsValue?.go 10 value cs = some n ↔
      (∀ c ∈ cs, c.isDigit) ∧ Nat.ofDigitChars 10 cs value = n := by
  induction cs generalizing value with
  | nil => simp [digitsValue?.go]
  | cons c cs ih =>
    simp only [digitsValue?.go, Option.bind_eq_some_iff, digitValue?_eq_some_iff, ih,
      List.forall_mem_cons, Nat.ofDigitChars_cons, Nat.mul_comm value 10]
    constructor
    · rintro ⟨digit, ⟨first, rfl⟩, rest, total⟩
      exact ⟨⟨first, rest⟩, total⟩
    · rintro ⟨⟨first, rest⟩, total⟩
      exact ⟨_, ⟨first, rfl⟩, rest, total⟩

/-- At least one digit, and the number that the digits stand for. -/
@[mk_iff]
structure IsDecimal (digits : List Char) (n : Nat) : Prop where
  nonempty : digits ≠ []
  digit : ∀ c ∈ digits, c.isDigit
  value : Nat.ofDigitChars 10 digits 0 = n

theorem unsigned?_eq_some_iff {bound n : Nat} {cs : List Char} :
    unsigned? 10 bound cs = some n ↔
      (∃ digits, (cs = digits ∨ cs = '+' :: digits) ∧ IsDecimal digits n) ∧ n < bound := by
  have signless (digits : List Char) :
      (if digits.isEmpty then none else (digitsValue? 10 digits).filter (· < bound)) = some n ↔
        IsDecimal digits n ∧ n < bound := by
    split <;> next length =>
      rw [List.isEmpty_iff] at length
      simp [length, digitsValue?, Option.filter_eq_some_iff, digitsValue?_go_eq_some_iff,
        isDecimal_iff]
  unfold unsigned?
  split
  case h_1 rest =>
    rw [signless]
    constructor
    · rintro ⟨decimal, small⟩
      exact ⟨⟨rest, .inr rfl, decimal⟩, small⟩
    · rintro ⟨⟨digits, rfl | same, decimal⟩, small⟩
      · exact absurd (decimal.digit '+' List.mem_cons_self) (by decide)
      · cases same
        exact ⟨decimal, small⟩
  case h_2 plain =>
    rw [signless]
    constructor
    · rintro ⟨decimal, small⟩
      exact ⟨⟨cs, .inl rfl, decimal⟩, small⟩
    · rintro ⟨⟨digits, rfl | signed, decimal⟩, small⟩
      · exact ⟨decimal, small⟩
      · exact absurd signed (plain digits)

end Text

namespace Endpoint

/-! ## Paths, hosts and ports -/

def IsPath (cs : List Char) : Prop := ∃ rest, cs = '/' :: rest

/-- A decimal number from 1 to 65535, with or without a plus sign. -/
def IsPort (cs : List Char) : Prop :=
  ∃ digits n, (cs = digits ∨ cs = '+' :: digits) ∧ Text.IsDecimal digits n ∧ 1 ≤ n ∧ n ≤ 65535

/-- The last colon parts a host from what stands where the port should. -/
def Parts (cs host port : List Char) : Prop := cs = host ++ ':' :: port ∧ ':' ∉ port

def IsHostAndPort (cs : List Char) : Prop :=
  ∃ host port, Parts cs host port ∧ host ≠ [] ∧ IsPort port

/-- What is wrong first with a text that names nothing. -/
inductive Misnames : List Char → Inverter.Fault → Prop where
  | empty : Misnames [] .noAddress
  | port {cs host port : List Char} (path : ¬IsPath cs) (parts : Parts cs host port)
      (named : host ≠ []) (bad : ¬IsPort port) : Misnames cs .badPort
  | form {cs : List Char} (nonempty : cs ≠ []) (path : ¬IsPath cs)
      (nameless : ∀ host port, Parts cs host port → host = []) :
      Misnames cs (.badAddress (String.ofList cs))

theorem isPort_iff (cs : List Char) : isPort cs = true ↔ IsPort cs := by
  simp only [isPort, Option.any_eq_true, Text.unsigned?_eq_some_iff, decide_eq_true_eq]
  constructor
  · rintro ⟨n, ⟨⟨digits, sign, decimal⟩, most⟩, least⟩
    exact ⟨digits, n, sign, decimal, least, Nat.le_of_lt_succ most⟩
  · rintro ⟨digits, n, sign, decimal, least, most⟩
    exact ⟨n, ⟨⟨digits, sign, decimal⟩, Nat.lt_succ_of_le most⟩, least⟩

theorem splitAtLastColon?_eq_some_iff {cs host port : List Char} :
    splitAtLastColon? cs = some (host, port) ↔ Parts cs host port := by
  -- The text is searched from its end, where the last colon comes first.
  unfold splitAtLastColon?
  rw [List.span_eq_takeWhile_dropWhile]
  constructor
  · intro split
    cases behind : cs.reverse.dropWhile (· != ':') with
    | nil => simp [behind] at split
    | cons colon front =>
      have isColon : colon = ':' := by
        have stopped := List.head?_dropWhile_not (· != ':') cs.reverse
        simpa [behind] using stopped
      have whole := List.takeWhile_append_dropWhile (p := (· != ':')) (l := cs.reverse)
      simp only [behind, Option.some_inj, Prod.mk.injEq] at split
      obtain ⟨rfl, rfl⟩ := split
      constructor
      · rw [behind, isColon] at whole
        simpa using (congrArg List.reverse whole).symm
      · intro listed
        have passed := List.mem_takeWhile_imp (List.mem_reverse.mp listed)
        simp at passed
  · rintro ⟨rfl, last⟩
    have passed : ∀ c ∈ port.reverse, (c != ':') = true := by
      intro c listed
      rw [bne_iff_ne]
      rintro rfl
      exact last (List.mem_reverse.mp listed)
    have mirrored : (host ++ ':' :: port).reverse = port.reverse ++ ':' :: host.reverse := by simp
    rw [mirrored, List.takeWhile_append_of_pos passed, List.dropWhile_append_of_pos passed]
    simp

theorem Parts.unique {cs host port host' port' : List Char} (parts : Parts cs host port)
    (others : Parts cs host' port') : host = host' ∧ port = port' := by
  rw [← splitAtLastColon?_eq_some_iff] at parts others
  rw [parts] at others
  cases others
  exact ⟨rfl, rfl⟩

/-- What an address should be. -/
def Names (cs : List Char) : Prop := IsPath cs ∨ IsHostAndPort cs

namespace Misnames

variable {cs : List Char} {fault other : Inverter.Fault}

theorem not_isPath (wrong : Misnames cs fault) : ¬IsPath cs := by
  cases wrong with
  | empty =>
    rintro ⟨rest, slash⟩
    cases slash
  | port path => exact path
  | form _ path => exact path

theorem not_isHostAndPort (wrong : Misnames cs fault) : ¬IsHostAndPort cs := by
  rintro ⟨host, port, parts, named, sound⟩
  cases wrong with
  | empty => simp [Parts] at parts
  | port _ others _ bad =>
    obtain ⟨-, rfl⟩ := parts.unique others
    exact bad sound
  | form _ _ nameless => exact named (nameless host port parts)

theorem not_names (wrong : Misnames cs fault) : ¬Names cs :=
  not_or.mpr ⟨wrong.not_isPath, wrong.not_isHostAndPort⟩

theorem unique (wrong : Misnames cs fault) (alike : Misnames cs other) : fault = other := by
  cases wrong with
  | empty =>
    cases alike with
    | empty => rfl
    | port _ parts => simp [Parts] at parts
    | form nonempty => exact absurd rfl nonempty
  | port _ parts named =>
    cases alike with
    | empty => simp [Parts] at parts
    | port => rfl
    | form _ _ nameless => exact absurd (nameless _ _ parts) named
  | form nonempty _ nameless =>
    cases alike with
    | empty => exact absurd rfl nonempty
    | port _ parts named => exact absurd (nameless _ _ parts) named
    | form => rfl

end Misnames

end Endpoint

namespace Inverter

open Endpoint

/-- The check of an address finds what is wrong with it, if anything is. -/
theorem addressFault?_sound (address : String) :
    (addressFault? address).elim (Names (Text.trim address.toList))
      (Misnames (Text.trim address.toList)) := by
  unfold addressFault?
  generalize Text.trim address.toList = cs
  split
  case h_1 => exact Misnames.empty
  case h_2 rest => exact Or.inl ⟨rest, rfl⟩
  case h_3 nonempty path =>
    have slashless : ¬IsPath cs := fun ⟨rest, slash⟩ => path rest slash
    split
    case h_1 first more port split =>
      have parts := splitAtLastColon?_eq_some_iff.mp split
      by_cases sound : isPort port
      · rw [if_pos sound]
        exact Or.inr ⟨_, port, parts, List.cons_ne_nil first more, (isPort_iff port).mp sound⟩
      · rw [if_neg sound]
        exact Misnames.port slashless parts (List.cons_ne_nil first more)
          (mt (isPort_iff port).mpr sound)
    case h_2 other =>
      refine Misnames.form nonempty slashless fun host port parts => ?_
      cases host with
      | nil => rfl
      | cons first more =>
        exact absurd (splitAtLastColon?_eq_some_iff.mpr parts) (other first more port)

theorem addressFault?_eq_none_iff {address : String} :
    addressFault? address = none ↔ Names (Text.trim address.toList) :=
  (check_exact (addressFault?_sound address) Misnames.not_names Misnames.unique).1

theorem addressFault?_eq_some_iff {address : String} {fault : Fault} :
    addressFault? address = some fault ↔ Misnames (Text.trim address.toList) fault :=
  (check_exact (addressFault?_sound address) Misnames.not_names Misnames.unique).2 fault

end Inverter

end SolarTelemetry
