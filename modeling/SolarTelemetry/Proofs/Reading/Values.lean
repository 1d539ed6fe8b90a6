import Mathlib.Data.List.TakeWhile
import SolarTelemetry.Proofs.Reader
import SolarTelemetry.Reading.Info
import SolarTelemetry.Record

/-!
# What one record shows

A record either shows a value or is void, and its octets alone decide which. A void one shows
nothing at all, whatever number stands in it; of the words of a block the first that is selected
before the end mark counts.
-/

namespace SolarTelemetry

theorem Text.trim_eq_nil_iff (cs : List Char) : Text.trim cs = [] ↔ ∀ c ∈ cs, Text.isBlank c := by
  unfold Text.trim
  rw [List.reverse_eq_nil_iff, List.dropWhile_eq_nil_iff]
  constructor
  · intro blank c listed
    rw [← List.takeWhile_append_dropWhile (p := Text.isBlank) (l := cs)] at listed
    rcases List.mem_append.mp listed with early | late
    · exact List.mem_takeWhile_imp early
    · exact blank c (List.mem_reverse.mpr late)
  · intro blank c listed
    exact blank c (List.dropWhile_sublist _ |>.subset (List.mem_reverse.mp listed))

namespace Record

/-! ## Numbers -/

/-- A signed value with its top bit set, or another with all bits set. -/
def Spot.IsVoid (s : Spot) : Prop :=
  if s.header.dataType = signedType then 2 ^ 31 ≤ s.value1.toNat
  else s.value1.toNat = 2 ^ 32 - 1

theorem Spot.reading_of_isVoid {s : Spot} (void : s.IsVoid) : s.reading = none := by
  unfold IsVoid at void
  unfold reading
  split at void
  · next signed => rw [if_pos signed, signed?, if_neg (Nat.not_lt.mpr void)]
  · next unsigned =>
    have all : s.value1 = 0xFFFFFFFF := UInt32.toNat_inj.mp void
    rw [if_neg unsigned, unsigned?, if_pos all]
    rfl

theorem Spot.reading_of_not_isVoid {s : Spot} (shows : ¬s.IsVoid) :
    s.reading = some (s.value1.toNat : Int) := by
  unfold IsVoid at shows
  unfold reading
  split at shows
  · next signed => rw [if_pos signed, signed?, if_pos (Nat.not_le.mp shows)]
  · next unsigned =>
    have other : s.value1 ≠ 0xFFFFFFFF := fun all => shows (congrArg UInt32.toNat all)
    rw [if_neg unsigned, unsigned?, if_neg other]
    rfl

theorem Spot.reading_eq_none_iff {s : Spot} : s.reading = none ↔ s.IsVoid := by
  refine ⟨fun none => ?_, reading_of_isVoid⟩
  by_contra shows
  rw [reading_of_not_isVoid shows] at none
  cases none

def Counter.IsVoid (c : Counter) : Prop :=
  c.value.toNat = 2 ^ 63 ∨ c.value.toNat = 2 ^ 64 - 1

theorem Counter.isVoid_iff (c : Counter) :
    c.IsVoid ↔ c.value = 0xFFFFFFFFFFFFFFFF ∨ c.value = 0x8000000000000000 := by
  rw [← UInt64.toNat_inj, ← UInt64.toNat_inj]
  exact Or.comm

theorem Counter.reading_of_not_isVoid {c : Counter} (shows : ¬c.IsVoid) :
    c.reading = some c.value.toNat :=
  if_neg fun void => shows (c.isVoid_iff.mpr void)

theorem Counter.reading_eq_none_iff {c : Counter} : c.reading = none ↔ c.IsVoid := by
  refine ⟨fun none => ?_, fun void => if_pos (c.isVoid_iff.mp void)⟩
  by_contra shows
  rw [reading_of_not_isVoid shows] at none
  cases none

/-! ## Attributes -/

namespace Block

/-- The word of this number in a block. -/
def word? (b : Block) (i : Nat) : Option Nat := Bytes.wordAt? 4 (4 * i) b.data

/-- The word names an attribute and selects it. -/
def Picks (word : Nat) : Prop := word % 2 ^ 24 ≠ 0 ∧ word / 2 ^ 24 = 1

def Ends (word : Nat) : Prop := word % 2 ^ 24 = endMark

instance (word : Nat) : Decidable (Picks word) := inferInstanceAs (Decidable (_ ∧ _))

instance (word : Nat) : Decidable (Ends word) := inferInstanceAs (Decidable (_ = _))

/-- The attribute is the first one selected, and the end mark does not come before it. -/
def Selects (b : Block) (code : Nat) : Prop :=
  ∃ i word, b.word? i = some word ∧ Picks word ∧ word % 2 ^ 24 = code ∧ ¬Ends word ∧
    ∀ j < i, ∀ other, b.word? j = some other → ¬Ends other ∧ ¬Picks other

/-- No attribute is selected before the end mark. -/
def SelectsNothing (b : Block) : Prop :=
  ∀ i word, b.word? i = some word → Picks word →
    ∃ j ≤ i, ∃ other, b.word? j = some other ∧ Ends other

theorem getElem?_attributeWords (data : Bytes) (i : Nat) :
    (attributeWords data)[i]? = Bytes.wordAt? 4 (4 * i) data := by
  induction data using attributeWords.induct generalizing i with
  | case1 b0 b1 b2 b3 rest ih =>
    cases i with
    | zero => rfl
    | succ i =>
      have size : (b0 :: b1 :: b2 :: b3 :: rest).length = rest.length + 4 := rfl
      have place : 4 * (i + 1) + 4 ≤ rest.length + 4 ↔ 4 * i + 4 ≤ rest.length := by omega
      have behind : (b0 :: b1 :: b2 :: b3 :: rest).drop (4 * (i + 1)) = rest.drop (4 * i) := rfl
      rw [attributeWords, List.getElem?_cons_succ, ih, Bytes.wordAt?, Bytes.wordAt?, size, behind]
      simp only [place]
  | case2 data short =>
    have few : data.length < 4 := by
      match data with
      | [] | [_] | [_, _] | [_, _, _] => simp
      | b0 :: b1 :: b2 :: b3 :: rest => exact (short b0 b1 b2 b3 rest rfl).elim
    have none : attributeWords data = [] := by
      unfold attributeWords
      split
      · next b0 b1 b2 b3 rest => exact (short b0 b1 b2 b3 rest rfl).elim
      · rfl
    rw [none, Bytes.wordAt?, if_neg (by omega)]
    rfl

/-- The first attribute selected in a list of words. -/
def firstPicked : List Nat → Option Nat
  | [] => none
  | word :: words =>
    if Ends word then none
    else if Picks word then some (word % 2 ^ 24)
    else firstPicked words

theorem selected_eq (b : Block) : b.selected = firstPicked (attributeWords b.data) := by
  unfold selected attributes
  generalize attributeWords b.data = words
  induction words with
  | nil => rfl
  | cons word words ih =>
    by_cases ends : Ends word
    · have mark : word % 2 ^ 24 = endMark := ends
      simp [firstPicked, ends, mark]
    have onward : word % 2 ^ 24 ≠ endMark := ends
    by_cases named : word % 2 ^ 24 = 0
    · have passed : ¬Picks word := fun picks => picks.1 named
      have zero : 0 ≠ endMark := by decide
      rw [firstPicked, if_neg ends, if_neg passed, ← ih]
      simp [named, zero]
    · by_cases flag : word / 2 ^ 24 = 1
      · have picks : Picks word := ⟨named, flag⟩
        simp [firstPicked, ends, picks, onward, named, flag]
      · have passed : ¬Picks word := fun picks => flag picks.2
        rw [firstPicked, if_neg ends, if_neg passed, ← ih]
        simp [onward, named, flag]

theorem firstPicked_eq_some_iff {words : List Nat} {code : Nat} :
    firstPicked words = some code ↔
      ∃ (i word : Nat), words[i]? = some word ∧ Picks word ∧ word % 2 ^ 24 = code ∧ ¬Ends word ∧
        ∀ j < i, ∀ other : Nat, words[j]? = some other → ¬Ends other ∧ ¬Picks other := by
  induction words with
  | nil => simp [firstPicked]
  | cons first words ih =>
    unfold firstPicked
    constructor
    · intro found
      split at found
      · cases found
      · next onward =>
        split at found
        · next picks =>
          exact ⟨0, first, rfl, picks, Option.some.inj found, onward, nofun⟩
        · next passed =>
          obtain ⟨i, word, there, picks, names, before, others⟩ := ih.mp found
          refine ⟨i + 1, word, there, picks, names, before, fun j early other at' => ?_⟩
          cases j with
          | zero =>
            obtain rfl := Option.some.inj at'
            exact ⟨onward, passed⟩
          | succ j => exact others j (Nat.lt_of_succ_lt_succ early) other at'
    · rintro ⟨i, word, there, picks, names, before, others⟩
      cases i with
      | zero =>
        obtain rfl := Option.some.inj there
        rw [if_neg before, if_pos picks, names]
      | succ i =>
        obtain ⟨onward, passed⟩ := others 0 (Nat.succ_pos i) first rfl
        rw [if_neg onward, if_neg passed]
        exact ih.mpr ⟨i, word, there, picks, names, before, fun j early other at' =>
          others (j + 1) (Nat.succ_lt_succ early) other at'⟩

theorem firstPicked_eq_none_iff {words : List Nat} :
    firstPicked words = none ↔
      ∀ i word : Nat, words[i]? = some word → Picks word →
        ∃ j ≤ i, ∃ other : Nat, words[j]? = some other ∧ Ends other := by
  induction words with
  | nil => simp [firstPicked]
  | cons first words ih =>
    unfold firstPicked
    split
    · next ends => exact ⟨fun _ i _ _ _ => ⟨0, Nat.zero_le i, first, rfl, ends⟩, fun _ => rfl⟩
    · next onward =>
      split
      · next picks =>
        refine ⟨nofun, fun all => ?_⟩
        obtain ⟨j, low, other, at', ends⟩ := all 0 first rfl picks
        obtain rfl := Nat.le_zero.mp low
        obtain rfl := Option.some.inj at'
        exact absurd ends onward
      · next passed =>
        rw [ih]
        constructor
        · intro all i word there picks
          cases i with
          | zero =>
            obtain rfl := Option.some.inj there
            exact absurd picks passed
          | succ i =>
            obtain ⟨j, low, other, at', ends⟩ := all i word there picks
            exact ⟨j + 1, Nat.succ_le_succ low, other, at', ends⟩
        · intro all i word there picks
          obtain ⟨j, low, other, at', ends⟩ := all (i + 1) word there picks
          cases j with
          | zero =>
            obtain rfl := Option.some.inj at'
            exact absurd ends onward
          | succ j => exact ⟨j, Nat.le_of_succ_le_succ low, other, at', ends⟩

theorem selected_eq_some_iff {b : Block} {code : Nat} :
    b.selected = some code ↔ b.Selects code := by
  rw [selected_eq, firstPicked_eq_some_iff]
  simp only [getElem?_attributeWords]
  rfl

theorem selected_eq_none_iff {b : Block} : b.selected = none ↔ b.SelectsNothing := by
  rw [selected_eq, firstPicked_eq_none_iff]
  simp only [getElem?_attributeWords]
  rfl

/-! ## Texts and versions -/

/-- Nothing but blanks stands before the first zero octet. -/
def IsBlank (b : Block) : Prop :=
  ∀ c ∈ Text.Utf8.decodeLossy (b.data.takeWhile (· != 0)), Text.isBlank c

theorem text_eq_none_iff {b : Block} : b.text = none ↔ b.IsBlank := by
  unfold text
  rw [IsBlank, ← Text.trim_eq_nil_iff, ← List.isEmpty_iff]
  dsimp only
  split
  · next blank => exact ⟨fun _ => blank, fun _ => rfl⟩
  · next shows => exact ⟨nofun, fun blank => absurd blank shows⟩

end Block

end Record

theorem Firmware.ofOctets?_drop_eq_none_iff {data : Bytes} {offset : Nat} :
    Firmware.ofOctets? (data.drop offset) = none ↔ data.length < offset + 4 := by
  have size : (data.drop offset).length = data.length - offset := List.length_drop
  generalize data.drop offset = octets at size
  match octets with
  | [] | [_] | [_, _] | [_, _, _] =>
    simp only [List.length_cons, List.length_nil] at size
    exact ⟨fun _ => by omega, fun _ => rfl⟩
  | release :: build :: minor :: major :: rest =>
    simp only [List.length_cons] at size
    exact ⟨nofun, fun _ => by omega⟩

end SolarTelemetry
