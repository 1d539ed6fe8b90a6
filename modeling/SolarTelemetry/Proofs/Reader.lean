import SolarTelemetry.Bytes

/-!
# Readers on what was written and on what stands somewhere

A reader gives back what was written in front of it and leaves the rest. From some place in a byte
string on it reads the number that stands there, and goes on behind it; so a chain of readers can be
followed place by place.
-/

namespace SolarTelemetry

namespace Bytes

variable {width offset : Nat} {bs : Bytes}

@[simp] theorem length_ofWord16 (w : UInt16) : (ofWord16 w).length = 2 :=
  LittleEndian.length_encode 2 _

@[simp] theorem length_ofWord32 (w : UInt32) : (ofWord32 w).length = 4 :=
  LittleEndian.length_encode 4 _

@[simp] theorem length_ofWord64 (w : UInt64) : (ofWord64 w).length = 8 :=
  LittleEndian.length_encode 8 _

def word64At? (offset : Nat) (bs : Bytes) : Option UInt64 :=
  (wordAt? 8 offset bs).map UInt64.ofNat

theorem wordAt?_of_le (within : offset + width ≤ bs.length) :
    wordAt? width offset bs = some (LittleEndian.decode ((bs.drop offset).take width)) :=
  if_pos within

theorem wordAt?_eq_some {n : Nat} (stands : wordAt? width offset bs = some n) :
    offset + width ≤ bs.length ∧ n = LittleEndian.decode ((bs.drop offset).take width) := by
  unfold wordAt? at stands
  split at stands
  · next within =>
    cases stands
    exact ⟨within, rfl⟩
  · cases stands

theorem exists_word16At? (within : offset + 2 ≤ bs.length) : ∃ w, word16At? offset bs = some w :=
  ⟨_, congrArg (Option.map _) (wordAt?_of_le within)⟩

theorem exists_word32At? (within : offset + 4 ≤ bs.length) : ∃ w, word32At? offset bs = some w :=
  ⟨_, congrArg (Option.map _) (wordAt?_of_le within)⟩

theorem exists_word64At? (within : offset + 8 ≤ bs.length) : ∃ w, word64At? offset bs = some w :=
  ⟨_, congrArg (Option.map _) (wordAt?_of_le within)⟩

end Bytes

namespace Reader

theorem bind_of_read {α β : Type} {reader : Reader α} {next : α → Reader β} {bs rest : Bytes}
    {a : α} (read : reader bs = some (a, rest)) : (reader >>= next) bs = next a rest := by
  change (reader bs).bind _ = _
  rw [read]
  rfl

theorem map_of_read {α β : Type} {reader : Reader α} (f : α → β) {bs rest : Bytes} {a : α}
    (read : reader bs = some (a, rest)) : (f <$> reader) bs = some (f a, rest) := by
  change (reader bs).bind _ = _
  rw [read]
  rfl

/-! ## What was written -/

theorem number_encode (width n : Nat) (rest : Bytes) :
    number width (LittleEndian.encode width n ++ rest) = some (n % 256 ^ width, rest) := by
  have length := LittleEndian.length_encode width n
  unfold number
  rw [if_pos (by simp), List.take_left' length, List.drop_left' length,
    LittleEndian.decode_encode]

theorem word8_cons (b : UInt8) (rest : Bytes) : word8 (b :: rest) = some (b, rest) := by
  have read := number_encode 1 b.toNat rest
  have low : b.toNat % 256 ^ 1 = b.toNat := Nat.mod_eq_of_lt b.toNat_lt
  rw [low] at read
  have octet : LittleEndian.encode 1 b.toNat = [b] := by simp [LittleEndian.encode]
  rw [octet] at read
  have := map_of_read UInt8.ofNat read
  rwa [UInt8.ofNat_toNat] at this

theorem word16_ofWord16 (w : UInt16) (rest : Bytes) :
    word16 (Bytes.ofWord16 w ++ rest) = some (w, rest) := by
  have low : w.toNat % 256 ^ 2 = w.toNat := Nat.mod_eq_of_lt w.toNat_lt
  have read := map_of_read UInt16.ofNat (number_encode 2 w.toNat rest)
  rwa [low, UInt16.ofNat_toNat] at read

theorem word32_ofWord32 (w : UInt32) (rest : Bytes) :
    word32 (Bytes.ofWord32 w ++ rest) = some (w, rest) := by
  have low : w.toNat % 256 ^ 4 = w.toNat := Nat.mod_eq_of_lt w.toNat_lt
  have read := map_of_read UInt32.ofNat (number_encode 4 w.toNat rest)
  rwa [low, UInt32.ofNat_toNat] at read

theorem word64_ofWord64 (w : UInt64) (rest : Bytes) :
    word64 (Bytes.ofWord64 w ++ rest) = some (w, rest) := by
  have low : w.toNat % 256 ^ 8 = w.toNat := Nat.mod_eq_of_lt w.toNat_lt
  have read := map_of_read UInt64.ofNat (number_encode 8 w.toNat rest)
  rwa [low, UInt64.ofNat_toNat] at read

theorem octets_append {n : Nat} {front : Bytes} (length : front.length = n) (rest : Bytes) :
    octets n (front ++ rest) = some (front, rest) := by
  unfold octets
  rw [if_pos (by simp [← length]), List.take_left' length, List.drop_left' length]

/-! ## What stands at a place -/

section

variable {offset : Nat} {bs : Bytes}

theorem number_drop {width n : Nat} (stands : Bytes.wordAt? width offset bs = some n) :
    number width (bs.drop offset) = some (n, bs.drop (offset + width)) := by
  obtain ⟨within, rfl⟩ := Bytes.wordAt?_eq_some stands
  have enough : width ≤ (bs.drop offset).length := by
    rw [List.length_drop]
    omega
  rw [number, if_pos enough, List.drop_drop]

theorem word8_drop {b : UInt8} (stands : bs[offset]? = some b) :
    word8 (bs.drop offset) = some (b, bs.drop (offset + 1)) := by
  obtain ⟨within, rfl⟩ := List.getElem?_eq_some_iff.mp stands
  rw [List.drop_eq_getElem_cons within, word8_cons]

theorem word16_drop {w : UInt16} (stands : Bytes.word16At? offset bs = some w) :
    word16 (bs.drop offset) = some (w, bs.drop (offset + 2)) := by
  obtain ⟨n, number, rfl⟩ := Option.map_eq_some_iff.mp stands
  exact map_of_read UInt16.ofNat (number_drop number)

theorem word32_drop {w : UInt32} (stands : Bytes.word32At? offset bs = some w) :
    word32 (bs.drop offset) = some (w, bs.drop (offset + 4)) := by
  obtain ⟨n, number, rfl⟩ := Option.map_eq_some_iff.mp stands
  exact map_of_read UInt32.ofNat (number_drop number)

theorem word64_drop {w : UInt64} (stands : Bytes.word64At? offset bs = some w) :
    word64 (bs.drop offset) = some (w, bs.drop (offset + 8)) := by
  obtain ⟨n, number, rfl⟩ := Option.map_eq_some_iff.mp stands
  exact map_of_read UInt64.ofNat (number_drop number)

theorem octets_drop {n : Nat} (within : offset + n ≤ bs.length) :
    octets n (bs.drop offset) = some ((bs.drop offset).take n, bs.drop (offset + n)) := by
  have enough : n ≤ (bs.drop offset).length := by
    rw [List.length_drop]
    omega
  rw [octets, if_pos enough, List.drop_drop]

end

/-! ## What was read -/

section

variable {α β : Type} {reader : Reader α} {bs rest : Bytes}

theorem bind_eq_some_iff {next : α → Reader β} {b : β} :
    (reader >>= next) bs = some (b, rest) ↔
      ∃ a left, reader bs = some (a, left) ∧ next a left = some (b, rest) := by
  change (reader bs).bind _ = _ ↔ _
  simp [Option.bind_eq_some_iff]

theorem map_eq_some_iff {f : α → β} {b : β} :
    (f <$> reader) bs = some (b, rest) ↔ ∃ a, reader bs = some (a, rest) ∧ f a = b := by
  change (reader bs).bind _ = _ ↔ _
  simp [Option.bind_eq_some_iff]

theorem pure_eq_some_iff {a b : α} :
    (pure a : Reader α) bs = some (b, rest) ↔ a = b ∧ bs = rest := by
  change some (a, bs) = _ ↔ _
  simp

/-- A number that was read stands in front of what is left. -/
theorem eq_of_number {width n : Nat} (read : number width bs = some (n, rest)) :
    bs = LittleEndian.encode width n ++ rest ∧ n < 256 ^ width := by
  unfold number at read
  split at read
  · next enough =>
    cases read
    have size : (bs.take width).length = width := List.length_take_of_le enough
    have same := LittleEndian.encode_decode (bs.take width)
    have small := LittleEndian.decode_lt (bs.take width)
    rw [size] at same small
    exact ⟨by rw [same, List.take_append_drop], small⟩
  · cases read

theorem word8_eq_some_iff {b : UInt8} : word8 bs = some (b, rest) ↔ bs = b :: rest := by
  constructor
  · intro read
    obtain ⟨n, number, rfl⟩ := map_eq_some_iff.mp read
    exact (eq_of_number number).1
  · rintro rfl
    exact word8_cons b rest

theorem word16_eq_some_iff {w : UInt16} :
    word16 bs = some (w, rest) ↔ bs = Bytes.ofWord16 w ++ rest := by
  constructor
  · intro read
    obtain ⟨n, number, rfl⟩ := map_eq_some_iff.mp read
    obtain ⟨same, small⟩ := eq_of_number number
    rw [Bytes.ofWord16, UInt16.toNat_ofNat_of_lt' small]
    exact same
  · rintro rfl
    exact word16_ofWord16 w rest

theorem word32_eq_some_iff {w : UInt32} :
    word32 bs = some (w, rest) ↔ bs = Bytes.ofWord32 w ++ rest := by
  constructor
  · intro read
    obtain ⟨n, number, rfl⟩ := map_eq_some_iff.mp read
    obtain ⟨same, small⟩ := eq_of_number number
    rw [Bytes.ofWord32, UInt32.toNat_ofNat_of_lt' small]
    exact same
  · rintro rfl
    exact word32_ofWord32 w rest

/-- So many octets are enough for a reader, and it takes no others. -/
def Suffice (n : Nat) (reader : Reader α) : Prop :=
  ∀ bs : Bytes, n ≤ bs.length → ∃ a, reader bs = some (a, bs.drop n)

theorem suffice_number (width : Nat) : Suffice width (number width) :=
  fun _ enough => ⟨_, if_pos enough⟩

theorem Suffice.map {n : Nat} (suffice : Suffice n reader) (f : α → β) :
    Suffice n (f <$> reader) := by
  intro bs enough
  obtain ⟨a, read⟩ := suffice bs enough
  exact ⟨f a, map_of_read f read⟩

theorem Suffice.bind {m n : Nat} {next : α → Reader β} (first : Suffice m reader)
    (second : ∀ a, Suffice n (next a)) : Suffice (m + n) (reader >>= next) := by
  intro bs enough
  obtain ⟨a, read⟩ := first bs (by omega)
  obtain ⟨b, more⟩ := second a (bs.drop m) (by
    rw [List.length_drop]
    omega)
  rw [List.drop_drop] at more
  exact ⟨b, (bind_of_read read).trans more⟩

theorem suffice_pure (a : α) : Suffice 0 (pure a : Reader α) := fun _ _ => ⟨a, rfl⟩

theorem suffice_word8 : Suffice 1 word8 := (suffice_number 1).map _

theorem suffice_word16 : Suffice 2 word16 := (suffice_number 2).map _

theorem suffice_word32 : Suffice 4 word32 := (suffice_number 4).map _

end

end Reader

end SolarTelemetry
