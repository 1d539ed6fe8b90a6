import SolarTelemetry.Proofs.Frame.Residue

/-!
# What the check sequence finds

The register is linear in the bits that it absorbs, so what another frame of the same length leaves
in it depends on the flipped bits alone. An odd number of them shows, since a shift keeps the parity
of the register; two show, since the register takes more shifts to come round than a frame has bits;
and two neighbouring octets show, since they are absorbed as one word.
-/

namespace SolarTelemetry.Frame

/-- The set bits of the polynomial are put in wherever a set bit falls out. -/
theorem shift_eq (r : UInt16) :
    shift r = (r >>> 1) ^^^ if r.toBitVec.getLsbD 0 then 0x8408 else 0 := by
  unfold shift
  simp only [low_bit_iff]
  split <;> simp

theorem getLsbD_shift (r : UInt16) (i : Nat) :
    (shift r).toBitVec.getLsbD i =
      (r.toBitVec.getLsbD (i + 1) ^^ (r.toBitVec.getLsbD 0 && (0x8408#16).getLsbD i)) := by
  rw [shift_eq, UInt16.toBitVec_xor, BitVec.getLsbD_xor, Nat.add_comm]
  cases r.toBitVec.getLsbD 0 <;> simp

theorem shift_eq_zero_iff {r : UInt16} : shift r = 0 ↔ r = 0 := by
  refine ⟨fun gone => ?_, fun empty => by rw [empty]; rfl⟩
  have clear (i : Nat) : (shift r).toBitVec.getLsbD i = false := by simp [gone]
  have low : r.toBitVec.getLsbD 0 = false := by
    have top := clear 15
    rw [getLsbD_shift, BitVec.getLsbD_of_ge _ 16 (by decide)] at top
    simpa using top
  apply UInt16.toBitVec_inj.mp
  apply BitVec.eq_of_getLsbD_eq
  rintro (_ | i) -
  · simpa using low
  · have next := clear i
    rw [getLsbD_shift, low] at next
    simpa using next

theorem shift_inj {a b : UInt16} : shift a = shift b ↔ a = b := by
  constructor
  · intro same
    apply UInt16.xor_eq_zero_iff.mp
    apply shift_eq_zero_iff.mp
    rw [shift_xor, same, UInt16.xor_self]
  · exact congrArg shift

@[simp] theorem repeat_shift_inj {n : Nat} {a b : UInt16} :
    Nat.repeat shift n a = Nat.repeat shift n b ↔ a = b := by
  induction n with
  | zero => rfl
  | succ n ih => exact shift_inj.trans ih

@[simp] theorem octetShift_inj {a b : UInt16} : octetShift a = octetShift b ↔ a = b :=
  repeat_shift_inj

theorem foldl_absorb_inj {bs : Bytes} {r s : UInt16} :
    bs.foldl absorb r = bs.foldl absorb s ↔ r = s := by
  induction bs generalizing r s with
  | nil => rfl
  | cons b bs ih =>
    apply ih.trans
    simp [absorb_eq]

section Burst

variable {r : UInt16} {a b c d : UInt8}

theorem toBitVec_shiftLeft_eight (b : UInt8) :
    (b.toUInt16 <<< 8).toBitVec = b.toBitVec.setWidth 16 <<< 8 := by
  rw [UInt16.toBitVec_shiftLeft]
  rfl

theorem octetShift_shiftLeft (b : UInt8) : octetShift (b.toUInt16 <<< 8) = b.toUInt16 := by
  have clear : ∀ i < 8, (b.toUInt16 <<< 8).toBitVec.getLsbD i = false := by
    intro i small
    simp [small]
  apply UInt16.toBitVec_inj.mp
  rw [octetShift, repeat_shift_of_clear clear, toBitVec_shiftLeft_eight]
  apply BitVec.eq_of_getLsbD_eq
  intro i small
  have short (j : Nat) (long : 8 ≤ j) : b.toBitVec.getLsbD j = false :=
    BitVec.getLsbD_of_ge _ j long
  by_cases inside : i < 8
  · simp [inside, small]
    omega
  · simp [short i (Nat.not_lt.mp inside)]

/-- Two octets are absorbed as one word. -/
theorem absorb_absorb (r : UInt16) (a b : UInt8) :
    absorb (absorb r a) b = octetShift (octetShift (r ^^^ (a.toUInt16 ^^^ b.toUInt16 <<< 8))) := by
  simp only [absorb_eq, octetShift_xor, octetShift_shiftLeft, UInt16.xor_assoc]

theorem eq_of_absorb_absorb (same : absorb (absorb r a) b = absorb (absorb r c) d) :
    a = c ∧ b = d := by
  simp only [absorb_absorb, octetShift_inj, UInt16.xor_right_inj] at same
  have bit (i : Nat) := congrArg (fun w : UInt16 => w.toBitVec.getLsbD i) same
  simp only [UInt16.toBitVec_xor, BitVec.getLsbD_xor, toBitVec_shiftLeft_eight] at bit
  constructor
  · apply UInt8.toBitVec_inj.mp
    apply BitVec.eq_of_getLsbD_eq
    intro i small
    have wide : i < 16 := by omega
    simpa [small, wide] using bit i
  · apply UInt8.toBitVec_inj.mp
    apply BitVec.eq_of_getLsbD_eq
    intro i small
    have wide : i < 16 ∧ i + 8 < 16 ∧ ¬i + 8 < 8 := by omega
    simpa [small, wide] using bit (i + 8)

/-- Octets of one length that differ within two neighbouring ones are absorbed differently. -/
theorem eq_of_near {frame other : Bytes} {i : Nat} (length : other.length = frame.length)
    (near : ∀ j, j ≠ i → j ≠ i + 1 → other[j]? = frame[j]?)
    (same : other.foldl absorb r = frame.foldl absorb r) : other = frame := by
  induction i generalizing frame other r with
  | zero =>
    match frame, other with
    | [], [] => rfl
    | [a], [c] =>
      -- an octet that both go on with makes it a pair
      obtain ⟨rfl, -⟩ := eq_of_absorb_absorb (congrArg (absorb · 0) same)
      rfl
    | a :: b :: frame, c :: d :: other =>
      have rest : other = frame := by
        apply List.ext_getElem?
        intro j
        exact near (j + 2) (by omega) (by omega)
      subst rest
      simp only [List.foldl_cons, foldl_absorb_inj] at same
      obtain ⟨rfl, rfl⟩ := eq_of_absorb_absorb same
      rfl
  | succ i ih =>
    match frame, other with
    | [], [] => rfl
    | a :: frame, c :: other =>
      obtain rfl : c = a := Option.some.inj (near 0 (by omega) (by omega))
      refine congrArg (c :: ·) (ih (Nat.succ.inj length) (fun j before after => ?_) same)
      exact near (j + 1) (by omega) (by omega)

end Burst

section Bits

def octetBits (b : UInt8) : List Bool := (List.range 8).map b.toBitVec.getLsbD

/-- The bits of octets in the order in which they are absorbed, the lowest of each octet first. -/
def bits (bs : Bytes) : List Bool := bs.flatMap octetBits

/-- Where the bits of two frames differ. -/
def flips (frame other : Bytes) : List Bool := List.zipWith xor (bits frame) (bits other)

def absorbBit (r : UInt16) (bit : Bool) : UInt16 := shift (r ^^^ if bit then 1 else 0)

/-- What a register that was empty has come to after these bits. -/
def syndrome (flipped : List Bool) : UInt16 := flipped.foldl absorbBit 0

theorem shift_xor_eq (r w : UInt16) :
    shift (r ^^^ w) = absorbBit r (w.toBitVec.getLsbD 0) ^^^ w >>> 1 := by
  rw [shift_xor, shift_eq w, absorbBit, shift_xor, UInt16.xor_assoc, UInt16.xor_comm (w >>> 1)]
  cases w.toBitVec.getLsbD 0 <;> rfl

/-- The bits of a word that are shifted out are absorbed one by one, and the others move down. -/
theorem repeat_shift_eq (r w : UInt16) (n : Nat) :
    Nat.repeat shift n (r ^^^ w) =
      ((List.range n).map w.toBitVec.getLsbD).foldl absorbBit r ^^^ ⟨w.toBitVec >>> n⟩ := by
  induction n with
  | zero => simp [Nat.repeat]
  | succ n ih =>
    have low : (w.toBitVec >>> n).getLsbD 0 = w.toBitVec.getLsbD n := by simp
    have moved : (⟨w.toBitVec >>> n⟩ : UInt16) >>> 1 = ⟨w.toBitVec >>> (n + 1)⟩ := by
      apply UInt16.toBitVec_inj.mp
      rw [UInt16.toBitVec_shiftRight, BitVec.shiftRight_add]
      rfl
    simp only [Nat.repeat, ih, shift_xor_eq, List.range_succ, List.map_append, List.foldl_append,
      low, moved]
    rfl

theorem absorb_eq_foldl (r : UInt16) (b : UInt8) :
    absorb r b = (octetBits b).foldl absorbBit r := by
  have low : (List.range 8).map b.toUInt16.toBitVec.getLsbD = octetBits b := by
    refine List.map_congr_left fun i small => ?_
    have wide : i < 16 := by
      have := List.mem_range.mp small
      omega
    simp [wide]
  have gone : (⟨b.toUInt16.toBitVec >>> 8⟩ : UInt16) = 0 := by
    apply UInt16.toBitVec_inj.mp
    apply BitVec.eq_of_getLsbD_eq
    intro i small
    simp
  rw [absorb, repeat_shift_eq, low, gone, UInt16.xor_zero]

theorem foldl_absorb_eq (r : UInt16) (bs : Bytes) :
    bs.foldl absorb r = (bits bs).foldl absorbBit r := by
  induction bs generalizing r with
  | nil => rfl
  | cons b bs ih => simp [bits, absorb_eq_foldl, ih]

theorem absorbBit_xor (r s : UInt16) (a b : Bool) :
    absorbBit (r ^^^ s) (a ^^ b) = absorbBit r a ^^^ absorbBit s b := by
  have arranged (x y : UInt16) : r ^^^ s ^^^ (x ^^^ y) = r ^^^ x ^^^ (s ^^^ y) := by
    rw [UInt16.xor_assoc, UInt16.xor_assoc, ← UInt16.xor_assoc s, UInt16.xor_comm s x,
      UInt16.xor_assoc]
  rw [absorbBit, absorbBit, absorbBit, ← shift_xor, ← arranged]
  cases a <;> cases b <;> rfl

theorem foldl_absorbBit_xor {e f : List Bool} (length : e.length = f.length) (r s : UInt16) :
    (List.zipWith xor e f).foldl absorbBit (r ^^^ s) =
      e.foldl absorbBit r ^^^ f.foldl absorbBit s := by
  induction e generalizing f r s with
  | nil =>
    cases List.length_eq_zero_iff.mp length.symm
    rfl
  | cons a e ih =>
    match f with
    | b :: f =>
      simp only [List.zipWith_cons_cons, List.foldl_cons, absorbBit_xor]
      exact ih (Nat.succ.inj length) _ _

@[simp] theorem length_octetBits (b : UInt8) : (octetBits b).length = 8 := by simp [octetBits]

theorem bits_cons (b : UInt8) (bs : Bytes) : bits (b :: bs) = octetBits b ++ bits bs :=
  List.flatMap_cons

@[simp] theorem length_bits (bs : Bytes) : (bits bs).length = 8 * bs.length := by
  induction bs with
  | nil => rfl
  | cons b bs ih =>
    simp [bits_cons, ih]
    omega

@[simp] theorem absorbBit_false (r : UInt16) : absorbBit r false = shift r :=
  congrArg shift UInt16.xor_zero

theorem syndrome_flips {frame other : Bytes} (length : other.length = frame.length) (r : UInt16) :
    syndrome (flips frame other) = frame.foldl absorb r ^^^ other.foldl absorb r := by
  have bitwise : (bits frame).length = (bits other).length := by simp [length]
  rw [foldl_absorb_eq, foldl_absorb_eq, ← foldl_absorbBit_xor bitwise, UInt16.xor_self]
  rfl

/-- Whether an odd number of bits is set. -/
def parity (r : UInt16) : Bool :=
  (List.range 16).foldr (fun i odd => r.toBitVec.getLsbD i ^^ odd) false

theorem parity_shift (r : UInt16) : parity (shift r) = parity r := by
  have places : List.range 16 = [0, 1, 2, 3, 4, 5, 6, 7, 8, 9, 10, 11, 12, 13, 14, 15] := rfl
  simp only [parity, places, List.foldr_cons, List.foldr_nil, getLsbD_shift, Nat.reduceAdd]
  -- three bits of the polynomial are set, so they make up for the one that falls out
  cases r.toBitVec.getLsbD 0 <;> simp

theorem parity_flip (r : UInt16) (bit : Bool) :
    parity (r ^^^ if bit then 1 else 0) = (parity r ^^ bit) := by
  have places : List.range 16 = [0, 1, 2, 3, 4, 5, 6, 7, 8, 9, 10, 11, 12, 13, 14, 15] := rfl
  cases bit
  · simp
  · simp [parity, places]

theorem parity_foldl (r : UInt16) (flipped : List Bool) :
    parity (flipped.foldl absorbBit r) = (parity r ^^ decide (flipped.count true % 2 = 1)) := by
  induction flipped generalizing r with
  | nil => simp
  | cons bit flipped ih =>
    rw [List.foldl_cons, ih, absorbBit, parity_shift, parity_flip, List.count_cons]
    cases bit
    · simp
    · by_cases odd : flipped.count true % 2 = 1
      · have even : ¬(flipped.count true + 1) % 2 = 1 := by omega
        simp [odd, even]
      · have other : (flipped.count true + 1) % 2 = 1 := by omega
        simp [odd, other]

theorem syndrome_ne_zero_of_odd {flipped : List Bool} (odd : flipped.count true % 2 = 1) :
    syndrome flipped ≠ 0 := by
  intro gone
  have counted := parity_foldl 0 flipped
  rw [← syndrome, gone] at counted
  simp [odd] at counted

theorem repeat_shift_shift (n : Nat) (r : UInt16) :
    Nat.repeat shift n (shift r) = Nat.repeat shift (n + 1) r := by
  induction n with
  | zero => rfl
  | succ n ih => exact congrArg shift ih

theorem foldl_absorbBit_of_clear {flipped : List Bool} (clear : flipped.count true = 0)
    (r : UInt16) : flipped.foldl absorbBit r = Nat.repeat shift flipped.length r := by
  induction flipped generalizing r with
  | nil => rfl
  | cons bit flipped ih =>
    cases bit
    · have others : flipped.count true = 0 := by simpa using clear
      simp [ih others, repeat_shift_shift]
    · simp at clear

@[simp] theorem repeat_shift_eq_zero {n : Nat} {r : UInt16} :
    Nat.repeat shift n r = 0 ↔ r = 0 := by
  induction n with
  | zero => rfl
  | succ n ih => exact shift_eq_zero_iff.trans ih

/-- A single bit clears the register only where nothing but the last place is set. -/
theorem exists_of_foldl_eq_zero {flipped : List Bool} {r : UInt16} (one : flipped.count true = 1)
    (gone : flipped.foldl absorbBit r = 0) :
    ∃ n < flipped.length, Nat.repeat shift n r = 1 := by
  induction flipped generalizing r with
  | nil => cases one
  | cons bit flipped ih =>
    cases bit
    · obtain ⟨n, before, met⟩ := ih (by simpa using one) gone
      refine ⟨n + 1, Nat.succ_lt_succ before, ?_⟩
      simpa [← repeat_shift_shift] using met
    · have others : flipped.count true = 0 := by simpa using one
      refine ⟨0, Nat.zero_lt_succ _, ?_⟩
      rw [List.foldl_cons, foldl_absorbBit_of_clear others, repeat_shift_eq_zero] at gone
      exact UInt16.xor_eq_zero_iff.mp (shift_eq_zero_iff.mp gone)

/-- Whether the last place alone is set at some point of so many shifts. -/
def comesRound : Nat → UInt16 → Bool
  | 0, _ => false
  | n + 1, r => r == 1 || comesRound n (shift r)

theorem repeat_shift_ne_one_of_comesRound {n : Nat} {r : UInt16} (never : comesRound n r = false)
    {i : Nat} (early : i < n) : Nat.repeat shift i r ≠ 1 := by
  induction n generalizing i r with
  | zero => exact absurd early (Nat.not_lt_zero i)
  | succ n ih =>
    simp only [comesRound, Bool.or_eq_false_iff, beq_eq_false_iff_ne] at never
    cases i with
    | zero => exact never.1
    | succ i =>
      rw [← repeat_shift_shift]
      exact ih never.2 (Nat.lt_of_succ_lt_succ early)

/-- The register takes more shifts to come round than the longest frame has bits. -/
theorem comesRound_shift_one : comesRound (8 * maxLength) (shift 1) = false := by
  decide +kernel -- one shift after the other, some four thousand

theorem syndrome_ne_zero_of_two {flipped : List Bool} (two : flipped.count true = 2)
    (short : flipped.length ≤ 8 * maxLength) : syndrome flipped ≠ 0 := by
  induction flipped with
  | nil => cases two
  | cons bit flipped ih =>
    cases bit
    · exact ih (by simpa using two) (Nat.le_of_succ_le short)
    · intro gone
      have one : flipped.count true = 1 := by simpa using two
      have left : flipped.foldl absorbBit (shift 1) = 0 := gone
      obtain ⟨n, before, met⟩ := exists_of_foldl_eq_zero one left
      exact repeat_shift_ne_one_of_comesRound comesRound_shift_one
        (Nat.lt_of_lt_of_le before (Nat.le_of_succ_le short)) met

theorem eq_of_zipWith_xor {e f : List Bool} (length : e.length = f.length)
    (none : (List.zipWith xor e f).count true = 0) : e = f := by
  induction e generalizing f with
  | nil => exact (List.length_eq_zero_iff.mp length.symm).symm
  | cons a e ih =>
    match f with
    | b :: f =>
      simp only [List.zipWith_cons_cons, List.count_cons, Nat.add_eq_zero_iff] at none
      obtain rfl : a = b := by
        cases a <;> cases b <;> simp at none <;> rfl
      exact congrArg (a :: ·) (ih (Nat.succ.inj length) none.1)

theorem octetBits_inj {a b : UInt8} : octetBits a = octetBits b ↔ a = b := by
  refine ⟨fun same => ?_, congrArg octetBits⟩
  apply UInt8.toBitVec_inj.mp
  apply BitVec.eq_of_getLsbD_eq
  intro i small
  exact List.map_inj_left.mp same i (List.mem_range.mpr small)

theorem eq_of_bits {frame other : Bytes} (same : bits frame = bits other) : frame = other := by
  have filled {b : UInt8} {bs : Bytes} : bits (b :: bs) ≠ [] := by
    apply List.ne_nil_of_length_pos
    simp
  induction frame generalizing other with
  | nil =>
    cases other with
    | nil => rfl
    | cons => exact absurd same.symm filled
  | cons b frame ih =>
    cases other with
    | nil => exact absurd same filled
    | cons c other =>
      rw [bits_cons, bits_cons] at same
      obtain ⟨first, rest⟩ := List.append_inj same (by simp)
      rw [octetBits_inj.mp first, ih rest]

end Bits

/-- Frames of one length that differ in no more than three bits leave the register different. -/
theorem eq_of_few {frame other : Bytes} {r : UInt16} (fits : frame.length ≤ maxLength)
    (length : other.length = frame.length) (few : (flips frame other).count true ≤ 3)
    (same : other.foldl absorb r = frame.foldl absorb r) : other = frame := by
  have gone : syndrome (flips frame other) = 0 := by
    rw [syndrome_flips length r, same, UInt16.xor_self]
  have short : (flips frame other).length ≤ 8 * maxLength := by
    simp [flips, length]
    omega
  by_cases odd : (flips frame other).count true % 2 = 1
  · exact absurd gone (syndrome_ne_zero_of_odd odd)
  · by_cases two : (flips frame other).count true = 2
    · exact absurd gone (syndrome_ne_zero_of_two two short)
    · have none : (flips frame other).count true = 0 := by omega
      exact (eq_of_bits (eq_of_zipWith_xor (by simp [length]) none)).symm

end SolarTelemetry.Frame

namespace SolarTelemetry.FrameFormat

open SolarTelemetry.Frame

variable {format : FrameFormat} {frame other payload : Bytes}

theorem verify_of_register_ne (length : 6 ≤ other.length) (fits : other.length ≤ maxLength)
    (spoilt : register other ≠ residue) : format.verify other = .error .checksumMismatch := by
  rw [verify, if_neg (Nat.not_lt.mpr length), if_neg (Nat.not_lt.mpr fits), if_pos spoilt]

theorem register_of_verify (intact : format.verify frame = .ok payload) :
    6 ≤ frame.length ∧ frame.length ≤ maxLength ∧ register frame = residue := by
  unfold verify at intact
  split at intact
  · cases intact
  · next long =>
    split at intact
    · cases intact
    · next fits =>
      split at intact
      · cases intact
      · next sound =>
        exact ⟨Nat.not_lt.mp long, Nat.not_lt.mp fits, Decidable.of_not_not sound⟩

/-- Up to three flipped bits anywhere in an intact frame, and whatever happens within two
neighbouring octets of it, are found by the check sequence. -/
theorem verify_corrupted (intact : format.verify frame = .ok payload)
    (length : other.length = frame.length) (different : other ≠ frame)
    (slight : (flips frame other).count true ≤ 3 ∨
      ∃ i, ∀ j, j ≠ i → j ≠ i + 1 → other[j]? = frame[j]?) :
    format.verify other = .error .checksumMismatch := by
  obtain ⟨long, fits, sound⟩ := register_of_verify intact
  apply verify_of_register_ne (length ▸ long) (length ▸ fits)
  intro same
  have alike : register other = register frame := same.trans sound.symm
  apply different
  rcases slight with few | ⟨i, near⟩
  · exact eq_of_few fits length few alike
  · exact eq_of_near length near alike

/-- Three bits that are far apart, and two octets that are replaced. -/
theorem verify_corrupted_apart_and_near :
    let frame : Bytes := [0xFF, 0x03, 0x60, 0x65, 0x01, 0xC9, 0x10]
    verify {} frame = .ok [0x01] ∧
      verify {} [0xFE, 0x03, 0x60, 0x65, 0x81, 0xC9, 0x00] = .error .checksumMismatch ∧
      verify {} ((frame.set 4 0xAA).set 5 0x55) = .error .checksumMismatch := by
  intro frame
  have assembled : assemble {} [0x01] = frame := by decide +kernel
  have intact : verify {} frame = .ok [0x01] := by
    rw [← assembled]
    exact verify_assemble {} (by decide)
  refine ⟨intact, ?_, ?_⟩
  · exact verify_corrupted intact rfl (by decide) (.inl (by decide))
  · refine verify_corrupted intact rfl (by decide) (.inr ⟨4, fun j first second => ?_⟩)
    rw [List.getElem?_set_ne (Ne.symm second), List.getElem?_set_ne (Ne.symm first)]

end SolarTelemetry.FrameFormat
