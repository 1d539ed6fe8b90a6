import SolarTelemetry.Proofs.Frame.Runs

/-!
# The form of stuffed octets

Stuffed octets can be told by their form: no reserved octet stands among them but the escape byte,
and that only in front of a reserved octet whose bit is flipped. Stuffing and taking back are
inverse to each other on this form. Other octets are taken back as well, two for one at most, unless
the last of them is an escape byte with nothing to escape.
-/

namespace SolarTelemetry.Frame

/-- The control characters that are escaped. Bit `n` stands for the octet `n`. -/
def escapedControls : UInt32 := 0x000E0000

def needsEscape (b : UInt8) : Bool :=
  if b = escape ∨ b = sync then true
  else if b < 0x20 then escapedControls &&& (1 <<< b.toUInt32) ≠ 0
  else false

theorem needsEscape_eq (b : UInt8) : needsEscape b = isReserved b := by
  obtain ⟨⟨b⟩⟩ := b
  revert b
  decide +kernel

theorem stuff_eq_flatMap (raw : Bytes) :
    stuff raw = raw.flatMap fun b => if needsEscape b then [escape, flip b] else [b] := by
  induction raw with
  | nil => rfl
  | cons b raw ih =>
    rw [List.flatMap_cons, ← ih, needsEscape_eq, stuff]
    by_cases reserved : isReserved b
    · rw [if_pos reserved, if_pos reserved]
      rfl
    · rw [if_neg reserved, if_neg reserved]
      rfl

/-- What may stand after an escape byte. -/
def codes : List UInt8 := [0x5E, 0x5D, 0x31, 0x32, 0x33]

/-- The form of stuffed octets: none of the reserved ones but the escape byte, and none of these
without its code. -/
structure IsStuffed (stuffed : Bytes) : Prop where
  free : ∀ b ∈ [0x7E, 0x11, 0x12, 0x13], b ∉ stuffed
  coded : ∀ i : Nat, stuffed[i]? = some 0x7D → ∃ code ∈ codes, stuffed[i + 1]? = some code

section

variable {b code : UInt8} {stuffed raw : Bytes}

theorem mem_codes_iff : code ∈ codes ↔ isReserved (flip code) := by
  obtain ⟨⟨code⟩⟩ := code
  revert code
  decide +kernel

theorem isReserved_iff_escape_or_mem :
    isReserved b ↔ b = escape ∨ b ∈ [0x7E, 0x11, 0x12, 0x13] :=
  isReserved_iff.trans List.mem_cons

theorem isStuffed_nil : IsStuffed [] := ⟨by simp, by simp⟩

/-- An octet that is not reserved may stand anywhere but after an escape byte. -/
theorem isStuffed_cons_iff (literal : b ≠ escape) :
    IsStuffed (b :: stuffed) ↔ ¬isReserved b ∧ IsStuffed stuffed := by
  constructor
  · intro form
    refine ⟨?_, ?_, ?_⟩
    · intro reserved
      rcases isReserved_iff_escape_or_mem.mp reserved with same | member
      · exact literal same
      · exact form.free b member List.mem_cons_self
    · intro c member inside
      exact form.free c member (List.mem_cons_of_mem b inside)
    · intro i stands
      exact form.coded (i + 1) stands
  · rintro ⟨plain, form⟩
    refine ⟨?_, ?_⟩
    · intro c member inside
      rcases List.mem_cons.mp inside with rfl | inside
      · exact plain (isReserved_iff_escape_or_mem.mpr (.inr member))
      · exact form.free c member inside
    · intro i stands
      cases i with
      | zero => exact absurd (Option.some.inj stands) literal
      | succ i => exact form.coded i stands

/-- An escape byte and its code may stand anywhere. -/
theorem isStuffed_pair_iff :
    IsStuffed (escape :: code :: stuffed) ↔ code ∈ codes ∧ IsStuffed stuffed := by
  have plain : ∀ code ∈ codes, code ≠ escape ∧ ¬isReserved code := by decide +kernel
  constructor
  · intro form
    obtain ⟨found, member, stands⟩ := form.coded 0 rfl
    obtain rfl : code = found := Option.some.inj stands
    refine ⟨member, ?_, ?_⟩
    · intro c reserved inside
      exact form.free c reserved (List.mem_cons_of_mem _ (List.mem_cons_of_mem _ inside))
    · intro i stands
      exact form.coded (i + 2) stands
  · rintro ⟨member, form⟩
    obtain ⟨literal, unreserved⟩ := plain code member
    have rest : IsStuffed (code :: stuffed) := (isStuffed_cons_iff literal).mpr ⟨unreserved, form⟩
    refine ⟨?_, ?_⟩
    · intro c reserved inside
      rcases List.mem_cons.mp inside with rfl | inside
      · exact absurd reserved (by decide)
      · exact rest.free c reserved inside
    · intro i stands
      cases i with
      | zero => exact ⟨code, member, rfl⟩
      | succ i => exact rest.coded i stands

theorem isStuffed_stuff (raw : Bytes) : IsStuffed (stuff raw) := by
  induction raw with
  | nil => exact isStuffed_nil
  | cons b raw ih =>
    by_cases reserved : isReserved b
    · rw [stuff, if_pos reserved]
      have code : flip b ∈ codes := by rwa [mem_codes_iff, flip_flip]
      exact isStuffed_pair_iff.mpr ⟨code, ih⟩
    · have literal : b ≠ escape := by
        rintro rfl
        exact reserved rfl
      rw [stuff, if_neg reserved]
      exact (isStuffed_cons_iff literal).mpr ⟨reserved, ih⟩

/-- What has the form of stuffed octets is what its content is stuffed to. -/
theorem stuff_of_unstuff? (form : IsStuffed stuffed) (undone : unstuff? stuffed = some raw) :
    stuff raw = stuffed := by
  fun_induction unstuff? stuffed generalizing raw with
  | case1 =>
    cases undone
    rfl
  | case2 => cases undone
  | case3 b literal =>
    cases undone
    have plain := ((isStuffed_cons_iff literal).mp form).1
    rw [stuff, if_neg plain, stuff]
  | case4 code stuffed ih =>
    obtain ⟨rest, back, rfl⟩ := Option.map_eq_some_iff.mp undone
    obtain ⟨member, form⟩ := isStuffed_pair_iff.mp form
    rw [stuff, if_pos (mem_codes_iff.mp member), flip_flip, ih form back]
  | case5 b next stuffed literal ih =>
    obtain ⟨rest, back, rfl⟩ := Option.map_eq_some_iff.mp undone
    obtain ⟨plain, form⟩ := (isStuffed_cons_iff literal).mp form
    rw [stuff, if_neg plain, ih form back]

end

/-! ## Octets of any form -/

/-- Octets that fall into single ones and pairs, an escape byte and any octet after it. -/
inductive Paired : Bytes → Prop where
  | nil : Paired []
  | single {b : UInt8} {bs : Bytes} (literal : b ≠ escape) (rest : Paired bs) : Paired (b :: bs)
  | pair {b : UInt8} {bs : Bytes} (rest : Paired bs) : Paired (escape :: b :: bs)

/-- The last octet is an escape byte that belongs to no pair. -/
def EndsUnpaired (bs : Bytes) : Prop := ∃ before, Paired before ∧ bs = before ++ [escape]

section

variable {b : UInt8} {bs : Bytes}

theorem endsUnpaired_singleton : EndsUnpaired [b] ↔ b = escape := by
  constructor
  · rintro ⟨before, -, split⟩
    cases before with
    | nil => exact (List.cons.inj split).1
    | cons c before => simp at split
  · rintro rfl
    exact ⟨[], .nil, rfl⟩

theorem endsUnpaired_cons (literal : b ≠ escape) : EndsUnpaired (b :: bs) ↔ EndsUnpaired bs := by
  constructor
  · rintro ⟨before, paired, split⟩
    cases paired with
    | nil => exact absurd (List.cons.inj split).1 literal
    | single _ rest => exact ⟨_, rest, (List.cons.inj split).2⟩
    | pair rest => exact absurd (List.cons.inj split).1 literal
  · rintro ⟨before, paired, rfl⟩
    exact ⟨b :: before, .single literal paired, rfl⟩

theorem endsUnpaired_pair : EndsUnpaired (escape :: b :: bs) ↔ EndsUnpaired bs := by
  constructor
  · rintro ⟨before, paired, split⟩
    cases paired with
    | nil => cases split
    | single literal _ => exact absurd (List.cons.inj split).1.symm literal
    | pair rest => exact ⟨_, rest, (List.cons.inj (List.cons.inj split).2).2⟩
  · rintro ⟨before, paired, rfl⟩
    exact ⟨escape :: b :: before, .pair paired, rfl⟩

theorem unstuff?_eq_none_iff (bs : Bytes) : unstuff? bs = none ↔ EndsUnpaired bs := by
  fun_induction unstuff? bs with
  | case1 =>
    refine iff_of_false (Option.some_ne_none _) ?_
    rintro ⟨before, -, split⟩
    simp at split
  | case2 => exact iff_of_true rfl (endsUnpaired_singleton.mpr rfl)
  | case3 b literal =>
    refine iff_of_false (Option.some_ne_none _) ?_
    rwa [endsUnpaired_singleton]
  | case4 code bs ih => rw [Option.map_eq_none_iff, ih, endsUnpaired_pair]
  | case5 b next bs literal ih => rw [Option.map_eq_none_iff, ih, endsUnpaired_cons literal]

/-- How many escape bytes stand at the end. -/
def escapesAtEnd (bs : Bytes) : Nat := (bs.reverse.takeWhile (· == escape)).length

theorem escapesAtEnd_cons (literal : b ≠ escape) : escapesAtEnd (b :: bs) = escapesAtEnd bs := by
  have alone : [b].takeWhile (· == escape) = [] := by simp [literal]
  rw [escapesAtEnd, escapesAtEnd, List.reverse_cons, List.takeWhile_append, alone]
  split
  · next all => rw [List.append_nil, all]
  · rfl

theorem escapesAtEnd_pair : escapesAtEnd (escape :: b :: bs) % 2 = escapesAtEnd bs % 2 := by
  have two : ([b, escape].takeWhile (· == escape)).length % 2 = 0 := by
    by_cases literal : b = escape <;> simp [literal]
  rw [escapesAtEnd, escapesAtEnd, List.reverse_cons, List.reverse_cons, List.append_assoc,
    List.singleton_append, List.takeWhile_append]
  split
  · next all =>
    rw [List.length_append, all]
    omega
  · rfl

/-- Escape bytes escape one another two by two, so one is left over just if those at the end are
odd in number. -/
theorem endsUnpaired_iff_odd (bs : Bytes) : EndsUnpaired bs ↔ escapesAtEnd bs % 2 = 1 := by
  rw [← unstuff?_eq_none_iff]
  fun_induction unstuff? bs with
  | case1 => simp [escapesAtEnd]
  | case2 => simp [escapesAtEnd]
  | case3 b literal => simp [escapesAtEnd, literal]
  | case4 code bs ih => rw [Option.map_eq_none_iff, ih, escapesAtEnd_pair]
  | case5 b next bs literal ih => rw [Option.map_eq_none_iff, ih, escapesAtEnd_cons literal]

end

/-- Stuffed octets have their form and are taken back to what they were. Octets of this form that
are taken back are stuffed to the same again. Taking back fails just where an escape byte is left
over at the end, and else it returns half of the octets or more. -/
theorem stuff_canonical (raw : Bytes) :
    (stuff raw = raw.flatMap fun b => if needsEscape b then [escape, flip b] else [b]) ∧
    IsStuffed (stuff raw) ∧
    unstuff? (stuff raw) = some raw ∧
    (∀ stuffed, IsStuffed stuffed → unstuff? stuffed = some raw → stuffed = stuff raw) ∧
    ∀ bs : Bytes, (unstuff? bs = none ↔ EndsUnpaired bs) ∧
      (EndsUnpaired bs ↔ escapesAtEnd bs % 2 = 1) ∧
      ∀ content, unstuff? bs = some content → bs.length ≤ 2 * content.length := by
  refine ⟨stuff_eq_flatMap raw, isStuffed_stuff raw, unstuff?_stuff raw, ?_, ?_⟩
  · intro stuffed form undone
    exact (stuff_of_unstuff? form undone).symm
  · intro bs
    exact ⟨unstuff?_eq_none_iff bs, endsUnpaired_iff_odd bs,
      fun content => FrameFormat.length_le_of_unstuff?⟩

/-- All reserved octets, the code of one of them among them, and octets that end in three escape
bytes. -/
theorem stuff_canonical_reserved :
    let raw : Bytes := [0x7E, 0x5D, 0x7D, 0x11, 0x12, 0x41, 0x13]
    let stuffed : Bytes :=
      [0x7D, 0x5E, 0x5D, 0x7D, 0x5D, 0x7D, 0x31, 0x7D, 0x32, 0x41, 0x7D, 0x33]
    stuff raw = stuffed ∧ IsStuffed stuffed ∧ unstuff? stuffed = some raw ∧
      (∀ other, IsStuffed other → unstuff? other = some raw → other = stuffed) ∧
      EndsUnpaired [0x41, 0x7D, 0x7D, 0x7D] ∧
      unstuff? [0x7D, 0x7D, 0x7D, 0x20] = some [0x5D, 0x00] := by
  intro raw stuffed
  obtain ⟨-, form, undone, unique, general⟩ := stuff_canonical raw
  refine ⟨rfl, form, undone, unique, ?_, rfl⟩
  exact (general [0x41, 0x7D, 0x7D, 0x7D]).1.mp rfl

end SolarTelemetry.Frame
