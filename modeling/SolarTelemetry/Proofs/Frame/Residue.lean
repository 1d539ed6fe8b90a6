import SolarTelemetry.Frame.Format

/-!
# The residue of an intact frame

Shifting the register is linear in the exclusive or, and an octet of zeros below only moves down.
So whatever a frame holds, its own check sequence takes the register to `residue`, and every frame
that is assembled is verified again.
-/

namespace SolarTelemetry.Frame

theorem low_bit_iff (r : UInt16) : r &&& 1 = 1 ↔ r.toBitVec.getLsbD 0 = true := by
  rw [← UInt16.toBitVec_inj, UInt16.toBitVec_and]
  change r.toBitVec &&& 1#16 = 1#16 ↔ _
  rw [BitVec.and_one_eq_setWidth_ofBool_getLsbD]
  cases r.toBitVec.getLsbD 0 <;> decide

theorem shift_xor (a b : UInt16) : shift (a ^^^ b) = shift a ^^^ shift b := by
  have cancel (x y p : UInt16) : x ^^^ p ^^^ (y ^^^ p) = x ^^^ y := by
    rw [UInt16.xor_comm y p, UInt16.xor_assoc, ← UInt16.xor_assoc p p y, UInt16.xor_self,
      UInt16.zero_xor]
  unfold shift
  simp only [low_bit_iff, UInt16.toBitVec_xor, BitVec.getLsbD_xor, UInt16.shiftRight_xor]
  cases a.toBitVec.getLsbD 0 <;> cases b.toBitVec.getLsbD 0
  · rfl
  · exact UInt16.xor_assoc _ _ _
  · simp only [Bool.true_xor, Bool.not_false, if_true, Bool.false_eq_true, if_false]
    rw [UInt16.xor_assoc, UInt16.xor_comm (b >>> 1), ← UInt16.xor_assoc]
  · exact (cancel _ _ _).symm

/-- The register after eight shifts. -/
def octetShift (r : UInt16) : UInt16 := Nat.repeat shift 8 r

theorem absorb_eq (r : UInt16) (b : UInt8) : absorb r b = octetShift (r ^^^ b.toUInt16) := rfl

theorem repeat_shift_xor (n : Nat) (a b : UInt16) :
    Nat.repeat shift n (a ^^^ b) = Nat.repeat shift n a ^^^ Nat.repeat shift n b := by
  induction n with
  | zero => rfl
  | succ n ih =>
    simp only [Nat.repeat]
    rw [ih, shift_xor]

theorem octetShift_xor (a b : UInt16) : octetShift (a ^^^ b) = octetShift a ^^^ octetShift b :=
  repeat_shift_xor 8 a b

/-- As long as no set bit reaches the end, shifting only moves the register down. -/
theorem repeat_shift_of_clear {n : Nat} {r : UInt16}
    (clear : ∀ i < n, r.toBitVec.getLsbD i = false) :
    (Nat.repeat shift n r).toBitVec = r.toBitVec >>> n := by
  induction n with
  | zero => simp [Nat.repeat]
  | succ n ih =>
    have moved := ih fun i small => clear i (by omega)
    have even : ¬Nat.repeat shift n r &&& 1 = 1 := by
      rw [low_bit_iff, moved]
      simpa using clear n (by omega)
    simp only [Nat.repeat]
    rw [shift, if_neg even, UInt16.toBitVec_shiftRight, moved, BitVec.shiftRight_add]
    rfl

theorem octetShift_high (r : UInt16) : octetShift (r &&& ~~~0xFF) = r >>> 8 := by
  have low : ∀ i < 8, (~~~0xFF#16).getLsbD i = false := by decide
  have high : ∀ i < 8, (~~~0xFF#16).getLsbD (8 + i) = true := by decide
  have clear : ∀ i < 8, (r &&& ~~~0xFF).toBitVec.getLsbD i = false := by
    intro i small
    rw [UInt16.toBitVec_and, BitVec.getLsbD_and]
    exact (congrArg _ (low i small)).trans (Bool.and_false _)
  apply UInt16.toBitVec_inj.mp
  rw [octetShift, repeat_shift_of_clear clear, UInt16.toBitVec_and, UInt16.toBitVec_shiftRight]
  apply BitVec.eq_of_getLsbD_eq
  intro i _
  have kept : (r.toBitVec &&& ~~~0xFF#16).getLsbD (8 + i) = r.toBitVec.getLsbD (8 + i) := by
    rw [BitVec.getLsbD_and]
    by_cases inside : i < 8
    · rw [high i inside, Bool.and_true]
    · rw [BitVec.getLsbD_of_ge r.toBitVec _ (by omega), Bool.false_and]
  simpa using kept

theorem toUInt16_low (w : UInt16) : (UInt8.ofNat w.toNat).toUInt16 = w &&& 0xFF := by
  apply UInt16.toNat_inj.mp
  have mask : w.toNat &&& 0xFF = w.toNat % 2 ^ 8 := Nat.and_two_pow_sub_one_eq_mod _ 8
  simpa using mask.symm

theorem toUInt16_high (w : UInt16) : (UInt8.ofNat (w.toNat / 256)).toUInt16 = w >>> 8 := by
  apply UInt16.toNat_inj.mp
  have fits := w.toNat_lt
  have moved : w.toNat >>> 8 = w.toNat / 2 ^ 8 := Nat.shiftRight_eq_div_pow _ 8
  simp [moved]
  omega

theorem xor_not_and (r m : UInt16) : r ^^^ (~~~r &&& m) = m ^^^ (r &&& ~~~m) := by
  apply UInt16.toBitVec_inj.mp
  ext i small
  simp only [UInt16.toBitVec_xor, UInt16.toBitVec_and, UInt16.toBitVec_not, BitVec.getElem_xor,
    BitVec.getElem_and, BitVec.getElem_not]
  cases r.toBitVec[i] <;> cases m.toBitVec[i] <;> rfl

/-- The complement of a register, absorbed low octet first, leaves the same residue behind whatever
the register was. -/
theorem absorb_complement (r : UInt16) :
    (Bytes.ofWord16 (~~~r)).foldl absorb r = residue := by
  have low : absorb r (UInt8.ofNat (~~~r).toNat) = octetShift 0xFF ^^^ (r >>> 8) := by
    rw [absorb_eq, toUInt16_low, xor_not_and, octetShift_xor, octetShift_high]
  have high : r >>> 8 ^^^ (~~~r) >>> 8 = 0xFF := by
    rw [← UInt16.shiftRight_xor, UInt16.xor_not, UInt16.xor_self]
    rfl
  change absorb (absorb r (UInt8.ofNat (~~~r).toNat)) (UInt8.ofNat ((~~~r).toNat / 256)) = residue
  rw [low, absorb_eq, toUInt16_high, UInt16.xor_assoc, high]
  decide +kernel

theorem register_append (bs more : Bytes) :
    register (bs ++ more) = more.foldl absorb (register bs) :=
  List.foldl_append

theorem register_append_checksum (bs : Bytes) :
    register (bs ++ Bytes.ofWord16 (checksum bs)) = residue := by
  rw [register_append, checksum]
  exact absorb_complement _

theorem length_stuff (bs : Bytes) :
    (stuff bs).length = bs.length + bs.countP isReserved := by
  induction bs with
  | nil => rfl
  | cons b bs ih =>
    by_cases reserved : isReserved b
    · simp only [stuff, if_pos reserved, List.length_cons, ih, List.countP_cons_of_pos reserved]
      omega
    · simp only [stuff, if_neg reserved, List.length_cons, ih, List.countP_cons_of_neg reserved]
      omega

end SolarTelemetry.Frame

namespace SolarTelemetry.FrameFormat

open SolarTelemetry.Frame

variable (format : FrameFormat)

@[simp] theorem length_header : format.header.length = 4 := by
  simp [header, Bytes.ofWord16]

theorem length_assemble (payload : Bytes) :
    (format.assemble payload).length = payload.length + 6 := by
  simp only [assemble, List.length_append, length_header, Bytes.ofWord16,
    LittleEndian.length_encode]
  omega

theorem register_assemble (payload : Bytes) : register (format.assemble payload) = residue :=
  register_append_checksum _

theorem verify_assemble {payload : Bytes} (short : payload.length ≤ maxPayload) :
    format.verify (format.assemble payload) = .ok payload := by
  have length := format.length_assemble payload
  have long : ¬(format.assemble payload).length < 6 := by omega
  have fits : ¬maxLength < (format.assemble payload).length := by
    have : maxPayload + 6 = maxLength := rfl
    omega
  have opening : (format.assemble payload).take 4 = format.header := by
    rw [assemble, List.append_assoc, List.take_left' format.length_header]
  have inner : ((format.assemble payload).drop 4).take payload.length = payload := by
    rw [assemble, List.append_assoc, List.drop_left' format.length_header, List.take_left]
  rw [verify, if_neg long, if_neg fits, if_neg (not_not_intro (format.register_assemble payload)),
    if_neg (not_not_intro opening), length, Nat.add_sub_cancel, inner]

theorem unwrap_stuff_assemble {payload : Bytes} (short : payload.length ≤ maxPayload) :
    format.unwrap (stuff (format.assemble payload)) = .ok payload := by
  rw [unwrap, unstuff?_stuff]
  exact format.verify_assemble short

theorem encode_of_le {payload : Bytes} (short : payload.length ≤ maxPayload) :
    format.encode payload = .ok (sync :: (stuff (format.assemble payload) ++ [sync])) := by
  rw [encode, if_neg (Nat.not_lt.mpr short)]
  rfl

theorem encode_eq_ok_iff {payload frame : Bytes} :
    format.encode payload = .ok frame ↔
      payload.length ≤ maxPayload ∧ frame = sync :: (stuff (format.assemble payload) ++ [sync]) := by
  by_cases short : payload.length ≤ maxPayload
  · rw [format.encode_of_le short, Except.ok.injEq]
    exact ⟨fun same => ⟨short, same.symm⟩, fun same => same.2.symm⟩
  · rw [encode, if_pos (Nat.lt_of_not_le short)]
    constructor
    · intro impossible
      cases impossible
    · intro claimed
      exact absurd claimed.1 short

end SolarTelemetry.FrameFormat
