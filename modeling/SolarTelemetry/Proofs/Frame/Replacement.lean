import SolarTelemetry.Proofs.Frame.Canonical

/-!
# One octet replaced on the wire

Every octet between the sync bytes of a frame, unless it is an escape byte, stands for one octet
before stuffing: for itself, or for what it is flipped to after an escape byte. Another octet in its
place, if it neither closes the frame nor escapes what follows, leaves all others where they are. So
what is taken back has its length and differs in one octet, which the check sequence finds.
-/

namespace SolarTelemetry

namespace Frame

variable {raw : Bytes} {i : Nat} {old new : UInt8}

/-- Another octet on the wire is another octet at one place of the frame. -/
theorem exists_unstuff?_set (stands : (stuff raw)[i]? = some old) (literal : old ≠ escape)
    (plain : new ≠ escape) (differs : new ≠ old) :
    ∃ j octet, j < raw.length ∧ raw[j]? ≠ some octet ∧
      unstuff? ((stuff raw).set i new) = some (raw.set j octet) := by
  induction raw generalizing i with
  | nil => cases stands
  | cons b raw ih =>
    by_cases reserved : isReserved b
    · rw [stuff, if_pos reserved] at stands ⊢
      cases i with
      | zero => exact absurd (Option.some.inj stands).symm literal
      | succ i =>
        cases i with
        | zero =>
          have flipped : flip b = old := Option.some.inj stands
          have other : b ≠ flip new := by
            rintro rfl
            rw [flip_flip] at flipped
            exact differs flipped
          refine ⟨0, flip new, Nat.zero_lt_succ _, by simpa using other, ?_⟩
          simp [unstuff?, unstuff?_stuff]
        | succ i =>
          obtain ⟨j, octet, inside, other, undone⟩ := ih stands
          refine ⟨j + 1, octet, Nat.succ_lt_succ inside, other, ?_⟩
          simp [unstuff?, undone, flip_flip]
    · rw [stuff, if_neg reserved] at stands ⊢
      have unescaped : b ≠ escape := by
        rintro rfl
        exact reserved rfl
      cases i with
      | zero =>
        have same : b = old := Option.some.inj stands
        refine ⟨0, new, Nat.zero_lt_succ _, by simpa [same] using Ne.symm differs, ?_⟩
        rw [List.set_cons_zero, List.set_cons_zero, unstuff?_cons_of_ne plain, unstuff?_stuff]
        rfl
      | succ i =>
        obtain ⟨j, octet, inside, other, undone⟩ := ih stands
        refine ⟨j + 1, octet, Nat.succ_lt_succ inside, other, ?_⟩
        rw [List.set_cons_succ, List.set_cons_succ, unstuff?_cons_of_ne unescaped, undone]
        rfl

end Frame

open SolarTelemetry.Frame

namespace FrameFormat

variable (format : FrameFormat)

/-- The check sequence finds any one octet that is replaced. -/
theorem verify_set_assemble {payload : Bytes} (short : payload.length ≤ maxPayload) {j : Nat}
    {octet : UInt8} (inside : j < (format.assemble payload).length)
    (other : (format.assemble payload)[j]? ≠ some octet) :
    format.verify ((format.assemble payload).set j octet) = .error .checksumMismatch := by
  have length : ((format.assemble payload).set j octet).length = payload.length + 6 := by
    rw [List.length_set, format.length_assemble]
  apply verify_of_register_ne
  · omega
  · have : maxPayload + 6 = maxLength := rfl
    omega
  · intro same
    have alike := same.trans (format.register_assemble payload).symm
    have whole : (format.assemble payload).set j octet = format.assemble payload := by
      refine eq_of_near (i := j) List.length_set (fun k away _ => ?_) alike
      exact List.getElem?_set_ne (Ne.symm away)
    apply other
    rw [← whole, List.getElem?_set_self inside]

/-- A frame in which one octet is replaced on the way. The opening and the closing sync byte and the
escape bytes are left as they are, and the new octet is neither of the two. Then the frame is read
to its end and is found to be damaged. -/
theorem decode_set_eq_checksumMismatch {payload : Bytes} (short : payload.length ≤ 521) :
    ∃ frame, format.encode payload = .ok frame ∧
      ∀ i old new, 0 < i → i + 1 < frame.length → frame[i]? = some old → old ≠ escape →
        new ≠ old → new ≠ sync → new ≠ escape →
          format.decode (frame.set i new) = (some (.error .checksumMismatch), [sync]) := by
  refine ⟨_, format.encode_of_le short, ?_⟩
  intro i old new afterOpening beforeClosing stands literal differs silent plain
  cases i with
  | zero => exact absurd afterOpening (Nat.lt_irrefl 0)
  | succ i =>
    have inner : i < (stuff (format.assemble payload)).length := by
      simp only [List.length_cons, List.length_append, List.length_nil] at beforeClosing
      omega
    rw [List.getElem?_cons_succ, List.getElem?_append_left inner] at stands
    obtain ⟨j, octet, inside, other, undone⟩ := exists_unstuff?_set stands literal plain differs
    have free : sync ∉ (stuff (format.assemble payload)).set i new := by
      intro member
      rcases List.mem_or_eq_of_mem_set member with kept | placed
      · exact sync_notMem_stuff _ kept
      · exact silent placed.symm
    have full : (stuff (format.assemble payload)).set i new ≠ [] := by
      apply List.ne_nil_of_length_pos
      rw [List.length_set]
      exact Nat.zero_lt_of_lt inner
    rw [List.set_cons_succ, List.set_append_left _ _ inner, decode_enclosed free full, unwrap,
      undone]
    simp only [format.verify_set_assemble short inside other]

/-- The second octet of an escape pair and a literal one of the check sequence. -/
theorem decode_set_eq_checksumMismatch_escaped :
    let frame : Bytes :=
      [0x7E, 0xFF, 0x03, 0x60, 0x65, 0x01, 0x7D, 0x5E, 0x7D, 0x31, 0x20, 0x51, 0xF8, 0x7E]
    ({} : FrameFormat).encode [0x01, 0x7E, 0x11, 0x20] = .ok frame ∧
      ({} : FrameFormat).decode (frame.set 7 0x5F) = (some (.error .checksumMismatch), [sync]) ∧
      ({} : FrameFormat).decode (frame.set 11 0x11) =
        (some (.error .checksumMismatch), [sync]) := by
  intro frame
  have short : ([0x01, 0x7E, 0x11, 0x20] : Bytes).length ≤ 521 := by decide
  have known : ({} : FrameFormat).encode [0x01, 0x7E, 0x11, 0x20] = .ok frame := by decide +kernel
  obtain ⟨other, encoded, damaged⟩ := decode_set_eq_checksumMismatch {} short
  obtain rfl : frame = other := Except.ok.inj (known.symm.trans encoded)
  refine ⟨known, ?_, ?_⟩
  · exact damaged 7 0x5E 0x5F (by decide) (by decide) rfl (by decide) (by decide) (by decide)
      (by decide)
  · exact damaged 11 0x51 0x11 (by decide) (by decide) rfl (by decide) (by decide) (by decide)
      (by decide)

end FrameFormat

end SolarTelemetry
