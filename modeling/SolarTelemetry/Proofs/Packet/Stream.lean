import SolarTelemetry.Packet

/-!
# Packets on a byte stream

A packet that comes off a buffer fills the octets in front of the rest, and a fault is one of the
header. Neither depends on what follows, so a buffer can be drained in pieces: the packets of the
first piece, and then those of what it left together with the next. Packets that were written one
after the other come out as they were.
-/

namespace SolarTelemetry.Packet

/-- The octets of a packet that is not too long. -/
def layout (p : Packet) : Bytes :=
  let size := UInt8.ofNat (headerLength + p.payload.length)
  [startOctet, size, 0, startOctet ^^^ size ^^^ 0] ++
    (p.source.wire ++ (p.destination.wire ++ ([p.code, 0] ++ p.payload)))

theorem encode_of_le {p : Packet} (fits : p.payload.length ≤ maxPayload) :
    p.encode = .ok p.layout := by
  have short : ¬maxLength < headerLength + p.payload.length := by
    have : maxPayload + headerLength = maxLength := rfl
    omega
  unfold encode layout
  simp only [if_neg short, List.append_assoc]

theorem length_layout (p : Packet) : p.layout.length = headerLength + p.payload.length := by
  simp only [layout, List.length_append, List.length_cons, List.length_nil, Address.length_wire,
    headerLength]
  omega

theorem ofWire?_layout (p : Packet) : ofWire? p.layout = some p := by
  have source : (p.layout.drop 4).take 6 = p.source.wire := by
    change (p.source.wire ++ _).take 6 = _
    exact List.take_left' p.source.length_wire
  have destination : (p.layout.drop 10).take 6 = p.destination.wire := by
    change ((p.source.wire ++ _).drop 6).take 6 = _
    rw [List.drop_left' p.source.length_wire]
    exact List.take_left' p.destination.length_wire
  have rest : p.layout.drop 16 = [p.code, 0] ++ p.payload := by
    change (p.source.wire ++ _).drop (6 + 6) = _
    rw [← List.drop_drop, List.drop_left' p.source.length_wire,
      List.drop_left' p.destination.length_wire]
  have code : p.layout[16]? = some p.code := by
    have first := congrArg List.head? rest
    rwa [List.head?_drop] at first
  have payload : p.layout.drop headerLength = p.payload := by
    change p.layout.drop (16 + 2) = _
    rw [← List.drop_drop, rest]
    rfl
  simp only [ofWire?, source, destination, code, payload, Address.ofWire?_wire]
  rfl

section

variable {buffer rest : Bytes} {p : Packet} {start length zero guard : UInt8} {tail : Bytes}

theorem headerFault?_eq_none_iff :
    headerFault? start length zero guard = none ↔
      start = startOctet ∧ guard = start ^^^ length ^^^ zero ∧ headerLength ≤ length.toNat := by
  unfold headerFault?
  constructor
  · intro sound
    split at sound
    · cases sound
    · split at sound
      · cases sound
      · split at sound
        · cases sound
        · next starts guards long =>
          exact ⟨Decidable.of_not_not starts, Decidable.of_not_not guards, Nat.not_lt.mp long⟩
  · rintro ⟨starts, guards, long⟩
    simp [starts, guards, Nat.not_lt.mpr long]

theorem decode_of_sound (sound : headerFault? start length zero guard = none)
    (whole : length.toNat ≤ (start :: length :: zero :: guard :: tail).length) :
    decode (start :: length :: zero :: guard :: tail) =
      .ok ((ofWire? ((start :: length :: zero :: guard :: tail).take length.toNat)).map
        (·, (start :: length :: zero :: guard :: tail).drop length.toNat)) := by
  simp only [decode, sound, if_neg (Nat.not_lt.mpr whole)]

/-- Octets that are as many as their header says are one packet, whatever follows. -/
theorem decode_of_whole (sound : headerFault? start length zero guard = none)
    (size : (start :: length :: zero :: guard :: tail).length = length.toNat)
    (read : ofWire? (start :: length :: zero :: guard :: tail) = some p) (rest : Bytes) :
    decode (start :: length :: zero :: guard :: tail ++ rest) = .ok (some (p, rest)) := by
  have whole : length.toNat ≤ (start :: length :: zero :: guard :: (tail ++ rest)).length := by
    simp only [List.length_cons, List.length_append] at size ⊢
    omega
  refine (decode_of_sound sound whole).trans ?_
  rw [← List.cons_append, ← List.cons_append, ← List.cons_append, ← List.cons_append, ← size,
    List.take_left, List.drop_left, read]
  rfl

/-- A packet that comes off a buffer fills the octets in front of the rest. -/
theorem exists_of_decode (decoded : decode buffer = .ok (some (p, rest))) :
    ∃ start length zero guard tail,
      buffer = start :: length :: zero :: guard :: tail ++ rest ∧
      headerFault? start length zero guard = none ∧
      (start :: length :: zero :: guard :: tail).length = length.toNat ∧
      ofWire? (start :: length :: zero :: guard :: tail) = some p := by
  unfold decode at decoded
  split at decoded
  · next start length zero guard tail =>
    cases sound : headerFault? start length zero guard with
    | some fault => simp [sound] at decoded
    | none =>
      simp only [sound] at decoded
      split at decoded
      · cases decoded
      · next within =>
        simp only [Except.ok.injEq, Option.map_eq_some_iff, Prod.mk.injEq] at decoded
        obtain ⟨q, read, rfl, rfl⟩ := decoded
        obtain ⟨n, count⟩ := Nat.exists_eq_add_of_le
          (Nat.le_trans (by decide : 4 ≤ headerLength) (headerFault?_eq_none_iff.mp sound).2.2)
        have opening : (start :: length :: zero :: guard :: tail).take length.toNat =
            start :: length :: zero :: guard :: tail.take n := by
          rw [count, Nat.add_comm]
          simp
        refine ⟨start, length, zero, guard, tail.take n, ?_, sound, ?_, opening ▸ read⟩
        · rw [← opening, List.take_append_drop]
        · rw [← opening, List.length_take, Nat.min_eq_left (Nat.not_lt.mp within)]
  · cases decoded

/-- The octets of a packet are that packet by themselves, too. -/
theorem exists_raw_of_decode (decoded : decode buffer = .ok (some (p, rest))) :
    ∃ raw, buffer = raw ++ rest ∧ decode raw = .ok (some (p, [])) := by
  obtain ⟨start, length, zero, guard, tail, front, sound, size, read⟩ := exists_of_decode decoded
  refine ⟨_, front, ?_⟩
  have alone := decode_of_whole sound size read []
  rwa [List.append_nil] at alone

/-- A packet that is whole is not changed by what follows. -/
theorem decode_append (decoded : decode buffer = .ok (some (p, rest))) (more : Bytes) :
    decode (buffer ++ more) = .ok (some (p, rest ++ more)) := by
  obtain ⟨start, length, zero, guard, tail, rfl, sound, size, read⟩ := exists_of_decode decoded
  rw [List.append_assoc]
  exact decode_of_whole sound size read (rest ++ more)

theorem decode_layout_append (fits : p.payload.length ≤ maxPayload) (rest : Bytes) :
    decode (p.layout ++ rest) = .ok (some (p, rest)) := by
  have small : headerLength + p.payload.length < 2 ^ 8 := by
    have : maxPayload + headerLength = 255 := rfl
    omega
  have size : p.layout.length = (UInt8.ofNat (headerLength + p.payload.length)).toNat := by
    rw [length_layout, UInt8.toNat_ofNat', Nat.mod_eq_of_lt small]
  have long : headerLength ≤ (UInt8.ofNat (headerLength + p.payload.length)).toNat := by
    rw [← size, length_layout]
    omega
  exact decode_of_whole (headerFault?_eq_none_iff.mpr ⟨rfl, rfl, long⟩) size p.ofWire?_layout rest

/-- Decoding fails with the header, and with nothing else. -/
theorem exists_of_decode_error {fault : LinkError} (decoded : decode buffer = .error fault) :
    ∃ start length zero guard tail, buffer = start :: length :: zero :: guard :: tail ∧
      headerFault? start length zero guard = some fault := by
  unfold decode at decoded
  split at decoded
  · next start length zero guard tail =>
    refine ⟨start, length, zero, guard, tail, rfl, ?_⟩
    split at decoded
    · next bad =>
      cases decoded
      exact bad
    · split at decoded <;> cases decoded
  · cases decoded

/-- A bad header is bad whatever follows. -/
theorem decode_append_of_error {fault : LinkError} (decoded : decode buffer = .error fault)
    (more : Bytes) : decode (buffer ++ more) = .error fault := by
  obtain ⟨start, length, zero, guard, tail, rfl, bad⟩ := exists_of_decode_error decoded
  simp only [List.cons_append, decode, bad]

end

theorem drain_of_packet {buffer rest : Bytes} {p : Packet}
    (h : decode buffer = .ok (some (p, rest))) :
    drain buffer = { drain rest with packets := p :: (drain rest).packets } := by
  rw [drain]
  split
  · next other => rw [h] at other; cases other
  · next other => rw [h] at other; cases other
  · next q left same =>
    rw [h] at same
    cases same
    rfl

theorem drain_of_error {buffer : Bytes} {fault : LinkError} (h : decode buffer = .error fault) :
    drain buffer = ⟨[], some fault, buffer⟩ := by
  rw [drain]
  split
  · next same =>
    rw [h] at same
    cases same
    rfl
  · next other => rw [h] at other; cases other
  · next other => rw [h] at other; cases other

theorem drain_of_none {buffer : Bytes} (h : decode buffer = .ok none) :
    drain buffer = ⟨[], none, buffer⟩ := by
  rw [drain]
  split
  · next other => rw [h] at other; cases other
  · rfl
  · next other => rw [h] at other; cases other

/-- A buffer can be drained in pieces. A bad header stays in front, and is met again. -/
theorem drain_append (buffer more : Bytes) :
    drain (buffer ++ more) =
      { drain ((drain buffer).left ++ more) with
        packets := (drain buffer).packets ++ (drain ((drain buffer).left ++ more)).packets } := by
  fun_induction drain buffer with
  | case1 | case2 => rfl
  | case3 buffer p rest decoded d ih =>
    rw [drain_of_packet (decode_append decoded more), ih]
    rfl

theorem fault_of_append {buffer more : Bytes} (sound : (drain (buffer ++ more)).fault = none) :
    (drain buffer).fault = none := by
  fun_induction drain buffer with
  | case1 buffer fault decoded =>
    rw [drain_of_error (decode_append_of_error decoded more)] at sound
    cases sound
  | case2 => rfl
  | case3 buffer p rest decoded d ih =>
    rw [drain_of_packet (decode_append decoded more)] at sound
    exact ih sound

theorem drain_left (buffer : Bytes) : (drain (drain buffer).left).packets = [] := by
  fun_induction drain buffer with
  | case1 buffer fault decoded => rw [drain_of_error decoded]
  | case2 buffer decoded => rw [drain_of_none decoded]
  | case3 buffer p rest decoded d ih => exact ih

theorem drain_nil : drain [] = ⟨[], none, []⟩ := by
  rw [drain]
  rfl

theorem drain_layouts {ps : List Packet} (fit : ∀ p ∈ ps, p.payload.length ≤ maxPayload)
    (rest : Bytes) :
    drain (ps.flatMap layout ++ rest) = { drain rest with packets := ps ++ (drain rest).packets } := by
  induction ps with
  | nil => rfl
  | cons p ps ih =>
    have first := fit p List.mem_cons_self
    have others := ih fun q member => fit q (List.mem_cons_of_mem p member)
    rw [List.flatMap_cons, List.append_assoc, drain_of_packet (decode_layout_append first _), others]
    rfl

section

variable {stream left rest : Bytes} {ps : List Packet} {p : Packet}

/-- A stream begins with these packets; so much of it is left. -/
inductive Unpacks : Bytes → List Packet → Bytes → Prop
  | nil {stream : Bytes} : Unpacks stream [] stream
  | cons {stream others left : Bytes} {p : Packet} {ps : List Packet}
    (decoded : decode stream = .ok (some (p, others))) (rest : Unpacks others ps left) :
    Unpacks stream (p :: ps) left

theorem Unpacks.append (unpacks : Unpacks stream ps left) (more : Bytes) :
    Unpacks (stream ++ more) ps (left ++ more) := by
  induction unpacks with
  | nil => exact .nil
  | cons decoded rest ih => exact .cons (decode_append decoded more) ih

theorem Unpacks.concat (unpacks : Unpacks stream ps left)
    (decoded : decode left = .ok (some (p, rest))) : Unpacks stream (ps ++ [p]) rest := by
  induction unpacks with
  | nil => exact .cons decoded .nil
  | cons first others ih => exact .cons first (ih decoded)

/-- They are the packets that draining takes first. -/
theorem Unpacks.drain_eq (unpacks : Unpacks stream ps left) :
    drain stream = { drain left with packets := ps ++ (drain left).packets } := by
  induction unpacks with
  | nil => rfl
  | cons decoded rest ih =>
    rw [drain_of_packet decoded, ih]
    rfl

end

end SolarTelemetry.Packet
