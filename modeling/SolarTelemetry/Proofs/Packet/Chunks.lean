import SolarTelemetry.Proofs.Packet.Stream

/-!
# Packets in chunks

A stream may arrive in chunks of any size. To append each of them to what is left and to take off
the packets that are there then comes to the same as to take them off the whole stream, and a bad
header that has been met once is met again with every later chunk. A packet that has been read is
written as the octets it was read from, but for those that carry nothing.
-/

namespace SolarTelemetry.Packet

/-- A decoder that has come so far gets more octets. -/
def Drained.feed (d : Drained) (chunk : Bytes) : Drained :=
  let e := drain (d.left ++ chunk)
  { e with packets := d.packets ++ e.packets }

/-- What comes of chunks that are appended one by one, each drained before the next. -/
def drainAll (chunks : List Bytes) : Drained := chunks.foldl Drained.feed ⟨[], none, []⟩

theorem feed_drain (buffer chunk : Bytes) :
    (drain buffer).feed chunk = drain (buffer ++ chunk) := (drain_append buffer chunk).symm

theorem foldl_feed_drain (chunks : List Bytes) (buffer : Bytes) :
    chunks.foldl Drained.feed (drain buffer) = drain (buffer ++ chunks.flatten) := by
  induction chunks generalizing buffer with
  | nil => simp
  | cons chunk chunks ih =>
    rw [List.foldl_cons, feed_drain, ih, List.flatten_cons, List.append_assoc]

theorem drainAll_eq (chunks : List Bytes) : drainAll chunks = drain chunks.flatten := by
  have whole := foldl_feed_drain chunks []
  rwa [drain_nil] at whole

/-- What is left cannot be decoded: more is needed, or it begins with the bad header. -/
theorem decode_left (buffer : Bytes) :
    decode (drain buffer).left =
      match (drain buffer).fault with
      | none => .ok none
      | some fault => .error fault := by
  fun_induction drain buffer with
  | case1 buffer fault decoded => exact decoded
  | case2 buffer decoded => exact decoded
  | case3 buffer p rest decoded d ih => exact ih

/-- A bad header that has been met stops all that follows. -/
theorem drainAll_append_of_fault {chunks : List Bytes} {fault : LinkError}
    (stuck : (drainAll chunks).fault = some fault) (more : List Bytes) :
    drainAll (chunks ++ more) =
      ⟨(drainAll chunks).packets, some fault, (drainAll chunks).left ++ more.flatten⟩ := by
  simp only [drainAll_eq, List.flatten_append] at stuck ⊢
  have bad := decode_left chunks.flatten
  rw [stuck] at bad
  rw [drain_append, drain_of_error (decode_append_of_error bad more.flatten), List.append_nil]

theorem unpacks_drain (buffer : Bytes) :
    Unpacks buffer (drain buffer).packets (drain buffer).left := by
  fun_induction drain buffer with
  | case1 | case2 => exact .nil
  | case3 buffer p rest decoded d ih => exact .cons decoded ih

theorem mapM_encode {ps : List Packet} (fit : ∀ p ∈ ps, p.payload.length ≤ maxPayload) :
    ps.mapM encode = .ok (ps.map layout) := by
  induction ps with
  | nil => rfl
  | cons p ps ih =>
    have first := encode_of_le (fit p List.mem_cons_self)
    have others := ih fun q member => fit q (List.mem_cons_of_mem p member)
    simp only [List.mapM_cons, first, others, List.map_cons]
    rfl

/-- The octets of a packet as they are written: two of them carry nothing, and the guard goes with
that. -/
def rewritten (raw : Bytes) : Bytes :=
  ((raw.set 2 0).set 17 0).set 3 (raw.getD 0 0 ^^^ raw.getD 1 0)

section

variable {start length zero guard : UInt8} {tail : Bytes} {p : Packet}

/-- Behind the four octets that guard each other stand the fields. One octet is not read. -/
theorem tail_of_ofWire? (long : headerLength ≤ (start :: length :: zero :: guard :: tail).length)
    (read : ofWire? (start :: length :: zero :: guard :: tail) = some p) :
    ∃ reserved, tail =
      p.source.wire ++ (p.destination.wire ++ p.code :: reserved :: p.payload) := by
  simp only [ofWire?, Option.bind_eq_bind, Option.bind_eq_some_iff, Address.ofWire?_eq_some_iff,
    Option.some.injEq] at read
  obtain ⟨source, fromFour, destination, fromTen, code, sixteenth, rfl⟩ := read
  have enough : 2 ≤ (tail.drop 12).length := by
    simp only [List.length_cons, List.length_drop, headerLength] at long ⊢
    omega
  obtain ⟨first, reserved, payload, last⟩ : ∃ first reserved payload,
      tail.drop 12 = first :: reserved :: payload := by
    generalize tail.drop 12 = fields at enough
    rcases fields with _ | ⟨first, _ | ⟨reserved, payload⟩⟩
    · simp at enough
    · simp at enough
    · exact ⟨first, reserved, payload, rfl⟩
  have kind : first = code := by
    have head := congrArg List.head? last
    rw [List.head?_drop] at head
    exact Option.some.inj (head.symm.trans sixteenth)
  have carried : (start :: length :: zero :: guard :: tail).drop headerLength = payload := by
    change tail.drop (12 + 2) = payload
    rw [← List.drop_drop, last]
    rfl
  refine ⟨reserved, ?_⟩
  calc tail
    _ = tail.take 6 ++ ((tail.drop 6).take 6 ++ tail.drop 12) := by
      have split : tail.drop 12 = (tail.drop 6).drop 6 := by simp
      rw [split, List.take_append_drop, List.take_append_drop]
    _ = source.wire ++ (destination.wire ++ first :: reserved :: payload) := by
      rw [last, ← fromFour, ← fromTen]
      rfl
    _ = _ := by
      rw [kind, ← carried]

theorem encode_of_ofWire? (sound : headerFault? start length zero guard = none)
    (size : (start :: length :: zero :: guard :: tail).length = length.toNat)
    (read : ofWire? (start :: length :: zero :: guard :: tail) = some p) :
    p.encode = .ok (rewritten (start :: length :: zero :: guard :: tail)) := by
  obtain ⟨rfl, -, long⟩ := headerFault?_eq_none_iff.mp sound
  obtain ⟨reserved, rfl⟩ := tail_of_ofWire? (size ▸ long) read
  have count : headerLength + p.payload.length = length.toNat := by
    rw [← size]
    simp [headerLength]
    omega
  have fits : p.payload.length ≤ maxPayload := by
    have bound := length.toNat_lt
    simp only [headerLength, maxPayload, maxLength] at count ⊢
    omega
  rw [encode_of_le fits, layout, count, UInt8.ofNat_toNat]
  simp [rewritten, List.set_append_right]

end

/-- However a stream is cut, the same packets come off it, and then the same octets or the same
fault are left. A fault takes nothing away and comes back with all that follows. Packets that were
written come back and leave nothing, and one that was read is written as it stood on the wire, but
for the octets that are not read. -/
theorem drainAll_exact (chunks : List Bytes) :
    (∀ others : List Bytes, others.flatten = chunks.flatten → drainAll others = drainAll chunks) ∧
    Unpacks chunks.flatten (drainAll chunks).packets (drainAll chunks).left ∧
    (decode (drainAll chunks).left =
      match (drainAll chunks).fault with
      | none => .ok none
      | some fault => .error fault) ∧
    (∀ fault, (drainAll chunks).fault = some fault → ∀ more : List Bytes,
      drainAll (chunks ++ more) =
        ⟨(drainAll chunks).packets, some fault, (drainAll chunks).left ++ more.flatten⟩) ∧
    (∀ ps : List Packet, (∀ p ∈ ps, p.payload.length ≤ maxPayload) →
      ∃ written, ps.mapM encode = .ok written ∧
        (chunks.flatten = written.flatten → drainAll chunks = ⟨ps, none, []⟩)) ∧
    ∀ buffer rest p, decode buffer = .ok (some (p, rest)) →
      ∃ raw, buffer = raw ++ rest ∧ p.encode = .ok (rewritten raw) := by
  refine ⟨?_, ?_, ?_, fun fault stuck more => drainAll_append_of_fault stuck more, ?_, ?_⟩
  · intro others same
    rw [drainAll_eq, drainAll_eq, same]
  · rw [drainAll_eq]
    exact unpacks_drain chunks.flatten
  · rw [drainAll_eq]
    exact decode_left chunks.flatten
  · intro ps fit
    refine ⟨ps.map layout, mapM_encode fit, fun same => ?_⟩
    have whole := drain_layouts fit []
    rwa [List.append_nil, List.flatMap_def, ← same, ← drainAll_eq, drain_nil, List.append_nil]
      at whole
  · intro buffer rest p decoded
    obtain ⟨start, length, zero, guard, tail, front, sound, size, read⟩ := exists_of_decode decoded
    exact ⟨_, front, encode_of_ofWire? sound size read⟩

/-- A packet of an unknown kind that is cut inside its header, and another that is cut inside its
payload; what follows them opens with a bad guard. -/
theorem drainAll_exact_bad_guard :
    let here : Address := ⟨[1, 2, 3, 4, 5, 6], rfl⟩
    let p : Packet := ⟨here, .broadcast, 0x99, []⟩
    let q : Packet := ⟨.zero, here, 0x01, [0x7E, 0x7D]⟩
    let raw : Bytes := [0x7E, 18, 5, 0x69, 6, 5, 4, 3, 2, 1, 255, 255, 255, 255, 255, 255, 0x99, 9]
    let bad : Bytes := [0x7E, 18, 0, 0]
    drainAll [p.layout.take 3, p.layout.drop 3 ++ q.layout.take 19, q.layout.drop 19] =
        ⟨[p, q], none, []⟩ ∧
      drainAll [raw, bad, [1]] = ⟨[p], some (.headerChecksum bad), bad ++ [1]⟩ ∧
      p.encode = .ok (rewritten raw) := by
  intro here p q raw bad
  refine ⟨?_, ?_, ?_⟩
  · obtain ⟨-, -, -, -, back, -⟩ :=
      drainAll_exact [p.layout.take 3, p.layout.drop 3 ++ q.layout.take 19, q.layout.drop 19]
    obtain ⟨written, encoded, whole⟩ := back [p, q] (by decide)
    cases encoded
    exact whole (by decide)
  · obtain ⟨-, -, -, repeats, -, -⟩ := drainAll_exact [raw, bad]
    have met : drainAll [raw, bad] = ⟨[p], some (.headerChecksum bad), bad⟩ := by
      have first : decode (raw ++ bad) = .ok (some (p, bad)) := rfl
      have second : decode bad = .error (.headerChecksum bad) := rfl
      exact (drainAll_eq _).trans ((drain_of_packet first).trans (by rw [drain_of_error second]))
    have again := repeats (.headerChecksum bad) (congrArg Drained.fault met) [[1]]
    rwa [met] at again
  · obtain ⟨-, -, -, -, -, rewrites⟩ := drainAll_exact [raw]
    obtain ⟨same, front, encoded⟩ := rewrites (raw ++ bad) bad p rfl
    rwa [List.append_cancel_right front]

end SolarTelemetry.Packet
