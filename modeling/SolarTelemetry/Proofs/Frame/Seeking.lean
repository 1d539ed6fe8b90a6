import SolarTelemetry.Proofs.Frame.Attribution
import SolarTelemetry.Proofs.Loop

/-!
# Looking for frames goes on

Decoding is a search by positions: a sync byte, the next one after it, and one round more if nothing
stands between the two. A round more has a byte less to look at. Reading asks for deliveries between
its searches, and each delivery is taken from what the channel still has; and reads that need no
delivery are as many as the buffer has frames and faults.
-/

namespace SolarTelemetry

namespace FrameFormat

open SolarTelemetry.Frame

variable (format : FrameFormat) {bs buffer : Bytes}

/-- One round of the search for a frame in a buffer. -/
def seek (buffer : Bytes) : (Option (Except FrameError Bytes) × Bytes) ⊕ Bytes :=
  match buffer.findIdx? isSync with
  | none => .inl (none, [])
  | some start =>
    let synced := buffer.drop start
    match (synced.drop 1).findIdx? isSync with
    | none =>
      if maxStuffed < synced.length then .inl (some (.error (.tooLarge maxLength)), [])
      else .inl (none, synced)
    | some distance =>
      let closing := distance + 1
      -- The closing sync byte of a frame and the opening one of the next.
      if closing = 1 then .inr (synced.drop 1)
      else .inl (some (format.unwrap ((synced.take closing).drop 1)), synced.drop closing)

theorem dropWhile_of_findIdx?_none (absent : bs.findIdx? isSync = none) :
    bs.dropWhile (!isSync ·) = [] := by
  rw [List.findIdx?_eq_none_iff] at absent
  rw [List.dropWhile_eq_nil_iff]
  intro b member
  rw [absent b member, Bool.not_false]

theorem split_of_findIdx?_some {i : Nat} (found : bs.findIdx? isSync = some i) :
    i < bs.length ∧ bs.takeWhile (!isSync ·) = bs.take i ∧
      bs.dropWhile (!isSync ·) = bs.drop i := by
  obtain ⟨within, first⟩ := List.findIdx?_eq_some_iff_findIdx_eq.mp found
  rw [List.takeWhile_eq_take_findIdx_not, List.dropWhile_eq_drop_findIdx_not]
  simp only [Bool.not_not, first, and_self, and_true]
  exact within

theorem consumes_seek : Consumes format.seek List.length 1 := by
  intro buffer next goes
  unfold seek at goes
  split at goes
  · cases goes
  · next start found =>
    have within := (split_of_findIdx?_some found).1
    simp only at goes
    split at goes
    · split at goes <;> cases goes
    · split at goes
      · cases goes
        simp only [List.length_drop]
        omega
      · cases goes

theorem decode_eq (buffer : Bytes) :
    format.decode buffer =
      match buffer.dropWhile (!isSync ·) with
      | [] => (none, [])
      | opening :: rest =>
        match rest.dropWhile (!isSync ·) with
        | [] =>
          if maxStuffed < rest.length + 1 then (some (.error (.tooLarge maxLength)), [])
          else (none, opening :: rest)
        | closing :: more =>
          let stuffed := rest.takeWhile (!isSync ·)
          if stuffed.isEmpty then format.decode (closing :: more)
          else (some (format.unwrap stuffed), closing :: more) := by
  rw [decode]
  split
  · next outer => rw [outer]
  · next opening rest outer =>
    rw [outer]
    simp only
    split
    · next inner => rw [inner]
    · next closing more inner => rw [inner]

/-- The search finds what decoding finds. -/
theorem yields_seek : Yields format.seek format.decode := by
  intro buffer
  rw [decode_eq, seek]
  cases outer : buffer.findIdx? isSync with
  | none =>
    rw [dropWhile_of_findIdx?_none outer]
    rfl
  | some start =>
    obtain ⟨within, -, opens⟩ := split_of_findIdx?_some outer
    have synced := List.drop_eq_getElem_cons within
    generalize buffer[start] = opening at synced
    generalize buffer.drop (start + 1) = rest at synced
    simp only [opens, synced, List.drop_one, List.tail_cons]
    cases inner : rest.findIdx? isSync with
    | none =>
      rw [dropWhile_of_findIdx?_none inner]
      simp only [List.length_cons]
      split <;> rfl
    | some distance =>
      obtain ⟨before, encloses, closes⟩ := split_of_findIdx?_some inner
      have left := List.drop_eq_getElem_cons before
      generalize rest[distance] = closing at left
      generalize rest.drop (distance + 1) = more at left
      simp only [closes, encloses, left, List.take_succ_cons, List.drop_succ_cons, List.tail_cons]
      cases distance with
      | zero =>
        rw [← left]
        rfl
      | succ n =>
        have filled : ¬(rest.take (n + 1)).isEmpty := by
          rw [List.isEmpty_iff, List.take_eq_nil_iff, ← List.length_eq_zero_iff]
          omega
        rw [if_neg filled, if_neg (by omega), Sum.elim_inl, id]

end FrameFormat

namespace FrameStream

variable {σ : Type} [Channel σ] {f : FrameStream σ}

/-- One round of a read. -/
def readRound (deadline : Nat) (f : FrameStream σ) :
    Outcome (FrameStream σ) Delivery ⊕ FrameStream σ :=
  match f.format.decode f.buffer with
  | (some (.ok payload), rest) => .inl (.ok ⟨f.source, payload⟩ { f with buffer := rest })
  | (some (.error e), rest) => .inl (.error (.frame e) { f with buffer := rest })
  | (none, rest) =>
    if deadline ≤ Clock.now f.channel then
      .inl (.error (.timeout "frame") { f with buffer := rest })
    else
      match Channel.receive (deadline - Clock.now f.channel) f.channel with
      | .error e channel => .inl (.error e { f with channel, buffer := rest })
      | .ok none channel => .inl (.error (.timeout "frame") { f with channel, buffer := rest })
      | .ok (some d) channel =>
        .inr { f with channel, buffer := rest ++ d.payload, source := d.source }

theorem consumes_readRound (deadline : Nat) :
    Consumes (readRound (σ := σ) deadline) (fun f => Channel.pending f.channel) 1 := by
  intro f next goes
  unfold readRound at goes
  split at goes
  · cases goes
  · cases goes
  · split at goes
    · cases goes
    · split at goes
      · cases goes
      · cases goes
      · next d channel received =>
        cases goes
        have taken := Channel.pending_receive_lt received
        simp only
        omega

theorem yields_readRound (deadline : Nat) :
    Yields (readRound (σ := σ) deadline) (readUntil deadline) := by
  intro f
  rw [readUntil_eq, readRound]
  rcases f.format.decode f.buffer with ⟨_ | e | payload, rest⟩
  · by_cases late : deadline ≤ Clock.now f.channel
    · simp only [if_pos late, Sum.elim_inl, id]
    · simp only [if_neg late]
      rcases Channel.receive (deadline - Clock.now f.channel) f.channel with
        ⟨_ | d, channel⟩ | ⟨e, channel⟩ <;> rfl
  · rfl
  · rfl

/-- What a read makes of a result of the decoder. -/
def answer (source : Address) : Except FrameError Bytes → Except Error Delivery
  | .ok payload => .ok ⟨source, payload⟩
  | .error e => .error (.frame e)

theorem readUntil_of_some (deadline : Nat) {result : Except FrameError Bytes} {rest : Bytes}
    (decoded : f.format.decode f.buffer = (some result, rest)) :
    Outcome.result (readUntil deadline f) = answer f.source result ∧
      Outcome.state (readUntil deadline f) = { f with buffer := rest } := by
  rw [readUntil_eq, decoded]
  cases result <;> exact ⟨rfl, rfl⟩

/-- One more read, unless it would need a delivery. The answers of those before it are kept. -/
def readBuffered (wait : Nat) (reads : List (Except Error Delivery) × FrameStream σ) :
    (List (Except Error Delivery) × σ) ⊕ (List (Except Error Delivery) × FrameStream σ) :=
  let (answers, f) := reads
  match (f.format.decode f.buffer).1 with
  | none => .inl (answers, f.channel)
  | some _ => .inr (answers ++ [Outcome.result (read wait f)], Outcome.state (read wait f))

theorem readBuffered_of_some {wait : Nat} {answers : List (Except Error Delivery)}
    {result : Except FrameError Bytes} {rest : Bytes}
    (decoded : f.format.decode f.buffer = (some result, rest)) :
    readBuffered wait (answers, f) =
      .inr (answers ++ [answer f.source result], { f with buffer := rest }) := by
  obtain ⟨answered, left⟩ := readUntil_of_some (Clock.now f + wait) decoded
  simp only [readBuffered, decoded, read, answered, left]

theorem consumes_readBuffered (wait : Nat) :
    Consumes (readBuffered (σ := σ) wait) (fun reads => reads.2.buffer.length) 1 := by
  rintro ⟨answers, f⟩ next goes
  cases decoded : f.format.decode f.buffer with | _ first rest
  cases first with
  | none => simp [readBuffered, decoded] at goes
  | some result =>
    rw [readBuffered_of_some decoded] at goes
    cases goes
    have found : (f.format.decode f.buffer).1.isSome := by simp [decoded]
    have shorter := f.format.length_decode_lt found
    simp only [decoded] at shorter
    exact shorter

/-- Reads that need no delivery take all that the buffer holds, and leave the channel alone. -/
theorem yields_readBuffered (wait : Nat) :
    Yields (readBuffered (σ := σ) wait) fun (answers, f) =>
      (answers ++ (f.format.drain f.buffer).1.map (answer f.source), f.channel) := by
  rintro ⟨answers, f⟩
  cases decoded : f.format.decode f.buffer with | _ first rest
  cases first with
  | none =>
    simp only [readBuffered, decoded, f.format.drain_of_none decoded, List.map_nil,
      List.append_nil, Sum.elim_inl, id]
  | some result =>
    rw [readBuffered_of_some decoded]
    simp only [f.format.drain_of_some decoded, List.map_cons, Sum.elim_inr, List.append_assoc,
      List.singleton_append]

end FrameStream

end SolarTelemetry
