import SolarTelemetry.Proofs.Frame.Seeking
import SolarTelemetry.Proofs.Link.Unpacking
import SolarTelemetry.Proofs.Record.Segmentation

/-!
# Decoding makes progress

Whatever octets arrive, every loop that decodes them comes to an end. A frame or a fault, a packet
and a record each take octets away, the last two no fewer than their shortest layout has; so the
octets there are bound the rounds. What a loop ends with is what the decoder is defined to yield.
-/

namespace SolarTelemetry

namespace Record

/-- One round of decoding an answer: the records so far, and the octets that are left. -/
def decodeRound (object : UInt16) (state : List Record × Bytes) :
    Option (List Record) ⊕ (List Record × Bytes) :=
  let (records, data) := state
  if data.length < Header.length then .inl (some records)
  else
    match (data[3]?).map (Layout.ofType object) with
    | none => .inl none
    | some layout =>
      if data.length < layout.length then .inl (some records)
      else
        match layout.read (data.take layout.length) with
        | none => .inl none
        | some (record, _) => .inr (records ++ [record], data.drop layout.length)

theorem consumes_decodeRound (object : UInt16) :
    Consumes (decodeRound object) (fun state => state.2.length) 16 := by
  rintro ⟨records, data⟩ next goes
  unfold decodeRound at goes
  simp only at goes
  split at goes
  · cases goes
  · split at goes
    · cases goes
    · next layout _ =>
      split at goes
      · cases goes
      · split at goes
        · cases goes
        · cases goes
          have shortest : 16 ≤ layout.length := by cases layout <;> decide
          simp only [List.length_drop]
          omega

theorem yields_decodeRound (object : UInt16) :
    Yields (decodeRound object) fun (records, data) => some (records ++ decode object data) := by
  rintro ⟨records, data⟩
  have whole : some (records ++ decode object data) =
      (decode? object data).map (records ++ ·) := by
    rw [decode?_eq, Option.map_some]
  simp only [whole, decodeRound]
  rw [decode?]
  by_cases few : data.length < Header.length
  · rw [if_pos few, if_pos few, Option.map_some, List.append_nil]
    rfl
  rw [if_neg few, if_neg few]
  cases (data[3]?).map (Layout.ofType object) with
  | none => rfl
  | some layout =>
    simp only
    by_cases few : data.length < layout.length
    · rw [if_pos few, if_pos few, Option.map_some, List.append_nil]
      rfl
    rw [if_neg few, if_neg few]
    rcases layout.read (data.take layout.length) with _ | ⟨record, unread⟩
    · rfl
    · simp [decode?_eq]

end Record

open FrameStream in
/-- Decoding a frame shortens the buffer, and the search in it ends. A packet takes its header with
it or more, and what is none stays where it is. The reads that a buffer answers, the packets that
are handled at one go and the records of an answer are as many as the octets allow. -/
theorem decoding_progress {σ : Type} [Channel σ] :
    (∀ (format : FrameFormat) (buffer : Bytes),
      (∀ result rest, format.decode buffer = (some result, rest) → rest.length < buffer.length) ∧
        ∃ n ≤ buffer.length, Ends format.seek buffer n (format.decode buffer)) ∧
    (∀ buffer, ∃ outcome, Checked.takeOff buffer = some outcome ∧
      match outcome with
      | .ok (some _) rest => ∃ raw, buffer = raw ++ rest ∧ 18 ≤ raw.length
      | .ok none rest => rest = buffer
      | .error _ rest => rest = buffer) ∧
    (∀ (wait : Nat) (f : FrameStream σ), ∃ n ≤ f.buffer.length,
      Ends (readBuffered wait) ([], f) n
        ((f.format.drain f.buffer).1.map (answer f.source), f.channel)) ∧
    (∀ (deadline : Nat) (f : FrameStream σ), ∃ n ≤ Channel.pending f.channel,
      Ends (readRound deadline) f n (readUntil deadline f)) ∧
    (∀ (octets : Bytes) (link : Link), ∃ n, 18 * n ≤ (link.buffer ++ octets).length ∧
      Ends Link.unpack { link with buffer := link.buffer ++ octets } n
        (Link.accept (.ok octets) link)) ∧
    ∀ (object : UInt16) (data : Bytes), ∃ n, 16 * n ≤ data.length ∧
      Ends (Record.decodeRound object) ([], data) n (some (Record.decode object data)) := by
  refine ⟨?frames, Checked.exists_takeOff, ?buffered, ?reads, ?packets, ?records⟩
  case frames =>
    intro format buffer
    refine ⟨?_, ?_⟩
    · intro result rest decoded
      have found : (format.decode buffer).1.isSome := by rw [decoded, Option.isSome_some]
      have shorter := format.length_decode_lt found
      rwa [decoded] at shorter
    · obtain ⟨n, bound, ends⟩ :=
        (format.consumes_seek).ends_in Nat.one_pos format.yields_seek buffer
      exact ⟨n, by omega, ends⟩
  case buffered =>
    intro wait f
    obtain ⟨n, bound, ends⟩ :=
      (consumes_readBuffered wait).ends_in Nat.one_pos (yields_readBuffered wait) ([], f)
    exact ⟨n, by simpa using bound, ends⟩
  case reads =>
    intro deadline f
    obtain ⟨n, bound, ends⟩ :=
      (consumes_readRound deadline).ends_in Nat.one_pos (yields_readRound deadline) f
    exact ⟨n, by simpa using bound, ends⟩
  case packets =>
    intro octets link
    rw [Link.accept_octets]
    exact Link.consumes_unpack.ends_in (by decide) Link.yields_unpack
      { link with buffer := link.buffer ++ octets }
  case records =>
    intro object data
    exact (Record.consumes_decodeRound object).ends_in (by decide)
      (Record.yields_decodeRound object) ([], data)

/-- A byte out of place, the sync bytes of three frames with nothing in the first two and an escape
byte alone in the third, and a packet whose header does not guard itself. -/
theorem decoding_progress_malformed :
    let buffer : Bytes := [0x41, 0x7E, 0x7E, 0x7E, 0x7D, 0x7E]
    let packet : Bytes := [0x7E, 0x12, 0x00, 0x00, 0x41]
    Ends (FrameFormat.seek {}) buffer 2 (some (.error .truncated), [0x7E]) ∧
      FrameFormat.decode {} buffer = (some (.error .truncated), [0x7E]) ∧
      [(0x7E : UInt8)].length < buffer.length ∧
      Checked.takeOff packet =
        some (.error (.link (.headerChecksum [0x7E, 0x12, 0x00, 0x00])) packet) := by
  intro buffer packet
  have ends : Ends (FrameFormat.seek {}) buffer 2 (some (.error .truncated), [0x7E]) :=
    .again rfl (.again rfl (.last rfl))
  have decoded := (FrameFormat.yields_seek {}).eq_value ends
  have shorter := ((decoding_progress (σ := Link)).1 {} buffer).1 _ _ decoded.symm
  exact ⟨ends, decoded.symm, shorter, rfl⟩

end SolarTelemetry
