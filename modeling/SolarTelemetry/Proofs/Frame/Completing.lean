import Mathlib.Data.List.Induction
import SolarTelemetry.Proofs.Frame.Synchronisation

/-!
# Which chunk completes a frame

Chunks come with a tag, such as where they are from, and a frame has the tag of the chunk that made
the decoder yield it. An octet yields one result at most, and only a sync byte yields a payload. So
the tag of a payload is that of the chunk in which its closing sync byte stands.
-/

namespace SolarTelemetry.FrameFormat

open SolarTelemetry.Frame

variable (format : FrameFormat)

theorem verdicts_singleton (b : UInt8) : format.verdicts [b] = [] := by
  by_cases closing : b = sync
  · rw [closing, format.verdicts_open List.not_mem_nil]
    rfl
  · exact format.verdicts_of_notMem (by simpa using Ne.symm closing)

/-- One more octet is one more verdict at most, and a favourable one only of a sync byte. -/
theorem verdicts_concat (stream : Bytes) (b : UInt8) :
    format.verdicts (stream ++ [b]) = format.verdicts stream ∨
      ∃ verdict, format.verdicts (stream ++ [b]) = format.verdicts stream ++ [verdict] ∧
        (verdict.isSome → b = sync) := by
  have nothing : format.verdicts ([] ++ [b]) = [] := format.verdicts_singleton b
  rw [verdicts_append]
  cases kept : openRun? stream with
  | none =>
    rw [remainder, kept, nothing, List.append_nil]
    exact .inl rfl
  | some run =>
    obtain ⟨before, rfl, free⟩ := exists_of_openRun? kept
    rw [remainder_append_sync, remainder_open free]
    by_cases long : isOverlong run
    · rw [if_pos long, nothing, List.append_nil]
      exact .inl rfl
    · rw [if_neg long, List.cons_append]
      by_cases closing : b = sync
      · rw [closing, format.verdicts_enclosed free, format.verdicts_singleton, List.append_nil]
        by_cases empty : run = []
        · rw [if_pos empty, List.append_nil]
          exact .inl rfl
        · rw [if_neg empty]
          exact .inr ⟨_, rfl, fun _ => rfl⟩
      · have still : sync ∉ run ++ [b] := by simpa [free] using Ne.symm closing
        rw [format.verdicts_open still]
        by_cases overlong : isOverlong (run ++ [b])
        · rw [if_pos overlong]
          refine .inr ⟨none, rfl, fun favourable => ?_⟩
          cases favourable
        · rw [if_neg overlong, List.append_nil]
          exact .inl rfl

/-- A favourable verdict comes with a sync byte of the stream. -/
theorem exists_closing_sync {stream payload : Bytes} {n : Nat}
    (found : (format.verdicts stream)[n]? = some (some payload)) :
    ∃ before after, stream = before ++ sync :: after ∧ (format.verdicts before).length = n ∧
      format.verdicts (before ++ [sync]) = format.verdicts before ++ [some payload] := by
  induction stream using List.reverseRecOn with
  | nil => cases found
  | append_singleton stream b ih =>
    by_cases earlier : n < (format.verdicts stream).length
    · have already : (format.verdicts stream)[n]? = some (some payload) := by
        rw [← found, format.verdicts_append, List.getElem?_append_left earlier]
      obtain ⟨before, after, split, counted, closed⟩ := ih already
      exact ⟨before, after ++ [b], by simp [split], counted, closed⟩
    · rcases format.verdicts_concat stream b with same | ⟨verdict, one, closing⟩
      · rw [same] at found
        exact absurd (List.getElem?_eq_some_iff.mp found).1 earlier
      · have last : n = (format.verdicts stream).length := by
          have inside := (List.getElem?_eq_some_iff.mp found).1
          rw [one, List.length_append, List.length_singleton] at inside
          omega
        rw [one, last, List.getElem?_concat_length] at found
        cases found
        obtain rfl := closing rfl
        exact ⟨stream, [], rfl, last.symm, one⟩

/-- Whatever a buffer has been drained of was closed before, so the sync byte is an appended one. -/
theorem exists_closing_sync_of_append {buffer chunk payload : Bytes} {n : Nat}
    (settled : format.verdicts buffer = [])
    (found : (format.verdicts (buffer ++ chunk))[n]? = some (some payload)) :
    ∃ opening rest, chunk = opening ++ sync :: rest ∧
      (format.verdicts (buffer ++ opening)).length = n ∧
      (format.verdicts (buffer ++ (opening ++ [sync])))[n]? = some (some payload) := by
  obtain ⟨before, after, split, counted, closed⟩ := format.exists_closing_sync found
  have last : (format.verdicts (before ++ [sync]))[n]? = some (some payload) := by
    rw [closed, ← counted, List.getElem?_concat_length]
  rcases List.append_eq_append_iff.mp split with ⟨opening, rfl, rfl⟩ | ⟨inner, rfl, joined⟩
  · refine ⟨opening, after, rfl, counted, ?_⟩
    rwa [← List.append_assoc]
  · cases inner with
    | nil =>
      refine ⟨[], after, joined.symm, ?_, ?_⟩
      · simpa using counted
      · simpa using last
    | cons b inner =>
      -- the buffer itself would hold the frame
      obtain ⟨rfl, rfl⟩ := List.cons.inj joined
      rw [List.append_cons, format.verdicts_append, closed] at settled
      simp at settled

/-- A buffer that has been drained yields nothing more. -/
theorem drain_drain (buffer : Bytes) :
    format.drain (format.drain buffer).2 = ([], (format.drain buffer).2) := by
  obtain ⟨-, left⟩ := format.verdicts_drain buffer
  obtain ⟨results, again⟩ := format.verdicts_drain (format.drain buffer).2
  rw [left, format.verdicts_remainder, List.map_eq_nil_iff] at results
  rw [left, remainder_remainder] at again
  rw [left]
  exact Prod.ext results again

section

variable {τ : Type}

/-- The results of a decoder to which chunks with tags are appended one by one, each drained before
the next: every result with the tag of its chunk, and what remains in the buffer. -/
def drainTagged (buffer : Bytes) :
    List (τ × Bytes) → List (τ × Except FrameError Bytes) × Bytes
  | [] => ([], buffer)
  | (tag, chunk) :: chunks =>
    let (results, left) := format.drain (buffer ++ chunk)
    let (more, left) := drainTagged left chunks
    (results.map (tag, ·) ++ more, left)

theorem drainTagged_append (buffer : Bytes) (chunks more : List (τ × Bytes)) :
    format.drainTagged buffer (chunks ++ more) =
      let (results, left) := format.drainTagged buffer chunks
      let (others, left) := format.drainTagged left more
      (results ++ others, left) := by
  induction chunks generalizing buffer with
  | nil => rfl
  | cons chunk chunks ih => simp [drainTagged, ih]

/-- The tags have no part in the decoding. -/
theorem map_snd_drainTagged (buffer : Bytes) (chunks : List (τ × Bytes)) :
    (format.drainTagged buffer chunks).1.map Prod.snd =
      (format.drainAll buffer (chunks.map Prod.snd)).1 := by
  induction chunks generalizing buffer with
  | nil => rfl
  | cons chunk chunks ih => simp [drainTagged, drainAll, ih, Function.comp_def]

theorem length_drain (buffer : Bytes) :
    (format.drain buffer).1.length = (format.verdicts buffer).length := by
  rw [← (format.verdicts_drain buffer).1, List.length_map]

/-- The chunk of a payload holds a sync byte that closes it: as far as there the results are those
before it, and with that octet it is the next. -/
theorem exists_chunk_of_drainTagged {buffer payload : Bytes} {chunks : List (τ × Bytes)} {n : Nat}
    {tag : τ} (settled : format.verdicts buffer = [])
    (found : (format.drainTagged buffer chunks).1[n]? = some (tag, .ok payload)) :
    ∃ before opening rest after, chunks = before ++ (tag, opening ++ sync :: rest) :: after ∧
      (format.drainAll buffer (before.map Prod.snd ++ [opening])).1.length = n ∧
      (format.drainAll buffer (before.map Prod.snd ++ [opening ++ [sync]])).1[n]? =
        some (.ok payload) := by
  induction chunks generalizing buffer n with
  | nil => cases found
  | cons chunk chunks ih =>
    obtain ⟨own, octets⟩ := chunk
    obtain ⟨results, left⟩ := format.verdicts_drain (buffer ++ octets)
    simp only [drainTagged] at found
    by_cases here : n < (format.drain (buffer ++ octets)).1.length
    · rw [List.getElem?_append_left (by simpa using here), List.getElem?_map,
        Option.map_eq_some_iff] at found
      obtain ⟨result, found, same⟩ := found
      cases same
      have verdict : (format.verdicts (buffer ++ octets))[n]? = some (some payload) := by
        rw [← results, List.getElem?_map, found]
        rfl
      obtain ⟨opening, rest, rfl, counted, last⟩ :=
        format.exists_closing_sync_of_append settled verdict
      refine ⟨[], opening, rest, chunks, rfl, ?_, ?_⟩
      · simpa [drainAll, length_drain] using counted
      · rw [← (format.verdicts_drain _).1, List.getElem?_map, Option.map_eq_some_iff] at last
        obtain ⟨result, found, intact⟩ := last
        rw [toOption_eq_some_iff.mp intact] at found
        simpa [drainAll] using found
    · have later : (format.drain (buffer ++ octets)).1.length ≤ n := Nat.le_of_not_lt here
      have drained : format.verdicts (format.drain (buffer ++ octets)).2 = [] := by
        rw [left, format.verdicts_remainder]
      rw [List.getElem?_append_right (by simpa using later), List.length_map] at found
      obtain ⟨before, opening, rest, after, split, counted, last⟩ := ih drained found
      refine ⟨(own, octets) :: before, opening, rest, after, ?_, ?_, ?_⟩
      · rw [split, List.cons_append]
      · simp only [List.map_cons, List.cons_append, drainAll, List.length_append, counted]
        omega
      · simp only [List.map_cons, List.cons_append, drainAll]
        rw [List.getElem?_append_right later, last]

end

end SolarTelemetry.FrameFormat
