import Mathlib.Data.List.TakeWhile
import SolarTelemetry.Proofs.Frame.Runs

/-!
# Decoding finds its feet

However a stream is cut into chunks, decoding yields the verdicts on its runs. So the frames found
are those of the whole stream and the faults are as many for every cutting; whatever garbage comes
first, the next intact frame is found, and frames put one after the other come out in order.
-/

namespace SolarTelemetry.FrameFormat

open SolarTelemetry.Frame

variable (format : FrameFormat)

/-- The results of a decoder to which chunks are appended one by one, each drained before the next,
and what remains in its buffer. -/
def drainAll (buffer : Bytes) : List Bytes → List (Except FrameError Bytes) × Bytes
  | [] => ([], buffer)
  | chunk :: chunks =>
    let (results, left) := format.drain (buffer ++ chunk)
    let (more, left) := drainAll left chunks
    (results ++ more, left)

theorem notMem_of_dropWhile_eq_nil {bs : Bytes} (h : bs.dropWhile (!isSync ·) = []) :
    sync ∉ bs := by
  intro member
  have kept := List.dropWhile_eq_nil_iff.mp h sync member
  exact absurd kept (by decide)

theorem split_of_dropWhile_eq_cons {bs rest : Bytes} {b : UInt8}
    (h : bs.dropWhile (!isSync ·) = b :: rest) :
    b = sync ∧ bs = bs.takeWhile (!isSync ·) ++ sync :: rest ∧
      sync ∉ bs.takeWhile (!isSync ·) := by
  have first : b = sync := by
    have := List.head?_dropWhile_not (!isSync ·) bs
    rw [h] at this
    simpa [isSync] using this
  refine ⟨first, ?_, ?_⟩
  · rw [← first, ← h, List.takeWhile_append_dropWhile]
  · intro member
    have passed := List.mem_takeWhile_imp member
    exact absurd passed (by decide)

/-- A decoding step takes the first verdict of its buffer, if there is one yet, and keeps all that
the others depend on. -/
theorem verdicts_decode (buffer : Bytes) :
    match format.decode buffer with
    | (none, rest) => format.verdicts buffer = [] ∧ remainder buffer = rest
    | (some result, rest) =>
      format.verdicts buffer = result.toOption :: format.verdicts rest ∧
        remainder buffer = remainder rest := by
  fun_induction decode format buffer with
  | case1 buffer outer =>
    have free := notMem_of_dropWhile_eq_nil outer
    exact ⟨format.verdicts_of_notMem free, remainder_of_notMem free⟩
  | case2 buffer opening rest outer inner large =>
    obtain ⟨rfl, split, clean⟩ := split_of_dropWhile_eq_cons outer
    have free := notMem_of_dropWhile_eq_nil inner
    have long : isOverlong rest := decide_eq_true large
    rw [split, verdicts_garbage _ clean, remainder_append_sync, verdicts_open _ free, if_pos long,
      remainder_open free, if_pos long]
    exact ⟨rfl, rfl⟩
  | case3 buffer opening rest outer inner fair =>
    obtain ⟨rfl, split, clean⟩ := split_of_dropWhile_eq_cons outer
    have free := notMem_of_dropWhile_eq_nil inner
    have short : ¬isOverlong rest := by simpa [isOverlong] using fair
    rw [split, verdicts_garbage _ clean, remainder_append_sync, verdicts_open _ free, if_neg short,
      remainder_open free, if_neg short]
    exact ⟨rfl, rfl⟩
  | case4 buffer opening rest outer closing more inner stuffed empty ih =>
    obtain ⟨rfl, split, clean⟩ := split_of_dropWhile_eq_cons outer
    obtain ⟨rfl, enclosed, free⟩ := split_of_dropWhile_eq_cons inner
    have nothing : rest.takeWhile (!isSync ·) = [] := List.isEmpty_iff.mp empty
    have verdicts : format.verdicts buffer = format.verdicts (sync :: more) := by
      rw [split, verdicts_garbage _ clean, enclosed, verdicts_enclosed _ free, if_pos nothing]
      rfl
    have kept : remainder buffer = remainder (sync :: more) := by
      rw [split, remainder_append_sync, enclosed, nothing, List.nil_append]
      exact remainder_append_sync [sync] more
    rw [verdicts, kept]
    exact ih
  | case5 buffer opening rest outer closing more inner stuffed full =>
    obtain ⟨rfl, split, clean⟩ := split_of_dropWhile_eq_cons outer
    obtain ⟨rfl, enclosed, free⟩ := split_of_dropWhile_eq_cons inner
    have something : rest.takeWhile (!isSync ·) ≠ [] := by simpa [stuffed] using full
    constructor
    · rw [split, verdicts_garbage _ clean, enclosed, verdicts_enclosed _ free, if_neg something]
      rfl
    · rw [split, remainder_append_sync, enclosed]
      exact remainder_append_sync (sync :: rest.takeWhile (!isSync ·)) more

theorem verdicts_drain (buffer : Bytes) :
    (format.drain buffer).1.map Except.toOption = format.verdicts buffer ∧
      (format.drain buffer).2 = remainder buffer := by
  fun_induction drain format buffer with
  | case1 buffer rest decoded =>
    have step := format.verdicts_decode buffer
    rw [decoded] at step
    exact ⟨step.1.symm, step.2.symm⟩
  | case2 buffer result rest decoded results left drained ih =>
    have step := format.verdicts_decode buffer
    rw [decoded] at step
    rw [drained] at ih
    exact ⟨by rw [step.1, ← ih.1, List.map_cons], by rw [step.2, ← ih.2]⟩

theorem drainAll_eq {buffer : Bytes} (kept : remainder buffer = buffer)
    (settled : format.verdicts buffer = []) (chunks : List Bytes) :
    (format.drainAll buffer chunks).1.map Except.toOption =
        format.verdicts (buffer ++ chunks.flatten) ∧
      (format.drainAll buffer chunks).2 = remainder (buffer ++ chunks.flatten) := by
  induction chunks generalizing buffer with
  | nil => simp [drainAll, kept, settled]
  | cons chunk chunks ih =>
    obtain ⟨results, left⟩ := format.verdicts_drain (buffer ++ chunk)
    have rest := ih (remainder_remainder (buffer ++ chunk))
      (format.verdicts_remainder (buffer ++ chunk))
    rw [← left] at rest
    rw [List.flatten_cons, ← List.append_assoc, format.verdicts_append (buffer ++ chunk),
      remainder_append (buffer ++ chunk), ← left, ← results, ← rest.1, ← rest.2, ← List.map_append]
    exact ⟨rfl, rfl⟩

theorem map_toOption_drainAll (chunks : List Bytes) :
    (format.drainAll [] chunks).1.map Except.toOption = format.verdicts chunks.flatten :=
  (format.drainAll_eq rfl rfl chunks).1

/-- An intact frame is read, whatever stands around it. -/
theorem verdicts_frame {payload : Bytes} (short : payload.length ≤ maxPayload) (after : Bytes) :
    format.verdicts (sync :: (stuff (format.assemble payload) ++ sync :: after)) =
      some payload :: format.verdicts (sync :: after) := by
  have full : stuff (format.assemble payload) ≠ [] := by
    intro empty
    have := length_stuff (format.assemble payload)
    rw [empty, format.length_assemble, List.length_nil] at this
    omega
  rw [verdicts_enclosed _ (sync_notMem_stuff _), if_neg full, verdict?,
    format.unwrap_stuff_assemble short]
  rfl

/-- Frames put one after the other, with or without a sync byte of its own for each end. -/
inductive Sequence : List Bytes → Bytes → Prop where
  | nil : Sequence [] []
  | cons {payload frame payloads stream} : format.encode payload = .ok frame →
      Sequence payloads stream → Sequence (payload :: payloads) (frame ++ stream)
  | share {payload frame next payloads stream} : format.encode payload = .ok (frame ++ [sync]) →
      Sequence (next :: payloads) stream → Sequence (payload :: next :: payloads) (frame ++ stream)

variable {format}

theorem Sequence.exists_cons {payload : Bytes} {payloads : List Bytes} {stream : Bytes}
    (h : format.Sequence (payload :: payloads) stream) : ∃ rest, stream = sync :: rest := by
  cases h with
  | cons encoded _ =>
    obtain ⟨-, rfl⟩ := format.encode_eq_ok_iff.mp encoded
    exact ⟨_, rfl⟩
  | share encoded _ =>
    obtain ⟨-, same⟩ := format.encode_eq_ok_iff.mp encoded
    rw [← List.cons_append, List.append_left_inj] at same
    rw [same]
    exact ⟨_, rfl⟩

theorem Sequence.verdicts_eq {payloads : List Bytes} {stream : Bytes}
    (h : format.Sequence payloads stream) : format.verdicts stream = payloads.map some := by
  induction h with
  | nil => rfl
  | @cons payload frame payloads stream encoded others ih =>
    obtain ⟨short, rfl⟩ := format.encode_eq_ok_iff.mp encoded
    rw [List.cons_append, List.append_assoc, List.singleton_append, format.verdicts_frame short,
      List.map_cons, ← ih]
    congr 1
    cases payloads with
    | nil =>
      cases others
      rfl
    | cons next payloads =>
      obtain ⟨rest, rfl⟩ := others.exists_cons
      exact format.verdicts_enclosed List.not_mem_nil rest
  | @share payload frame next payloads stream encoded others ih =>
    obtain ⟨short, same⟩ := format.encode_eq_ok_iff.mp encoded
    obtain ⟨rest, rfl⟩ := others.exists_cons
    rw [← List.cons_append, List.append_left_inj] at same
    rw [same, List.cons_append, format.verdicts_frame short, ih]
    rfl

theorem toOption_eq_some_iff {result : Except FrameError Bytes} {payload : Bytes} :
    result.toOption = some payload ↔ result = .ok payload := by
  cases result <;> simp [Except.toOption]

theorem eq_map_ok {results : List (Except FrameError Bytes)} {payloads : List Bytes}
    (h : results.map Except.toOption = payloads.map some) : results = payloads.map .ok := by
  induction results generalizing payloads with
  | nil =>
    cases payloads with
    | nil => rfl
    | cons => cases h
  | cons result results ih =>
    cases payloads with
    | nil => cases h
    | cons payload payloads =>
      rw [List.map_cons, List.map_cons, List.cons.injEq, toOption_eq_some_iff] at h
      rw [h.1, ih h.2, List.map_cons]

variable (format)

theorem decode_frame {payload frame : Bytes} (h : format.encode payload = .ok frame) :
    ∃ rest, format.decode frame = (some (.ok payload), rest) := by
  obtain ⟨short, rfl⟩ := format.encode_eq_ok_iff.mp h
  have step := format.verdicts_decode (sync :: (stuff (format.assemble payload) ++ [sync]))
  rw [format.verdicts_frame short] at step
  rcases found : format.decode (sync :: (stuff (format.assemble payload) ++ [sync])) with
    ⟨_ | result, rest⟩
  · rw [found] at step
    cases step.1
  · rw [found] at step
    have intact : result.toOption = some payload := (List.cons.inj step.1).1.symm
    rw [toOption_eq_some_iff.mp intact]
    exact ⟨rest, rfl⟩

/-- No two payloads are encoded alike. -/
theorem eq_of_encode {payload other frame : Bytes} (encoded : format.encode payload = .ok frame)
    (again : format.encode other = .ok frame) : payload = other := by
  obtain ⟨_, decoded⟩ := format.decode_frame encoded
  obtain ⟨_, decoded'⟩ := format.decode_frame again
  rw [decoded] at decoded'
  cases decoded'
  rfl

theorem filterMap_verdicts (stream : Bytes) :
    (format.verdicts stream).filterMap id = (runs stream).filterMap format.verdict? := by
  have silent : (if (openRun? stream).any isOverlong then [none] else
      ([] : List (Option Bytes))).filterMap id = [] := by
    split <;> rfl
  rw [verdicts, List.filterMap_append, silent, List.append_nil, List.filterMap_map]
  rfl

theorem verdict?_eq (run : Bytes) :
    format.verdict? run = (unstuff? run).bind fun raw => (format.verify raw).toOption := by
  unfold verdict? unwrap
  cases unstuff? run <;> rfl

/-- Decoding is self-synchronising and does not depend on the chunks. The payloads found are those
of the runs of the whole stream that can be unstuffed and verified, and the faults are as many for
every other cutting. The frame at the end of a stream is the last result, whatever comes before it,
and a sequence of frames yields its payloads and nothing else. -/
theorem drainAll_selfSynchronising (chunks : List Bytes) :
    let results := (format.drainAll [] chunks).1
    (results.filterMap Except.toOption =
      (runs chunks.flatten).filterMap fun run =>
        (unstuff? run).bind fun raw => (format.verify raw).toOption) ∧
    (∀ others : List Bytes, others.flatten = chunks.flatten →
      (format.drainAll [] others).1.countP (·.toOption.isNone) =
        results.countP (·.toOption.isNone)) ∧
    (∀ garbage payload : Bytes, payload.length ≤ maxPayload →
      ∃ frame, format.encode payload = .ok frame ∧
        (chunks.flatten = garbage ++ frame → results.getLast? = some (.ok payload))) ∧
    ∀ payloads : List Bytes, format.Sequence payloads chunks.flatten →
      results = payloads.map .ok := by
  intro results
  have verdicts : results.map Except.toOption = format.verdicts chunks.flatten :=
    format.map_toOption_drainAll chunks
  refine ⟨?_, ?_, ?_, ?_⟩
  · have pulled : results.filterMap Except.toOption =
        (results.map Except.toOption).filterMap id := by
      rw [List.filterMap_map]
      rfl
    rw [pulled, verdicts, filterMap_verdicts]
    congr 1
    funext run
    exact format.verdict?_eq run
  · intro others same
    have counted (rs : List (Except FrameError Bytes)) :
        rs.countP (·.toOption.isNone) = (rs.map Except.toOption).countP Option.isNone := by
      rw [List.countP_map]
      rfl
    rw [counted, counted, verdicts, format.map_toOption_drainAll, same]
  · intro garbage payload short
    refine ⟨_, format.encode_of_le short, ?_⟩
    intro split
    have last : (results.map Except.toOption).getLast? = some (some payload) := by
      rw [verdicts, split, verdicts_append_sync, format.verdicts_frame short,
        format.verdicts_open List.not_mem_nil]
      exact List.getLast?_concat
    rw [List.getLast?_map, Option.map_eq_some_iff] at last
    obtain ⟨result, final, intact⟩ := last
    rw [final, toOption_eq_some_iff.mp intact]
  · intro payloads sequence
    apply eq_map_ok
    rw [verdicts, sequence.verdicts_eq]

/-- Two frames that share a sync byte, cut inside the first. -/
theorem drainAll_selfSynchronising_shared :
    let first : Bytes := [0x7E, 0xFF, 0x03, 0x60, 0x65, 0x01, 0xC9, 0x10]
    let second : Bytes := [0x7E, 0xFF, 0x03, 0x60, 0x65, 0x02, 0x52, 0x22, 0x7E]
    FrameFormat.Sequence {} [[0x01], [0x02]] (first ++ second) ∧
      (FrameFormat.drainAll {} [] [first.take 3, first.drop 3 ++ second]).1 =
        [.ok [0x01], .ok [0x02]] := by
  intro first second
  have sequence : FrameFormat.Sequence {} [[0x01], [0x02]] (first ++ second) := by
    have alone : FrameFormat.Sequence {} [[0x02]] (second ++ []) := .cons (by decide +kernel) .nil
    exact .share (by decide +kernel) alone
  exact ⟨sequence, (drainAll_selfSynchronising {} [first.take 3, first.drop 3 ++ second]).2.2.2
    [[0x01], [0x02]] sequence⟩

end SolarTelemetry.FrameFormat
