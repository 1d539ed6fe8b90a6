import SolarTelemetry.Proofs.Frame.Residue

/-!
# Runs of a byte stream

The whole-stream reading of frames, in which no buffer occurs: the sync bytes of a stream divide it
into runs, those between two sync bytes are frames or faults, and the last one is still open. The
decoder looks at a buffer only, and drops some runs before they are closed; but what it drops no
later octet could have turned into a frame. So a buffer yields the verdicts on the runs of all that
was ever appended to it, and what it keeps is all that the verdicts to come depend on.
-/

namespace SolarTelemetry

namespace Frame

/-- What stands between two neighbouring sync bytes, as far as anything does. -/
def runs (stream : Bytes) : List Bytes :=
  (stream.splitOn sync).tail.dropLast.filter (!·.isEmpty)

/-- What follows the last sync byte, if there is one. -/
def openRun? (stream : Bytes) : Option Bytes := (stream.splitOn sync).tail.getLast?

/-- No frame is as long as this run, whatever may follow. -/
def isOverlong (run : Bytes) : Bool := maxStuffed < run.length + 1

theorem tail_splitOn_append (before after : Bytes) :
    ((before ++ sync :: after).splitOn sync).tail =
      (before.splitOn sync).tail ++ after.splitOn sync := by
  rw [List.splitOn_append_cons_self, List.tail_append_of_ne_nil (List.splitOn_ne_nil _ _)]

theorem tail_splitOn_cons (after : Bytes) :
    ((sync :: after).splitOn sync).tail = after.splitOn sync :=
  tail_splitOn_append [] after

theorem runs_append_sync (before after : Bytes) :
    runs (before ++ sync :: after) = runs (before ++ [sync]) ++ runs (sync :: after) := by
  rw [runs, runs, runs, tail_splitOn_append, tail_splitOn_append, tail_splitOn_cons,
    List.dropLast_append_of_ne_nil (List.splitOn_ne_nil _ _), List.splitOn_nil,
    List.dropLast_concat, List.filter_append]

theorem openRun?_append_sync (before after : Bytes) :
    openRun? (before ++ sync :: after) = openRun? (sync :: after) := by
  rw [openRun?, openRun?, tail_splitOn_append, tail_splitOn_cons, List.getLast?_append,
    List.getLast?_eq_some_getLast (List.splitOn_ne_nil _ _), Option.some_or]

theorem openRun?_of_notMem {stream : Bytes} (free : sync ∉ stream) : openRun? stream = none := by
  simp [openRun?, List.splitOn_eq_singleton free]

theorem runs_of_notMem {stream : Bytes} (free : sync ∉ stream) : runs stream = [] := by
  simp [runs, List.splitOn_eq_singleton free]

theorem openRun?_sync_of_notMem {run : Bytes} (free : sync ∉ run) :
    openRun? (sync :: run) = some run := by
  rw [openRun?, tail_splitOn_cons, List.splitOn_eq_singleton free]
  rfl

theorem runs_sync_of_notMem {run : Bytes} (free : sync ∉ run) : runs (sync :: run) = [] := by
  rw [runs, tail_splitOn_cons, List.splitOn_eq_singleton free]
  rfl

/-- Octets before the first sync byte belong to no run. -/
theorem runs_garbage {garbage : Bytes} (free : sync ∉ garbage) : runs (garbage ++ [sync]) = [] := by
  rw [runs, tail_splitOn_append, List.splitOn_eq_singleton free]
  rfl

theorem runs_enclosed {run : Bytes} (free : sync ∉ run) :
    runs (sync :: (run ++ [sync])) = if run = [] then [] else [run] := by
  rw [runs, tail_splitOn_cons, List.splitOn_append_cons_self_of_not_mem free]
  cases run <;> rfl

theorem openRun?_eq_none_iff {stream : Bytes} : openRun? stream = none ↔ sync ∉ stream := by
  constructor
  · intro closed member
    obtain ⟨before, after, rfl⟩ := List.append_of_mem member
    rw [openRun?, tail_splitOn_append] at closed
    simp at closed
  · exact openRun?_of_notMem

theorem exists_of_openRun? {stream run : Bytes} (h : openRun? stream = some run) :
    ∃ before, stream = before ++ sync :: run ∧ sync ∉ run := by
  have member : sync ∈ stream := by
    apply Classical.byContradiction
    intro free
    rw [openRun?_of_notMem free] at h
    cases h
  obtain ⟨after, before, split, free⟩ :=
    List.eq_append_cons_of_mem (List.mem_reverse.mpr member)
  have reversed := congrArg List.reverse split
  simp only [List.reverse_reverse, List.reverse_append, List.reverse_cons, List.append_assoc,
    List.singleton_append] at reversed
  have last : sync ∉ after.reverse := by simpa using free
  rw [reversed, openRun?_append_sync, openRun?_sync_of_notMem last] at h
  cases h
  exact ⟨before.reverse, reversed, last⟩

/-- What a decoder has to keep of a stream. -/
def remainder (stream : Bytes) : Bytes :=
  match openRun? stream with
  | some run => if isOverlong run then [] else sync :: run
  | none => []

theorem remainder_append_sync (before after : Bytes) :
    remainder (before ++ sync :: after) = remainder (sync :: after) := by
  rw [remainder, remainder, openRun?_append_sync]

theorem remainder_of_notMem {stream : Bytes} (free : sync ∉ stream) : remainder stream = [] := by
  rw [remainder, openRun?_of_notMem free]

theorem remainder_open {run : Bytes} (free : sync ∉ run) :
    remainder (sync :: run) = if isOverlong run then [] else sync :: run := by
  rw [remainder, openRun?_sync_of_notMem free]

theorem isOverlong_append {run : Bytes} (long : isOverlong run) (more : Bytes) :
    isOverlong (run ++ more) := by
  have beyond : maxStuffed < run.length + 1 := of_decide_eq_true long
  apply decide_eq_true
  rw [List.length_append]
  omega

theorem remainder_overlong {run : Bytes} (free : sync ∉ run) (long : isOverlong run)
    (more : Bytes) : remainder (sync :: (run ++ more)) = remainder more := by
  by_cases member : sync ∈ more
  · obtain ⟨garbage, after, rfl, -⟩ := List.eq_append_cons_of_mem member
    have joined := remainder_append_sync (sync :: (run ++ garbage)) after
    rw [List.cons_append, List.append_assoc] at joined
    rw [joined, remainder_append_sync]
  · have still : sync ∉ run ++ more := by simp [free, member]
    rw [remainder_open still, if_pos (isOverlong_append long more), remainder_of_notMem member]

theorem remainder_append (stream more : Bytes) :
    remainder (stream ++ more) = remainder (remainder stream ++ more) := by
  cases kept : openRun? stream with
  | none =>
    have free := openRun?_eq_none_iff.mp kept
    rw [remainder_of_notMem free, List.nil_append]
    by_cases member : sync ∈ more
    · obtain ⟨garbage, after, rfl, -⟩ := List.eq_append_cons_of_mem member
      rw [← List.append_assoc, remainder_append_sync, remainder_append_sync]
    · have still : sync ∉ stream ++ more := by simp [free, member]
      rw [remainder_of_notMem still, remainder_of_notMem member]
  | some run =>
    obtain ⟨before, rfl, free⟩ := exists_of_openRun? kept
    rw [List.append_assoc, List.cons_append, remainder_append_sync, remainder_append_sync,
      remainder_open free]
    by_cases long : isOverlong run
    · rw [if_pos long, remainder_overlong free long]
      rfl
    · rw [if_neg long]
      rfl

theorem remainder_remainder (stream : Bytes) : remainder (remainder stream) = remainder stream := by
  have whole := remainder_append stream []
  rwa [List.append_nil, List.append_nil, eq_comm] at whole

end Frame

open SolarTelemetry.Frame

namespace FrameFormat

variable (format : FrameFormat)

def verdict? (run : Bytes) : Option Bytes := (format.unwrap run).toOption

/-- The verdicts on the closed runs of a stream, and a fault where the open one is overlong. -/
def verdicts (stream : Bytes) : List (Option Bytes) :=
  (runs stream).map format.verdict? ++ if (openRun? stream).any isOverlong then [none] else []

theorem verdicts_append_sync (before after : Bytes) :
    format.verdicts (before ++ sync :: after) =
      (runs (before ++ [sync])).map format.verdict? ++ format.verdicts (sync :: after) := by
  rw [verdicts, verdicts, runs_append_sync, openRun?_append_sync, List.map_append,
    List.append_assoc]

theorem verdicts_of_notMem {stream : Bytes} (free : sync ∉ stream) :
    format.verdicts stream = [] := by
  rw [verdicts, runs_of_notMem free, openRun?_of_notMem free]
  rfl

theorem verdicts_garbage {garbage : Bytes} (free : sync ∉ garbage) (after : Bytes) :
    format.verdicts (garbage ++ sync :: after) = format.verdicts (sync :: after) := by
  rw [verdicts_append_sync, runs_garbage free]
  rfl

theorem verdicts_open {run : Bytes} (free : sync ∉ run) :
    format.verdicts (sync :: run) = if isOverlong run then [none] else [] := by
  rw [verdicts, runs_sync_of_notMem free, openRun?_sync_of_notMem free]
  rfl

theorem verdicts_enclosed {run : Bytes} (free : sync ∉ run) (after : Bytes) :
    format.verdicts (sync :: (run ++ sync :: after)) =
      (if run = [] then [] else [format.verdict? run]) ++ format.verdicts (sync :: after) := by
  have split := format.verdicts_append_sync (sync :: run) after
  rw [List.cons_append, List.cons_append, runs_enclosed free] at split
  rw [split]
  by_cases empty : run = []
  · rw [if_pos empty, if_pos empty]
    rfl
  · rw [if_neg empty, if_neg empty]
    rfl

theorem length_le_of_unstuff? {stuffed raw : Bytes} (h : unstuff? stuffed = some raw) :
    stuffed.length ≤ 2 * raw.length := by
  fun_induction unstuff? stuffed generalizing raw with
  | case1 => simp
  | case2 => cases h
  | case3 b other =>
    cases h
    simp
  | case4 next bs ih =>
    obtain ⟨rest, undone, rfl⟩ := Option.map_eq_some_iff.mp h
    have := ih undone
    simp only [List.length_cons]
    omega
  | case5 b next bs other ih =>
    obtain ⟨rest, undone, rfl⟩ := Option.map_eq_some_iff.mp h
    have := ih undone
    simp only [List.length_cons] at this ⊢
    omega

/-- The bound on the stuffed octets never rejects what the bound on the frame would let pass: even
with every octet escaped, an overlong run is no frame. -/
theorem verdict?_of_isOverlong {run : Bytes} (long : isOverlong run) :
    format.verdict? run = none := by
  have beyond : maxStuffed < run.length + 1 := of_decide_eq_true long
  unfold verdict? unwrap
  cases undone : unstuff? run with
  | none => rfl
  | some raw =>
    have half := length_le_of_unstuff? undone
    have tooLong : maxLength < raw.length := by
      have : maxStuffed = 2 * maxLength + 1 := rfl
      omega
    have notShort : ¬raw.length < 6 := by
      have : maxLength = 527 := rfl
      omega
    simp only [verify, if_neg notShort, if_pos tooLong]
    rfl

/-- An overlong run costs one fault, whether it is closed later or given up now. -/
theorem verdicts_overlong {run : Bytes} (free : sync ∉ run) (long : isOverlong run) (more : Bytes) :
    format.verdicts (sync :: (run ++ more)) = none :: format.verdicts more := by
  by_cases member : sync ∈ more
  · obtain ⟨garbage, after, rfl, clean⟩ := List.eq_append_cons_of_mem member
    have enclosed : sync ∉ run ++ garbage := by simp [free, clean]
    have full : run ++ garbage ≠ [] := by
      intro empty
      have longer := isOverlong_append long garbage
      rw [empty] at longer
      exact absurd longer (by decide)
    rw [← List.append_assoc, verdicts_enclosed _ enclosed, if_neg full,
      verdict?_of_isOverlong _ (isOverlong_append long garbage), verdicts_garbage _ clean]
    rfl
  · have still : sync ∉ run ++ more := by simp [free, member]
    rw [verdicts_open _ still, if_pos (isOverlong_append long more), verdicts_of_notMem _ member]

/-- What is kept of a stream is enough to go on with. -/
theorem verdicts_append (stream more : Bytes) :
    format.verdicts (stream ++ more) =
      format.verdicts stream ++ format.verdicts (remainder stream ++ more) := by
  cases kept : openRun? stream with
  | none =>
    have free := openRun?_eq_none_iff.mp kept
    rw [verdicts_of_notMem _ free, remainder_of_notMem free]
    by_cases member : sync ∈ more
    · obtain ⟨garbage, after, rfl, clean⟩ := List.eq_append_cons_of_mem member
      have garbled : sync ∉ stream ++ garbage := by simp [free, clean]
      rw [← List.append_assoc, verdicts_garbage _ garbled, List.nil_append, List.nil_append,
        verdicts_garbage _ clean]
    · have still : sync ∉ stream ++ more := by simp [free, member]
      rw [verdicts_of_notMem _ still, List.nil_append, List.nil_append, verdicts_of_notMem _ member]
  | some run =>
    obtain ⟨before, rfl, free⟩ := exists_of_openRun? kept
    rw [List.append_assoc, List.cons_append, verdicts_append_sync, verdicts_append_sync,
      remainder_append_sync, verdicts_open _ free, remainder_open free, List.append_assoc]
    by_cases long : isOverlong run
    · rw [if_pos long, if_pos long, verdicts_overlong _ free long]
      rfl
    · rw [if_neg long, if_neg long]
      rfl

theorem verdicts_remainder (stream : Bytes) : format.verdicts (remainder stream) = [] := by
  have whole := format.verdicts_append stream []
  rwa [List.append_nil, List.append_nil, List.self_eq_append_right] at whole

end FrameFormat

end SolarTelemetry
