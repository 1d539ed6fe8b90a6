import SolarTelemetry.Proofs.Channel.Punctuality
import SolarTelemetry.Proofs.Frame.Attribution

/-!
# Reading until a deadline

What a stream will yield until a moment is its timeline: the results of feeding all that arrives to
the decoder, each at the moment of the delivery that completed it, and then the failure of the
channel, if it fails. A read takes the first entry of the timeline and leaves the others.
-/

namespace SolarTelemetry

namespace FrameFormat

variable (format : FrameFormat) {τ : Type}

/-- What is buffered can be drained before anything is appended to it. -/
theorem drainTagged_cons_of_some {buffer rest : Bytes} {result : Except FrameError Bytes}
    (decoded : format.decode buffer = (some result, rest)) (tag : τ) (chunks : List (τ × Bytes)) :
    format.drainTagged [] ((tag, buffer) :: chunks) =
      let (more, left) := format.drainTagged [] ((tag, rest) :: chunks)
      ((tag, result) :: more, left) := by
  simp [drainTagged, format.drain_of_some decoded]

theorem drainTagged_cons_of_none {buffer rest : Bytes}
    (decoded : format.decode buffer = (none, rest)) (tag : τ) (chunks : List (τ × Bytes)) :
    format.drainTagged [] ((tag, buffer) :: chunks) = format.drainTagged rest chunks := by
  simp [drainTagged, format.drain_of_none decoded]

/-- Results come at the moments of the chunks, and in their order. -/
theorem drainTagged_sorted (moment : τ → Nat) {chunks : List (τ × Bytes)}
    (sorted : (chunks.map fun chunk => moment chunk.1).Pairwise (· ≤ ·)) (buffer : Bytes) :
    let moments := (format.drainTagged buffer chunks).1.map fun result => moment result.1
    moments.Pairwise (· ≤ ·) ∧ ∀ m ∈ moments, m ∈ chunks.map fun chunk => moment chunk.1 := by
  induction chunks generalizing buffer with
  | nil => exact ⟨.nil, nofun⟩
  | cons chunk chunks ih =>
    obtain ⟨tag, octets⟩ := chunk
    obtain ⟨later, sorted⟩ := List.pairwise_cons.mp sorted
    obtain ⟨rest, among⟩ := ih sorted (format.drain (buffer ++ octets)).2
    have own : (format.drain (buffer ++ octets)).1.map (fun _ => moment tag) =
        List.replicate (format.drain (buffer ++ octets)).1.length (moment tag) := List.map_const' ..
    simp only [drainTagged, List.map_append, List.map_map, Function.comp_def, own]
    refine ⟨List.pairwise_append.mpr ⟨?_, rest, ?_⟩, ?_⟩
    · exact List.pairwise_replicate.mpr (.inr (Nat.le_refl _))
    · intro m member m' member'
      rw [List.eq_of_mem_replicate member]
      exact later m' (among m' member')
    · intro m member
      rcases List.mem_append.mp member with member | member
      · rw [List.eq_of_mem_replicate member]
        exact List.mem_cons_self
      · exact List.mem_cons_of_mem _ (among m member)

end FrameFormat

namespace FrameStream

variable {σ : Type} [Channel σ] {f : FrameStream σ} {deadline : Nat}

/-- A result of the decoder, with the moment and the sender of the delivery that completed it. -/
def entry : (Nat × Address) × Except FrameError Bytes → Nat × Except Error Delivery
  | ((moment, source), .ok payload) => (moment, .ok ⟨source, payload⟩)
  | ((moment, _), .error e) => (moment, .error (.frame e))

/-- What a stream yields until a moment, and when: what is buffered counts as completed now. -/
def timeline (deadline : Nat) (f : FrameStream σ) : List (Nat × Except Error Delivery) :=
  let arrivals := Channel.arrivals deadline f.channel
  let chunks := arrivals.deliveries.map fun (moment, d) => ((moment, d.source), d.payload)
  (f.format.drainTagged [] (((Clock.now f, f.source), f.buffer) :: chunks)).1.map entry ++
    arrivals.failure.toList.map fun (moment, e) => (moment, .error e)

theorem timeline_of_result {result : Except FrameError Bytes} {rest : Bytes}
    (decoded : f.format.decode f.buffer = (some result, rest)) :
    timeline deadline f =
      entry ((Clock.now f, f.source), result) :: timeline deadline { f with buffer := rest } := by
  simp only [timeline, f.format.drainTagged_cons_of_some decoded]
  rfl

theorem timeline_of_late {rest : Bytes} (decoded : f.format.decode f.buffer = (none, rest))
    (late : deadline ≤ Clock.now f.channel) : timeline deadline f = [] := by
  simp only [timeline, f.format.drainTagged_cons_of_none decoded, Channel.arrivals_of_late late]
  rfl

/-- What has arrived can be put into the buffer before it is drained. -/
theorem timeline_of_none {rest : Bytes} (decoded : f.format.decode f.buffer = (none, rest))
    (early : Clock.now f.channel < deadline) :
    timeline deadline f =
      match Channel.receive (deadline - Clock.now f.channel) f.channel with
      | .error e c => [(Clock.now c, .error e)]
      | .ok none _ => []
      | .ok (some d) channel => timeline deadline
          { f with channel, buffer := rest ++ d.payload, source := d.source } := by
  simp only [timeline, f.format.drainTagged_cons_of_none decoded, Channel.arrivals_eq early]
  rcases Channel.receive (deadline - Clock.now f.channel) f.channel with
    ⟨_ | d, channel⟩ | ⟨e, channel⟩
  · rfl
  · simp only [List.map_cons, FrameFormat.drainTagged, List.nil_append]
    rfl
  · rfl

theorem fst_entry (tagged : (Nat × Address) × Except FrameError Bytes) :
    (entry tagged).1 = tagged.1.1 := by
  obtain ⟨⟨moment, source⟩, payload | e⟩ := tagged <;> rfl

/-- Time goes on along a timeline. -/
theorem timeline_sorted (punctual : Channel.Punctual f.channel) (deadline : Nat) :
    (Clock.now f :: (timeline deadline f).map Prod.fst).Pairwise (· ≤ ·) := by
  let arrivals := Channel.arrivals deadline f.channel
  let chunks := ((Clock.now f, f.source), f.buffer) ::
    arrivals.deliveries.map fun (moment, d) => ((moment, d.source), d.payload)
  have ordered : (Clock.now f :: arrivals.moments).Pairwise (· ≤ ·) :=
    punctual.moments_sorted deadline
  rw [Channel.Arrivals.moments, ← List.cons_append, List.pairwise_append] at ordered
  obtain ⟨delivered, failed, between⟩ := ordered
  have same : chunks.map (·.1.1) = Clock.now f :: arrivals.deliveries.map Prod.fst := by
    simp [chunks, Function.comp_def]
  obtain ⟨sorted, among⟩ := f.format.drainTagged_sorted Prod.fst (same ▸ delivered) []
  rw [same] at among
  have later : ∀ m ∈ Clock.now f :: arrivals.deliveries.map Prod.fst, Clock.now f ≤ m := by
    intro m member
    rcases List.mem_cons.mp member with rfl | member
    · exact Nat.le_refl _
    · exact List.rel_of_pairwise_cons delivered member
  simp only [timeline, List.map_append, List.map_map, Function.comp_def, fst_entry]
  refine List.pairwise_cons.mpr ⟨?_, List.pairwise_append.mpr ⟨sorted, failed, ?_⟩⟩
  · intro m member
    rcases List.mem_append.mp member with member | member
    · exact later m (among m member)
    · exact between _ List.mem_cons_self m member
  · intro m member m' member'
    exact between m (among m member) m' member'

/-- A frame that is read is the first entry of the timeline, at its moment, and the others are left.
A read that fails does so with the first entry, or at the deadline, if there is none. -/
theorem readUntil_timeline (punctual : Channel.Punctual f.channel)
    (begun : Clock.now f ≤ deadline) :
    match readUntil deadline f with
    | .ok frame g =>
      Channel.Punctual g.channel ∧ Clock.now g ≤ deadline ∧
        timeline deadline f = (Clock.now g, .ok frame) :: timeline deadline g
    | .error e g =>
      Clock.now g ≤ deadline ∧
        (timeline deadline f = [] ∧ Clock.now g = deadline ∨
          ∃ later, timeline deadline f = (Clock.now g, .error e) :: later) := by
  have kept {f : FrameStream σ} (punctual : Channel.Punctual f.channel)
      (early : Clock.now f.channel < deadline) :
      let next := Outcome.state (Channel.receive (deadline - Clock.now f.channel) f.channel)
      Channel.Punctual next ∧ Clock.now next ≤ deadline := by
    have prompt := (punctual.timely (deadline - Clock.now f.channel)).prompt
    rw [Nat.add_sub_cancel' (Nat.le_of_lt early)] at prompt
    exact ⟨punctual.receive _, prompt⟩
  fun_induction readUntil deadline f with
  | case1 f payload rest decoded => exact ⟨punctual, begun, timeline_of_result decoded⟩
  | case2 f e rest decoded => exact ⟨begun, .inr ⟨_, timeline_of_result decoded⟩⟩
  | case3 f rest decoded now late =>
    exact ⟨begun, .inl ⟨timeline_of_late decoded late, Nat.le_antisymm begun late⟩⟩
  | case4 f rest decoded now early e channel received =>
    have inTime : Clock.now f.channel < deadline := Nat.lt_of_not_le early
    have next := kept punctual inTime
    rw [received] at next
    exact ⟨next.2, .inr ⟨[], by rw [timeline_of_none decoded inTime, received]; rfl⟩⟩
  | case5 f rest decoded now early channel received =>
    have inTime : Clock.now f.channel < deadline := Nat.lt_of_not_le early
    have patient := (punctual.timely (deadline - Clock.now f.channel)).patient
    rw [received, Nat.add_sub_cancel' (Nat.le_of_lt inTime)] at patient
    have elapsed : Clock.now channel = deadline := patient rfl
    exact ⟨Nat.le_of_eq elapsed, .inl ⟨by rw [timeline_of_none decoded inTime, received], elapsed⟩⟩
  | case6 f rest decoded now early d channel received ih =>
    have inTime : Clock.now f.channel < deadline := Nat.lt_of_not_le early
    have next := kept punctual inTime
    rw [received] at next
    rw [timeline_of_none decoded inTime, received]
    exact ih next.1 next.2

section

variable {α τ : Type} [Clock τ] {look : Delivery → Option α}

/-- The first entry that is what somebody looks for, or a fault or failure. -/
def firstOf (look : Delivery → Option α) :
    List (Nat × Except Error Delivery) → Option (Nat × Except Error α)
  | [] => none
  | (moment, .error e) :: _ => some (moment, .error e)
  | (moment, .ok frame) :: entries =>
    match look frame with
    | some a => some (moment, .ok a)
    | none => firstOf look entries

/-- What becomes of looking for something on a stream until a deadline. The first entry that ends
the search strictly before the deadline is the outcome, at its moment. Without one the search ends
at the deadline, and what it finds even then is the first of its kind. -/
structure Finds (deadline : Nat) (f : FrameStream σ) (look : Delivery → Option α)
    (outcome : Outcome τ α) : Prop where
  ended : Clock.now (Outcome.state outcome) ≤ deadline
  found : ∀ moment result,
    firstOf look ((timeline deadline f).filter (·.1 < deadline)) = some (moment, result) →
      Outcome.result outcome = result ∧ Clock.now (Outcome.state outcome) = moment
  missed : firstOf look ((timeline deadline f).filter (·.1 < deadline)) = none →
    Clock.now (Outcome.state outcome) = deadline
  first : ∀ a, Outcome.result outcome = .ok a →
    firstOf look (timeline deadline f) = some (Clock.now (Outcome.state outcome), .ok a)

variable {outcome : Outcome τ α} {moment : Nat}

theorem filter_of_late {entries : List (Nat × Except Error Delivery)}
    (sorted : (moment :: entries.map Prod.fst).Pairwise (· ≤ ·)) (late : deadline ≤ moment) :
    entries.filter (·.1 < deadline) = [] := by
  rw [List.filter_eq_nil_iff]
  intro entry member
  have after := List.rel_of_pairwise_cons sorted (List.mem_map_of_mem member)
  simpa using Nat.le_trans late after

/-- A search that ends at the deadline and finds nothing is one for which nothing came in time. -/
theorem Finds.of_nothing
    (nothing : (timeline deadline f).filter (·.1 < deadline) = []) {e : Error}
    (failed : Outcome.result outcome = .error e)
    (elapsed : Clock.now (Outcome.state outcome) = deadline) : Finds deadline f look outcome := by
  refine ⟨Nat.le_of_eq elapsed, ?_, fun _ => elapsed, ?_⟩
  · intro moment result found
    rw [nothing] at found
    cases found
  · intro a found
    rw [failed] at found
    cases found

/-- What is not looked for is passed over. -/
theorem Finds.pass {g : FrameStream σ} {frame : Delivery}
    (next : timeline deadline f = (moment, .ok frame) :: timeline deadline g)
    (other : look frame = none) (finds : Finds deadline g look outcome) :
    Finds deadline f look outcome := by
  have passed (entries : List (Nat × Except Error Delivery)) :
      firstOf look ((moment, .ok frame) :: entries) = firstOf look entries := by
    rw [firstOf, other]
  have skipped : firstOf look ((timeline deadline f).filter (·.1 < deadline)) =
      firstOf look ((timeline deadline g).filter (·.1 < deadline)) := by
    rw [next, List.filter_cons]
    split
    · exact passed _
    · rfl
  refine ⟨finds.ended, ?_, ?_, ?_⟩
  · rw [skipped]
    exact finds.found
  · rw [skipped]
    exact finds.missed
  · rw [next, passed]
    exact finds.first

theorem firstOf_cons (look : Delivery → Option α) (entry : Nat × Except Error Delivery)
    (entries : List (Nat × Except Error Delivery)) :
    firstOf look (entry :: entries) = (firstOf look [entry]).or (firstOf look entries) := by
  obtain ⟨moment, e | frame⟩ := entry
  · rfl
  · simp only [firstOf]
    cases look frame <;> rfl

theorem fst_of_firstOf {entry : Nat × Except Error Delivery} {result : Except Error α}
    (decides : firstOf look [entry] = some (moment, result)) : entry.1 = moment := by
  obtain ⟨moment, e | frame⟩ := entry
  · cases decides
    rfl
  · cases seen : look frame with
    | none =>
      rw [firstOf, seen] at decides
      cases decides
    | some a =>
      rw [firstOf, seen] at decides
      cases decides
      rfl

/-- An entry that ends the search does so whatever comes later. -/
theorem Finds.of_entry (punctual : Channel.Punctual f.channel)
    {entry : Nat × Except Error Delivery} {later : List (Nat × Except Error Delivery)}
    (next : timeline deadline f = entry :: later)
    (decides : firstOf look [entry] = some (moment, Outcome.result outcome))
    (ended : Clock.now (Outcome.state outcome) = moment) (soon : moment ≤ deadline) :
    Finds deadline f look outcome := by
  have same : entry.1 = moment := fst_of_firstOf decides
  have whole (others : List (Nat × Except Error Delivery)) :
      firstOf look (entry :: others) = some (moment, Outcome.result outcome) := by
    rw [firstOf_cons, decides]
    rfl
  refine ⟨ended.symm ▸ soon, ?_, ?_, ?_⟩
  · intro m result found
    have early : entry.1 < deadline := by
      by_contra late
      have sorted := (next ▸ timeline_sorted punctual deadline).tail
      rw [next, List.filter_cons_of_neg (by simpa using late),
        filter_of_late sorted (Nat.le_of_not_lt late)] at found
      cases found
    rw [next, List.filter_cons_of_pos (by simpa using early), whole] at found
    cases found
    exact ⟨rfl, ended⟩
  · intro missed
    have late : ¬ entry.1 < deadline := by
      intro early
      rw [next, List.filter_cons_of_pos (by simpa using early), whole] at missed
      cases missed
    omega
  · intro a found
    rw [next, whole, found, ended]

/-- A search fails with what a read fails with. -/
theorem Finds.of_failed (punctual : Channel.Punctual f.channel) {e : Error}
    (failed : Outcome.result outcome = .error e)
    (soon : Clock.now (Outcome.state outcome) ≤ deadline)
    (cause : timeline deadline f = [] ∧ Clock.now (Outcome.state outcome) = deadline ∨
      ∃ later, timeline deadline f = (Clock.now (Outcome.state outcome), .error e) :: later) :
    Finds deadline f look outcome := by
  obtain ⟨nothing, elapsed⟩ | ⟨later, next⟩ := cause
  · have quiet : (timeline deadline f).filter (·.1 < deadline) = [] := by
      rw [nothing, List.filter_nil]
    exact .of_nothing quiet failed elapsed
  · exact .of_entry punctual next (by rw [failed]; rfl) rfl soon

/-- A timeline holds no timeout but one that the channel itself failed with. -/
theorem failure_of_timeline {what : String}
    (member : (moment, .error (.timeout what)) ∈ timeline deadline f) :
    (Channel.arrivals deadline f.channel).failure = some (moment, .timeout what) := by
  rcases List.mem_append.mp member with member | member
  · obtain ⟨⟨⟨m, source⟩, payload | e⟩, -, same⟩ := List.mem_map.mp member <;> cases same
  · obtain ⟨⟨m, e⟩, failed, same⟩ := List.mem_map.mp member
    cases same
    exact Option.mem_toList.mp failed

theorem mem_of_firstOf_error {entries : List (Nat × Except Error Delivery)} {e : Error}
    (found : firstOf look entries = some (moment, .error e)) : (moment, .error e) ∈ entries := by
  induction entries with
  | nil => cases found
  | cons entry entries ih =>
    obtain ⟨m, cause | frame⟩ := entry
    · cases found
      exact List.mem_cons_self
    · cases seen : look frame with
      | none =>
        rw [firstOf, seen] at found
        exact List.mem_cons_of_mem _ (ih found)
      | some a =>
        rw [firstOf, seen] at found
        cases found

/-- A search times out at the deadline, unless the channel itself fails with a timeout. -/
theorem Finds.timedOut (finds : Finds deadline f look outcome) {what : String}
    (late : Outcome.result outcome = .error (.timeout what)) :
    Clock.now (Outcome.state outcome) = deadline ∨
      (Channel.arrivals deadline f.channel).failure =
        some (Clock.now (Outcome.state outcome), .timeout what) := by
  cases sought : firstOf look ((timeline deadline f).filter (·.1 < deadline)) with
  | none => exact .inl (finds.missed sought)
  | some entry =>
    obtain ⟨moment, result⟩ := entry
    obtain ⟨same, ended⟩ := finds.found moment result sought
    rw [← same, late, ← ended] at sought
    exact .inr (failure_of_timeline (List.mem_filter.mp (mem_of_firstOf_error sought)).1)

end

/-- A read looks for any frame. -/
theorem finds_readUntil (punctual : Channel.Punctual f.channel) (begun : Clock.now f ≤ deadline) :
    Finds deadline f some (readUntil deadline f) := by
  have read := readUntil_timeline punctual begun
  cases ran : readUntil deadline f with
  | ok frame g =>
    rw [ran] at read
    exact .of_entry punctual read.2.2 rfl rfl read.2.1
  | error e g =>
    rw [ran] at read
    exact .of_failed punctual rfl read.1 read.2

end FrameStream

end SolarTelemetry
