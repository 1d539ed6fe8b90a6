import SolarTelemetry.Proofs.Link.Reading
import SolarTelemetry.Proofs.Packet.Stream

/-!
# Links that carry data

Once the devices are known, handling a packet cannot fail, and which payloads are completed depends
on the parts held, on the addresses and on the packets alone. So the payloads that a stream of
packets completes are the same however it arrives.
-/

namespace SolarTelemetry.Link

/-- What a packet does to a link that carries data. -/
def digest (p : Packet) (link : Link) : Link :=
  match p.command? with
  | some .signalReport => noteSignal p link
  | some .data => takeData true p link
  | some .dataPart => takeData false p link
  | _ => link

theorem Phase.takesData_iff {phase : Phase} :
    phase.takesData ↔ phase = .deviceListKnown ∨ phase = .connected := by
  cases phase <;> simp [takesData]

theorem fault?_of_takesData {link : Link} (takes : link.phase.takesData) : link.fault? = none := by
  unfold fault?
  rcases Phase.takesData_iff.mp takes with phase | phase <;> rw [phase]

theorem handle_of_takesData {link : Link} (takes : link.phase.takesData) (p : Packet) :
    handle p link = .ok () (digest p link) := by
  have carries := Phase.takesData_iff.mp takes
  unfold handle digest
  cases p.command? with
  | none => rfl
  | some command =>
    cases command with
    | idExchange => rcases carries with phase | phase <;> simp only [joinNetwork, phase]
    | address =>
      change EStateM.Result.ok _ (noteAddresses p link) = _
      rcases carries with phase | phase <;> simp only [noteAddresses, phase]
    | topology =>
      change EStateM.Result.ok _ (noteDevices p link) = _
      rcases carries with phase | phase <;> simp only [noteDevices, phase]
    | signalReport | data | dataPart | signalQuery => rfl

/-- Of a link that carries data, a packet changes no more than what it is there to change. -/
theorem exists_digest_eq (p : Packet) (link : Link) :
    ∃ signal queue parts, digest p link = { link with signal, queue, parts } := by
  have data (last : Bool) :
      ∃ signal queue parts, takeData last p link = { link with signal, queue, parts } := by
    unfold takeData
    split
    · split <;> exact ⟨_, _, _, rfl⟩
    · exact ⟨_, _, _, rfl⟩
  unfold digest
  split
  · unfold noteSignal
    split <;> exact ⟨_, _, _, rfl⟩
  · exact data true
  · exact data false
  · exact ⟨_, _, _, rfl⟩

def digestAll (ps : List Packet) (link : Link) : Link := ps.foldl (fun link p => digest p link) link

theorem exists_digestAll_eq (ps : List Packet) (link : Link) :
    ∃ signal queue parts, digestAll ps link = { link with signal, queue, parts } := by
  induction ps generalizing link with
  | nil => exact ⟨_, _, _, rfl⟩
  | cons p ps ih =>
    obtain ⟨_, _, _, first⟩ := exists_digest_eq p link
    obtain ⟨_, _, _, others⟩ := ih (digest p link)
    change ∃ signal queue parts, digestAll ps (digest p link) = _
    rw [others, first]
    exact ⟨_, _, _, rfl⟩

theorem phase_digest (p : Packet) (link : Link) : (digest p link).phase = link.phase := by
  obtain ⟨_, _, _, eq⟩ := exists_digest_eq p link
  rw [eq]

theorem phase_digestAll (ps : List Packet) (link : Link) :
    (digestAll ps link).phase = link.phase := by
  obtain ⟨_, _, _, eq⟩ := exists_digestAll_eq ps link
  rw [eq]

theorem transport_digestAll (ps : List Packet) (link : Link) :
    (digestAll ps link).transport = link.transport := by
  obtain ⟨_, _, _, eq⟩ := exists_digestAll_eq ps link
  rw [eq]

theorem handleAll_of_takesData {link : Link} (takes : link.phase.takesData) (ps : List Packet) :
    handleAll ps link = .ok () (digestAll ps link) := by
  induction ps generalizing link with
  | nil => rfl
  | cons p ps ih =>
    have still : (digest p link).phase.takesData := by rwa [phase_digest]
    exact (Action.bind_of_ok (handle_of_takesData takes p)).trans (ih still)

/-- What two links have in common that complete the same payloads. -/
structure Alike (a b : Link) : Prop where
  phase : a.phase = b.phase
  info : a.info = b.info
  parts : a.parts = b.parts

namespace Alike

theorem takeData {a b : Link} (alike : Alike a b) (last : Bool) (p : Packet) :
    Alike (takeData last p a) (takeData last p b) ∧
      (a.queue = b.queue → (Link.takeData last p a).queue = (Link.takeData last p b).queue) := by
  obtain ⟨phase, info, parts⟩ := alike
  unfold Link.takeData isForThisEnd
  simp only [phase, info, parts]
  by_cases taken : b.phase.takesData && (p.destination == b.info.ownAddress ||
    p.destination.reachesAll)
  · simp only [taken, if_true]
    rcases b.parts.accept p.source p.payload last with ⟨_ | payload, parts⟩
    · exact ⟨⟨rfl, rfl, rfl⟩, id⟩
    · exact ⟨⟨rfl, rfl, rfl⟩, fun _ => rfl⟩
  · simp only [taken, if_false, Bool.false_eq_true]
    exact ⟨⟨phase, info, parts⟩, id⟩

theorem digest {a b : Link} (alike : Alike a b) (p : Packet) :
    Alike (digest p a) (digest p b) ∧
      (a.queue = b.queue → (Link.digest p a).queue = (Link.digest p b).queue) := by
  unfold Link.digest
  split
  · unfold noteSignal
    split <;> exact ⟨⟨alike.phase, alike.info, alike.parts⟩, id⟩
  · exact alike.takeData true p
  · exact alike.takeData false p
  · exact ⟨alike, id⟩

theorem completed? {a b : Link} (alike : Alike a b) (takes : a.phase.takesData) (p : Packet) :
    completed? p a = completed? p b := by
  have empty : Alike { a with queue := none } { b with queue := none } :=
    ⟨alike.phase, alike.info, alike.parts⟩
  have also : b.phase.takesData := alike.phase ▸ takes
  unfold Link.completed?
  rw [@handle_of_takesData { a with queue := none } takes,
    @handle_of_takesData { b with queue := none } also]
  exact (empty.digest p).2 rfl

theorem digestAll {a b : Link} (alike : Alike a b) (ps : List Packet) :
    Alike (digestAll ps a) (digestAll ps b) := by
  induction ps generalizing a b with
  | nil => exact alike
  | cons p ps ih => exact ih (alike.digest p).1

theorem completions {a b : Link} (alike : Alike a b) (takes : a.phase.takesData)
    (ps : List Packet) : completions ps a = completions ps b := by
  induction ps generalizing a b with
  | nil => rfl
  | cons p ps ih =>
    have also : b.phase.takesData := alike.phase ▸ takes
    have still : (Link.digest p a).phase.takesData := by rwa [phase_digest]
    unfold Link.completions
    rw [handle_of_takesData takes, handle_of_takesData also, alike.completed? takes]
    exact congrArg ((Link.completed? p b).toList ++ ·) (ih (alike.digest p).1 still)

end Alike

theorem completions_append {link : Link} (takes : link.phase.takesData) (ps qs : List Packet) :
    completions (ps ++ qs) link = completions ps link ++ completions qs (digestAll ps link) := by
  induction ps generalizing link with
  | nil => rfl
  | cons p ps ih =>
    have still : (digest p link).phase.takesData := by rwa [phase_digest]
    rw [List.cons_append, completions, completions, handle_of_takesData takes]
    change (completed? p link).toList ++ completions (ps ++ qs) (digest p link) = _
    rw [ih still, ← List.append_assoc]
    rfl

/-- A link that has so much in its buffer. -/
def buffering (octets : Bytes) (link : Link) : Link := { link with buffer := octets }

theorem accept_of_takesData {link : Link} {octets : Bytes} (takes : link.phase.takesData)
    (sound : (Packet.drain (link.buffer ++ octets)).fault = none) :
    accept (.ok octets) link = buffering (Packet.drain (link.buffer ++ octets)).left
      (digestAll (Packet.drain (link.buffer ++ octets)).packets (buffering [] link)) := by
  have handled := @handleAll_of_takesData (buffering [] link) takes
    (Packet.drain (link.buffer ++ octets)).packets
  have emptied : ({ link with buffer := [] } : Link) = buffering [] link := rfl
  simp only [accept]
  rw [emptied, handled]
  simp only [sound]
  rfl

/-- What bursts of octets, due at their moments, carry all in all. -/
def carried (bursts : List (Nat × Bytes)) : Bytes := bursts.flatMap Prod.snd

def arrivalsOf (bursts : List (Nat × Bytes)) : List Arrival :=
  bursts.map fun (due, bs) => ⟨due, .octets bs⟩

/-- A read takes its octets off the front of what the bursts carry. -/
theorem exists_of_arriving_octets {link : Link} {bursts : List (Nat × Bytes)}
    {got : Except String Bytes} {transport : Transport} {limit : Nat}
    (arrivals : link.transport.arrivals = arrivalsOf bursts)
    (due : ∀ burst ∈ bursts, burst.1 ≤ limit) (begun : link.now ≤ limit)
    (arrived : link.arriving? = some (got, transport)) :
    ∃ octets later, got = .ok octets ∧ transport.arrivals = arrivalsOf later ∧
      carried bursts = octets ++ carried later ∧ (∀ burst ∈ later, burst.1 ≤ limit) ∧
      transport.now ≤ limit := by
  obtain ⟨next, rest, -, front, taken⟩ := exists_of_arriving arrived
  have moment := now_of_take front taken
  cases bursts with
  | nil =>
    rw [arrivals] at front
    cases front
  | cons burst bursts =>
    have first : burst.1 ≤ limit := due burst List.mem_cons_self
    have others : ∀ x ∈ bursts, x.1 ≤ limit := fun x member =>
      due x (List.mem_cons_of_mem burst member)
    obtain ⟨rfl, rfl⟩ : ⟨burst.1, .octets burst.2⟩ = next ∧ arrivalsOf bursts = rest :=
      List.cons.inj (arrivals.symm.trans front)
    have now : transport.now ≤ limit := by
      rw [moment]
      exact Nat.max_le.mpr ⟨begun, first⟩
    simp only [Transport.take?, front, Nat.lt_irrefl, if_false] at taken
    split at taken
    · cases taken
      exact ⟨burst.2, bursts, rfl, rfl, rfl, others, now⟩
    · cases taken
      refine ⟨burst.2.take Transport.chunk, (burst.1, burst.2.drop Transport.chunk) :: bursts, rfl,
        rfl, ?_, ?_, now⟩
      · change burst.2 ++ carried bursts = _ ++ (_ ++ carried bursts)
        rw [← List.append_assoc, List.take_append_drop]
      · intro x member
        rcases List.mem_cons.mp member with rfl | later
        · exact first
        · exact others x later

/-- A link that carries data, has no whole packet in its buffer, and will be sent bursts in which no
header is bad. -/
structure Steady (bursts : List (Nat × Bytes)) (link : Link) : Prop where
  takes : link.phase.takesData
  arrivals : link.transport.arrivals = arrivalsOf bursts
  settled : (Packet.drain link.buffer).packets = []
  sound : (Packet.drain (link.buffer ++ carried bursts)).fault = none

namespace Steady

variable {bursts : List (Nat × Bytes)} {link : Link}

theorem isReading (steady : Steady bursts link) : link.phase.isReading := by
  rcases Phase.takesData_iff.mp steady.takes with phase | phase <;> rw [phase] <;> rfl

theorem bursts_of_silence (steady : Steady bursts link) (silent : link.arriving? = none) :
    bursts = [] := by
  have nothing : arrivalsOf bursts = [] :=
    steady.arrivals.symm.trans (arrivals_of_silence silent steady.isReading)
  exact List.map_eq_nil_iff.mp nothing

/-- Handling what a read yields leaves the link steady, and what it completes and what is still to
come are together what all the packets complete. -/
theorem accept {got : Except String Bytes} {transport : Transport} {limit : Nat}
    (steady : Steady bursts link) (due : ∀ burst ∈ bursts, burst.1 ≤ limit)
    (begun : link.now ≤ limit) (arrived : link.arriving? = some (got, transport)) :
    ∃ later, Steady later (accept got (link.reading transport)) ∧
      (∀ burst ∈ later, burst.1 ≤ limit) ∧ transport.now ≤ limit ∧
      completions (Packet.drain (link.buffer ++ carried bursts)).packets link =
        completedBy got (link.reading transport) ++
          completions (Packet.drain ((Link.accept got (link.reading transport)).buffer ++
            carried later)).packets (Link.accept got (link.reading transport)) := by
  obtain ⟨octets, later, rfl, arrivals, split, others, now⟩ :=
    exists_of_arriving_octets steady.arrivals due begun arrived
  have all := steady.sound
  rw [split, ← List.append_assoc] at all
  have first := Packet.fault_of_append all
  have whole := Packet.drain_append (link.buffer ++ octets) (carried later)
  have handled := @accept_of_takesData (link.reading transport) octets steady.takes first
  have same : Alike link (buffering [] (link.reading transport)) := ⟨rfl, rfl, rfl⟩
  have after := same.digestAll (Packet.drain (link.buffer ++ octets)).packets
  have kept : Alike (digestAll (Packet.drain (link.buffer ++ octets)).packets link)
      (Link.accept (.ok octets) (link.reading transport)) := by
    rw [handled]
    exact ⟨after.phase, after.info, after.parts⟩
  have still : (digestAll (Packet.drain (link.buffer ++ octets)).packets link).phase.takesData := by
    rw [phase_digestAll]
    exact steady.takes
  rw [whole] at all
  refine ⟨later, ⟨?_, ?_, ?_, ?_⟩, others, now, ?_⟩
  · exact kept.phase ▸ still
  · rw [handled]
    change (digestAll _ (buffering [] (link.reading transport))).transport.arrivals = _
    rw [transport_digestAll]
    exact arrivals
  · rw [handled]
    exact Packet.drain_left (link.buffer ++ octets)
  · rw [handled]
    exact all
  · rw [split, ← List.append_assoc, whole, completions_append steady.takes, kept.completions still,
      same.completions steady.takes, handled]
    rfl

/-- All that is still to come is what the packets complete, however they are cut into bursts. -/
theorem upcoming_eq {limit : Nat} (steady : Steady bursts link)
    (due : ∀ burst ∈ bursts, burst.1 ≤ limit) (begun : link.now ≤ limit) :
    link.upcoming.map Prod.snd =
        completions (Packet.drain (link.buffer ++ carried bursts)).packets link ∧
      ∀ x ∈ link.upcoming, x.1 ≤ limit := by
  fun_induction upcoming link generalizing bursts with
  | case1 link silent =>
    obtain rfl := steady.bursts_of_silence silent
    rw [carried, List.flatMap_nil, List.append_nil, steady.settled]
    refine ⟨rfl, ?_⟩
    intro x member
    cases member
  | case2 link got transport arrived ih =>
    obtain ⟨later, again, others, now, split⟩ := steady.accept due begun arrived
    have moment : (Link.accept got (link.reading transport)).now ≤ limit := by
      rw [now_accept]
      exact now
    obtain ⟨rest, soon⟩ := ih again others moment
    constructor
    · rw [split, ← rest, List.map_append, List.map_map]
      congr 1
      exact List.map_id _
    · intro x member
      rcases List.mem_append.mp member with first | after
      · obtain ⟨d, -, rfl⟩ := List.mem_map.mp first
        exact now
      · exact soon x after

theorem poll? {limit wait : Nat} {polled : Link} (steady : Steady bursts link)
    (due : ∀ burst ∈ bursts, burst.1 ≤ limit) (begun : link.now ≤ limit)
    (ready : link.now ≤ wait) (eq : link.poll? wait = some polled) :
    ∃ later, Steady later polled ∧ (∀ burst ∈ later, burst.1 ≤ limit) ∧ polled.now ≤ limit := by
  cases arrived : link.arriving? with
  | none =>
    rw [poll?_of_silence arrived] at eq
    cases eq
  | some next =>
    obtain ⟨got, transport⟩ := next
    rw [poll?_of_arriving arrived ready] at eq
    split at eq
    · cases eq
      obtain ⟨later, again, others, now, -⟩ := steady.accept due begun arrived
      refine ⟨later, again, others, ?_⟩
      rw [now_accept]
      exact now
    · cases eq

theorem catchUp {limit : Nat} (steady : Steady bursts link)
    (due : ∀ burst ∈ bursts, burst.1 ≤ limit) (begun : link.now ≤ limit) :
    ∃ later, Steady later link.catchUp ∧ (∀ burst ∈ later, burst.1 ≤ limit) ∧
      link.catchUp.now ≤ limit := by
  fun_induction Link.catchUp link generalizing bursts with
  | case1 link idle => exact ⟨bursts, steady, due, begun⟩
  | case2 link polled eq ih =>
    obtain ⟨later, again, others, now⟩ := steady.poll? due begun (Nat.le_refl _) eq
    exact ih again others now

theorem takesData_await {limit : Nat} (wake : Link → Bool) (steady : Steady bursts link)
    (due : ∀ burst ∈ bursts, burst.1 ≤ limit) (begun : link.now ≤ limit) :
    (link.await limit wake).phase.takesData := by
  fun_induction await limit wake link generalizing bursts with
  | case1 => exact steady.takes
  | case2 link polled eq settled =>
    obtain ⟨later, again, others, now⟩ := steady.poll? due begun begun eq
    obtain ⟨_, settled, -, -⟩ := again.catchUp others now
    exact settled.takes
  | case3 link polled eq settled asleep =>
    rename_i ih
    obtain ⟨later, again, others, now⟩ := steady.poll? due begun begun eq
    obtain ⟨_, settled, rest, still⟩ := again.catchUp others now
    exact ih settled rest still

end Steady

end SolarTelemetry.Link
