import Mathlib.Data.List.Induction
import SolarTelemetry.Proofs.Link.Sending

/-!
# Reassembly, sender by sender

What a link holds of a sender and which payloads of that sender it completes depend on nothing but
the data which that sender sends to this end. `joinParts` says how: it joins the parts of a single
sender, and `partsFrom` picks them out of whatever else arrives.
-/

namespace SolarTelemetry.Link

/-- The payload that one more part completes, and what is held of its sender then. -/
def joinPart (held part : Bytes) (last : Bool) : Option Bytes × Bytes :=
  let joined := held ++ part
  if Frame.maxStuffed < joined.length then (none, [])
  else if last then (some joined, [])
  else (none, joined)

/-- The payloads that the parts of one sender complete in turn, and what is held after them. -/
def joinParts (held : Bytes) : List (Bytes × Bool) → List Bytes × Bytes
  | [] => ([], held)
  | (part, last) :: parts =>
    let step := joinPart held part last
    let rest := joinParts step.2 parts
    (step.1.toList ++ rest.1, rest.2)

/-- Whether a packet of data is the last of its payload. -/
def isLast? (p : Packet) : Option Bool :=
  match p.command? with
  | some .data => some true
  | some .dataPart => some false
  | _ => none

/-- A packet is for the end with this address if it is sent to it or to everyone. -/
def Reaches (own : Address) (p : Packet) : Prop :=
  p.destination = own ∨ p.destination = .zero ∨ p.destination = .broadcast

instance (own : Address) (p : Packet) : Decidable (Reaches own p) :=
  inferInstanceAs (Decidable (_ ∨ _ ∨ _))

/-- The part that a packet brings, and whether it is the last, if it is data from a sender to this
end. -/
def partFrom? (own source : Address) (p : Packet) : Option (Bytes × Bool) :=
  if p.source = source ∧ Reaches own p then (isLast? p).map (p.payload, ·) else none

def partsFrom (own source : Address) (ps : List Packet) : List (Bytes × Bool) :=
  ps.filterMap (partFrom? own source)

/-- The payloads of one sender among those that were completed. -/
def payloadsFrom (source : Address) (ds : List Delivery) : List Bytes :=
  (ds.filter (·.source == source)).map (·.payload)

/-- No sender has more held than the longest frame. -/
def Parts.Bounded (parts : Parts) : Prop :=
  ∀ source, (parts.held source).length ≤ Frame.maxStuffed

theorem Parts.bounded_nil : Parts.Bounded [] := fun _ => Nat.zero_le _

/-- A payload in parts, of which only the last is marked as such. -/
def IsSplit (payload : Bytes) (parts : List (Bytes × Bool)) : Prop :=
  ∃ (opening : List Bytes) (closing : Bytes), parts = opening.map (·, false) ++ [(closing, true)] ∧
    opening.flatten ++ closing = payload

/-- Nothing was held of a sender after `earlier`, unless that is nothing at all, and something
always was since. -/
structure LastEmpty (source : Address) (link : Link) (earlier recent : List Packet) : Prop where
  empty : earlier = [] ∨ (digestAll earlier link).parts.held source = []
  filled : ∀ newer, newer <+: recent → newer ≠ [] →
    (digestAll (earlier ++ newer) link).parts.held source ≠ []

section Joining

variable {held part payload : Bytes} {last : Bool} {parts : List (Bytes × Bool)}

theorem joinPart_of_overlong (overlong : Frame.maxStuffed < (held ++ part).length) :
    joinPart held part last = (none, []) := if_pos overlong

theorem joinPart_of_room (room : (held ++ part).length ≤ Frame.maxStuffed) :
    joinPart held part last = if last then (some (held ++ part), []) else (none, held ++ part) :=
  if_neg (Nat.not_lt.mpr room)

theorem joinPart_eq_some (completes : (joinPart held part last).1 = some payload) :
    last = true ∧ payload = held ++ part := by
  unfold joinPart at completes
  simp only at completes
  split at completes
  · cases completes
  · split at completes
    · next closing => exact ⟨closing, (Option.some.inj completes).symm⟩
    · cases completes

theorem joinPart_of_ne_nil (filled : (joinPart held part last).2 ≠ []) :
    (joinPart held part last).2 = held ++ part := by
  unfold joinPart at filled ⊢
  simp only at filled ⊢
  split at filled
  · exact absurd rfl filled
  · split at filled
    · exact absurd rfl filled
    · next room more => rw [if_neg room, if_neg more]

theorem length_joinPart_le : (joinPart held part last).2.length ≤ Frame.maxStuffed := by
  by_cases overlong : Frame.maxStuffed < (held ++ part).length
  · rw [joinPart_of_overlong overlong]
    exact Nat.zero_le _
  · have room := Nat.not_lt.mp overlong
    rw [joinPart_of_room room]
    cases last
    · exact room
    · exact Nat.zero_le _

theorem joinParts_append (held : Bytes) (parts others : List (Bytes × Bool)) :
    joinParts held (parts ++ others) =
      ((joinParts held parts).1 ++ (joinParts (joinParts held parts).2 others).1,
        (joinParts (joinParts held parts).2 others).2) := by
  induction parts generalizing held with
  | nil => rfl
  | cons first parts ih =>
    simp only [List.cons_append, joinParts, ih, List.append_assoc]

theorem length_joinParts_le (short : held.length ≤ Frame.maxStuffed) :
    (joinParts held parts).2.length ≤ Frame.maxStuffed := by
  induction parts generalizing held with
  | nil => exact short
  | cons first parts ih => exact ih length_joinPart_le

/-- A payload in parts that are held back until the last is completed once and as it was. -/
theorem joinParts_of_isSplit (split : IsSplit payload parts)
    (room : (held ++ payload).length ≤ Frame.maxStuffed) :
    joinParts held parts = ([held ++ payload], []) := by
  obtain ⟨opening, closing, rfl, rfl⟩ := split
  induction opening generalizing held with
  | nil =>
    simp only [List.map_nil, List.nil_append, List.flatten_nil, joinParts] at room ⊢
    rw [joinPart_of_room room]
    rfl
  | cons first opening ih =>
    rw [List.flatten_cons, List.append_assoc, ← List.append_assoc held] at room ⊢
    have fits : (held ++ first).length ≤ Frame.maxStuffed := by
      rw [List.length_append] at room
      omega
    have step : joinPart held first false = (none, held ++ first) := joinPart_of_room fits
    simp only [List.map_cons, List.cons_append, joinParts, step, ih room, Option.toList_none,
      List.nil_append]

end Joining

namespace Parts

theorem held_cons_of_ne (parts : Parts) {source other : Address} (octets : Bytes)
    (apart : other ≠ source) : held ((source, octets) :: parts) other = parts.held other := by
  have differs : (other == source) = false := beq_false_of_ne apart
  simp only [held, List.lookup_cons, differs]

theorem held_without (parts : Parts) (source : Address) :
    (parts.without source).held source = [] := by
  induction parts with
  | nil => rfl
  | cons entry rest ih =>
    obtain ⟨sender, octets⟩ := entry
    by_cases same : sender = source
    · simpa [without, same] using ih
    · have kept : (sender != source) = true := bne_iff_ne.mpr same
      rw [without, List.filter_cons, if_pos kept]
      exact (held_cons_of_ne _ octets (Ne.symm same)).trans ih

theorem held_without_of_ne (parts : Parts) {source other : Address} (apart : other ≠ source) :
    (parts.without source).held other = parts.held other := by
  induction parts with
  | nil => rfl
  | cons entry rest ih =>
    obtain ⟨sender, octets⟩ := entry
    by_cases same : sender = source
    · subst same
      rw [held_cons_of_ne rest octets apart]
      simpa [without] using ih
    · have kept : (sender != source) = true := bne_iff_ne.mpr same
      rw [without, List.filter_cons, if_pos kept]
      by_cases here : other = sender
      · subst here
        rw [held_cons, held_cons]
      · rw [held_cons_of_ne _ octets here, held_cons_of_ne _ octets here]
        exact ih

/-- A part joins those of its own sender. -/
theorem accept_eq (parts : Parts) (source : Address) (part : Bytes) (last : Bool) :
    (parts.accept source part last).1 = (joinPart (parts.held source) part last).1 ∧
      (parts.accept source part last).2.held source =
        (joinPart (parts.held source) part last).2 := by
  by_cases overlong : Frame.maxStuffed < (parts.held source ++ part).length
  · rw [joinPart_of_overlong overlong, accept]
    simp only [if_pos overlong, held_without, and_self]
  · have room := Nat.not_lt.mp overlong
    rw [joinPart_of_room room, accept_of_room room]
    cases last
    · exact ⟨rfl, held_cons _ source _⟩
    · exact ⟨rfl, held_without parts source⟩

/-- A part leaves the other senders alone. -/
theorem held_accept_of_ne (parts : Parts) {source other : Address} (part : Bytes) (last : Bool)
    (apart : other ≠ source) :
    (parts.accept source part last).2.held other = parts.held other := by
  have others := parts.held_without_of_ne apart
  by_cases overlong : Frame.maxStuffed < (parts.held source ++ part).length
  · rw [accept]
    simp only [if_pos overlong, others]
  · rw [accept_of_room (Nat.not_lt.mp overlong)]
    cases last
    · exact (held_cons_of_ne _ _ apart).trans others
    · exact others

end Parts

theorem partFrom?_of_ne {own source : Address} {p : Packet} (apart : source ≠ p.source) :
    partFrom? own source p = none :=
  if_neg fun mine => apart mine.1.symm

section Handling

variable {link : Link}

theorem isForThisEnd_iff (p : Packet) : link.isForThisEnd p ↔ Reaches link.info.ownAddress p := by
  simp only [isForThisEnd, Reaches, Address.reachesAll, Bool.or_eq_true, beq_iff_eq]

theorem takeData_of_stranger {p : Packet} (last : Bool)
    (stranger : ¬Reaches link.info.ownAddress p) : takeData last p link = link := by
  have refused : ¬(link.phase.takesData && link.isForThisEnd p) = true := by
    intro taken
    exact stranger ((isForThisEnd_iff p).mp ((Bool.and_eq_true _ _).mp taken).2)
  rw [takeData, if_neg refused]

theorem takeData_of_mine {p : Packet} (takes : link.phase.takesData) (last : Bool)
    (mine : Reaches link.info.ownAddress p) :
    takeData last p link =
      { link with
        parts := (link.parts.accept p.source p.payload last).2
        queue := ((link.parts.accept p.source p.payload last).1.map (⟨p.source, ·⟩)).or link.queue } := by
  have taken : (link.phase.takesData && link.isForThisEnd p) = true :=
    (Bool.and_eq_true _ _).mpr ⟨takes, (isForThisEnd_iff p).mpr mine⟩
  rw [takeData, if_pos taken]
  rcases link.parts.accept p.source p.payload last with ⟨_ | payload, parts⟩ <;> rfl

/-- A packet that is no data for this end touches neither what is held nor the queue. -/
theorem digest_of_none {p : Packet} (brings : partFrom? link.info.ownAddress p.source p = none) :
    (digest p link).parts = link.parts ∧ (digest p link).queue = link.queue := by
  unfold digest
  cases command : p.command? with
  | none => exact ⟨rfl, rfl⟩
  | some kind =>
    have stranger (last : Bool) (data : isLast? p = some last) :
        ¬Reaches link.info.ownAddress p := by
      intro mine
      rw [partFrom?, if_pos ⟨rfl, mine⟩, data] at brings
      cases brings
    cases kind with
    | data =>
      have apart := stranger true (by rw [isLast?, command])
      simp only [takeData_of_stranger true apart, and_self]
    | dataPart =>
      have apart := stranger false (by rw [isLast?, command])
      simp only [takeData_of_stranger false apart, and_self]
    | signalReport =>
      simp only [noteSignal]
      split <;> exact ⟨rfl, rfl⟩
    | idExchange | address | topology | signalQuery => exact ⟨rfl, rfl⟩

/-- Data for this end is joined to what is held of its sender. -/
theorem digest_of_some {p : Packet} {part : Bytes} {last : Bool} (takes : link.phase.takesData)
    (brings : partFrom? link.info.ownAddress p.source p = some (part, last)) :
    digest p link =
      { link with
        parts := (link.parts.accept p.source part last).2
        queue := ((link.parts.accept p.source part last).1.map (⟨p.source, ·⟩)).or link.queue } := by
  unfold partFrom? at brings
  split at brings
  · next mine =>
    obtain ⟨closing, data, same⟩ := Option.map_eq_some_iff.mp brings
    obtain ⟨rfl, rfl⟩ := Prod.mk.inj same
    rw [← takeData_of_mine takes closing mine.2]
    unfold isLast? at data
    unfold digest
    split at data
    · next command =>
      cases data
      rw [command]
    · next command =>
      cases data
      rw [command]
    · cases data
  · cases brings

theorem held_digest (takes : link.phase.takesData) (p : Packet) (source : Address) :
    (digest p link).parts.held source =
      (joinParts (link.parts.held source)
        (partFrom? link.info.ownAddress source p).toList).2 := by
  cases brings : partFrom? link.info.ownAddress p.source p with
  | none =>
    have nothing : partFrom? link.info.ownAddress source p = none := by
      by_cases same : source = p.source
      · rw [same, brings]
      · exact partFrom?_of_ne same
    rw [(digest_of_none brings).1, nothing]
    rfl
  | some brought =>
    obtain ⟨part, last⟩ := brought
    rw [digest_of_some takes brings]
    by_cases same : source = p.source
    · rw [same, brings]
      exact (link.parts.accept_eq p.source part last).2
    · rw [partFrom?_of_ne same]
      exact link.parts.held_accept_of_ne part last same

theorem completed?_eq (takes : link.phase.takesData) (p : Packet) :
    completed? p link = (partFrom? link.info.ownAddress p.source p).bind fun brought =>
      (joinPart (link.parts.held p.source) brought.1 brought.2).1.map (⟨p.source, ·⟩) := by
  rw [completed?_of_takesData takes]
  cases brings : partFrom? link.info.ownAddress p.source p with
  | none => exact (@digest_of_none { link with queue := none } p brings).2
  | some brought =>
    obtain ⟨part, last⟩ := brought
    rw [@digest_of_some { link with queue := none } p part last takes brings]
    simp only [Option.or_none, Option.bind_some]
    rw [(link.parts.accept_eq p.source part last).1]

theorem payloadsFrom_completed? (takes : link.phase.takesData) (p : Packet) (source : Address) :
    payloadsFrom source (completed? p link).toList =
      (joinParts (link.parts.held source)
        (partFrom? link.info.ownAddress source p).toList).1 := by
  rw [completed?_eq takes]
  by_cases same : source = p.source
  · subst same
    cases partFrom? link.info.ownAddress p.source p with
    | none => rfl
    | some brought =>
      simp only [Option.bind_some, Option.toList_some, joinParts, List.append_nil]
      cases (joinPart (link.parts.held p.source) brought.1 brought.2).1 with
      | none => rfl
      | some payload => simp [payloadsFrom]
  · rw [partFrom?_of_ne same]
    cases partFrom? link.info.ownAddress p.source p with
    | none => rfl
    | some brought =>
      have differs : (p.source == source) = false := beq_false_of_ne (Ne.symm same)
      simp only [Option.bind_some]
      cases (joinPart (link.parts.held p.source) brought.1 brought.2).1 with
      | none => rfl
      | some payload => simp [payloadsFrom, joinParts, differs]

end Handling

section Running

variable {link : Link}

theorem info_digest (p : Packet) (link : Link) : (digest p link).info = link.info := by
  obtain ⟨_, _, _, eq⟩ := exists_digest_eq p link
  rw [eq]

theorem info_digestAll (ps : List Packet) (link : Link) :
    (digestAll ps link).info = link.info := by
  obtain ⟨_, _, _, eq⟩ := exists_digestAll_eq ps link
  rw [eq]

theorem takesData_digestAll (takes : link.phase.takesData) (ps : List Packet) :
    (digestAll ps link).phase.takesData := by
  rwa [phase_digestAll]

theorem partsFrom_cons (own source : Address) (p : Packet) (ps : List Packet) :
    partsFrom own source (p :: ps) = (partFrom? own source p).toList ++ partsFrom own source ps := by
  unfold partsFrom
  rw [List.filterMap_cons]
  cases partFrom? own source p <;> rfl

theorem partsFrom_concat (own source : Address) (ps : List Packet) (p : Packet) :
    partsFrom own source (ps ++ [p]) =
      partsFrom own source ps ++ (partFrom? own source p).toList := by
  unfold partsFrom
  rw [List.filterMap_append]
  exact congrArg _ ((partsFrom_cons own source p []).trans (List.append_nil _))

theorem payloadsFrom_append (source : Address) (ds others : List Delivery) :
    payloadsFrom source (ds ++ others) = payloadsFrom source ds ++ payloadsFrom source others := by
  unfold payloadsFrom
  rw [List.filter_append, List.map_append]

/-- What is held of a sender, and what is completed, its own data decide. -/
theorem joinParts_eq (takes : link.phase.takesData) (ps : List Packet) (source : Address) :
    joinParts (link.parts.held source) (partsFrom link.info.ownAddress source ps) =
      (payloadsFrom source (completions ps link), (digestAll ps link).parts.held source) := by
  induction ps generalizing link with
  | nil => rfl
  | cons p ps ih =>
    have still : (digest p link).phase.takesData := by rwa [phase_digest]
    have rest := ih still
    rw [info_digest, held_digest takes] at rest
    rw [partsFrom_cons, joinParts_append, rest, ← payloadsFrom_completed? takes, completions,
      handle_of_takesData takes, payloadsFrom_append]
    rfl

theorem digestAll_append (ps qs : List Packet) (link : Link) :
    digestAll (ps ++ qs) link = digestAll qs (digestAll ps link) := List.foldl_append

/-- What is held of a sender is its data since nothing was held of it. -/
theorem exists_lastEmpty (takes : link.phase.takesData) (source : Address) (before : List Packet) :
    ∃ earlier recent, before = earlier ++ recent ∧ LastEmpty source link earlier recent ∧
      (digestAll before link).parts.held source = (digestAll earlier link).parts.held source ++
        (partsFrom link.info.ownAddress source recent).flatMap Prod.fst := by
  induction before using List.reverseRecOn with
  | nil =>
    refine ⟨[], [], rfl, ⟨.inl rfl, ?_⟩, (List.append_nil _).symm⟩
    intro newer within some
    exact absurd (List.prefix_nil.mp within) some
  | append_singleton before p ih =>
    by_cases emptied : (digestAll (before ++ [p]) link).parts.held source = []
    · refine ⟨before ++ [p], [], (List.append_nil _).symm, ⟨.inr emptied, ?_⟩,
        (List.append_nil _).symm⟩
      intro newer within some
      exact absurd (List.prefix_nil.mp within) some
    · obtain ⟨earlier, recent, rfl, last, held⟩ := ih
      refine ⟨earlier, recent ++ [p], List.append_assoc _ _ _, ⟨last.empty, ?_⟩, ?_⟩
      · intro newer within some
        rcases List.prefix_concat_iff.mp within with rfl | inside
        · rwa [← List.append_assoc]
        · exact last.filled newer inside some
      · have step := held_digest (takesData_digestAll takes (earlier ++ recent)) p source
        rw [info_digestAll] at step
        rw [digestAll_append] at emptied ⊢
        change (digest p (digestAll (earlier ++ recent) link)).parts.held source ≠ [] at emptied
        change (digest p (digestAll (earlier ++ recent) link)).parts.held source = _
        rw [step] at emptied ⊢
        rw [partsFrom_concat, List.flatMap_append, ← List.append_assoc, ← held]
        cases brings : partFrom? link.info.ownAddress source p with
        | none => simp [joinParts]
        | some brought =>
          rw [brings] at emptied
          simp only [Option.toList_some, joinParts] at emptied
          simp only [Option.toList_some, joinParts, List.flatMap_cons, List.flatMap_nil,
            List.append_nil]
          exact joinPart_of_ne_nil emptied

/-- A payload that is completed closes with the packet that completes it. -/
theorem eq_of_completed? {p : Packet} {d : Delivery} (takes : link.phase.takesData)
    (completes : completed? p link = some d) :
    partFrom? link.info.ownAddress d.source p = some (p.payload, true) ∧
      d.payload = link.parts.held d.source ++ p.payload := by
  rw [completed?_eq takes] at completes
  obtain ⟨brought, brings, joined⟩ := Option.bind_eq_some_iff.mp completes
  obtain ⟨payload, finished, rfl⟩ := Option.map_eq_some_iff.mp joined
  obtain ⟨closing, joined⟩ := joinPart_eq_some finished
  obtain ⟨part, last⟩ := brought
  cases closing
  unfold partFrom? at brings
  split at brings
  · next mine =>
    obtain ⟨last, data, same⟩ := Option.map_eq_some_iff.mp brings
    obtain ⟨rfl, rfl⟩ := Prod.mk.inj same
    refine ⟨?_, joined⟩
    rw [partFrom?, if_pos mine, data]
    rfl
  · cases brings

end Running

/-- What an end writes is a payload in parts. -/
theorem isSplit_packetsOf {own source destination : Address} {payload : Bytes}
    (full : payload ≠ [])
    (mine : destination = own ∨ destination = .zero ∨ destination = .broadcast) :
    IsSplit payload (partsFrom own source (packetsOf source destination payload)) := by
  have data (part : Bytes) : partFrom? own source (.of .data source destination part) =
      some (part, true) := if_pos ⟨rfl, mine⟩
  have dataPart (part : Bytes) : partFrom? own source (.of .dataPart source destination part) =
      some (part, false) := if_pos ⟨rfl, mine⟩
  fun_induction packetsOf source destination payload with
  | case1 payload short empty => exact absurd (List.isEmpty_iff.mp empty) full
  | case2 payload short nonempty =>
    refine ⟨[], payload, ?_, rfl⟩
    rw [partsFrom_cons, data]
    rfl
  | case3 payload long ih =>
    have more : payload.drop Packet.maxPayload ≠ [] := by
      rw [← List.length_pos_iff, List.length_drop]
      omega
    obtain ⟨opening, closing, parts, joined⟩ := ih more
    refine ⟨payload.take Packet.maxPayload :: opening, closing, ?_, ?_⟩
    · rw [partsFrom_cons, dataPart, parts]
      rfl
    · rw [List.flatten_cons, List.append_assoc, joined, List.take_append_drop]

/-- Reassembly is exact and keeps senders apart. Of a link that carries data, whatever packets are
handled:

* the payloads completed for a sender and what is held of it are what `joinParts` makes of the data
  from that sender to this end;
* a payload ends with the packet that completes it, and is all such data of its sender since nothing
  was held of it;
* what would grow too long is thrown away;
* no sender ever has more held than the longest frame;
* a payload in parts, of a sender that has nothing held, is completed once and as it was. -/
theorem completions_exact {link : Link} (takes : link.phase.takesData) (ps : List Packet) :
    handleAll ps link = .ok () (digestAll ps link) ∧
    (∀ source,
      payloadsFrom source (completions ps link) =
          (joinParts (link.parts.held source) (partsFrom link.info.ownAddress source ps)).1 ∧
        (digestAll ps link).parts.held source =
          (joinParts (link.parts.held source) (partsFrom link.info.ownAddress source ps)).2) ∧
    (∀ before p after d, ps = before ++ p :: after →
      completed? p (digestAll before link) = some d →
      partFrom? link.info.ownAddress d.source p = some (p.payload, true) ∧
        ∃ earlier recent, before = earlier ++ recent ∧ LastEmpty d.source link earlier recent ∧
          d.payload = (digestAll earlier link).parts.held d.source ++
            (partsFrom link.info.ownAddress d.source (recent ++ [p])).flatMap Prod.fst) ∧
    (∀ before p after part last, ps = before ++ p :: after →
      partFrom? link.info.ownAddress p.source p = some (part, last) →
      Frame.maxStuffed < ((digestAll before link).parts.held p.source ++ part).length →
      completed? p (digestAll before link) = none ∧
        (digestAll (before ++ [p]) link).parts.held p.source = []) ∧
    (link.parts.Bounded → (digestAll ps link).parts.Bounded) ∧
    ∀ source payload, payload.length ≤ Frame.maxStuffed → link.parts.held source = [] →
      IsSplit payload (partsFrom link.info.ownAddress source ps) →
      payloadsFrom source (completions ps link) = [payload] := by
  have joined := joinParts_eq takes ps
  refine ⟨handleAll_of_takesData takes ps, ?_, ?_, ?_, ?_, ?_⟩
  · intro source
    rw [joined]
    exact ⟨rfl, rfl⟩
  · rintro before p after d rfl completes
    have closing := eq_of_completed? (takesData_digestAll takes before) completes
    rw [info_digestAll] at closing
    obtain ⟨earlier, recent, rfl, last, held⟩ := exists_lastEmpty takes d.source before
    refine ⟨closing.1, earlier, recent, rfl, last, ?_⟩
    rw [closing.2, held, partsFrom_concat, closing.1, List.flatMap_append, List.append_assoc]
    simp
  · rintro before p after part last rfl brings overlong
    have carries := takesData_digestAll takes before
    rw [← info_digestAll before] at brings
    have thrown := @joinPart_of_overlong _ _ last overlong
    constructor
    · rw [completed?_eq carries, brings, Option.bind_some, thrown]
      rfl
    · rw [digestAll_append]
      change (digest p (digestAll before link)).parts.held p.source = []
      rw [held_digest carries, brings, Option.toList_some, joinParts, thrown]
      rfl
  · intro bounded source
    have short :=
      @length_joinParts_le _ (partsFrom link.info.ownAddress source ps) (bounded source)
    rwa [joined] at short
  · intro source payload short nothing split
    have once := @joinParts_of_isSplit [] _ _ split short
    rw [← nothing, joined] at once
    rw [nothing] at once
    exact (Prod.mk.inj once).1

/-- Two senders at once, and something of the first for somebody else in between. -/
theorem completions_exact_interleaved :
    let first : Address := ⟨[0x00, 0x80, 0x25, 0x00, 0x00, 0x01], rfl⟩
    let second : Address := ⟨[0x00, 0x80, 0x25, 0x00, 0x00, 0x02], rfl⟩
    let link : Link := { transport := {}, phase := .connected, info := { ownAddress := second } }
    let payload : Bytes := List.replicate 300 0x41
    let packets (opening closing : Bytes) : List Packet :=
      [.of .dataPart first .broadcast opening, .of .dataPart second .zero [7],
        .of .data first first [9], .of .data first second closing, .of .data second second [8]]
    let ps := packets (payload.take 237) (payload.drop 237)
    link.phase.takesData ∧ payloadsFrom first (completions ps link) = [payload] ∧
      payloadsFrom second (completions ps link) = [[7, 8]] := by
  intro first second link payload packets ps
  have parts (opening closing : Bytes) : partsFrom second first (packets opening closing) =
      [(opening, false), (closing, true)] := rfl
  have takes : link.phase.takesData := rfl
  have short : payload.length ≤ Frame.maxStuffed := by
    rw [List.length_replicate]
    decide
  have exactly := (completions_exact takes ps).2.2.2.2.2
  refine ⟨takes, exactly first payload short rfl ?_, exactly second [7, 8] (by decide) rfl ?_⟩
  · refine ⟨[payload.take 237], payload.drop 237, parts _ _, ?_⟩
    rw [List.flatten_singleton, List.take_append_drop]
  · exact ⟨[[7]], [8], rfl, rfl⟩

end SolarTelemetry.Link
