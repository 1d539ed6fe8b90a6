import SolarTelemetry.Proofs.Link.Data
import SolarTelemetry.Proofs.Frame.Residue

/-!
# Sending over a link

A payload is cut into packets that are written one after the other. A link that has no parts of
that sender puts them together again: all but the last are held, and the last completes the payload,
if there is room for it.
-/

namespace SolarTelemetry

namespace Transport

/-- None of the next so many writes is refused. -/
def Accepts (writes : Nat) (t : Transport) : Prop :=
  ∀ reactions ∈ t.reactions.take writes, ∀ reaction ∈ reactions, reaction.refusal? = none

theorem sent_foldl_react (reactions : List Reaction) (t : Transport) :
    (reactions.foldl react t).sent = t.sent ∧ (reactions.foldl react t).reactions = t.reactions := by
  induction reactions generalizing t with
  | nil => exact ⟨rfl, rfl⟩
  | cons r rest ih =>
    rw [List.foldl_cons, (ih (t.react r)).1, (ih (t.react r)).2]
    cases r <;> exact ⟨rfl, rfl⟩

theorem write_of_accepts {writes : Nat} {t : Transport} (accepts : t.Accepts (writes + 1))
    (octets : Bytes) (destination : Address) :
    ∃ t', write octets destination t = .ok () t' ∧ t'.sent = t.sent ++ [(destination, octets)] ∧
      t'.Accepts writes := by
  have granted : (t.reactions.headD []).findSome? Reaction.refusal? = none := by
    rw [List.findSome?_eq_none_iff]
    cases reactions : t.reactions with
    | nil =>
      intro reaction member
      cases member
    | cons first rest =>
      have head : first ∈ t.reactions.take (writes + 1) := by
        rw [reactions]
        exact List.mem_cons_self
      exact accepts first head
  unfold write
  simp only [granted]
  refine ⟨_, rfl, (sent_foldl_react _ _).1, ?_⟩
  intro reactions member
  rw [(sent_foldl_react _ _).2] at member
  apply accepts reactions
  cases all : t.reactions with
  | nil =>
    simp [all] at member
  | cons first rest =>
    rw [all] at member
    exact List.mem_cons_of_mem first member

end Transport

namespace Link

theorem transmit_of_accepts {ps : List Packet} {link : Link}
    (fit : ∀ p ∈ ps, p.payload.length ≤ Packet.maxPayload)
    (accepts : link.transport.Accepts ps.length) :
    ∃ transport, transmit ps link = .ok () { link with transport } ∧
      transport.sent = link.transport.sent ++ ps.map fun p => (p.destination, p.layout) := by
  induction ps generalizing link with
  | nil => exact ⟨link.transport, rfl, (List.append_nil _).symm⟩
  | cons p ps ih =>
    obtain ⟨t, written, sent, others⟩ :=
      Transport.write_of_accepts accepts p.layout p.destination
    have first : transmitOne p link = .ok () { link with transport := t } := by
      unfold transmitOne
      rw [Packet.encode_of_le (fit p List.mem_cons_self)]
      simp only [Action.zoom, written]
    obtain ⟨transport, rest, all⟩ := @ih { link with transport := t }
      (fun q member => fit q (List.mem_cons_of_mem p member)) others
    refine ⟨transport, ?_, ?_⟩
    · exact (Action.bind_of_ok first).trans rest
    · rw [all, sent, List.append_assoc]
      rfl

theorem mem_packetsOf {source destination : Address} {payload : Bytes} {p : Packet}
    (h : p ∈ packetsOf source destination payload) :
    p.payload.length ≤ Packet.maxPayload ∧ p.destination = destination := by
  fun_induction packetsOf source destination payload with
  | case1 => cases h
  | case2 payload short full =>
    rw [List.mem_singleton.mp h]
    exact ⟨short, rfl⟩
  | case3 payload long ih =>
    rcases List.mem_cons.mp h with rfl | later
    · exact ⟨List.length_take_le _ _, rfl⟩
    · exact ih later

theorem write_of_accepts {payload : Bytes} {destination : Address} {link : Link}
    (usable : link.fault? = none)
    (accepts : link.transport.Accepts
      (packetsOf link.info.ownAddress destination payload).length) :
    ∃ transport, write payload destination link = .ok () { link with transport } ∧
      transport.sent = link.transport.sent ++
        ((packetsOf link.info.ownAddress destination payload).map Packet.layout).map
          (destination, ·) := by
  obtain ⟨transport, transmitted, sent⟩ :=
    transmit_of_accepts (fun _ member => (mem_packetsOf member).1) accepts
  have ready : requireUsable link = .ok () link := by
    unfold requireUsable
    rw [usable]
  refine ⟨transport, ?_, ?_⟩
  · exact (Action.bind_of_ok ready).trans transmitted
  · rw [sent, List.map_map]
    congr 1
    apply List.map_congr_left
    intro p member
    rw [(mem_packetsOf member).2]
    rfl

theorem held_cons (parts : Parts) (source : Address) (octets : Bytes) :
    Parts.held ((source, octets) :: parts) source = octets := by
  simp [Parts.held]

theorem accept_of_room {parts : Parts} {source : Address} {part : Bytes}
    (room : (parts.held source ++ part).length ≤ Frame.maxStuffed) (last : Bool) :
    parts.accept source part last =
      if last then (some (parts.held source ++ part), parts.without source)
      else (none, (source, parts.held source ++ part) :: parts.without source) := by
  unfold Parts.accept
  rw [if_neg (Nat.not_lt.mpr room)]

theorem completed?_of_takesData {link : Link} (takes : link.phase.takesData) (p : Packet) :
    completed? p link = (digest p { link with queue := none }).queue := by
  unfold completed?
  rw [@handle_of_takesData { link with queue := none } takes]
  rfl

/-- A part is held, and the last completes what is held of its sender. -/
theorem takeData_of_room {p : Packet} {link : Link} (takes : link.phase.takesData)
    (mine : link.isForThisEnd p)
    (room : (link.parts.held p.source ++ p.payload).length ≤ Frame.maxStuffed) (last : Bool) :
    takeData last p link =
      if last then
        { link with
          parts := link.parts.without p.source
          queue := some ⟨p.source, link.parts.held p.source ++ p.payload⟩ }
      else
        { link with
          parts := (p.source, link.parts.held p.source ++ p.payload) ::
            link.parts.without p.source } := by
  have taken : (link.phase.takesData && link.isForThisEnd p) = true :=
    (Bool.and_eq_true _ _).mpr ⟨takes, mine⟩
  unfold takeData
  rw [if_pos taken, accept_of_room room]
  cases last <;> rfl

section

variable {source destination : Address} {part : Bytes} {link : Link}
  (takes : link.phase.takesData)
  (mine : destination == link.info.ownAddress || destination.reachesAll)
  (room : (link.parts.held source ++ part).length ≤ Frame.maxStuffed)

include takes mine room

theorem completed?_data :
    completed? (.of .data source destination part) link =
      some ⟨source, link.parts.held source ++ part⟩ := by
  have last := @takeData_of_room (.of .data source destination part)
    { link with queue := none } takes mine room true
  rw [completed?_of_takesData takes]
  exact congrArg queue last

theorem completed?_dataPart : completed? (.of .dataPart source destination part) link = none := by
  have held := @takeData_of_room (.of .dataPart source destination part)
    { link with queue := none } takes mine room false
  rw [completed?_of_takesData takes]
  exact congrArg queue held

theorem digest_dataPart :
    digest (.of .dataPart source destination part) link =
      { link with
        parts := (source, link.parts.held source ++ part) :: link.parts.without source } :=
  @takeData_of_room (.of .dataPart source destination part) link takes mine room false

end

/-- The packets of a payload complete it at the other end, together with what is held there. -/
theorem completions_packetsOf {source destination : Address} {payload : Bytes} {link : Link}
    (takes : link.phase.takesData)
    (mine : destination == link.info.ownAddress || destination.reachesAll)
    (full : payload ≠ [])
    (room : (link.parts.held source).length + payload.length ≤ Frame.maxStuffed) :
    completions (packetsOf source destination payload) link =
      [⟨source, link.parts.held source ++ payload⟩] := by
  fun_induction packetsOf source destination payload generalizing link with
  | case1 payload short empty => exact absurd (List.isEmpty_iff.mp empty) full
  | case2 payload short nonempty =>
    rw [← List.length_append] at room
    rw [completions, handle_of_takesData takes, completed?_data takes mine room]
    rfl
  | case3 payload long ih =>
    have longer : Packet.maxPayload < payload.length := Nat.not_le.mp long
    have taken := List.length_take_of_le (Nat.le_of_lt longer)
    have fits : (link.parts.held source ++ payload.take Packet.maxPayload).length ≤
        Frame.maxStuffed := by
      rw [List.length_append]
      omega
    have held := digest_dataPart takes mine fits
    have joined := held_cons (link.parts.without source) source
      (link.parts.held source ++ payload.take Packet.maxPayload)
    have more : payload.drop Packet.maxPayload ≠ [] := by
      rw [← List.length_pos_iff, List.length_drop]
      omega
    have rest := @ih { link with parts := _ :: _ } takes mine more (by
      rw [joined, List.length_append, List.length_drop, taken]
      omega)
    rw [completions, handle_of_takesData takes, completed?_dataPart takes mine fits, held]
    change completions _ { link with parts := _ :: _ } = _
    rw [rest, joined, List.append_assoc, List.take_append_drop]

end Link

end SolarTelemetry
