import Mathlib.Data.List.Perm.Subperm
import SolarTelemetry.Proofs.Session.Trace

/-!
# The marks of devices

While answers to a logon come in, the marks in the device table are those that the answers received
so far give it, where of each device the first counts. Answers of strangers and repeated ones change
nothing.
-/

namespace SolarTelemetry

namespace Session

def hasAnswered (replies : List Reply) (serial : UInt32) : Bool :=
  replies.any (·.source.serial == serial)

/-- Whether the first answer of a device accepts a password. -/
def grants (password : Bytes) (replies : List Reply) (serial : UInt32) : Bool :=
  (replies.find? (·.source.serial == serial)).any (accepts · password)

end Session

/-- A device marked as its answers have it. -/
def Device.judged (password : Bytes) (replies : List Reply) (d : Device) : Device :=
  { d with authenticated := Session.grants password replies d.serial }

namespace Session

section

variable {password : Bytes} {replies : List Reply} {reply : Reply} {serial : UInt32}

theorem hasAnswered_concat :
    hasAnswered (replies ++ [reply]) serial =
      (hasAnswered replies serial || reply.source.serial == serial) := by
  simp [hasAnswered]

theorem find?_eq_none_iff_hasAnswered :
    replies.find? (·.source.serial == serial) = none ↔ hasAnswered replies serial = false := by
  simp [hasAnswered]

/-- An answer of another device, or one that is not the first, says nothing about a device. -/
theorem grants_skip {later : List Reply}
    (h : hasAnswered replies serial ∨ reply.source.serial ≠ serial) :
    grants password (replies ++ reply :: later) serial =
      grants password (replies ++ later) serial := by
  unfold grants
  rw [List.find?_append, List.find?_append]
  cases first : replies.find? (·.source.serial == serial) with
  | some answer => rfl
  | none =>
    have unheard := find?_eq_none_iff_hasAnswered.mp first
    have other : reply.source.serial ≠ serial := by
      rcases h with heard | other
      · rw [unheard] at heard
        cases heard
      · exact other
    rw [List.find?_cons_of_neg (by simpa using other)]

theorem grants_concat (h : hasAnswered replies serial ∨ reply.source.serial ≠ serial) :
    grants password (replies ++ [reply]) serial = grants password replies serial := by
  rw [grants_skip h, List.append_nil]

theorem grants_concat_first (unheard : hasAnswered replies reply.source.serial = false) :
    grants password (replies ++ [reply]) reply.source.serial = accepts reply password := by
  unfold grants
  rw [List.find?_append, find?_eq_none_iff_hasAnswered.mpr unheard]
  simp

theorem grants_of_unanswered (unheard : hasAnswered replies serial = false) :
    grants password replies serial = false := by
  unfold grants
  rw [find?_eq_none_iff_hasAnswered.mpr unheard]
  rfl

theorem judged_concat {d : Device}
    (h : hasAnswered replies d.serial ∨ reply.source.serial ≠ d.serial) :
    d.judged password (replies ++ [reply]) = d.judged password replies := by
  unfold Device.judged
  rw [grants_concat h]

theorem judged_concat_first {d : Device} (same : d.serial = reply.source.serial)
    (unheard : hasAnswered replies reply.source.serial = false) :
    d.judged password (replies ++ [reply]) =
      { d.judged password replies with authenticated := accepts reply password } := by
  unfold Device.judged
  rw [same, grants_concat_first unheard]

/-- To mark a device that has just accepted is to judge by one answer more. -/
theorem mark_judged (table : List Device)
    (unheard : hasAnswered replies reply.source.serial = false) :
    (if accepts reply password
      then markAuthenticated reply.source.serial (table.map (Device.judged password replies))
      else table.map (Device.judged password replies)) =
      table.map (Device.judged password (replies ++ [reply])) := by
  split
  · next accepted =>
    unfold markAuthenticated
    rw [List.map_map]
    apply List.map_congr_left
    intro d _
    change (if d.serial = reply.source.serial
      then { d.judged password replies with authenticated := true }
      else d.judged password replies) = _
    split
    · next same => rw [judged_concat_first same unheard, accepted]
    · next other => rw [judged_concat (.inr (Ne.symm other))]
  · next refused =>
    apply List.map_congr_left
    intro d _
    by_cases same : d.serial = reply.source.serial
    · have unmarked : (d.judged password replies).authenticated = false :=
        grants_of_unanswered (same ▸ unheard)
      rw [judged_concat_first same unheard, Bool.eq_false_iff.mpr refused, ← unmarked]
    · rw [judged_concat (.inr (Ne.symm same))]

theorem serials_forgetLogons (devices : List Device) :
    (forgetLogons devices).map Device.serial = devices.map Device.serial := by
  unfold forgetLogons
  rw [List.map_map]
  rfl

theorem forgetLogons_markAuthenticated (serial : UInt32) (devices : List Device) :
    forgetLogons (markAuthenticated serial devices) = forgetLogons devices := by
  unfold forgetLogons markAuthenticated
  rw [List.map_map]
  apply List.map_congr_left
  intro d _
  change { (if d.serial = serial then { d with authenticated := true } else d) with
    authenticated := false } = { d with authenticated := false }
  split <;> rfl

theorem forgetLogons_forgetLogons (devices : List Device) :
    forgetLogons (forgetLogons devices) = forgetLogons devices := by
  unfold forgetLogons
  rw [List.map_map]
  rfl

end

variable {σ : Type}

/-- The state of a logon in which replies have been received: the marks are those that the replies
give, and the devices that have answered are known. -/
structure Heard (password : Bytes) (table : List Device) (replies : List Reply)
    (answered : List UInt32) (s : Session σ) : Prop where
  devices : s.devices = table.map (Device.judged password replies)
  answered_iff : ∀ serial, serial ∈ answered ↔
    serial ∈ table.map Device.serial ∧ hasAnswered replies serial
  nodup : answered.Nodup

namespace Heard

variable {password : Bytes} {table : List Device} {replies : List Reply} {answered : List UInt32}
  {s : Session σ} {reply : Reply}

theorem serials (h : Heard password table replies answered s) :
    s.devices.map Device.serial = table.map Device.serial := by
  rw [h.devices, List.map_map]
  rfl

theorem length_devices (h : Heard password table replies answered s) :
    s.devices.length = table.length := by
  rw [h.devices, List.length_map]

theorem any_serial (h : Heard password table replies answered s) (serial : UInt32) :
    s.devices.any (·.serial == serial) = true ↔ serial ∈ table.map Device.serial := by
  rw [← h.serials]
  simp

/-- An answer of a stranger, or a second one, leaves all as it is. -/
theorem pass (h : Heard password table replies answered s)
    (idle : reply.source.serial ∈ answered ∨ reply.source.serial ∉ table.map Device.serial) :
    Heard password table (replies ++ [reply]) answered s := by
  refine ⟨?_, ?_, h.nodup⟩
  · rw [h.devices]
    apply List.map_congr_left
    intro d member
    have known : d.serial ∈ table.map Device.serial := List.mem_map_of_mem member
    refine (judged_concat ?_).symm
    by_cases same : reply.source.serial = d.serial
    · rcases idle with old | unknown
      · exact .inl ((h.answered_iff _).mp (same ▸ old)).2
      · exact absurd (same ▸ known) unknown
    · exact .inr same
  · intro serial
    rw [h.answered_iff, hasAnswered_concat, Bool.or_eq_true, beq_iff_eq]
    constructor
    · rintro ⟨known, heard⟩
      exact ⟨known, .inl heard⟩
    · rintro ⟨known, heard | rfl⟩
      · exact ⟨known, heard⟩
      · rcases idle with old | unknown
        · exact (h.answered_iff _).mp old
        · exact absurd known unknown

/-- The first answer of a device decides on its mark. -/
theorem take (h : Heard password table replies answered s)
    (fresh : reply.source.serial ∉ answered)
    (known : reply.source.serial ∈ table.map Device.serial) :
    Heard password table (replies ++ [reply]) (answered ++ [reply.source.serial])
      { s with
        devices :=
          if accepts reply password then markAuthenticated reply.source.serial s.devices
          else s.devices } := by
  have unheard : hasAnswered replies reply.source.serial = false := by
    apply Bool.eq_false_iff.mpr
    intro heard
    exact fresh ((h.answered_iff _).mpr ⟨known, heard⟩)
  refine ⟨?_, ?_, ?_⟩
  · change (if accepts reply password then markAuthenticated reply.source.serial s.devices
      else s.devices) = _
    rw [h.devices]
    exact mark_judged table unheard
  · intro serial
    rw [List.mem_append, List.mem_singleton, h.answered_iff, hasAnswered_concat, Bool.or_eq_true,
      beq_iff_eq]
    constructor
    · rintro (⟨listed, heard⟩ | rfl)
      · exact ⟨listed, .inl heard⟩
      · exact ⟨known, .inr rfl⟩
    · rintro ⟨listed, heard | same⟩
      · exact .inl ⟨listed, heard⟩
      · exact .inr same.symm
  · rw [List.nodup_append]
    refine ⟨h.nodup, List.pairwise_singleton _ _, ?_⟩
    intro serial member other single
    rw [List.mem_singleton.mp single]
    exact fun same => fresh (same ▸ member)

theorem subset (h : Heard password table replies answered s) :
    answered ⊆ table.map Device.serial := fun serial member =>
  ((h.answered_iff serial).mp member).1

/-- When as many have answered as there are devices, each has. -/
theorem all_answered (h : Heard password table replies answered s)
    (enough : table.length ≤ answered.length) : ∀ d ∈ table, hasAnswered replies d.serial := by
  intro d member
  have within := List.subperm_of_subset h.nodup h.subset
  have perm := within.perm_of_length_le (by rwa [List.length_map])
  have listed : d.serial ∈ table.map Device.serial := List.mem_map_of_mem member
  exact ((h.answered_iff _).mp (perm.mem_iff.mpr listed)).2

/-- When fewer have answered than there are devices, some device is silent. -/
theorem exists_silent (h : Heard password table replies answered s)
    (distinct : (table.map Device.serial).Nodup) (few : answered.length < table.length) :
    ∃ d ∈ table, hasAnswered replies d.serial = false := by
  by_contra none
  have all : table.map Device.serial ⊆ answered := by
    intro serial member
    obtain ⟨d, listed, rfl⟩ := List.mem_map.mp member
    refine (h.answered_iff _).mpr ⟨member, ?_⟩
    by_contra unheard
    exact none ⟨d, listed, Bool.eq_false_iff.mpr unheard⟩
  have bound := (List.subperm_of_subset distinct all).length_le
  rw [List.length_map] at bound
  omega

end Heard

variable [Channel σ]

/-- The replies among answers and where they came from. -/
def acceptances (answers : List (Address × Reply)) : List Event :=
  answers.map fun answer => .accepted answer.1 answer.2

/-- The loop ends with the marks that all it has received give: it succeeds once as many have
answered as there are devices, and fails only while fewer have. -/
theorem exists_of_collectLogons (packetId : UInt16) {password : Bytes} {table : List Device}
    {replies : List Reply} {answered : List UInt32} {s : Session σ}
    (h : Heard password table replies answered s) :
    ∃ answers answered', Trace s (acceptances answers)
        (Outcome.state (collectLogons password packetId answered s)) ∧
      (∀ event ∈ acceptances answers, event.BelongsTo packetId) ∧
      Heard password table (replies ++ answers.map Prod.snd) answered'
        (Outcome.state (collectLogons password packetId answered s)) ∧
      (∀ t, collectLogons password packetId answered s = .ok () t →
        table.length ≤ answered'.length) ∧
      ∀ e t, collectLogons password packetId answered s = .error e t →
        answered'.length < table.length := by
  -- Along the loop. `Heard` is its invariant: each round adds a reply to those that it speaks of.
  fun_induction collectLogons password packetId answered s generalizing replies with
  | case1 answered s enough =>
    refine ⟨[], answered, .refl, by simp [acceptances], ?_, ?_, ?_⟩
    · rwa [List.map_nil, List.append_nil]
    · intro _ _
      rwa [← h.length_devices]
    · rintro e t ⟨⟩
  | case2 answered s few e t received =>
    obtain ⟨stream, rfl⟩ := exists_stream_of_receive received
    refine ⟨[], answered, .miss received .refl, by simp [acceptances], ?_, ?_, ?_⟩
    · rw [List.map_nil, List.append_nil]
      exact ⟨h.devices, h.answered_iff, h.nodup⟩
    · rintro t ⟨⟩
    · intro _ _ _
      rwa [← h.length_devices, ← Nat.not_le]
  | case3 answered s few address reply t received serial idle =>
    rename_i ih
    obtain ⟨stream, rfl⟩ := exists_stream_of_receive received
    have passed : reply.source.serial ∈ answered ∨
        reply.source.serial ∉ table.map Device.serial := by
      rw [Bool.or_eq_true, List.contains_iff_mem, Bool.not_eq_true', ← Bool.not_eq_true] at idle
      exact idle.imp_right fun unknown listed => unknown ((h.any_serial _).mpr listed)
    have next : Heard password table (replies ++ [reply]) answered { s with stream } :=
      have heard := h.pass passed
      ⟨heard.devices, heard.answered_iff, heard.nodup⟩
    obtain ⟨answers, answered', trace, mine, final, ends⟩ := ih next
    refine ⟨(address, reply) :: answers, answered', .accept received trace, ?_, ?_, ends⟩
    · exact List.forall_mem_cons.mpr ⟨packetId_of_receive received, mine⟩
    · rwa [List.append_assoc] at final
  | case4 answered s few address reply t received serial fresh devices =>
    rename_i ih
    obtain ⟨stream, rfl⟩ := exists_stream_of_receive received
    rw [Bool.or_eq_true, not_or, List.contains_iff_mem, Bool.not_eq_true', Bool.not_eq_false]
      at fresh
    have heard := h.take fresh.1 ((h.any_serial _).mp fresh.2)
    have next : Heard password table (replies ++ [reply]) (answered ++ [serial])
        { s with stream, devices } := ⟨heard.devices, heard.answered_iff, heard.nodup⟩
    obtain ⟨answers, answered', trace, mine, final, ends⟩ := ih next
    have unmarked : forgetLogons devices = forgetLogons s.devices := by
      change forgetLogons (if _ then _ else _) = _
      split
      · exact forgetLogons_markAuthenticated _ _
      · rfl
    refine ⟨(address, reply) :: answers, answered', .accept received (.mark unmarked trace), ?_, ?_,
      ends⟩
    · exact List.forall_mem_cons.mpr ⟨packetId_of_receive received, mine⟩
    · rwa [List.append_assoc] at final

end Session

end SolarTelemetry
