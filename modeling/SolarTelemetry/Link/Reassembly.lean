import SolarTelemetry.Address
import SolarTelemetry.Frame.Format

/-!
# Reassembly

A payload too long for one packet arrives in parts. The parts of each sender are kept apart, joined
in the order in which they arrive, and handed over with the last. What grows beyond the longest
frame is thrown away.
-/

namespace SolarTelemetry.Link

/-- The octets waiting for their last part, sender by sender. -/
abbrev Parts := List (Address × Bytes)

namespace Parts

def held (parts : Parts) (source : Address) : Bytes := (parts.lookup source).getD []

def without (parts : Parts) (source : Address) : Parts := parts.filter (·.1 != source)

/-- Joins a part to those of its sender; the last one completes a payload. -/
def accept (parts : Parts) (source : Address) (part : Bytes) (last : Bool) :
    Option Bytes × Parts :=
  let joined := parts.held source ++ part
  let others := parts.without source
  if Frame.maxStuffed < joined.length then (none, others)
  else if last then (some joined, others)
  else (none, (source, joined) :: others)

def size (parts : Parts) : Nat := (parts.map (·.2.length)).sum

theorem held_add_without_le (parts : Parts) (source : Address) :
    (parts.held source).length + (parts.without source).size ≤ parts.size := by
  induction parts with
  | nil => simp [held, without, size]
  | cons part rest ih =>
    obtain ⟨sender, octets⟩ := part
    simp only [held, without, size, List.lookup_cons, List.filter_cons, List.map_cons,
      List.sum_cons] at ih ⊢
    by_cases same : sender = source
    · subst same
      simp only [BEq.rfl, bne_self_eq_false, Option.getD_some, Bool.false_eq_true, if_false]
      omega
    · have other : (source == sender) = false := by simpa using Ne.symm same
      have kept : (sender != source) = true := by simpa using same
      simp only [other, kept, if_true, List.map_cons, List.sum_cons]
      omega

theorem accept_size_le (parts : Parts) (source : Address) (part : Bytes) (last : Bool) :
    ((parts.accept source part last).1.map List.length).getD 0 +
      (parts.accept source part last).2.size ≤ parts.size + part.length := by
  have bound := held_add_without_le parts source
  unfold accept
  simp only [List.length_append]
  split
  · simp only [Option.map_none, Option.getD_none]
    omega
  · cases last
    · simp only [Bool.false_eq_true, if_false, Option.map_none, Option.getD_none, size,
        List.map_cons, List.sum_cons, List.length_append] at bound ⊢
      omega
    · simp only [if_true, Option.map_some, Option.getD_some, List.length_append]
      omega

end Parts

end SolarTelemetry.Link
