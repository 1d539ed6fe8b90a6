import SolarTelemetry.Action
import SolarTelemetry.Packet

/-!
# Transports

A transport is described by what it will do: what arrives when, and what each write brings about at
the other end. A run is then a function of that description. Arrivals are taken one at a time, in
the order of the moments at which they are due, and what does not fit into one read stays in front.
`weight` bounds what is still to come: writing does not add to it, and every read takes from it.
-/

namespace SolarTelemetry

inductive Arrival.Content where
  | octets (bs : Bytes)
  | failure (reason : String)
  deriving DecidableEq

structure Arrival where
  due : Nat
  content : Arrival.Content
  deriving DecidableEq

/-- What the other end does about a write. -/
inductive Reaction where
  | answer (after : Nat) (content : Arrival.Content)
  | refuse (reason : String)
  /-- Asks this end to stop. -/
  | shutdown
  deriving DecidableEq

structure Transport where
  /-- In milliseconds. -/
  now : Nat := 0
  arrivals : List Arrival := []
  /-- What each of the coming writes brings about. -/
  reactions : List (List Reaction) := []
  sent : List (Address × Bytes) := []
  shutdown : Bool := false

def Arrival.Content.weight : Content → Nat
  | .octets bs => bs.length + 1
  | .failure _ => 1

def Reaction.weight : Reaction → Nat
  | .answer _ content => content.weight
  | .refuse _ | .shutdown => 0

def Reaction.refusal? : Reaction → Option String
  | .refuse reason => some reason
  | _ => none

namespace Transport

/-- The most octets that one read takes. -/
def chunk : Nat := Packet.maxLength

/-- Puts an arrival after those that are due no later. -/
def insert (a : Arrival) : List Arrival → List Arrival
  | [] => [a]
  | b :: rest => if b.due ≤ a.due then b :: insert a rest else a :: b :: rest

def schedule (t : Transport) (after : Nat) (content : Arrival.Content) : Transport :=
  { t with arrivals := insert ⟨t.now + after, content⟩ t.arrivals }

def react (t : Transport) : Reaction → Transport
  | .answer after content => t.schedule after content
  | .refuse _ => t
  | .shutdown => { t with shutdown := true }

/-- A refused write has no effect but to fail. -/
def write (octets : Bytes) (destination : Address) : Action Transport Unit := fun t =>
  let reactions := t.reactions.headD []
  let t := { t with reactions := t.reactions.tail }
  match reactions.findSome? Reaction.refusal? with
  | some reason => .error (.transport reason) t
  | none => .ok () (reactions.foldl react { t with sent := t.sent ++ [(destination, octets)] })

/-- Moves on to a moment that has not passed. -/
def advance (moment : Nat) (t : Transport) : Transport := { t with now := max t.now moment }

/-- The next arrival, if it is due by `limit`; time moves on to it. -/
def take? (limit : Nat) (t : Transport) : Option (Except String Bytes × Transport) :=
  match t.arrivals with
  | [] => none
  | a :: rest =>
    if limit < a.due then none
    else
      let t := t.advance a.due
      match a.content with
      | .failure reason => some (.error reason, { t with arrivals := rest })
      | .octets bs =>
        if bs.length ≤ chunk then some (.ok bs, { t with arrivals := rest })
        else
          some (.ok (bs.take chunk),
            { t with arrivals := { a with content := .octets (bs.drop chunk) } :: rest })

def weight (t : Transport) : Nat :=
  (t.arrivals.map (·.content.weight)).sum +
    (t.reactions.map fun reactions => (reactions.map Reaction.weight).sum).sum

theorem sum_weight_insert (a : Arrival) (arrivals : List Arrival) :
    ((insert a arrivals).map (·.content.weight)).sum =
      a.content.weight + (arrivals.map (·.content.weight)).sum := by
  induction arrivals with
  | nil => rfl
  | cons b rest ih =>
    unfold insert
    split
    · simp only [List.map_cons, List.sum_cons, ih]
      omega
    · simp only [List.map_cons, List.sum_cons]

theorem weight_react (t : Transport) (r : Reaction) : (t.react r).weight = r.weight + t.weight := by
  cases r with
  | answer after content =>
    simp only [react, schedule, weight, Reaction.weight, sum_weight_insert]
    omega
  | refuse reason => simp [react, Reaction.weight]
  | shutdown => simp [react, weight, Reaction.weight]

theorem weight_foldl_react (reactions : List Reaction) (t : Transport) :
    (reactions.foldl react t).weight = (reactions.map Reaction.weight).sum + t.weight := by
  induction reactions generalizing t with
  | nil => simp
  | cons r rest ih =>
    simp only [List.foldl_cons, ih, weight_react, List.map_cons, List.sum_cons]
    omega

theorem keeps_write (octets : Bytes) (destination : Address) :
    (write octets destination).Keeps weight := by
  intro t
  have split_reactions :
      (t.reactions.map fun reactions => (reactions.map Reaction.weight).sum).sum =
        ((t.reactions.headD []).map Reaction.weight).sum +
          (t.reactions.tail.map fun reactions => (reactions.map Reaction.weight).sum).sum := by
    cases t.reactions <;> simp
  unfold write
  simp only
  split
  · simp only [Outcome.state, weight]
    omega
  · simp only [Outcome.state]
    rw [weight_foldl_react]
    simp only [weight]
    omega

theorem weight_take {limit : Nat} {t t' : Transport} {got : Except String Bytes}
    (h : t.take? limit = some (got, t')) :
    t'.weight < t.weight ∧ ∀ bs, got = .ok bs → t'.weight + bs.length ≤ t.weight := by
  unfold take? at h
  split at h
  · cases h
  · next a rest arrivals =>
    split at h
    · cases h
    · cases content : a.content with
      | failure reason =>
        simp only [content] at h
        cases h
        simp [weight, advance, arrivals, content, Arrival.Content.weight]
      | octets bs =>
        simp only [content] at h
        split at h
        · cases h
          simp only [weight, advance, arrivals, content, Arrival.Content.weight, List.map_cons,
            List.sum_cons]
          refine ⟨by omega, ?_⟩
          rintro _ ⟨⟩
          omega
        · next long =>
          cases h
          simp only [weight, advance, arrivals, content, Arrival.Content.weight, List.map_cons,
            List.sum_cons, List.length_drop]
          have : 0 < chunk := by decide
          refine ⟨by omega, ?_⟩
          rintro _ ⟨⟩
          simp only [List.length_take]
          omega

end Transport

end SolarTelemetry
