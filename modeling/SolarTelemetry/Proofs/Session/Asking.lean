import SolarTelemetry.Proofs.Session.Operations

/-!
# Asking a device

An attempt at a query writes one request, to the device that is asked, and then only receives. So
with retries there is a request for each attempt, each under a number of its own.
-/

namespace SolarTelemetry

namespace Session

section

variable {σ : Type} [Channel σ] {α β : Type} {packetId : UInt16}

/-- An action of which nothing is written. -/
def WritesNothing (act : Action (Session σ) α) : Prop :=
  ∀ s, ∃ events, Trace s events (Outcome.state (act s)) ∧ writesIn events = []

namespace WritesNothing

theorem pure (a : α) : WritesNothing (σ := σ) (Pure.pure a) := fun _ => ⟨[], .refl, rfl⟩

theorem ofProtocol (r : Except ProtocolError α) :
    WritesNothing (σ := σ) (Session.ofProtocol r) := by
  intro s
  cases r <;> exact ⟨[], .refl, rfl⟩

theorem receive : WritesNothing (σ := σ) (receive packetId) := by
  intro s
  cases received : Session.receive packetId s with
  | ok answer t => exact ⟨_, .accept received .refl, rfl⟩
  | error e t => exact ⟨_, .miss received .refl, rfl⟩

theorem bind {act : Action (Session σ) α} {next : α → Action (Session σ) β}
    (first : WritesNothing act) (second : ∀ a, WritesNothing (next a)) :
    WritesNothing (act >>= next) := by
  intro s
  obtain ⟨events, trace, silent⟩ := first s
  cases ran : act s with
  | ok a t =>
    rw [ran] at trace
    obtain ⟨more, rest, still⟩ := second a t
    refine ⟨events ++ more, ?_, ?_⟩
    · rw [Action.bind_of_ok ran]
      exact trace.append rest
    · rw [writesIn, List.filterMap_append, ← writesIn, ← writesIn, silent, still]
      rfl
  | error e t =>
    rw [ran] at trace
    refine ⟨events, ?_, silent⟩
    rw [Action.bind_of_error ran]
    exact trace

end WritesNothing

theorem writesNothing_collectPages (kind : Archive.Kind) (entries : List Archive.Entry) :
    WritesNothing (collectPages (σ := σ) kind packetId entries) := by
  intro s
  fun_induction collectPages kind packetId entries s with
  | case1 entries s e t received => exact ⟨_, .miss received .refl, rfl⟩
  | case2 entries s address reply t received e other => exact ⟨_, .accept received .refl, rfl⟩
  | case3 entries s address reply t received page entries' more ih =>
    obtain ⟨events, trace, silent⟩ := ih
    exact ⟨_, .accept received trace, silent⟩
  | case4 entries s address reply t received page entries' stops =>
    exact ⟨_, .accept received .refl, rfl⟩

/-- Whoever sends one request and then only receives has written just that request. -/
theorem exists_trace_of_send {rest : Action (Session σ) α} (silent : WritesNothing rest)
    (request : Request) (destination : Address) (s : Session σ) :
    ∃ events, Trace s events
        (Outcome.state ((send request destination packetId >>= fun _ => rest) s)) ∧
      writesIn events = [(destination, request.encode s.ownSerial packetId)] := by
  cases sent : send request destination packetId s with
  | error e t =>
    rw [Action.bind_of_error sent]
    exact ⟨_, .write_of_eq sent .refl, rfl⟩
  | ok _ t =>
    obtain ⟨events, trace, nothing⟩ := silent t
    rw [Action.bind_of_ok sent]
    exact ⟨_, .write_of_eq sent trace, congrArg _ nothing⟩

end

/-- A transaction in which a device is asked for an object, and nothing else is written. -/
def Transaction.AsksFor (ownSerial serial : UInt32) (object : UInt16) (first last : UInt32)
    (tx : Transaction) : Prop :=
  ∃ d : Device, d.serial = serial ∧ tx.writes =
    [(d.address, (Request.query d.target object first last).encode ownSerial tx.packetId)]

section

variable {α : Type} {serial ownSerial : UInt32} {object : UInt16} {first last : UInt32}
  {once : Device → UInt16 → Action (Session Link) α} {s : Session Link}

theorem makes_device (keeps : ∀ d packetId, KeepsTo packetId (once d packetId))
    (asks : ∀ d packetId s, ∃ events, Trace s events (Outcome.state (once d packetId s)) ∧
      writesIn events = [(d.address,
        (Request.query d.target object first last).encode s.ownSerial packetId)])
    (ready : Knows serial s ∧ s.ownSerial = ownSerial) :
    let t := Outcome.state ((device serial >>= fun d => exchange (once d)) s)
    Makes (·.AsksFor ownSerial serial object first last) s 1 t ∧
      Knows serial t ∧ t.ownSerial = ownSerial := by
  obtain ⟨known, rfl⟩ := ready
  have still := (transacts_device keeps known).2
  obtain ⟨d, found⟩ := exists_device_of_knows known
  have ran : (device serial >>= fun d => exchange (once d)) s =
      Outcome.mapState ended (once d s.numbering.current s.cleared) :=
    (Action.bind_of_ok found).trans (exchange_eq _ s)
  obtain ⟨events, trace, asked⟩ := asks d s.numbering.current s.cleared
  obtain ⟨stream, devices, same, -⟩ := trace.exists_eq
  refine ⟨?_, still, ?_⟩
  · rw [ran, Outcome.state_mapState]
    refine ⟨_, .transact (.clear trace) .refl, rfl, List.forall_mem_singleton.mpr ?_⟩
    exact ⟨d, (device_eq_ok found).2, asked⟩
  · rw [ran, Outcome.state_mapState, same]
    rfl

/-- There is a request for each attempt. -/
theorem makes_withRetries_device (keeps : ∀ d packetId, KeepsTo packetId (once d packetId))
    (asks : ∀ d packetId s, ∃ events, Trace s events (Outcome.state (once d packetId s)) ∧
      writesIn events = [(d.address,
        (Request.query d.target object first last).encode s.ownSerial packetId)])
    (known : Knows serial s) :
    Makes (·.AsksFor s.ownSerial serial object first last) s
      (RetryBudget.attempts {} (device serial >>= fun d => exchange (once d)) s)
      (Outcome.state (withRetries (device serial >>= fun d => exchange (once d)) s)) :=
  .run (fun _ ready => makes_device keeps asks ready) (fun _ _ ready => ready) {} s ⟨known, rfl⟩

end

/-- Whatever comes of it, a query is sent once with each attempt. -/
theorem makes_queryChannel {serial : UInt32} {s : Session Link} (query : Query)
    (known : Knows serial s) :
    Makes (·.AsksFor s.ownSerial serial query.object query.first query.last) s
      (RetryBudget.attempts {} (queryChannel serial query.object query.first query.last) s)
      (Outcome.state
        (withRetries (queryChannel serial query.object query.first query.last) s)) :=
  makes_withRetries_device (fun d _ => keepsTo_queryOnce d _ _ _)
    (fun _ _ => exists_trace_of_send (WritesNothing.receive.bind fun _ =>
      (WritesNothing.ofProtocol _).bind fun _ => .pure _) _ _) known

/-- Whatever comes of it, an archive read asks for the archive once with each attempt. -/
theorem makes_readArchive (kind : Archive.Kind) (first last : UInt32) {serial : UInt32}
    {s : Session Link} (known : Knows serial s) :
    Makes (·.AsksFor s.ownSerial serial kind.object first last) s
      (RetryBudget.attempts {} (tryArchive serial kind first last) s)
      (Outcome.state (readArchive serial kind first last s)) := by
  have made := makes_withRetries_device (fun d _ => keepsTo_fetchOnce d kind first last)
    (fun _ _ => exists_trace_of_send (writesNothing_collectPages kind []) _ _) known
  exact (Action.state_map _ _ _).symm ▸ made

end Session

end SolarTelemetry
