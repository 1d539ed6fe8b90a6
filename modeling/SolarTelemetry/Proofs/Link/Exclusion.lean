import SolarTelemetry.Link.Senders
import SolarTelemetry.Proofs.Link.LifeCycle

/-!
# Senders take turns

Only the call that has the lock hands packets to the transport, and it lets go of the lock only when
it returns. So whatever the order of their steps, the packets come in blocks, one for each call that
got the lock: all its packets if it succeeded, and those up to the one at which it failed otherwise.
-/

namespace SolarTelemetry

theorem Packet.eq_layout_of_encode {p : Packet} {octets : Bytes} (encoded : p.encode = .ok octets) :
    octets = p.layout := by
  by_cases fits : p.payload.length ≤ maxPayload
  · rw [encode_of_le fits] at encoded
    cases encoded
    rfl
  · have long : maxLength < headerLength + p.payload.length := by
      have : maxPayload + headerLength = maxLength := rfl
      omega
    unfold encode at encoded
    simp [long] at encoded

/-- What stands on a transport for a packet that it took. -/
def Packet.posted (p : Packet) : Address × Bytes := (p.destination, p.layout)

namespace Link

theorem sent_of_transmitOne_ok {p : Packet} {link link' : Link}
    (written : transmitOne p link = .ok () link') :
    link'.transport.sent = link.transport.sent ++ [p.posted] := by
  unfold transmitOne at written
  cases encoded : p.encode with
  | error e =>
    rw [encoded] at written
    cases written
  | ok octets =>
    obtain rfl := Packet.eq_layout_of_encode encoded
    simp only [encoded, Action.zoom, Transport.write] at written
    split at written
    · next taken =>
      cases written
      split at taken <;> cases taken
      exact (Transport.sent_foldl_react _ _).1
    · cases written

/-- A call that has the lock. -/
def Call.isActive (c : Call) : Bool :=
  match c.stage with
  | .sending _ | .handing _ _ => true
  | .queueing | .returned _ => false

/-- What one call handed to the transport while it had the lock. -/
structure Block where
  call : Nat
  taken : List Packet := []
  /-- The packet after those, if it was refused or is not taken yet. -/
  open? : Option Packet := none

namespace Block

def handed (b : Block) : List Packet := b.taken ++ b.open?.toList

def sent (b : Block) : List (Address × Bytes) := b.taken.map Packet.posted

/-- What the block of a call holds of its packets. -/
inductive Tells : Block → Call → Prop
  | sending {i : Nat} {taken left : List Packet} :
    Tells ⟨i, taken, none⟩ ⟨taken ++ left, .sending left⟩
  | handing {i : Nat} {taken left : List Packet} {p : Packet} :
    Tells ⟨i, taken, some p⟩ ⟨taken ++ p :: left, .handing p left⟩
  | sent {i : Nat} {ps : List Packet} : Tells ⟨i, ps, none⟩ ⟨ps, .returned (.ok ())⟩
  | refused {i : Nat} {taken left : List Packet} {p : Packet} {e : Error} :
    Tells ⟨i, taken, some p⟩ ⟨taken ++ p :: left, .returned (.error e)⟩
  | tooLong {i : Nat} {taken left : List Packet} {p : Packet} {e : Error} :
    Tells ⟨i, taken, none⟩ ⟨taken ++ p :: left, .returned (.error e)⟩

/-- How far the block of a call reaches. -/
def Covers (b : Block) (c : Call) : Prop :=
  match c.stage with
  | .queueing => False
  | .sending left | .handing _ left => b.handed ++ left = c.packets
  | .returned (.ok ()) => b.handed = c.packets
  | .returned (.error _) => b.handed <+: c.packets

variable {b : Block} {c : Call}

theorem Tells.begun (tells : b.Tells c) : c.stage ≠ .queueing := by
  cases tells <;> nofun

theorem Tells.covers (tells : b.Tells c) : b.Covers c := by
  cases tells with
  | sending | handing | sent => simp [Covers, handed]
  | @refused i taken left p =>
    refine ⟨left, ?_⟩
    simp [handed]
  | @tooLong i taken left p =>
    refine ⟨p :: left, ?_⟩
    simp [handed]

end Block

namespace Senders

variable {link : Link} {s t : Senders} {e : Event} {events : List Event}

@[simp] theorem locked_append (events others : List Event) :
    locked (events ++ others) = locked events ++ locked others :=
  List.filterMap_append

@[simp] theorem handed_append (events others : List Event) :
    handed (events ++ others) = handed events ++ handed others :=
  List.filterMap_append

@[simp] theorem locked_quiet : locked [.quiet] = [] := rfl

@[simp] theorem locked_locks (i : Nat) : locked [.locks i] = [i] := rfl

@[simp] theorem locked_hands (i : Nat) (p : Packet) : locked [.hands i p] = [] := rfl

@[simp] theorem handed_quiet : handed [.quiet] = [] := rfl

@[simp] theorem handed_locks (i : Nat) : handed [.locks i] = [] := rfl

@[simp] theorem handed_hands (i : Nat) (p : Packet) : handed [.hands i p] = [p] := rfl

/-- The lock is with the call that got it last, and with no other. -/
structure Exclusive (events : List Event) (s : Senders) : Prop where
  alone : ∀ i c, s.calls[i]? = some c → c.isActive → s.holder = some i
  latest : ∀ i, s.holder = some i → (locked events).getLast? = some i

theorem exclusive_on (link : Link) : Exclusive [] (on link) where
  alone i c standing := by
    cases standing
  latest i held := by
    cases held

theorem lt_of_stands {i : Nat} {c : Call} (stands : s.calls[i]? = some c) : i < s.calls.length :=
  (List.getElem?_eq_some_iff.mp stands).1

theorem getElem?_move_of_ne {i j : Nat} (ps : List Packet) (stage : Call.Stage) (other : i ≠ j) :
    (s.move i ps stage).calls[j]? = s.calls[j]? :=
  List.getElem?_set_ne other

theorem getElem?_move {i : Nat} {c : Call} (stands : s.calls[i]? = some c) (ps : List Packet)
    (stage : Call.Stage) : (s.move i ps stage).calls[i]? = some ⟨ps, stage⟩ :=
  List.getElem?_set_self (lt_of_stands stands)

/-- A call that goes on with the lock leaves it where it was. -/
theorem Exclusive.goesOn {i : Nat} {c : Call} {ps : List Packet} {stage : Call.Stage}
    (exclusive : Exclusive events s) (stands : s.calls[i]? = some c) (active : c.isActive)
    (quiet : locked [e] = []) : Exclusive (events ++ [e]) (s.move i ps stage) where
  alone j d standing running := by
    by_cases same : i = j
    · subst same
      exact exclusive.alone i c stands active
    · rw [getElem?_move_of_ne ps stage same] at standing
      exact exclusive.alone j d standing running
  latest j held := by
    rw [locked_append, quiet, List.append_nil]
    exact exclusive.latest j held

/-- After the call that had the lock, nobody has it. -/
theorem Exclusive.finishes {i : Nat} {c : Call} {ps : List Packet} {result : Except Error Unit}
    (exclusive : Exclusive events s) (stands : s.calls[i]? = some c) (active : c.isActive) :
    Exclusive (events ++ [e]) (s.finish i ps result) where
  alone j d standing running := by
    by_cases same : i = j
    · subst same
      rw [finish, getElem?_move stands] at standing
      cases standing
      cases running
    · rw [finish, getElem?_move_of_ne ps _ same] at standing
      have holds := exclusive.alone i c stands active
      rw [exclusive.alone j d standing running] at holds
      cases holds
      exact absurd rfl same
  latest j held := by
    cases held

theorem Exclusive.step (exclusive : Exclusive events s) (step : Step s e t) :
    Exclusive (events ++ [e]) t := by
  cases step with
  | world =>
    refine ⟨exclusive.alone, fun i held => ?_⟩
    simpa using exclusive.latest i held
  | call =>
    refine ⟨fun i c standing running => ?_, fun i held => ?_⟩
    · rw [List.getElem?_append] at standing
      split at standing
      · exact exclusive.alone i c standing running
      · obtain rfl := List.mem_singleton.mp (List.mem_of_getElem? standing)
        cases running
    · simpa using exclusive.latest i held
  | @lock i ps stands free =>
    refine ⟨fun j c standing running => ?_, fun j held => ?_⟩
    · by_cases same : i = j
      · rw [same]
      · have before : s.calls[j]? = some c := by
          rwa [getElem?_move_of_ne ps _ same] at standing
        have held := exclusive.alone j c before running
        rw [free] at held
        cases held
    · cases held
      simp
  | hand stands => exact exclusive.goesOn stands rfl rfl
  | taken stands =>
    obtain ⟨alone, latest⟩ := exclusive.goesOn (e := .quiet) stands rfl rfl
    exact ⟨alone, latest⟩
  | tooLong stands | sent stands => exact exclusive.finishes stands rfl
  | refused stands =>
    obtain ⟨alone, latest⟩ := exclusive.finishes (e := .quiet) stands rfl
    exact ⟨alone, latest⟩

theorem Run.append {u : Senders} {others : List Event} (run : Run s events t)
    (rest : Run t others u) : Run s (events ++ others) u := by
  induction run with
  | nil => exact rest
  | cons step run ih => exact .cons step (ih rest)

theorem finish_move (i : Nat) (ps : List Packet) (stage : Call.Stage)
    (result : Except Error Unit) (s : Senders) :
    (s.move i ps stage).finish i ps result = s.finish i ps result := by
  simp [move, finish]

/-- A call that has the lock and is not interrupted does what `transmit` does. -/
theorem exists_run_of_sending {i : Nat} {ps left : List Packet}
    (stands : s.calls[i]? = some ⟨ps, .sending left⟩) :
    ∃ events, Run s events { s.finish i ps (Outcome.result (transmit left s.link)) with
      link := Outcome.state (transmit left s.link) } := by
  induction left generalizing s with
  | nil => exact ⟨_, .cons (.sent stands) .nil⟩
  | cons p left ih =>
    cases encoded : p.encode with
    | error fault =>
      have unsent : transmitOne p s.link = .error (.link fault) s.link := by
        unfold transmitOne
        rw [encoded]
      have failed : transmit (p :: left) s.link = .error (.link fault) s.link :=
        Action.bind_of_error unsent
      rw [failed]
      exact ⟨_, .cons (.tooLong stands encoded) .nil⟩
    | ok octets =>
      have handed : (s.move i ps (.handing p left)).calls[i]? = some ⟨ps, .handing p left⟩ :=
        getElem?_move stands ps _
      cases written : transmitOne p s.link with
      | error e link =>
        have failed : transmit (p :: left) s.link = .error e link := Action.bind_of_error written
        rw [failed]
        have ends := Run.cons (.hand stands encoded) (.cons (.refused handed written) .nil)
        rw [finish_move] at ends
        exact ⟨_, ends⟩
      | ok _ link =>
        have goes : transmit (p :: left) s.link = transmit left link := Action.bind_of_ok written
        obtain ⟨events, rest⟩ := @ih
          { (s.move i ps (.handing p left)).move i ps (.sending left) with link }
          (getElem?_move handed ps _)
        rw [goes]
        have whole := Run.cons (.hand stands encoded) (.cons (.taken handed written) rest)
        simp only [move, finish, List.set_set] at whole ⊢
        exact ⟨_, whole⟩

/-- So does one that finds the lock free. -/
theorem exists_run_transmit {i : Nat} {ps : List Packet}
    (stands : s.calls[i]? = some ⟨ps, .queueing⟩) (free : s.holder = none) :
    ∃ events, Run s events { s.finish i ps (Outcome.result (transmit ps s.link)) with
      link := Outcome.state (transmit ps s.link) } := by
  obtain ⟨events, rest⟩ := @exists_run_of_sending
    { s.move i ps (.sending ps) with holder := some i } i ps ps (getElem?_move stands ps _)
  have whole := Run.cons (.lock stands free) rest
  simp only [move, finish, List.set_set] at whole ⊢
  exact ⟨_, whole⟩

/-- How the blocks written so far account for what every call has done. -/
structure Account (link : Link) (events : List Event) (s : Senders) (blocks : List Block) :
    Prop where
  handed : handed events = blocks.flatMap Block.handed
  sent : s.link.transport.sent = link.transport.sent ++ blocks.flatMap Block.sent
  locked : locked events = blocks.map (·.call)
  once : (blocks.map (·.call)).Nodup
  tells : ∀ b ∈ blocks, ∃ c, s.calls[b.call]? = some c ∧ b.Tells c
  begun : ∀ i c, s.calls[i]? = some c → c.stage ≠ .queueing → i ∈ blocks.map (·.call)

variable {blocks earlier : List Block} {b b' : Block}

theorem account_on (link : Link) : Account link [] (on link) [] where
  handed := rfl
  sent := (List.append_nil _).symm
  locked := rfl
  once := List.nodup_nil
  tells := nofun
  begun i c standing := by
    cases standing

/-- A call with the lock is the one of the last block. -/
theorem Account.exists_last {i : Nat} {c : Call} (account : Account link events s blocks)
    (exclusive : Exclusive events s) (stands : s.calls[i]? = some c) (active : c.isActive) :
    ∃ earlier b, blocks = earlier ++ [b] ∧ b.call = i ∧ b.Tells c := by
  have latest := exclusive.latest i (exclusive.alone i c stands active)
  rw [account.locked, List.getLast?_map, Option.map_eq_some_iff] at latest
  obtain ⟨b, last, rfl⟩ := latest
  obtain ⟨earlier, split⟩ := List.getLast?_eq_some_iff.mp last
  obtain ⟨c', standing, tells⟩ := account.tells b (by rw [split]; simp)
  rw [stands] at standing
  cases standing
  exact ⟨earlier, b, split, rfl, tells⟩

/-- The last block goes on with its call. -/
theorem Account.goesOn {c : Call} {more : List (Address × Bytes)}
    (account : Account link events s (earlier ++ [b])) (same : b'.call = b.call)
    (stays : Senders.locked [e] = []) (hands : b'.handed = b.handed ++ Senders.handed [e])
    (sends : b'.sent = b.sent ++ more)
    (sent : t.link.transport.sent = s.link.transport.sent ++ more)
    (moved : t.calls = s.calls.set b.call c) (tells : b'.Tells c) :
    Account link (events ++ [e]) t (earlier ++ [b']) := by
  have calls : (earlier ++ [b']).map (·.call) = (earlier ++ [b]).map (·.call) := by simp [same]
  have others : ∀ d ∈ earlier, b.call ≠ d.call := by
    have once := account.once
    rw [List.map_append, List.nodup_append] at once
    exact fun d member => (once.2.2 _ (List.mem_map_of_mem member) _ (by simp)).symm
  refine ⟨?_, ?_, ?_, ?_, ?_, ?_⟩
  · simp [account.handed, hands]
  · simp [sent, account.sent, sends]
  · rw [locked_append, stays, List.append_nil, calls]
    exact account.locked
  · rw [calls]
    exact account.once
  · intro d member
    rw [moved]
    rcases List.mem_append.mp member with old | new
    · rw [List.getElem?_set_ne (others d old)]
      exact account.tells d (List.mem_append_left _ old)
    · obtain rfl := List.mem_singleton.mp new
      obtain ⟨c', stands, -⟩ := account.tells b (by simp)
      rw [same, List.getElem?_set_self (lt_of_stands stands)]
      exact ⟨c, rfl, tells⟩
  · intro i d standing begun
    rw [calls]
    by_cases here : b.call = i
    · simp [here]
    · rw [moved, List.getElem?_set_ne here] at standing
      exact account.begun i d standing begun

/-- Whatever a step is, it opens a block, goes on with the last one or touches none. -/
theorem Account.step (account : Account link events s blocks) (exclusive : Exclusive events s)
    (step : Step s e t) : ∃ blocks', Account link (events ++ [e]) t blocks' := by
  cases step with
  | world same =>
    refine ⟨blocks, ?_, ?_, ?_, account.once, account.tells, account.begun⟩
    · simp [account.handed]
    · exact same.trans account.sent
    · simp [account.locked]
  | call =>
    refine ⟨blocks, ?_, account.sent, ?_, account.once, ?_, ?_⟩
    · simp [account.handed]
    · simp [account.locked]
    · intro b member
      obtain ⟨c, stands, tells⟩ := account.tells b member
      exact ⟨c, by rw [List.getElem?_append_left (lt_of_stands stands), stands], tells⟩
    · intro i c standing begun
      rw [List.getElem?_append] at standing
      split at standing
      · exact account.begun i c standing begun
      · obtain rfl := List.mem_singleton.mp (List.mem_of_getElem? standing)
        exact absurd rfl begun
  | @lock i ps stands free =>
    -- A call that still queues has no block yet.
    have fresh : i ∉ blocks.map (·.call) := by
      intro member
      obtain ⟨b, old, rfl⟩ := List.mem_map.mp member
      obtain ⟨c, standing, tells⟩ := account.tells b old
      rw [stands] at standing
      cases standing
      exact tells.begun rfl
    refine ⟨blocks ++ [⟨i, [], none⟩], ?_, ?_, ?_, ?_, ?_, ?_⟩
    · simp [account.handed, Block.handed]
    · simp [move, account.sent, Block.sent]
    · simp [account.locked]
    · rw [List.map_append, List.nodup_append]
      refine ⟨account.once, by simp, ?_⟩
      rintro j old _ new rfl
      obtain rfl := List.mem_singleton.mp new
      exact fresh old
    · intro b member
      rcases List.mem_append.mp member with old | new
      · have other : i ≠ b.call := by
          rintro rfl
          exact fresh (List.mem_map_of_mem old)
        rw [getElem?_move_of_ne ps _ other]
        exact account.tells b old
      · obtain rfl := List.mem_singleton.mp new
        exact ⟨_, getElem?_move stands ps _, .sending⟩
    · intro j c standing begun
      by_cases same : i = j
      · simp [same]
      · rw [getElem?_move_of_ne ps _ same] at standing
        simpa using Or.inl (List.mem_map.mp (account.begun j c standing begun))
  | @hand i ps left p octets stands encoded =>
    obtain ⟨earlier, b, rfl, rfl, tells⟩ := account.exists_last exclusive stands rfl
    cases tells with
    | @sending i taken =>
      refine ⟨earlier ++ [⟨i, taken, some p⟩], account.goesOn rfl rfl ?_ (List.append_nil _).symm
        (List.append_nil _).symm rfl .handing⟩
      simp [Block.handed]
  | tooLong stands =>
    obtain ⟨earlier, b, rfl, rfl, tells⟩ := account.exists_last exclusive stands rfl
    cases tells with
    | @sending i taken =>
      exact ⟨earlier ++ [⟨i, taken, none⟩], account.goesOn rfl rfl (List.append_nil _).symm
        (List.append_nil _).symm (List.append_nil _).symm rfl .tooLong⟩
  | @taken i ps left p link' stands written =>
    obtain ⟨earlier, b, rfl, rfl, tells⟩ := account.exists_last exclusive stands rfl
    cases tells with
    | @handing i taken =>
      have next : (⟨i, taken ++ [p], none⟩ : Block).Tells ⟨taken ++ p :: left, .sending left⟩ := by
        have packets : taken ++ p :: left = (taken ++ [p]) ++ left := by simp
        rw [packets]
        exact .sending
      refine ⟨earlier ++ [⟨i, taken ++ [p], none⟩], account.goesOn rfl rfl ?_ ?_
        (sent_of_transmitOne_ok written) rfl next⟩
      all_goals simp [Block.handed, Block.sent]
  | @refused i ps left p e' link' stands unwritten =>
    obtain ⟨earlier, b, rfl, rfl, tells⟩ := account.exists_last exclusive stands rfl
    obtain ⟨transport, rfl, unsent⟩ := eq_of_transmitOne_error unwritten
    cases tells with
    | @handing i taken =>
      refine ⟨earlier ++ [⟨i, taken, some p⟩], account.goesOn rfl rfl (List.append_nil _).symm
        (List.append_nil _).symm ?_ rfl .refused⟩
      simp [unsent]
  | sent stands =>
    obtain ⟨earlier, b, rfl, rfl, tells⟩ := account.exists_last exclusive stands rfl
    cases tells with
    | @sending i taken =>
      have whole : (⟨i, taken, none⟩ : Block).Tells ⟨taken ++ [], .returned (.ok ())⟩ := by
        rw [List.append_nil]
        exact .sent
      exact ⟨earlier ++ [⟨i, taken, none⟩], account.goesOn rfl rfl (List.append_nil _).symm
        (List.append_nil _).symm (List.append_nil _).symm rfl whole⟩

/-- What the transport was handed, in blocks that belong to one call each. -/
structure Serial (link : Link) (events : List Event) (s : Senders) (blocks : List Block) :
    Prop where
  handed : Senders.handed events = blocks.flatMap Block.handed
  /-- There is one block for each call that got the lock, in this order. -/
  calls : blocks.map (·.call) = locked events
  once : (locked events).Nodup
  begun : ∀ i c, s.calls[i]? = some c → c.stage ≠ .queueing → i ∈ locked events
  covers : ∀ b ∈ blocks, ∃ c, s.calls[b.call]? = some c ∧ b.Covers c
  /-- Only the last block may still grow. -/
  grows : ∀ i c, s.calls[i]? = some c → c.isActive → (locked events).getLast? = some i
  /-- What the transport has taken of them. -/
  sent : s.link.transport.sent = link.transport.sent ++ blocks.flatMap Block.sent

theorem Account.run {more : List Event} (account : Account link events s blocks)
    (run : Run s more t) (exclusive : Exclusive events s) :
    Exclusive (events ++ more) t ∧ ∃ blocks', Account link (events ++ more) t blocks' := by
  induction run generalizing events blocks with
  | nil =>
    rw [List.append_nil]
    exact ⟨exclusive, blocks, account⟩
  | cons step rest ih =>
    obtain ⟨blocks', accounted⟩ := account.step exclusive step
    rw [List.append_cons]
    exact ih accounted (exclusive.step step)

/-- However the steps of the calls are mixed, and whatever the transport refuses. -/
theorem Run.serial (run : Run (on link) events s) : ∃ blocks, Serial link events s blocks := by
  obtain ⟨exclusive, blocks, account⟩ := (account_on link).run run (exclusive_on link)
  rw [List.nil_append] at exclusive account
  refine ⟨blocks, account.handed, account.locked.symm, ?_, ?_, ?_, ?_, account.sent⟩
  · rw [account.locked]
    exact account.once
  · rw [account.locked]
    exact account.begun
  · intro b member
    obtain ⟨c, stands, tells⟩ := account.tells b member
    exact ⟨c, stands, tells.covers⟩
  · intro i c stands active
    exact exclusive.latest i (exclusive.alone i c stands active)

/-- A write loses its second packet while a signal query waits for its turn. -/
theorem Run.serial_refused :
    let first : Packet := .of .dataPart .zero .zero [1]
    let second : Packet := .of .data .zero .zero [2]
    let query : Packet := .of .signalQuery .zero .zero [5, 0]
    let link : Link := { transport := { reactions := [[], [.refuse "busy"]] } }
    ∃ events s, Run (on link) events s ∧ handed events = [first, second, query] ∧
      s.calls[0]?.map (·.stage) = some (.returned (.error (.transport "busy"))) ∧
      s.calls[1]?.map (·.stage) = some (.returned (.ok ())) ∧
      ∃ blocks, Serial link events s blocks := by
  intro first second query link
  have fits {p : Packet} (short : p.payload.length ≤ Packet.maxPayload) :
      p.encode = .ok p.layout := Packet.encode_of_le short
  have run : Run (on link) _ _ :=
    .cons (@Step.call _ [first, second]) <|
    .cons (@Step.lock _ 0 [first, second] rfl rfl) <|
    .cons (@Step.hand _ 0 [first, second] _ _ _ rfl (fits (by decide))) <|
    .cons (@Step.call _ [query]) <|
    .cons (@Step.taken _ 0 [first, second] _ _ _ rfl rfl) <|
    .cons (@Step.hand _ 0 [first, second] _ _ _ rfl (fits (by decide))) <|
    .cons (@Step.refused _ 0 [first, second] _ _ _ _ rfl rfl) <|
    .cons (@Step.lock _ 1 [query] rfl rfl) <|
    .cons (@Step.hand _ 1 [query] _ _ _ rfl (fits (by decide))) <|
    .cons (@Step.taken _ 1 [query] _ _ _ rfl rfl) <|
    .cons (@Step.sent _ 1 [query] rfl) .nil
  exact ⟨_, _, run, rfl, rfl, rfl, run.serial⟩

end Senders

end Link

end SolarTelemetry
