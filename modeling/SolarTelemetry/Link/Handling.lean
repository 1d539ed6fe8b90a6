import SolarTelemetry.Link.Basic

/-!
# What a packet does

The handshake takes three kinds of packet in turn, each only in its phase; a packet out of turn, too
short or of an unknown kind changes nothing. Data is taken once the devices are known, and only if
it is for this end. Handling can fail only by failing to answer the first packet of the handshake.
-/

namespace SolarTelemetry.Link

/-- Notes the network and answers with the same payload. -/
def joinNetwork (p : Packet) : Action Link Unit := fun link =>
  match link.phase, p.payload[4]? with
  | .awaitingIdAck, some netId =>
    let link := { link with info := { link.info with netId, peerAddress := p.source } }
    match transmit [.of .idExchange .zero p.source p.payload] link with
    | .ok () link => .ok () { link with phase := .awaitingOwnAddress }
    | .error e link => .error e link
  | _, _ => .ok () link

/-- The addresses of the peer and of this end. -/
def addressesOf? (payload : Bytes) : Option (Address × Address) := do
  let peer ← Address.ofWire? (payload.take 6)
  let own ← Address.ofWire? ((payload.drop 7).take 6)
  some (peer, own)

def noteAddresses (p : Packet) (link : Link) : Link :=
  match link.phase, addressesOf? p.payload with
  | .awaitingOwnAddress, some (peer, own) =>
    { link with
      info := { link.info with peerAddress := peer, ownAddress := own }
      phase := .awaitingDeviceCount }
  | _, _ => link

def topologyEntryLength : Nat := 8

/-- The addresses that open the entries of a device list. -/
def topologyAddresses (payload : Bytes) : List Address :=
  if payload.length < topologyEntryLength then []
  else
    (Address.ofWire? (payload.take 6)).toList ++
      topologyAddresses (payload.drop topologyEntryLength)
termination_by payload.length
decreasing_by
  have : 0 < topologyEntryLength := by decide
  simp only [List.length_drop]
  omega

/-- A device list has at least one entry and nothing but whole entries. -/
def isTopology (payload : Bytes) : Bool :=
  !payload.isEmpty && payload.length % topologyEntryLength == 0

def noteDevices (p : Packet) (link : Link) : Link :=
  match link.phase, isTopology p.payload with
  | .awaitingDeviceCount, true =>
    let devices := (topologyAddresses p.payload).filter (· != link.info.ownAddress)
    { link with info := { link.info with devices }, phase := .deviceListKnown }
  | _, _ => link

def noteSignal (p : Packet) (link : Link) : Link :=
  match p.payload[4]? with
  | some level => { link with signal := some (level.toNat * 100 / 255) }
  | none => link

def isForThisEnd (link : Link) (p : Packet) : Bool :=
  p.destination == link.info.ownAddress || p.destination.reachesAll

/-- A payload that is now complete takes the place of one that nobody has read. -/
def takeData (last : Bool) (p : Packet) (link : Link) : Link :=
  if link.phase.takesData && link.isForThisEnd p then
    match link.parts.accept p.source p.payload last with
    | (some payload, parts) => { link with parts, queue := some ⟨p.source, payload⟩ }
    | (none, parts) => { link with parts }
  else link

def handle (p : Packet) : Action Link Unit :=
  match p.command? with
  | some .idExchange => joinNetwork p
  | some .address => modify (noteAddresses p)
  | some .topology => modify (noteDevices p)
  | some .signalReport => modify (noteSignal p)
  | some .data => modify (takeData true p)
  | some .dataPart => modify (takeData false p)
  | some .signalQuery | none => pure ()

def handleAll : List Packet → Action Link Unit
  | [] => pure ()
  | p :: ps => do
    handle p
    handleAll ps

theorem load_takeData_le (last : Bool) (p : Packet) (link : Link) :
    (takeData last p link).load ≤ link.load + p.payload.length + 1 := by
  have bound := Parts.accept_size_le link.parts p.source p.payload last
  unfold takeData
  split
  · split
    · next payload parts eq =>
      simp only [eq, Option.map_some, Option.getD_some] at bound
      simp only [load, weight, queued, Option.map_some, Option.getD_some]
      omega
    · next parts eq =>
      simp only [eq, Option.map_none, Option.getD_none] at bound
      simp only [load, weight, queued]
      omega
  · omega

theorem load_joinNetwork_le (p : Packet) : (joinNetwork p).Keeps load := by
  intro link
  unfold joinNetwork
  split
  · next netId _ _ =>
    have sent := keeps_transmit load_of_transport [.of .idExchange .zero p.source p.payload]
      { link with info := { link.info with netId, peerAddress := p.source } }
    simp only
    split <;> next eq => simpa only [eq, Outcome.state, load, weight, queued] using sent
  · exact Nat.le_refl _

theorem weight_joinNetwork_le (p : Packet) : (joinNetwork p).Keeps weight := by
  intro link
  unfold joinNetwork
  split
  · next netId _ _ =>
    have sent := keeps_transmit weight_of_transport [.of .idExchange .zero p.source p.payload]
      { link with info := { link.info with netId, peerAddress := p.source } }
    simp only
    split <;> next eq => simpa only [eq, Outcome.state, weight] using sent
  · exact Nat.le_refl _

theorem load_noteAddresses (p : Packet) (link : Link) :
    (noteAddresses p link).load = link.load := by
  unfold noteAddresses
  split <;> rfl

theorem load_noteDevices (p : Packet) (link : Link) : (noteDevices p link).load = link.load := by
  unfold noteDevices
  split <;> rfl

theorem load_noteSignal (p : Packet) (link : Link) : (noteSignal p link).load = link.load := by
  unfold noteSignal
  split <;> rfl

theorem weight_takeData (last : Bool) (p : Packet) (link : Link) :
    (takeData last p link).weight = link.weight := by
  unfold takeData
  split
  · split <;> rfl
  · rfl

theorem load_handle_le (p : Packet) (link : Link) :
    (Outcome.state (handle p link)).load ≤ link.load + p.payload.length + 1 := by
  have more : link.load ≤ link.load + p.payload.length + 1 := by omega
  unfold handle
  cases p.command? with
  | none => exact more
  | some command =>
    cases command with
    | idExchange => exact Nat.le_trans (load_joinNetwork_le p link) more
    | address => exact Nat.le_trans (Nat.le_of_eq (load_noteAddresses p link)) more
    | topology => exact Nat.le_trans (Nat.le_of_eq (load_noteDevices p link)) more
    | signalReport => exact Nat.le_trans (Nat.le_of_eq (load_noteSignal p link)) more
    | data => exact load_takeData_le true p link
    | dataPart => exact load_takeData_le false p link
    | signalQuery => exact more

theorem keeps_weight_handle (p : Packet) : (handle p).Keeps weight := by
  intro link
  unfold handle
  cases p.command? with
  | none => exact Nat.le_refl _
  | some command =>
    cases command with
    | idExchange => exact weight_joinNetwork_le p link
    | address =>
      change (noteAddresses p link).weight ≤ _
      unfold noteAddresses
      split <;> exact Nat.le_refl _
    | topology =>
      change (noteDevices p link).weight ≤ _
      unfold noteDevices
      split <;> exact Nat.le_refl _
    | signalReport =>
      change (noteSignal p link).weight ≤ _
      unfold noteSignal
      split <;> exact Nat.le_refl _
    | data => exact Nat.le_of_eq (weight_takeData true p link)
    | dataPart => exact Nat.le_of_eq (weight_takeData false p link)
    | signalQuery => exact Nat.le_refl _

theorem keeps_weight_handleAll (ps : List Packet) : (handleAll ps).Keeps weight := by
  induction ps with
  | nil => exact Action.keeps_pure _
  | cons p ps ih => exact (keeps_weight_handle p).bind fun _ => ih

/-- A packet adds to the load less than it took in the buffer. -/
theorem load_handleAll_le (ps : List Packet) (link : Link) :
    (Outcome.state (handleAll ps link)).load ≤
      link.load + (ps.map (Packet.headerLength + ·.payload.length)).sum := by
  induction ps generalizing link with
  | nil => exact Nat.le_refl _
  | cons p ps ih =>
    have step := load_handle_le p link
    have : 1 ≤ Packet.headerLength := by decide
    simp only [List.map_cons, List.sum_cons]
    change (Outcome.state (EStateM.bind (handle p) (fun _ => handleAll ps) link)).load ≤ _
    unfold EStateM.bind
    cases eq : handle p link with
    | error e link' =>
      simp only [eq, Outcome.state] at step ⊢
      omega
    | ok u link' =>
      have rest := ih link'
      simp only [eq, Outcome.state] at step
      simp only at rest ⊢
      omega

end SolarTelemetry.Link
