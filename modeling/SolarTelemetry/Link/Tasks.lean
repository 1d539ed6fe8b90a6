import SolarTelemetry.Link

/-!
# Reader and caller

The reader of a link and whoever uses it are two tasks that share the link, and between any two
steps of one the other may take some of its own. `Step` is what either may do next, from one wait to
the following, and what the world outside may do to the transport; which of them goes on is open.
Operations come one after the other. One that is refused begins and returns in a single step.
-/

namespace SolarTelemetry.Link

/-- What a caller asks of a link. -/
inductive Operation where
  | connect
  | write (payload : Bytes) (destination : Address)
  /-- Within so many milliseconds. -/
  | read (wait : Nat)
  | signalStrength (peer : Address)
  | close
  deriving DecidableEq

/-- An operation for which a link has to be connected. -/
def Operation.isUse : Operation → Bool
  | .connect | .close => false
  | .write _ _ | .read _ | .signalStrength _ => true

inductive Operation.Answer where
  | done
  | received (d : Option Delivery)
  | strength (percent : Nat)
  deriving DecidableEq

open Operation (Answer)

/-- Where the reader stands. -/
inductive Reader where
  /-- There is none, or it has come to its end. -/
  | ended
  /-- About to look whether it is still wanted. -/
  | looping
  /-- Waits for the transport. -/
  | reading
  /-- Takes packets off its buffer. -/
  | unpacking
  /-- Waits until it may write the answer to a packet. -/
  | queueing (p : Packet)
  /-- Waits for the transport to take the answer to a packet. -/
  | answering (p : Packet)
  deriving DecidableEq

/-- Why a caller waits for the reader to end. -/
inductive Stop where
  /-- The link failed during the handshake. -/
  | broken
  /-- The handshake took too long. -/
  | late
  | closing
  deriving DecidableEq

/-- Where the caller stands. -/
inductive Caller where
  | idle
  /-- Waits for the handshake to be over. -/
  | connecting
  /-- Waits for the reader to end. -/
  | stopping (why : Stop)
  /-- Waits until it may write the packets of an operation. -/
  | queueing (op : Operation) (ps : List Packet)
  /-- Waits for the transport to take the first of these packets. -/
  | sending (op : Operation) (ps : List Packet)
  /-- Waits for a payload. -/
  | receiving (wait : Nat)
  /-- Waits for a signal report. -/
  | listening (peer : Address)
  deriving DecidableEq

/-- Only one task writes at a time. -/
def Reader.isWriting : Reader → Bool
  | .answering _ => true
  | _ => false

def Caller.isWriting : Caller → Bool
  | .sending _ _ => true
  | _ => false

structure Tasks where
  link : Link
  /-- The reader is no longer wanted. -/
  unwanted : Bool := false
  reader : Reader := .ended
  caller : Caller := .idle

/-- What a step shows of the operations. -/
inductive Event where
  | quiet
  | begins (op : Operation)
  | returns (op : Operation) (result : Except Error Answer)
  /-- Begins and returns at once. -/
  | refuses (op : Operation) (e : Error)

/-- The operation that a step starts. -/
def Event.started? : Event → Option Operation
  | .begins op | .refuses op _ => some op
  | .quiet | .returns _ _ => none

/-- The network that a packet names, if it opens the handshake. -/
def networkOf? (link : Link) (p : Packet) : Option UInt8 :=
  match link.phase, p.command? with
  | .awaitingIdAck, some .idExchange => p.payload[4]?
  | _, _ => none

def signalQuery (link : Link) (peer : Address) : Packet :=
  .of .signalQuery link.info.ownAddress peer [0x05, 0x00]

/-- A link whose handshake is about to begin. -/
def started (link : Link) : Link :=
  { link with phase := .awaitingIdAck, parts := [], buffer := [], since := link.now }

inductive Tasks.Step : Tasks → Event → Tasks → Prop
  /-- Time passes, and the transport is prepared for what it will do. -/
  | world {t : Tasks} {transport : Transport} {since : Nat}
    (same : transport.sent = t.link.transport.sent) :
    Step t .quiet { t with link := { t.link with transport, since } }
  -- The reader.
  | goOn {t : Tasks} (stands : t.reader = .looping) (wanted : t.unwanted = false) :
    Step t .quiet { t with reader := .reading }
  | halt {t : Tasks} (stands : t.reader = .looping) (unwanted : t.unwanted = true) :
    Step t .quiet { t with reader := .ended }
  | lapse {t : Tasks} (stands : t.reader = .reading) : Step t .quiet { t with reader := .looping }
  | arrive {t : Tasks} {limit : Nat} {octets : Bytes} {transport : Transport}
    (stands : t.reader = .reading)
    (taken : t.link.transport.take? limit = some (.ok octets, transport)) :
    Step t .quiet
      { t with
        link := { t.link with
          transport, since := transport.now, buffer := t.link.buffer ++ octets }
        reader := .unpacking }
  | breakDown {t : Tasks} {limit : Nat} {reason : String} {transport : Transport}
    (stands : t.reader = .reading)
    (taken : t.link.transport.take? limit = some (.error reason, transport)) :
    Step t .quiet
      { t with
        link := fail (Error.transport reason).message
          { t.link with transport, since := transport.now }
        reader := .ended }
  | drained {t : Tasks} (stands : t.reader = .unpacking)
    (decoded : Packet.decode t.link.buffer = .ok none) :
    Step t .quiet { t with reader := .looping }
  | malformed {t : Tasks} {fault : LinkError} (stands : t.reader = .unpacking)
    (decoded : Packet.decode t.link.buffer = .error fault) :
    Step t .quiet
      { t with link := t.link.fail (Error.link fault).message, reader := .ended }
  | packet {t : Tasks} {p : Packet} {rest : Bytes} {link : Link} (stands : t.reader = .unpacking)
    (decoded : Packet.decode t.link.buffer = .ok (some (p, rest)))
    (plain : t.link.networkOf? p = none)
    (handled : handle p { t.link with buffer := rest } = .ok () link) :
    Step t .quiet { t with link }
  | hello {t : Tasks} {p : Packet} {rest : Bytes} {netId : UInt8} (stands : t.reader = .unpacking)
    (decoded : Packet.decode t.link.buffer = .ok (some (p, rest)))
    (names : t.link.networkOf? p = some netId) :
    Step t .quiet
      { t with
        link := { t.link with
          buffer := rest, info := { t.link.info with netId, peerAddress := p.source } }
        reader := .queueing p }
  | turn {t : Tasks} {p : Packet} (stands : t.reader = .queueing p)
    (free : t.caller.isWriting = false) : Step t .quiet { t with reader := .answering p }
  | answered {t : Tasks} {p : Packet} {link : Link} (stands : t.reader = .answering p)
    (written : transmitOne (.of .idExchange .zero p.source p.payload) t.link = .ok () link) :
    Step t .quiet
      { t with link := { link with phase := .awaitingOwnAddress }, reader := .unpacking }
  | unanswered {t : Tasks} {p : Packet} {e : Error} {link : Link}
    (stands : t.reader = .answering p)
    (refused : transmitOne (.of .idExchange .zero p.source p.payload) t.link = .error e link) :
    Step t .quiet { t with link := link.fail e.message, reader := .ended }
  -- Connecting.
  | refuseConnect {t : Tasks} (free : t.caller = .idle) (phase : t.link.phase ≠ .notConnected) :
    Step t (.refuses .connect (.link (.connecting t.link.phase))) t
  | connect {t : Tasks} (free : t.caller = .idle) (phase : t.link.phase = .notConnected) :
    Step t (.begins .connect) ⟨t.link.started, false, .looping, .connecting⟩
  | connected {t : Tasks} (stands : t.caller = .connecting)
    (phase : t.link.phase = .deviceListKnown) :
    Step t (.returns .connect (.ok .done))
      { t with link := { t.link with phase := .connected }, caller := .idle }
  | noticeFailure {t : Tasks} (stands : t.caller = .connecting) (phase : t.link.phase = .failed) :
    Step t .quiet { t with unwanted := true, caller := .stopping .broken }
  | giveUp {t : Tasks} (stands : t.caller = .connecting)
    (unfinished : t.link.handshakeOver = false) :
    Step t .quiet { t with unwanted := true, caller := .stopping .late }
  | broken {t : Tasks} (stands : t.caller = .stopping .broken) (ended : t.reader = .ended) :
    Step t (.returns .connect (.error t.link.failureError)) { t with caller := .idle }
  | late {t : Tasks} (stands : t.caller = .stopping .late) (ended : t.reader = .ended) :
    Step t (.returns .connect (.error .handshakeTimeout))
      { t with link := t.link.fail "handshake timeout", caller := .idle }
  -- Closing.
  | close {t : Tasks} (free : t.caller = .idle) :
    Step t (.begins .close) { t with unwanted := true, caller := .stopping .closing }
  | closed {t : Tasks} (stands : t.caller = .stopping .closing) (ended : t.reader = .ended) :
    Step t (.returns .close (.ok .done))
      { t with
        link := if t.link.phase = .failed then t.link else { t.link with phase := .notConnected }
        caller := .idle }
  -- Whatever needs a usable link.
  | refuse {t : Tasks} {op : Operation} {e : Error} (free : t.caller = .idle)
    (use : op.isUse) (fault : t.link.fault? = some e) :
    Step t (.refuses op e) t
  | write {t : Tasks} {payload : Bytes} {destination : Address} (free : t.caller = .idle)
    (usable : t.link.fault? = none) :
    Step t (.begins (.write payload destination))
      { t with
        caller := .queueing (.write payload destination)
          (packetsOf t.link.info.ownAddress destination payload) }
  | signalStrength {t : Tasks} {peer : Address} (free : t.caller = .idle)
    (usable : t.link.fault? = none) :
    Step t (.begins (.signalStrength peer))
      { t with
        link := { t.link with signal := none }
        caller := .queueing (.signalStrength peer) [t.link.signalQuery peer] }
  | read {t : Tasks} {wait : Nat} (free : t.caller = .idle) (usable : t.link.fault? = none) :
    Step t (.begins (.read wait)) { t with caller := .receiving wait }
  -- Sending.
  | startSending {t : Tasks} {op : Operation} {ps : List Packet}
    (stands : t.caller = .queueing op ps) (free : t.reader.isWriting = false) :
    Step t .quiet { t with caller := .sending op ps }
  | send {t : Tasks} {op : Operation} {p : Packet} {ps : List Packet} {link : Link}
    (stands : t.caller = .sending op (p :: ps)) (written : transmitOne p t.link = .ok () link) :
    Step t .quiet { t with link, caller := .sending op ps }
  | unsent {t : Tasks} {op : Operation} {p : Packet} {ps : List Packet} {e : Error} {link : Link}
    (stands : t.caller = .sending op (p :: ps))
    (refused : transmitOne p t.link = .error e link) :
    Step t (.returns op (.error e)) { t with link, caller := .idle }
  | written {t : Tasks} {payload : Bytes} {destination : Address}
    (stands : t.caller = .sending (.write payload destination) []) :
    Step t (.returns (.write payload destination) (.ok .done)) { t with caller := .idle }
  | asked {t : Tasks} {peer : Address} (stands : t.caller = .sending (.signalStrength peer) []) :
    Step t .quiet { t with caller := .listening peer }
  -- Waiting for what the reader leaves.
  | receive {t : Tasks} {wait : Nat} {d : Delivery} (stands : t.caller = .receiving wait)
    (found : t.link.queue = some d) :
    Step t (.returns (.read wait) (.ok (.received (some d))))
      { t with link := { t.link with queue := none }, caller := .idle }
  | receiveFailure {t : Tasks} {wait : Nat} (stands : t.caller = .receiving wait)
    (failed : t.link.phase = .failed) :
    Step t (.returns (.read wait) (.error t.link.failureError)) { t with caller := .idle }
  | receiveNothing {t : Tasks} {wait : Nat} (stands : t.caller = .receiving wait) :
    Step t (.returns (.read wait) (.ok (.received none))) { t with caller := .idle }
  | hear {t : Tasks} {peer : Address} {percent : Nat} (stands : t.caller = .listening peer)
    (reported : t.link.signal = some percent) :
    Step t (.returns (.signalStrength peer) (.ok (.strength percent))) { t with caller := .idle }
  | hearNothing {t : Tasks} {peer : Address} (stands : t.caller = .listening peer)
    (silent : t.link.signal = none) :
    Step t (.returns (.signalStrength peer) (.error (.timeout "signal strength")))
      { t with caller := .idle }

namespace Tasks

/-- A link on a transport, before its first use. -/
def new (transport : Transport) : Tasks := { link := { transport } }

/-- A run from one state to another, with the event of each step and the state after it. -/
inductive Run : Tasks → List (Event × Tasks) → Tasks → Prop
  | nil {t : Tasks} : Run t [] t
  | cons {t next last : Tasks} {e : Event} {trace : List (Event × Tasks)} (step : Step t e next)
    (rest : Run next trace last) : Run t ((e, next) :: trace) last

/-- Some run of a new link leads here. -/
def Reached (t : Tasks) : Prop := ∃ transport trace, Run (.new transport) trace t

end Tasks

end SolarTelemetry.Link
