import SolarTelemetry.Message.Password
import SolarTelemetry.Session.Basic

/-!
# Logging on

A broadcast carries the password, and every known device has to answer before the attempt is over.
The first answer of each counts: a device accepts by a status of zero and by repeating the password.
A device that is alone is sent an acknowledgement. The attempt fails if no device accepted.
-/

namespace SolarTelemetry.Session

variable {σ : Type} [Channel σ]

def logonCommand : UInt32 := 0xFFFD040C

def logonAcknowledgement : UInt32 := 0xFFFD040D

def logoffCommand : UInt32 := 0xFFFD010E

/-- How long a logon is good for, in seconds. -/
def logonValidity : UInt32 := 900

def logonRequest (target : Target) (command : UInt32) (who : UserGroup) (now : UInt32)
    (password : Bytes) : Request :=
  (({ target, controlWord := .logon } : Request).words
    [command, who.code, logonValidity, now, 0]).octets password

/-- Where an answer repeats the password. -/
def echoOffset : Nat := 20

def accepts (reply : Reply) (password : Bytes) : Bool :=
  reply.header.status == 0 && (reply.body.drop echoOffset).take Password.length == password

def markAuthenticated (serial : UInt32) (devices : List Device) : List Device :=
  devices.map fun d => if d.serial = serial then { d with authenticated := true } else d

def forgetLogons (devices : List Device) : List Device :=
  devices.map fun d => { d with authenticated := false }

/-- Waits for the first answer of every device. -/
def collectLogons (password : Bytes) (packetId : UInt16) (answered : List UInt32) (s : Session σ) :
    Outcome (Session σ) Unit :=
  if s.devices.length ≤ answered.length then .ok () s
  else
    match _received : receive packetId s with
    | .error e s => .error e s
    | .ok (_, reply) s =>
      let serial := reply.source.serial
      if answered.contains serial || !s.devices.any (·.serial == serial) then
        collectLogons password packetId answered s
      else
        let devices :=
          if accepts reply password then markAuthenticated serial s.devices else s.devices
        collectLogons password packetId (answered ++ [serial]) { s with devices }
termination_by s.pending
decreasing_by
  · exact (spends_receive packetId).lt _received
  · have less := (spends_receive packetId).lt _received
    exact less

def acknowledgeLogon (who : UserGroup) (now : UInt32) (password : Bytes) (packetId : UInt16) :
    Action (Session σ) Unit := do
  match (← get).devices with
  | [device] =>
    let request := logonRequest device.target logonAcknowledgement who now password
    send { request with control := .unsolicited } device.address packetId
  | _ => pure ()

def logOnOnce (who : UserGroup) (password : Bytes) (packetId : UInt16) :
    Action (Session σ) Unit := do
  let now := Calendar.unixSeconds (← get).wallClock
  send (logonRequest .any logonCommand who now password) .broadcast packetId
  modify fun s => { s with devices := forgetLogons s.devices }
  collectLogons password packetId []
  acknowledgeLogon who now password packetId
  unless (← get).devices.any (·.authenticated) do
    throw (.authenticationFailed .rejectedByAll)

def asLogonError : Error → Error
  | .authenticationFailed e => .authenticationFailed e
  | e => .authenticationFailed (.reported e.message)

def logOn (password : String) (who : UserGroup) : Action (Session σ) Unit := do
  if (← get).devices.isEmpty then throw (.authenticationFailed .noDevices)
  let encoded ← .ofExcept ((Password.encode who password).mapError .authenticationFailed)
  (withRetries (exchange (logOnOnce who encoded))).mapError asLogonError

end SolarTelemetry.Session
