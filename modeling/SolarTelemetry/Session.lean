import SolarTelemetry.Link
import SolarTelemetry.Session.Archives
import SolarTelemetry.Session.Discovery
import SolarTelemetry.Session.Logon
import SolarTelemetry.Session.Readings
import SolarTelemetry.Session.Clocks

/-!
# Sessions over a link

A session begins once its link is connected and ends by logging off and closing the link, whether or
not the logoff could be sent.
-/

namespace SolarTelemetry.Session

def link (s : Session Link) : Link := s.stream.channel

def onLink {α : Type} (act : Action Link α) : Action (Session Link) α :=
  onStream (FrameStream.onChannel act)

def ofLink (link : Link) (ownSerial : UInt32) (timeout : Nat) (wallClock : Int) : Session Link :=
  { stream := { channel := link }, ownSerial, timeout, wallClock }

/-- Connects a link over a transport and opens a session on it. -/
def connect (transport : Transport) (timeout : Nat) (wallClock : Int) :
    Outcome Link (Session Link) :=
  match Link.connect { transport } with
  | .ok () link => .ok (ofLink link (Calendar.ownSerial wallClock) timeout wallClock) link
  | .error e link => .error e link

/-- The signal strength of the device at the other end of the link, in percent. -/
def signalStrength : Action (Session Link) Nat := do
  onLink (Link.signalStrength (← get).link.info.peerAddress)

def logoffRequest : Request :=
  ({ target := .any, controlWord := .logoff } : Request).words [logoffCommand, 0xFFFFFFFF]

/-- The link as it is left by logging off and closing it. -/
def close (s : Session Link) : Link :=
  let logoff := transaction fun packetId => send logoffRequest .broadcast packetId
  (Outcome.state (logoff s)).link.close

theorem keeps_signalStrength : signalStrength.Keeps pending :=
  Action.keeps_get.bind fun _ => keeps_onStream (FrameStream.keeps_onChannel
    (Link.keeps_signalStrength _))

end SolarTelemetry.Session
