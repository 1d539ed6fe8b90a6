import SolarTelemetry.Reading.Info
import SolarTelemetry.Reading.Power
import SolarTelemetry.Reading.Query
import SolarTelemetry.Reading.Statistics
import SolarTelemetry.Reading.Status
import SolarTelemetry.Session.Basic

/-!
# Reading channels

One reply answers a channel query. It has to be about the object asked for and to come from the
device that was asked, without a fault.
-/

namespace SolarTelemetry.Session

variable {σ : Type} [Channel σ]

def queryOnce (device : Device) (object : UInt16) (first last : UInt32) (packetId : UInt16) :
    Action (Session σ) Reply := do
  send (.query device.target object first last) device.address packetId
  let (_, reply) ← receive packetId
  ofProtocol (reply.requireAnswer device.serial object)
  return reply

def queryChannel (serial : UInt32) (object : UInt16) (first last : UInt32) :
    Action (Session σ) Reply := do
  let device ← device serial
  exchange (queryOnce device object first last)

def queryRecords (serial : UInt32) (query : Query) : Action (Session σ) (List Record) := do
  let reply ← withRetries (queryChannel serial query.object query.first query.last)
  return Record.decode query.object reply.records

def readAc (serial : UInt32) : Action (Session σ) AcReadings := do
  return AcReadings.ofRecords (← queryRecords serial .ac)

def readDc (serial : UInt32) : Action (Session σ) DcReadings := do
  return DcReadings.ofRecords (← queryRecords serial .dc)

def readStatistics (serial : UInt32) : Action (Session σ) Statistics := do
  return Statistics.ofRecords (← queryRecords serial .statistics)

def readStatus (serial : UInt32) : Action (Session σ) Status := do
  return Status.ofRecords (← queryRecords serial .status)

def readInfo (serial : UInt32) : Action (Session σ) DeviceInfo := do
  return DeviceInfo.ofRecords (← queryRecords serial .deviceInfo)

theorem spends_queryOnce (device : Device) (object : UInt16) (first last : UInt32)
    (packetId : UInt16) :
    (queryOnce (σ := σ) device object first last packetId).Spends pending :=
  (keeps_send _ _ _).bind_spends fun _ => (spends_receive packetId).bind fun _ =>
    (keeps_ofProtocol _).bind fun _ => Action.keeps_pure _

theorem spends_queryChannel (serial : UInt32) (object : UInt16) (first last : UInt32) :
    (queryChannel (σ := σ) serial object first last).Spends pending :=
  (keeps_device serial).bind_spends fun _ => spends_exchange (spends_queryOnce _ object first last)

theorem spends_queryRecords (serial : UInt32) (query : Query) :
    (queryRecords (σ := σ) serial query).Spends pending :=
  (spends_withRetries (spends_queryChannel _ _ _ _)).bind fun _ => Action.keeps_pure _

theorem spends_readAc (serial : UInt32) : (readAc (σ := σ) serial).Spends pending :=
  (spends_queryRecords _ _).bind fun _ => Action.keeps_pure _

theorem spends_readDc (serial : UInt32) : (readDc (σ := σ) serial).Spends pending :=
  (spends_queryRecords _ _).bind fun _ => Action.keeps_pure _

theorem spends_readStatistics (serial : UInt32) : (readStatistics (σ := σ) serial).Spends pending :=
  (spends_queryRecords _ _).bind fun _ => Action.keeps_pure _

theorem spends_readStatus (serial : UInt32) : (readStatus (σ := σ) serial).Spends pending :=
  (spends_queryRecords _ _).bind fun _ => Action.keeps_pure _

end SolarTelemetry.Session
