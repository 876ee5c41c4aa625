import LocationStack.PbConv.EphReports
import LocationStack.PbConv.Antenna
import LocationStack.PbConv.Geofences
import LocationStack.PbConv.Reports
import LocationStack.PbConv.RequestParts
import LocationStack.PbConv.Xtra

/-! # Messages of any sizes

A peer chooses the sizes of the repeated fields of its message, and the numbers that the message
states, each on its own.  Where the smallest of the number, the size and the capacity bounds the
loop, every message is decoded within the bounds.  A decoder that looks at two of them, or at one,
needs the message to be right about the others (`PBMessage.Fits`).

The kinds of messages here are those with a repeated field or an array; the decoder of any other
kind indexes nothing.
-/
namespace LocationStack
namespace PbConv

variable {h : Header}

/-! ## Engine locations -/

structure EngineLocationsInfo (h : Header) where
  count : UInt32
  engineLocationsInfo : Vector (GnssLocationInfoNotification h) h.locOutputEngineCount
  deriving Inhabited

structure PBEngineLocationsInfo where
  engineLocationsInfo : List PBGnssLocationInfoNotification
  deriving Inhabited

/-- The locations that are decoded. -/
def PBEngineLocationsInfo.count (h : Header) (pb : PBEngineLocationsInfo) : Nat :=
  min (uint32Size pb.engineLocationsInfo.length) h.locOutputEngineCount

def pbConvertToEngineLocationsInfo (pb : PBEngineLocationsInfo) (info : EngineLocationsInfo h) :
    Logged (EngineLocationsInfo h) := do
  let count := pb.count h
  Logged.count count h.locOutputEngineCount
  let engineLocationsInfo ← Logged.fill count pb.engineLocationsInfo pbConvertToGnssLocInfoNotif
    info.engineLocationsInfo
  pure { count := UInt32.ofNat count, engineLocationsInfo }

/-- Each location that is decoded fits. -/
def PBEngineLocationsInfo.Fits (h : Header) (pb : PBEngineLocationsInfo) : Prop :=
  ∀ info ∈ pb.engineLocationsInfo.take (pb.count h), info.Fits h

theorem inBounds_pbConvertToEngineLocationsInfo (pb : PBEngineLocationsInfo)
    (info : EngineLocationsInfo h) :
    (pbConvertToEngineLocationsInfo pb info).InBounds ↔ pb.Fits h := by
  have hcap : pb.count h ≤ h.locOutputEngineCount := Nat.min_le_right _ _
  have hsize : pb.count h ≤ pb.engineLocationsInfo.length :=
    Nat.le_trans (Nat.min_le_left _ _) (uint32Size_le _)
  simp only [pbConvertToEngineLocationsInfo, Logged.inBounds_bind, Logged.inBounds_count,
    Logged.inBounds_fill inBounds_pbConvertToGnssLocInfoNotif, Logged.inBounds_pure, and_true]
  constructor
  · exact fun hbounds => hbounds.2.2.2
  · exact fun hfits => ⟨hcap, hsize, hcap, hfits⟩

/-! ## Reports -/

/-- What the sizes of a report have to be. -/
def PBReport.Fits (h : Header) : PBReport → Prop
  | .locationInfo pb => pb.Fits h
  | .measurements pb => pb.Fits h
  | .data pb => pb.Fits h
  | .location _ | .batch _ | .breach _ | .satellites _ | .nmea _ | .systemInfo _ | .dcReport _
  | .debug _ => True

theorem inBounds_decode_report (pb : PBReport) (dst : Destination h) :
    (pb.decode dst).InBounds ↔ pb.Fits h := by
  cases pb with
  | locationInfo pb =>
    exact (Logged.inBounds_bind_pure _ _).trans <|
      inBounds_pbConvertToGnssLocInfoNotif pb dst.locationInfo
  | measurements pb =>
    exact (Logged.inBounds_bind_pure _ _).trans <|
      inBounds_pbConvertToGnssMeasNotification pb dst.measurements
  | data pb =>
    exact (Logged.inBounds_bind_pure _ _).trans <|
      inBounds_pbConvertToGnssDataNotification pb dst.data
  | batch pb =>
    exact (Logged.inBounds_bind_pure _ _).trans <|
      iff_true_intro (inBounds_pbConvertToLocAPIBatchNotification pb dst.batch)
  | breach pb =>
    exact (Logged.inBounds_bind_pure _ _).trans <|
      iff_true_intro (inBounds_pbConvertToLocAPIGfBreachNotification pb dst.breach)
  | satellites pb =>
    exact (Logged.inBounds_bind_pure _ _).trans <|
      iff_true_intro (inBounds_pbConvertToGnssSvNotif pb dst.satellites)
  | dcReport pb =>
    exact (Logged.inBounds_bind_pure _ _).trans <|
      iff_true_intro (inBounds_pbConvertToDcReport pb dst.dcReport)
  | debug pb =>
    exact (Logged.inBounds_bind_pure _ _).trans <|
      iff_true_intro (inBounds_pbConvertToGnssDebugReport pb dst.debug)
  | location pb | nmea pb | systemInfo pb => exact iff_true_intro (Logged.inBounds_pure _)

/-! ## All kinds -/

inductive Message (h : Header)
  | report (r : Report h)
  | engineLocationsInfo (r : EngineLocationsInfo h)
  | ephemeris (r : GnssSvEphemerisReport h)
  | antennaInfo (r : AntennaInformation)
  | addGeofences (geofences : GeofencesAddedReqPayload)
  | modifyGeofences (geofences : GeofencesAddedReqPayload)
  | removeGeofences (gfClientIds : GeofencesReqClientIdPayload)
  | pauseGeofences (gfClientIds : GeofencesReqClientIdPayload)
  | resumeGeofences (gfClientIds : GeofencesReqClientIdPayload)
  | collectiveResp (collectiveRes : CollectiveResPayload)
  | xtraConfig (msg : LocConfigXtraReqMsg h)
  | pingTestReq (pingTest : PingTest)
  | pingTestInd (pingTest : PingTest)

inductive PBMessage
  | report (pb : PBReport)
  | engineLocationsInfo (pb : PBEngineLocationsInfo)
  | ephemeris (pb : PBGnssEphemerisNotification)
  | antennaInfo (pb : PBAntennaInformation)
  | addGeofences (pb : PBGeofencesAddedReqPayload)
  | modifyGeofences (pb : PBGeofencesAddedReqPayload)
  | removeGeofences (pb : PBGeofencesReqClientIdPayload)
  | pauseGeofences (pb : PBGeofencesReqClientIdPayload)
  | resumeGeofences (pb : PBGeofencesReqClientIdPayload)
  | collectiveResp (pb : PBCollectiveResPayload)
  | xtraConfig (pb : PBLocConfigXtraReqMsg)
  | pingTestReq (pb : PBPingTest)
  | pingTestInd (pb : PBPingTest)

/-- The structures of the messages that are decoded into, whatever they hold. -/
structure MessageDestination (h : Header) where
  report : Destination h
  engineLocationsInfo : EngineLocationsInfo h
  ephemeris : GnssSvEphemerisReport h
  antennaInfo : AntennaInformation
  geofences : GeofencesAddedReqPayload
  gfClientIds : GeofencesReqClientIdPayload
  collectiveRes : CollectiveResPayload
  pingTest : PingTest
  deriving Inhabited

def PBMessage.decode (dst : MessageDestination h) : PBMessage → Logged (Message h)
  | .report pb => do
    let r ← pb.decode dst.report
    pure (.report r)
  | .engineLocationsInfo pb => do
    let r ← pbConvertToEngineLocationsInfo pb dst.engineLocationsInfo
    pure (.engineLocationsInfo r)
  | .ephemeris pb => do
    let r ← pbConvertToGnssEphNotif pb dst.ephemeris
    pure (.ephemeris r)
  | .antennaInfo pb => do
    let r ← pbConvertToAntennaInfo pb dst.antennaInfo
    pure (.antennaInfo r)
  | .addGeofences pb => do
    let geofences ← pbConvertToGfAddReqPayload pb dst.geofences
    pure (.addGeofences geofences)
  | .modifyGeofences pb => do
    let geofences ← pbConvertToGfAddReqPayload pb dst.geofences
    pure (.modifyGeofences geofences)
  | .removeGeofences pb => do
    let gfClientIds ← pbConvertToGfReqClientIdPayload pb dst.gfClientIds
    pure (.removeGeofences gfClientIds)
  | .pauseGeofences pb => do
    let gfClientIds ← pbConvertToGfReqClientIdPayload pb dst.gfClientIds
    pure (.pauseGeofences gfClientIds)
  | .resumeGeofences pb => do
    let gfClientIds ← pbConvertToGfReqClientIdPayload pb dst.gfClientIds
    pure (.resumeGeofences gfClientIds)
  | .collectiveResp pb => do
    let collectiveRes ← pbConvertToCollectiveResPayload pb dst.collectiveRes
    pure (.collectiveResp collectiveRes)
  | .xtraConfig pb => do
    let msg ← pbConvertToLocConfigXtraReqMsg pb
    pure (.xtraConfig msg)
  | .pingTestReq pb => do
    let pingTest ← pbConvertToPingTest pb dst.pingTest
    pure (.pingTestReq pingTest)
  | .pingTestInd pb => do
    let pingTest ← pbConvertToPingTest pb dst.pingTest
    pure (.pingTestInd pingTest)

/-- What the sizes of a message have to be. -/
def PBMessage.Fits (h : Header) : PBMessage → Prop
  | .report pb => pb.Fits h
  | .engineLocationsInfo pb => pb.Fits h
  | .ephemeris pb => pb.Fits h
  | .antennaInfo pb => pb.Fits
  | .addGeofences pb | .modifyGeofences pb => uint32Size pb.gfPayload.length ≤ maxGeofenceEntry
  | .removeGeofences pb | .pauseGeofences pb | .resumeGeofences pb =>
    uint32Size pb.gfIds.length ≤ maxGeofenceEntry
  | .collectiveResp _ => True
  | .xtraConfig pb => pb.Fits h
  | .pingTestReq pb | .pingTestInd pb => pb.Fits

/-- **A message is decoded within the bounds** exactly if its sizes are what its decoder takes
for granted, whatever the structure held. -/
theorem inBounds_decode_iff (pb : PBMessage) (dst : MessageDestination h) :
    (pb.decode dst).InBounds ↔ pb.Fits h := by
  cases pb with
  | report pb =>
    exact (Logged.inBounds_bind_pure _ _).trans <|
      inBounds_decode_report pb dst.report
  | engineLocationsInfo pb =>
    exact (Logged.inBounds_bind_pure _ _).trans <|
      inBounds_pbConvertToEngineLocationsInfo pb dst.engineLocationsInfo
  | ephemeris pb =>
    exact (Logged.inBounds_bind_pure _ _).trans <|
      inBounds_pbConvertToGnssEphNotif pb dst.ephemeris
  | antennaInfo pb =>
    exact (Logged.inBounds_bind_pure _ _).trans <|
      inBounds_pbConvertToAntennaInfo pb dst.antennaInfo
  | addGeofences pb | modifyGeofences pb =>
    exact (Logged.inBounds_bind_pure _ _).trans <|
      Counted.inBounds_ofPB pb.gfPayload pbConvertToGeofencePayload dst.geofences
  | removeGeofences pb | pauseGeofences pb | resumeGeofences pb =>
    exact (Logged.inBounds_bind_pure _ _).trans <|
      Counted.inBounds_ofPB pb.gfIds id dst.gfClientIds
  | collectiveResp pb =>
    exact (Logged.inBounds_bind_pure _ _).trans <|
      iff_true_intro (inBounds_pbConvertToCollectiveResPayload pb dst.collectiveRes)
  | xtraConfig pb =>
    exact (Logged.inBounds_bind_pure _ _).trans <|
      inBounds_pbConvertToLocConfigXtraReqMsg pb
  | pingTestReq pb | pingTestInd pb =>
    exact (Logged.inBounds_bind_pure _ _).trans <|
      inBounds_pbConvertToPingTest pb dst.pingTest

/-- A detailed report without a velocity is read past its end, and one geofence more than there is
room for is written past the end of the array. -/
theorem decode_outOfBounds :
    ¬ ((PBMessage.report (.locationInfo default)).decode
        (default : MessageDestination Header.small)).InBounds ∧
      ¬ ((PBMessage.addGeofences ⟨List.replicate 21 default⟩).decode
        (default : MessageDestination Header.small)).InBounds := by
  constructor
  · intro hbounds
    have hreport := ((Logged.inBounds_bind _ _).mp hbounds).1
    have hinfo := ((Logged.inBounds_bind _ _).mp hreport).1
    have hfits := (inBounds_pbConvertToGnssLocInfoNotif _ _).mp hinfo
    exact absurd hfits.enuVelocityVRPBased (by decide)
  · intro hbounds
    have hgeofences := ((Logged.inBounds_bind _ _).mp hbounds).1
    have hfits := (Counted.inBounds_ofPB _ _ _).mp hgeofences
    exact absurd hfits (by decide)

end PbConv
end LocationStack
