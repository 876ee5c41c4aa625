import LocationStack.PbConv.LocationInfo
import LocationStack.PbConv.Measurements
import LocationStack.PbConv.Notices

/-! # Reports

A report is encoded by the daemon and decoded by the client, into the structure of a message that
was just constructed: its vectors are empty, its other fields hold what the memory held.  A report
survives if it comes back the same in every field that is valid.

Three things get lost.  The statuses of the gain control of the signal data are encoded and never
decoded.  The time of a debug report is decoded into a copy.  And the masks and the engines have
members that the message lacks: one technology, one engine, two flags and three states of a
measurement.
-/
namespace LocationStack
namespace PbConv

inductive Report (h : Header)
  | location (r : Location)
  | locationInfo (r : GnssLocationInfoNotification h)
  | batch (r : LocAPIBatchNotification)
  | breach (r : LocAPIGeofenceBreachNotification)
  | satellites (r : GnssSvNotification h)
  | measurements (r : GnssMeasurementsNotification h)
  | data (r : GnssDataNotification h)
  | nmea (r : LocAPINmeaSerializedPayload)
  | systemInfo (r : LocationSystemInfo)
  | dcReport (r : GnssDcReportInfo)
  | debug (r : GnssDebugReport)

inductive PBReport
  | location (pb : PBLocation)
  | locationInfo (pb : PBGnssLocationInfoNotification)
  | batch (pb : PBLocAPIBatchNotification)
  | breach (pb : PBLocAPIGeofenceBreachNotification)
  | satellites (pb : PBLocApiGnssSvNotification)
  | measurements (pb : PBGnssMeasurementsNotification)
  | data (pb : PBGnssDataNotification)
  | nmea (pb : PBLocAPINmeaSerializedPayload)
  | systemInfo (pb : PBLocationSystemInfo)
  | dcReport (pb : PBGnssDcReportInfo)
  | debug (pb : PBGnssDebugReport)

/-- The structures of the messages that are decoded into. -/
structure Destination (h : Header) where
  locationInfo : GnssLocationInfoNotification h
  batch : LocAPIBatchNotification
  breach : LocAPIGeofenceBreachNotification
  satellites : GnssSvNotification h
  measurements : GnssMeasurementsNotification h
  data : GnssDataNotification h
  dcReport : GnssDcReportInfo
  debug : GnssDebugReport
  deriving Inhabited

/-- The vectors were constructed; nothing is said of the other fields. -/
structure Destination.Constructed {h : Header} (dst : Destination h) : Prop where
  batch : dst.batch.location = []
  breach : dst.breach.id = []
  dcReport : dst.dcReport.dcReportData = []
  debug : dst.debug.mSatelliteInfo = []

variable {h : Header}

def Report.encode : Report h → PBReport
  | .location r => .location (convertLocationToPB r)
  | .locationInfo r => .locationInfo (convertGnssLocInfoNotifToPB r)
  | .batch r => .batch (convertLocAPIBatchingNotifMsgToPB r)
  | .breach r => .breach (convertLocAPIGfBreachNotifToPB h r)
  | .satellites r => .satellites (convertGnssSvNotifToPB r)
  | .measurements r => .measurements (convertGnssMeasNotifToPB r)
  | .data r => .data (convertGnssDataNotifToPB r)
  | .nmea r => .nmea (convertLocAPINmeaSerializedPayloadToPB r)
  | .systemInfo r => .systemInfo (convertLocSysInfoToPB r)
  | .dcReport r => .dcReport (convertGnssDcReportToPB r)
  | .debug r => .debug (convertGnssDebugReportToPB r)

def PBReport.decode (dst : Destination h) : PBReport → Logged (Report h)
  | .location pb => pure (.location (pbConvertToLocation pb))
  | .locationInfo pb => do
    let r ← pbConvertToGnssLocInfoNotif pb dst.locationInfo
    pure (.locationInfo r)
  | .batch pb => do
    let r ← pbConvertToLocAPIBatchNotification pb dst.batch
    pure (.batch r)
  | .breach pb => do
    let r ← pbConvertToLocAPIGfBreachNotification pb dst.breach
    pure (.breach r)
  | .satellites pb => do
    let r ← pbConvertToGnssSvNotif pb dst.satellites
    pure (.satellites r)
  | .measurements pb => do
    let r ← pbConvertToGnssMeasNotification pb dst.measurements
    pure (.measurements r)
  | .data pb => do
    let r ← pbConvertToGnssDataNotification pb dst.data
    pure (.data r)
  | .nmea pb => pure (.nmea (pbConvertToLocAPINmeaSerializedPayload pb))
  | .systemInfo pb => pure (.systemInfo (pbConvertToLocationSystemInfo pb))
  | .dcReport pb => do
    let r ← pbConvertToDcReport pb dst.dcReport
    pure (.dcReport r)
  | .debug pb => do
    let r ← pbConvertToGnssDebugReport pb dst.debug
    pure (.debug r)

/-- The arrays are within their capacities; that of a repeated field is the largest `int`. -/
def Report.WithinCapacity : Report h → Prop
  | .location _ | .data _ | .nmea _ | .systemInfo _ => True
  | .locationInfo r => r.WithinCapacity
  | .batch r => r.location.length < 2 ^ 31
  | .breach r => r.id.length < 2 ^ 31
  | .satellites r => r.count.toNat ≤ h.gnssSvMax
  | .measurements r => r.WithinCapacity
  | .dcReport r => r.dcReportData.length < 2 ^ 31
  | .debug r => r.mSatelliteInfo.length < 2 ^ 31

/-- The same report, in every field that is valid. -/
def Report.Same : Report h → Report h → Prop
  | .location r, .location r' => r' = r
  | .locationInfo r, .locationInfo r' => r.Same r'
  | .batch r, .batch r' => r' = r
  | .breach r, .breach r' => r' = r
  | .satellites r, .satellites r' => r.Same r'
  | .measurements r, .measurements r' => r.Same r'
  | .data r, .data r' => r' = r
  | .nmea r, .nmea r' => r' = r
  | .systemInfo r, .systemInfo r' => r' = r
  | .dcReport r, .dcReport r' => r' = r
  | .debug r, .debug r' => r' = r
  | _, _ => False

/-- What a report needs: the message has its technologies, its engines, its flags and its states;
for signal data and debug reports, the structure already holds what is not decoded. -/
def Report.Carried (dst : Destination h) : Report h → Prop
  | .location r => r.techMask .hybridAle = false
  | .locationInfo r => r.Expressible
  | .batch r => ∀ location ∈ r.location, location.techMask .hybridAle = false
  | .breach r => r.location.techMask .hybridAle = false
  | .satellites _ | .systemInfo _ | .dcReport _ => True
  | .measurements r => ∀ i (hi : i < h.gnssMeasurementsMax), i < r.count.toNat →
      r.measurements[i].Expressible
  | .data r => r.SameAgcStatus dst.data
  | .nmea r => r.locOutputEngType ≠ .vpe
  | .debug r => r.mLocation.mLocation.techMask .hybridAle = false ∧ dst.debug.mTime = r.mTime

/-- A structure that was constructed, over memory that was zero. -/
theorem default_constructed : (default : Destination Header.small).Constructed :=
  ⟨rfl, rfl, rfl, rfl⟩

end PbConv
end LocationStack
