import LocationStack.PbConv.Common

/-! # Positions

A position is reported alone, in a batch or with the geofences whose border it crossed.  Its
flags say which of its fields are valid; the technologies, which are always valid, have one that
the message has no bit for.
-/
namespace LocationStack
namespace PbConv

/-! ## One position -/

inductive LocSessionStatus
  | success | intermediate | failure
  deriving Repr, DecidableEq, Inhabited

inductive PBLocationSessionStatus
  | success | intermediate | failure
  | unrecognized (value : BitVec 32)
  deriving Repr, DecidableEq, Inhabited

def getPBEnumForLocSessionStatus (status : LocSessionStatus) : PBLocationSessionStatus :=
  if status = .success then .success
  else if status = .intermediate then .intermediate
  else .failure

def getLocSessionStatusFromPB (pbStatus : PBLocationSessionStatus) : LocSessionStatus :=
  if pbStatus = .success then .success
  else if pbStatus = .intermediate then .intermediate
  else .failure

@[simp] theorem getLocSessionStatusFromPB_getPBEnumForLocSessionStatus (e : LocSessionStatus) :
    getLocSessionStatusFromPB (getPBEnumForLocSessionStatus e) = e := by
  cases e <;> rfl

inductive LocationFlag
  | latLong | altitude | speed | bearing | accuracy | verticalAccuracy | speedAccuracy
  | bearingAccuracy | elapsedRealTime | timeUnc | gptpTime | gptpTimeUnc | sessionStatus
  deriving Repr, DecidableEq

def locationFlags : FlagTable LocationFlag 32 where
  rows := [(.latLong, 1), (.altitude, 2), (.speed, 4), (.bearing, 8), (.accuracy, 0x10),
    (.verticalAccuracy, 0x20), (.speedAccuracy, 0x40), (.bearingAccuracy, 0x80),
    (.elapsedRealTime, 0x200), (.timeUnc, 0x400), (.gptpTime, 0x800), (.gptpTimeUnc, 0x1000),
    (.sessionStatus, 0x2000)]
  nonzero := by decide
  disjoint := by decide

def getPBMaskForLocationFlagsMask : Flags LocationFlag → BitVec 32 :=
  locationFlags.write

def getLocationFlagsMaskFromPB : BitVec 32 → Flags LocationFlag :=
  locationFlags.read

@[simp] theorem getLocationFlagsMaskFromPB_getPBMaskForLocationFlagsMask (m : Flags LocationFlag) :
    getLocationFlagsMaskFromPB (getPBMaskForLocationFlagsMask m) = m :=
  locationFlags.read_write (fun f => by cases f <;> decide) m

/-- The message has no bit for `hybridAle`. -/
inductive LocationTechnologyFlag
  | gnss | cell | wifi | sensors | referenceLocation | injectedCoarsePosition | aflt | hybrid
  | ppe | veh | vis | propagated | hybridAle
  deriving Repr, DecidableEq

def locationTechnologyFlags : FlagTable LocationTechnologyFlag 32 where
  rows := [(.gnss, 1), (.cell, 2), (.wifi, 4), (.sensors, 8), (.referenceLocation, 0x10),
    (.injectedCoarsePosition, 0x20), (.aflt, 0x40), (.hybrid, 0x80), (.ppe, 0x100), (.veh, 0x200),
    (.vis, 0x400), (.propagated, 0x800)]
  nonzero := by decide
  disjoint := by decide

def getPBMaskForLocationTechnologyMask : Flags LocationTechnologyFlag → BitVec 32 :=
  locationTechnologyFlags.write

def getLocationTechnologyMaskFromPB : BitVec 32 → Flags LocationTechnologyFlag :=
  locationTechnologyFlags.read

/-- Every technology but one survives. -/
@[simp] theorem getLocationTechnologyMaskFromPB_getPBMask_iff (m : Flags LocationTechnologyFlag) :
    getLocationTechnologyMaskFromPB (getPBMaskForLocationTechnologyMask m) = m ↔
      m .hybridAle = false :=
  locationTechnologyFlags.read_write_iff_of_lost (by decide)
    (fun f hf => by cases f <;> first | decide | exact absurd rfl hf) m

structure Location where
  flags : Flags LocationFlag
  timestamp : UInt64
  (latitude longitude altitude : Double)
  (speed bearing accuracy verticalAccuracy speedAccuracy bearingAccuracy : Single)
  techMask : Flags LocationTechnologyFlag
  (elapsedRealTime elapsedRealTimeUnc : UInt64)
  timeUncMs : Single
  (elapsedgPTPTime elapsedgPTPTimeUnc : UInt64)
  sessionStatus : LocSessionStatus
  deriving Inhabited

structure PBLocation where
  flags : BitVec 32
  timestamp : UInt64
  (latitude longitude altitude : Double)
  (speed bearing horizontalAccuracy verticalAccuracy speedAccuracy bearingAccuracy : Single)
  techMask : BitVec 32
  (elapsedRealTime elapsedRealTimeUnc : UInt64)
  timeUncMs : Single
  (elapsedgPTPTime elapsedgPTPTimeUnc : UInt64)
  sessionStatus : PBLocationSessionStatus
  deriving Inhabited

def convertLocationToPB (location : Location) : PBLocation where
  flags := getPBMaskForLocationFlagsMask location.flags
  timestamp := location.timestamp
  latitude := location.latitude
  longitude := location.longitude
  altitude := location.altitude
  speed := location.speed
  bearing := location.bearing
  horizontalAccuracy := location.accuracy
  verticalAccuracy := location.verticalAccuracy
  speedAccuracy := location.speedAccuracy
  bearingAccuracy := location.bearingAccuracy
  techMask := getPBMaskForLocationTechnologyMask location.techMask
  elapsedRealTime := location.elapsedRealTime
  elapsedRealTimeUnc := location.elapsedRealTimeUnc
  timeUncMs := location.timeUncMs
  elapsedgPTPTime := location.elapsedgPTPTime
  elapsedgPTPTimeUnc := location.elapsedgPTPTimeUnc
  sessionStatus := getPBEnumForLocSessionStatus location.sessionStatus

def pbConvertToLocation (pbLoc : PBLocation) : Location where
  flags := getLocationFlagsMaskFromPB pbLoc.flags
  timestamp := pbLoc.timestamp
  latitude := pbLoc.latitude
  longitude := pbLoc.longitude
  altitude := pbLoc.altitude
  speed := pbLoc.speed
  bearing := pbLoc.bearing
  accuracy := pbLoc.horizontalAccuracy
  verticalAccuracy := pbLoc.verticalAccuracy
  speedAccuracy := pbLoc.speedAccuracy
  bearingAccuracy := pbLoc.bearingAccuracy
  techMask := getLocationTechnologyMaskFromPB pbLoc.techMask
  elapsedRealTime := pbLoc.elapsedRealTime
  elapsedRealTimeUnc := pbLoc.elapsedRealTimeUnc
  timeUncMs := pbLoc.timeUncMs
  elapsedgPTPTime := pbLoc.elapsedgPTPTime
  elapsedgPTPTimeUnc := pbLoc.elapsedgPTPTimeUnc
  sessionStatus := getLocSessionStatusFromPB pbLoc.sessionStatus

/-- **A position survives** exactly if it does not come from the technology without a bit. -/
@[simp] theorem pbConvertToLocation_convertLocationToPB_iff (location : Location) :
    pbConvertToLocation (convertLocationToPB location) = location ↔
      location.techMask .hybridAle = false := by
  obtain ⟨⟩ := location
  simp only [pbConvertToLocation, convertLocationToPB, Location.mk.injEq,
    getLocationFlagsMaskFromPB_getPBMaskForLocationFlagsMask,
    getLocSessionStatusFromPB_getPBEnumForLocSessionStatus,
    getLocationTechnologyMaskFromPB_getPBMask_iff, true_and, and_true]

/-! ## Batches -/

inductive BatchingStatus
  | tripCompleted | positionAvailabe | positionUnavailable
  deriving Repr, DecidableEq, Inhabited

inductive PBBatchingStatus
  | tripCompleted | positionAvailabe | positionUnavailable
  | unrecognized (value : BitVec 32)
  deriving Repr, DecidableEq, Inhabited

def getPBEnumForBatchingStatus : BatchingStatus → PBBatchingStatus
  | .tripCompleted => .tripCompleted
  | .positionAvailabe => .positionAvailabe
  | .positionUnavailable => .positionUnavailable

def getEnumForPBBatchingStatus : PBBatchingStatus → BatchingStatus
  | .tripCompleted => .tripCompleted
  | .positionAvailabe => .positionAvailabe
  | .positionUnavailable => .positionUnavailable
  | .unrecognized _ => .positionUnavailable

@[simp] theorem getEnumForPBBatchingStatus_getPBEnumForBatchingStatus (e : BatchingStatus) :
    getEnumForPBBatchingStatus (getPBEnumForBatchingStatus e) = e := by
  cases e <;> rfl

structure LocAPIBatchNotification where
  status : BatchingStatus
  location : List Location
  deriving Inhabited

structure PBLocAPIBatchNotification where
  status : PBBatchingStatus
  location : List PBLocation
  deriving Inhabited

def convertLocAPIBatchingNotifMsgToPB (locApiBatchNotifMsg : LocAPIBatchNotification) :
    PBLocAPIBatchNotification where
  status := getPBEnumForBatchingStatus locApiBatchNotifMsg.status
  location :=
    (locApiBatchNotifMsg.location.take (intRounds locApiBatchNotifMsg.location.length)).map
      convertLocationToPB

/-- The positions are appended to those that the structure holds. -/
def pbConvertToLocAPIBatchNotification (pbLocBatchNotif : PBLocAPIBatchNotification)
    (locBatchNotif : LocAPIBatchNotification) : Logged LocAPIBatchNotification := do
  let count := uint32Size pbLocBatchNotif.location.length
  let location ← Logged.append count pbLocBatchNotif.location
    (fun pbLoc => pure (pbConvertToLocation pbLoc)) locBatchNotif.location
  pure { status := getEnumForPBBatchingStatus pbLocBatchNotif.status, location }

theorem inBounds_pbConvertToLocAPIBatchNotification (pb : PBLocAPIBatchNotification)
    (batch : LocAPIBatchNotification) : (pbConvertToLocAPIBatchNotification pb batch).InBounds := by
  have hconv : ∀ pbLoc : PBLocation, (pure (pbConvertToLocation pbLoc) : Logged Location).InBounds ↔
      True := fun _ => iff_true_intro (Logged.inBounds_pure _)
  rw [pbConvertToLocAPIBatchNotification, Logged.inBounds_bind, Logged.inBounds_append hconv]
  exact ⟨⟨uint32Size_le _, fun _ _ => trivial⟩, Logged.inBounds_pure _⟩

/-- A batch survives exactly if each of its positions does. -/
theorem pbConvertToLocAPIBatchNotification_iff {batch : LocAPIBatchNotification}
    (hlen : batch.location.length < 2 ^ 31) (old : LocAPIBatchNotification)
    (hold : old.location = []) :
    (pbConvertToLocAPIBatchNotification (convertLocAPIBatchingNotifMsgToPB batch) old).value =
        batch ↔ ∀ location ∈ batch.location, location.techMask .hybridAle = false := by
  obtain ⟨status, location⟩ := batch
  have hencode : convertLocAPIBatchingNotifMsgToPB ⟨status, location⟩ =
      ⟨getPBEnumForBatchingStatus status, location.map convertLocationToPB⟩ := by
    rw [convertLocAPIBatchingNotifMsgToPB, intRounds_of_lt hlen, List.take_length]
  have hcount : uint32Size (location.map convertLocationToPB).length = location.length := by
    rw [List.length_map, uint32Size_of_lt (Nat.lt_trans hlen (by decide))]
  rw [hencode, pbConvertToLocAPIBatchNotification]
  simp only [Logged.value_bind, Logged.value_pure, hcount, hold,
    LocAPIBatchNotification.mk.injEq, getEnumForPBBatchingStatus_getPBEnumForBatchingStatus,
    true_and, Logged.value_append_map_iff, pbConvertToLocation_convertLocationToPB_iff]

/-! ## Geofence breaches -/

structure LocAPIGeofenceBreachNotification where
  timestamp : UInt64
  type : Flags GeofenceBreachTypeFlag
  location : Location
  id : List UInt32
  deriving Inhabited

structure PBLocAPIGeofenceBreachNotification where
  timestamp : UInt64
  breachType : BitVec 32
  location : PBLocation
  id : List UInt32
  deriving Inhabited

def getGfBreachTypeMaskFromPB : BitVec 32 → Flags GeofenceBreachTypeFlag :=
  geofenceBreachTypes.read

/-- The type is copied as it is, with the numbers of the header. -/
def convertLocAPIGfBreachNotifToPB (h : Header)
    (locApiGfBreachNotif : LocAPIGeofenceBreachNotification) :
    PBLocAPIGeofenceBreachNotification where
  timestamp := locApiGfBreachNotif.timestamp
  breachType := h.geofenceBreachTypes.write locApiGfBreachNotif.type
  location := convertLocationToPB locApiGfBreachNotif.location
  id := locApiGfBreachNotif.id.take (intRounds locApiGfBreachNotif.id.length)

/-- The ids are appended to those that the structure holds. -/
def pbConvertToLocAPIGfBreachNotification (pb : PBLocAPIGeofenceBreachNotification)
    (locApiGfBreachNotif : LocAPIGeofenceBreachNotification) :
    Logged LocAPIGeofenceBreachNotification := do
  let gfBreachCnt := uint32Size pb.id.length
  let id ← Logged.append gfBreachCnt pb.id pure locApiGfBreachNotif.id
  pure
    { timestamp := pb.timestamp
      type := getGfBreachTypeMaskFromPB pb.breachType
      location := pbConvertToLocation pb.location
      id }

theorem inBounds_pbConvertToLocAPIGfBreachNotification (pb : PBLocAPIGeofenceBreachNotification)
    (breach : LocAPIGeofenceBreachNotification) :
    (pbConvertToLocAPIGfBreachNotification pb breach).InBounds := by
  have hconv : ∀ id : UInt32, (pure id : Logged UInt32).InBounds ↔ True :=
    fun id => iff_true_intro (Logged.inBounds_pure id)
  rw [pbConvertToLocAPIGfBreachNotification, Logged.inBounds_bind, Logged.inBounds_append hconv]
  exact ⟨⟨uint32Size_le _, fun _ _ => trivial⟩, Logged.inBounds_pure _⟩

/-- A breach survives exactly if its position does. -/
theorem pbConvertToLocAPIGfBreachNotification_iff {h : Header} (hnum : h.SameNumbers)
    {breach : LocAPIGeofenceBreachNotification} (hlen : breach.id.length < 2 ^ 31)
    (old : LocAPIGeofenceBreachNotification) (hold : old.id = []) :
    (pbConvertToLocAPIGfBreachNotification (convertLocAPIGfBreachNotifToPB h breach) old).value =
        breach ↔ breach.location.techMask .hybridAle = false := by
  obtain ⟨timestamp, type, location, id⟩ := breach
  have htype : getGfBreachTypeMaskFromPB (h.geofenceBreachTypes.write type) = type := by
    rw [hnum.geofenceBreachTypes]
    exact geofenceBreachTypes.read_write (fun f => by cases f <;> decide) type
  have hids : (Logged.append (uint32Size id.length) id pure ([] : List UInt32)).value = id := by
    rw [uint32Size_of_lt (Nat.lt_trans hlen (by decide)), Logged.value_append (Nat.le_refl _),
      List.take_length]
    exact List.map_id id
  have hencode : (convertLocAPIGfBreachNotifToPB h ⟨timestamp, type, location, id⟩).id = id := by
    rw [convertLocAPIGfBreachNotifToPB, intRounds_of_lt hlen, List.take_length]
  simp only [pbConvertToLocAPIGfBreachNotification, hencode, Logged.value_bind, Logged.value_pure,
    hold, hids, LocAPIGeofenceBreachNotification.mk.injEq]
  simp only [convertLocAPIGfBreachNotifToPB, htype, pbConvertToLocation_convertLocationToPB_iff,
    true_and, and_true]

end PbConv
end LocationStack
