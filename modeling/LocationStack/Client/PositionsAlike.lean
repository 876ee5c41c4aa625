import LocationStack.Client.PositionReports

/-! # Position reports that reach the application

The application is told what a position report says if the same fields are marked in its report,
and each of them has its value.  What is not marked does not count, but for the lists.

Between the report of the daemon and that of the application are a message and two conversions; in
both some flags and enumerations are written by name, others by number.  What is lost on the whole
way is a technology and an engine that the message has no bits for, and a week of more than 16
bits.
-/
namespace LocationStack
namespace Client

open Fidl (Carried carried_given)

/-! ## Numbers that agree -/

def sessionStatusName : PbConv.LocSessionStatus → Fidl.SessionStatus
  | .success => .success
  | .intermediate => .intermediate
  | .failure => .failure

def engineName : PbConv.LocOutputEngineType → Fidl.OutputEngine
  | .fused => .fused
  | .spe => .spe
  | .ppe => .ppe
  | .vpe => .vpe

def svSystemName : PbConv.GnssLocSvSystemEnumType → Option Fidl.SvSystem
  | .unknown => none
  | .gps => some .gps
  | .galileo => some .galileo
  | .sbas => some .sbas
  | .glonass => some .glonass
  | .bds => some .bds
  | .qzss => some .qzss
  | .navic => some .navic

def engineMarks (mask : Flags PbConv.PositioningEngineFlag) : Flags Fidl.EngineFlag
  | .standardPositioning => mask .standardPositioning
  | .deadReckoning => mask .deadReckoning
  | .precisePositioning => mask .precisePositioning
  | .vpPositioning => mask .vpPositioning

def drSolutionMarks (mask : Flags PbConv.DrSolutionStatusFlag) : Flags Fidl.DrSolutionFlag
  | .vehicleSensorSpeedInputDetected => mask .vehicleSensorSpeedInputDetected
  | .vehicleSensorSpeedInputUsed => mask .vehicleSensorSpeedInputUsed
  | .warningUncalibrated => mask .dreWarningUncalibrated
  | .warningGnssQualityInsufficient => mask .dreWarningGnssQualityInsufficient
  | .warningFerryDetected => mask .dreWarningFerryDetected
  | .error6dofSensorUnavailable => mask .dreError6dofSensorUnavailable
  | .errorVehicleSpeedUnavailable => mask .dreErrorVehicleSpeedUnavailable
  | .errorGnssEphUnavailable => mask .dreErrorGnssEphUnavailable
  | .errorGnssMeasUnavailable => mask .dreErrorGnssMeasUnavailable
  | .warningInitPositionInvalid => mask .dreWarningInitPositionInvalid
  | .warningInitPositionUnreliable => mask .dreWarningInitPositionUnreliable
  | .warningPositonUnreliable => mask .dreWarningPositonUnreliable
  | .errorGeneric => mask .dreErrorGeneric
  | .warningSensorTempOutOfRange => mask .dreWarningSensorTempOutOfRange
  | .warningUserDynamicsInsufficient => mask .dreWarningUserDynamicsInsufficient
  | .warningFactoryDataInconsistent => mask .dreWarningFactoryDataInconsistent
  | .warningMmfUnavailable => mask .dreWarningMmfUnavailable
  | .warningMmfNotUsable => mask .dreWarningMmfNotUsable

def calibrationMarks (mask : Flags PbConv.DrCalibrationStatusFlag) : Flags Fidl.CalibrationFlag
  | .rollNeeded => mask .rollCalibrationNeeded
  | .pitchNeeded => mask .pitchCalibrationNeeded
  | .yawNeeded => mask .yawCalibrationNeeded
  | .odoNeeded => mask .odoCalibrationNeeded
  | .gyroNeeded => mask .gyroCalibrationNeeded
  | .turnLow => mask .turnCalibrationLow
  | .turnMedium => mask .turnCalibrationMedium
  | .turnHigh => mask .turnCalibrationHigh
  | .linearAccelLow => mask .linearAccelCalibrationLow
  | .linearAccelMedium => mask .linearAccelCalibrationMedium
  | .linearAccelHigh => mask .linearAccelCalibrationHigh
  | .linearMotionLow => mask .linearMotionCalibrationLow
  | .linearMotionMedium => mask .linearMotionCalibrationMedium
  | .linearMotionHigh => mask .linearMotionCalibrationHigh
  | .staticLow => mask .staticCalibrationLow
  | .staticMedium => mask .staticCalibrationMedium
  | .staticHigh => mask .staticCalibrationHigh

theorem engineFlags_length : Fidl.engineFlags.length ≤ 32 := by decide

def engineTable : FlagTable Fidl.EngineFlag 32 := .inOrder Fidl.engineFlags engineFlags_length

theorem calibrationFlags_length : Fidl.calibrationFlags.length ≤ 32 := by decide

def calibrationTable : FlagTable Fidl.CalibrationFlag 32 :=
  .inOrder Fidl.calibrationFlags calibrationFlags_length

/-- The two headers give the same numbers to the same names. -/
structure CastNumbers.SameNumbers (n : CastNumbers) : Prop where
  sessionStatus : n.sessionStatus = sessionStatusName
  locOutputEngType : n.locOutputEngType = engineName
  svSystem : n.svSystem = svSystemName
  locOutputEngMask : ∀ mask, n.locOutputEngMask.write mask = engineTable.write (engineMarks mask)
  drSolutionStatusMask :
    ∀ mask, n.drSolutionStatusMask.write mask = Fidl.drSolutionFlags.write (drSolutionMarks mask)
  beidouB1 : n.beidouB1 = 0x200
  beidouB2 : n.beidouB2 = 0x400

theorem write_drCalibrationStatuses (mask : Flags PbConv.DrCalibrationStatusFlag) :
    PbConv.drCalibrationStatuses.write mask = calibrationTable.write (calibrationMarks mask) := rfl

theorem signalRows_of_sameNumbers {n : CastNumbers} (hnum : n.SameNumbers) :
    signalRows n = Fidl.signalTypeFlags.rows := by
  unfold signalRows
  rw [hnum.beidouB1, hnum.beidouB2]
  decide

/-! ## Reports that say the same -/

/-- The technologies that an application is told of. -/
def technologyTold (techMask : BitVec 32) : Flags PbConv.LocationTechnologyFlag
  | .gnss => technologyTable.read techMask .gnss
  | .cell => technologyTable.read techMask .cell
  | .wifi => technologyTable.read techMask .wifi
  | .sensors => technologyTable.read techMask .sensors
  | .referenceLocation => technologyTable.read techMask .referenceLocation
  | .injectedCoarsePosition => technologyTable.read techMask .injectedCoarsePosition
  | .aflt => technologyTable.read techMask .aflt
  | .hybrid => technologyTable.read techMask .hybrid
  | .ppe => technologyTable.read techMask .ppe
  | .veh => technologyTable.read techMask .veh
  | .vis => technologyTable.read techMask .vis
  | .propagated => technologyTable.read techMask .propagated
  | .hybridAle => false

structure LocationAlike (l : PbConv.Location) (s : Fidl.GnssLocation) : Prop where
  flags : ∀ f, s.has f = locationMarks l f
  timestamp : Carried (locationMarks l .timestamp) l.timestamp s.timestamp
  latLong : Carried (l.flags .latLong) (l.latitude, l.longitude) (s.latitude, s.longitude)
  altitude : Carried (l.flags .altitude) l.altitude s.altitude
  speed : Carried (l.flags .speed) l.speed s.speed
  bearing : Carried (l.flags .bearing) l.bearing s.bearing
  accuracy : Carried (l.flags .accuracy) l.accuracy s.horizontalAccuracy
  verticalAccuracy : Carried (l.flags .verticalAccuracy) l.verticalAccuracy s.verticalAccuracy
  speedAccuracy : Carried (l.flags .speedAccuracy) l.speedAccuracy s.speedAccuracy
  bearingAccuracy : Carried (l.flags .bearingAccuracy) l.bearingAccuracy s.bearingAccuracy
  elapsedRealTime : Carried (l.flags .elapsedRealTime) (l.elapsedRealTime, l.elapsedRealTimeUnc)
    (s.elapsedRealTimeNs, s.elapsedRealTimeUncNs)
  timeUnc : Carried (l.flags .timeUnc) l.timeUncMs s.timeUncMs
  gptpTime : Carried (l.flags .gptpTime) l.elapsedgPTPTime s.elapsedgPTPTime
  gptpTimeUnc : Carried (l.flags .gptpTimeUnc) l.elapsedgPTPTimeUnc s.elapsedgPTPTimeUnc
  sessionStatus :
    Carried (l.flags .sessionStatus) (sessionStatusName l.sessionStatus) s.sessionStatus
  techMask : l.techMask = technologyTold s.techMask

/-- The fields that are copied, with the marks of the report that has them. -/
structure FieldsAlike (marks : Flags Fidl.InfoFlag) (l : PbConv.GnssLocationInfoFields)
    (s : Fidl.GnssLocation) : Prop where
  altitudeMeanSeaLevel :
    Carried (marks .altitudeMeanSeaLevel) l.altitudeMeanSeaLevel s.altitudeMeanSeaLevel
  dop : Carried (marks .dop) (l.pdop, l.hdop, l.vdop) (s.pdop, s.hdop, s.vdop)
  extDop : Carried (marks .extDop) (l.gdop, l.tdop) (s.gdop, s.tdop)
  magneticDeviation : Carried (marks .magneticDeviation) l.magneticDeviation s.magneticDeviation
  horReliability :
    Carried (marks .horReliability) (parseLocationReliability l.horReliability) s.horReliability
  verReliability :
    Carried (marks .verReliability) (parseLocationReliability l.verReliability) s.verReliability
  semiMajor :
    Carried (marks .horAccuracyElipSemiMajor) l.horUncEllipseSemiMajor s.horUncEllipseSemiMajor
  semiMinor :
    Carried (marks .horAccuracyElipSemiMinor) l.horUncEllipseSemiMinor s.horUncEllipseSemiMinor
  azimuth : Carried (marks .horAccuracyElipAzimuth) l.horUncEllipseOrientAzimuth
    s.horUncEllipseOrientAzimuth
  northStdDev : Carried (marks .northStdDev) l.northStdDeviation s.northStdDeviation
  eastStdDev : Carried (marks .eastStdDev) l.eastStdDeviation s.eastStdDeviation
  northVel : Carried (marks .northVel) l.northVelocity s.northVelocity
  eastVel : Carried (marks .eastVel) l.eastVelocity s.eastVelocity
  upVel : Carried (marks .upVel) l.upVelocity s.upVelocity
  northVelUnc :
    Carried (marks .northVelUnc) l.northVelocityStdDeviation s.northVelocityStdDeviation
  eastVelUnc : Carried (marks .eastVelUnc) l.eastVelocityStdDeviation s.eastVelocityStdDeviation
  upVelUnc : Carried (marks .upVelUnc) l.upVelocityStdDeviation s.upVelocityStdDeviation
  numSvUsedInPosition :
    Carried (marks .numSvUsedInPosition) l.numSvUsedInPosition s.numSvUsedInPosition
  svUsedInPosition : Carried (marks .gnssSvUsedData)
    (parseLocationSvUsedInPosition l.svUsedInPosition) s.svUsedInPosition
  navSolutionMask : marks .navSolutionMask = true →
    ∀ f, navSolutionTable.read s.navSolutionMask f = navSolutionMarks l.navSolutionMask f
  leapSeconds : Carried (marks .leapSeconds) l.leapSeconds s.leapSeconds
  calibrationConfidence : Carried (marks .calibrationConfidencePercent) l.calibrationConfidence
    s.calibrationConfidencePercent
  conformityIndex : Carried (marks .conformityIndex) l.conformityIndex s.conformityIndex
  llaVrpBased : Carried (marks .llaVrpBased)
    (l.llaVRPBased.latitude, l.llaVRPBased.longitude, l.llaVRPBased.altitude)
    (s.llaVRPBased.latitude, s.llaVRPBased.longitude, s.llaVRPBased.altitude)
  drSolutionStatusMask : marks .drSolutionStatusMask = true →
    ∀ f, Fidl.drSolutionFlags.read s.drSolutionStatusMask f =
      drSolutionMarks l.drSolutionStatusMask f
  altitudeAssumed : Carried (marks .altitudeAssumed) l.altitudeAssumed s.altitudeAssumed
  integrityRiskUsed : Carried (marks .integrityRiskUsed) l.integrityRiskUsed s.integrityRiskUsed
  protectAlongTrack : Carried (marks .protectAlongTrack) l.protectAlongTrack s.protectAlongTrack
  protectCrossTrack : Carried (marks .protectCrossTrack) l.protectCrossTrack s.protectCrossTrack
  protectVertical : Carried (marks .protectVertical) l.protectVertical s.protectVertical
  baseLineLength : Carried (marks .baseLineLength) l.baseLineLength s.baseLineLength
  ageOfCorrection : Carried (marks .ageOfCorrection) l.ageMsecOfCorrections s.ageMsecOfCorrections
  leapSecondsUnc : Carried (marks .leapSecondsUnc) l.leapSecondsUnc s.leapSecondsUnc
  reportInterval : Carried (marks .reportInterval) l.posReportingInterval s.posReportingInterval

structure DynamicsAlike (dyn : PbConv.GnssLocationPositionDynamics)
    (dynExt : PbConv.GnssLocationPositionDynamicsExt) (s : Fidl.PositionDynamics) : Prop where
  mask : ∀ f, Fidl.posDataTable.read s.bodyFrameDataMask f = posDataMarks dyn dynExt f
  field : ∀ f, Carried (posDataMarks dyn dynExt f) (posDataField dyn dynExt f) (s.field f)

structure GnssTimeAlike (t : PbConv.GnssSystemTimeStructType) (s : Fidl.GnssSystemTimeStruct) :
    Prop where
  mask : ∀ f, s.has f = gnssTimeMarks t.validityMask f
  systemWeek : Carried (t.validityMask .weekValid) t.systemWeek.toNat s.systemWeek.toNat
  systemMsec : Carried (t.validityMask .weekMsValid) t.systemMsec s.systemMsec
  systemClkTimeBias :
    Carried (t.validityMask .clkTimeBiasValid) t.systemClkTimeBias s.systemClkTimeBias
  systemClkTimeUncMs :
    Carried (t.validityMask .clkTimeBiasUncValid) t.systemClkTimeUncMs s.systemClkTimeUncMs
  refFCount : Carried (t.validityMask .refFcountValid) t.refFCount s.refFCount
  numClockResets : Carried (t.validityMask .numClockResetsValid) t.numClockResets s.numClockResets

structure GloTimeAlike (t : PbConv.GnssGloTimeStructType) (s : Fidl.GnssGloTimeStruct) :
    Prop where
  mask : ∀ f, s.has f = gloTimeMarks t.validityMask f
  gloDays : Carried (t.validityMask .cloDaysValid) t.gloDays s.gloDays
  gloMsec : Carried (t.validityMask .gloMsecValid) t.gloMsec s.gloMsec
  gloClkTimeBias : Carried (t.validityMask .gloClkTimeBiasValid) t.gloClkTimeBias s.gloClkTimeBias
  gloClkTimeUncMs :
    Carried (t.validityMask .gloClkTimeBiasUncValid) t.gloClkTimeUncMs s.gloClkTimeUncMs
  refFCount : Carried (t.validityMask .gloRefFcountValid) t.refFCount s.refFCount
  numClockResets :
    Carried (t.validityMask .gloNumClockResetsValid) t.numClockResets s.numClockResets
  gloFourYear : Carried (t.validityMask .gloFourYearValid) t.gloFourYear s.gloFourYear

/-- A time of the constellation, if that has a name. -/
def TimeAlike (t : PbConv.GnssSystemTime) (s : Option Fidl.GnssSystemTime) : Prop :=
  match t.gnssSystemTimeSrc with
  | .gps => ∃ time, s = some (.gps time) ∧ GnssTimeAlike t.u.gpsSystemTime time
  | .galileo => ∃ time, s = some (.galileo time) ∧ GnssTimeAlike t.u.galSystemTime time
  | .sbas => s = some .sbas
  | .glonass => ∃ time, s = some (.glonass time) ∧ GloTimeAlike t.u.gloSystemTime time
  | .bds => ∃ time, s = some (.bds time) ∧ GnssTimeAlike t.u.bdsSystemTime time
  | .qzss => ∃ time, s = some (.qzss time) ∧ GnssTimeAlike t.u.qzssSystemTime time
  | .navic => ∃ time, s = some (.navic time) ∧ GnssTimeAlike t.u.navicSystemTime time
  | .unknown => s = none

structure UsageAlike (u : PbConv.GnssMeasUsageInfo) (v : Fidl.GnssMeasUsageInfo × Bool) :
    Prop where
  named : v.2 = (svSystemName u.gnssConstellation).isSome
  gnssConstellation :
    Carried v.2 (svSystemName u.gnssConstellation) (some v.1.gnssConstellation)
  gnssSvId : v.1.gnssSvId = u.gnssSvId
  gnssSignalType :
    ∀ f, Fidl.signalTypeFlags.read v.1.gnssSignalType f = signalMarks u.gnssSignalType f

/-- The elements of an array that are in use. -/
def inUse {α : Type} {capacity : Nat} (n : Nat) (data : Vector α capacity) : List α :=
  data.toList.take n

variable {h : PbConv.Header}

/-- **The application is told what the report says**: the same fields are marked, and each of them
has its value; the lists have the same elements.  The type of the engine, and what else is marked,
are only compared where they are. -/
structure Alike (r : PbConv.GnssLocationInfoNotification h) (c : ClientReport) : Prop where
  location : LocationAlike r.location c.location
  infoFlags : ∀ f, c.location.hasInfo f = infoMarks r f
  fields : FieldsAlike (infoMarks r) r.toGnssLocationInfoFields c.location
  posTechMask : r.location.techMask = technologyTold c.location.posTechMask
  bodyFrameData : infoMarks r .posDynamicsData = true →
    DynamicsAlike r.bodyFrameData r.bodyFrameDataExt c.location.bodyFrameData
  gnssSystemTime :
    TimeAlike r.gnssSystemTime (if c.timeNamed then some c.location.gnssSystemTime else none)
  measUsageInfo : List.Forall₂ UsageAlike (inUse r.numOfMeasReceived.toNat r.measUsageInfo)
    (c.location.measUsageInfo.zip c.usageNamed)
  usageNamed : c.usageNamed.length = c.location.measUsageInfo.length
  calibrationStatus : infoMarks r .calibrationStatus = true →
    ∀ f, calibrationTable.read c.location.calibrationStatus f =
      calibrationMarks r.calibrationStatus f
  locOutputEngType : Carried (infoMarks r .outputEngType) (engineName r.locOutputEngType)
    c.location.locOutputEngType
  locOutputEngMask : infoMarks r .outputEngMask = true →
    ∀ f, engineTable.read c.location.locOutputEngMask f = engineMarks r.locOutputEngMask f
  enuVelocityVRPBased : Carried (infoMarks r .enuVelocityVrpBased) r.enuVelocityVRPBased
    c.location.enuVelocityVRPBased
  dgnssStationId :
    c.location.dgnssStationId = inUse r.numOfDgnssStationId.toNat r.dgnssStationId

/-! ## Words that are written and read -/

@[simp] theorem read_write_locationFlags (m : Flags Fidl.LocationFlag) :
    Fidl.lcaLocationFlags.read (Fidl.lcaLocationFlags.write m) = m :=
  Fidl.lcaLocationFlags.read_write (fun f => by cases f <;> decide) m

@[simp] theorem read_write_technology (m : Flags Fidl.TechnologyFlag) :
    technologyTable.read (technologyTable.write m) = m :=
  technologyTable.read_write (fun f => by cases f <;> decide) m

@[simp] theorem read_write_navSolution (m : Flags Fidl.NavSolutionFlag) :
    navSolutionTable.read (navSolutionTable.write m) = m :=
  navSolutionTable.read_write (fun f => by cases f <;> decide) m

@[simp] theorem read_write_engine (m : Flags Fidl.EngineFlag) :
    engineTable.read (engineTable.write m) = m :=
  engineTable.read_write (fun f => by cases f <;> decide) m

@[simp] theorem read_write_calibration (m : Flags Fidl.CalibrationFlag) :
    calibrationTable.read (calibrationTable.write m) = m :=
  calibrationTable.read_write (fun f => by cases f <;> decide) m

@[simp] theorem read_write_drSolution (m : Flags Fidl.DrSolutionFlag) :
    Fidl.drSolutionFlags.read (Fidl.drSolutionFlags.write m) = m :=
  Fidl.drSolutionFlags.read_write (fun f => by cases f <;> decide) m

@[simp] theorem read_write_posData (m : Flags Fidl.PosDataFlag) :
    Fidl.posDataTable.read (Fidl.posDataTable.write m) = m :=
  Fidl.posDataTable.read_write (fun f => by cases f <;> decide) m

@[simp] theorem read_write_systemTime (m : Flags Fidl.SystemTimeFlag) :
    Fidl.systemTimeTable.read (Fidl.systemTimeTable.write m) = m :=
  Fidl.systemTimeTable.read_write (fun f => by cases f <;> decide) m

@[simp] theorem read_write_gloTime (m : Flags Fidl.GloTimeFlag) :
    Fidl.gloTimeTable.read (Fidl.gloTimeTable.write m) = m :=
  Fidl.gloTimeTable.read_write (fun f => by cases f <;> decide) m

@[simp] theorem read_write_signalType (m : Flags Fidl.SignalType) :
    Fidl.signalTypeFlags.read (Fidl.signalTypeFlags.write m) = m :=
  Fidl.signalTypeFlags.read_write (fun f => by cases f <;> decide) m

/-- The two flags without a bit in the word are never on. -/
theorem read_write_infoMarks (r : PbConv.GnssLocationInfoNotification h) :
    Fidl.lcaInfoFlags.read (Fidl.lcaInfoFlags.write (infoMarks r)) = infoMarks r := by
  refine (Fidl.lcaInfoFlags.read_write_iff _).mpr fun f hon => ?_
  cases f with
  | gptpTime | gptpTimeUnc => cases hon
  | _ => decide

/-! ## The parts of a report -/

theorem technologyTold_write (techMask : Flags PbConv.LocationTechnologyFlag) :
    techMask = technologyTold (technologyTable.write (technologyMarks techMask)) ↔
      techMask .hybridAle = false := by
  constructor
  · intro h
    rw [h]
    rfl
  · intro hoff
    funext f
    cases f with
    | hybridAle => exact hoff
    | _ => simp only [technologyTold, read_write_technology, technologyMarks]

variable {n : CastNumbers} {r : PbConv.GnssLocationInfoNotification h}

theorem locationAlike_iff (hnum : n.SameNumbers) (usage : List Fidl.GnssMeasUsageInfo)
    (ids : List UInt16) :
    LocationAlike r.location (locationInfo n r usage ids) ↔
      r.location.techMask .hybridAle = false := by
  constructor
  · intro halike
    exact (technologyTold_write _).mp halike.techMask
  · intro hoff
    exact {
      flags := fun f => congrFun (read_write_locationFlags _) f
      timestamp := fun _ => rfl
      latLong := fun _ => rfl
      altitude := fun _ => rfl
      speed := fun _ => rfl
      bearing := fun _ => rfl
      accuracy := fun _ => rfl
      verticalAccuracy := fun _ => rfl
      speedAccuracy := fun _ => rfl
      bearingAccuracy := fun _ => rfl
      elapsedRealTime := fun _ => rfl
      timeUnc := fun _ => rfl
      gptpTime := carried_given _ _ _
      gptpTimeUnc := carried_given _ _ _
      sessionStatus := fun _ => congrFun hnum.sessionStatus _
      techMask := (technologyTold_write _).mpr hoff }

theorem fieldsAlike (hnum : n.SameNumbers) (usage : List Fidl.GnssMeasUsageInfo)
    (ids : List UInt16) :
    FieldsAlike (infoMarks r) r.toGnssLocationInfoFields (locationInfo n r usage ids) where
  altitudeMeanSeaLevel := fun _ => rfl
  dop := fun _ => rfl
  extDop := fun _ => rfl
  magneticDeviation := fun _ => rfl
  horReliability := fun _ => rfl
  verReliability := fun _ => rfl
  semiMajor := fun _ => rfl
  semiMinor := fun _ => rfl
  azimuth := fun _ => rfl
  northStdDev := fun _ => rfl
  eastStdDev := fun _ => rfl
  northVel := fun _ => rfl
  eastVel := fun _ => rfl
  upVel := fun _ => rfl
  northVelUnc := fun _ => rfl
  eastVelUnc := fun _ => rfl
  upVelUnc := fun _ => rfl
  numSvUsedInPosition := fun _ => rfl
  svUsedInPosition := fun _ => rfl
  navSolutionMask := fun _ f => congrFun (read_write_navSolution _) f
  leapSeconds := fun _ => rfl
  calibrationConfidence := carried_given _ _ _
  conformityIndex := fun _ => rfl
  llaVrpBased := fun _ => rfl
  drSolutionStatusMask := by
    intro _ f
    show Fidl.drSolutionFlags.read (n.drSolutionStatusMask.write r.drSolutionStatusMask) f = _
    rw [hnum.drSolutionStatusMask, read_write_drSolution]
  altitudeAssumed := fun _ => rfl
  integrityRiskUsed := fun _ => rfl
  protectAlongTrack := fun _ => rfl
  protectCrossTrack := fun _ => rfl
  protectVertical := fun _ => rfl
  baseLineLength := carried_given _ _ _
  ageOfCorrection := carried_given _ _ _
  leapSecondsUnc := fun _ => rfl
  reportInterval := carried_given _ _ _

theorem parseLocationPositionDynamics_alike (dyn : PbConv.GnssLocationPositionDynamics)
    (dynExt : PbConv.GnssLocationPositionDynamicsExt) :
    DynamicsAlike dyn dynExt (parseLocationPositionDynamics dyn dynExt) :=
  ⟨fun f => congrFun (read_write_posData _) f, fun _ => carried_given _ _ _⟩

/-- The week, if there is one, is within the 16 bits that it is stored in. -/
def WeekFits (t : PbConv.GnssSystemTimeStructType) : Prop :=
  t.validityMask .weekValid = true → t.systemWeek.toNat < 2 ^ 16

theorem parseGnssTime_alike_iff (t : PbConv.GnssSystemTimeStructType) :
    GnssTimeAlike t (parseGnssTime t) ↔ WeekFits t := by
  constructor
  · intro halike hweek
    have hsame : t.systemWeek.toUInt16.toNat = t.systemWeek.toNat := by
      rw [← halike.systemWeek hweek, parseGnssTime, Fidl.given, if_pos hweek]
    rw [← hsame]
    exact UInt16.toNat_lt _
  · intro hfits
    exact {
      mask := fun f => congrFun (read_write_systemTime _) f
      systemWeek := by
        intro hweek
        rw [parseGnssTime, Fidl.given, if_pos hweek, UInt32.toNat_toUInt16]
        exact Nat.mod_eq_of_lt (hfits hweek)
      systemMsec := carried_given _ _ _
      systemClkTimeBias := carried_given _ _ _
      systemClkTimeUncMs := carried_given _ _ _
      refFCount := carried_given _ _ _
      numClockResets := carried_given _ _ _ }

theorem parseGloTime_alike (t : PbConv.GnssGloTimeStructType) :
    GloTimeAlike t (parseGloTime t) where
  mask := fun f => congrFun (read_write_gloTime _) f
  gloDays := carried_given _ _ _
  gloMsec := carried_given _ _ _
  gloClkTimeBias := carried_given _ _ _
  gloClkTimeUncMs := carried_given _ _ _
  refFCount := carried_given _ _ _
  numClockResets := carried_given _ _ _
  gloFourYear := carried_given _ _ _

/-- The week of the time that the constellation has. -/
def TimeFits (t : PbConv.GnssSystemTime) : Prop :=
  match t.gnssSystemTimeSrc with
  | .gps => WeekFits t.u.gpsSystemTime
  | .galileo => WeekFits t.u.galSystemTime
  | .bds => WeekFits t.u.bdsSystemTime
  | .qzss => WeekFits t.u.qzssSystemTime
  | .navic => WeekFits t.u.navicSystemTime
  | .sbas | .glonass | .unknown => True

theorem parseSystemTime_alike_iff (t : PbConv.GnssSystemTime) :
    TimeAlike t (parseSystemTime t) ↔ TimeFits t := by
  obtain ⟨src, u⟩ := t
  cases src with
  | unknown | sbas => exact iff_of_true rfl trivial
  | glonass => exact iff_of_true ⟨_, rfl, parseGloTime_alike _⟩ trivial
  | _ =>
    simp only [TimeAlike, parseSystemTime, TimeFits, Option.some.injEq,
      Fidl.GnssSystemTime.gps.injEq, Fidl.GnssSystemTime.galileo.injEq,
      Fidl.GnssSystemTime.bds.injEq, Fidl.GnssSystemTime.qzss.injEq,
      Fidl.GnssSystemTime.navic.injEq, exists_eq_left']
    exact parseGnssTime_alike_iff _

theorem read_parseGnssSignalType (hnum : n.SameNumbers)
    (mask : Flags PbConv.GnssSignalTypeFlag) (f : Fidl.SignalType) :
    Fidl.signalTypeFlags.read (parseGnssSignalType n mask) f = signalMarks mask f := by
  rw [parseGnssSignalType, signalRows_of_sameNumbers hnum]
  exact congrFun (read_write_signalType _) f

theorem parseMeasUsage_alike (hnum : n.SameNumbers) (u : PbConv.GnssMeasUsageInfo) :
    UsageAlike u (parseMeasUsage n u) where
  named := by rw [parseMeasUsage, hnum.svSystem]
  gnssConstellation := by
    intro hnamed
    rw [parseMeasUsage, hnum.svSystem] at *
    obtain ⟨c, hc⟩ := Option.isSome_iff_exists.mp hnamed
    rw [hc]
    rfl
  gnssSvId := rfl
  gnssSignalType := fun f => read_parseGnssSignalType hnum u.gnssSignalType f

/-! ## The report that was read -/

theorem parseGnssMeasUsageInfo_value (hcount : r.numOfMeasReceived.toNat ≤ h.gnssSvMax) :
    (parseGnssMeasUsageInfo n r).value =
      (inUse r.numOfMeasReceived.toNat r.measUsageInfo).map (parseMeasUsage n) := by
  have hlen : r.numOfMeasReceived.toNat ≤ r.measUsageInfo.toList.length := by
    rwa [Vector.length_toList]
  rw [parseGnssMeasUsageInfo, Fidl.append_pure_value hlen, List.nil_append, inUse]

theorem append_stations_value (hcount : r.numOfDgnssStationId.toNat ≤ h.dgnssStationIdMax) :
    (Logged.append r.numOfDgnssStationId.toNat r.dgnssStationId.toList pure []).value =
      inUse r.numOfDgnssStationId.toNat r.dgnssStationId := by
  have hlen : r.numOfDgnssStationId.toNat ≤ r.dgnssStationId.toList.length := by
    rwa [Vector.length_toList]
  have hvalue := @Fidl.append_pure_value UInt16 UInt16 _ id _ _ hlen []
  rwa [List.nil_append, List.map_id] at hvalue

/-- Nothing is read past the end of the two arrays exactly if they have as many elements as the
report says. -/
theorem parseLocationInfo_inBounds_iff :
    (parseLocationInfo n r).InBounds ↔
      r.numOfMeasReceived.toNat ≤ h.gnssSvMax ∧
        r.numOfDgnssStationId.toNat ≤ h.dgnssStationIdMax := by
  have hstations := @Fidl.append_pure_inBounds UInt16 UInt16 _ id r.numOfDgnssStationId.toNat
    r.dgnssStationId.toList []
  rw [Vector.length_toList] at hstations
  rw [parseLocationInfo, Logged.inBounds_bind, Logged.inBounds_bind_pure, parseGnssMeasUsageInfo,
    Fidl.append_pure_inBounds, Vector.length_toList]
  exact and_congr_right fun _ => hstations

/-- What the application is given. -/
theorem parseLocationInfo_value (hmeas : r.numOfMeasReceived.toNat ≤ h.gnssSvMax)
    (hstations : r.numOfDgnssStationId.toNat ≤ h.dgnssStationIdMax) :
    (parseLocationInfo n r).value =
      { location := locationInfo n r
          ((inUse r.numOfMeasReceived.toNat r.measUsageInfo).map fun u => (parseMeasUsage n u).1)
          (inUse r.numOfDgnssStationId.toNat r.dgnssStationId)
        timeNamed := (parseSystemTime r.gnssSystemTime).isSome
        usageNamed :=
          (inUse r.numOfMeasReceived.toNat r.measUsageInfo).map
            fun u => (parseMeasUsage n u).2 } := by
  rw [parseLocationInfo, Logged.value_bind, Logged.value_bind, Logged.value_pure,
    parseGnssMeasUsageInfo_value hmeas, append_stations_value hstations, List.map_map,
    List.map_map]
  rfl

/-- The name of the time is off where there is none. -/
theorem named_time (t : PbConv.GnssSystemTime) :
    (if (parseSystemTime t).isSome then some ((parseSystemTime t).getD default) else none) =
      parseSystemTime t := by
  cases parseSystemTime t <;> rfl

theorem parseLocationInfo_alike (hnum : n.SameNumbers) (hh : h.SameNumbers)
    (hmeas : r.numOfMeasReceived.toNat ≤ h.gnssSvMax)
    (hstations : r.numOfDgnssStationId.toNat ≤ h.dgnssStationIdMax)
    (htech : r.location.techMask .hybridAle = false) (htime : TimeFits r.gnssSystemTime) :
    Alike r (parseLocationInfo n r).value := by
  rw [parseLocationInfo_value hmeas hstations]
  exact {
    location := (locationAlike_iff hnum _ _).mpr htech
    infoFlags := fun f => congrFun (read_write_infoMarks r) f
    fields := fieldsAlike hnum _ _
    posTechMask := (technologyTold_write _).mpr htech
    bodyFrameData := fun _ => parseLocationPositionDynamics_alike _ _
    gnssSystemTime := by
      show TimeAlike r.gnssSystemTime (if (parseSystemTime r.gnssSystemTime).isSome then
        some ((parseSystemTime r.gnssSystemTime).getD default) else none)
      rw [named_time]
      exact (parseSystemTime_alike_iff _).mpr htime
    measUsageInfo := by
      show List.Forall₂ UsageAlike _ (List.zip (List.map _ _) (List.map _ _))
      rw [List.zip_map', List.forall₂_map_right_iff, List.forall₂_same]
      exact fun u _ => parseMeasUsage_alike hnum u
    usageNamed := by
      show (List.map _ _).length = (List.map _ _).length
      rw [List.length_map, List.length_map]
    calibrationStatus := by
      intro hon f
      show calibrationTable.read (Fidl.given (r.flags .calibrationStatus)
        (h.drCalibrationStatuses.write r.calibrationStatus) 0) f = _
      have hon' : r.flags .calibrationStatus = true := hon
      rw [Fidl.given, if_pos hon', hh.drCalibrationStatuses, write_drCalibrationStatuses,
        read_write_calibration]
    locOutputEngType := fun _ => congrFun hnum.locOutputEngType _
    locOutputEngMask := by
      intro _ f
      show engineTable.read (n.locOutputEngMask.write r.locOutputEngMask) f = _
      rw [hnum.locOutputEngMask, read_write_engine]
    enuVelocityVRPBased := fun _ => rfl
    dgnssStationId := rfl }

/-! ## The report that was sent -/

variable {r' : PbConv.GnssLocationInfoNotification h} {c : ClientReport}

theorem infoMarks_of_same (hs : r.Same r') : infoMarks r' = infoMarks r := by
  funext f
  cases f <;> simp only [infoMarks, hs.flags, hs.location]

theorem parseSystemTime_of_same {t t' : PbConv.GnssSystemTime} (hs : t.Same t') :
    parseSystemTime t' = parseSystemTime t := by
  obtain ⟨src, u⟩ := t
  obtain ⟨src', u'⟩ := t'
  obtain ⟨hsrc, hu⟩ := hs
  cases hsrc
  cases src with
  | unknown | sbas => rfl
  | _ =>
    simp only at hu
    simp only [parseSystemTime, hu]

theorem timeAlike_of_same {t t' : PbConv.GnssSystemTime} (hs : t.Same t')
    {s : Option Fidl.GnssSystemTime} (halike : TimeAlike t' s) : TimeAlike t s := by
  obtain ⟨src, u⟩ := t
  obtain ⟨src', u'⟩ := t'
  obtain ⟨hsrc, hu⟩ := hs
  cases hsrc
  cases src with
  | unknown | sbas => exact halike
  | _ =>
    obtain ⟨time, hsome, htime⟩ := halike
    exact ⟨time, hsome, hu ▸ htime⟩

theorem inUse_of_same {α : Type} {capacity m : Nat} {data data' : Vector α capacity}
    (hs : ∀ i (hi : i < capacity), i < m → data'[i] = data[i]) : inUse m data' = inUse m data := by
  refine List.ext_getElem ?_ fun i hi hi' => ?_
  · simp [inUse]
  · have hlt : i < m ∧ i < capacity := by
      simpa [inUse, Nat.lt_min] using hi
    simpa [inUse] using hs i hlt.2 hlt.1

theorem Alike.of_same (hs : r.Same r') (halike : Alike r' c) : Alike r c where
  location := hs.location ▸ halike.location
  infoFlags := infoMarks_of_same hs ▸ halike.infoFlags
  fields := infoMarks_of_same hs ▸ hs.fields ▸ halike.fields
  posTechMask := hs.location ▸ halike.posTechMask
  bodyFrameData := infoMarks_of_same hs ▸ hs.bodyFrameData ▸ hs.bodyFrameDataExt ▸
    halike.bodyFrameData
  gnssSystemTime := timeAlike_of_same hs.gnssSystemTime halike.gnssSystemTime
  measUsageInfo := by
    rw [← inUse_of_same hs.measUsageInfo, ← hs.numOfMeasReceived]
    exact halike.measUsageInfo
  usageNamed := halike.usageNamed
  calibrationStatus := infoMarks_of_same hs ▸ hs.calibrationStatus ▸ halike.calibrationStatus
  locOutputEngType := by
    intro hon
    rw [← hs.locOutputEngType hon]
    exact halike.locOutputEngType (infoMarks_of_same hs ▸ hon)
  locOutputEngMask := by
    intro hon f
    rw [← hs.locOutputEngMask hon]
    exact halike.locOutputEngMask (infoMarks_of_same hs ▸ hon) f
  enuVelocityVRPBased := infoMarks_of_same hs ▸ hs.enuVelocityVRPBased ▸
    halike.enuVelocityVRPBased
  dgnssStationId := by
    rw [halike.dgnssStationId, hs.numOfDgnssStationId]
    exact inUse_of_same hs.dgnssStationId

/-! ## The whole way -/

open PbConv (convertGnssLocInfoNotifToPB pbConvertToGnssLocInfoNotif)

/-- What was read of a message never has more elements than there is room for. -/
theorem parseLocationInfo_inBounds (pb : PbConv.PBGnssLocationInfoNotification)
    (old : PbConv.GnssLocationInfoNotification h) :
    (parseLocationInfo n (pbConvertToGnssLocInfoNotif pb old).value).InBounds := by
  refine parseLocationInfo_inBounds_iff.mpr ⟨?_, ?_⟩
  · show (UInt8.ofNat (min pb.numOfMeasReceived.toNat h.gnssSvMax)).toNat ≤ h.gnssSvMax
    rw [UInt8.toNat_ofNat']
    exact Nat.le_trans (Nat.mod_le _ _) (Nat.min_le_right _ _)
  · show (UInt32.ofNat (min (PbConv.uint32Size pb.dgnssStationId.length)
      h.dgnssStationIdMax)).toNat ≤ h.dgnssStationIdMax
    rw [UInt32.toNat_ofNat']
    exact Nat.le_trans (Nat.mod_le _ _) (Nat.min_le_right _ _)

/-- What an application that is told the same shows of a report: it is expressible. -/
theorem expressible_of_alike (hnum : n.SameNumbers) {old : PbConv.GnssLocationInfoNotification h}
    (halike : Alike r (parseLocationInfo n
      (pbConvertToGnssLocInfoNotif (convertGnssLocInfoNotifToPB r) old).value).value) :
    r.Expressible where
  techMask := by
    rw [halike.location.techMask]
    rfl
  locOutputEngType := by
    intro hon hvpe
    have htype := halike.locOutputEngType hon
    have hread : (parseLocationInfo n (pbConvertToGnssLocInfoNotif
        (convertGnssLocInfoNotifToPB r) old).value).value.location.locOutputEngType =
        n.locOutputEngType (PbConv.getEnumForPBLocOutputEngineType
          (PbConv.getPBEnumForLocOutputEngineType r.locOutputEngType)) := rfl
    rw [hread, hnum.locOutputEngType, hvpe] at htype
    cases htype
  locOutputEngMask := by
    intro hon
    have hmask := halike.locOutputEngMask hon .vpPositioning
    have hread : (parseLocationInfo n (pbConvertToGnssLocInfoNotif
        (convertGnssLocInfoNotifToPB r) old).value).value.location.locOutputEngMask =
        n.locOutputEngMask.write (PbConv.getEnumForPBPositioningEngineMask
          (PbConv.getPBMaskForPositioningEngineMask r.locOutputEngMask)) := rfl
    rw [hread, hnum.locOutputEngMask, read_write_engine] at hmask
    rw [show r.locOutputEngMask .vpPositioning = engineMarks r.locOutputEngMask .vpPositioning
      from rfl, ← hmask]
    rfl

theorem timeFits_of_alike {old : PbConv.GnssLocationInfoNotification h}
    (halike : Alike r (parseLocationInfo n
      (pbConvertToGnssLocInfoNotif (convertGnssLocInfoNotifToPB r) old).value).value) :
    TimeFits r.gnssSystemTime := by
  have htime := halike.gnssSystemTime
  have hsame := PbConv.pbConvertToGnssSystemTime_same r.gnssSystemTime old.gnssSystemTime
  have hread : (if (parseSystemTime (PbConv.pbConvertToGnssSystemTime
      (PbConv.convertGnssSystemTimeToPB r.gnssSystemTime) old.gnssSystemTime)).isSome then
      some ((parseSystemTime (PbConv.pbConvertToGnssSystemTime
        (PbConv.convertGnssSystemTimeToPB r.gnssSystemTime) old.gnssSystemTime)).getD default)
      else none) = parseSystemTime r.gnssSystemTime :=
    (named_time _).trans (parseSystemTime_of_same hsame)
  exact (parseSystemTime_alike_iff _).mp (hread ▸ htime)

theorem timeFits_of_same {t t' : PbConv.GnssSystemTime} (hs : t.Same t') (hfits : TimeFits t) :
    TimeFits t' := by
  obtain ⟨src, u⟩ := t
  obtain ⟨src', u'⟩ := t'
  obtain ⟨hsrc, hu⟩ := hs
  cases hsrc
  cases src with
  | unknown | sbas | glonass => trivial
  | _ =>
    simp only at hu
    simpa only [TimeFits, hu] using hfits

/-- **A position report of the daemon reaches the application**, over whatever the structure that
the message is read into held before, exactly if the message has bits for its technologies and its
engines, and the week of its system time is of 16 bits. -/
theorem position_report_told_iff (hnum : n.SameNumbers) (hh : h.SameNumbers)
    (hr : r.WithinCapacity) (old : PbConv.GnssLocationInfoNotification h) :
    Alike r (parseLocationInfo n
        (pbConvertToGnssLocInfoNotif (convertGnssLocInfoNotifToPB r) old).value).value ↔
      r.Expressible ∧ TimeFits r.gnssSystemTime := by
  constructor
  · intro halike
    exact ⟨expressible_of_alike hnum halike, timeFits_of_alike halike⟩
  · rintro ⟨hexpr, htime⟩
    have hsame := (PbConv.GnssLocationInfoNotification.same_iff hh hr old).mpr hexpr
    refine Alike.of_same hsame (parseLocationInfo_alike hnum hh ?_ ?_ ?_ ?_)
    · rw [hsame.numOfMeasReceived]
      exact hr.numOfMeasReceived
    · rw [hsame.numOfDgnssStationId]
      exact hr.numOfDgnssStationId
    · rw [hsame.location]
      exact hexpr.techMask
    · exact timeFits_of_same hsame.gnssSystemTime htime

end Client
end LocationStack
