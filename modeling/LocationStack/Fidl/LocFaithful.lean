import LocationStack.Fidl.LocReport

/-! # When a position report is faithful

A report is faithful to one of the client if its words have the flags of the same names, each field
that is marked valid has the value, and no list was read past its end.
-/
namespace LocationStack
namespace Fidl

/-! ## Faithful reports -/

theorem Carried.pair {α β : Type} {valid : Bool} {x y : α} {x' y' : β} (h : Carried valid x y)
    (h' : Carried valid x' y') : Carried valid (x, x') (y, y') :=
  fun hvalid => by rw [h hvalid, h' hvalid]

structure BasicFaithful (s : GnssLocation) (t : LocationT) : Prop where
  flags : t.flags = idlLocationFlags.write s.marked
  timestamp : Carried (s.marked .timestamp) s.timestamp t.timestamp
  latLong : Carried (s.marked .latLong) (s.latitude, s.longitude) (t.latitude, t.longitude)
  altitude : Carried (s.marked .altitude) s.altitude t.altitude
  speed : Carried (s.marked .speed) s.speed t.speed
  bearing : Carried (s.marked .bearing) s.bearing t.bearing
  accuracy : Carried (s.marked .accuracy) s.horizontalAccuracy t.horizontalAccuracy
  verticalAccuracy : Carried (s.marked .verticalAccuracy) s.verticalAccuracy t.verticalAccuracy
  speedAccuracy : Carried (s.marked .speedAccuracy) s.speedAccuracy t.speedAccuracy
  bearingAccuracy : Carried (s.marked .bearingAccuracy) s.bearingAccuracy t.bearingAccuracy
  techMask : t.techMask = namesakes technologyFlags (by decide) s.techMask
  elapsedRealTime : Carried (s.marked .elapsedRealTime) s.elapsedRealTimeNs t.elapsedRealTimeNs
  elapsedRealTimeUnc :
    Carried (s.marked .elapsedRealTimeUnc) s.elapsedRealTimeUncNs t.elapsedRealTimeUncNs
  timeUnc : Carried (s.marked .timeUnc) s.timeUncMs t.timeUncMs

/-- **The report is faithful** but for its lists. -/
structure InfoFaithful (s : GnssLocation) (t : LocationReportT) : Prop where
  locInfo : BasicFaithful s t.locInfo
  locationInfoFlags : t.locationInfoFlags = idlReportFlags.write s.markedInfo
  extendedFlags : t.locationInfoExtendedFlags = idlExtendedFlags.write s.markedInfo
  altitudeMeanSeaLevel :
    Carried (s.markedInfo .altitudeMeanSeaLevel) s.altitudeMeanSeaLevel t.altitudeMeanSeaLevel
  dop : Carried (s.markedInfo .dop) (s.pdop, s.hdop, s.vdop) (t.pdop, t.hdop, t.vdop)
  extDop : Carried (s.markedInfo .extDop) (s.gdop, s.tdop) (t.gdop, t.tdop)
  magneticDeviation :
    Carried (s.markedInfo .magneticDeviation) s.magneticDeviation t.magneticDeviation
  horReliability : Carried (s.markedInfo .horReliability) s.horReliability t.horReliability
  verReliability : Carried (s.markedInfo .verReliability) s.verReliability t.verReliability
  semiMajor : Carried (s.markedInfo .horAccuracyElipSemiMajor) s.horUncEllipseSemiMajor
    t.horUncEllipseSemiMajor
  semiMinor : Carried (s.markedInfo .horAccuracyElipSemiMinor) s.horUncEllipseSemiMinor
    t.horUncEllipseSemiMinor
  azimuth : Carried (s.markedInfo .horAccuracyElipAzimuth) s.horUncEllipseOrientAzimuth
    t.horUncEllipseOrientAzimuth
  northStdDev : Carried (s.markedInfo .northStdDev) s.northStdDeviation t.northStdDeviation
  eastStdDev : Carried (s.markedInfo .eastStdDev) s.eastStdDeviation t.eastStdDeviation
  northVel : Carried (s.markedInfo .northVel) s.northVelocity t.northVelocity
  eastVel : Carried (s.markedInfo .eastVel) s.eastVelocity t.eastVelocity
  upVel : Carried (s.markedInfo .upVel) s.upVelocity t.upVelocity
  northVelUnc :
    Carried (s.markedInfo .northVelUnc) s.northVelocityStdDeviation t.northVelocityStdDeviation
  eastVelUnc :
    Carried (s.markedInfo .eastVelUnc) s.eastVelocityStdDeviation t.eastVelocityStdDeviation
  upVelUnc : Carried (s.markedInfo .upVelUnc) s.upVelocityStdDeviation t.upVelocityStdDeviation
  numSvUsedInPosition : Carried (s.markedInfo .numSvUsedInPosition) s.numSvUsedInPosition.toUInt32
    t.numSvUsedInPosition
  svUsedInPosition : Carried (s.markedInfo .gnssSvUsedData) s.svUsedInPosition t.svUsedInPosition
  navSolutionMask : Carried (s.markedInfo .navSolutionMask)
    (namesakes navSolutionFlags (by decide) s.navSolutionMask) t.navSolutionMask
  posTechMask : Carried (s.markedInfo .posTechMask)
    (namesakes technologyFlags (by decide) s.posTechMask) t.posTechMask
  bodyFrameData :
    s.markedInfo .posDynamicsData = true → DynamicsFaithful s.bodyFrameData t.bodyFrameData
  gnssSystemTime : TimeFaithful s.gnssSystemTime t.gnssSystemTime
  leapSeconds : Carried (s.markedInfo .leapSeconds) s.leapSeconds.toUInt32 t.leapSeconds
  calibrationConfidencePercent : Carried (s.markedInfo .calibrationConfidencePercent)
    s.calibrationConfidencePercent.toUInt32 t.calibrationConfidencePercent
  calibrationStatus : Carried (s.markedInfo .calibrationStatus)
    (namesakes calibrationFlags (by decide) s.calibrationStatus) t.calibrationStatus
  locOutputEngType :
    Carried (s.markedInfo .outputEngType) (some s.locOutputEngType) t.locOutputEngType
  locOutputEngMask : Carried (s.markedInfo .outputEngMask)
    (namesakes engineFlags (by decide) s.locOutputEngMask) t.locOutputEngMask
  conformityIndex : Carried (s.markedInfo .conformityIndex) s.conformityIndex t.conformityIndex
  llaVrpBased : Carried (s.markedInfo .llaVrpBased) s.llaVRPBased t.llaVrpBased
  enuVelocityVrpBased : Carried (s.markedInfo .enuVelocityVrpBased) s.enuVelocityVRPBased.toList
    t.enuVelocityVrpBased
  drSolutionStatusMask : Carried (s.markedInfo .drSolutionStatusMask)
    (drSolutionFlags.write (drSolutionFlags.read s.drSolutionStatusMask)) t.drSolutionStatusMask
  altitudeAssumed : Carried (s.markedInfo .altitudeAssumed) s.altitudeAssumed t.altitudeAssumed
  sessionStatus : Carried (s.markedInfo .sessionStatus) (some s.sessionStatus) t.sessionStatus
  integrityRiskUsed :
    Carried (s.markedInfo .integrityRiskUsed) s.integrityRiskUsed t.integrityRiskUsed
  protectAlongTrack :
    Carried (s.markedInfo .protectAlongTrack) s.protectAlongTrack t.protectAlongTrack
  protectCrossTrack :
    Carried (s.markedInfo .protectCrossTrack) s.protectCrossTrack t.protectCrossTrack
  protectVertical : Carried (s.markedInfo .protectVertical) s.protectVertical t.protectVertical
  gptpTime : Carried (s.markedInfo .gptpTime) s.elapsedgPTPTime t.elapsedgPtpTime
  gptpTimeUnc : Carried (s.markedInfo .gptpTimeUnc) s.elapsedgPTPTimeUnc t.elapsedgPtpTimeUnc
  baseLineLength : Carried (s.markedInfo .baseLineLength) s.baseLineLength t.baseLineLength
  ageOfCorrection :
    Carried (s.markedInfo .ageOfCorrection) s.ageMsecOfCorrections t.ageMsecOfCorrections
  leapSecondsUnc : Carried (s.markedInfo .leapSecondsUnc) s.leapSecondsUnc.toUInt32 t.leapSecondsUnc
  reportInterval :
    Carried (s.markedInfo .reportInterval) s.posReportingInterval t.posReportingInterval

/-- **A faithful report**, with the lists, of which the stations are at most three. -/
structure LocFaithful (s : GnssLocation) (r : Logged LocationReportT) : Prop where
  inBounds : r.InBounds
  info : InfoFaithful s r.value
  measUsageInfo : s.markedInfo .gnssSvUsedData = true →
    ListFaithful UsageFaithful maxGnssMeas s.measUsageInfo r.value.measUsageInfo
  dgnssStationId : s.markedInfo .dgnssStationId = true →
    ListFaithful (fun id id' => id'.toNat = id.toNat) 3 s.dgnssStationId r.value.dgnssStationId

/-! ## What the conversion gets wrong -/

/-- What `parseBasicLocationInfo` and the blocks that are not about lists need. -/
structure InfoConvertible (s : GnssLocation) : Prop where
  /-- No flag for the northern velocity's deviation. -/
  northVelUnc : s.hasInfo .northVelUnc = false
  horReliability : s.hasInfo .horReliability = true → s.horReliability ≠ .low
  verReliability : s.hasInfo .verReliability = true → s.verReliability ≠ .low
  /-- The two fields of the gPTP time are valid together. -/
  gptpTime : s.has .gptpTime = s.has .gptpTimeUnc
  sessionStatus : s.has .sessionStatus = true → s.hasInfo .sessionStatus = true
  timeUnc : s.hasInfo .timeUnc = true → s.has .timeUnc = true
  /-- The satellites in use are copied with their number. -/
  svUsed : s.hasInfo .gnssSvUsedData = true →
    s.hasInfo .numSvUsedInPosition = true ∨ s.svUsedInPosition = .none
  drSolution : s.hasInfo .drSolutionStatusMask = true →
    drSolutionFlags.read s.drSolutionStatusMask .warningInitPositionUnreliable = false

/-- **The report can be converted.** -/
structure LocConvertible (s : GnssLocation) : Prop where
  info : InfoConvertible s
  signals : s.hasInfo .gnssSvUsedData = true →
    ∀ u ∈ s.measUsageInfo.take maxGnssMeas, OneSignal u.gnssSignalType
  stations : s.hasInfo .dgnssStationId = true → 3 ≤ s.dgnssStationId.length

/-! ## The words -/

theorem locationFlags_iff (s : GnssLocation) :
    (parseBasicLocationInfo s).flags = idlLocationFlags.write s.marked ↔
      (s.hasInfo .timeUnc = true → s.has .timeUnc = true) := by
  have hword : (parseBasicLocationInfo s).flags = idlLocationFlags.write s.has :=
    FlagTable.rename_each (FlagTable.forall_rows_inOrder.mpr fun _ hf => hf) s.has
  rw [hword, FlagTable.write_eq_write_iff, idlLocationFlags,
    @FlagTable.forall_rows_inOrder _ _ _ _ fun f => s.has f = s.marked f]
  constructor
  · intro h htimeUnc
    rw [h .timeUnc (by decide)]
    simp [GnssLocation.marked, htimeUnc]
  · intro h f _
    cases f with
    | timeUnc => simpa [GnssLocation.marked] using h
    | _ => rfl

/-- The flags of the first word are tested where they are marked. -/
theorem markedInfo_eq_tested (s : GnssLocation) :
    ∀ f ∈ reportFlagNames, s.markedInfo f = s.tested f := by
  simp [reportFlagNames, GnssLocation.markedInfo, GnssLocation.tested]

theorem reportFlags_iff (s : GnssLocation) :
    idlReportFlags.rename reportLines s.tested = idlReportFlags.write s.markedInfo ↔
      s.hasInfo .northVelUnc = false := by
  have hmarked : idlReportFlags.write s.markedInfo = idlReportFlags.write s.tested :=
    FlagTable.write_eq_write_iff.mpr (FlagTable.forall_rows_inOrder.mpr (markedInfo_eq_tested s))
  rw [hmarked, FlagTable.rename_eq_write_iff_of_slips [.northVelUnc] (by decide) (by decide)
    (by decide) (by decide)]
  exact List.forall_mem_singleton

theorem extendedFlags_iff (s : GnssLocation) :
    idlExtendedFlags.rename extendedLines s.tested = idlExtendedFlags.write s.markedInfo ↔
      (s.has .sessionStatus = true → s.hasInfo .sessionStatus = true) ∧
        s.has .gptpTime = s.has .gptpTimeUnc := by
  rw [FlagTable.rename_eq_write_iff, idlExtendedFlags, @FlagTable.forall_rows_inOrder _ _ _ _
    fun f => FlagTable.setBy extendedLines s.tested f = s.markedInfo f]
  simp [extendedFlagNames, FlagTable.setBy, extendedLines, GnssLocation.tested,
    GnssLocation.markedInfo]

/-! ## The fields -/

theorem parseBasicLocationInfo_faithful_iff (s : GnssLocation) :
    BasicFaithful s (parseBasicLocationInfo s) ↔
      (s.hasInfo .timeUnc = true → s.has .timeUnc = true) := by
  constructor
  · intro h
    exact (locationFlags_iff s).mp h.flags
  · intro h
    have htimeUnc : s.marked .timeUnc = s.has .timeUnc := by
      simpa [GnssLocation.marked] using h
    exact {
      flags := (locationFlags_iff s).mpr h
      timestamp := carried_given _ _ _
      latLong := (carried_given _ _ _).pair (carried_given _ _ _)
      altitude := carried_given _ _ _
      speed := carried_given _ _ _
      bearing := carried_given _ _ _
      accuracy := carried_given _ _ _
      verticalAccuracy := carried_given _ _ _
      speedAccuracy := carried_given _ _ _
      bearingAccuracy := carried_given _ _ _
      techMask := copyFlags_eq _ _ _
      elapsedRealTime := carried_given _ _ _
      elapsedRealTimeUnc := carried_given _ _ _
      timeUnc := htimeUnc ▸ carried_given _ _ _ }

/-- A field that is converted has what it is to have, if the conversion is right. -/
theorem carried_converted {α β : Type} {valid : Bool} {f : α → β} {x : α} {y : β} (d : β)
    (h : valid = true → f x = y) : Carried valid y (given valid (f x) d) :=
  fun hvalid => (carried_given valid (f x) d hvalid).trans (h hvalid)

theorem carried_converted_iff {α β : Type} {valid : Bool} {f : α → β} {x : α} {y : β} (d : β) :
    Carried valid y (given valid (f x) d) ↔ (valid = true → f x = y) := by
  refine ⟨fun h hvalid => ?_, carried_converted d⟩
  rw [← h hvalid, carried_given valid (f x) d hvalid]

theorem three_toList {α : Type} (v : Vector α 3) : [v.get 0, v.get 1, v.get 2] = v.toList := by
  refine List.ext_getElem (by simp) fun i hi _ => ?_
  rw [Vector.getElem_toList]
  have hthree : i = 0 ∨ i = 1 ∨ i = 2 := by
    simp only [List.length_cons, List.length_nil] at hi
    omega
  rcases hthree with rfl | rfl | rfl <;> rfl

/-- The satellites in use have no block of their own. -/
theorem svUsedInPosition_iff (s : GnssLocation) (lists : List GnssMeasUsageInfoT × List UInt32) :
    Carried (s.markedInfo .gnssSvUsedData) s.svUsedInPosition
        (locReport s lists).svUsedInPosition ↔
      (s.hasInfo .gnssSvUsedData = true →
        s.hasInfo .numSvUsedInPosition = true ∨ s.svUsedInPosition = .none) := by
  refine forall_congr' fun _ => ?_
  change given (s.hasInfo .numSvUsedInPosition) s.svUsedInPosition .none = s.svUsedInPosition ↔ _
  cases s.hasInfo .numSvUsedInPosition with
  | true => simp [given]
  | false => simpa [given] using eq_comm

theorem locReport_faithful_iff (s : GnssLocation)
    (lists : List GnssMeasUsageInfoT × List UInt32) :
    InfoFaithful s (locReport s lists) ↔ InfoConvertible s := by
  constructor
  · intro h
    obtain ⟨hsession, hgptp⟩ := (extendedFlags_iff s).mp h.extendedFlags
    exact {
      northVelUnc := (reportFlags_iff s).mp h.locationInfoFlags
      horReliability := fun hon =>
        (parseIDLLocReliability_iff _).mp ((carried_converted_iff _).mp h.horReliability hon)
      verReliability := fun hon =>
        (parseIDLLocReliability_iff _).mp ((carried_converted_iff _).mp h.verReliability hon)
      gptpTime := hgptp
      sessionStatus := hsession
      timeUnc := (parseBasicLocationInfo_faithful_iff s).mp h.locInfo
      svUsed := (svUsedInPosition_iff s lists).mp h.svUsedInPosition
      drSolution := fun hon =>
        (parseIDLDrSolStatusMask_iff _).mp ((carried_converted_iff _).mp h.drSolutionStatusMask hon) }
  · intro h
    have hsession : s.markedInfo .sessionStatus = s.tested .sessionStatus := by
      simpa [GnssLocation.markedInfo, GnssLocation.tested] using h.sessionStatus
    have hgptp : s.markedInfo .gptpTimeUnc = s.tested .gptpTime := h.gptpTime.symm
    exact {
      locInfo := (parseBasicLocationInfo_faithful_iff s).mpr h.timeUnc
      locationInfoFlags := (reportFlags_iff s).mpr h.northVelUnc
      extendedFlags := (extendedFlags_iff s).mpr ⟨h.sessionStatus, h.gptpTime⟩
      altitudeMeanSeaLevel := carried_given _ _ _
      dop := (carried_given _ _ _).pair ((carried_given _ _ _).pair (carried_given _ _ _))
      extDop := (carried_given _ _ _).pair (carried_given _ _ _)
      magneticDeviation := carried_given _ _ _
      horReliability :=
        carried_converted _ fun hon => (parseIDLLocReliability_iff _).mpr (h.horReliability hon)
      verReliability :=
        carried_converted _ fun hon => (parseIDLLocReliability_iff _).mpr (h.verReliability hon)
      semiMajor := carried_given _ _ _
      semiMinor := carried_given _ _ _
      azimuth := carried_given _ _ _
      northStdDev := carried_given _ _ _
      eastStdDev := carried_given _ _ _
      northVel := carried_given _ _ _
      eastVel := carried_given _ _ _
      upVel := carried_given _ _ _
      northVelUnc := carried_given _ _ _
      eastVelUnc := carried_given _ _ _
      upVelUnc := carried_given _ _ _
      numSvUsedInPosition := carried_given _ _ _
      svUsedInPosition := (svUsedInPosition_iff s lists).mpr h.svUsed
      navSolutionMask := carried_converted _ fun _ => copyFlags_eq _ _ _
      posTechMask := carried_converted _ fun _ => copyFlags_eq _ _ _
      bodyFrameData := fun hon => by
        have hcopied : (locReport s lists).bodyFrameData = parseIDLBodyFrameData s.bodyFrameData :=
          carried_given (s.tested .posDynamicsData) _ _ hon
        rw [hcopied]
        exact parseIDLBodyFrameData_faithful s.bodyFrameData
      gnssSystemTime := parseGnssSystemTime_faithful s.gnssSystemTime
      leapSeconds := carried_given _ _ _
      calibrationConfidencePercent := carried_given _ _ _
      calibrationStatus := carried_converted _ fun _ => copyFlags_eq _ _ _
      locOutputEngType := carried_converted _ fun _ => parseIDLOutputEngine_eq _
      locOutputEngMask := carried_converted _ fun _ => copyFlags_eq _ _ _
      conformityIndex := carried_given _ _ _
      llaVrpBased := carried_given _ _ _
      enuVelocityVrpBased := fun hon =>
        (carried_given (s.tested .enuVelocityVrpBased) _ _ hon).trans (three_toList _)
      drSolutionStatusMask :=
        carried_converted _ fun hon => (parseIDLDrSolStatusMask_iff _).mpr (h.drSolution hon)
      altitudeAssumed := carried_given _ _ _
      sessionStatus := hsession ▸ carried_converted _ fun _ => parseIDLSessionStatus_eq _
      integrityRiskUsed := carried_given _ _ _
      protectAlongTrack := carried_given _ _ _
      protectCrossTrack := carried_given _ _ _
      protectVertical := carried_given _ _ _
      gptpTime := carried_given _ _ _
      gptpTimeUnc := hgptp ▸ carried_given _ _ _
      baseLineLength := carried_given _ _ _
      ageOfCorrection := carried_given _ _ _
      leapSecondsUnc := carried_given _ _ _
      reportInterval := carried_given _ _ _ }

/-! ## The lists -/

theorem listIf_inBounds {α : Type} (valid : Bool) (list : Logged (List α)) :
    (listIf valid list).InBounds ↔ (valid = true → list.InBounds) := by
  cases valid <;> simp [listIf]

theorem listIf_value {α : Type} {valid : Bool} (h : valid = true) (list : Logged (List α)) :
    (listIf valid list).value = list.value := by
  rw [listIf, if_pos h]

theorem parseIDLMeasUsageInfo_inBounds (infos : List GnssMeasUsageInfo) :
    (parseIDLMeasUsageInfo infos).InBounds :=
  append_pure_inBounds.mpr (Nat.min_le_left _ _)

theorem parseIDLMeasUsageInfo_value (infos : List GnssMeasUsageInfo) :
    (parseIDLMeasUsageInfo infos).value = (infos.take maxGnssMeas).map parseMeasUsage := by
  rw [parseIDLMeasUsageInfo, append_pure_value (Nat.min_le_left _ _), Nat.min_comm,
    ← List.take_eq_take_min, List.nil_append]

theorem parseIDLMeasUsageInfo_faithful_iff (infos : List GnssMeasUsageInfo) :
    ListFaithful UsageFaithful maxGnssMeas infos (parseIDLMeasUsageInfo infos).value ↔
      ∀ u ∈ infos.take maxGnssMeas, OneSignal u.gnssSignalType := by
  rw [parseIDLMeasUsageInfo_value, listFaithful_map]
  exact forall₂_congr fun u _ => parseMeasUsage_faithful_iff u

/-- With three stations, they are the first three. -/
theorem parseDgnssStationIds_faithful {ids : List UInt16} (h : 3 ≤ ids.length) :
    ListFaithful (fun id id' => id'.toNat = id.toNat) 3 ids (parseDgnssStationIds ids).value := by
  rw [parseDgnssStationIds, append_pure_value h, List.nil_append, listFaithful_map]
  exact fun id _ => UInt16.toNat_toUInt32 id

/-- **A position report** is faithful exactly if it can be converted. -/
theorem parseLocReport_faithful_iff (s : GnssLocation) :
    LocFaithful s (parseLocReport s) ↔ LocConvertible s := by
  have hbounds : (parseLocReport s).InBounds ↔
      (s.hasInfo .dgnssStationId = true → 3 ≤ s.dgnssStationId.length) := by
    rw [parseLocReport, Logged.inBounds_bind_pure, parseLocLists, Logged.inBounds_bind,
      Logged.inBounds_bind_pure, listIf_inBounds, listIf_inBounds]
    simp [parseIDLMeasUsageInfo_inBounds, parseDgnssStationIds, append_pure_inBounds,
      GnssLocation.tested]
  have hinfo := locReport_faithful_iff s (parseLocLists s).value
  have husage (hon : s.hasInfo .gnssSvUsedData = true) :
      (parseLocReport s).value.measUsageInfo = (parseIDLMeasUsageInfo s.measUsageInfo).value :=
    listIf_value hon _
  have hstations (hon : s.hasInfo .dgnssStationId = true) :
      (parseLocReport s).value.dgnssStationId = (parseDgnssStationIds s.dgnssStationId).value :=
    listIf_value hon _
  constructor
  · intro h
    refine ⟨hinfo.mp h.info, fun hon => ?_, hbounds.mp h.inBounds⟩
    rw [← parseIDLMeasUsageInfo_faithful_iff, ← husage hon]
    exact h.measUsageInfo hon
  · intro h
    refine ⟨hbounds.mpr h.stations, hinfo.mpr h.info, fun hon => ?_, fun hon => ?_⟩
    · rw [husage hon]
      exact (parseIDLMeasUsageInfo_faithful_iff _).mpr (h.signals hon)
    · rw [hstations hon]
      exact parseDgnssStationIds_faithful (h.stations hon)

end Fidl
end LocationStack
