import LocationStack.Lib.FlagRename

/-! # The flag words of the FIDL reports

`LocLcaIdlConverter` converts each flag word of a report with an `if` for each flag, which ors the
bit of the flag of the same name into a new word.  The two headers give most flags the same bits, in
order from the lowest; one table then stands for both.  Three converters have slips: a line that
sets another flag, or a flag without a line.

An enumeration of the client API and the one of the FIDL have their values by name; a value that
only the FIDL has, its unknown one, is `none`.
-/
namespace LocationStack
namespace Fidl

/-- The bits of a `float` and of a `double`. -/
abbrev Single := BitVec 32
abbrev Double := BitVec 64

/-! ## Words without a slip -/

section
variable {F : Type} [DecidableEq F] {w : Nat}

/-- A converter with one line for each flag, in the order of their bits. -/
def copyFlags (names : List F) (h : names.length ≤ w) (word : BitVec w) : BitVec w :=
  (FlagTable.inOrder names h).rename (names.map fun f => (f, f))
    ((FlagTable.inOrder names h).read word)

/-- The flags of the same names: what such a converter is to give. -/
def namesakes (names : List F) (h : names.length ≤ w) (word : BitVec w) : BitVec w :=
  (FlagTable.inOrder names h).write ((FlagTable.inOrder names h).read word)

@[simp] theorem copyFlags_eq (names : List F) (h : names.length ≤ w) (word : BitVec w) :
    copyFlags names h word = namesakes names h word :=
  FlagTable.rename_each (FlagTable.forall_rows_inOrder.mpr fun _ hf => hf) _

end

inductive TechnologyFlag
  | gnss | cell | wifi | sensors | referenceLocation | injectedCoarsePosition | aflt | hybrid | ppe
  | veh | vis | propagated
  deriving DecidableEq

def technologyFlags : List TechnologyFlag :=
  [.gnss, .cell, .wifi, .sensors, .referenceLocation, .injectedCoarsePosition, .aflt, .hybrid, .ppe,
    .veh, .vis, .propagated]

def parseIDLPosTechMask : BitVec 32 → BitVec 32 := copyFlags technologyFlags (by decide)

inductive NavSolutionFlag
  | sbasCorrectionIono | sbasCorrectionFast | sbasCorrectionLong | sbasIntegrity
  | navCorrectionDgnss | navCorrectionRtk | navCorrectionPpp | navCorrectionRtkFixed
  | navCorrectionOnlySbasCorrectedSvUsed | navMmfAidedPosition
  deriving DecidableEq

def navSolutionFlags : List NavSolutionFlag :=
  [.sbasCorrectionIono, .sbasCorrectionFast, .sbasCorrectionLong, .sbasIntegrity,
    .navCorrectionDgnss, .navCorrectionRtk, .navCorrectionPpp, .navCorrectionRtkFixed,
    .navCorrectionOnlySbasCorrectedSvUsed, .navMmfAidedPosition]

def parseIDLNavSolutionMask : BitVec 32 → BitVec 32 := copyFlags navSolutionFlags (by decide)

inductive CalibrationFlag
  | rollNeeded | pitchNeeded | yawNeeded | odoNeeded | gyroNeeded | turnLow | turnMedium | turnHigh
  | linearAccelLow | linearAccelMedium | linearAccelHigh | linearMotionLow | linearMotionMedium
  | linearMotionHigh | staticLow | staticMedium | staticHigh
  deriving DecidableEq

def calibrationFlags : List CalibrationFlag :=
  [.rollNeeded, .pitchNeeded, .yawNeeded, .odoNeeded, .gyroNeeded, .turnLow, .turnMedium, .turnHigh,
    .linearAccelLow, .linearAccelMedium, .linearAccelHigh, .linearMotionLow, .linearMotionMedium,
    .linearMotionHigh, .staticLow, .staticMedium, .staticHigh]

def parseIDLCalibrationStatus : BitVec 32 → BitVec 32 := copyFlags calibrationFlags (by decide)

inductive EngineFlag
  | standardPositioning | deadReckoning | precisePositioning | vpPositioning
  deriving DecidableEq

def engineFlags : List EngineFlag :=
  [.standardPositioning, .deadReckoning, .precisePositioning, .vpPositioning]

def parseIDLEngMask : BitVec 32 → BitVec 32 := copyFlags engineFlags (by decide)

inductive SvOptionFlag
  | ephemer | almanac | usedInFix | carrierFrequency | gnssSignalType | basebandCarrierToNoise
  | elevation | azimuth
  deriving DecidableEq

def svOptionFlags : List SvOptionFlag :=
  [.ephemer, .almanac, .usedInFix, .carrierFrequency, .gnssSignalType, .basebandCarrierToNoise,
    .elevation, .azimuth]

theorem svOptionFlags_length : svOptionFlags.length ≤ 32 := by decide

def parseIDLSvOptionMask : BitVec 32 → BitVec 32 := copyFlags svOptionFlags svOptionFlags_length

/-- The client API has two more, for the type of the code, which the FIDL has not. -/
inductive MeasFlag
  | svId | svType | state | receivedSvTime | receivedSvTimeUncertainty | carrierToNoise
  | pseudorangeRate | pseudorangeRateUncertainty | adrState | adr | adrUncertainty
  | carrierFrequency | carrierCycles | carrierPhase | carrierPhaseUncertainty | multipathIndicator
  | signalToNoiseRatio | automaticGainControl | fullIsb | fullIsbUncertainty | cycleSlipCount
  | gnssSignalType | basebandCarrierToNoise
  deriving DecidableEq

def measFlags : List MeasFlag :=
  [.svId, .svType, .state, .receivedSvTime, .receivedSvTimeUncertainty, .carrierToNoise,
    .pseudorangeRate, .pseudorangeRateUncertainty, .adrState, .adr, .adrUncertainty,
    .carrierFrequency, .carrierCycles, .carrierPhase, .carrierPhaseUncertainty,
    .multipathIndicator, .signalToNoiseRatio, .automaticGainControl, .fullIsb,
    .fullIsbUncertainty, .cycleSlipCount, .gnssSignalType, .basebandCarrierToNoise]

theorem measFlags_length : measFlags.length ≤ 32 := by decide

def parseIDLMeasFlags : BitVec 32 → BitVec 32 := copyFlags measFlags measFlags_length

inductive DataFlag
  | jammerInd | agc
  deriving DecidableEq

def dataFlags : List DataFlag := [.jammerInd, .agc]

def parseIDLDataMask : BitVec 32 → BitVec 32 := copyFlags dataFlags (by decide)

/-! ## Words with slips -/

inductive DrSolutionFlag
  | vehicleSensorSpeedInputDetected | vehicleSensorSpeedInputUsed | warningUncalibrated
  | warningGnssQualityInsufficient | warningFerryDetected | error6dofSensorUnavailable
  | errorVehicleSpeedUnavailable | errorGnssEphUnavailable | errorGnssMeasUnavailable
  | warningInitPositionInvalid | warningInitPositionUnreliable | warningPositonUnreliable
  | errorGeneric | warningSensorTempOutOfRange | warningUserDynamicsInsufficient
  | warningFactoryDataInconsistent | warningMmfUnavailable | warningMmfNotUsable
  deriving DecidableEq

def drSolutionFlags : FlagTable DrSolutionFlag 32 :=
  .inOrder [.vehicleSensorSpeedInputDetected, .vehicleSensorSpeedInputUsed, .warningUncalibrated,
    .warningGnssQualityInsufficient, .warningFerryDetected, .error6dofSensorUnavailable,
    .errorVehicleSpeedUnavailable, .errorGnssEphUnavailable, .errorGnssMeasUnavailable,
    .warningInitPositionInvalid, .warningInitPositionUnreliable, .warningPositonUnreliable,
    .errorGeneric, .warningSensorTempOutOfRange, .warningUserDynamicsInsufficient,
    .warningFactoryDataInconsistent, .warningMmfUnavailable, .warningMmfNotUsable] (by decide)

/-- No line for `warningInitPositionUnreliable`. -/
def drSolutionLines : List (DrSolutionFlag × DrSolutionFlag) :=
  [(.vehicleSensorSpeedInputDetected, .vehicleSensorSpeedInputDetected),
    (.vehicleSensorSpeedInputUsed, .vehicleSensorSpeedInputUsed),
    (.warningUncalibrated, .warningUncalibrated),
    (.warningGnssQualityInsufficient, .warningGnssQualityInsufficient),
    (.warningFerryDetected, .warningFerryDetected),
    (.error6dofSensorUnavailable, .error6dofSensorUnavailable),
    (.errorVehicleSpeedUnavailable, .errorVehicleSpeedUnavailable),
    (.errorGnssEphUnavailable, .errorGnssEphUnavailable),
    (.errorGnssMeasUnavailable, .errorGnssMeasUnavailable),
    (.warningInitPositionInvalid, .warningInitPositionInvalid),
    (.warningPositonUnreliable, .warningPositonUnreliable), (.errorGeneric, .errorGeneric),
    (.warningSensorTempOutOfRange, .warningSensorTempOutOfRange),
    (.warningUserDynamicsInsufficient, .warningUserDynamicsInsufficient),
    (.warningFactoryDataInconsistent, .warningFactoryDataInconsistent),
    (.warningMmfUnavailable, .warningMmfUnavailable), (.warningMmfNotUsable, .warningMmfNotUsable)]

def parseIDLDrSolStatusMask (word : BitVec 32) : BitVec 32 :=
  drSolutionFlags.rename drSolutionLines (drSolutionFlags.read word)

theorem parseIDLDrSolStatusMask_iff (word : BitVec 32) :
    parseIDLDrSolStatusMask word = drSolutionFlags.write (drSolutionFlags.read word) ↔
      drSolutionFlags.read word .warningInitPositionUnreliable = false := by
  rw [parseIDLDrSolStatusMask, FlagTable.rename_eq_write_iff_of_slips
    [.warningInitPositionUnreliable] (by decide) (by decide) (by decide) (by decide)]
  exact List.forall_mem_singleton

inductive ClockFlag
  | leapSecond | time | timeUncertainty | fullBias | bias | biasUncertainty | drift
  | driftUncertainty | hwClockDiscontinuityCount | elapsedRealTime | elapsedRealTimeUnc
  | elapsedGptpTime | elapsedGptpTimeUnc
  deriving DecidableEq

def clockFlags : FlagTable ClockFlag 32 :=
  .inOrder [.leapSecond, .time, .timeUncertainty, .fullBias, .bias, .biasUncertainty, .drift,
    .driftUncertainty, .hwClockDiscontinuityCount, .elapsedRealTime, .elapsedRealTimeUnc,
    .elapsedGptpTime, .elapsedGptpTimeUnc] (by decide)

/-- No line for `timeUncertainty`; those for the elapsed real time set the flags of the gPTP
time. -/
def clockLines : List (ClockFlag × ClockFlag) :=
  [(.leapSecond, .leapSecond), (.time, .time), (.fullBias, .fullBias), (.bias, .bias),
    (.biasUncertainty, .biasUncertainty), (.drift, .drift), (.driftUncertainty, .driftUncertainty),
    (.hwClockDiscontinuityCount, .hwClockDiscontinuityCount), (.elapsedRealTime, .elapsedGptpTime),
    (.elapsedRealTimeUnc, .elapsedGptpTimeUnc), (.elapsedGptpTime, .elapsedGptpTime),
    (.elapsedGptpTimeUnc, .elapsedGptpTimeUnc)]

def parseGnssClkFlags (word : BitVec 32) : BitVec 32 :=
  clockFlags.rename clockLines (clockFlags.read word)

/-- The flags that `parseGnssClkFlags` loses. -/
def lostClockFlags : List ClockFlag := [.timeUncertainty, .elapsedRealTime, .elapsedRealTimeUnc]

theorem parseGnssClkFlags_iff (word : BitVec 32) :
    parseGnssClkFlags word = clockFlags.write (clockFlags.read word) ↔
      ∀ f ∈ lostClockFlags, clockFlags.read word f = false :=
  FlagTable.rename_eq_write_iff_of_slips lostClockFlags (by decide) (by decide) (by decide)
    (by decide) _

/-- A measurement whose state is unknown has none of them. -/
inductive StateFlag
  | codeLock | bitSync | subframeSync | towDecoded | msecAmbiguous | symbolSync | gloStringSync
  | gloTodDecoded | bdsD2BitSync | bdsD2SubframeSync | galE1bcCodeLock | galE1c2ndCodeLock
  | galE1bPageSync | sbasSync
  deriving DecidableEq

def stateFlags : FlagTable StateFlag 32 :=
  .inOrder [.codeLock, .bitSync, .subframeSync, .towDecoded, .msecAmbiguous, .symbolSync,
    .gloStringSync, .gloTodDecoded, .bdsD2BitSync, .bdsD2SubframeSync, .galE1bcCodeLock,
    .galE1c2ndCodeLock, .galE1bPageSync, .sbasSync] (by decide)

/-- The line for `subframeSync` sets the flag of the BeiDou subframes. -/
def stateLines : List (StateFlag × StateFlag) :=
  [(.codeLock, .codeLock), (.bitSync, .bitSync), (.subframeSync, .bdsD2SubframeSync),
    (.towDecoded, .towDecoded), (.msecAmbiguous, .msecAmbiguous), (.symbolSync, .symbolSync),
    (.gloStringSync, .gloStringSync), (.gloTodDecoded, .gloTodDecoded),
    (.bdsD2BitSync, .bdsD2BitSync), (.bdsD2SubframeSync, .bdsD2SubframeSync),
    (.galE1bcCodeLock, .galE1bcCodeLock), (.galE1c2ndCodeLock, .galE1c2ndCodeLock),
    (.galE1bPageSync, .galE1bPageSync), (.sbasSync, .sbasSync)]

/-- The flag of an unknown state is zero on both sides, and its line sets nothing. -/
def parseIDLStateMask (word : BitVec 32) : BitVec 32 :=
  stateFlags.rename stateLines (stateFlags.read word)

theorem parseIDLStateMask_iff (word : BitVec 32) :
    parseIDLStateMask word = stateFlags.write (stateFlags.read word) ↔
      stateFlags.read word .subframeSync = false := by
  rw [parseIDLStateMask, FlagTable.rename_eq_write_iff_of_slips [.subframeSync] (by decide)
    (by decide) (by decide) (by decide)]
  exact List.forall_mem_singleton

inductive AdrStateFlag
  | valid | reset | cycleSlip | halfCycleResolved
  deriving DecidableEq

def adrStateFlags : FlagTable AdrStateFlag 32 :=
  .inOrder [.valid, .reset, .cycleSlip, .halfCycleResolved] (by decide)

/-- The line for `cycleSlip` sets the flag of the half cycle. -/
def adrStateLines : List (AdrStateFlag × AdrStateFlag) :=
  [(.valid, .valid), (.reset, .reset), (.cycleSlip, .halfCycleResolved),
    (.halfCycleResolved, .halfCycleResolved)]

def parseIDLAdrStateMask (word : BitVec 32) : BitVec 32 :=
  adrStateFlags.rename adrStateLines (adrStateFlags.read word)

theorem parseIDLAdrStateMask_iff (word : BitVec 32) :
    parseIDLAdrStateMask word = adrStateFlags.write (adrStateFlags.read word) ↔
      adrStateFlags.read word .cycleSlip = false := by
  rw [parseIDLAdrStateMask, FlagTable.rename_eq_write_iff_of_slips [.cycleSlip] (by decide)
    (by decide) (by decide) (by decide)]
  exact List.forall_mem_singleton

/-! ## The type of a signal -/

inductive SignalType
  | gpsL1ca | gpsL1c | gpsL2 | gpsL5 | glonassG1 | glonassG2 | galileoE1 | galileoE5a | galileoE5b
  | beidouB1 | beidouB2 | qzssL1ca | qzssL1s | qzssL2 | qzssL5 | sbasL1 | beidouB1i | beidouB1c
  | beidouB2i | beidouB2ai | navicL5 | beidouB2aq | beidouB2bi | beidouB2bq | navicL1
  deriving DecidableEq

def signalTypes : List SignalType :=
  [.gpsL1ca, .gpsL1c, .gpsL2, .gpsL5, .glonassG1, .glonassG2, .galileoE1, .galileoE5a, .galileoE5b,
    .beidouB1, .beidouB2, .qzssL1ca, .qzssL1s, .qzssL2, .qzssL5, .sbasL1, .beidouB1i, .beidouB1c,
    .beidouB2i, .beidouB2ai, .navicL5, .beidouB2aq, .beidouB2bi, .beidouB2bq, .navicL1]

def signalTypeFlags : FlagTable SignalType 32 := .inOrder signalTypes (by decide)

/-- Each of the flags that is on takes the place of those before it. -/
def parseIDLSignalType (word : BitVec 32) : Option SignalType :=
  signalTypes.foldl (fun signal s => if signalTypeFlags.read word s then some s else signal) none

/-- **The signal has the name of the flag**: it is the one that is on, and there is no other. -/
def SignalNamed (word : BitVec 32) (signal : Option SignalType) : Prop :=
  ∀ s, signalTypeFlags.read word s = true ↔ signal = some s

/-- No two flags are on. -/
def OneSignal (word : BitVec 32) : Prop :=
  ∀ s s', signalTypeFlags.read word s = true → signalTypeFlags.read word s' = true → s = s'

/-- The last of a list for which a test holds. -/
theorem foldl_last {α : Type} (on : α → Bool) (l : List α) (signal : Option α) :
    l.foldl (fun signal s => if on s then some s else signal) signal =
      ((l.reverse.find? on).or signal) := by
  induction l generalizing signal with
  | nil => rfl
  | cons a l ih =>
    rw [List.foldl_cons, ih, List.reverse_cons, List.find?_append]
    cases l.reverse.find? on with
    | some s => rfl
    | none => cases h : on a <;> simp [h]

theorem mem_signalTypes (s : SignalType) : s ∈ signalTypes := by
  cases s <;> decide

theorem parseIDLSignalType_iff (word : BitVec 32) :
    SignalNamed word (parseIDLSignalType word) ↔ OneSignal word := by
  have hlast : parseIDLSignalType word =
      signalTypes.reverse.find? (signalTypeFlags.read word) := by
    rw [parseIDLSignalType, foldl_last, Option.or_none]
  constructor
  · intro h s s' hs hs'
    exact Option.some.inj (((h s).mp hs).symm.trans ((h s').mp hs'))
  · intro h s
    rw [hlast]
    constructor
    · intro hs
      obtain ⟨s', hfind⟩ := Option.isSome_iff_exists.mp
        (List.find?_isSome.mpr ⟨s, List.mem_reverse.mpr (mem_signalTypes s), hs⟩)
      rw [hfind, h s s' hs (List.find?_some hfind)]
    · exact List.find?_some

end Fidl
end LocationStack
