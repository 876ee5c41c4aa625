import LocationStack.PbConv.Satellites

/-! # Measurements

A measurement is of one satellite; its flags say which of its fields are valid.  The message has
no bit for two of the flags and for three of the states.  The decoder takes the number of
measurements from the message without a look at the capacity of the array.
-/
namespace LocationStack
namespace PbConv

/-! ## Flags -/

/-- The message has no bit for the last two. -/
inductive GnssMeasurementsDataFlag
  | svId | svType | state | receivedSvTime | receivedSvTimeUncertainty | carrierToNoise
  | pseudorangeRate | pseudorangeRateUncertainty | adrState | adr | adrUncertainty
  | carrierFrequency | carrierCycles | carrierPhase | carrierPhaseUncertainty | multipathIndicator
  | signalToNoiseRatio | automaticGainControl | fullIsb | fullIsbUncertainty | cycleSlipCount
  | gnssSignalType | basebandCarrierToNoise | measCodeType | otherMeasCodeType | gloFrequency
  | satellitePvt
  deriving Repr, DecidableEq

def gnssMeasurementsDataFlags : FlagTable GnssMeasurementsDataFlag 32 where
  rows := [(.svId, 1), (.svType, 2), (.state, 4), (.receivedSvTime, 8),
    (.receivedSvTimeUncertainty, 0x10), (.carrierToNoise, 0x20), (.pseudorangeRate, 0x40),
    (.pseudorangeRateUncertainty, 0x80), (.adrState, 0x100), (.adr, 0x200),
    (.adrUncertainty, 0x400), (.carrierFrequency, 0x800), (.carrierCycles, 0x1000),
    (.carrierPhase, 0x2000), (.carrierPhaseUncertainty, 0x4000), (.multipathIndicator, 0x8000),
    (.signalToNoiseRatio, 0x10000), (.automaticGainControl, 0x20000), (.fullIsb, 0x40000),
    (.fullIsbUncertainty, 0x80000), (.cycleSlipCount, 0x100000), (.gnssSignalType, 0x200000),
    (.basebandCarrierToNoise, 0x400000), (.measCodeType, 0x800000),
    (.otherMeasCodeType, 0x1000000)]
  nonzero := by decide
  disjoint := by decide

def getPBMaskForGnssMeasurementsDataFlagsMask : Flags GnssMeasurementsDataFlag → BitVec 32 :=
  gnssMeasurementsDataFlags.write

def getGnssMeasurementsDataFlagsMaskFromPB : BitVec 32 → Flags GnssMeasurementsDataFlag :=
  gnssMeasurementsDataFlags.read

theorem getGnssMeasurementsDataFlagsMaskFromPB_getPBMask_iff (m : Flags GnssMeasurementsDataFlag) :
    getGnssMeasurementsDataFlagsMaskFromPB (getPBMaskForGnssMeasurementsDataFlagsMask m) = m ↔
      m .gloFrequency = false ∧ m .satellitePvt = false := by
  rw [getGnssMeasurementsDataFlagsMaskFromPB, getPBMaskForGnssMeasurementsDataFlagsMask,
    FlagTable.read_write_iff]
  constructor
  · intro h
    exact ⟨Bool.eq_false_iff.mpr fun hon => absurd (h .gloFrequency hon) (by decide),
      Bool.eq_false_iff.mpr fun hon => absurd (h .satellitePvt hon) (by decide)⟩
  · rintro ⟨hfrequency, hpvt⟩ f hf
    cases f with
    | gloFrequency => rw [hfrequency] at hf; cases hf
    | satellitePvt => rw [hpvt] at hf; cases hf
    | _ => decide

def getPBMaskForGnssMeasurementsStateMask : Flags GnssMeasurementsStateFlag → BitVec 32 :=
  gnssMeasurementsStates.write

/-- A state that the message has a bit for. -/
structure StateExpressible (m : Flags GnssMeasurementsStateFlag) : Prop where
  towKnown : m .towKnown = false
  gloTodKnown : m .gloTodKnown = false
  secondCodeLock : m .secondCodeLock = false

/-- The word is read as it is, with the numbers of the header. -/
theorem gnssMeasurementsStates_read_getPBMask_iff {h : Header} (hnum : h.SameNumbers)
    (m : Flags GnssMeasurementsStateFlag) :
    h.gnssMeasurementsStates.read (getPBMaskForGnssMeasurementsStateMask m) = m ↔
      StateExpressible m := by
  rw [getPBMaskForGnssMeasurementsStateMask,
    FlagTable.read_write_iff_of_rows hnum.gnssMeasurementsStates]
  constructor
  · intro h
    exact ⟨Bool.eq_false_iff.mpr fun hon => absurd (h .towKnown hon) (by decide),
      Bool.eq_false_iff.mpr fun hon => absurd (h .gloTodKnown hon) (by decide),
      Bool.eq_false_iff.mpr fun hon => absurd (h .secondCodeLock hon) (by decide)⟩
  · rintro ⟨htow, htod, hlock⟩ f hf
    cases f with
    | towKnown => rw [htow] at hf; cases hf
    | gloTodKnown => rw [htod] at hf; cases hf
    | secondCodeLock => rw [hlock] at hf; cases hf
    | _ => decide

inductive GnssMeasurementsAdrStateFlag
  | valid | reset | cycleSlip | halfCycleResolved
  deriving Repr, DecidableEq

def gnssMeasurementsAdrStates : FlagTable GnssMeasurementsAdrStateFlag 32 where
  rows := [(.valid, 1), (.reset, 2), (.cycleSlip, 4), (.halfCycleResolved, 8)]
  nonzero := by decide
  disjoint := by decide

def getPBMaskForGnssMeasurementsAdrStateMask : Flags GnssMeasurementsAdrStateFlag → BitVec 32 :=
  gnssMeasurementsAdrStates.write

def getGnssMeasurementsAdrStateMaskFromPB : BitVec 32 → Flags GnssMeasurementsAdrStateFlag :=
  gnssMeasurementsAdrStates.read

@[simp] theorem getGnssMeasurementsAdrStateMaskFromPB_getPBMaskForGnssMeasurementsAdrStateMask
    (m : Flags GnssMeasurementsAdrStateFlag) :
    getGnssMeasurementsAdrStateMaskFromPB (getPBMaskForGnssMeasurementsAdrStateMask m) = m :=
  gnssMeasurementsAdrStates.read_write (fun f => by cases f <;> decide) m

inductive GnssMeasurementsClockFlag
  | leapSecond | time | timeUncertainty | fullBias | bias | biasUncertainty | drift
  | driftUncertainty | hwClockDiscontinuityCount | elapsedRealTime | elapsedRealTimeUnc
  | elapsedGptpTime | elapsedGptpTimeUnc
  deriving Repr, DecidableEq

def gnssMeasurementsClockFlags : FlagTable GnssMeasurementsClockFlag 32 where
  rows := [(.leapSecond, 1), (.time, 2), (.timeUncertainty, 4), (.fullBias, 8), (.bias, 0x10),
    (.biasUncertainty, 0x20), (.drift, 0x40), (.driftUncertainty, 0x80),
    (.hwClockDiscontinuityCount, 0x100), (.elapsedRealTime, 0x200), (.elapsedRealTimeUnc, 0x400),
    (.elapsedGptpTime, 0x800), (.elapsedGptpTimeUnc, 0x1000)]
  nonzero := by decide
  disjoint := by decide

def getPBMaskForGnssMeasurementsClockFlagsMask : Flags GnssMeasurementsClockFlag → BitVec 32 :=
  gnssMeasurementsClockFlags.write

def getGnssMeasurementsClockFlagsMaskFromPB : BitVec 32 → Flags GnssMeasurementsClockFlag :=
  gnssMeasurementsClockFlags.read

@[simp] theorem getGnssMeasurementsClockFlagsMaskFromPB_getPBMaskForGnssMeasurementsClockFlagsMask
    (m : Flags GnssMeasurementsClockFlag) :
    getGnssMeasurementsClockFlagsMaskFromPB (getPBMaskForGnssMeasurementsClockFlagsMask m) = m :=
  gnssMeasurementsClockFlags.read_write (fun f => by cases f <;> decide) m

/-! ## One measurement -/

inductive GnssMeasurementsMultipathIndicator
  | unknown | present | notPresent
  deriving Repr, DecidableEq, Inhabited

inductive PBGnssMeasurementsMultipathIndicator
  | unknown | present | notPresent
  | unrecognized (value : BitVec 32)
  deriving Repr, DecidableEq, Inhabited

def getPBEnumForGnssMeasMultiPathIndic :
    GnssMeasurementsMultipathIndicator → PBGnssMeasurementsMultipathIndicator
  | .unknown => .unknown
  | .present => .present
  | .notPresent => .notPresent

def getEnumForPBGnssMeasMultipathIndic :
    PBGnssMeasurementsMultipathIndicator → GnssMeasurementsMultipathIndicator
  | .unknown => .unknown
  | .present => .present
  | .notPresent => .notPresent
  | .unrecognized _ => .unknown

@[simp] theorem getEnumForPBGnssMeasMultipathIndic_getPBEnumForGnssMeasMultiPathIndic
    (e : GnssMeasurementsMultipathIndicator) :
    getEnumForPBGnssMeasMultipathIndic (getPBEnumForGnssMeasMultiPathIndic e) = e := by
  cases e <;> rfl

inductive GnssMeasurementsCodeType
  | other | a | b | c | i | l | m | p | q | s | w | x | y | z | n | d | e
  deriving Repr, DecidableEq, Inhabited

inductive PBGnssMeasurementsCodeType
  | other | a | b | c | i | l | m | p | q | s | w | x | y | z | n | d | e
  | unrecognized (value : BitVec 32)
  deriving Repr, DecidableEq, Inhabited

def getPBMeasCodeType : GnssMeasurementsCodeType → PBGnssMeasurementsCodeType
  | .other => .other
  | .a => .a
  | .b => .b
  | .c => .c
  | .i => .i
  | .l => .l
  | .m => .m
  | .p => .p
  | .q => .q
  | .s => .s
  | .w => .w
  | .x => .x
  | .y => .y
  | .z => .z
  | .n => .n
  | .d => .d
  | .e => .e

def getMeasCodeTypeFromPB : PBGnssMeasurementsCodeType → GnssMeasurementsCodeType
  | .other => .other
  | .a => .a
  | .b => .b
  | .c => .c
  | .i => .i
  | .l => .l
  | .m => .m
  | .p => .p
  | .q => .q
  | .s => .s
  | .w => .w
  | .x => .x
  | .y => .y
  | .z => .z
  | .n => .n
  | .d => .d
  | .e => .e
  | .unrecognized _ => .other

@[simp] theorem getMeasCodeTypeFromPB_getPBMeasCodeType (code : GnssMeasurementsCodeType) :
    getMeasCodeTypeFromPB (getPBMeasCodeType code) = code := by
  cases code <;> rfl

/-- The fields that are copied one by one. -/
structure GnssMeasurementsFields where
  svId : Int16
  svType : GnssSvType
  timeOffsetNs : Double
  (receivedSvTimeNs receivedSvTimeUncertaintyNs : Int64)
  (carrierToNoiseDbHz pseudorangeRateMps pseudorangeRateUncertaintyMps : Double)
  adrStateMask : Flags GnssMeasurementsAdrStateFlag
  (adrMeters adrUncertaintyMeters : Double)
  carrierFrequencyHz : Single
  carrierCycles : Int64
  (carrierPhase carrierPhaseUncertainty : Double)
  multipathIndicator : GnssMeasurementsMultipathIndicator
  (signalToNoiseRatioDb agcLevelDb basebandCarrierToNoiseDbHz : Double)
  gnssSignalType : Flags GnssSignalTypeFlag
  (fullInterSignalBiasNs fullInterSignalBiasUncertaintyNs : Double)
  cycleSlipCount : UInt8
  receivedSvTimeSubNs : Single
  codeType : GnssMeasurementsCodeType
  deriving Inhabited

structure PBGnssMeasurementsFields where
  svId : Int32
  svType : PBGnssLocSvSystemEnumType
  timeOffsetNs : Double
  (receivedSvTimeNs receivedSvTimeUncertaintyNs : Int64)
  (carrierToNoiseDbHz pseudorangeRateMps pseudorangeRateUncertaintyMps : Double)
  adrStateMask : BitVec 32
  (adrMeters adrUncertaintyMeters : Double)
  carrierFrequencyHz : Single
  carrierCycles : Int64
  (carrierPhase carrierPhaseUncertainty : Double)
  multipathIndicator : PBGnssMeasurementsMultipathIndicator
  (signalToNoiseRatioDb agcLevelDb basebandCarrierToNoiseDbHz : Double)
  gnssSignalType : BitVec 32
  (fullInterSignalBiasNs fullInterSignalBiasUncertaintyNs : Double)
  cycleSlipCount : UInt32
  receivedSvTimeSubNs : Single
  codeType : PBGnssMeasurementsCodeType
  deriving Inhabited

def convertGnssMeasFieldsToPB (fields : GnssMeasurementsFields) : PBGnssMeasurementsFields where
  svId := fields.svId.toInt32
  svType := getPBGnssLocSvSysEnumFromGnssSvType fields.svType
  timeOffsetNs := fields.timeOffsetNs
  receivedSvTimeNs := fields.receivedSvTimeNs
  receivedSvTimeUncertaintyNs := fields.receivedSvTimeUncertaintyNs
  carrierToNoiseDbHz := fields.carrierToNoiseDbHz
  pseudorangeRateMps := fields.pseudorangeRateMps
  pseudorangeRateUncertaintyMps := fields.pseudorangeRateUncertaintyMps
  adrStateMask := getPBMaskForGnssMeasurementsAdrStateMask fields.adrStateMask
  adrMeters := fields.adrMeters
  adrUncertaintyMeters := fields.adrUncertaintyMeters
  carrierFrequencyHz := fields.carrierFrequencyHz
  carrierCycles := fields.carrierCycles
  carrierPhase := fields.carrierPhase
  carrierPhaseUncertainty := fields.carrierPhaseUncertainty
  multipathIndicator := getPBEnumForGnssMeasMultiPathIndic fields.multipathIndicator
  signalToNoiseRatioDb := fields.signalToNoiseRatioDb
  agcLevelDb := fields.agcLevelDb
  basebandCarrierToNoiseDbHz := fields.basebandCarrierToNoiseDbHz
  gnssSignalType := getPBMaskForGnssSignalTypeMask fields.gnssSignalType
  fullInterSignalBiasNs := fields.fullInterSignalBiasNs
  fullInterSignalBiasUncertaintyNs := fields.fullInterSignalBiasUncertaintyNs
  cycleSlipCount := fields.cycleSlipCount.toUInt32
  receivedSvTimeSubNs := fields.receivedSvTimeSubNs
  codeType := getPBMeasCodeType fields.codeType

def pbConvertToGnssMeasurementsFields (pb : PBGnssMeasurementsFields) : GnssMeasurementsFields where
  svId := pb.svId.toInt16
  svType := getGnssSvTypeFromPBGnssLocSvSystemEnumType pb.svType
  timeOffsetNs := pb.timeOffsetNs
  receivedSvTimeNs := pb.receivedSvTimeNs
  receivedSvTimeUncertaintyNs := pb.receivedSvTimeUncertaintyNs
  carrierToNoiseDbHz := pb.carrierToNoiseDbHz
  pseudorangeRateMps := pb.pseudorangeRateMps
  pseudorangeRateUncertaintyMps := pb.pseudorangeRateUncertaintyMps
  adrStateMask := getGnssMeasurementsAdrStateMaskFromPB pb.adrStateMask
  adrMeters := pb.adrMeters
  adrUncertaintyMeters := pb.adrUncertaintyMeters
  carrierFrequencyHz := pb.carrierFrequencyHz
  carrierCycles := pb.carrierCycles
  carrierPhase := pb.carrierPhase
  carrierPhaseUncertainty := pb.carrierPhaseUncertainty
  multipathIndicator := getEnumForPBGnssMeasMultipathIndic pb.multipathIndicator
  signalToNoiseRatioDb := pb.signalToNoiseRatioDb
  agcLevelDb := pb.agcLevelDb
  basebandCarrierToNoiseDbHz := pb.basebandCarrierToNoiseDbHz
  gnssSignalType := getGnssSignalTypeMaskFromPB pb.gnssSignalType
  fullInterSignalBiasNs := pb.fullInterSignalBiasNs
  fullInterSignalBiasUncertaintyNs := pb.fullInterSignalBiasUncertaintyNs
  cycleSlipCount := pb.cycleSlipCount.toUInt8
  receivedSvTimeSubNs := pb.receivedSvTimeSubNs
  codeType := getMeasCodeTypeFromPB pb.codeType

@[simp] theorem pbConvertToGnssMeasurementsFields_convertGnssMeasFieldsToPB
    (fields : GnssMeasurementsFields) :
    pbConvertToGnssMeasurementsFields (convertGnssMeasFieldsToPB fields) = fields := by
  simp only [pbConvertToGnssMeasurementsFields, convertGnssMeasFieldsToPB, Int16.toInt16_toInt32,
    getGnssSvTypeFromPBGnssLocSvSystemEnumType_getPBEnum,
    getGnssMeasurementsAdrStateMaskFromPB_getPBMaskForGnssMeasurementsAdrStateMask,
    getEnumForPBGnssMeasMultipathIndic_getPBEnumForGnssMeasMultiPathIndic,
    getGnssSignalTypeMaskFromPB_getPBMaskForGnssSignalTypeMask, UInt8.toUInt8_toUInt32,
    getMeasCodeTypeFromPB_getPBMeasCodeType]

structure GnssMeasurementsData (h : Header) extends GnssMeasurementsFields where
  flags : Flags GnssMeasurementsDataFlag
  stateMask : Flags GnssMeasurementsStateFlag
  otherCodeTypeName : Vector UInt8 h.otherCodeTypeName
  deriving Inhabited

structure PBGnssMeasurementsData extends PBGnssMeasurementsFields where
  flags : BitVec 32
  stateMask : BitVec 32
  otherCodeTypeName : List UInt8
  deriving Inhabited

variable {h : Header}

def convertGnssMeasDataToPB (gnssMeasData : GnssMeasurementsData h) : PBGnssMeasurementsData where
  toPBGnssMeasurementsFields := convertGnssMeasFieldsToPB gnssMeasData.toGnssMeasurementsFields
  flags := getPBMaskForGnssMeasurementsDataFlagsMask gnssMeasData.flags
  stateMask := getPBMaskForGnssMeasurementsStateMask gnssMeasData.stateMask
  otherCodeTypeName := cString gnssMeasData.otherCodeTypeName.toList

/-- The state is copied as it is. -/
def pbConvertToGnssMeasurementsData (pb : PBGnssMeasurementsData)
    (gnssMeasData : GnssMeasurementsData h) : Logged (GnssMeasurementsData h) := do
  let otherCodeTypeName ← strlcpy gnssMeasData.otherCodeTypeName pb.otherCodeTypeName
  pure
    { toGnssMeasurementsFields := pbConvertToGnssMeasurementsFields pb.toPBGnssMeasurementsFields
      flags := getGnssMeasurementsDataFlagsMaskFromPB pb.flags
      stateMask := h.gnssMeasurementsStates.read pb.stateMask
      otherCodeTypeName }

theorem inBounds_pbConvertToGnssMeasurementsData (pb : PBGnssMeasurementsData)
    (gnssMeasData : GnssMeasurementsData h) :
    (pbConvertToGnssMeasurementsData pb gnssMeasData).InBounds := by
  rw [pbConvertToGnssMeasurementsData, Logged.inBounds_bind]
  exact ⟨inBounds_strlcpy _ _, Logged.inBounds_pure _⟩

/-- The name has a NUL. -/
def GnssMeasurementsData.WithinCapacity (r : GnssMeasurementsData h) : Prop :=
  (cString r.otherCodeTypeName.toList).length < h.otherCodeTypeName

/-- The same measurement; the state has to be the same if its flag is on, the name up to its NUL. -/
structure GnssMeasurementsData.Same (r r' : GnssMeasurementsData h) : Prop where
  fields : r'.toGnssMeasurementsFields = r.toGnssMeasurementsFields
  flags : r'.flags = r.flags
  stateMask : r.flags .state = true → r'.stateMask = r.stateMask
  otherCodeTypeName : cString r'.otherCodeTypeName.toList = cString r.otherCodeTypeName.toList

/-- What a measurement has to avoid: the flags and, if they are valid, the states that the message
lacks. -/
structure GnssMeasurementsData.Expressible (r : GnssMeasurementsData h) : Prop where
  gloFrequency : r.flags .gloFrequency = false
  satellitePvt : r.flags .satellitePvt = false
  stateMask : r.flags .state = true → StateExpressible r.stateMask

/-- **A measurement survives** exactly if the message has its flags and its states. -/
theorem GnssMeasurementsData.same_iff (hnum : h.SameNumbers) {r : GnssMeasurementsData h}
    (hr : r.WithinCapacity) (old : GnssMeasurementsData h) :
    r.Same (pbConvertToGnssMeasurementsData (convertGnssMeasDataToPB r) old).value ↔
      r.Expressible := by
  constructor
  · intro hsame
    have hflags := (getGnssMeasurementsDataFlagsMaskFromPB_getPBMask_iff r.flags).mp hsame.flags
    exact ⟨hflags.1, hflags.2, fun hon =>
      (gnssMeasurementsStates_read_getPBMask_iff hnum r.stateMask).mp (hsame.stateMask hon)⟩
  · intro hexpr
    refine
      { fields := pbConvertToGnssMeasurementsFields_convertGnssMeasFieldsToPB _
        flags := (getGnssMeasurementsDataFlagsMaskFromPB_getPBMask_iff r.flags).mpr
          ⟨hexpr.gloFrequency, hexpr.satellitePvt⟩
        stateMask := fun hon =>
          (gnssMeasurementsStates_read_getPBMask_iff hnum _).mpr (hexpr.stateMask hon)
        otherCodeTypeName := cString_strlcpy_cString hr _ }

/-! ## A report of measurements -/

structure GnssMeasurementsClock where
  flags : Flags GnssMeasurementsClockFlag
  leapSecond : Int16
  timeNs : Int64
  timeUncertaintyNs : Double
  fullBiasNs : Int64
  (biasNs biasUncertaintyNs driftNsps driftUncertaintyNsps : Double)
  hwClockDiscontinuityCount : UInt32
  (elapsedRealTime elapsedRealTimeUnc elapsedgPTPTime elapsedgPTPTimeUnc : UInt64)
  deriving Inhabited

structure PBGnssMeasurementsClock where
  flags : BitVec 32
  leapSecond : Int32
  timeNs : Int64
  timeUncertaintyNs : Double
  fullBiasNs : Int64
  (biasNs biasUncertaintyNs driftNsps driftUncertaintyNsps : Double)
  hwClockDiscontinuityCount : UInt32
  (elapsedRealTime elapsedRealTimeUnc elapsedgPTPTime elapsedgPTPTimeUnc : UInt64)
  deriving Inhabited

def convertGnssMeasClockToPB (clock : GnssMeasurementsClock) : PBGnssMeasurementsClock where
  flags := getPBMaskForGnssMeasurementsClockFlagsMask clock.flags
  leapSecond := clock.leapSecond.toInt32
  timeNs := clock.timeNs
  timeUncertaintyNs := clock.timeUncertaintyNs
  fullBiasNs := clock.fullBiasNs
  biasNs := clock.biasNs
  biasUncertaintyNs := clock.biasUncertaintyNs
  driftNsps := clock.driftNsps
  driftUncertaintyNsps := clock.driftUncertaintyNsps
  hwClockDiscontinuityCount := clock.hwClockDiscontinuityCount
  elapsedRealTime := clock.elapsedRealTime
  elapsedRealTimeUnc := clock.elapsedRealTimeUnc
  elapsedgPTPTime := clock.elapsedgPTPTime
  elapsedgPTPTimeUnc := clock.elapsedgPTPTimeUnc

def pbConvertToGnssMeasurementsClock (pb : PBGnssMeasurementsClock) : GnssMeasurementsClock where
  flags := getGnssMeasurementsClockFlagsMaskFromPB pb.flags
  leapSecond := pb.leapSecond.toInt16
  timeNs := pb.timeNs
  timeUncertaintyNs := pb.timeUncertaintyNs
  fullBiasNs := pb.fullBiasNs
  biasNs := pb.biasNs
  biasUncertaintyNs := pb.biasUncertaintyNs
  driftNsps := pb.driftNsps
  driftUncertaintyNsps := pb.driftUncertaintyNsps
  hwClockDiscontinuityCount := pb.hwClockDiscontinuityCount
  elapsedRealTime := pb.elapsedRealTime
  elapsedRealTimeUnc := pb.elapsedRealTimeUnc
  elapsedgPTPTime := pb.elapsedgPTPTime
  elapsedgPTPTimeUnc := pb.elapsedgPTPTimeUnc

@[simp] theorem pbConvertToGnssMeasurementsClock_convertGnssMeasClockToPB
    (clock : GnssMeasurementsClock) :
    pbConvertToGnssMeasurementsClock (convertGnssMeasClockToPB clock) = clock := by
  simp only [pbConvertToGnssMeasurementsClock, convertGnssMeasClockToPB,
    getGnssMeasurementsClockFlagsMaskFromPB_getPBMaskForGnssMeasurementsClockFlagsMask,
    Int16.toInt16_toInt32]

structure GnssMeasurementsNotification (h : Header) where
  count : UInt32
  measurements : Vector (GnssMeasurementsData h) h.gnssMeasurementsMax
  clock : GnssMeasurementsClock
  isNhz : Bool
  (agcStatusL1 agcStatusL2 agcStatusL5 : AgcStatus)
  deriving Inhabited

structure PBGnssMeasurementsNotification where
  measurements : List PBGnssMeasurementsData
  clock : PBGnssMeasurementsClock
  isNhz : Bool
  (agcStatusL1 agcStatusL2 agcStatusL5 : PBAgcStatus)
  deriving Inhabited

def convertGnssMeasNotifToPB (gnssMeasNotif : GnssMeasurementsNotification h) :
    PBGnssMeasurementsNotification where
  measurements :=
    addAll gnssMeasNotif.count.toNat gnssMeasNotif.measurements convertGnssMeasDataToPB
  clock := convertGnssMeasClockToPB gnssMeasNotif.clock
  isNhz := gnssMeasNotif.isNhz
  agcStatusL1 := getPBEnumForAgcStatus gnssMeasNotif.agcStatusL1
  agcStatusL2 := getPBEnumForAgcStatus gnssMeasNotif.agcStatusL2
  agcStatusL5 := getPBEnumForAgcStatus gnssMeasNotif.agcStatusL5

/-- The size of the repeated field is stored without a look at the capacity. -/
def pbConvertToGnssMeasNotification (pb : PBGnssMeasurementsNotification)
    (gnssMeasNotif : GnssMeasurementsNotification h) :
    Logged (GnssMeasurementsNotification h) := do
  let count := UInt32.ofNat pb.measurements.length
  Logged.count count.toNat h.gnssMeasurementsMax
  let measurements ← Logged.fill count.toNat pb.measurements pbConvertToGnssMeasurementsData
    gnssMeasNotif.measurements
  pure
    { count
      measurements
      clock := pbConvertToGnssMeasurementsClock pb.clock
      isNhz := pb.isNhz
      agcStatusL1 := getEnumForPBAgcStatus pb.agcStatusL1
      agcStatusL2 := getEnumForPBAgcStatus pb.agcStatusL2
      agcStatusL5 := getEnumForPBAgcStatus pb.agcStatusL5 }

/-- There is room for the measurements. -/
def PBGnssMeasurementsNotification.Fits (h : Header) (pb : PBGnssMeasurementsNotification) : Prop :=
  uint32Size pb.measurements.length ≤ h.gnssMeasurementsMax

theorem inBounds_pbConvertToGnssMeasNotification (pb : PBGnssMeasurementsNotification)
    (gnssMeasNotif : GnssMeasurementsNotification h) :
    (pbConvertToGnssMeasNotification pb gnssMeasNotif).InBounds ↔ pb.Fits h := by
  have hconv : ∀ (pb : PBGnssMeasurementsData) (old : GnssMeasurementsData h),
      (pbConvertToGnssMeasurementsData pb old).InBounds ↔ True :=
    fun pb old => iff_true_intro (inBounds_pbConvertToGnssMeasurementsData pb old)
  have hsize : (UInt32.ofNat pb.measurements.length).toNat = uint32Size pb.measurements.length :=
    UInt32.toNat_ofNat'
  simp only [pbConvertToGnssMeasNotification, Logged.inBounds_bind, Logged.inBounds_count,
    Logged.inBounds_fill hconv, Logged.inBounds_pure, hsize]
  constructor
  · exact fun hbounds => hbounds.1
  · intro hfits
    exact ⟨hfits, ⟨uint32Size_le _, hfits, fun _ _ => trivial⟩, trivial⟩

/-- The number of measurements is within the capacity, and each of their names has a NUL. -/
structure GnssMeasurementsNotification.WithinCapacity (r : GnssMeasurementsNotification h) :
    Prop where
  count : r.count.toNat ≤ h.gnssMeasurementsMax
  measurements : ∀ i (hi : i < h.gnssMeasurementsMax), i < r.count.toNat →
    r.measurements[i].WithinCapacity

/-- The same measurements in the same order. -/
structure GnssMeasurementsNotification.Same (r r' : GnssMeasurementsNotification h) : Prop where
  count : r'.count = r.count
  measurements : ∀ i (hi : i < h.gnssMeasurementsMax), i < r.count.toNat →
    r.measurements[i].Same r'.measurements[i]
  clock : r'.clock = r.clock
  isNhz : r'.isNhz = r.isNhz
  agcStatusL1 : r'.agcStatusL1 = r.agcStatusL1
  agcStatusL2 : r'.agcStatusL2 = r.agcStatusL2
  agcStatusL5 : r'.agcStatusL5 = r.agcStatusL5

/-- **A report of measurements survives** exactly if each of its measurements does. -/
theorem GnssMeasurementsNotification.same_iff (hnum : h.SameNumbers)
    {r : GnssMeasurementsNotification h} (hr : r.WithinCapacity)
    (old : GnssMeasurementsNotification h) :
    r.Same (pbConvertToGnssMeasNotification (convertGnssMeasNotifToPB r) old).value ↔
      ∀ i (hi : i < h.gnssMeasurementsMax), i < r.count.toNat →
        r.measurements[i].Expressible := by
  have hcount : UInt32.ofNat (convertGnssMeasNotifToPB r).measurements.length = r.count := by
    rw [convertGnssMeasNotifToPB, length_addAll, UInt32.ofNat_toNat]
  have hget : ∀ i (hi : i < h.gnssMeasurementsMax), i < r.count.toNat →
      (pbConvertToGnssMeasNotification (convertGnssMeasNotifToPB r) old).value.measurements[i] =
        (pbConvertToGnssMeasurementsData (convertGnssMeasDataToPB r.measurements[i])
          old.measurements[i]).value := by
    intro i hi hlt
    have helem : (convertGnssMeasNotifToPB r).measurements.getD i default =
        convertGnssMeasDataToPB r.measurements[i] := by
      simp [convertGnssMeasNotifToPB, addAll, hlt, hi]
    simp only [pbConvertToGnssMeasNotification, Logged.value_bind, Logged.value_pure, hcount]
    rw [Logged.getElem_fill hr.count _ hi, if_pos hlt, helem]
  have hsame : ∀ i (hi : i < h.gnssMeasurementsMax) (hlt : i < r.count.toNat),
      r.measurements[i].Same (pbConvertToGnssMeasNotification
        (convertGnssMeasNotifToPB r) old).value.measurements[i] ↔
          r.measurements[i].Expressible := by
    intro i hi hlt
    rw [hget i hi hlt]
    exact GnssMeasurementsData.same_iff hnum (hr.measurements i hi hlt) _
  constructor
  · exact fun h i hi hlt => (hsame i hi hlt).mp (h.measurements i hi hlt)
  · intro hexpr
    exact ⟨hcount, fun i hi hlt => (hsame i hi hlt).mpr (hexpr i hi hlt),
      pbConvertToGnssMeasurementsClock_convertGnssMeasClockToPB r.clock, rfl,
      getEnumForPBAgcStatus_getPBEnumForAgcStatus r.agcStatusL1,
      getEnumForPBAgcStatus_getPBEnumForAgcStatus r.agcStatusL2,
      getEnumForPBAgcStatus_getPBEnumForAgcStatus r.agcStatusL5⟩

end PbConv
end LocationStack
