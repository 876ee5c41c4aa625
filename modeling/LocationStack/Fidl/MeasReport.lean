import LocationStack.Fidl.ReportParts

/-! # Reports of satellites, measurements and signals

`parseSvReport`, `parseMeasurements` and `parseGnssData` copy every field, valid or not.  What they
get wrong is in the words: flags that are lost, and a signal type that has one flag of many; a
number of a satellite that is negative; and lists that are longer than the FIDL declares.
-/
namespace LocationStack
namespace Fidl

/-- The largest number of satellites of a report, and of measurements. -/
def maxSvs : Nat := 176

/-- A list that is not cut is faithful if it is short enough. -/
theorem listFaithful_uncut {α β : Type} {P : α → β → Prop} {f : α → β} {max : Nat} {s : List α} :
    ListFaithful P max s (s.map f) ↔ s.length ≤ max ∧ ∀ a ∈ s, P a (f a) := by
  constructor
  · intro h
    have hlength : s.length ≤ max := by
      have heq := h.length_eq
      rw [List.length_take, List.length_map] at heq
      omega
    rw [ListFaithful, List.take_of_length_le hlength, List.forall₂_map_right_iff,
      List.forall₂_same] at h
    exact ⟨hlength, h⟩
  · rintro ⟨hlength, h⟩
    rw [ListFaithful, List.take_of_length_le hlength, List.forall₂_map_right_iff, List.forall₂_same]
    exact h

inductive SvType
  | unknown | gps | sbas | glonass | qzss | beidou | galileo | navic
  deriving DecidableEq

def parseIDLSvType : SvType → SvType
  | .gps => .gps
  | .sbas => .sbas
  | .glonass => .glonass
  | .qzss => .qzss
  | .galileo => .galileo
  | .navic => .navic
  | .beidou => .beidou
  | _ => .unknown

theorem parseIDLSvType_eq (t : SvType) : parseIDLSvType t = t := by
  cases t <;> rfl

/-! ## Satellites -/

structure GnssSv where
  svId : UInt16
  type : SvType
  (cN0Dbhz elevation azimuth : Single)
  gnssSvOptionsMask : BitVec 32
  carrierFrequencyHz : Single
  gnssSignalTypeMask : BitVec 32
  basebandCarrierToNoiseDbHz : Double
  gloFrequency : UInt16

structure GnssSvDataT where
  svId : UInt32
  type : SvType
  (cN0DbHz elevation azimuth : Single)
  gnssSvOptionsMask : BitVec 32
  carrierFrequencyHz : Single
  gnssSignalType : Option SignalType
  basebandCarrierToNoiseDbHz : Double
  gloFrequency : UInt32

def parseSvReport (sv : GnssSv) : GnssSvDataT where
  svId := sv.svId.toUInt32
  type := parseIDLSvType sv.type
  cN0DbHz := sv.cN0Dbhz
  elevation := sv.elevation
  azimuth := sv.azimuth
  gnssSvOptionsMask := parseIDLSvOptionMask sv.gnssSvOptionsMask
  carrierFrequencyHz := sv.carrierFrequencyHz
  gnssSignalType := parseIDLSignalType sv.gnssSignalTypeMask
  basebandCarrierToNoiseDbHz := sv.basebandCarrierToNoiseDbHz
  gloFrequency := sv.gloFrequency.toUInt32

/-- `handleGnssSvReport`, up to the event. -/
def handleGnssSvReport (svs : List GnssSv) : List GnssSvDataT := svs.map parseSvReport

def GnssSv.has (sv : GnssSv) (f : SvOptionFlag) : Bool :=
  (FlagTable.inOrder svOptionFlags svOptionFlags_length).read sv.gnssSvOptionsMask f

structure SvFaithful (s : GnssSv) (t : GnssSvDataT) : Prop where
  svId : t.svId.toNat = s.svId.toNat
  type : t.type = s.type
  cN0DbHz : t.cN0DbHz = s.cN0Dbhz
  elevation : Carried (s.has .elevation) s.elevation t.elevation
  azimuth : Carried (s.has .azimuth) s.azimuth t.azimuth
  options : t.gnssSvOptionsMask = namesakes svOptionFlags (by decide) s.gnssSvOptionsMask
  carrierFrequencyHz : Carried (s.has .carrierFrequency) s.carrierFrequencyHz t.carrierFrequencyHz
  gnssSignalType : s.has .gnssSignalType = true → SignalNamed s.gnssSignalTypeMask t.gnssSignalType
  basebandCarrierToNoiseDbHz : Carried (s.has .basebandCarrierToNoise)
    s.basebandCarrierToNoiseDbHz t.basebandCarrierToNoiseDbHz
  gloFrequency : t.gloFrequency.toNat = s.gloFrequency.toNat

theorem parseSvReport_faithful_iff (sv : GnssSv) :
    SvFaithful sv (parseSvReport sv) ↔
      (sv.has .gnssSignalType = true → OneSignal sv.gnssSignalTypeMask) := by
  constructor
  · intro h hon
    exact (parseIDLSignalType_iff _).mp (h.gnssSignalType hon)
  · intro h
    exact {
      svId := UInt16.toNat_toUInt32 _
      type := parseIDLSvType_eq _
      cN0DbHz := rfl
      elevation := fun _ => rfl
      azimuth := fun _ => rfl
      options := copyFlags_eq _ _ _
      carrierFrequencyHz := fun _ => rfl
      gnssSignalType := fun hon => (parseIDLSignalType_iff _).mpr (h hon)
      basebandCarrierToNoiseDbHz := fun _ => rfl
      gloFrequency := UInt16.toNat_toUInt32 _ }

/-- **The list can be converted.** -/
def SvsConvertible (svs : List GnssSv) : Prop :=
  svs.length ≤ maxSvs ∧
    ∀ sv ∈ svs, sv.has .gnssSignalType = true → OneSignal sv.gnssSignalTypeMask

/-- **A report of satellites** is faithful exactly if it can be converted. -/
theorem handleGnssSvReport_faithful_iff (svs : List GnssSv) :
    ListFaithful SvFaithful maxSvs svs (handleGnssSvReport svs) ↔ SvsConvertible svs := by
  rw [handleGnssSvReport, listFaithful_uncut, SvsConvertible]
  exact and_congr_right fun _ => forall₂_congr fun sv _ => parseSvReport_faithful_iff sv

/-! ## Measurements -/

structure GnssMeasurementsClock where
  flags : BitVec 32
  leapSecond : Int16
  timeNs : Int64
  timeUncertaintyNs : Double
  fullBiasNs : Int64
  (biasNs biasUncertaintyNs driftNsps driftUncertaintyNsps : Double)
  hwClockDiscontinuityCount : UInt32
  (elapsedRealTime elapsedRealTimeUnc elapsedgPTPTime elapsedgPTPTimeUnc : UInt64)

structure GnssMeasurementsClockT where
  flags : BitVec 32
  leapSecond : Int32
  timeNs : Int64
  timeUncertaintyNs : Double
  fullBiasNs : Int64
  (biasNs biasUncertaintyNs driftNsps driftUncertaintyNsps : Double)
  hwClockDiscontinuityCount : UInt32
  (elapsedRealTime elapsedRealTimeUnc elapsedgPtpTime elapsedgPtpTimeUnc : UInt64)

def parseIDLMeasClockInfo (clock : GnssMeasurementsClock) : GnssMeasurementsClockT where
  flags := parseGnssClkFlags clock.flags
  leapSecond := clock.leapSecond.toInt32
  timeNs := clock.timeNs
  timeUncertaintyNs := clock.timeUncertaintyNs
  fullBiasNs := clock.fullBiasNs
  biasNs := clock.biasNs
  biasUncertaintyNs := clock.biasUncertaintyNs
  driftNsps := clock.driftNsps
  driftUncertaintyNsps := clock.driftUncertaintyNsps
  hwClockDiscontinuityCount := clock.hwClockDiscontinuityCount
  elapsedRealTime := clock.elapsedRealTime
  elapsedRealTimeUnc := clock.elapsedRealTimeUnc
  elapsedgPtpTime := clock.elapsedgPTPTime
  elapsedgPtpTimeUnc := clock.elapsedgPTPTimeUnc

structure ClockFaithful (s : GnssMeasurementsClock) (t : GnssMeasurementsClockT) : Prop where
  flags : t.flags = clockFlags.write (clockFlags.read s.flags)
  leapSecond : t.leapSecond.toInt = s.leapSecond.toInt
  time : (t.timeNs, t.timeUncertaintyNs) = (s.timeNs, s.timeUncertaintyNs)
  bias : (t.fullBiasNs, t.biasNs, t.biasUncertaintyNs) =
    (s.fullBiasNs, s.biasNs, s.biasUncertaintyNs)
  drift : (t.driftNsps, t.driftUncertaintyNsps) = (s.driftNsps, s.driftUncertaintyNsps)
  hwClockDiscontinuityCount : t.hwClockDiscontinuityCount = s.hwClockDiscontinuityCount
  elapsedRealTime : (t.elapsedRealTime, t.elapsedRealTimeUnc) =
    (s.elapsedRealTime, s.elapsedRealTimeUnc)
  elapsedgPtpTime : (t.elapsedgPtpTime, t.elapsedgPtpTimeUnc) =
    (s.elapsedgPTPTime, s.elapsedgPTPTimeUnc)

theorem parseIDLMeasClockInfo_faithful_iff (clock : GnssMeasurementsClock) :
    ClockFaithful clock (parseIDLMeasClockInfo clock) ↔
      ∀ f ∈ lostClockFlags, clockFlags.read clock.flags f = false := by
  constructor
  · intro h
    exact (parseGnssClkFlags_iff _).mp h.flags
  · intro h
    exact ⟨(parseGnssClkFlags_iff _).mpr h, Int16.toInt_toInt32 _, rfl, rfl, rfl, rfl, rfl, rfl⟩

inductive MultipathIndicator
  | unknown | present | notPresent
  deriving DecidableEq

def parseIDLMultiPathIndicator : MultipathIndicator → MultipathIndicator
  | .present => .present
  | .notPresent => .notPresent
  | _ => .unknown

theorem parseIDLMultiPathIndicator_eq (m : MultipathIndicator) :
    parseIDLMultiPathIndicator m = m := by
  cases m <;> rfl

structure GnssMeasurementsData where
  flags : BitVec 32
  svId : Int16
  svType : SvType
  timeOffsetNs : Double
  stateMask : BitVec 32
  receivedSvTimeNs : Int64
  receivedSvTimeSubNs : Single
  receivedSvTimeUncertaintyNs : Int64
  (carrierToNoiseDbHz pseudorangeRateMps pseudorangeRateUncertaintyMps : Double)
  adrStateMask : BitVec 32
  (adrMeters adrUncertaintyMeters : Double)
  carrierFrequencyHz : Single
  carrierCycles : Int64
  (carrierPhase carrierPhaseUncertainty : Double)
  multipathIndicator : MultipathIndicator
  (signalToNoiseRatioDb agcLevelDb basebandCarrierToNoiseDbHz : Double)
  gnssSignalType : BitVec 32
  (fullInterSignalBiasNs fullInterSignalBiasUncertaintyNs : Double)
  cycleSlipCount : UInt8

structure GnssMeasurementsDataT where
  flags : BitVec 32
  svId : UInt32
  svType : SvType
  timeOffsetNs : Double
  stateMask : BitVec 32
  receivedSvTimeNs : Int64
  receivedSvTimeSubNs : Single
  receivedSvTimeUncertaintyNs : Int64
  (carrierToNoiseDbHz pseudorangeRateMps pseudorangeRateUncertaintyMps : Double)
  adrStateMask : BitVec 32
  (adrMeters adrUncertaintyMeters : Double)
  carrierFrequencyHz : Single
  carrierCycles : Int64
  (carrierPhase carrierPhaseUncertainty : Double)
  multipathIndicator : MultipathIndicator
  (signalToNoiseRatioDb agcLevelDb basebandCarrierToNoiseDbHz : Double)
  gnssSignalType : Option SignalType
  (fullInterSignalBiasNs fullInterSignalBiasUncertaintyNs : Double)
  cycleSlipCount : UInt32

instance : Inhabited GnssMeasurementsData :=
  ⟨⟨0, 0, .unknown, 0, 0, 0, 0, 0, 0, 0, 0, 0, 0, 0, 0, 0, 0, 0, .unknown, 0, 0, 0, 0, 0, 0, 0⟩⟩

/-- The number of a satellite goes from two bytes with a sign to four without. -/
def parseMeas (meas : GnssMeasurementsData) : GnssMeasurementsDataT where
  flags := parseIDLMeasFlags meas.flags
  svId := meas.svId.toInt32.toUInt32
  svType := parseIDLSvType meas.svType
  timeOffsetNs := meas.timeOffsetNs
  stateMask := parseIDLStateMask meas.stateMask
  receivedSvTimeNs := meas.receivedSvTimeNs
  receivedSvTimeSubNs := meas.receivedSvTimeSubNs
  receivedSvTimeUncertaintyNs := meas.receivedSvTimeUncertaintyNs
  carrierToNoiseDbHz := meas.carrierToNoiseDbHz
  pseudorangeRateMps := meas.pseudorangeRateMps
  pseudorangeRateUncertaintyMps := meas.pseudorangeRateUncertaintyMps
  adrStateMask := parseIDLAdrStateMask meas.adrStateMask
  adrMeters := meas.adrMeters
  adrUncertaintyMeters := meas.adrUncertaintyMeters
  carrierFrequencyHz := meas.carrierFrequencyHz
  carrierCycles := meas.carrierCycles
  carrierPhase := meas.carrierPhase
  carrierPhaseUncertainty := meas.carrierPhaseUncertainty
  multipathIndicator := parseIDLMultiPathIndicator meas.multipathIndicator
  signalToNoiseRatioDb := meas.signalToNoiseRatioDb
  agcLevelDb := meas.agcLevelDb
  basebandCarrierToNoiseDbHz := meas.basebandCarrierToNoiseDbHz
  gnssSignalType := parseIDLSignalType meas.gnssSignalType
  fullInterSignalBiasNs := meas.fullInterSignalBiasNs
  fullInterSignalBiasUncertaintyNs := meas.fullInterSignalBiasUncertaintyNs
  cycleSlipCount := meas.cycleSlipCount.toUInt32

def parseIDLMeasData (meas : List GnssMeasurementsData) : Logged (List GnssMeasurementsDataT) :=
  Logged.append meas.length meas (fun m => pure (parseMeas m)) []

def GnssMeasurementsData.has (meas : GnssMeasurementsData) (f : MeasFlag) : Bool :=
  (FlagTable.inOrder measFlags measFlags_length).read meas.flags f

structure MeasFaithful (s : GnssMeasurementsData) (t : GnssMeasurementsDataT) : Prop where
  flags : t.flags = namesakes measFlags (by decide) s.flags
  svId : s.has .svId = true → (t.svId.toNat : Int) = s.svId.toInt
  svType : t.svType = s.svType
  timeOffsetNs : t.timeOffsetNs = s.timeOffsetNs
  stateMask : t.stateMask = stateFlags.write (stateFlags.read s.stateMask)
  receivedSvTime : (t.receivedSvTimeNs, t.receivedSvTimeSubNs, t.receivedSvTimeUncertaintyNs) =
    (s.receivedSvTimeNs, s.receivedSvTimeSubNs, s.receivedSvTimeUncertaintyNs)
  carrierToNoiseDbHz : t.carrierToNoiseDbHz = s.carrierToNoiseDbHz
  pseudorangeRate : (t.pseudorangeRateMps, t.pseudorangeRateUncertaintyMps) =
    (s.pseudorangeRateMps, s.pseudorangeRateUncertaintyMps)
  adrStateMask : t.adrStateMask = adrStateFlags.write (adrStateFlags.read s.adrStateMask)
  adr : (t.adrMeters, t.adrUncertaintyMeters) = (s.adrMeters, s.adrUncertaintyMeters)
  carrier : (t.carrierFrequencyHz, t.carrierCycles, t.carrierPhase, t.carrierPhaseUncertainty) =
    (s.carrierFrequencyHz, s.carrierCycles, s.carrierPhase, s.carrierPhaseUncertainty)
  multipathIndicator : t.multipathIndicator = s.multipathIndicator
  signalToNoiseRatioDb : t.signalToNoiseRatioDb = s.signalToNoiseRatioDb
  agcLevelDb : t.agcLevelDb = s.agcLevelDb
  basebandCarrierToNoiseDbHz : t.basebandCarrierToNoiseDbHz = s.basebandCarrierToNoiseDbHz
  gnssSignalType : s.has .gnssSignalType = true → SignalNamed s.gnssSignalType t.gnssSignalType
  fullInterSignalBias : (t.fullInterSignalBiasNs, t.fullInterSignalBiasUncertaintyNs) =
    (s.fullInterSignalBiasNs, s.fullInterSignalBiasUncertaintyNs)
  cycleSlipCount : t.cycleSlipCount.toNat = s.cycleSlipCount.toNat

/-- What a measurement needs. -/
structure MeasConvertible (s : GnssMeasurementsData) : Prop where
  svId : s.has .svId = true → 0 ≤ s.svId.toInt
  subframeSync : stateFlags.read s.stateMask .subframeSync = false
  cycleSlip : adrStateFlags.read s.adrStateMask .cycleSlip = false
  signal : s.has .gnssSignalType = true → OneSignal s.gnssSignalType

/-- A number without a sign keeps its value exactly if that is not negative. -/
theorem toNat_toUInt32_iff (x : Int16) :
    (x.toInt32.toUInt32.toNat : Int) = x.toInt ↔ 0 ≤ x.toInt := by
  have hword : x.toInt32.toUInt32.toNat = x.toInt32.toBitVec.toNat := rfl
  have hwide : x.toInt32.toBitVec.toInt = x.toInt := Int16.toInt_toInt32 x
  have hlt := x.toInt32.toBitVec.isLt
  rw [BitVec.toInt_eq_toNat_cond] at hwide
  rw [hword, ← hwide]
  split <;> omega

theorem parseMeas_faithful_iff (s : GnssMeasurementsData) :
    MeasFaithful s (parseMeas s) ↔ MeasConvertible s := by
  constructor
  · intro h
    exact {
      svId := fun hon => (toNat_toUInt32_iff _).mp (h.svId hon)
      subframeSync := (parseIDLStateMask_iff _).mp h.stateMask
      cycleSlip := (parseIDLAdrStateMask_iff _).mp h.adrStateMask
      signal := fun hon => (parseIDLSignalType_iff _).mp (h.gnssSignalType hon) }
  · intro h
    exact {
      flags := copyFlags_eq _ _ _
      svId := fun hon => (toNat_toUInt32_iff _).mpr (h.svId hon)
      svType := parseIDLSvType_eq _
      timeOffsetNs := rfl
      stateMask := (parseIDLStateMask_iff _).mpr h.subframeSync
      receivedSvTime := rfl
      carrierToNoiseDbHz := rfl
      pseudorangeRate := rfl
      adrStateMask := (parseIDLAdrStateMask_iff _).mpr h.cycleSlip
      adr := rfl
      carrier := rfl
      multipathIndicator := parseIDLMultiPathIndicator_eq _
      signalToNoiseRatioDb := rfl
      agcLevelDb := rfl
      basebandCarrierToNoiseDbHz := rfl
      gnssSignalType := fun hon => (parseIDLSignalType_iff _).mpr (h.signal hon)
      fullInterSignalBias := rfl
      cycleSlipCount := UInt8.toNat_toUInt32 _ }

structure GnssMeasurements where
  clock : GnssMeasurementsClock
  measurements : List GnssMeasurementsData
  isNhz : Bool

structure GnssMeasurementsT where
  clock : GnssMeasurementsClockT
  measurements : List GnssMeasurementsDataT
  isNHz : Bool

def parseMeasurements (meas : GnssMeasurements) : Logged GnssMeasurementsT := do
  let measurements ← parseIDLMeasData meas.measurements
  pure { clock := parseIDLMeasClockInfo meas.clock, measurements, isNHz := meas.isNhz }

structure MeasurementsFaithful (s : GnssMeasurements) (r : Logged GnssMeasurementsT) : Prop where
  inBounds : r.InBounds
  clock : ClockFaithful s.clock r.value.clock
  measurements : ListFaithful MeasFaithful maxSvs s.measurements r.value.measurements
  isNHz : r.value.isNHz = s.isNhz

/-- **The measurements can be converted.** -/
structure MeasurementsConvertible (s : GnssMeasurements) : Prop where
  clock : ∀ f ∈ lostClockFlags, clockFlags.read s.clock.flags f = false
  length : s.measurements.length ≤ maxSvs
  measurements : ∀ m ∈ s.measurements, MeasConvertible m

/-- **A report of measurements** is faithful exactly if it can be converted. -/
theorem parseMeasurements_faithful_iff (s : GnssMeasurements) :
    MeasurementsFaithful s (parseMeasurements s) ↔ MeasurementsConvertible s := by
  have hbounds : (parseMeasurements s).InBounds := by
    rw [parseMeasurements, Logged.inBounds_bind_pure]
    exact append_pure_inBounds.mpr (Nat.le_refl _)
  have hvalue : (parseMeasurements s).value.measurements = s.measurements.map parseMeas := by
    have happend : (parseIDLMeasData s.measurements).value = s.measurements.map parseMeas := by
      rw [parseIDLMeasData, append_pure_value (Nat.le_refl _), List.take_length,
        List.nil_append]
    exact happend
  constructor
  · intro h
    have hlist := h.measurements
    rw [hvalue, listFaithful_uncut] at hlist
    exact {
      clock := (parseIDLMeasClockInfo_faithful_iff _).mp h.clock
      length := hlist.1
      measurements := fun m hm => (parseMeas_faithful_iff m).mp (hlist.2 m hm) }
  · intro h
    refine ⟨hbounds, (parseIDLMeasClockInfo_faithful_iff _).mpr h.clock, ?_, rfl⟩
    rw [hvalue, listFaithful_uncut]
    exact ⟨h.length, fun m hm => (parseMeas_faithful_iff m).mpr (h.measurements m hm)⟩

/-! ## Signals -/

/-- The signal types of the client API. -/
def maxSignalTypes : Nat := 23

structure GnssData where
  gnssDataMask : Vector (BitVec 32) maxSignalTypes
  (jammerInd agc : Vector Double maxSignalTypes)

structure GnssDataT where
  gnssDataMask : List (BitVec 32)
  (jammerInd agc : List Double)

/-- The lists begin with an entry for the unknown signal. -/
def parseGnssData (data : GnssData) : Logged GnssDataT := do
  let gnssDataMask ← Logged.append maxSignalTypes data.gnssDataMask.toList
    (fun mask => pure (parseIDLDataMask mask)) [0]
  let jammerInd ← Logged.append maxSignalTypes data.jammerInd.toList (fun x => pure x) [0]
  let agc ← Logged.append maxSignalTypes data.agc.toList (fun x => pure x) [0]
  pure { gnssDataMask, jammerInd, agc }

structure DataFaithful (s : GnssData) (r : Logged GnssDataT) : Prop where
  inBounds : r.InBounds
  gnssDataMask : r.value.gnssDataMask =
    0 :: s.gnssDataMask.toList.map (namesakes dataFlags (by decide))
  jammerInd : r.value.jammerInd = 0 :: s.jammerInd.toList
  agc : r.value.agc = 0 :: s.agc.toList

/-- A loop over a whole array, behind one entry. -/
theorem appendAll_value {α β : Type} [Inhabited α] {f : α → β} {n : Nat} (v : Vector α n)
    (first : β) :
    (Logged.append n v.toList (fun a => pure (f a)) [first]).value = first :: v.toList.map f := by
  have hlength : v.toList.length = n := Vector.length_toList
  rw [append_pure_value (Nat.le_of_eq hlength.symm), List.take_of_length_le (Nat.le_of_eq hlength)]
  rfl

/-- So is one that copies it. -/
theorem appendAll_copy_value {α : Type} [Inhabited α] {n : Nat} (v : Vector α n) (first : α) :
    (Logged.append n v.toList (fun a => pure a) [first]).value = first :: v.toList :=
  (@appendAll_value α α _ id n v first).trans (by rw [List.map_id])

theorem appendAll_inBounds {α β : Type} [Inhabited α] {f : α → β} {n : Nat} (v : Vector α n)
    (dst : List β) : (Logged.append n v.toList (fun a => pure (f a)) dst).InBounds :=
  append_pure_inBounds.mpr (Nat.le_of_eq Vector.length_toList.symm)

/-- **A report of signals** is faithful. -/
theorem parseGnssData_faithful (s : GnssData) : DataFaithful s (parseGnssData s) where
  inBounds := by
    rw [parseGnssData, Logged.inBounds_bind, Logged.inBounds_bind, Logged.inBounds_bind_pure]
    exact ⟨appendAll_inBounds _ _, @appendAll_inBounds _ _ _ id _ _ _,
      @appendAll_inBounds _ _ _ id _ _ _⟩
  gnssDataMask := by
    simp only [parseGnssData, Logged.value_bind, Logged.value_pure, appendAll_value]
    exact congrArg (0 :: ·) (List.map_congr_left fun mask _ => copyFlags_eq _ _ mask)
  jammerInd := by
    simp only [parseGnssData, Logged.value_bind, Logged.value_pure, appendAll_copy_value]
  agc := by
    simp only [parseGnssData, Logged.value_bind, Logged.value_pure, appendAll_copy_value]

end Fidl
end LocationStack
