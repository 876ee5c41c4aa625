import LocationStack.LocApi.SvReport
import Mathlib.Algebra.Order.Ring.Rat
import Mathlib.Tactic.Linarith

/-! # The two entries of a measurement

`convertGnssMeasurements` fills two entries from one measurement of the modem: `svMeas` for the
engine, and `measurements` for the clients.  The constellation goes through one switch for the
first and another for the second; only the first knows COMPASS, the name that BDS had.  The engine
is told a signal also where the modem tells none, the clients are not.

The frequency of the carrier is found by the signal, or, where the modem tells none, by the
constellation of the second entry; the ranges are divided by it.  A field of the clients that has a
flag is there if its flag is set.  Only a message of a known system is converted.
-/
namespace LocationStack.LocApi

/-! ## Messages -/

/-- `qmiLocSVMeasurementStructT_v02`, what is read of it for the two entries; the bits of the
carrier phase are those of `validMask` and of the two masks of the status. -/
structure MeasuredSv where
  gnssSvId : UInt16
  gloFrequency : UInt8
  carrierPhaseValid : Bool
  carrierPhase : ℚ
  lpValid : Bool
  lpPosValid : Bool

/-- A list of measurements, with the list of the uncertainties beside it. -/
structure MeasuredList where
  len : UInt32
  sv : Nat → MeasuredSv
  carrierPhaseUncertainty_valid : Bool
  carrierPhaseUncertainty_len : UInt32
  carrierPhaseUncertainty : Nat → ℚ

/-- `qmiLocEventGnssSvMeasInfoIndMsgT_v02`, what is read of it for the two entries. -/
structure SvMeasInd where
  system : QmiLocSvSystem
  gnssSignalType_valid : Bool
  gnssSignalType : BitVec 64
  svMeasurement : MeasuredList
  extSvMeasurement : MeasuredList

/-- The list that a measurement is in. -/
def SvMeasInd.list (ind : SvMeasInd) (isExt : Bool) : MeasuredList :=
  if isExt then ind.extSvMeasurement else ind.svMeasurement

/-! ## Entries -/

/-- `Gnss_SVMeasurementStructType`; the uncertainty is there if `carrierPhaseUncValid` is 1. -/
structure SvMeas where
  gnssSystem : GnssLocSvSystem
  gnssSvId : UInt16
  gloFrequency : UInt8
  gnssSignalTypeMask : Flags GnssSignal
  carrierPhaseUnc : Option ℚ

/-- `GnssMeasurementsData`, its fields that have flags as far as those are set. -/
structure MeasurementsData where
  svId : UInt16
  svType : GnssSvType
  gloFrequency : Option UInt8
  carrierFrequencyHz : ℚ
  adrMeters : Option ℚ
  carrierPhaseUncertainty : Option ℚ
  adrUncertaintyMeters : Option ℚ
  gnssSignalType : Option (Flags GnssSignal)

/-! ## The code -/

/-- `SPEED_OF_LIGHT` -/
def speedOfLight : ℚ := 299792458

/-- `convertSvType` -/
def convertSvType : QmiLocSvSystem → GnssSvType
  | .gps => .gps
  | .galileo => .galileo
  | .sbas => .sbas
  | .glonass => .glonass
  | .bds => .beidou
  | .qzss => .qzss
  | .navic => .navic
  | .compass | .other => .unknown

section

variable (ctx : SvReportContext) (ind : SvMeasInd) (isExt : Bool) (index : Nat)

/-- What `convertGnssMeasurements` stores for the engine. -/
def convertSvMeas : SvMeas where
  gnssSystem := getLocApiSvSystemType ind.system
  gnssSvId := ((ind.list isExt).sv index).gnssSvId
  gloFrequency := ((ind.list isExt).sv index).gloFrequency
  gnssSignalTypeMask :=
    if ind.gnssSignalType_valid then convertQmiGnssSignalType ind.gnssSignalType
    else getDefaultGnssSignalTypeMask ind.system
  carrierPhaseUnc :=
    if (ind.list isExt).carrierPhaseUncertainty_valid &&
        (ind.list isExt).len == (ind.list isExt).carrierPhaseUncertainty_len then
      some ((ind.list isExt).carrierPhaseUncertainty index)
    else none

/-- The frequency of the carrier; the offset of a channel of GLONASS is added for all systems. -/
def measuredCarrierFrequency (gloFrequency : UInt8) : ℚ :=
  if ind.gnssSignalType_valid then
    ctx.convertSignalTypeToCarrierFrequency ind.gnssSignalType gloFrequency
  else
    let channel : ℚ := if 1 ≤ gloFrequency ∧ gloFrequency ≤ 14 then gloFrequency.toNat - 8 else 0
    channel * 562500 + ctx.carrierFrequencies (convertSvType ind.system)

/-- What `convertGnssMeasurements` stores for the clients. -/
def convertMeasurementsData : MeasurementsData :=
  let info := (ind.list isExt).sv index
  let carrierFrequencyHz := measuredCarrierFrequency ctx ind info.gloFrequency
  { svId := info.gnssSvId
    svType := convertSvType ind.system
    gloFrequency :=
      if convertSvType ind.system = .glonass then some info.gloFrequency else none
    carrierFrequencyHz := carrierFrequencyHz
    adrMeters :=
      if info.carrierPhaseValid then
        let half : ℚ := if info.lpValid && info.lpPosValid then 1 / 2 else 0
        some (speedOfLight / carrierFrequencyHz * (info.carrierPhase + half))
      else none
    carrierPhaseUncertainty := (convertSvMeas ind isExt index).carrierPhaseUnc
    adrUncertaintyMeters :=
      -- The lengths of the lists are not compared here.
      if (ind.list isExt).carrierPhaseUncertainty_valid then
        some (speedOfLight / carrierFrequencyHz * (ind.list isExt).carrierPhaseUncertainty index)
      else none
    gnssSignalType :=
      if ind.gnssSignalType_valid then some (convertQmiGnssSignalType ind.gnssSignalType)
      else none }

end

/-! ## What the entries denote -/

/-- The constellations by their names. -/
def GnssLocSvSystem.svType : GnssLocSvSystem → GnssSvType
  | unknown => .unknown
  | gps => .gps
  | galileo => .galileo
  | sbas => .sbas
  | glonass => .glonass
  | bds => .beidou
  | qzss => .qzss
  | navic => .navic

/-- The two entries denote the same, and what ranges are divided by is positive. -/
structure ViewsAgree (svMeas : SvMeas) (measurement : MeasurementsData) : Prop where
  constellation : svMeas.gnssSystem.svType = measurement.svType
  satellite : svMeas.gnssSvId = measurement.svId
  channel : ∀ k, measurement.gloFrequency = some k → svMeas.gloFrequency = k
  /-- A signal that the clients are not told is none. -/
  signal : svMeas.gnssSignalTypeMask = measurement.gnssSignalType.getD fun _ => false
  carrierPhaseUnc :
    svMeas.carrierPhaseUnc.isSome = measurement.carrierPhaseUncertainty.isSome
  divisor : 0 < measurement.carrierFrequencyHz

/-- A signal that the tables know. -/
def KnownSignal (signalType : BitVec 64) : Prop := ∃ row ∈ qmiSignalTable.rows, row.2 = signalType

instance (signalType : BitVec 64) : Decidable (KnownSignal signalType) :=
  inferInstanceAs (Decidable (∃ row ∈ qmiSignalTable.rows, row.2 = signalType))

/-- What a message needs for its entries to agree. -/
structure SvMeasInd.Clean (ind : SvMeasInd) : Prop where
  /-- The system is not called COMPASS. -/
  system : ind.system ≠ .compass
  /-- A signal that is told is one of the table. -/
  known : ind.gnssSignalType_valid = true → KnownSignal ind.gnssSignalType
  /-- A system without a signal has none that the engine is told. -/
  told : ind.gnssSignalType_valid = false → ind.system = .navic

/-! ## Carrier frequencies -/

/-- The carriers are those of the L band. -/
def SvReportContext.LBand (ctx : SvReportContext) : Prop :=
  ∀ signal, 1000000000 ≤ ctx.carrierFrequency signal

section

variable {ctx : SvReportContext}

/-- The lowest channel is the first. -/
theorem channel_ge (gloFrequency : UInt8) :
    -7 ≤ (if 1 ≤ gloFrequency ∧ gloFrequency ≤ 14 then (gloFrequency.toNat : ℚ) - 8 else 0) := by
  split
  next h =>
    have hone : 1 ≤ gloFrequency.toNat := UInt8.le_iff_toNat_le.mp h.1
    have hcast : (1 : ℚ) ≤ gloFrequency.toNat := by exact_mod_cast hone
    linarith
  next => norm_num

theorem carrierFrequencies_pos (h : ctx.LBand) {type : GnssSvType} (htype : type ≠ .unknown) :
    1000000000 ≤ ctx.carrierFrequencies type := by
  cases type with
  | unknown => exact absurd rfl htype
  | _ => exact h _

/-- A signal has a frequency if it is one of the table. -/
theorem convertSignalTypeToCarrierFrequency_pos_iff (h : ctx.LBand) (signalType : BitVec 64)
    (gloFrequency : UInt8) :
    0 < ctx.convertSignalTypeToCarrierFrequency signalType gloFrequency ↔
      KnownSignal signalType := by
  unfold SvReportContext.convertSignalTypeToCarrierFrequency KnownSignal
  cases hfind : qmiSignalTable.rows.find? fun row => row.2 == signalType with
  | none =>
    have hnone := List.find?_eq_none.mp hfind
    refine iff_of_false (lt_irrefl 0) ?_
    rintro ⟨row, hrow, heq⟩
    exact hnone row hrow (beq_iff_eq.mpr heq)
  | some row =>
    have hrow : row.2 = signalType := by simpa using List.find?_some hfind
    refine iff_of_true ?_ ⟨row, List.mem_of_find?_eq_some hfind, hrow⟩
    have hchannel := channel_ge gloFrequency
    have hcarrier := h row.1
    obtain ⟨signal, bits⟩ := row
    -- Only the carriers of GLONASS have channels.
    cases signal <;> dsimp only at hcarrier ⊢ <;> linarith

end

/-! ## Agreement -/

section

variable {ctx : SvReportContext} {ind : SvMeasInd}

theorem svType_eq_iff :
    (getLocApiSvSystemType ind.system).svType = convertSvType ind.system ↔
      ind.system ≠ .compass := by
  cases ind.system <;> decide

theorem getDefaultGnssSignalTypeMask_eq_none_iff
    (hsystem : getLocApiSvSystemType ind.system ≠ .unknown) :
    (getDefaultGnssSignalTypeMask ind.system = fun _ => false) ↔ ind.system = .navic := by
  cases hcase : ind.system with
  | navic => exact iff_of_true rfl rfl
  | other => exact absurd (hcase ▸ rfl) hsystem
  | gps =>
    exact iff_of_false (fun heq => absurd (congrFun heq .gpsL1ca) (by decide)) (by decide)
  | galileo =>
    exact iff_of_false (fun heq => absurd (congrFun heq .galileoE1) (by decide)) (by decide)
  | sbas =>
    exact iff_of_false (fun heq => absurd (congrFun heq .sbasL1) (by decide)) (by decide)
  | glonass =>
    exact iff_of_false (fun heq => absurd (congrFun heq .glonassG1) (by decide)) (by decide)
  | bds | compass =>
    exact iff_of_false (fun heq => absurd (congrFun heq .beidouB1i) (by decide)) (by decide)
  | qzss =>
    exact iff_of_false (fun heq => absurd (congrFun heq .qzssL1ca) (by decide)) (by decide)

/-- The engine and the clients are told the same signal unless only the engine is told one. -/
theorem signal_eq_iff (hsystem : getLocApiSvSystemType ind.system ≠ .unknown) (isExt : Bool)
    (index : Nat) :
    (convertSvMeas ind isExt index).gnssSignalTypeMask =
        (convertMeasurementsData ctx ind isExt index).gnssSignalType.getD (fun _ => false) ↔
      (ind.gnssSignalType_valid = false → ind.system = .navic) := by
  unfold convertSvMeas convertMeasurementsData
  cases hvalid : ind.gnssSignalType_valid with
  | true => simp
  | false =>
    simpa using getDefaultGnssSignalTypeMask_eq_none_iff hsystem

/-- **The two entries of a measurement** agree if and only if the system is not called COMPASS and
the signal that is told is one of the table, or none is told of a system that has no default. -/
theorem views_agree_iff (h : ctx.LBand) (hsystem : getLocApiSvSystemType ind.system ≠ .unknown)
    (isExt : Bool) (index : Nat) :
    ViewsAgree (convertSvMeas ind isExt index) (convertMeasurementsData ctx ind isExt index) ↔
      ind.Clean := by
  have hfrequency : ind.gnssSignalType_valid = true →
      (0 < (convertMeasurementsData ctx ind isExt index).carrierFrequencyHz ↔
        KnownSignal ind.gnssSignalType) := by
    intro hvalid
    have hiff := convertSignalTypeToCarrierFrequency_pos_iff h ind.gnssSignalType
      ((ind.list isExt).sv index).gloFrequency
    simpa [convertMeasurementsData, measuredCarrierFrequency, hvalid] using hiff
  constructor
  · intro hagree
    exact
      { system := svType_eq_iff.mp hagree.constellation
        known := fun hvalid => (hfrequency hvalid).mp hagree.divisor
        told := (signal_eq_iff hsystem isExt index).mp hagree.signal }
  · rintro ⟨hcompass, hknown, htold⟩
    refine
      { constellation := svType_eq_iff.mpr hcompass
        satellite := rfl
        channel := ?_
        signal := (signal_eq_iff hsystem isExt index).mpr htold
        carrierPhaseUnc := rfl
        divisor := ?_ }
    · intro k hk
      unfold convertMeasurementsData at hk
      split at hk
      · exact Option.some.inj hk
      · cases hk
    · cases hvalid : ind.gnssSignalType_valid with
      | true => exact (hfrequency hvalid).mpr (hknown hvalid)
      | false =>
        have hnavic := htold hvalid
        have hchannel := channel_ge ((ind.list isExt).sv index).gloFrequency
        have hcarrier : 1000000000 ≤ ctx.carrierFrequencies .navic :=
          carrierFrequencies_pos h (by decide)
        simp only [convertMeasurementsData, measuredCarrierFrequency, hvalid, hnavic,
          convertSvType, Bool.false_eq_true, if_false]
        linarith

end

/-! ## COMPASS -/

/-- A message of one measurement, with the signal B1I or with none. -/
def oneMeasInd (system : QmiLocSvSystem) (gnssSignalType_valid : Bool) : SvMeasInd where
  system := system
  gnssSignalType_valid := gnssSignalType_valid
  gnssSignalType := 0x200
  svMeasurement := ⟨1, fun _ => ⟨8, 0, true, 1000, true, true⟩, true, 1, fun _ => 1 / 10⟩
  extSvMeasurement := ⟨0, fun _ => ⟨0, 0, false, 0, false, false⟩, false, 0, fun _ => 0⟩

/-- Carriers of 1.5 GHz. -/
def lBandContext : SvReportContext where
  prn := fun _ => (1, 32)
  carrierFrequency := fun _ => 1500000000
  rfLossNV := fun _ => 0
  gloRfLoss := none
  gnssSvMax := 176

theorem lBandContext_lBand : lBandContext.LBand := fun _ => by
  show (1000000000 : ℚ) ≤ 1500000000
  norm_num

/-- Under its own name, a measurement of BDS is the same in both entries. -/
theorem views_agree_bds :
    ViewsAgree (convertSvMeas (oneMeasInd .bds true) false 0)
      (convertMeasurementsData lBandContext (oneMeasInd .bds true) false 0) :=
  (views_agree_iff lBandContext_lBand (by decide) false 0).mpr
    ⟨by decide, fun _ => by decide, fun h => absurd h (by decide)⟩

/-- Under the name COMPASS, the engine is told BDS and the clients nothing. -/
theorem compass_unknown_to_clients :
    (convertSvMeas (oneMeasInd .compass true) false 0).gnssSystem = .bds ∧
      (convertMeasurementsData lBandContext (oneMeasInd .compass true) false 0).svType = .unknown ∧
      ¬ViewsAgree (convertSvMeas (oneMeasInd .compass true) false 0)
        (convertMeasurementsData lBandContext (oneMeasInd .compass true) false 0) :=
  ⟨rfl, rfl, fun hagree => absurd hagree.constellation (by decide)⟩

end LocationStack.LocApi
