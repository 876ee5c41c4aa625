import Mathlib.Data.List.Count
import LocationStack.LocApi.LastEpoch

/-! # Tunnel entry

The modem goes on to report positions when it has lost the satellites, by propagating the last one.
`reportPosition` looks for that itself: of the satellites that a position was computed from it
counts, for each constellation, those whose signal is among the measurements of the last epoch of
1 Hz, and if there are fewer than three of every constellation the position is marked as
propagated.  It does so if it is told of measurements and if the position belongs to that epoch by
its time.
-/
namespace LocationStack.LocApi

open EventRun

/-! ## Technologies -/

/-- `LocPosTechMask`, its bits. -/
inductive PosTech
  | satellite | cellid | wifi | sensors | referenceLocation | injectedCoarsePosition | aflt
  | hybrid | ins | pdr | propagated
  deriving DecidableEq

/-- `qmiLocPosTechMaskT_v02`, the bits that have a line; that of the dead reckoning engine, 0x100,
has none. -/
def qmiPosTechTable : FlagTable PosTech 32 where
  rows :=
    [(.satellite, 0x1), (.cellid, 0x2), (.wifi, 0x4), (.sensors, 0x8), (.referenceLocation, 0x10),
      (.injectedCoarsePosition, 0x20), (.aflt, 0x40), (.hybrid, 0x80), (.ins, 0x200), (.pdr, 0x400),
      (.propagated, 0x800)]
  nonzero := by decide
  disjoint := by decide

def convertPosTechMask (mask : BitVec 32) : Flags PosTech := qmiPosTechTable.read mask

/-! ## The code -/

/-- `qmiLocSessionStatusEnumT_v02`, or a status of a session that has no position. -/
inductive SessionStatus
  | success | inProgress | failure
  deriving DecidableEq

/-- `qmiLocEventPositionReportIndMsgT_v02`, what decides on the technologies. -/
structure PositionReport where
  sessionStatus : SessionStatus
  technologyMask : BitVec 32
  /-- `gpsTime`, the week and the time of week in ms. -/
  gpsTime : Option (UInt16 × UInt32)
  used : UsedSvReport

/-- `MIN_REFRESH_MEASUREMENTS` -/
def minRefreshMeasurements : UInt16 := 3

/-- `(gpsWeek x WEEK_MSECS) + gpsTimeOfWeekMs` -/
def gpsTimePosReport (gpsWeek : UInt16) (gpsTimeOfWeekMs : UInt32) : UInt64 :=
  gpsWeek.toUInt64 * 604800000 + gpsTimeOfWeekMs.toUInt64

namespace GnssBasicMeasurementsInfo

variable (info : GnssBasicMeasurementsInfo)

/-- `gpsTimeNs / NSEC_IN_MSEC`; a time before the first week wraps. -/
def gpsTimeMeasReport : UInt64 :=
  UInt64.ofBitVec (BitVec.ofInt 64 ((info.timeNs - info.fullBiasNs).tdiv 1000000))

def isTOAValid (gpsTime : Option (UInt16 × UInt32)) : Bool :=
  match gpsTime with
  | none => false
  | some (gpsWeek, gpsTimeOfWeekMs) =>
    info.hasBias &&
      (decide (info.gpsTimeMeasReport < gpsTimePosReport gpsWeek gpsTimeOfWeekMs) &&
        decide (gpsTimePosReport gpsWeek gpsTimeOfWeekMs < info.gpsTimeMeasReport + 1500))

end GnssBasicMeasurementsInfo

def SvUsed.lowSatelliteVisibility (used : SvUsed) : Bool :=
  decide (used.meaAvailForPVT .gps < minRefreshMeasurements) &&
    decide (used.meaAvailForPVT .galileo < minRefreshMeasurements) &&
    decide (used.meaAvailForPVT .glonass < minRefreshMeasurements) &&
    decide (used.meaAvailForPVT .bds < minRefreshMeasurements) &&
    decide (used.meaAvailForPVT .qzss < minRefreshMeasurements) &&
    decide (used.meaAvailForPVT .navic < minRefreshMeasurements)

namespace PositionReport

variable (report : PositionReport) (prn : PrnRanges) (gnssSvMax : Nat)

def hasPosition : Bool :=
  report.sessionStatus == .success || report.sessionStatus == .inProgress

def updateMeaAvailForPVTArray (info : GnssBasicMeasurementsInfo)
    (unpropagatedPosition measurementReports : Bool) : Bool :=
  !unpropagatedPosition && measurementReports && info.isTOAValid report.gpsTime

/-- `reportPosition`, the technologies that are reported; `reported` is the answer of
`needReport`. -/
def techMask (info : GnssBasicMeasurementsInfo)
    (unpropagatedPosition measurementReports reported : Bool) : Option (Flags PosTech) :=
  if report.hasPosition then do
    let tech_mask := convertPosTechMask report.technologyMask
    let update := report.updateMeaAvailForPVTArray info unpropagatedPosition measurementReports
    let used ← SvUsed.ofReport prn
      ⟨unpropagatedPosition || reported, update, info.measurements, gnssSvMax⟩ report.used
    return if update && used.lowSatelliteVisibility then Function.update tech_mask .propagated true
      else tech_mask
  else some fun _ => false

end PositionReport

/-! ## Counting -/

namespace UsedSvReport

variable (report : UsedSvReport) (prn : PrnRanges)

/-- The satellite at an index is of the constellation, and its signal is among the measurements. -/
def refreshedAt (ctx : UsedContext) (c : SvConstellation) (idx : Nat) : Bool :=
  decide (prn.constellationOf (report.id idx) = some c) &&
    ctx.isMeasurementRefreshForSv (report.id idx) (report.signalsAt idx)

/-- How many there are. -/
def refreshed (ctx : UsedContext) (c : SvConstellation) : Nat :=
  (List.range report.usedLen).countP (report.refreshedAt prn ctx c)

end UsedSvReport

namespace SvUsed

variable (prn : PrnRanges) (ctx : UsedContext) (report : UsedSvReport)

theorem mark_meaAvailForPVT (s : SvUsed) (idx : Nat) :
    (s.mark prn report idx).meaAvailForPVT = s.meaAvailForPVT := by
  unfold mark
  cases prn.constellationOf (report.id idx) <;> rfl

/-- One satellite counts for its constellation. -/
theorem step_meaAvailForPVT (hupdate : ctx.updateMeaAvailForPVTArray = true) (s : SvUsed)
    (idx : Nat) (c : SvConstellation) :
    (step prn ctx report s idx).meaAvailForPVT c =
      s.meaAvailForPVT c + if report.refreshedAt prn ctx c idx then 1 else 0 := by
  have hmarked : (if ctx.converts then s.mark prn report idx else s).meaAvailForPVT =
      s.meaAvailForPVT := by
    split
    · exact mark_meaAvailForPVT prn report s idx
    · rfl
  rw [step, countRefreshed, hupdate, Bool.true_and, UsedSvReport.refreshedAt]
  by_cases hfresh : ctx.isMeasurementRefreshForSv (report.id idx) (report.signalsAt idx) = true
  · rw [if_pos hfresh, hfresh, Bool.and_true]
    cases hc : prn.constellationOf (report.id idx) with
    | none => simp [hmarked]
    | some c' =>
      by_cases heq : c' = c
      · subst heq
        simp [hmarked]
      · have hne : c ≠ c' := fun h => heq h.symm
        simp [hmarked, Function.update_of_ne hne, heq]
  · rw [if_neg hfresh, Bool.eq_false_iff.mpr hfresh, Bool.and_false, hmarked]
    simp

theorem foldl_meaAvailForPVT (hupdate : ctx.updateMeaAvailForPVTArray = true)
    (indices : List Nat) (s : SvUsed) (c : SvConstellation) :
    (indices.foldl (step prn ctx report) s).meaAvailForPVT c =
      s.meaAvailForPVT c + UInt16.ofNat (indices.countP (report.refreshedAt prn ctx c)) := by
  induction indices generalizing s with
  | nil => simp
  | cons idx rest ih =>
    rw [List.foldl_cons, ih, step_meaAvailForPVT prn ctx report hupdate, List.countP_cons]
    by_cases hcounts : report.refreshedAt prn ctx c idx = true
    · rw [if_pos hcounts, if_pos hcounts, UInt16.add_assoc, Nat.add_comm, UInt16.ofNat_add]
      rfl
    · rw [if_neg hcounts, if_neg hcounts]
      simp

variable {report}

/-- **The counters are exact**: there are not enough satellites for one to wrap. -/
theorem meaAvailForPVT_eq (h : report.Within) (hupdate : ctx.updateMeaAvailForPVTArray = true)
    {used : SvUsed} (hused : ofReport prn ctx report = some used) (c : SvConstellation) :
    (used.meaAvailForPVT c).toNat = report.refreshed prn ctx c := by
  have hfew : report.refreshed prn ctx c ≤ expandedSvInfoListMaxSize := by
    refine Nat.le_trans (List.countP_le_length) ?_
    rw [List.length_range]
    exact UsedSvReport.usedLen_le h
  by_cases hhas : report.hasUsed = true
  · obtain ⟨-, rfl⟩ := (ofReport_eq_some prn ctx h hhas used).mp hused
    have hstart : (start ctx report).meaAvailForPVT c = 0 := rfl
    rw [foldl_meaAvailForPVT prn ctx report hupdate, hstart, UInt16.zero_add]
    exact UInt16.toNat_ofNat_of_lt (Nat.lt_of_le_of_lt hfew (by decide))
  · have hnone := usedLen_of_not_hasUsed (Bool.eq_false_iff.mpr hhas)
    rw [ofReport, if_neg hhas, Option.some.injEq] at hused
    rw [← hused, UsedSvReport.refreshed, hnone]
    rfl

/-- Few satellites of every constellation. -/
theorem lowSatelliteVisibility_iff {used : SvUsed} :
    used.lowSatelliteVisibility = true ↔ ∀ c, (used.meaAvailForPVT c).toNat < 3 := by
  have hless : ∀ c, used.meaAvailForPVT c < minRefreshMeasurements ↔
      (used.meaAvailForPVT c).toNat < 3 := fun c => UInt16.lt_iff_toNat_lt
  simp only [lowSatelliteVisibility, Bool.and_eq_true, decide_eq_true_eq, hless]
  constructor
  · rintro ⟨⟨⟨⟨⟨hgps, hgalileo⟩, hglonass⟩, hbds⟩, hqzss⟩, hnavic⟩ c
    cases c <;> assumption
  · exact fun hall => ⟨⟨⟨⟨⟨hall _, hall _⟩, hall _⟩, hall _⟩, hall _⟩, hall _⟩

/-- There is a result exactly if each satellite that is converted has a number and a place. -/
theorem isSome_ofReport_iff (h : report.Within) :
    (ofReport prn ctx report).isSome = true ↔ ∀ idx < report.usedLen, Defined ctx report idx := by
  by_cases hhas : report.hasUsed = true
  · rw [Option.isSome_iff_exists]
    constructor
    · rintro ⟨used, hused⟩
      exact ((ofReport_eq_some prn ctx h hhas used).mp hused).1
    · intro hall
      exact ⟨_, (ofReport_eq_some prn ctx h hhas _).mpr ⟨hall, rfl⟩⟩
  · rw [ofReport, if_neg hhas, usedLen_of_not_hasUsed (Bool.eq_false_iff.mpr hhas)]
    exact ⟨fun _ idx hidx => absurd hidx (Nat.not_lt_zero idx), fun _ => rfl⟩

end SvUsed

/-! ## The run -/

/-- A position that was reported, with what it was made of. -/
structure ReportedPosition (R : Type) where
  report : PositionReport
  unpropagatedPosition : Bool
  /-- `QMI_LOC_EVENT_MASK_GNSS_MEASUREMENT_REPORT` of `mQmiMask` -/
  measurementReports : Bool
  reported : Bool
  /-- The messages of measurements that have arrived, and `m1HzMeasurementsInfo`. -/
  arrived : List (GnssSvMeasInfoInd R)
  info : GnssBasicMeasurementsInfo
  tech_mask : Option (Flags PosTech)

structure PositionChecks (R D G X H M : Type) where
  assembly : Assembly R D G X H (M × GnssBasicMeasurementsInfo)
  measurementReports : Bool
  positions : List (ReportedPosition R)

inductive PositionEvent (R : Type)
  | measurements (ind : GnssSvMeasInfoInd R)
  | eventMask (measurementReports : Bool)
  | position (report : PositionReport) (unpropagatedPosition reported : Bool)

/-- **The technologies are those of the modem**, and the position is propagated also if it belongs
to the last epoch of 1 Hz and fewer than three satellites of every constellation were measured. -/
structure ReportedPosition.Right {R : Type} (D G X H : Type) (prn : PrnRanges) (gnssSvMax : Nat)
    (fields : BasicFields D X) (capacity : Capacity) (preferred : UInt64)
    (p : ReportedPosition R) : Prop where
  copy : CopyOfLast D G X H fields capacity.measurementsMax preferred p.arrived p.info
  defined : p.tech_mask.isSome = true ↔
    (p.report.hasPosition = true → (p.unpropagatedPosition || p.reported) = true →
      ∀ idx < p.report.used.usedLen, idx < gnssSvMax ∧ p.report.used.id idx ≠ 0)
  tech_mask : ∀ mask, p.tech_mask = some mask → ∀ tech, mask tech = true ↔
    p.report.hasPosition = true ∧
      (convertPosTechMask p.report.technologyMask tech = true ∨ tech = .propagated ∧
        p.unpropagatedPosition = false ∧ p.measurementReports = true ∧
        p.info.isTOAValid p.report.gpsTime = true ∧ ∀ c,
          p.report.used.refreshed prn ⟨p.reported, true, p.info.measurements, gnssSvMax⟩ c < 3)

namespace PositionReport

variable (report : PositionReport) (prn : PrnRanges) (gnssSvMax : Nat)
  (info : GnssBasicMeasurementsInfo) (unpropagatedPosition measurementReports reported : Bool)

theorem updateMeaAvailForPVTArray_iff :
    report.updateMeaAvailForPVTArray info unpropagatedPosition measurementReports = true ↔
      unpropagatedPosition = false ∧ measurementReports = true ∧
        info.isTOAValid report.gpsTime = true := by
  rw [updateMeaAvailForPVTArray, Bool.and_eq_true, Bool.and_eq_true, Bool.not_eq_true', and_assoc]

theorem isSome_techMask_iff (h : report.used.Within) :
    (report.techMask prn gnssSvMax info unpropagatedPosition measurementReports
        reported).isSome = true ↔
      (report.hasPosition = true → (unpropagatedPosition || reported) = true →
        ∀ idx < report.used.usedLen, idx < gnssSvMax ∧ report.used.id idx ≠ 0) := by
  by_cases hposition : report.hasPosition = true
  · set ctx : UsedContext := ⟨unpropagatedPosition || reported,
      report.updateMeaAvailForPVTArray info unpropagatedPosition measurementReports,
      info.measurements, gnssSvMax⟩
    have hsome : (report.techMask prn gnssSvMax info unpropagatedPosition measurementReports
        reported).isSome = (SvUsed.ofReport prn ctx report.used).isSome := by
      rw [techMask, if_pos hposition]
      show (Option.bind (SvUsed.ofReport prn ctx report.used) _).isSome = _
      cases SvUsed.ofReport prn ctx report.used <;> rfl
    rw [hsome, imp_iff_right hposition, SvUsed.isSome_ofReport_iff prn ctx h]
    exact ⟨fun hall hconverts idx hidx => hall idx hidx hconverts,
      fun hall idx hidx hconverts => hall hconverts idx hidx⟩
  · rw [techMask, if_neg hposition]
    exact ⟨fun _ hyes => absurd hyes hposition, fun _ => rfl⟩

/-- **What is reported of a position.** -/
theorem techMask_iff (h : report.used.Within) {mask : Flags PosTech}
    (hmask : report.techMask prn gnssSvMax info unpropagatedPosition measurementReports reported =
      some mask) (tech : PosTech) :
    mask tech = true ↔ report.hasPosition = true ∧
      (convertPosTechMask report.technologyMask tech = true ∨ tech = .propagated ∧
        unpropagatedPosition = false ∧ measurementReports = true ∧
        info.isTOAValid report.gpsTime = true ∧
        ∀ c, report.used.refreshed prn ⟨reported, true, info.measurements, gnssSvMax⟩ c < 3) := by
  rw [techMask] at hmask
  by_cases hposition : report.hasPosition = true
  · rw [if_pos hposition] at hmask
    rw [and_iff_right hposition]
    obtain ⟨used, hused, hresult⟩ := Option.bind_eq_some_iff.mp hmask
    obtain rfl := Option.some.inj hresult
    by_cases hupdate : report.updateMeaAvailForPVTArray info unpropagatedPosition
        measurementReports = true
    · obtain ⟨hunprop, hreports, htoa⟩ := (report.updateMeaAvailForPVTArray_iff info
        unpropagatedPosition measurementReports).mp hupdate
      rw [hupdate, hunprop, Bool.false_or] at hused
      have hlow : used.lowSatelliteVisibility = true ↔ ∀ c,
          report.used.refreshed prn ⟨reported, true, info.measurements, gnssSvMax⟩ c < 3 := by
        rw [SvUsed.lowSatelliteVisibility_iff]
        exact forall_congr' fun c => by rw [SvUsed.meaAvailForPVT_eq prn _ h rfl hused c]
      rw [hupdate, Bool.true_and]
      by_cases hvisible : used.lowSatelliteVisibility = true
      · rw [if_pos hvisible]
        have hfew := hlow.mp hvisible
        by_cases hprop : tech = .propagated
        · subst hprop
          rw [Function.update_self]
          exact ⟨fun _ => Or.inr ⟨rfl, hunprop, hreports, htoa, hfew⟩, fun _ => rfl⟩
        · rw [Function.update_of_ne hprop]
          exact ⟨Or.inl, fun hor => hor.resolve_right fun hno => hprop hno.1⟩
      · rw [if_neg hvisible]
        refine ⟨Or.inl, fun hor => hor.resolve_right ?_⟩
        rintro ⟨-, -, -, -, hfew⟩
        exact hvisible (hlow.mpr hfew)
    · rw [Bool.eq_false_iff.mpr hupdate, Bool.false_and, if_neg Bool.false_ne_true]
      refine ⟨Or.inl, fun hor => hor.resolve_right ?_⟩
      rintro ⟨-, hunprop, hreports, htoa, -⟩
      exact hupdate ((report.updateMeaAvailForPVTArray_iff info unpropagatedPosition
        measurementReports).mpr ⟨hunprop, hreports, htoa⟩)
  · rw [if_neg hposition, Option.some.injEq] at hmask
    subst hmask
    exact ⟨fun hno => absurd hno Bool.false_ne_true, fun hyes => absurd hyes.1 hposition⟩

end PositionReport

namespace PositionChecks

variable {R D G X H M : Type} (conv : Converters R D G X H M) (fields : BasicFields D X)
  (capacity : Capacity) (prn : PrnRanges) (gnssSvMax : Nat)

def step (s : PositionChecks R D G X H M) : PositionEvent R → PositionChecks R D G X H M
  | .measurements ind =>
    { s with
      assembly := s.assembly.step (conv.keeping fields capacity.measurementsMax) capacity ind }
  | .eventMask measurementReports => { s with measurementReports }
  | .position report unpropagatedPosition reported =>
    { s with positions := s.positions ++
      [{ report, unpropagatedPosition, measurementReports := s.measurementReports, reported
         arrived := s.assembly.arrived
         info := s.assembly.state.info1Hz
         tech_mask := report.techMask prn gnssSvMax s.assembly.state.info1Hz unpropagatedPosition
           s.measurementReports reported }] }

def start (mPreferredSignalType : UInt64) (fullPower : Bool) (members : M) :
    PositionChecks R D G X H M :=
  ⟨.start conv fields capacity mPreferredSignalType fullPower members, false, []⟩

/-- A message of measurements that is used as it should be and tells its rate; a position whose
lists are within their arrays. -/
def Sound (s : PositionChecks R D G X H M) : PositionEvent R → Prop
  | .measurements ind => s.assembly.Clean ind ∧ s.assembly.TellsRate ind
  | .eventMask _ => True
  | .position report _ _ => report.used.Within

/-- What is reported is right, and what comes next will be. -/
structure Inv (signalType : UInt64) (s : PositionChecks R D G X H M) : Prop where
  keeps : s.assembly.Keeps fields capacity
  preferred : s.assembly.preferred = signalType
  right : ∀ p ∈ s.positions, p.Right D G X H prn gnssSvMax fields capacity signalType

variable {conv fields capacity prn gnssSvMax} {signalType : UInt64}

/-- No message changes the preferred signal. -/
theorem preferred_step {s : Assembly R D G X H M} (ind : GnssSvMeasInfoInd R) :
    (s.step conv capacity ind).preferred = s.preferred := by
  have hallocate : (s.state.allocate conv).api.mPreferredSignalType = s.preferred := by
    rw [MeasState.allocate]
    split <;> rfl
  show (s.state.reportGnssMeasurementData conv capacity ind).api.mPreferredSignalType = _
  simp only [MeasState.reportGnssMeasurementData]
  split
  · exact hallocate
  · have hbegin : ((s.state.allocate conv).beginEpoch conv ind).api.mPreferredSignalType =
        s.preferred := by
      rw [MeasState.beginEpoch]
      split
      · split <;> exact hallocate
      · exact hallocate
    split
    · exact hbegin
    · have hcollect := (MeasState.collect_spec conv capacity
        ((s.state.allocate conv).beginEpoch conv ind) ind).2.2.1
      rw [MeasState.finish]
      split <;> exact hcollect.trans hbegin

theorem Inv.step {s : PositionChecks R D G X H M}
    (h : s.Inv fields capacity prn gnssSvMax signalType) {event : PositionEvent R}
    (hsound : s.Sound event) :
    (s.step conv fields capacity prn gnssSvMax event).Inv fields capacity prn gnssSvMax
      signalType := by
  cases event with
  | measurements ind =>
    exact ⟨h.keeps.step conv fields hsound.1 hsound.2,
      (preferred_step ind).trans h.preferred, h.right⟩
  | eventMask measurementReports => exact ⟨h.keeps, h.preferred, h.right⟩
  | position report unpropagatedPosition reported =>
    refine ⟨h.keeps, h.preferred, fun p hp => ?_⟩
    rcases List.mem_append.mp hp with hp | hp
    · exact h.right p hp
    · rw [List.mem_singleton.mp hp]
      refine ⟨?_, report.isSome_techMask_iff prn gnssSvMax _ _ _ _ hsound,
        fun mask hmask => report.techMask_iff prn gnssSvMax _ _ _ _ hsound hmask⟩
      rw [← h.preferred]
      exact h.keeps.copy

/-- Satellite 5 with L1 C/A, and a clock with a bias of 0. -/
def gpsFields : BasicFields Unit Unit where
  svId := fun _ => 5
  gnssSignalType := fun _ signal => decide (signal = .gpsL1ca)
  hasBias := fun _ => true
  fullBiasNs := fun _ => 0

/-- An epoch with satellite 5, and a position that used it half a second after. -/
def oneMeasured : List (PositionEvent Unit) :=
  [.eventMask true, .measurements (sampleInd 1 1 1 1 freshMeasurement),
    .position ⟨.success, 1, some (0, 1500), SvUsed.oneSv 5 1⟩ false true]

end PositionChecks

end LocationStack.LocApi
