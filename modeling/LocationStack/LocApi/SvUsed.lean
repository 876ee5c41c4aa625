import LocationStack.Lib.BitMask
import LocationStack.Lib.FlagTable
import LocationStack.Lib.Guarded
import Mathlib.Logic.Function.Basic

/-! # The satellites used in a position

A position report of the modem has a list of the satellites that it was computed from, and may
have the signals of each in a list beside it.  `reportPosition` makes masks of them, one for each
constellation and one for each signal: a satellite is a bit, by its distance from the first number
of its constellation.

What the numbers are of the satellites of a constellation, and how many entries the array
`measUsageInfo` has, is defined elsewhere; the ranges documented for the reports of the modem are
`PrnRanges.documented`.  A mask of signals is the set of its signals.  A shift by less than 0 or
more than 63, and an index that is outside of its array, are undefined.
-/
namespace LocationStack.LocApi

/-! ## Signals -/

/-- `GnssSignalTypeMask`, its bits. -/
inductive GnssSignal
  | gpsL1ca | gpsL1c | gpsL2 | gpsL5
  | glonassG1 | glonassG2
  | galileoE1 | galileoE5a | galileoE5b
  | beidouB1i | beidouB1c | beidouB2i | beidouB2ai | beidouB2bi | beidouB2bq | beidouB2aq
  | qzssL1ca | qzssL1s | qzssL2 | qzssL5
  | sbasL1
  | navicL5 | navicL1
  deriving Repr, DecidableEq

/-- `qmiLocGnssSignalTypeMaskT_v02`, the bit of each signal. -/
def qmiSignalTable : FlagTable GnssSignal 64 where
  rows :=
    [(.gpsL1ca, 0x1), (.gpsL1c, 0x2), (.gpsL2, 0x4), (.gpsL5, 0x8), (.glonassG1, 0x10),
      (.glonassG2, 0x20), (.galileoE1, 0x40), (.galileoE5a, 0x80), (.galileoE5b, 0x100),
      (.beidouB1i, 0x200), (.beidouB1c, 0x400), (.beidouB2i, 0x800), (.beidouB2ai, 0x1000),
      (.beidouB2bi, 0x100000), (.beidouB2bq, 0x200000), (.qzssL1ca, 0x2000), (.qzssL1s, 0x4000),
      (.qzssL2, 0x8000), (.qzssL5, 0x10000), (.sbasL1, 0x20000), (.navicL5, 0x40000),
      (.navicL1, 0x400000), (.beidouB2aq, 0x80000)]
  nonzero := by decide
  disjoint := by decide

/-- `convertQmiGnssSignalType` -/
def convertQmiGnssSignalType (qmiGnssSignalType : BitVec 64) : Flags GnssSignal :=
  qmiSignalTable.read qmiGnssSignalType

/-! ## Constellations -/

/-- The constellations with masks of their own. -/
inductive SvConstellation
  | gps | glonass | bds | galileo | qzss | navic
  deriving Repr, DecidableEq

namespace SvConstellation

/-- The signals that have masks, in the order they are tested in. -/
def signals : SvConstellation → List GnssSignal
  | gps => [.gpsL1ca, .gpsL1c, .gpsL2, .gpsL5]
  | glonass => [.glonassG1, .glonassG2]
  | bds => [.beidouB1i, .beidouB1c, .beidouB2i, .beidouB2ai, .beidouB2aq, .beidouB2bi, .beidouB2bq]
  | galileo => [.galileoE1, .galileoE5a, .galileoE5b]
  | qzss => [.qzssL1ca, .qzssL1s, .qzssL2, .qzssL5]
  | navic => [.navicL5, .navicL1]

/-- The signal of a satellite if nothing is said of signals. -/
def defaultSignal : SvConstellation → GnssSignal
  | gps => .gpsL1ca
  | glonass => .glonassG1
  | bds => .beidouB1i
  | galileo => .galileoE1
  | qzss => .qzssL1ca
  | navic => .navicL5

end SvConstellation

/-- The numbers of the satellites of a constellation, for which a mask has enough bits. -/
structure PrnRange where
  min : Nat
  max : Nat
  narrow : max < min + 64

/-- `GPS_SV_PRN_MIN`, `GPS_SV_PRN_MAX` and so on. -/
structure PrnRanges where
  range : SvConstellation → PrnRange
  gps_min : (range .gps).min = 1
  gps_glonass : (range .gps).max < (range .glonass).min
  glonass_qzss : (range .glonass).max < (range .qzss).min
  qzss_bds : (range .qzss).max < (range .bds).min
  bds_galileo : (range .bds).max < (range .galileo).min
  galileo_navic : (range .galileo).max < (range .navic).min
  nonempty : ∀ c, (range c).min ≤ (range c).max

/-- The ranges of the reports of the modem. -/
def PrnRanges.documented : PrnRanges where
  range
    | .gps => ⟨1, 32, by decide⟩
    | .glonass => ⟨65, 96, by decide⟩
    | .qzss => ⟨193, 197, by decide⟩
    | .bds => ⟨201, 263, by decide⟩
    | .galileo => ⟨301, 336, by decide⟩
    | .navic => ⟨401, 420, by decide⟩
  gps_min := rfl
  gps_glonass := by decide
  glonass_qzss := by decide
  qzss_bds := by decide
  bds_galileo := by decide
  galileo_navic := by decide
  nonempty := by
    intro c
    cases c <;> decide

/-! ## The code -/

/-- `QMI_LOC_MAX_SV_USED_LIST_LENGTH`. -/
def maxSvUsedListLength : Nat := 80
/-- `QMI_LOC_EXPANDED_SV_INFO_LIST_MAX_SIZE`. -/
def expandedSvInfoListMaxSize : Nat := 176

/-- `qmiLocEventPositionReportIndMsgT_v02`, the lists of satellites.  An array has all of its
elements, also those behind the length that is told. -/
structure UsedSvReport where
  expandedGnssSvUsedList_valid : Bool
  expandedGnssSvUsedList_len : Nat
  expandedGnssSvUsedList : Vector UInt16 expandedSvInfoListMaxSize
  gnssSvUsedList_valid : Bool
  gnssSvUsedList_len : Nat
  gnssSvUsedList : Vector UInt16 maxSvUsedListLength
  gnssSvUsedSignalTypeList_valid : Bool
  gnssSvUsedSignalTypeList_len : Nat
  gnssSvUsedSignalTypeList : Vector (BitVec 64) expandedSvInfoListMaxSize

namespace UsedSvReport

variable (report : UsedSvReport)

/-- The lists are looked at. -/
def hasUsed : Bool :=
  (report.expandedGnssSvUsedList_valid && report.expandedGnssSvUsedList_len != 0) ||
    (report.gnssSvUsedList_valid && report.gnssSvUsedList_len != 0)

/-- `gnssSvUsedList_len`, the length of the list that is used. -/
def usedLen : Nat :=
  if report.expandedGnssSvUsedList_valid then report.expandedGnssSvUsedList_len
  else if report.gnssSvUsedList_valid then report.gnssSvUsedList_len
  else 0

/-- `svUsedList[idx]` -/
def usedSv (idx : Nat) : Option UInt16 :=
  if report.expandedGnssSvUsedList_valid then report.expandedGnssSvUsedList[idx]?
  else report.gnssSvUsedList[idx]?

/-- If multifreq data is not available then default to L1 for all constellations. -/
def multiBandTypesAvailable : Bool :=
  report.gnssSvUsedSignalTypeList_valid && report.gnssSvUsedSignalTypeList_len != 0

end UsedSvReport

/-- `GnssMeasUsageInfo`. -/
structure MeasUsage where
  gnssSvId : UInt16
  gnssConstellation : Option SvConstellation
  gnssSignalType : Flags GnssSignal

/-- What is made of the lists: members of `GpsLocationExtended`, and `meaAvailForPVT`. -/
structure SvUsed where
  gnssSvUsedIdsMask : SvConstellation → BitVec 64
  gnssMbSvUsedIdsMask : GnssSignal → BitVec 64
  measUsageInfo : List (Nat × MeasUsage)
  meaAvailForPVT : SvConstellation → UInt16
  numOfMeasReceived : Nat
  hasGnssSvUsedData : Bool
  hasMultiband : Bool

/-- `memset` -/
def SvUsed.zero : SvUsed := ⟨fun _ => 0, fun _ => 0, [], fun _ => 0, 0, false, false⟩

/-- What `reportPosition` has from elsewhere: the position is unpropagated or is to be reported,
`updateMeaAvailForPVTArray`, the measurements of `m1HzMeasurementsInfo`, and `GNSS_SV_MAX`. -/
structure UsedContext where
  converts : Bool
  updateMeaAvailForPVTArray : Bool
  measurements : List (UInt16 × Flags GnssSignal)
  gnssSvMax : Nat

/-- Two masks of signals are equal. -/
def sameSignals (mask mask' : Flags GnssSignal) : Bool :=
  qmiSignalTable.rows.all fun row => mask row.1 == mask' row.1

/-- `isMeasurementRefreshForSv` -/
def UsedContext.isMeasurementRefreshForSv (ctx : UsedContext) (gnssSvId : UInt16)
    (gnssSignalTypeMask : Flags GnssSignal) : Bool :=
  ctx.measurements.any fun m => m.1 == gnssSvId && sameSignals m.2 gnssSignalTypeMask

/-- `1ULL << amount` -/
def shiftOne (amount : Int) : Option (BitVec 64) :=
  if 0 ≤ amount ∧ amount < 64 then some (1#64 <<< amount.toNat) else none

namespace PrnRanges

variable (prn : PrnRanges)

def inRange (c : SvConstellation) (id : UInt16) : Bool :=
  decide ((prn.range c).min ≤ id.toNat) && decide (id.toNat ≤ (prn.range c).max)

/-- The chain of tests; the first has no lower bound. -/
def constellationOf (id : UInt16) : Option SvConstellation :=
  if id.toNat ≤ (prn.range .gps).max then some .gps
  else if prn.inRange .glonass id then some .glonass
  else if prn.inRange .bds id then some .bds
  else if prn.inRange .galileo id then some .galileo
  else if prn.inRange .qzss id then some .qzss
  else if prn.inRange .navic id then some .navic
  else none

end PrnRanges

namespace SvUsed

variable (prn : PrnRanges) (ctx : UsedContext)

/-- The tests of the signals of a constellation, one after the other. -/
def markSignals (bit : BitVec 64) (gnssSignalType : Flags GnssSignal) (signals : List GnssSignal)
    (mask : GnssSignal → BitVec 64) : GnssSignal → BitVec 64 :=
  signals.foldl (fun mask signal =>
    if gnssSignalType signal then Function.update mask signal (mask signal ||| bit) else mask) mask

/-- The branch of a constellation. -/
def markConstellation (c : SvConstellation) (bit : BitVec 64) (multiBand : Bool)
    (gnssSignalType : Flags GnssSignal) (s : SvUsed) : SvUsed :=
  { s with
    gnssSvUsedIdsMask := Function.update s.gnssSvUsedIdsMask c (s.gnssSvUsedIdsMask c ||| bit)
    gnssMbSvUsedIdsMask :=
      if multiBand then markSignals bit gnssSignalType c.signals s.gnssMbSvUsedIdsMask
      else s.gnssMbSvUsedIdsMask }

/-- An entry of `measUsageInfo`, if it is inside the array. -/
def setUsage (idx : Nat) (usage : MeasUsage) (s : SvUsed) : Option SvUsed :=
  if idx < ctx.gnssSvMax then some { s with measUsageInfo := s.measUsageInfo ++ [(idx, usage)] }
  else none

/-- What is done with a satellite of a position that is converted. -/
def useSv (multiBand : Bool) (idx : Nat) (id : UInt16) (signals : Flags GnssSignal) (s : SvUsed) :
    Option SvUsed :=
  match prn.constellationOf id with
  | none => s.setUsage ctx idx ⟨id, none, fun _ => false⟩
  | some c => do
    let bit ← shiftOne ((id.toNat : Int) - (prn.range c).min)
    let used : Flags GnssSignal :=
      if multiBand then signals else fun signal => decide (signal = c.defaultSignal)
    (s.markConstellation c bit multiBand signals).setUsage ctx idx ⟨id, some c, used⟩

/-- A satellite with a measurement is counted. -/
def countRefreshed (id : UInt16) (signals : Flags GnssSignal) (s : SvUsed) : SvUsed :=
  if ctx.updateMeaAvailForPVTArray && ctx.isMeasurementRefreshForSv id signals then
    match prn.constellationOf id with
    | none => s
    | some c =>
      { s with meaAvailForPVT := Function.update s.meaAvailForPVT c (s.meaAvailForPVT c + 1) }
  else s

/-- Nothing is done with a position that is not converted. -/
def convertSv (multiBand : Bool) (idx : Nat) (id : UInt16) (signals : Flags GnssSignal)
    (s : SvUsed) : Option SvUsed :=
  if ctx.converts then s.useSv prn ctx multiBand idx id signals else some s

/-- The body of the loop. -/
def body (report : UsedSvReport) (s : SvUsed) (idx : Nat) : Option SvUsed := do
  let id ← report.usedSv idx
  let qmiGnssSignalType ← report.gnssSvUsedSignalTypeList[idx]?
  let signals := convertQmiGnssSignalType qmiGnssSignalType
  let s ← s.convertSv prn ctx report.multiBandTypesAvailable idx id signals
  return s.countRefreshed prn ctx id signals

/-- `reportPosition`, the satellites used. -/
def ofReport (report : UsedSvReport) : Option SvUsed :=
  if report.hasUsed then
    (List.range report.usedLen).foldlM (body prn ctx report)
      { SvUsed.zero with
        numOfMeasReceived := report.usedLen
        hasGnssSvUsedData := ctx.converts
        hasMultiband := ctx.converts && report.multiBandTypesAvailable }
  else some .zero

end SvUsed

/-! ## Numbers of satellites -/

namespace PrnRanges

variable (prn : PrnRanges)

/-- A number is one of a constellation, by its distance from the first. -/
theorem constellationOf_eq_some {id : UInt16} (hid : id ≠ 0) {c : SvConstellation} :
    prn.constellationOf id = some c ↔ prn.inRange c id = true := by
  have hpos : 1 ≤ id.toNat := by
    have hne : id.toNat ≠ 0 := fun h => hid (UInt16.toNat_inj.mp h)
    omega
  have hgps := prn.gps_min
  have h1 := prn.gps_glonass
  have h2 := prn.glonass_qzss
  have h3 := prn.qzss_bds
  have h4 := prn.bds_galileo
  have h5 := prn.galileo_navic
  have hgps' := prn.nonempty .gps
  have hglonass := prn.nonempty .glonass
  have hqzss := prn.nonempty .qzss
  have hbds := prn.nonempty .bds
  have hgalileo := prn.nonempty .galileo
  have hnavic := prn.nonempty .navic
  unfold constellationOf inRange
  cases c <;> grind

/-- The first constellation takes 0 for one of its own. -/
theorem constellationOf_zero : prn.constellationOf 0 = some .gps :=
  if_pos (Nat.zero_le _)

theorem inRange_iff {c : SvConstellation} {id : UInt16} :
    prn.inRange c id = true ↔
      (prn.range c).min ≤ id.toNat ∧ id.toNat ≤ (prn.range c).max := by
  rw [inRange, Bool.and_eq_true, decide_eq_true_eq, decide_eq_true_eq]

/-- The shift of a number is defined. -/
def Shiftable (id : UInt16) : Prop :=
  ∀ c, prn.constellationOf id = some c →
    0 ≤ (id.toNat : Int) - (prn.range c).min ∧ (id.toNat : Int) - (prn.range c).min < 64

theorem shiftable_iff {id : UInt16} : prn.Shiftable id ↔ id ≠ 0 := by
  constructor
  · rintro h rfl
    have hgps := (h _ prn.constellationOf_zero).1
    rw [prn.gps_min] at hgps
    exact absurd hgps (by decide)
  · intro hid c hc
    obtain ⟨hmin, hmax⟩ := prn.inRange_iff.mp ((prn.constellationOf_eq_some hid).mp hc)
    have hnarrow := (prn.range c).narrow
    omega

end PrnRanges

/-! ## One satellite -/

namespace UsedSvReport

variable (report : UsedSvReport)

/-- No length is more than its array has. -/
structure Within : Prop where
  expanded : report.expandedGnssSvUsedList_len ≤ expandedSvInfoListMaxSize
  used : report.gnssSvUsedList_len ≤ maxSvUsedListLength
  signals : report.gnssSvUsedSignalTypeList_len ≤ expandedSvInfoListMaxSize

/-- The satellite at an index. -/
def id (idx : Nat) : UInt16 := (report.usedSv idx).getD 0

/-- The signals at an index, whether they are part of the list or not. -/
def signalsAt (idx : Nat) : Flags GnssSignal :=
  convertQmiGnssSignalType (report.gnssSvUsedSignalTypeList[idx]?.getD 0)

variable {report}

theorem usedSv_eq_some (h : report.Within) {idx : Nat} (hidx : idx < report.usedLen) :
    report.usedSv idx = some (report.id idx) := by
  have hsome : (report.usedSv idx).isSome = true := by
    unfold usedLen at hidx
    unfold usedSv
    split at hidx
    next hvalid =>
      have hlt : idx < expandedSvInfoListMaxSize := Nat.lt_of_lt_of_le hidx h.expanded
      rw [if_pos hvalid, Vector.getElem?_eq_getElem hlt]
      rfl
    next hvalid =>
      rw [if_neg hvalid]
      split at hidx
      next =>
        have hlt : idx < maxSvUsedListLength := Nat.lt_of_lt_of_le hidx h.used
        rw [Vector.getElem?_eq_getElem hlt]
        rfl
      next => exact absurd hidx (Nat.not_lt_zero idx)
  obtain ⟨id, hid⟩ := Option.isSome_iff_exists.mp hsome
  rw [UsedSvReport.id, hid, Option.getD_some]

theorem usedLen_le (h : report.Within) : report.usedLen ≤ expandedSvInfoListMaxSize := by
  unfold usedLen
  split
  next => exact h.expanded
  next =>
    split
    next => exact Nat.le_trans h.used (by decide)
    next => exact Nat.zero_le _

theorem signal_eq_some (h : report.Within) {idx : Nat} (hidx : idx < report.usedLen) :
    report.gnssSvUsedSignalTypeList[idx]? =
      some (report.gnssSvUsedSignalTypeList[idx]?.getD 0) := by
  rw [Vector.getElem?_eq_getElem (Nat.lt_of_lt_of_le hidx (usedLen_le h)), Option.getD_some]

end UsedSvReport

namespace SvUsed

variable (prn : PrnRanges) (ctx : UsedContext) (report : UsedSvReport)

theorem markSignals_apply (bit : BitVec 64) (gnssSignalType : Flags GnssSignal)
    (signals : List GnssSignal) (hnodup : signals.Nodup) (mask : GnssSignal → BitVec 64)
    (signal : GnssSignal) :
    markSignals bit gnssSignalType signals mask signal =
      if signal ∈ signals ∧ gnssSignalType signal = true then mask signal ||| bit
      else mask signal := by
  unfold markSignals
  induction signals generalizing mask with
  | nil => simp
  | cons first signals ih =>
    obtain ⟨hfirst, hrest⟩ := List.nodup_cons.mp hnodup
    rw [List.foldl_cons, ih hrest]
    by_cases heq : signal = first
    · subst heq
      by_cases hon : gnssSignalType signal = true
      · simp [hfirst, hon]
      · simp [hon]
    · have hmask : (if gnssSignalType first = true then
          Function.update mask first (mask first ||| bit) else mask) signal = mask signal := by
        split
        · exact Function.update_of_ne heq _ _
        · rfl
      rw [hmask]
      simp [heq]

theorem signals_nodup (c : SvConstellation) : c.signals.Nodup := by
  cases c <;> decide

/-- A signal belongs to one constellation. -/
theorem signals_disjoint {c c' : SvConstellation} {signal : GnssSignal} (h : signal ∈ c.signals)
    (h' : signal ∈ c'.signals) : c = c' := by
  cases c <;> cases c' <;> first | rfl | (revert h h'; cases signal <;> decide)

/-- The bit of a satellite. -/
def bitOf (c : SvConstellation) (id : UInt16) : BitVec 64 :=
  1#64 <<< ((id.toNat : Int) - (prn.range c).min).toNat

/-- What a satellite sets in the mask of a constellation. -/
def usedBit (c : SvConstellation) (idx : Nat) : BitVec 64 :=
  if prn.constellationOf (report.id idx) = some c then bitOf prn c (report.id idx) else 0#64

/-- What it sets in the mask of a signal of a constellation. -/
def signalBit (c : SvConstellation) (signal : GnssSignal) (idx : Nat) : BitVec 64 :=
  if report.multiBandTypesAvailable = true ∧ report.signalsAt idx signal = true then
    usedBit prn report c idx
  else 0#64

/-- The entry of `measUsageInfo`. -/
def usageOf (idx : Nat) : MeasUsage :=
  match prn.constellationOf (report.id idx) with
  | none => ⟨report.id idx, none, fun _ => false⟩
  | some c =>
    ⟨report.id idx, some c,
      if report.multiBandTypesAvailable then report.signalsAt idx
      else fun signal => decide (signal = c.defaultSignal)⟩

/-- A satellite that is used, without the guards. -/
def mark (s : SvUsed) (idx : Nat) : SvUsed :=
  let s : SvUsed :=
    match prn.constellationOf (report.id idx) with
    | none => s
    | some c =>
      s.markConstellation c (bitOf prn c (report.id idx)) report.multiBandTypesAvailable
        (report.signalsAt idx)
  { s with measUsageInfo := s.measUsageInfo ++ [(idx, usageOf prn report idx)] }

/-- The body of the loop, without the guards. -/
def step (s : SvUsed) (idx : Nat) : SvUsed :=
  (if ctx.converts then s.mark prn report idx else s).countRefreshed prn ctx (report.id idx)
    (report.signalsAt idx)

/-- The guards. -/
def Defined (idx : Nat) : Prop :=
  ctx.converts = true → idx < ctx.gnssSvMax ∧ report.id idx ≠ 0

theorem shiftOne_eq_some {amount : Int} {bit : BitVec 64} :
    shiftOne amount = some bit ↔ (0 ≤ amount ∧ amount < 64) ∧ 1#64 <<< amount.toNat = bit := by
  rw [shiftOne, Option.ite_none_right_eq_some, Option.some.injEq]

theorem setUsage_eq_some {idx : Nat} {usage : MeasUsage} {s t : SvUsed} :
    s.setUsage ctx idx usage = some t ↔
      idx < ctx.gnssSvMax ∧
        { s with measUsageInfo := s.measUsageInfo ++ [(idx, usage)] } = t := by
  rw [setUsage, Option.ite_none_right_eq_some, Option.some.injEq]

theorem useSv_eq_some (s t : SvUsed) (idx : Nat) :
    s.useSv prn ctx report.multiBandTypesAvailable idx (report.id idx) (report.signalsAt idx) =
        some t ↔
      (idx < ctx.gnssSvMax ∧ report.id idx ≠ 0) ∧ s.mark prn report idx = t := by
  rw [← prn.shiftable_iff, PrnRanges.Shiftable]
  unfold useSv mark usageOf
  cases hc : prn.constellationOf (report.id idx) with
  | none =>
    rw [setUsage_eq_some]
    exact ⟨fun ⟨hlt, heq⟩ => ⟨⟨hlt, nofun⟩, heq⟩, fun ⟨⟨hlt, _⟩, heq⟩ => ⟨hlt, heq⟩⟩
  | some c =>
    simp only [Option.bind_eq_bind, Option.bind_eq_some_iff, shiftOne_eq_some, setUsage_eq_some,
      Option.some.injEq, forall_eq']
    constructor
    · rintro ⟨_, ⟨hshift, rfl⟩, hlt, heq⟩
      exact ⟨⟨hlt, hshift⟩, heq⟩
    · rintro ⟨⟨hlt, hshift⟩, heq⟩
      exact ⟨_, ⟨hshift, rfl⟩, hlt, heq⟩

/-! ## All satellites -/

variable {report}

theorem convertSv_eq_some (s t : SvUsed) (idx : Nat) :
    s.convertSv prn ctx report.multiBandTypesAvailable idx (report.id idx)
        (report.signalsAt idx) = some t ↔
      Defined ctx report idx ∧ (if ctx.converts then s.mark prn report idx else s) = t := by
  unfold convertSv Defined
  by_cases hconv : ctx.converts = true
  · rw [if_pos hconv, if_pos hconv, useSv_eq_some, imp_iff_right hconv]
  · rw [if_neg hconv, if_neg hconv, Option.some.injEq]
    exact ⟨fun heq => ⟨fun h => absurd h hconv, heq⟩, fun h => h.2⟩

theorem body_hasGuard (h : report.Within) {idx : Nat} (hidx : idx < report.usedLen) :
    Guarded.HasGuard (body prn ctx report) (Defined ctx report) (step prn ctx report) idx := by
  intro s t
  rw [body, UsedSvReport.usedSv_eq_some h hidx, UsedSvReport.signal_eq_some h hidx, step]
  simp only [Option.bind_eq_bind, Option.bind_some, Option.bind_eq_some_iff, Option.pure_def,
    Option.some.injEq]
  constructor
  · rintro ⟨u, hu, rfl⟩
    obtain ⟨hok, rfl⟩ := (convertSv_eq_some prn ctx s u idx).mp hu
    exact ⟨hok, rfl⟩
  · rintro ⟨hok, rfl⟩
    exact ⟨_, (convertSv_eq_some prn ctx s _ idx).mpr ⟨hok, rfl⟩, rfl⟩

/-- What the loop begins with. -/
def start (ctx : UsedContext) (report : UsedSvReport) : SvUsed :=
  { SvUsed.zero with
    numOfMeasReceived := report.usedLen
    hasGnssSvUsedData := ctx.converts
    hasMultiband := ctx.converts && report.multiBandTypesAvailable }

theorem usedLen_of_not_hasUsed (h : report.hasUsed = false) : report.usedLen = 0 := by
  simp only [UsedSvReport.hasUsed, Bool.or_eq_false_iff, Bool.and_eq_false_iff, bne_eq_false_iff_eq]
    at h
  unfold UsedSvReport.usedLen
  split
  next hvalid => exact h.1.resolve_left fun hfalse => Bool.false_ne_true (hfalse ▸ hvalid)
  next =>
    split
    next hvalid => exact h.2.resolve_left fun hfalse => Bool.false_ne_true (hfalse ▸ hvalid)
    next => rfl

/-- The result, if the guards hold. -/
theorem ofReport_eq_some (h : report.Within) (hused : report.hasUsed = true) (out : SvUsed) :
    ofReport prn ctx report = some out ↔
      (∀ idx < report.usedLen, Defined ctx report idx) ∧
        (List.range report.usedLen).foldl (step prn ctx report) (start ctx report) = out := by
  have hguard : ∀ idx ∈ List.range report.usedLen,
      Guarded.HasGuard (body prn ctx report) (Defined ctx report) (step prn ctx report) idx :=
    fun idx hidx => body_hasGuard prn ctx h (List.mem_range.mp hidx)
  rw [ofReport, if_pos hused, Guarded.foldlM_eq_some_iff hguard]
  simp only [List.mem_range]
  rfl

theorem countRefreshed_used (id : UInt16) (signals : Flags GnssSignal) (s : SvUsed) :
    (s.countRefreshed prn ctx id signals).gnssSvUsedIdsMask = s.gnssSvUsedIdsMask ∧
      (s.countRefreshed prn ctx id signals).gnssMbSvUsedIdsMask = s.gnssMbSvUsedIdsMask := by
  unfold countRefreshed
  split
  · cases prn.constellationOf id <;> exact ⟨rfl, rfl⟩
  · exact ⟨rfl, rfl⟩

theorem mark_used (s : SvUsed) (idx : Nat) (c : SvConstellation) :
    (s.mark prn report idx).gnssSvUsedIdsMask c =
      s.gnssSvUsedIdsMask c ||| usedBit prn report c idx := by
  unfold mark usedBit
  cases hc : prn.constellationOf (report.id idx) with
  | none => simp
  | some c' =>
    simp only [markConstellation, Option.some.injEq]
    by_cases heq : c' = c
    · subst heq
      rw [Function.update_self, if_pos rfl]
    · rw [Function.update_of_ne (Ne.symm heq), if_neg heq, BitVec.or_zero]

theorem mark_signal (s : SvUsed) (idx : Nat) {c : SvConstellation} {signal : GnssSignal}
    (hsignal : signal ∈ c.signals) :
    (s.mark prn report idx).gnssMbSvUsedIdsMask signal =
      s.gnssMbSvUsedIdsMask signal ||| signalBit prn report c signal idx := by
  unfold mark signalBit usedBit
  cases hc : prn.constellationOf (report.id idx) with
  | none => simp
  | some c' =>
    simp only [markConstellation, Option.some.injEq]
    by_cases hmulti : report.multiBandTypesAvailable = true
    · rw [if_pos hmulti, markSignals_apply _ _ _ (signals_nodup c')]
      by_cases heq : c' = c
      · subst heq
        by_cases hon : report.signalsAt idx signal = true
        · rw [if_pos ⟨hsignal, hon⟩, if_pos ⟨hmulti, hon⟩, if_pos rfl]
        · rw [if_neg (fun h => hon h.2), if_neg (fun h => hon h.2), BitVec.or_zero]
      · have hnot : signal ∉ c'.signals := fun h => heq (signals_disjoint h hsignal)
        rw [if_neg (fun h => hnot h.1), if_neg heq, ite_self, BitVec.or_zero]
    · rw [if_neg hmulti, if_neg (fun h => hmulti h.1), BitVec.or_zero]

theorem step_used (hconv : ctx.converts = true) (s : SvUsed) (idx : Nat) (c : SvConstellation) :
    (step prn ctx report s idx).gnssSvUsedIdsMask c =
      s.gnssSvUsedIdsMask c ||| usedBit prn report c idx := by
  rw [step, if_pos hconv, (countRefreshed_used _ _ _ _ _).1, mark_used]

theorem step_signal (hconv : ctx.converts = true) (s : SvUsed) (idx : Nat) {c : SvConstellation}
    {signal : GnssSignal} (hsignal : signal ∈ c.signals) :
    (step prn ctx report s idx).gnssMbSvUsedIdsMask signal =
      s.gnssMbSvUsedIdsMask signal ||| signalBit prn report c signal idx := by
  rw [step, if_pos hconv, (countRefreshed_used _ _ _ _ _).2, mark_signal prn s idx hsignal]

/-- The mask of a constellation, after the loop. -/
theorem foldl_used (hconv : ctx.converts = true) (l : List Nat) (s : SvUsed)
    (c : SvConstellation) :
    (l.foldl (step prn ctx report) s).gnssSvUsedIdsMask c =
      l.foldl (fun mask idx => mask ||| usedBit prn report c idx) (s.gnssSvUsedIdsMask c) := by
  induction l generalizing s with
  | nil => rfl
  | cons idx l ih => rw [List.foldl_cons, List.foldl_cons, ih, step_used prn ctx hconv]

/-- The mask of a signal. -/
theorem foldl_signal (hconv : ctx.converts = true) (l : List Nat) (s : SvUsed)
    {c : SvConstellation} {signal : GnssSignal} (hsignal : signal ∈ c.signals) :
    (l.foldl (step prn ctx report) s).gnssMbSvUsedIdsMask signal =
      l.foldl (fun mask idx => mask ||| signalBit prn report c signal idx)
        (s.gnssMbSvUsedIdsMask signal) := by
  induction l generalizing s with
  | nil => rfl
  | cons idx l ih =>
    rw [List.foldl_cons, List.foldl_cons, ih, step_signal prn ctx hconv s idx hsignal]

end SvUsed

/-! ## What the masks should be -/

namespace UsedSvReport

variable (report : UsedSvReport) (prn : PrnRanges)

/-- At this index the list has the satellite of a constellation that is `k` from its first. -/
def Lists (c : SvConstellation) (k idx : Nat) : Prop :=
  idx < report.usedLen ∧ (report.id idx).toNat = (prn.range c).min + k ∧
    (report.id idx).toNat ≤ (prn.range c).max

/-- At this index the list of signals has the signal. -/
def Reports (signal : GnssSignal) (idx : Nat) : Prop :=
  report.gnssSvUsedSignalTypeList_valid = true ∧ idx < report.gnssSvUsedSignalTypeList_len ∧
    report.signalsAt idx signal = true

end UsedSvReport

/-- The masks have the satellites that are listed, and no others. -/
structure SvUsed.Right (out : SvUsed) (prn : PrnRanges) (report : UsedSvReport) : Prop where
  used : ∀ c k, (out.gnssSvUsedIdsMask c).getLsbD k = true ↔ ∃ idx, report.Lists prn c k idx
  signal : ∀ c, ∀ signal ∈ c.signals, ∀ k,
    (out.gnssMbSvUsedIdsMask signal).getLsbD k = true ↔
      ∃ idx, report.Lists prn c k idx ∧ report.Reports signal idx

/-- The mask of a signal is a part of the mask of its constellation. -/
theorem SvUsed.Right.subset {out : SvUsed} {prn : PrnRanges} {report : UsedSvReport}
    (h : out.Right prn report) {c : SvConstellation} {signal : GnssSignal}
    (hsignal : signal ∈ c.signals) (k : Nat)
    (hk : (out.gnssMbSvUsedIdsMask signal).getLsbD k = true) :
    (out.gnssSvUsedIdsMask c).getLsbD k = true := by
  obtain ⟨idx, hlists, -⟩ := (h.signal c signal hsignal k).mp hk
  exact (h.used c k).mpr ⟨idx, hlists⟩

/-- What the masks need to be so. -/
structure UsedSvReport.Usable (report : UsedSvReport) (prn : PrnRanges) (ctx : UsedContext) :
    Prop where
  /-- No satellite has the number 0. -/
  ids : ∀ idx < report.usedLen, report.id idx ≠ 0
  /-- There are not more than `measUsageInfo` has room for. -/
  room : report.usedLen ≤ ctx.gnssSvMax
  /-- If there is a list of signals, it is as long as the list of satellites, or else what its
  array has behind its end is told of the same satellite before. -/
  unreported : report.multiBandTypesAvailable = true → ∀ c k idx, report.Lists prn c k idx →
    report.gnssSvUsedSignalTypeList_len ≤ idx → ∀ signal ∈ c.signals,
      report.signalsAt idx signal = true →
        ∃ idx', report.Lists prn c k idx' ∧ report.Reports signal idx'

namespace SvUsed

variable (prn : PrnRanges) (ctx : UsedContext) {report : UsedSvReport}

/-- A satellite sets its own bit. -/
theorem usedBit_iff {idx : Nat} (hidx : idx < report.usedLen) (hid : report.id idx ≠ 0)
    (c : SvConstellation) (k : Nat) :
    (usedBit prn report c idx).getLsbD k = true ↔ report.Lists prn c k idx := by
  have hrange := (prn.constellationOf_eq_some hid).trans (prn.inRange_iff (c := c))
  have hnarrow := (prn.range c).narrow
  rw [UsedSvReport.Lists, and_iff_right hidx, usedBit]
  split
  next h =>
    rw [hrange] at h
    rw [bitOf, BitVec.getLsbD_shiftLeft, BitVec.getLsbD_one]
    simp only [Bool.and_eq_true, Bool.not_eq_true', decide_eq_true_eq, decide_eq_false_iff_not]
    omega
  next h =>
    rw [BitVec.getLsbD_zero]
    rw [hrange] at h
    exact ⟨fun hfalse => absurd hfalse Bool.false_ne_true,
      fun hlists => absurd ⟨by omega, hlists.2⟩ h⟩

theorem signalBit_iff {idx : Nat} (hidx : idx < report.usedLen) (hid : report.id idx ≠ 0)
    (c : SvConstellation) (signal : GnssSignal) (k : Nat) :
    (signalBit prn report c signal idx).getLsbD k = true ↔
      report.Lists prn c k idx ∧ report.multiBandTypesAvailable = true ∧
        report.signalsAt idx signal = true := by
  rw [signalBit]
  split
  next h => rw [usedBit_iff prn hidx hid, and_iff_left h]
  next h =>
    rw [BitVec.getLsbD_zero]
    exact ⟨fun hfalse => absurd hfalse Bool.false_ne_true, fun hlists => absurd hlists.2 h⟩

/-- Signals that are reported are there to be looked at. -/
theorem multiBand_of_reports {signal : GnssSignal} {idx : Nat} (h : report.Reports signal idx) :
    report.multiBandTypesAvailable = true := by
  obtain ⟨hvalid, hlt, -⟩ := h
  rw [UsedSvReport.multiBandTypesAvailable, hvalid, Bool.true_and, bne_iff_ne]
  omega

/-- The masks of the loop. -/
def looped (prn : PrnRanges) (ctx : UsedContext) (report : UsedSvReport) : SvUsed :=
  (List.range report.usedLen).foldl (step prn ctx report) (start ctx report)

/-- There is a result if the guards hold, and its masks are those of the loop. -/
theorem exists_ofReport_iff (h : report.Within) (hconv : ctx.converts = true) (P : SvUsed → Prop)
    (hP : ∀ s t : SvUsed, s.gnssSvUsedIdsMask = t.gnssSvUsedIdsMask →
      s.gnssMbSvUsedIdsMask = t.gnssMbSvUsedIdsMask → P s → P t) :
    (∃ out, ofReport prn ctx report = some out ∧ P out) ↔
      (∀ idx < report.usedLen, idx < ctx.gnssSvMax ∧ report.id idx ≠ 0) ∧
        P (looped prn ctx report) := by
  by_cases hused : report.hasUsed = true
  · simp only [ofReport_eq_some prn ctx h hused, Defined, hconv, true_imp_iff]
    constructor
    · rintro ⟨_, ⟨hall, rfl⟩, hout⟩
      exact ⟨hall, hout⟩
    · rintro ⟨hall, hout⟩
      exact ⟨_, ⟨hall, rfl⟩, hout⟩
  · have hlen := usedLen_of_not_hasUsed (Bool.eq_false_iff.mpr hused)
    have hlooped : looped prn ctx report = start ctx report := by rw [looped, hlen]; rfl
    rw [ofReport, if_neg hused, hlen, hlooped]
    constructor
    · rintro ⟨out, hout, hP'⟩
      obtain rfl := Option.some.inj hout
      exact ⟨fun idx hidx => absurd hidx (Nat.not_lt_zero idx),
        hP .zero (start ctx report) rfl rfl hP'⟩
    · rintro ⟨-, hP'⟩
      exact ⟨_, rfl, hP (start ctx report) .zero rfl rfl hP'⟩

/-- The bits of the mask of a constellation. -/
theorem looped_used_iff (hconv : ctx.converts = true)
    (hids : ∀ idx < report.usedLen, report.id idx ≠ 0) (c : SvConstellation) (k : Nat) :
    ((looped prn ctx report).gnssSvUsedIdsMask c).getLsbD k = true ↔
      ∃ idx, report.Lists prn c k idx := by
  have hstart : ((start ctx report).gnssSvUsedIdsMask c).getLsbD k = false := BitVec.getLsbD_zero
  rw [looped, foldl_used prn ctx hconv, BitMask.getLsbD_foldl_or, hstart, Bool.false_or,
    List.any_eq_true]
  constructor
  · rintro ⟨idx, hidx, hbit⟩
    have hlt := List.mem_range.mp hidx
    exact ⟨idx, (usedBit_iff prn hlt (hids idx hlt) c k).mp hbit⟩
  · rintro ⟨idx, hlists⟩
    exact ⟨idx, List.mem_range.mpr hlists.1,
      (usedBit_iff prn hlists.1 (hids idx hlists.1) c k).mpr hlists⟩

/-- Those of the mask of a signal. -/
theorem looped_signal_iff (hconv : ctx.converts = true)
    (hids : ∀ idx < report.usedLen, report.id idx ≠ 0) {c : SvConstellation} {signal : GnssSignal}
    (hsignal : signal ∈ c.signals) (k : Nat) :
    ((looped prn ctx report).gnssMbSvUsedIdsMask signal).getLsbD k = true ↔
      ∃ idx, report.Lists prn c k idx ∧ report.multiBandTypesAvailable = true ∧
        report.signalsAt idx signal = true := by
  have hstart : ((start ctx report).gnssMbSvUsedIdsMask signal).getLsbD k = false :=
    BitVec.getLsbD_zero
  rw [looped, foldl_signal prn ctx hconv _ _ hsignal, BitMask.getLsbD_foldl_or, hstart,
    Bool.false_or, List.any_eq_true]
  constructor
  · rintro ⟨idx, hidx, hbit⟩
    have hlt := List.mem_range.mp hidx
    exact ⟨idx, (signalBit_iff prn hlt (hids idx hlt) c signal k).mp hbit⟩
  · rintro ⟨idx, hlists⟩
    exact ⟨idx, List.mem_range.mpr hlists.1.1,
      (signalBit_iff prn hlists.1.1 (hids idx hlists.1.1) c signal k).mpr hlists⟩

theorem looped_right_iff (hconv : ctx.converts = true)
    (hids : ∀ idx < report.usedLen, report.id idx ≠ 0) :
    (looped prn ctx report).Right prn report ↔
      (report.multiBandTypesAvailable = true → ∀ c k idx, report.Lists prn c k idx →
        report.gnssSvUsedSignalTypeList_len ≤ idx → ∀ signal ∈ c.signals,
          report.signalsAt idx signal = true →
            ∃ idx', report.Lists prn c k idx' ∧ report.Reports signal idx') := by
  constructor
  · intro hright hmulti c k idx hlists _ signal hsignal hon
    rw [← hright.signal c signal hsignal k, looped_signal_iff prn ctx hconv hids hsignal]
    exact ⟨idx, hlists, hmulti, hon⟩
  · intro hrest
    refine ⟨looped_used_iff prn ctx hconv hids, fun c signal hsignal k => ?_⟩
    rw [looped_signal_iff prn ctx hconv hids hsignal]
    constructor
    · rintro ⟨idx, hlists, hmulti, hon⟩
      by_cases hlt : idx < report.gnssSvUsedSignalTypeList_len
      · have hvalid : report.gnssSvUsedSignalTypeList_valid = true :=
          (Bool.and_eq_true_iff.mp hmulti).1
        exact ⟨idx, hlists, hvalid, hlt, hon⟩
      · exact hrest hmulti c k idx hlists (Nat.le_of_not_lt hlt) signal hsignal hon
    · rintro ⟨idx, hlists, hreports⟩
      exact ⟨idx, hlists, multiBand_of_reports hreports, hreports.2.2⟩

/-- Which satellites are told depends on the masks only. -/
theorem Right.congr {s t : SvUsed} (hused : s.gnssSvUsedIdsMask = t.gnssSvUsedIdsMask)
    (hsignal : s.gnssMbSvUsedIdsMask = t.gnssMbSvUsedIdsMask) (h : s.Right prn report) :
    t.Right prn report :=
  ⟨hused ▸ h.used, hsignal ▸ h.signal⟩

/-- **The masks of the satellites used** are right, and nothing is undefined, if and only if no
satellite has the number 0, the list has room, and no signal is told behind the end of the list of
signals. -/
theorem used_masks_right_iff (prn : PrnRanges) (ctx : UsedContext) (report : UsedSvReport)
    (h : report.Within) (hconv : ctx.converts = true) :
    (∃ out, ofReport prn ctx report = some out ∧ out.Right prn report) ↔
      report.Usable prn ctx := by
  rw [exists_ofReport_iff prn ctx h hconv _ fun s t => Right.congr prn]
  constructor
  · rintro ⟨hall, hright⟩
    have hids : ∀ idx < report.usedLen, report.id idx ≠ 0 := fun idx hidx => (hall idx hidx).2
    refine ⟨hids, ?_, (looped_right_iff prn ctx hconv hids).mp hright⟩
    by_contra hroom
    exact absurd (hall ctx.gnssSvMax (Nat.lt_of_not_le hroom)).1 (Nat.lt_irrefl _)
  · rintro ⟨hids, hroom, hrest⟩
    exact ⟨fun idx hidx => ⟨Nat.lt_of_lt_of_le hidx hroom, hids idx hidx⟩,
      (looped_right_iff prn ctx hconv hids).mpr hrest⟩

/-! ## One satellite -/

/-- A report with one satellite and one signal. -/
def oneSv (id : UInt16) (qmiGnssSignalType : BitVec 64) : UsedSvReport where
  expandedGnssSvUsedList_valid := true
  expandedGnssSvUsedList_len := 1
  expandedGnssSvUsedList := .replicate _ id
  gnssSvUsedList_valid := false
  gnssSvUsedList_len := 0
  gnssSvUsedList := .replicate _ 0
  gnssSvUsedSignalTypeList_valid := true
  gnssSvUsedSignalTypeList_len := 1
  gnssSvUsedSignalTypeList := .replicate _ qmiGnssSignalType

/-- A position that is converted. -/
def convertedContext : UsedContext := ⟨true, false, [], 176⟩

/-- The number 0 is taken for one of GPS, and shifted by -1. -/
theorem zero_shifted :
    ¬∃ out, ofReport .documented convertedContext (oneSv 0 1) = some out ∧
      out.Right .documented (oneSv 0 1) := by
  rintro ⟨out, hout, -⟩
  have hnone : (ofReport .documented convertedContext (oneSv 0 1)).isNone = true := by
    decide +kernel
  rw [hout] at hnone
  exact absurd hnone Bool.false_ne_true

/-- The first satellite of Galileo, with E1. -/
theorem used_masks_galileo :
    ∃ out, ofReport .documented convertedContext (oneSv 301 0x40) = some out ∧
      out.Right .documented (oneSv 301 0x40) := by
  have hwithin : (oneSv 301 0x40).Within := ⟨by decide, by decide, by decide⟩
  refine (used_masks_right_iff .documented convertedContext (oneSv 301 0x40) hwithin rfl).mpr
    ⟨fun idx hidx => ?_, by decide, fun _ c k idx hlists hlen => ?_⟩
  · obtain rfl : idx = 0 := Nat.lt_one_iff.mp hidx
    decide +kernel
  · exact absurd hlists.1 (Nat.not_lt_of_le hlen)

end SvUsed

end LocationStack.LocApi
