import Mathlib.Data.List.Forall2
import LocationStack.Fidl.ReportFlags
import LocationStack.Lib.Logged

/-! # The position reports of the FIDL

`parseLocReport` and the functions that it calls, down to the one that converts a system time.  A
field of the report is copied if the flag that guards it is on, else it has the value of a new
report, which is zero.  The list of the measurements that were used is cut at 176; of the stations
the function reads three, however many there are.
-/
namespace LocationStack
namespace Fidl

/-- The field that an `if` copies. -/
def given {α : Type} (valid : Bool) (x d : α) : α := if valid then x else d

/-- A field that is marked valid has the value. -/
def Carried {α : Type} (valid : Bool) (x y : α) : Prop := valid = true → y = x

theorem carried_given {α : Type} (valid : Bool) (x d : α) : Carried valid x (given valid x d) :=
  fun h => if_pos h

/-! ## Enumerations -/

inductive LocReliability
  | notSet | veryLow | low | medium | high
  deriving DecidableEq, Inhabited

/-- There is no case for `low`. -/
def parseIDLLocReliability : LocReliability → LocReliability
  | .veryLow => .veryLow
  | .medium => .medium
  | .high => .high
  | _ => .notSet

theorem parseIDLLocReliability_iff (r : LocReliability) :
    parseIDLLocReliability r = r ↔ r ≠ .low := by
  cases r <;> decide

inductive SvSystem
  | gps | galileo | sbas | glonass | bds | qzss | navic
  deriving DecidableEq

def parseIDLGnssConstellation : SvSystem → Option SvSystem
  | .gps => some .gps
  | .galileo => some .galileo
  | .sbas => some .sbas
  | .glonass => some .glonass
  | .bds => some .bds
  | .qzss => some .qzss
  | .navic => some .navic

theorem parseIDLGnssConstellation_eq (c : SvSystem) : parseIDLGnssConstellation c = some c := by
  cases c <;> rfl

/-- `LOETT_COUNT` has the number of `LOETT_VPE`. -/
inductive OutputEngine
  | fused | spe | ppe | vpe | count
  deriving DecidableEq, Inhabited

def parseIDLOutputEngine : OutputEngine → Option OutputEngine
  | .fused => some .fused
  | .spe => some .spe
  | .ppe => some .ppe
  | .vpe => some .vpe
  | _ => some .count

theorem parseIDLOutputEngine_eq (e : OutputEngine) : parseIDLOutputEngine e = some e := by
  cases e <;> rfl

inductive SessionStatus
  | success | intermediate | failure
  deriving DecidableEq, Inhabited

def parseIDLSessionStatus : SessionStatus → Option SessionStatus
  | .success => some .success
  | .intermediate => some .intermediate
  | .failure => some .failure

theorem parseIDLSessionStatus_eq (s : SessionStatus) : parseIDLSessionStatus s = some s := by
  cases s <;> rfl

/-! ## Satellites in use -/

structure SvUsedIds where
  (gps glo gal bds qzss navic : UInt64)
  deriving DecidableEq, Inhabited

def SvUsedIds.none : SvUsedIds := ⟨0, 0, 0, 0, 0, 0⟩

def parseIDLSvUsedInPosition (sv : SvUsedIds) : SvUsedIds where
  gps := sv.gps
  glo := sv.glo
  gal := sv.gal
  bds := sv.bds
  qzss := sv.qzss
  navic := sv.navic

structure GnssMeasUsageInfo where
  gnssConstellation : SvSystem
  gnssSvId : UInt16
  gnssSignalType : BitVec 32

structure GnssMeasUsageInfoT where
  gnssConstellation : Option SvSystem
  gnssSvId : UInt32
  gnssSignalType : Option SignalType

instance : Inhabited GnssMeasUsageInfo := ⟨⟨.gps, 0, 0⟩⟩

/-- `IDL_MAX_GNSS_MEAS`, which the FIDL declares as well. -/
def maxGnssMeas : Nat := 176

def parseMeasUsage (info : GnssMeasUsageInfo) : GnssMeasUsageInfoT where
  gnssConstellation := parseIDLGnssConstellation info.gnssConstellation
  gnssSvId := info.gnssSvId.toUInt32
  gnssSignalType := parseIDLSignalType info.gnssSignalType

def parseIDLMeasUsageInfo (infos : List GnssMeasUsageInfo) : Logged (List GnssMeasUsageInfoT) :=
  Logged.append (min infos.length maxGnssMeas) infos (fun info => pure (parseMeasUsage info)) []

structure UsageFaithful (s : GnssMeasUsageInfo) (t : GnssMeasUsageInfoT) : Prop where
  gnssConstellation : t.gnssConstellation = some s.gnssConstellation
  gnssSvId : t.gnssSvId.toNat = s.gnssSvId.toNat
  gnssSignalType : SignalNamed s.gnssSignalType t.gnssSignalType

theorem parseMeasUsage_faithful_iff (s : GnssMeasUsageInfo) :
    UsageFaithful s (parseMeasUsage s) ↔ OneSignal s.gnssSignalType := by
  constructor
  · intro h
    exact (parseIDLSignalType_iff s.gnssSignalType).mp h.gnssSignalType
  · intro h
    exact ⟨parseIDLGnssConstellation_eq _, UInt16.toNat_toUInt32 _,
      (parseIDLSignalType_iff s.gnssSignalType).mpr h⟩

/-! ## Lists -/

/-- **The entries of a list, one to one and in order**, up to the largest number. -/
def ListFaithful {α β : Type} (P : α → β → Prop) (max : Nat) (s : List α) (t : List β) : Prop :=
  List.Forall₂ P (s.take max) t

theorem listFaithful_map {α β : Type} {P : α → β → Prop} {f : α → β} {max : Nat} {s : List α} :
    ListFaithful P max s ((s.take max).map f) ↔ ∀ a ∈ s.take max, P a (f a) := by
  rw [ListFaithful, List.forall₂_map_right_iff, List.forall₂_same]

/-- A loop that converts the first elements. -/
theorem append_pure_value {α β : Type} [Inhabited α] {f : α → β} {n : Nat} {s : List α}
    (h : n ≤ s.length) (dst : List β) :
    (Logged.append n s (fun a => pure (f a)) dst).value = dst ++ (s.take n).map f := by
  rw [Logged.append, Logged.value_push]
  refine congrArg (dst ++ ·) (List.ext_getElem (by simp [h]) fun i hi hi' => ?_)
  have hlt : i < s.length := by
    rw [List.length_map, List.length_take] at hi'
    omega
  simp [hlt]

theorem append_pure_inBounds {α β : Type} [Inhabited α] {f : α → β} {n : Nat} {s : List α}
    {dst : List β} : (Logged.append n s (fun a => pure (f a)) dst).InBounds ↔ n ≤ s.length := by
  rw [Logged.append, Logged.inBounds_push]
  simp only [Logged.inBounds_bind, Logged.inBounds_read, Logged.inBounds_pure, and_true]
  exact Logged.forall_lt_lt_iff

/-! ## The body frame -/

/-- In the order of their bits; each is the flag of one field. -/
inductive PosDataFlag
  | longAccel | latAccel | vertAccel | yawRate | pitch | longAccelUnc | latAccelUnc | vertAccelUnc
  | yawRateUnc | pitchUnc | pitchRate | pitchRateUnc | roll | rollUnc | rollRate | rollRateUnc | yaw
  | yawUnc
  deriving DecidableEq

def posDataFlags : List PosDataFlag :=
  [.longAccel, .latAccel, .vertAccel, .yawRate, .pitch, .longAccelUnc, .latAccelUnc, .vertAccelUnc,
    .yawRateUnc, .pitchUnc, .pitchRate, .pitchRateUnc, .roll, .rollUnc, .rollRate, .rollRateUnc,
    .yaw, .yawUnc]

def posDataTable : FlagTable PosDataFlag 32 := .inOrder posDataFlags (by decide)

structure PositionDynamics where
  bodyFrameDataMask : BitVec 32
  field : PosDataFlag → Single
  deriving Inhabited

def PositionDynamics.new : PositionDynamics := ⟨0, fun _ => 0⟩

/-- Each of the blocks sets its flag and copies its field. -/
def parseIDLBodyFrameData (s : PositionDynamics) : PositionDynamics where
  bodyFrameDataMask := copyFlags posDataFlags (by decide) s.bodyFrameDataMask
  field f := given (posDataTable.read s.bodyFrameDataMask f) (s.field f) 0

structure DynamicsFaithful (s t : PositionDynamics) : Prop where
  mask : t.bodyFrameDataMask = namesakes posDataFlags (by decide) s.bodyFrameDataMask
  field : ∀ f, Carried (posDataTable.read s.bodyFrameDataMask f) (s.field f) (t.field f)

theorem parseIDLBodyFrameData_faithful (s : PositionDynamics) :
    DynamicsFaithful s (parseIDLBodyFrameData s) :=
  ⟨copyFlags_eq _ _ _, fun _ => carried_given _ _ _⟩

/-! ## System times -/

inductive SystemTimeFlag
  | week | weekMs | clkTimeBias | clkTimeBiasUnc | refFcount | numClockResets
  deriving DecidableEq

def systemTimeFlags : List SystemTimeFlag :=
  [.week, .weekMs, .clkTimeBias, .clkTimeBiasUnc, .refFcount, .numClockResets]

def systemTimeTable : FlagTable SystemTimeFlag 32 := .inOrder systemTimeFlags (by decide)

structure GnssSystemTimeStruct where
  validityMask : BitVec 32
  systemWeek : UInt16
  systemMsec : UInt32
  (systemClkTimeBias systemClkTimeUncMs : Single)
  (refFCount numClockResets : UInt32)
  deriving Inhabited

structure GnssSystemTimeStructT where
  validityMask : BitVec 32
  (systemWeek systemMsec : UInt32)
  (systemClkTimeBias systemClkTimeUncMs : Single)
  (refFCount numClockResets : UInt32)

def GnssSystemTimeStructT.new : GnssSystemTimeStructT := ⟨0, 0, 0, 0, 0, 0, 0⟩

def GnssSystemTimeStruct.has (s : GnssSystemTimeStruct) (f : SystemTimeFlag) : Bool :=
  systemTimeTable.read s.validityMask f

def parseIDLGnssTime (s : GnssSystemTimeStruct) : GnssSystemTimeStructT where
  validityMask := copyFlags systemTimeFlags (by decide) s.validityMask
  systemWeek := given (s.has .week) s.systemWeek.toUInt32 0
  systemMsec := given (s.has .weekMs) s.systemMsec 0
  systemClkTimeBias := given (s.has .clkTimeBias) s.systemClkTimeBias 0
  systemClkTimeUncMs := given (s.has .clkTimeBiasUnc) s.systemClkTimeUncMs 0
  refFCount := given (s.has .refFcount) s.refFCount 0
  numClockResets := given (s.has .numClockResets) s.numClockResets 0

structure SystemTimeFaithful (s : GnssSystemTimeStruct) (t : GnssSystemTimeStructT) : Prop where
  mask : t.validityMask = namesakes systemTimeFlags (by decide) s.validityMask
  systemWeek : Carried (s.has .week) s.systemWeek.toUInt32 t.systemWeek
  systemMsec : Carried (s.has .weekMs) s.systemMsec t.systemMsec
  systemClkTimeBias : Carried (s.has .clkTimeBias) s.systemClkTimeBias t.systemClkTimeBias
  systemClkTimeUncMs : Carried (s.has .clkTimeBiasUnc) s.systemClkTimeUncMs t.systemClkTimeUncMs
  refFCount : Carried (s.has .refFcount) s.refFCount t.refFCount
  numClockResets : Carried (s.has .numClockResets) s.numClockResets t.numClockResets

theorem parseIDLGnssTime_faithful (s : GnssSystemTimeStruct) :
    SystemTimeFaithful s (parseIDLGnssTime s) where
  mask := copyFlags_eq _ _ _
  systemWeek := carried_given _ _ _
  systemMsec := carried_given _ _ _
  systemClkTimeBias := carried_given _ _ _
  systemClkTimeUncMs := carried_given _ _ _
  refFCount := carried_given _ _ _
  numClockResets := carried_given _ _ _

inductive GloTimeFlag
  | days | msec | clkTimeBias | clkTimeBiasUnc | refFcount | numClockResets | fourYear
  deriving DecidableEq

def gloTimeFlags : List GloTimeFlag :=
  [.days, .msec, .clkTimeBias, .clkTimeBiasUnc, .refFcount, .numClockResets, .fourYear]

def gloTimeTable : FlagTable GloTimeFlag 32 := .inOrder gloTimeFlags (by decide)

structure GnssGloTimeStruct where
  validityMask : BitVec 32
  gloFourYear : UInt8
  gloDays : UInt16
  gloMsec : UInt32
  (gloClkTimeBias gloClkTimeUncMs : Single)
  (refFCount numClockResets : UInt32)

structure GnssGloTimeStructT where
  validityMask : BitVec 32
  (gloFourYear gloDays gloMsec : UInt32)
  (gloClkTimeBias gloClkTimeUncMs : Single)
  (refFCount numClockResets : UInt32)

def GnssGloTimeStructT.new : GnssGloTimeStructT := ⟨0, 0, 0, 0, 0, 0, 0, 0⟩

def GnssGloTimeStruct.has (s : GnssGloTimeStruct) (f : GloTimeFlag) : Bool :=
  gloTimeTable.read s.validityMask f

def parseIDLGloTime (s : GnssGloTimeStruct) : GnssGloTimeStructT where
  validityMask := copyFlags gloTimeFlags (by decide) s.validityMask
  gloFourYear := given (s.has .fourYear) s.gloFourYear.toUInt32 0
  gloDays := given (s.has .days) s.gloDays.toUInt32 0
  gloMsec := given (s.has .msec) s.gloMsec 0
  gloClkTimeBias := given (s.has .clkTimeBias) s.gloClkTimeBias 0
  gloClkTimeUncMs := given (s.has .clkTimeBiasUnc) s.gloClkTimeUncMs 0
  refFCount := given (s.has .refFcount) s.refFCount 0
  numClockResets := given (s.has .numClockResets) s.numClockResets 0

structure GloTimeFaithful (s : GnssGloTimeStruct) (t : GnssGloTimeStructT) : Prop where
  mask : t.validityMask = namesakes gloTimeFlags (by decide) s.validityMask
  gloFourYear : Carried (s.has .fourYear) s.gloFourYear.toUInt32 t.gloFourYear
  gloDays : Carried (s.has .days) s.gloDays.toUInt32 t.gloDays
  gloMsec : Carried (s.has .msec) s.gloMsec t.gloMsec
  gloClkTimeBias : Carried (s.has .clkTimeBias) s.gloClkTimeBias t.gloClkTimeBias
  gloClkTimeUncMs : Carried (s.has .clkTimeBiasUnc) s.gloClkTimeUncMs t.gloClkTimeUncMs
  refFCount : Carried (s.has .refFcount) s.refFCount t.refFCount
  numClockResets : Carried (s.has .numClockResets) s.numClockResets t.numClockResets

theorem parseIDLGloTime_faithful (s : GnssGloTimeStruct) :
    GloTimeFaithful s (parseIDLGloTime s) where
  mask := copyFlags_eq _ _ _
  gloFourYear := carried_given _ _ _
  gloDays := carried_given _ _ _
  gloMsec := carried_given _ _ _
  gloClkTimeBias := carried_given _ _ _
  gloClkTimeUncMs := carried_given _ _ _
  refFCount := carried_given _ _ _
  numClockResets := carried_given _ _ _

/-- The constellation of a system time tells the member of the union; SBAS has none. -/
inductive GnssSystemTime
  | gps (time : GnssSystemTimeStruct)
  | galileo (time : GnssSystemTimeStruct)
  | sbas
  | glonass (time : GnssGloTimeStruct)
  | bds (time : GnssSystemTimeStruct)
  | qzss (time : GnssSystemTimeStruct)
  | navic (time : GnssSystemTimeStruct)
  deriving Inhabited

structure GnssSystemTimeT where
  gnssSystemTimeSrc : Option SvSystem
  gnssSystemTime : GnssSystemTimeStructT
  gloSystemTime : GnssGloTimeStructT

/-- A structure with one of the two times. -/
def GnssSystemTimeT.gnss (src : SvSystem) (time : GnssSystemTimeStructT) : GnssSystemTimeT :=
  ⟨some src, time, .new⟩

def parseGnssSystemTime : GnssSystemTime → GnssSystemTimeT
  | .gps time => .gnss .gps (parseIDLGnssTime time)
  | .galileo time => .gnss .galileo (parseIDLGnssTime time)
  | .sbas => .gnss .sbas .new
  | .glonass time => ⟨some .glonass, .new, parseIDLGloTime time⟩
  | .bds time => .gnss .bds (parseIDLGnssTime time)
  | .qzss time => .gnss .qzss (parseIDLGnssTime time)
  | .navic time => .gnss .navic (parseIDLGnssTime time)

/-- The structure names the constellation and carries its time. -/
def TimeFaithful (s : GnssSystemTime) (t : GnssSystemTimeT) : Prop :=
  match s with
  | .gps time => t.gnssSystemTimeSrc = some .gps ∧ SystemTimeFaithful time t.gnssSystemTime
  | .galileo time => t.gnssSystemTimeSrc = some .galileo ∧ SystemTimeFaithful time t.gnssSystemTime
  | .sbas => t.gnssSystemTimeSrc = some .sbas
  | .glonass time => t.gnssSystemTimeSrc = some .glonass ∧ GloTimeFaithful time t.gloSystemTime
  | .bds time => t.gnssSystemTimeSrc = some .bds ∧ SystemTimeFaithful time t.gnssSystemTime
  | .qzss time => t.gnssSystemTimeSrc = some .qzss ∧ SystemTimeFaithful time t.gnssSystemTime
  | .navic time => t.gnssSystemTimeSrc = some .navic ∧ SystemTimeFaithful time t.gnssSystemTime

theorem parseGnssSystemTime_faithful (s : GnssSystemTime) :
    TimeFaithful s (parseGnssSystemTime s) := by
  cases s with
  | sbas => rfl
  | glonass time => exact ⟨rfl, parseIDLGloTime_faithful time⟩
  | gps time => exact ⟨rfl, parseIDLGnssTime_faithful time⟩
  | galileo time => exact ⟨rfl, parseIDLGnssTime_faithful time⟩
  | bds time => exact ⟨rfl, parseIDLGnssTime_faithful time⟩
  | qzss time => exact ⟨rfl, parseIDLGnssTime_faithful time⟩
  | navic time => exact ⟨rfl, parseIDLGnssTime_faithful time⟩

end Fidl
end LocationStack
