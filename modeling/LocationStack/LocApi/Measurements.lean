import LocationStack.Lib.EventRun

/-! # Assembling measurements

The modem tells of the measurements of an epoch in several messages, one for each signal of each
constellation, or more than one where there are many satellites.  `reportGnssMeasurementData`
collects them in `mGnssMeasurements` and hands them over with the last message, or when a message
of another epoch is seen to begin.  What begins an epoch is decided by a reference count and by a
flag, and the discontinuities of the clock are counted, in static variables: every object uses the
same.

What becomes of the fields of a message is left to `Converters`.  A message is marked with the
epoch that it belongs to, a converted measurement with what it was converted from, and a clock with
its epoch; the object reads none of these.  The indices that the arrays are written at are
recorded, and a write past the end of an array has no other effect here.
-/
namespace LocationStack.LocApi

/-! ## Messages -/

/-- `qmiLocSVMeasurementStructT_v02`, its status. -/
structure SvMeasurement where
  validMeasStatusMask : UInt64
  measurementStatus : UInt64

namespace SvMeasurement

/-- `QMI_LOC_MASK_MEAS_STATUS_GNSS_FRESH_MEAS_VALID`, the same bit in both masks. -/
def freshMeasValid : UInt64 := 0x08000000

/-- `MEAS_STATUS_DONT_USE` -/
def measStatusDontUse : UInt64 := 0xFFC0000000000000

def fresh (m : SvMeasurement) : Bool :=
  m.validMeasStatusMask &&& freshMeasValid != 0 && m.measurementStatus &&& freshMeasValid != 0

def dontUse (m : SvMeasurement) : Bool := m.measurementStatus &&& measStatusDontUse != 0

/-- What a report is to hold. -/
def usable (m : SvMeasurement) : Bool := m.fresh && !m.dontUse

end SvMeasurement

/-- `qmiLocSvSystemEnumT_v02`, or a value that it does not have. -/
inductive QmiLocSvSystem
  | gps | galileo | sbas | compass | glonass | bds | qzss | navic | other
  deriving Repr, DecidableEq

inductive GnssLocSvSystem
  | unknown | gps | galileo | sbas | glonass | bds | qzss | navic
  deriving Repr, DecidableEq

def getLocApiSvSystemType : QmiLocSvSystem → GnssLocSvSystem
  | .gps => .gps
  | .galileo => .galileo
  | .sbas => .sbas
  | .glonass => .glonass
  | .bds | .compass => .bds
  | .qzss => .qzss
  | .navic => .navic
  | .other => .unknown

/-- An epoch of one of the two rates. -/
structure Epoch where
  nHz : Bool
  number : Nat
  deriving Repr, DecidableEq

/-- Where a measurement is found: the epoch, the numbers of the message, the list, the index. -/
structure Measured where
  epoch : Epoch
  seqNum : UInt8
  subSeqNum : UInt8
  isExt : Bool
  index : Nat
  deriving Repr, DecidableEq

/-- `QMI_LOC_SV_MEAS_LIST_MAX_SIZE` -/
def svMeasListMaxSize : Nat := 16

/-- `QMI_LOC_EXT_SV_MEAS_LIST_MAX_SIZE` -/
def extSvMeasListMaxSize : Nat := 8

/-- `qmiLocEventGnssSvMeasInfoIndMsgT_v02`: the fields that decide where it goes.  `rest` are the
others, and what the clocks of the device read when it arrives. -/
structure GnssSvMeasInfoInd (R : Type) where
  /-- Which epoch of its rate it belongs to. -/
  epochNumber : Nat
  seqNum : UInt8
  maxMessageNum : UInt8
  subSeqNum : Option UInt8
  maxSubSeqNum : Option UInt8
  system : QmiLocSvSystem
  gnssSignalType : UInt64
  nHzMeasurement_valid : Bool
  nHzMeasurement : UInt8
  systemTimeExt_valid : Bool
  refFCount : UInt32
  numClockResets_valid : Bool
  numClockResets : UInt32
  svMeasurement_valid : Bool
  svMeasurement_len : Nat
  svMeasurement : Nat → SvMeasurement
  extSvMeasurement_valid : Bool
  extSvMeasurement_len : Nat
  extSvMeasurement : Nat → SvMeasurement
  rest : R

namespace GnssSvMeasInfoInd

variable {R : Type} (ind : GnssSvMeasInfoInd R)

/-- Both numbers are used if both are there. -/
def subNumbers : UInt8 × UInt8 :=
  match ind.subSeqNum, ind.maxSubSeqNum with
  | some sub, some maxSub => (sub, maxSub)
  | _, _ => (0, 0)

def sub : UInt8 := ind.subNumbers.1

def maxSub : UInt8 := ind.subNumbers.2

def isNhz : Bool := ind.nHzMeasurement_valid && ind.nHzMeasurement != 0

def epoch : Epoch := ⟨ind.isNhz, ind.epochNumber⟩

def measured (isExt : Bool) (index : Nat) : Measured :=
  ⟨ind.epoch, ind.seqNum, ind.sub, isExt, index⟩

/-- A message that is not looked at. -/
def invalid : Bool := decide (ind.maxMessageNum < ind.seqNum) || decide (ind.maxSub < ind.sub)

/-- The last message of the epoch. -/
def isLast : Bool := ind.maxMessageNum == ind.seqNum && ind.maxSub == ind.sub

/-- The tests of the two loops; both look at the same list for what not to use. -/
def reports : Bool → Nat → Bool
  | false, index => (ind.svMeasurement index).fresh && !(ind.svMeasurement index).dontUse
  | true, index => (ind.extSvMeasurement index).fresh && !(ind.svMeasurement index).dontUse

/-- A list is there and not too long. -/
def listed : Bool → Bool
  | false =>
    ind.svMeasurement_valid && ind.svMeasurement_len != 0 &&
      decide (ind.svMeasurement_len ≤ svMeasListMaxSize)
  | true =>
    ind.extSvMeasurement_valid && ind.extSvMeasurement_len != 0 &&
      decide (ind.extSvMeasurement_len ≤ extSvMeasListMaxSize)

end GnssSvMeasInfoInd

/-! ## Conversions -/

/-- `GnssMeasurementsClock`.  `timed` are the flags of the first two, and `epoch` is the one of the
message that it was converted from. -/
structure GnssMeasurementsClock (X : Type) where
  epoch : Option Epoch
  timed : Bool
  timeNs : Int
  hwClockDiscontinuityCount : UInt32
  rest : X

/-- A converted measurement, in both arrays. -/
structure Converted (D : Type) where
  measured : Measured
  data : D

/-- `GnssMeasurements`.  The numbers of measurements and of AGC entries are the lengths of the
lists; the header has what is neither. -/
structure GnssMeasurements (D G X H : Type) where
  measurements : List (Converted D)
  gnssAgc : List G
  isNhz : Bool
  isFullTracking : Bool
  clock : GnssMeasurementsClock X
  header : H

/-- What is done with the other fields of a message, and with the members `M` that only the
conversions use (time biases, cycle slips, the estimator of the elapsed time, the measurements that
positions are checked against). -/
structure Converters (R D G X H M : Type) where
  zeroClock : X
  zeroHeader : H
  /-- `convertGnssMeasurements` -/
  measurement : M → GnssSvMeasInfoInd R → Bool → Nat → D × M
  /-- `convertGnssClock`, without the time and the count of discontinuities -/
  clock : M → H → X → GnssSvMeasInfoInd R → X × M
  /-- `convertGnssMeasurementsHeader` -/
  header : M → H → GnssSvMeasInfoInd R → H × M
  /-- `convertJammerIndicator`, `convertSvType` and the carrier frequency -/
  agc : GnssSvMeasInfoInd R → G
  /-- What is kept of an epoch of 1 Hz. -/
  keep1Hz : GnssMeasurements D G X H → M → M
  /-- The elapsed time, and the AGC status, with the last message -/
  last : M → GnssMeasurements D G X H → GnssSvMeasInfoInd R → X × H × M
  /-- `setGnssBiasesForL1CA` -/
  biases : M → D → D
  /-- The time stamp of a report. -/
  stamp : GnssSvMeasInfoInd R → H → H
  /-- The cycle slips of an epoch that is reported, and of which rate. -/
  cycleSlips : Bool → M → M
  /-- `resetSvMeasurementReport` -/
  reset : M → M

/-- The sizes of the arrays `measurements`, `svMeas` and `gnssAgc`. -/
structure Capacity where
  measurementsMax : Nat
  svMeasMax : Nat
  gnssAgcMax : Nat

/-! ## State -/

/-- The static variables of `reportGnssMeasurementData` and `convertGnssClock` that keep something
from one call to the next. -/
structure Statics where
  prevRefFCount : UInt32
  newMeasProcessed : Bool
  oldRefFCount : UInt32
  oldDiscCount : UInt32
  localDiscCount : UInt32
  deriving Repr, DecidableEq

def Statics.init : Statics := ⟨0, false, 0, 0, 0⟩

/-- A write to one of the arrays, at an index. -/
inductive ArrayWrite
  | measurements (index : Nat)
  | svMeas (index : Nat)
  | gnssAgc (index : Nat)
  deriving Repr, DecidableEq

/-- What `LocApiV02` has to do with measurements; `allocated` says that the pointer
`mGnssMeasurements` is not null. -/
structure MeasApi (D G X H M : Type) where
  allocated : Bool
  mGnssMeasurements : GnssMeasurements D G X H
  mRefFCount : UInt32
  mFirstMeasurementOfSessionReceived : Bool
  mIsFullTracking : Bool
  /-- The power mode is `GNSS_POWER_MODE_M1`. -/
  fullPower : Bool
  mPreferredSignalType : UInt64
  members : M
  /-- The reports handed over. -/
  reported : List (GnssMeasurements D G X H)
  written : List ArrayWrite

/-- The static variables and an object. -/
structure MeasState (D G X H M : Type) where
  statics : Statics
  api : MeasApi D G X H M

/-- Nothing is collected. -/
def GnssMeasurements.zero {R D G X H M : Type} (conv : Converters R D G X H M) :
    GnssMeasurements D G X H :=
  ⟨[], [], false, false, ⟨none, false, 0, 0, conv.zeroClock⟩, conv.zeroHeader⟩

/-- The constructor, with the preferred signal and the power mode that are set later. -/
def MeasApi.new {R D G X H M : Type} (conv : Converters R D G X H M)
    (mPreferredSignalType : UInt64) (fullPower : Bool) (members : M) : MeasApi D G X H M where
  allocated := false
  mGnssMeasurements := .zero conv
  mRefFCount := 0
  mFirstMeasurementOfSessionReceived := false
  mIsFullTracking := true
  fullPower := fullPower
  mPreferredSignalType := mPreferredSignalType
  members := members
  reported := []
  written := []

namespace MeasState

variable {R D G X H M : Type} (conv : Converters R D G X H M) (capacity : Capacity)

/-- `resetSvMeasurementReport` -/
def reset (s : MeasState D G X H M) : MeasState D G X H M :=
  { s with api := { s.api with
      mGnssMeasurements := .zero conv
      members := conv.reset s.api.members } }

/-- The first message allocates. -/
def allocate (s : MeasState D G X H M) : MeasState D G X H M :=
  if s.api.allocated then s
  else
    let s := reset conv { s with api := { s.api with allocated := true } }
    { s with statics := { s.statics with newMeasProcessed := false } }

/-- What a report is made of. -/
def handedOver (s : MeasState D G X H M) (ind : GnssSvMeasInfoInd R) : GnssMeasurements D G X H :=
  let meas := s.api.mGnssMeasurements
  { meas with
    measurements := meas.measurements.map fun m =>
      { m with data := conv.biases s.api.members m.data }
    header := conv.stamp ind meas.header }

/-- `reportSvMeasurementInternal` -/
def reportSvMeasurementInternal (s : MeasState D G X H M) (ind : GnssSvMeasInfoInd R) :
    MeasState D G X H M :=
  { s with api := { s.api with
      mGnssMeasurements := s.handedOver conv ind
      members := conv.cycleSlips s.api.mGnssMeasurements.isNhz s.api.members
      reported := s.api.reported ++ [s.handedOver conv ind] } }

/-- What has been collected is handed over. -/
def flush (s : MeasState D G X H M) (ind : GnssSvMeasInfoInd R) : MeasState D G X H M :=
  let s := (s.reportSvMeasurementInternal conv ind).reset conv
  { s with statics := { s.statics with newMeasProcessed := false } }

/-- A message that begins an epoch, by its number or by its reference count. -/
def begins (statics : Statics) (ind : GnssSvMeasInfoInd R) : Bool :=
  (ind.seqNum == 1 && decide (ind.sub ≤ 1)) ||
    (ind.systemTimeExt_valid && ind.refFCount != statics.prevRefFCount)

def noteEpoch (s : MeasState D G X H M) (ind : GnssSvMeasInfoInd R) : MeasState D G X H M where
  statics := { s.statics with prevRefFCount := ind.refFCount }
  api := { s.api with
    mRefFCount := ind.refFCount
    mGnssMeasurements := { s.api.mGnssMeasurements with
      isNhz := s.api.mGnssMeasurements.isNhz || ind.isNhz } }

/-- What was collected before is handed over first, if there is any. -/
def beginEpoch (s : MeasState D G X H M) (ind : GnssSvMeasInfoInd R) : MeasState D G X H M :=
  if begins s.statics ind then
    (if s.statics.newMeasProcessed then s.flush conv ind else s).noteEpoch ind
  else s

/-- The tracking state, and the discontinuities of the clock. -/
def countDiscontinuity (s : MeasState D G X H M) (ind : GnssSvMeasInfoInd R) :
    MeasState D G X H M :=
  let changed := ind.numClockResets != s.statics.oldDiscCount
  let discontinuous :=
    if ind.refFCount ≤ s.statics.oldRefFCount then true
    else (!s.api.mFirstMeasurementOfSessionReceived || changed) && !s.api.fullPower
  { statics := { s.statics with
      oldRefFCount := ind.refFCount
      oldDiscCount := ind.numClockResets
      localDiscCount :=
        if discontinuous then s.statics.localDiscCount + 1 else s.statics.localDiscCount }
    api := { s.api with
      mIsFullTracking := !(s.api.mFirstMeasurementOfSessionReceived && changed)
      mFirstMeasurementOfSessionReceived := true } }

def timed (ind : GnssSvMeasInfoInd R) : Bool := ind.systemTimeExt_valid && ind.numClockResets_valid

/-- The fields of the clock that a message sets. -/
def setClock (s : MeasState D G X H M) (ind : GnssSvMeasInfoInd R) : MeasState D G X H M :=
  let meas := s.api.mGnssMeasurements
  let (rest, members) := conv.clock s.api.members meas.header meas.clock.rest ind
  { s with api := { s.api with
      members := members
      mGnssMeasurements := { meas with clock :=
        { epoch := some ind.epoch
          timed := timed ind
          timeNs := if timed ind then ind.refFCount.toNat * 1000000 else meas.clock.timeNs
          hwClockDiscontinuityCount :=
            if timed ind then s.statics.localDiscCount
            else meas.clock.hwClockDiscontinuityCount
          rest := rest } } } }

def convertGnssClock (s : MeasState D G X H M) (ind : GnssSvMeasInfoInd R) :
    MeasState D G X H M :=
  (if timed ind then s.countDiscontinuity ind else s).setClock conv ind

/-- The first message of the preferred signal has the clock. -/
def convertClockOfPreferred (s : MeasState D G X H M) (ind : GnssSvMeasInfoInd R) :
    MeasState D G X H M :=
  if s.api.mPreferredSignalType == ind.gnssSignalType && ind.sub == 1 then
    s.convertGnssClock conv ind
  else s

def convertGnssMeasurementsHeader (s : MeasState D G X H M) (ind : GnssSvMeasInfoInd R) :
    MeasState D G X H M :=
  if ind.sub == 1 then
    let meas := s.api.mGnssMeasurements
    let (header, members) := conv.header s.api.members meas.header ind
    { s with api := { s.api with
        members := members
        mGnssMeasurements := { meas with header := header } } }
  else s

def count (s : MeasState D G X H M) : Nat := s.api.mGnssMeasurements.measurements.length

def agcCount (s : MeasState D G X H M) : Nat := s.api.mGnssMeasurements.gnssAgc.length

/-- `convertGnssMeasurements` and the count after it. -/
def convertGnssMeasurements (s : MeasState D G X H M) (ind : GnssSvMeasInfoInd R) (isExt : Bool)
    (index : Nat) : MeasState D G X H M :=
  let meas := s.api.mGnssMeasurements
  let (data, members) := conv.measurement s.api.members ind isExt index
  { s with api := { s.api with
      members := members
      mGnssMeasurements := { meas with
        measurements := meas.measurements ++ [⟨ind.measured isExt index, data⟩] }
      written := s.api.written ++ [.measurements s.count, .svMeas s.count] } }

/-- A loop over a list, while there is room. -/
def convertList (ind : GnssSvMeasInfoInd R) (isExt : Bool) :
    List Nat → MeasState D G X H M → MeasState D G X H M
  | [], s => s
  | index :: rest, s =>
    if s.count < capacity.measurementsMax then
      convertList ind isExt rest
        (if ind.reports isExt index then s.convertGnssMeasurements conv ind isExt index else s)
    else s

/-- The second list is looked at only if there is a first. -/
def convertLists (s : MeasState D G X H M) (ind : GnssSvMeasInfoInd R) : MeasState D G X H M :=
  if ind.listed false then
    let s := convertList conv capacity ind false (List.range ind.svMeasurement_len) s
    if ind.listed true then
      convertList conv capacity ind true (List.range ind.extSvMeasurement_len) s
    else s
  else s

def convertAgc (s : MeasState D G X H M) (ind : GnssSvMeasInfoInd R) : MeasState D G X H M :=
  let meas := s.api.mGnssMeasurements
  { s with api := { s.api with
      mGnssMeasurements := { meas with gnssAgc := meas.gnssAgc ++ [conv.agc ind] }
      written := s.api.written ++ [.gnssAgc s.agcCount] } }

/-- What positions are checked against. -/
def keep1Hz (s : MeasState D G X H M) (ind : GnssSvMeasInfoInd R) : MeasState D G X H M :=
  if ind.maxMessageNum == ind.seqNum && !s.api.mGnssMeasurements.isNhz then
    { s with api := { s.api with
        members := conv.keep1Hz s.api.mGnssMeasurements s.api.members } }
  else s

/-- What comes with the last message. -/
def closeEpoch (s : MeasState D G X H M) (ind : GnssSvMeasInfoInd R) : MeasState D G X H M :=
  let meas := s.api.mGnssMeasurements
  let (rest, header, members) := conv.last s.api.members meas ind
  { s with api := { s.api with
      members := members
      mGnssMeasurements := { meas with
        clock := { meas.clock with rest := rest }
        isFullTracking := s.api.mIsFullTracking
        header := header } } }

/-- The last message hands over what was collected. -/
def finish (s : MeasState D G X H M) (ind : GnssSvMeasInfoInd R) : MeasState D G X H M :=
  if ind.isLast then (s.closeEpoch conv ind).flush conv ind else s

/-- What is done with a message of a known system, after the epoch has begun. -/
def collect (s : MeasState D G X H M) (ind : GnssSvMeasInfoInd R) : MeasState D G X H M :=
  let s : MeasState D G X H M :=
    { s with statics := { s.statics with newMeasProcessed := true } }
  let s := (s.convertClockOfPreferred conv ind).convertGnssMeasurementsHeader conv ind
  ((s.convertLists conv capacity ind).convertAgc conv ind).keep1Hz conv ind

def reportGnssMeasurementData (s : MeasState D G X H M) (ind : GnssSvMeasInfoInd R) :
    MeasState D G X H M :=
  let s := s.allocate conv
  if ind.invalid then s
  else
    let s := s.beginEpoch conv ind
    if getLocApiSvSystemType ind.system == .unknown then s
    else (s.collect conv capacity ind).finish conv ind

end MeasState

/-! ## Some messages -/

/-- Conversions to nothing. -/
def unitConverters : Converters Unit Unit Unit Unit Unit Unit where
  zeroClock := ()
  zeroHeader := ()
  measurement := fun _ _ _ _ => ((), ())
  clock := fun _ _ _ _ => ((), ())
  header := fun _ _ _ => ((), ())
  agc := fun _ => ()
  keep1Hz := fun _ _ => ()
  last := fun _ _ _ => ((), (), ())
  biases := fun _ _ => ()
  stamp := fun _ _ => ()
  cycleSlips := fun _ _ => ()
  reset := fun _ => ()

def freshMeasurement : SvMeasurement := ⟨SvMeasurement.freshMeasValid, SvMeasurement.freshMeasValid⟩

def dontUseMeasurement : SvMeasurement :=
  ⟨SvMeasurement.freshMeasValid, SvMeasurement.freshMeasValid ||| 0x8000000000000000⟩

/-- A message of an epoch of 1 Hz, with a measurement in each list. -/
def sampleInd (epochNumber : Nat) (seqNum maxMessageNum : UInt8) (gnssSignalType : UInt64)
    (ext : SvMeasurement) : GnssSvMeasInfoInd Unit where
  epochNumber := epochNumber
  seqNum := seqNum
  maxMessageNum := maxMessageNum
  subSeqNum := some 1
  maxSubSeqNum := some 1
  system := .gps
  gnssSignalType := gnssSignalType
  nHzMeasurement_valid := false
  nHzMeasurement := 0
  systemTimeExt_valid := true
  refFCount := UInt32.ofNat (1000 * epochNumber)
  numClockResets_valid := true
  numClockResets := 0
  svMeasurement_valid := true
  svMeasurement_len := 1
  svMeasurement := fun _ => freshMeasurement
  extSvMeasurement_valid := true
  extSvMeasurement_len := 1
  extSvMeasurement := fun _ => ext
  rest := ()

def sampleCapacity : Capacity := ⟨3, 3, 2⟩

end LocationStack.LocApi
