import LocationStack.Lib.FlagTable
import LocationStack.Lib.Logged
import Mathlib.Algebra.Group.Nat.Defs
import Mathlib.Data.List.TakeWhile

/-! # The converters between the structures and the messages

A message that goes between the processes is a protobuf message; the converters copy it, field by
field, to and from the structures that the rest of the code uses.  An encoder fills a new message.
A decoder fills a structure of its caller and records (`Logged`) which elements of the message it
reads, which places of the structure's arrays it writes and which numbers of elements it stores.

The structures are those of a header that is not part of the repository.  Their fields are known
from the converters and their integer types from the comments of the message definitions; the
capacities of their arrays, and the numbers of the masks that pass the wire as they are, are left
open (`Header`).  A `double` or a `float` is copied and never
computed with, so it stands for its bits.  An enumeration of a message is open: its field may hold
a number that has no name.
-/
namespace LocationStack
namespace PbConv

/-- The bits of a `double`. -/
abbrev Double := BitVec 64

/-- The bits of a `float`. -/
abbrev Single := BitVec 32

/-! ## Masks whose numbers pass the wire

For four masks one of the two converters copies the word as it is, or sets bits of the message in
the structure.  What is read then depends on the numbers of the header. -/

inductive GeofenceBreachTypeFlag
  | enter | exit | dwellIn | dwellOut
  deriving Repr, DecidableEq

def geofenceBreachTypes : FlagTable GeofenceBreachTypeFlag 32 where
  rows := [(.enter, 1), (.exit, 2), (.dwellIn, 4), (.dwellOut, 8)]
  nonzero := by decide
  disjoint := by decide

inductive GnssDataFlag
  | jammerInd | agc
  deriving Repr, DecidableEq

def gnssDataFlags : FlagTable GnssDataFlag 64 where
  rows := [(.jammerInd, 1), (.agc, 2)]
  nonzero := by decide
  disjoint := by decide

/-- The message has no bit for the last three. -/
inductive GnssMeasurementsStateFlag
  | codeLock | bitSync | subframeSync | towDecoded | msecAmbiguous | symbolSync | gloStringSync
  | gloTodDecoded | bdsD2BitSync | bdsD2SubframeSync | galE1bcCodeLock | galE1c2ndCodeLock
  | galE1bPageSync | sbasSync | towKnown | gloTodKnown | secondCodeLock
  deriving Repr, DecidableEq

def gnssMeasurementsStates : FlagTable GnssMeasurementsStateFlag 32 where
  rows := [(.codeLock, 1), (.bitSync, 2), (.subframeSync, 4), (.towDecoded, 8),
    (.msecAmbiguous, 0x10), (.symbolSync, 0x20), (.gloStringSync, 0x40), (.gloTodDecoded, 0x80),
    (.bdsD2BitSync, 0x100), (.bdsD2SubframeSync, 0x200), (.galE1bcCodeLock, 0x400),
    (.galE1c2ndCodeLock, 0x800), (.galE1bPageSync, 0x1000), (.sbasSync, 0x2000)]
  nonzero := by decide
  disjoint := by decide

inductive DrCalibrationStatusFlag
  | rollCalibrationNeeded | pitchCalibrationNeeded | yawCalibrationNeeded | odoCalibrationNeeded
  | gyroCalibrationNeeded | turnCalibrationLow | turnCalibrationMedium | turnCalibrationHigh
  | linearAccelCalibrationLow | linearAccelCalibrationMedium | linearAccelCalibrationHigh
  | linearMotionCalibrationLow | linearMotionCalibrationMedium | linearMotionCalibrationHigh
  | staticCalibrationLow | staticCalibrationMedium | staticCalibrationHigh
  deriving Repr, DecidableEq

def drCalibrationStatuses : FlagTable DrCalibrationStatusFlag 32 where
  rows := [(.rollCalibrationNeeded, 1), (.pitchCalibrationNeeded, 2), (.yawCalibrationNeeded, 4),
    (.odoCalibrationNeeded, 8), (.gyroCalibrationNeeded, 0x10), (.turnCalibrationLow, 0x20),
    (.turnCalibrationMedium, 0x40), (.turnCalibrationHigh, 0x80),
    (.linearAccelCalibrationLow, 0x100), (.linearAccelCalibrationMedium, 0x200),
    (.linearAccelCalibrationHigh, 0x400), (.linearMotionCalibrationLow, 0x800),
    (.linearMotionCalibrationMedium, 0x1000), (.linearMotionCalibrationHigh, 0x2000),
    (.staticCalibrationLow, 0x4000), (.staticCalibrationMedium, 0x8000),
    (.staticCalibrationHigh, 0x10000)]
  nonzero := by decide
  disjoint := by decide

/-- What the header of the structures fixes. -/
structure Header where
  /-- The bits of `numOfEphemeris` and of `numOfExtendedEphemeris`. -/
  numOfEphemerisBits : Nat
  numOfEphemerisBits_le : numOfEphemerisBits ≤ 32
  /-- The capacity of the arrays of ephemerides, `gpsEphemerisData` and the others. -/
  ephemerisData : Nat
  /-- The capacity of the arrays of extended ephemerides. -/
  extEphemerisData : Nat
  /-- `GNSS_SV_MAX`; a number of measurements that were received is a byte. -/
  gnssSvMax : Nat
  gnssSvMax_lt : gnssSvMax < 2 ^ 8
  /-- `GNSS_MEASUREMENTS_MAX` -/
  gnssMeasurementsMax : Nat
  gnssMeasurementsMax_lt : gnssMeasurementsMax < 2 ^ 31
  /-- `GNSS_LOC_MAX_NUMBER_OF_SIGNAL_TYPES` -/
  maxNumberOfSignalTypes : Nat
  maxNumberOfSignalTypes_lt : maxNumberOfSignalTypes < 2 ^ 31
  /-- `DGNSS_STATION_ID_MAX` -/
  dgnssStationIdMax : Nat
  dgnssStationIdMax_lt : dgnssStationIdMax < 2 ^ 31
  /-- The capacity of `extendedData`. -/
  extendedData : Nat
  extendedData_lt : extendedData < 2 ^ 31
  /-- The capacity of `otherCodeTypeName`. -/
  otherCodeTypeName : Nat
  /-- `LOC_OUTPUT_ENGINE_COUNT` -/
  locOutputEngineCount : Nat
  /-- The capacities of `xtraServerURLs` and of `ntpServerURLs`, and of a string of each. -/
  (xtraServerURLs xtraServerURL ntpServerURLs ntpServerURL : Nat)
  xtraServerURLs_lt : xtraServerURLs < 2 ^ 31
  ntpServerURLs_lt : ntpServerURLs < 2 ^ 31
  /-- The capacities of `xtraCaPath` and of `ntsKeServerURL`. -/
  (xtraCaPath ntsKeServerURL : Nat)
  /-- The numbers of the four masks. -/
  geofenceBreachTypes : FlagTable GeofenceBreachTypeFlag 32
  gnssDataFlags : FlagTable GnssDataFlag 64
  gnssMeasurementsStates : FlagTable GnssMeasurementsStateFlag 32
  drCalibrationStatuses : FlagTable DrCalibrationStatusFlag 32

/-- The numbers of the header are those of the message, where the message has one. -/
structure Header.SameNumbers (h : Header) : Prop where
  geofenceBreachTypes : h.geofenceBreachTypes = PbConv.geofenceBreachTypes
  gnssDataFlags : h.gnssDataFlags = PbConv.gnssDataFlags
  gnssMeasurementsStates :
    ∀ r ∈ PbConv.gnssMeasurementsStates.rows, r ∈ h.gnssMeasurementsStates.rows
  drCalibrationStatuses : h.drCalibrationStatuses = PbConv.drCalibrationStatuses

/-- A small header whose numbers are those of the message. -/
def Header.small : Header where
  numOfEphemerisBits := 16
  numOfEphemerisBits_le := by decide
  ephemerisData := 2
  extEphemerisData := 2
  gnssSvMax := 2
  gnssSvMax_lt := by decide
  gnssMeasurementsMax := 2
  gnssMeasurementsMax_lt := by decide
  maxNumberOfSignalTypes := 2
  maxNumberOfSignalTypes_lt := by decide
  dgnssStationIdMax := 2
  dgnssStationIdMax_lt := by decide
  extendedData := 2
  extendedData_lt := by decide
  otherCodeTypeName := 2
  locOutputEngineCount := 2
  xtraServerURLs := 2
  xtraServerURL := 2
  ntpServerURLs := 2
  ntpServerURL := 2
  xtraServerURLs_lt := by decide
  ntpServerURLs_lt := by decide
  xtraCaPath := 2
  ntsKeServerURL := 2
  geofenceBreachTypes := PbConv.geofenceBreachTypes
  gnssDataFlags := PbConv.gnssDataFlags
  gnssMeasurementsStates := PbConv.gnssMeasurementsStates
  drCalibrationStatuses := PbConv.drCalibrationStatuses

theorem Header.small_sameNumbers : Header.small.SameNumbers :=
  ⟨rfl, rfl, fun _ hr => hr, rfl⟩

/-! ## Sizes -/

/-- The rounds of `for (int i = 0; i < count; i++)` where `count` is an `int` that was given the
size `n`. -/
def intRounds (n : Nat) : Nat :=
  (BitVec.ofNat 32 n).toInt.toNat

/-- A size in a `uint32_t`. -/
def uint32Size (n : Nat) : Nat :=
  n % 2 ^ 32

theorem intRounds_of_lt {n : Nat} (h : n < 2 ^ 31) : intRounds n = n := by
  have hint : (BitVec.ofNat 32 n).toInt = n := by
    rw [BitVec.toInt_eq_toNat_of_lt] <;> rw [BitVec.toNat_ofNat] <;> omega
  rw [intRounds, hint, Int.toNat_natCast]

/-- A size that is too large for an `int` is negative there. -/
theorem intRounds_le_uint32Size (n : Nat) : intRounds n ≤ uint32Size n := by
  have htoNat : (BitVec.ofNat 32 n).toNat = uint32Size n := BitVec.toNat_ofNat n 32
  have hint : (BitVec.ofNat 32 n).toInt ≤ (BitVec.ofNat 32 n).toNat := by
    rw [BitVec.toInt_eq_toNat_cond]
    split <;> omega
  rw [intRounds]
  omega

theorem uint32Size_of_lt {n : Nat} (h : n < 2 ^ 32) : uint32Size n = n :=
  Nat.mod_eq_of_lt h

theorem uint32Size_le (n : Nat) : uint32Size n ≤ n :=
  Nat.mod_le n _

theorem intRounds_le (n : Nat) : intRounds n ≤ n :=
  Nat.le_trans (intRounds_le_uint32Size n) (uint32Size_le n)

/-! ## Arrays -/

section Arrays

variable {α β : Type} [Inhabited α]

/-- The first `n` elements of an array become those of a repeated field. -/
def addAll {capacity : Nat} (n : Nat) (data : Vector α capacity) (enc : α → β) : List β :=
  (List.range n).map fun idx => enc (data.toList.getD idx default)

@[simp] theorem length_addAll {capacity : Nat} (n : Nat) (data : Vector α capacity)
    (enc : α → β) : (addAll n data enc).length = n := by
  simp [addAll]

/-- Converting an array to a repeated field and back gives its elements again. -/
theorem getElem_fill_addAll [Inhabited β] {capacity n : Nat} {enc : α → β}
    {conv : β → α → Logged α} (henc : ∀ x y, (conv (enc x) y).value = x) (hn : n ≤ capacity)
    (data dst : Vector α capacity) {i : Nat} (hi : i < n) (hcap : i < capacity) :
    (Logged.fill n (addAll n data enc) conv dst).value[i] = data[i] := by
  have hget : (addAll n data enc).getD i default = enc data[i] := by
    simp [addAll, hi, hcap]
  rw [Logged.getElem_fill hn dst hcap, if_pos hi, hget, henc]

theorem value_fill_addAll {n : Nat} (data dst : Vector α n) :
    (Logged.fill n (addAll n data id) (fun x _ => pure x) dst).value = data :=
  Vector.ext fun _ hi => getElem_fill_addAll (fun _ _ => rfl) (Nat.le_refl n) data dst hi hi

/-- An array of which the first `count` elements are in use. -/
structure Counted (α : Type) (capacity : Nat) where
  count : UInt32
  data : Vector α capacity
  deriving Inhabited

namespace Counted

variable {capacity : Nat}

/-- There is room for the elements. -/
def WithinCapacity (a : Counted α capacity) : Prop :=
  a.count.toNat ≤ capacity

/-- The same elements. -/
structure Same (a a' : Counted α capacity) : Prop where
  count : a'.count = a.count
  data : ∀ i (hi : i < capacity), i < a.count.toNat → a'.data[i] = a.data[i]

def toPB (a : Counted α capacity) (enc : α → β) : List β :=
  addAll a.count.toNat a.data enc

/-- The size of the repeated field is the number of rounds, and is stored. -/
def ofPB [Inhabited β] (src : List β) (conv : β → α) (a : Counted α capacity) :
    Logged (Counted α capacity) := do
  let count := UInt32.ofNat src.length
  Logged.count count.toNat capacity
  let data ← Logged.fill count.toNat src (fun x _ => pure (conv x)) a.data
  pure { count, data }

theorem inBounds_ofPB [Inhabited β] (src : List β) (conv : β → α) (a : Counted α capacity) :
    (ofPB src conv a).InBounds ↔ uint32Size src.length ≤ capacity := by
  have hconv : ∀ (x : β) (y : α), (pure (conv x) : Logged α).InBounds ↔ True :=
    fun _ _ => iff_true_intro (Logged.inBounds_pure _)
  have hsize : (UInt32.ofNat src.length).toNat = uint32Size src.length := UInt32.toNat_ofNat'
  simp only [ofPB, Logged.inBounds_bind, Logged.inBounds_count, Logged.inBounds_fill hconv,
    Logged.inBounds_pure, hsize]
  constructor
  · exact fun hbounds => hbounds.1
  · intro hfits
    exact ⟨hfits, ⟨uint32Size_le _, hfits, fun _ _ => trivial⟩, trivial⟩

/-- The elements survive exactly if each of them does. -/
theorem same_iff [Inhabited β] {enc : α → β} {conv : β → α} {a : Counted α capacity}
    (ha : a.WithinCapacity) (old : Counted α capacity) :
    a.Same (ofPB (a.toPB enc) conv old).value ↔
      ∀ i (hi : i < capacity), i < a.count.toNat → conv (enc a.data[i]) = a.data[i] := by
  have hcount : UInt32.ofNat (a.toPB enc).length = a.count := by
    rw [toPB, length_addAll, UInt32.ofNat_toNat]
  have hget : ∀ i (hi : i < capacity), i < a.count.toNat →
      (ofPB (a.toPB enc) conv old).value.data[i] = conv (enc a.data[i]) := by
    intro i hi hlt
    have helem : (a.toPB enc).getD i default = enc a.data[i] := by
      simp [toPB, addAll, hlt, hi]
    simp only [ofPB, Logged.value_bind, Logged.value_pure, hcount]
    rw [Logged.getElem_fill ha _ hi, if_pos hlt, helem, Logged.value_pure]
  constructor
  · intro hsame i hi hlt
    rw [← hget i hi hlt]
    exact hsame.data i hi hlt
  · intro hall
    exact ⟨hcount, fun i hi hlt => (hget i hi hlt).trans (hall i hi hlt)⟩

end Counted

end Arrays

/-! ## Strings -/

/-- The characters before the first NUL. -/
def cString (src : List UInt8) : List UInt8 :=
  src.takeWhile (· ≠ 0)

/-- `strlcpy(dst, src.c_str(), sizeof(dst))` -/
def strlcpy {n : Nat} (dst : Vector UInt8 n) (src : List UInt8) : Logged (Vector UInt8 n) :=
  if 0 < n then do
    let len := min (cString src).length (n - 1)
    let dst ← Logged.fill len (cString src) (fun c _ => pure c) dst
    Logged.write dst len 0
  else pure dst

@[simp] theorem inBounds_strlcpy {n : Nat} (dst : Vector UInt8 n) (src : List UInt8) :
    (strlcpy dst src).InBounds := by
  have hconv : ∀ (c d : UInt8), (pure c : Logged UInt8).InBounds ↔ True :=
    fun c _ => iff_true_intro (Logged.inBounds_pure c)
  rw [strlcpy, Logged.inBounds_ite]
  refine ⟨fun hn => ?_, fun _ => Logged.inBounds_pure dst⟩
  rw [Logged.inBounds_bind, Logged.inBounds_fill hconv, Logged.inBounds_write]
  exact ⟨⟨by omega, by omega, fun _ _ => trivial⟩, by omega⟩

theorem takeWhile_eq_of_getElem {src dst : List UInt8} (hsrc : ∀ c ∈ src, c ≠ 0)
    (hlen : src.length < dst.length) (hcopy : ∀ i (hi : i < src.length), dst[i] = src[i])
    (hend : dst[src.length] = 0) : cString dst = src := by
  induction src generalizing dst with
  | nil =>
    cases dst with
    | nil => rfl
    | cons d dst =>
      have hd : d = 0 := hend
      simp [cString, hd]
  | cons c src ih =>
    cases dst with
    | nil => cases hlen
    | cons d dst =>
      obtain rfl : d = c := hcopy 0 (Nat.succ_pos _)
      have hrest : cString dst = src :=
        ih (fun c hc => hsrc c (List.mem_cons_of_mem _ hc)) (Nat.lt_of_succ_lt_succ hlen)
          (fun i hi => hcopy (i + 1) (Nat.succ_lt_succ hi)) hend
      rw [cString] at hrest
      rw [cString, List.takeWhile_cons_of_pos (by simpa using hsrc d List.mem_cons_self), hrest]

/-- A string that fits is copied. -/
theorem cString_strlcpy {n : Nat} {src : List UInt8} (h : (cString src).length < n)
    (dst : Vector UInt8 n) : cString (strlcpy dst src).value.toList = cString src := by
  have hlen : min (cString src).length (n - 1) = (cString src).length := by omega
  have hvalue : (strlcpy dst src).value = (Logged.fill (cString src).length (cString src)
      (fun c _ => pure c) dst).value.setIfInBounds (cString src).length 0 := by
    simp only [strlcpy, Nat.zero_lt_of_lt h, if_true, hlen]
    rfl
  rw [hvalue]
  refine takeWhile_eq_of_getElem (fun c hc => ?_) (by simpa using h) (fun i hi => ?_) ?_
  · simpa using List.mem_takeWhile_imp hc
  · have hi' : i < n := Nat.lt_trans hi h
    have hget : (Logged.fill (cString src).length (cString src) (fun c _ => pure c) dst).value[i]
        = if i < (cString src).length then (cString src).getD i default else dst[i] :=
      Logged.getElem_fill (Nat.le_of_lt h) dst hi'
    simp [Nat.ne_of_gt hi, hget, hi]
  · simp

/-- What is before the first NUL ends where there is one. -/
theorem length_cString_le {src : List UInt8} {i : Nat} (hi : i < src.length) (hnul : src[i] = 0) :
    (cString src).length ≤ i := by
  refine Nat.le_of_not_lt fun hlt => ?_
  have hprefix : cString src <+: src := List.takeWhile_prefix _
  have hget : (cString src)[i] = src[i] := hprefix.getElem hlt
  have hne : (cString src)[i] ≠ 0 := by
    simpa using List.mem_takeWhile_imp (List.getElem_mem hlt)
  exact hne (hget.trans hnul)

/-- A copy ends within its array. -/
theorem length_cString_strlcpy_lt {n : Nat} (hn : 0 < n) (src : List UInt8) (dst : Vector UInt8 n) :
    (cString (strlcpy dst src).value.toList).length < n := by
  have hlast : min (cString src).length (n - 1) < n := by omega
  have hnul : (strlcpy dst src).value[min (cString src).length (n - 1)] = 0 := by
    simp only [strlcpy, hn, if_true]
    exact Vector.getElem_setIfInBounds_self _
  refine Nat.lt_of_le_of_lt (length_cString_le (by simpa using hlast) ?_) hlast
  simpa using hnul

theorem cString_cString (src : List UInt8) : cString (cString src) = cString src :=
  List.takeWhile_idem

/-- A string that has a NUL within its array survives. -/
theorem cString_strlcpy_cString {n : Nat} {src : Vector UInt8 n}
    (h : (cString src.toList).length < n) (dst : Vector UInt8 n) :
    cString (strlcpy dst (cString src.toList)).value.toList = cString src.toList := by
  rw [cString_strlcpy (by rwa [cString_cString]), cString_cString]

/-! ## Constellations -/

inductive GnssLocSvSystemEnumType
  | unknown | gps | galileo | sbas | glonass | bds | qzss | navic
  deriving Repr, DecidableEq, Inhabited

inductive PBGnssLocSvSystemEnumType
  | invalid | gps | galileo | sbas | glonass | bds | qzss | navic
  | unrecognized (value : BitVec 32)
  deriving Repr, DecidableEq, Inhabited

def getPBEnumForGnssLocSvSystem : GnssLocSvSystemEnumType → PBGnssLocSvSystemEnumType
  | .gps => .gps
  | .galileo => .galileo
  | .sbas => .sbas
  | .glonass => .glonass
  | .bds => .bds
  | .qzss => .qzss
  | .navic => .navic
  | .unknown => .invalid

def getEnumForPBGnssLocSvSystem : PBGnssLocSvSystemEnumType → GnssLocSvSystemEnumType
  | .invalid => .unknown
  | .gps => .gps
  | .galileo => .galileo
  | .sbas => .sbas
  | .glonass => .glonass
  | .bds => .bds
  | .qzss => .qzss
  | .navic => .navic
  | .unrecognized _ => .unknown

@[simp] theorem getEnumForPBGnssLocSvSystem_getPBEnum (c : GnssLocSvSystemEnumType) :
    getEnumForPBGnssLocSvSystem (getPBEnumForGnssLocSvSystem c) = c := by
  cases c <;> rfl

inductive GnssSvType
  | unknown | gps | sbas | glonass | qzss | beidou | galileo | navic
  deriving Repr, DecidableEq, Inhabited

def getPBGnssLocSvSysEnumFromGnssSvType : GnssSvType → PBGnssLocSvSystemEnumType
  | .unknown => .invalid
  | .gps => .gps
  | .sbas => .sbas
  | .glonass => .glonass
  | .qzss => .qzss
  | .beidou => .bds
  | .galileo => .galileo
  | .navic => .navic

def getGnssSvTypeFromPBGnssLocSvSystemEnumType : PBGnssLocSvSystemEnumType → GnssSvType
  | .invalid => .unknown
  | .gps => .gps
  | .sbas => .sbas
  | .glonass => .glonass
  | .qzss => .qzss
  | .bds => .beidou
  | .galileo => .galileo
  | .navic => .navic
  | .unrecognized _ => .unknown

@[simp] theorem getGnssSvTypeFromPBGnssLocSvSystemEnumType_getPBEnum (t : GnssSvType) :
    getGnssSvTypeFromPBGnssLocSvSystemEnumType (getPBGnssLocSvSysEnumFromGnssSvType t) = t := by
  cases t <;> rfl

/-! ## Signals -/

inductive GnssSignalTypeFlag
  | gpsL1ca | gpsL1c | gpsL2 | gpsL5 | glonassG1 | glonassG2 | galileoE1 | galileoE5a | galileoE5b
  | beidouB1 | beidouB2 | qzssL1ca | qzssL1s | qzssL2 | qzssL5 | sbasL1 | beidouB1i | beidouB1c
  | beidouB2i | beidouB2ai | navicL5 | beidouB2aq | beidouB2bi | beidouB2bq | navicL1
  deriving Repr, DecidableEq

def gnssSignalTypeFlags : FlagTable GnssSignalTypeFlag 32 where
  rows := [(.gpsL1ca, 1), (.gpsL1c, 2), (.gpsL2, 4), (.gpsL5, 8), (.glonassG1, 0x10),
    (.glonassG2, 0x20), (.galileoE1, 0x40), (.galileoE5a, 0x80), (.galileoE5b, 0x100),
    (.beidouB1, 0x200), (.beidouB2, 0x400), (.qzssL1ca, 0x800), (.qzssL1s, 0x1000),
    (.qzssL2, 0x2000), (.qzssL5, 0x4000), (.sbasL1, 0x8000), (.beidouB1i, 0x10000),
    (.beidouB1c, 0x20000), (.beidouB2i, 0x40000), (.beidouB2ai, 0x80000), (.navicL5, 0x100000),
    (.beidouB2aq, 0x200000), (.beidouB2bi, 0x400000), (.beidouB2bq, 0x800000),
    (.navicL1, 0x1000000)]
  nonzero := by decide
  disjoint := by decide

def getPBMaskForGnssSignalTypeMask : Flags GnssSignalTypeFlag → BitVec 32 :=
  gnssSignalTypeFlags.write

def getGnssSignalTypeMaskFromPB : BitVec 32 → Flags GnssSignalTypeFlag :=
  gnssSignalTypeFlags.read

@[simp] theorem getGnssSignalTypeMaskFromPB_getPBMaskForGnssSignalTypeMask
    (m : Flags GnssSignalTypeFlag) :
    getGnssSignalTypeMaskFromPB (getPBMaskForGnssSignalTypeMask m) = m :=
  gnssSignalTypeFlags.read_write (fun f => by cases f <;> decide) m

/-! ## System time -/

inductive GnssSystemTimeStructTypeFlag
  | weekValid | weekMsValid | clkTimeBiasValid | clkTimeBiasUncValid | refFcountValid
  | numClockResetsValid
  deriving Repr, DecidableEq

def gnssSystemTimeStructTypeFlags : FlagTable GnssSystemTimeStructTypeFlag 32 where
  rows := [(.weekValid, 1), (.weekMsValid, 2), (.clkTimeBiasValid, 4), (.clkTimeBiasUncValid, 8),
    (.refFcountValid, 16), (.numClockResetsValid, 32)]
  nonzero := by decide
  disjoint := by decide

def getPBMaskForGnssSystemTimeStructTypeFlags :
    Flags GnssSystemTimeStructTypeFlag → BitVec 32 :=
  gnssSystemTimeStructTypeFlags.write

def getGnssSystemTimeStructTypeFlagsFromPB : BitVec 32 → Flags GnssSystemTimeStructTypeFlag :=
  gnssSystemTimeStructTypeFlags.read

@[simp] theorem getGnssSystemTimeStructTypeFlagsFromPB_getPBMask
    (m : Flags GnssSystemTimeStructTypeFlag) :
    getGnssSystemTimeStructTypeFlagsFromPB (getPBMaskForGnssSystemTimeStructTypeFlags m) = m :=
  gnssSystemTimeStructTypeFlags.read_write (fun f => by cases f <;> decide) m

structure GnssSystemTimeStructType where
  validityMask : Flags GnssSystemTimeStructTypeFlag
  systemWeek : UInt32
  systemMsec : UInt32
  systemClkTimeBias : Single
  systemClkTimeUncMs : Single
  refFCount : UInt32
  numClockResets : UInt32
  deriving Inhabited

structure PBGnssSystemTimeStructType where
  validityMask : BitVec 32
  systemWeek : UInt32
  systemMsec : UInt32
  systemClkTimeBiasMs : Single
  systemClkTimeBiasUncMs : Single
  refFCount : UInt32
  numClockResets : UInt32
  deriving Inhabited

def convertGnssSystemTimeStructTypeToPB (t : GnssSystemTimeStructType) :
    PBGnssSystemTimeStructType where
  validityMask := getPBMaskForGnssSystemTimeStructTypeFlags t.validityMask
  systemWeek := t.systemWeek
  systemMsec := t.systemMsec
  systemClkTimeBiasMs := t.systemClkTimeBias
  systemClkTimeBiasUncMs := t.systemClkTimeUncMs
  refFCount := t.refFCount
  numClockResets := t.numClockResets

def pbConvertToSystemTime (pb : PBGnssSystemTimeStructType) : GnssSystemTimeStructType where
  validityMask := getGnssSystemTimeStructTypeFlagsFromPB pb.validityMask
  systemWeek := pb.systemWeek
  systemMsec := pb.systemMsec
  systemClkTimeBias := pb.systemClkTimeBiasMs
  systemClkTimeUncMs := pb.systemClkTimeBiasUncMs
  refFCount := pb.refFCount
  numClockResets := pb.numClockResets

@[simp] theorem pbConvertToSystemTime_convertToPB (t : GnssSystemTimeStructType) :
    pbConvertToSystemTime (convertGnssSystemTimeStructTypeToPB t) = t := by
  simp only [pbConvertToSystemTime, convertGnssSystemTimeStructTypeToPB,
    getGnssSystemTimeStructTypeFlagsFromPB_getPBMask]

end PbConv
end LocationStack
