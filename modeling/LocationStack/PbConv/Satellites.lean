import LocationStack.PbConv.Common

/-! # Satellites, signal data and measurements

The satellites that are seen and the measurements of them are arrays with a number of elements;
the data of the signals are three arrays whose capacity is the number of signal types.  The status
of the gain control of each band is encoded for both kinds of report and decoded for one of them.
-/
namespace LocationStack
namespace PbConv

/-! ## Gain control -/

inductive AgcStatus
  | unknown | noSaturation | frontEndGainMaximumSaturation | frontEndGainMinimumSaturation
  deriving Repr, DecidableEq, Inhabited

inductive PBAgcStatus
  | unknown | noSaturation | frontEndGainMaximumSaturation | frontEndGainMinimumSaturation
  | unrecognized (value : BitVec 32)
  deriving Repr, DecidableEq, Inhabited

def getPBEnumForAgcStatus : AgcStatus → PBAgcStatus
  | .unknown => .unknown
  | .noSaturation => .noSaturation
  | .frontEndGainMaximumSaturation => .frontEndGainMaximumSaturation
  | .frontEndGainMinimumSaturation => .frontEndGainMinimumSaturation

def getEnumForPBAgcStatus : PBAgcStatus → AgcStatus
  | .unknown => .unknown
  | .noSaturation => .noSaturation
  | .frontEndGainMaximumSaturation => .frontEndGainMaximumSaturation
  | .frontEndGainMinimumSaturation => .frontEndGainMinimumSaturation
  | .unrecognized _ => .unknown

@[simp] theorem getEnumForPBAgcStatus_getPBEnumForAgcStatus (e : AgcStatus) :
    getEnumForPBAgcStatus (getPBEnumForAgcStatus e) = e := by
  cases e <;> rfl

/-! ## Satellites -/

inductive GnssSvOptionsFlag
  | hasEphemer | hasAlmanac | usedInFix | hasCarrierFrequency | hasGnssSignalType
  | hasBasebandCarrierToNoise | hasElevation | hasAzimuth
  deriving Repr, DecidableEq

def gnssSvOptionsFlags : FlagTable GnssSvOptionsFlag 32 where
  rows := [(.hasEphemer, 1), (.hasAlmanac, 2), (.usedInFix, 4), (.hasCarrierFrequency, 8),
    (.hasGnssSignalType, 0x10), (.hasBasebandCarrierToNoise, 0x20), (.hasElevation, 0x40),
    (.hasAzimuth, 0x80)]
  nonzero := by decide
  disjoint := by decide

def getPBMaskForGnssSvOptionsMask : Flags GnssSvOptionsFlag → BitVec 32 :=
  gnssSvOptionsFlags.write

def getGnssSvOptionsMaskFromPB : BitVec 32 → Flags GnssSvOptionsFlag :=
  gnssSvOptionsFlags.read

@[simp] theorem getGnssSvOptionsMaskFromPB_getPBMaskForGnssSvOptionsMask
    (m : Flags GnssSvOptionsFlag) :
    getGnssSvOptionsMaskFromPB (getPBMaskForGnssSvOptionsMask m) = m :=
  gnssSvOptionsFlags.read_write (fun f => by cases f <;> decide) m

structure GnssSv where
  svId : UInt16
  type : GnssSvType
  (cN0Dbhz elevation azimuth : Single)
  gnssSvOptionsMask : Flags GnssSvOptionsFlag
  carrierFrequencyHz : Single
  gnssSignalTypeMask : Flags GnssSignalTypeFlag
  basebandCarrierToNoiseDbHz : Double
  gloFrequency : UInt16
  deriving Inhabited

structure PBLocApiGnssSv where
  svId : UInt32
  type : PBGnssLocSvSystemEnumType
  (cN0Dbhz elevation azimuth : Single)
  gnssSvOptionsMask : BitVec 32
  carrierFrequencyHz : Single
  gnssSignalTypeMask : BitVec 32
  basebandCarrierToNoiseDbHz : Double
  gloFrequency : UInt32
  deriving Inhabited

def convertGnssSvToPB (gnssSv : GnssSv) : PBLocApiGnssSv where
  svId := gnssSv.svId.toUInt32
  type := getPBGnssLocSvSysEnumFromGnssSvType gnssSv.type
  cN0Dbhz := gnssSv.cN0Dbhz
  elevation := gnssSv.elevation
  azimuth := gnssSv.azimuth
  gnssSvOptionsMask := getPBMaskForGnssSvOptionsMask gnssSv.gnssSvOptionsMask
  carrierFrequencyHz := gnssSv.carrierFrequencyHz
  gnssSignalTypeMask := getPBMaskForGnssSignalTypeMask gnssSv.gnssSignalTypeMask
  basebandCarrierToNoiseDbHz := gnssSv.basebandCarrierToNoiseDbHz
  gloFrequency := gnssSv.gloFrequency.toUInt32

/-- The body of the loop over the satellites. -/
def pbConvertToGnssSv (pb : PBLocApiGnssSv) : GnssSv where
  svId := pb.svId.toUInt16
  type := getGnssSvTypeFromPBGnssLocSvSystemEnumType pb.type
  cN0Dbhz := pb.cN0Dbhz
  elevation := pb.elevation
  azimuth := pb.azimuth
  gnssSvOptionsMask := getGnssSvOptionsMaskFromPB pb.gnssSvOptionsMask
  carrierFrequencyHz := pb.carrierFrequencyHz
  gnssSignalTypeMask := getGnssSignalTypeMaskFromPB pb.gnssSignalTypeMask
  basebandCarrierToNoiseDbHz := pb.basebandCarrierToNoiseDbHz
  gloFrequency := pb.gloFrequency.toUInt16

@[simp] theorem pbConvertToGnssSv_convertGnssSvToPB (gnssSv : GnssSv) :
    pbConvertToGnssSv (convertGnssSvToPB gnssSv) = gnssSv := by
  simp only [pbConvertToGnssSv, convertGnssSvToPB,
    getGnssSvTypeFromPBGnssLocSvSystemEnumType_getPBEnum,
    getGnssSignalTypeMaskFromPB_getPBMaskForGnssSignalTypeMask, UInt16.toUInt16_toUInt32,
    getGnssSvOptionsMaskFromPB_getPBMaskForGnssSvOptionsMask]

structure GnssSvNotification (h : Header) where
  gnssSignalTypeMaskValid : Bool
  count : UInt32
  gnssSvs : Vector GnssSv h.gnssSvMax
  deriving Inhabited

structure PBLocApiGnssSvNotification where
  gnssSignalTypeMaskValid : Bool
  gnssSvs : List PBLocApiGnssSv
  deriving Inhabited

variable {h : Header}

def convertGnssSvNotifToPB (gnssSvNotif : GnssSvNotification h) : PBLocApiGnssSvNotification where
  gnssSignalTypeMaskValid := gnssSvNotif.gnssSignalTypeMaskValid
  gnssSvs := addAll gnssSvNotif.count.toNat gnssSvNotif.gnssSvs convertGnssSvToPB

def pbConvertToGnssSvNotif (pb : PBLocApiGnssSvNotification) (gnssSvNotif : GnssSvNotification h) :
    Logged (GnssSvNotification h) := do
  let count := UInt32.ofNat (min pb.gnssSvs.length h.gnssSvMax)
  Logged.count count.toNat h.gnssSvMax
  let gnssSvs ← Logged.fill count.toNat pb.gnssSvs (fun pb _ => pure (pbConvertToGnssSv pb))
    gnssSvNotif.gnssSvs
  pure { gnssSignalTypeMaskValid := pb.gnssSignalTypeMaskValid, count, gnssSvs }

theorem toNat_min_gnssSvMax (n : Nat) :
    (UInt32.ofNat (min n h.gnssSvMax)).toNat = min n h.gnssSvMax :=
  UInt32.toNat_ofNat_of_lt' (Nat.lt_of_le_of_lt (Nat.min_le_right _ _)
    (Nat.lt_trans h.gnssSvMax_lt (by decide)))

theorem inBounds_pbConvertToGnssSvNotif (pb : PBLocApiGnssSvNotification)
    (gnssSvNotif : GnssSvNotification h) : (pbConvertToGnssSvNotif pb gnssSvNotif).InBounds := by
  have hconv : ∀ (pb : PBLocApiGnssSv) (old : GnssSv),
      (pure (pbConvertToGnssSv pb) : Logged GnssSv).InBounds ↔ True :=
    fun _ _ => iff_true_intro (Logged.inBounds_pure _)
  simp only [pbConvertToGnssSvNotif, Logged.inBounds_bind, Logged.inBounds_count,
    Logged.inBounds_fill hconv, Logged.inBounds_pure, toNat_min_gnssSvMax]
  exact ⟨Nat.min_le_right _ _,
    ⟨Nat.min_le_left _ _, Nat.min_le_right _ _, fun _ _ => trivial⟩, trivial⟩

/-- The same satellites in the same order. -/
structure GnssSvNotification.Same (r r' : GnssSvNotification h) : Prop where
  gnssSignalTypeMaskValid : r'.gnssSignalTypeMaskValid = r.gnssSignalTypeMaskValid
  count : r'.count = r.count
  gnssSvs : ∀ i (hi : i < h.gnssSvMax), i < r.count.toNat → r'.gnssSvs[i] = r.gnssSvs[i]

/-- **Satellites survive.** -/
theorem pbConvertToGnssSvNotif_same {r : GnssSvNotification h} (hr : r.count.toNat ≤ h.gnssSvMax)
    (old : GnssSvNotification h) :
    r.Same (pbConvertToGnssSvNotif (convertGnssSvNotifToPB r) old).value := by
  have hcount : UInt32.ofNat (min (convertGnssSvNotifToPB r).gnssSvs.length h.gnssSvMax) =
      r.count := by
    rw [convertGnssSvNotifToPB, length_addAll, Nat.min_eq_left hr, UInt32.ofNat_toNat]
  refine ⟨rfl, hcount, fun i hi hlt => ?_⟩
  simp only [pbConvertToGnssSvNotif, Logged.value_bind, Logged.value_pure, hcount]
  exact getElem_fill_addAll (fun gnssSv _ => pbConvertToGnssSv_convertGnssSvToPB gnssSv) hr _ _
    hlt hi

/-! ## Signal data -/

def getGnssDataMaskFromPB : BitVec 64 → Flags GnssDataFlag :=
  gnssDataFlags.read

structure GnssDataNotification (h : Header) where
  gnssDataMask : Vector (Flags GnssDataFlag) h.maxNumberOfSignalTypes
  jammerInd : Vector Double h.maxNumberOfSignalTypes
  agc : Vector Double h.maxNumberOfSignalTypes
  (agcStatusL1 agcStatusL2 agcStatusL5 : AgcStatus)
  deriving Inhabited

structure PBGnssDataNotification where
  numberSignalTypes : UInt32
  gnssDataMask : List (BitVec 64)
  jammerInd : List Double
  agc : List Double
  (agcStatusL1 agcStatusL2 agcStatusL5 : PBAgcStatus)
  deriving Inhabited

/-- The masks are copied as they are, with the numbers of the header. -/
def convertGnssDataNotifToPB (gnssDataNotif : GnssDataNotification h) :
    PBGnssDataNotification where
  numberSignalTypes := UInt32.ofNat h.maxNumberOfSignalTypes
  gnssDataMask :=
    addAll h.maxNumberOfSignalTypes gnssDataNotif.gnssDataMask h.gnssDataFlags.write
  jammerInd := addAll h.maxNumberOfSignalTypes gnssDataNotif.jammerInd id
  agc := addAll h.maxNumberOfSignalTypes gnssDataNotif.agc id
  agcStatusL1 := getPBEnumForAgcStatus gnssDataNotif.agcStatusL1
  agcStatusL2 := getPBEnumForAgcStatus gnssDataNotif.agcStatusL2
  agcStatusL5 := getPBEnumForAgcStatus gnssDataNotif.agcStatusL5

/-- The three arrays are filled in one loop of the source; none is read in it.  The statuses of the
gain control are left as they are. -/
def pbConvertToGnssDataNotification (pb : PBGnssDataNotification)
    (gnssDataNotif : GnssDataNotification h) : Logged (GnssDataNotification h) := do
  let arrMaxLen := min pb.numberSignalTypes.toNat h.maxNumberOfSignalTypes
  let gnssDataMask ← Logged.fill arrMaxLen pb.gnssDataMask
    (fun pbMask _ => pure (getGnssDataMaskFromPB pbMask)) gnssDataNotif.gnssDataMask
  let jammerInd ← Logged.fill arrMaxLen pb.jammerInd (fun x _ => pure x) gnssDataNotif.jammerInd
  let agc ← Logged.fill arrMaxLen pb.agc (fun x _ => pure x) gnssDataNotif.agc
  pure { gnssDataNotif with gnssDataMask, jammerInd, agc }

/-- Each of the three fields has an element for each signal type. -/
structure PBGnssDataNotification.Fits (h : Header) (pb : PBGnssDataNotification) : Prop where
  gnssDataMask :
    min pb.numberSignalTypes.toNat h.maxNumberOfSignalTypes ≤ pb.gnssDataMask.length
  jammerInd : min pb.numberSignalTypes.toNat h.maxNumberOfSignalTypes ≤ pb.jammerInd.length
  agc : min pb.numberSignalTypes.toNat h.maxNumberOfSignalTypes ≤ pb.agc.length

theorem inBounds_pbConvertToGnssDataNotification (pb : PBGnssDataNotification)
    (gnssDataNotif : GnssDataNotification h) :
    (pbConvertToGnssDataNotification pb gnssDataNotif).InBounds ↔ pb.Fits h := by
  have hmask : ∀ (pbMask : BitVec 64) (old : Flags GnssDataFlag),
      (pure (getGnssDataMaskFromPB pbMask) : Logged (Flags GnssDataFlag)).InBounds ↔ True :=
    fun _ _ => iff_true_intro (Logged.inBounds_pure _)
  have hdouble : ∀ (x old : Double), (pure x : Logged Double).InBounds ↔ True :=
    fun x _ => iff_true_intro (Logged.inBounds_pure x)
  have hcap := Nat.min_le_right pb.numberSignalTypes.toNat h.maxNumberOfSignalTypes
  simp only [pbConvertToGnssDataNotification, Logged.inBounds_bind, Logged.inBounds_fill hmask,
    Logged.inBounds_fill hdouble, Logged.inBounds_pure]
  constructor
  · rintro ⟨⟨hmask, -⟩, ⟨hjammer, -⟩, ⟨hagc, -⟩, -⟩
    exact ⟨hmask, hjammer, hagc⟩
  · rintro ⟨hmask, hjammer, hagc⟩
    exact ⟨⟨hmask, hcap, fun _ _ => trivial⟩, ⟨hjammer, hcap, fun _ _ => trivial⟩,
      ⟨hagc, hcap, fun _ _ => trivial⟩, trivial⟩

/-- The structure already holds the statuses of the gain control. -/
structure GnssDataNotification.SameAgcStatus (r old : GnssDataNotification h) : Prop where
  agcStatusL1 : old.agcStatusL1 = r.agcStatusL1
  agcStatusL2 : old.agcStatusL2 = r.agcStatusL2
  agcStatusL5 : old.agcStatusL5 = r.agcStatusL5

/-- **Signal data survive** exactly if the structure they are decoded into already holds the
statuses of the gain control. -/
theorem pbConvertToGnssDataNotification_iff (hnum : h.SameNumbers)
    (r old : GnssDataNotification h) :
    (pbConvertToGnssDataNotification (convertGnssDataNotifToPB r) old).value = r ↔
      r.SameAgcStatus old := by
  have hlen : min (convertGnssDataNotifToPB r).numberSignalTypes.toNat h.maxNumberOfSignalTypes =
      h.maxNumberOfSignalTypes := by
    rw [convertGnssDataNotifToPB, UInt32.toNat_ofNat_of_lt' (Nat.lt_trans
      h.maxNumberOfSignalTypes_lt (by decide)), Nat.min_self]
  have hmask : (Logged.fill h.maxNumberOfSignalTypes (convertGnssDataNotifToPB r).gnssDataMask
      (fun pbMask _ => pure (getGnssDataMaskFromPB pbMask)) old.gnssDataMask).value =
        r.gnssDataMask := by
    refine Vector.ext fun i hi => ?_
    refine getElem_fill_addAll (fun m _ => ?_) (Nat.le_refl _) _ _ hi hi
    rw [hnum.gnssDataFlags]
    exact gnssDataFlags.read_write (fun f => by cases f <;> decide) m
  have hvalue : (pbConvertToGnssDataNotification (convertGnssDataNotifToPB r) old).value =
      { r with agcStatusL1 := old.agcStatusL1, agcStatusL2 := old.agcStatusL2,
               agcStatusL5 := old.agcStatusL5 } := by
    simp only [pbConvertToGnssDataNotification, Logged.value_bind, Logged.value_pure, hlen, hmask]
    rw [convertGnssDataNotifToPB, value_fill_addAll, value_fill_addAll]
  rw [hvalue]
  constructor
  · intro heq
    have hL1 := congrArg GnssDataNotification.agcStatusL1 heq
    have hL2 := congrArg GnssDataNotification.agcStatusL2 heq
    have hL5 := congrArg GnssDataNotification.agcStatusL5 heq
    exact ⟨hL1, hL2, hL5⟩
  · rintro ⟨hL1, hL2, hL5⟩
    rw [hL1, hL2, hL5]

end PbConv
end LocationStack
