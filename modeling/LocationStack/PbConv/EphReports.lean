import LocationStack.PbConv.Ephemeris

/-! # Ephemeris reports

A report holds the ephemerides of its constellation in an array with their number; three of the
six constellations also have an array of extended ephemerides.  In the message the ephemerides
are repeated fields; the number of the extended ones is a field of its own, that of the others is
the size of the repeated field.

The responses are of two kinds, with and without extended ephemerides, and differ in the
conversion of one ephemeris.  A decoder stores a number of elements without a look at the
capacity of the array; what an encoder wrote is decoded to the same ephemerides in the same
order.
-/
namespace LocationStack
namespace PbConv

/-- The ephemerides of a constellation: an array and the number of its elements. -/
structure EphResponse (h : Header) (α : Type) where
  numOfEphemeris : BitVec h.numOfEphemerisBits
  ephemerisData : Vector α h.ephemerisData
  deriving Inhabited

/-- A response that also has extended ephemerides. -/
structure ExtEphResponse (h : Header) (α γ : Type) extends EphResponse h α where
  validDataSourceSignal : Bool
  /-- The number of the signal; it is cast, not translated. -/
  dataSourceSignal : UInt32
  validExtendedEphData : Bool
  numOfExtendedEphemeris : BitVec h.numOfEphemerisBits
  extEphemerisData : Vector γ h.extEphemerisData
  deriving Inhabited

structure PBEphResponse (β : Type) where
  ephemerisData : List β
  deriving Inhabited

structure PBExtEphResponse (β δ : Type) extends PBEphResponse β where
  validDataSourceSignal : Bool
  dataSourceSignal : UInt32
  numOfExtendedEphemeris : UInt32
  validExtendedEphData : Bool
  extEphemerisData : List δ
  deriving Inhabited

section Responses

variable {h : Header} {α β γ δ : Type} [Inhabited α]

variable [Inhabited β] [Inhabited γ] [Inhabited δ]

def convertEphResponseToPB (enc : α → β) (halResp : EphResponse h α) : PBEphResponse β where
  ephemerisData := addAll halResp.numOfEphemeris.toNat halResp.ephemerisData enc

def convertExtEphResponseToPB (enc : α → β) (encExt : γ → δ) (halResp : ExtEphResponse h α γ) :
    PBExtEphResponse β δ where
  toPBEphResponse := convertEphResponseToPB enc halResp.toEphResponse
  validDataSourceSignal := halResp.validDataSourceSignal
  dataSourceSignal := halResp.dataSourceSignal
  validExtendedEphData := halResp.validExtendedEphData
  numOfExtendedEphemeris := UInt32.ofNat halResp.numOfExtendedEphemeris.toNat
  extEphemerisData := addAll halResp.numOfExtendedEphemeris.toNat halResp.extEphemerisData encExt

/-- The size of the repeated field is stored without a look at the capacity. -/
def pbConvertToEphResponse (conv : β → α → Logged α) (pbEphResp : PBEphResponse β)
    (halResp : EphResponse h α) : Logged (EphResponse h α) := do
  let numOfEphemeris := BitVec.ofNat h.numOfEphemerisBits pbEphResp.ephemerisData.length
  Logged.count numOfEphemeris.toNat h.ephemerisData
  let ephemerisData ←
    Logged.fill numOfEphemeris.toNat pbEphResp.ephemerisData conv halResp.ephemerisData
  pure { numOfEphemeris, ephemerisData }

/-- The number of the extended ephemerides is that of its own field. -/
def pbConvertToExtEphResponse (conv : β → α → Logged α) (convExt : δ → γ → Logged γ)
    (pbEphResp : PBExtEphResponse β δ) (halResp : ExtEphResponse h α γ) :
    Logged (ExtEphResponse h α γ) := do
  let resp ← pbConvertToEphResponse conv pbEphResp.toPBEphResponse halResp.toEphResponse
  let numOfExtendedEphemeris :=
    BitVec.ofNat h.numOfEphemerisBits pbEphResp.numOfExtendedEphemeris.toNat
  Logged.count numOfExtendedEphemeris.toNat h.extEphemerisData
  let extEphemerisData ← Logged.fill numOfExtendedEphemeris.toNat pbEphResp.extEphemerisData convExt
    halResp.extEphemerisData
  pure
    { toEphResponse := resp
      validDataSourceSignal := pbEphResp.validDataSourceSignal
      dataSourceSignal := pbEphResp.dataSourceSignal
      validExtendedEphData := pbEphResp.validExtendedEphData
      numOfExtendedEphemeris
      extEphemerisData }

/-- The number that is stored is within the capacity, and so are the ephemerides that are read. -/
structure PBEphResponse.Fits (h : Header) (P : β → Prop) (pb : PBEphResponse β) : Prop where
  numOfEphemeris : pb.ephemerisData.length % 2 ^ h.numOfEphemerisBits ≤ h.ephemerisData
  ephemerisData :
    ∀ x ∈ pb.ephemerisData.take (pb.ephemerisData.length % 2 ^ h.numOfEphemerisBits), P x

/-- Moreover as many extended ephemerides are there as the message says, and there is room. -/
structure PBExtEphResponse.Fits (h : Header) (pb : PBExtEphResponse β δ) : Prop where
  numOfEphemeris : pb.ephemerisData.length % 2 ^ h.numOfEphemerisBits ≤ h.ephemerisData
  present :
    pb.numOfExtendedEphemeris.toNat % 2 ^ h.numOfEphemerisBits ≤ pb.extEphemerisData.length
  numOfExtendedEphemeris :
    pb.numOfExtendedEphemeris.toNat % 2 ^ h.numOfEphemerisBits ≤ h.extEphemerisData

theorem inBounds_pbConvertToEphResponse {conv : β → α → Logged α} {P : β → Prop}
    (hconv : ∀ x y, (conv x y).InBounds ↔ P x) (pb : PBEphResponse β) (halResp : EphResponse h α) :
    (pbConvertToEphResponse conv pb halResp).InBounds ↔ pb.Fits h P := by
  simp only [pbConvertToEphResponse, Logged.inBounds_bind, Logged.inBounds_count,
    Logged.inBounds_fill hconv, Logged.inBounds_pure, and_true, BitVec.toNat_ofNat]
  constructor
  · rintro ⟨hcount, -, -, hall⟩
    exact ⟨hcount, hall⟩
  · intro hfits
    exact ⟨hfits.numOfEphemeris, Nat.mod_le _ _, hfits.numOfEphemeris, hfits.ephemerisData⟩

theorem inBounds_pbConvertToExtEphResponse {conv : β → α → Logged α} {convExt : δ → γ → Logged γ}
    (hconv : ∀ x y, (conv x y).InBounds) (hconvExt : ∀ x y, (convExt x y).InBounds)
    (pb : PBExtEphResponse β δ) (halResp : ExtEphResponse h α γ) :
    (pbConvertToExtEphResponse conv convExt pb halResp).InBounds ↔ pb.Fits h := by
  have hdata : ∀ x y, (conv x y).InBounds ↔ True := fun x y => iff_true_intro (hconv x y)
  have hext : ∀ x y, (convExt x y).InBounds ↔ True := fun x y => iff_true_intro (hconvExt x y)
  simp only [pbConvertToExtEphResponse, Logged.inBounds_bind, Logged.inBounds_count,
    inBounds_pbConvertToEphResponse hdata, Logged.inBounds_fill hext, Logged.inBounds_pure,
    and_true, BitVec.toNat_ofNat]
  constructor
  · rintro ⟨hresp, -, hpresent, hcount, -⟩
    exact ⟨hresp.numOfEphemeris, hpresent, hcount⟩
  · intro hfits
    exact ⟨⟨hfits.numOfEphemeris, fun _ _ => trivial⟩, hfits.numOfExtendedEphemeris, hfits.present,
      hfits.numOfExtendedEphemeris, fun _ _ => trivial⟩

/-- The numbers of elements are within the capacities. -/
def EphResponse.WithinCapacity (r : EphResponse h α) : Prop :=
  r.numOfEphemeris.toNat ≤ h.ephemerisData

structure ExtEphResponse.WithinCapacity (r : ExtEphResponse h α γ) : Prop where
  numOfEphemeris : r.numOfEphemeris.toNat ≤ h.ephemerisData
  numOfExtendedEphemeris : r.numOfExtendedEphemeris.toNat ≤ h.extEphemerisData

/-- The same ephemerides in the same order; what stands behind the last one is left open. -/
structure EphResponse.Same (r r' : EphResponse h α) : Prop where
  numOfEphemeris : r'.numOfEphemeris = r.numOfEphemeris
  ephemerisData : ∀ i (hi : i < h.ephemerisData), i < r.numOfEphemeris.toNat →
    r'.ephemerisData[i] = r.ephemerisData[i]

structure ExtEphResponse.Same (r r' : ExtEphResponse h α γ) : Prop where
  resp : r.toEphResponse.Same r'.toEphResponse
  validDataSourceSignal : r'.validDataSourceSignal = r.validDataSourceSignal
  dataSourceSignal : r'.dataSourceSignal = r.dataSourceSignal
  validExtendedEphData : r'.validExtendedEphData = r.validExtendedEphData
  numOfExtendedEphemeris : r'.numOfExtendedEphemeris = r.numOfExtendedEphemeris
  extEphemerisData : ∀ i (hi : i < h.extEphemerisData), i < r.numOfExtendedEphemeris.toNat →
    r'.extEphemerisData[i] = r.extEphemerisData[i]

theorem pbConvertToEphResponse_same {enc : α → β} {conv : β → α → Logged α}
    (henc : ∀ x y, (conv (enc x) y).value = x) {r : EphResponse h α} (hr : r.WithinCapacity)
    (old : EphResponse h α) :
    r.Same (pbConvertToEphResponse conv (convertEphResponseToPB enc r) old).value := by
  have hnum : BitVec.ofNat h.numOfEphemerisBits
      (convertEphResponseToPB enc r).ephemerisData.length = r.numOfEphemeris := by
    simp [convertEphResponseToPB]
  refine ⟨hnum, fun i hcap hi => ?_⟩
  simp only [pbConvertToEphResponse, Logged.value_bind, Logged.value_pure, hnum]
  exact getElem_fill_addAll henc hr _ _ hi hcap

theorem pbConvertToExtEphResponse_same {enc : α → β} {encExt : γ → δ} {conv : β → α → Logged α}
    {convExt : δ → γ → Logged γ} (henc : ∀ x y, (conv (enc x) y).value = x)
    (hencExt : ∀ x y, (convExt (encExt x) y).value = x) {r : ExtEphResponse h α γ}
    (hr : r.WithinCapacity) (old : ExtEphResponse h α γ) :
    r.Same (pbConvertToExtEphResponse conv convExt
      (convertExtEphResponseToPB enc encExt r) old).value := by
  have hlt : r.numOfExtendedEphemeris.toNat < 2 ^ 32 :=
    Nat.lt_of_lt_of_le r.numOfExtendedEphemeris.isLt
      (Nat.pow_le_pow_right (by decide) h.numOfEphemerisBits_le)
  have hnum : BitVec.ofNat h.numOfEphemerisBits
      (convertExtEphResponseToPB enc encExt r).numOfExtendedEphemeris.toNat =
        r.numOfExtendedEphemeris := by
    rw [convertExtEphResponseToPB, UInt32.toNat_ofNat_of_lt' hlt, BitVec.ofNat_toNat,
      BitVec.setWidth_eq]
  refine ⟨pbConvertToEphResponse_same henc hr.numOfEphemeris old.toEphResponse, rfl, rfl, rfl,
    hnum, fun i hcap hi => ?_⟩
  simp only [pbConvertToExtEphResponse, Logged.value_bind, Logged.value_pure, hnum]
  exact getElem_fill_addAll hencExt hr.numOfExtendedEphemeris _ _ hi hcap

end Responses

/-! ## The responses of the constellations -/

section Constellations

variable (h : Header)

abbrev GpsEphemerisResponse := ExtEphResponse h GpsEphemeris GpsExtendedEphemeris
abbrev QzssEphemerisResponse := ExtEphResponse h GpsEphemeris GpsExtendedEphemeris
abbrev BdsEphemerisResponse := ExtEphResponse h BdsEphemeris BdsExtendedEphemeris
abbrev GlonassEphemerisResponse := EphResponse h GlonassEphemeris
abbrev GalileoEphemerisResponse := EphResponse h GalileoEphemeris
abbrev NavicEphemerisResponse := EphResponse h NavicEphemeris

end Constellations

abbrev PBGpsEphemerisResponse := PBExtEphResponse PBGpsEphemeris PBGpsExtendedEphemeris
abbrev PBQzssEphemerisResponse := PBExtEphResponse PBGpsEphemeris PBGpsExtendedEphemeris
abbrev PBBdsEphemerisResponse := PBExtEphResponse PBBdsEphemeris PBBdsExtendedEphemeris
abbrev PBGlonassEphemerisResponse := PBEphResponse PBGlonassEphemeris
abbrev PBGalileoEphemerisResponse := PBEphResponse PBGalileoEphemeris
abbrev PBNavicEphemerisResponse := PBEphResponse PBNavicEphemeris

variable {h : Header}

def convertGpsEphResponseToPB : GpsEphemerisResponse h → PBGpsEphemerisResponse :=
  convertExtEphResponseToPB convertGpsEphDataToPB convertGpsExtendedEphToPB

def convertQzssEphResponseToPB : QzssEphemerisResponse h → PBQzssEphemerisResponse :=
  convertExtEphResponseToPB convertGpsEphDataToPB convertGpsExtendedEphToPB

def convertBdsEphResponseToPB : BdsEphemerisResponse h → PBBdsEphemerisResponse :=
  convertExtEphResponseToPB convertBdsEphDataToPB convertBdsExtendedEphToPB

def convertGloEphResponseToPB : GlonassEphemerisResponse h → PBGlonassEphemerisResponse :=
  convertEphResponseToPB convertGlonassEphDataToPB

def convertGalEphResponseToPB : GalileoEphemerisResponse h → PBGalileoEphemerisResponse :=
  convertEphResponseToPB convertGalileoEphDataToPB

def convertNavicEphResponseToPB : NavicEphemerisResponse h → PBNavicEphemerisResponse :=
  convertEphResponseToPB convertNavicEphDataToPB

def pbConvertToGpsEphResponse : PBGpsEphemerisResponse → GpsEphemerisResponse h →
    Logged (GpsEphemerisResponse h) :=
  pbConvertToExtEphResponse (fun pb _ => pure (pbConvertToGpsEphData pb))
    fun pb _ => pure (pbConvertToGpsExtendedEph pb)

def pbConvertToQzssEphResponse : PBQzssEphemerisResponse → QzssEphemerisResponse h →
    Logged (QzssEphemerisResponse h) :=
  pbConvertToExtEphResponse (fun pb _ => pure (pbConvertToGpsEphData pb))
    fun pb _ => pure (pbConvertToGpsExtendedEph pb)

def pbConvertToBdsEphResponse : PBBdsEphemerisResponse → BdsEphemerisResponse h →
    Logged (BdsEphemerisResponse h) :=
  pbConvertToExtEphResponse (fun pb _ => pure (pbConvertToBdsEphData pb))
    fun pb _ => pure (pbConvertToBdsExtendedEph pb)

def pbConvertToGloEphResponse : PBGlonassEphemerisResponse → GlonassEphemerisResponse h →
    Logged (GlonassEphemerisResponse h) :=
  pbConvertToEphResponse pbConvertToGlonassEphData

def pbConvertToGalEphResponse : PBGalileoEphemerisResponse → GalileoEphemerisResponse h →
    Logged (GalileoEphemerisResponse h) :=
  pbConvertToEphResponse fun pb _ => pure (pbConvertToGalileoEphData pb)

def pbConvertToNavicEphResponse : PBNavicEphemerisResponse → NavicEphemerisResponse h →
    Logged (NavicEphemerisResponse h) :=
  pbConvertToEphResponse fun pb _ => pure (pbConvertToNavicEphData pb)

/-! ## Reports -/

/-- A union; its member is that of the constellation.  The members are kept apart here, since no
other is read. -/
structure EphInfo (h : Header) where
  gpsEphemeris : GpsEphemerisResponse h
  glonassEphemeris : GlonassEphemerisResponse h
  bdsEphemeris : BdsEphemerisResponse h
  galileoEphemeris : GalileoEphemerisResponse h
  qzssEphemeris : QzssEphemerisResponse h
  navicEphemeris : NavicEphemerisResponse h
  deriving Inhabited

structure GnssSvEphemerisReport (h : Header) where
  gnssConstellation : GnssLocSvSystemEnumType
  isSystemTimeValid : Bool
  systemTime : GnssSystemTimeStructType
  ephInfo : EphInfo h
  deriving Inhabited

inductive PBEphInfoUnion
  | notSet
  | gpsEphemeris (resp : PBGpsEphemerisResponse)
  | glonassEphemeris (resp : PBGlonassEphemerisResponse)
  | bdsEphemeris (resp : PBBdsEphemerisResponse)
  | galileoEphemeris (resp : PBGalileoEphemerisResponse)
  | qzssEphemeris (resp : PBQzssEphemerisResponse)
  | navicEphemeris (resp : PBNavicEphemerisResponse)
  deriving Inhabited

namespace PBEphInfoUnion

/-! A member that is not set reads as an empty message. -/

def getGpsEphemeris : PBEphInfoUnion → PBGpsEphemerisResponse
  | gpsEphemeris resp => resp
  | _ => default

def getGlonassEphemeris : PBEphInfoUnion → PBGlonassEphemerisResponse
  | glonassEphemeris resp => resp
  | _ => default

def getBdsEphemeris : PBEphInfoUnion → PBBdsEphemerisResponse
  | bdsEphemeris resp => resp
  | _ => default

def getGalileoEphemeris : PBEphInfoUnion → PBGalileoEphemerisResponse
  | galileoEphemeris resp => resp
  | _ => default

def getQzssEphemeris : PBEphInfoUnion → PBQzssEphemerisResponse
  | qzssEphemeris resp => resp
  | _ => default

def getNavicEphemeris : PBEphInfoUnion → PBNavicEphemerisResponse
  | navicEphemeris resp => resp
  | _ => default

end PBEphInfoUnion

structure PBGnssEphemerisNotification where
  gnssConstellation : PBGnssLocSvSystemEnumType
  isSystemTimeValid : Bool
  systemTime : PBGnssSystemTimeStructType
  ephUnion : PBEphInfoUnion
  deriving Inhabited

def convertGnssEphNotifToPB (gnssEphNotif : GnssSvEphemerisReport h) :
    PBGnssEphemerisNotification where
  gnssConstellation := getPBEnumForGnssLocSvSystem gnssEphNotif.gnssConstellation
  isSystemTimeValid := gnssEphNotif.isSystemTimeValid
  systemTime := convertGnssSystemTimeStructTypeToPB gnssEphNotif.systemTime
  ephUnion :=
    let ephInfo := gnssEphNotif.ephInfo
    match gnssEphNotif.gnssConstellation with
    | .gps => .gpsEphemeris (convertGpsEphResponseToPB ephInfo.gpsEphemeris)
    | .galileo => .galileoEphemeris (convertGalEphResponseToPB ephInfo.galileoEphemeris)
    | .glonass => .glonassEphemeris (convertGloEphResponseToPB ephInfo.glonassEphemeris)
    | .bds => .bdsEphemeris (convertBdsEphResponseToPB ephInfo.bdsEphemeris)
    | .qzss => .qzssEphemeris (convertQzssEphResponseToPB ephInfo.qzssEphemeris)
    | .navic => .navicEphemeris (convertNavicEphResponseToPB ephInfo.navicEphemeris)
    | .unknown | .sbas => .notSet

/-- The switch over the constellation. -/
def pbConvertToEphInfo (c : GnssLocSvSystemEnumType) (ephUnion : PBEphInfoUnion)
    (ephInfo : EphInfo h) : Logged (EphInfo h) :=
  match c with
  | .gps => do
    let gpsEphemeris ← pbConvertToGpsEphResponse ephUnion.getGpsEphemeris ephInfo.gpsEphemeris
    pure { ephInfo with gpsEphemeris }
  | .galileo => do
    let galileoEphemeris ←
      pbConvertToGalEphResponse ephUnion.getGalileoEphemeris ephInfo.galileoEphemeris
    pure { ephInfo with galileoEphemeris }
  | .glonass => do
    let glonassEphemeris ←
      pbConvertToGloEphResponse ephUnion.getGlonassEphemeris ephInfo.glonassEphemeris
    pure { ephInfo with glonassEphemeris }
  | .bds => do
    let bdsEphemeris ← pbConvertToBdsEphResponse ephUnion.getBdsEphemeris ephInfo.bdsEphemeris
    pure { ephInfo with bdsEphemeris }
  | .qzss => do
    let qzssEphemeris ← pbConvertToQzssEphResponse ephUnion.getQzssEphemeris ephInfo.qzssEphemeris
    pure { ephInfo with qzssEphemeris }
  | .navic => do
    let navicEphemeris ←
      pbConvertToNavicEphResponse ephUnion.getNavicEphemeris ephInfo.navicEphemeris
    pure { ephInfo with navicEphemeris }
  | .unknown | .sbas => pure ephInfo

def pbConvertToGnssEphNotif (pb : PBGnssEphemerisNotification)
    (gnssEphNotif : GnssSvEphemerisReport h) : Logged (GnssSvEphemerisReport h) := do
  let gnssConstellation := getEnumForPBGnssLocSvSystem pb.gnssConstellation
  let ephInfo ← pbConvertToEphInfo gnssConstellation pb.ephUnion gnssEphNotif.ephInfo
  pure
    { gnssConstellation
      isSystemTimeValid := pb.isSystemTimeValid
      systemTime := pbConvertToSystemTime pb.systemTime
      ephInfo }

/-- The response of the constellation fits. -/
def PBEphInfoUnion.Fits (h : Header) (c : GnssLocSvSystemEnumType) (ephUnion : PBEphInfoUnion) :
    Prop :=
  match c with
  | .gps => ephUnion.getGpsEphemeris.Fits h
  | .galileo => ephUnion.getGalileoEphemeris.Fits h fun _ => True
  | .glonass => ephUnion.getGlonassEphemeris.Fits h PBGlonassEphemeris.Fits
  | .bds => ephUnion.getBdsEphemeris.Fits h
  | .qzss => ephUnion.getQzssEphemeris.Fits h
  | .navic => ephUnion.getNavicEphemeris.Fits h fun _ => True
  | .unknown | .sbas => True

def PBGnssEphemerisNotification.Fits (h : Header) (pb : PBGnssEphemerisNotification) : Prop :=
  pb.ephUnion.Fits h (getEnumForPBGnssLocSvSystem pb.gnssConstellation)

theorem inBounds_pbConvertToEphInfo (c : GnssLocSvSystemEnumType) (ephUnion : PBEphInfoUnion)
    (ephInfo : EphInfo h) :
    (pbConvertToEphInfo c ephUnion ephInfo).InBounds ↔ ephUnion.Fits h c := by
  cases c with
  | gps | bds | qzss =>
    simp only [pbConvertToEphInfo, Logged.inBounds_bind, Logged.inBounds_pure, and_true]
    exact inBounds_pbConvertToExtEphResponse (fun _ _ => Logged.inBounds_pure _)
      (fun _ _ => Logged.inBounds_pure _) _ _
  | galileo | navic =>
    simp only [pbConvertToEphInfo, Logged.inBounds_bind, Logged.inBounds_pure, and_true]
    exact inBounds_pbConvertToEphResponse (fun _ _ => iff_true_intro (Logged.inBounds_pure _)) _ _
  | glonass =>
    simp only [pbConvertToEphInfo, Logged.inBounds_bind, Logged.inBounds_pure, and_true]
    exact inBounds_pbConvertToEphResponse inBounds_pbConvertToGlonassEphData _ _
  | unknown | sbas => exact iff_true_intro (Logged.inBounds_pure _)

theorem inBounds_pbConvertToGnssEphNotif (pb : PBGnssEphemerisNotification)
    (gnssEphNotif : GnssSvEphemerisReport h) :
    (pbConvertToGnssEphNotif pb gnssEphNotif).InBounds ↔ pb.Fits h := by
  rw [pbConvertToGnssEphNotif, Logged.inBounds_bind, inBounds_pbConvertToEphInfo]
  simp only [Logged.inBounds_pure, and_true]
  exact Iff.rfl

/-! ## Round trip -/

/-- The numbers of ephemerides are within the capacities, for the member of the constellation. -/
def EphInfo.WithinCapacity (c : GnssLocSvSystemEnumType) (ephInfo : EphInfo h) : Prop :=
  match c with
  | .gps => ephInfo.gpsEphemeris.WithinCapacity
  | .galileo => ephInfo.galileoEphemeris.WithinCapacity
  | .glonass => ephInfo.glonassEphemeris.WithinCapacity
  | .bds => ephInfo.bdsEphemeris.WithinCapacity
  | .qzss => ephInfo.qzssEphemeris.WithinCapacity
  | .navic => ephInfo.navicEphemeris.WithinCapacity
  | .unknown | .sbas => True

/-- The same ephemerides in the member of the constellation. -/
def EphInfo.Same (c : GnssLocSvSystemEnumType) (i i' : EphInfo h) : Prop :=
  match c with
  | .gps => i.gpsEphemeris.Same i'.gpsEphemeris
  | .galileo => i.galileoEphemeris.Same i'.galileoEphemeris
  | .glonass => i.glonassEphemeris.Same i'.glonassEphemeris
  | .bds => i.bdsEphemeris.Same i'.bdsEphemeris
  | .qzss => i.qzssEphemeris.Same i'.qzssEphemeris
  | .navic => i.navicEphemeris.Same i'.navicEphemeris
  | .unknown | .sbas => True

/-- The same report: the same ephemerides of the same constellation at the same time. -/
structure GnssSvEphemerisReport.Same (r r' : GnssSvEphemerisReport h) : Prop where
  gnssConstellation : r'.gnssConstellation = r.gnssConstellation
  isSystemTimeValid : r'.isSystemTimeValid = r.isSystemTimeValid
  systemTime : r'.systemTime = r.systemTime
  ephInfo : r.ephInfo.Same r.gnssConstellation r'.ephInfo

def GnssSvEphemerisReport.WithinCapacity (r : GnssSvEphemerisReport h) : Prop :=
  r.ephInfo.WithinCapacity r.gnssConstellation

/-- **An ephemeris report that was encoded is decoded again**, over whatever the structure held
before. -/
theorem GnssSvEphemerisReport.WithinCapacity.same {r : GnssSvEphemerisReport h}
    (hr : r.WithinCapacity) (old : GnssSvEphemerisReport h) :
    r.Same (pbConvertToGnssEphNotif (convertGnssEphNotifToPB r) old).value := by
  obtain ⟨c, isSystemTimeValid, systemTime, ephInfo⟩ := r
  have hc : (pbConvertToGnssEphNotif (convertGnssEphNotifToPB
      ⟨c, isSystemTimeValid, systemTime, ephInfo⟩) old).value.gnssConstellation = c :=
    getEnumForPBGnssLocSvSystem_getPBEnum c
  refine ⟨hc, rfl, pbConvertToSystemTime_convertToPB systemTime, ?_⟩
  cases c with
  | gps | qzss =>
    exact pbConvertToExtEphResponse_same
      (fun x _ => pbConvertToGpsEphData_convertGpsEphDataToPB x) (fun _ _ => rfl) hr _
  | bds =>
    exact pbConvertToExtEphResponse_same
      (fun x _ => pbConvertToBdsEphData_convertBdsEphDataToPB x) (fun _ _ => rfl) hr _
  | galileo =>
    exact pbConvertToEphResponse_same
      (fun x _ => pbConvertToGalileoEphData_convertGalileoEphDataToPB x) hr _
  | glonass =>
    exact pbConvertToEphResponse_same pbConvertToGlonassEphData_convertGlonassEphDataToPB hr _
  | navic =>
    exact pbConvertToEphResponse_same
      (fun x _ => pbConvertToNavicEphData_convertNavicEphDataToPB x) hr _
  | unknown | sbas => trivial

end PbConv
end LocationStack
