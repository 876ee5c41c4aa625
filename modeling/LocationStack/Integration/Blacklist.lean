import LocationStack.Lib.BitMask
import LocationStack.Lib.Guarded
import LocationStack.PbConv.RequestParts

/-! # The satellites that are not to be used

`configConstellations` is given a list of satellites, each a constellation and an id, and makes of
it a mask of 64 bits for each constellation and two sets of constellations.  An id is turned into a
bit by its distance from the first id of its constellation; those of SBAS come in two ranges, and
the bits of the second follow those of the first.

The ids that the code is compiled with are not in this repository, but the message that carries the
masks says which id each bit is for.  A shift by 64 or more is a fault.
-/
namespace LocationStack.Integration

open PbConv

/-! ## Entries -/

/-- `GnssConstellationType` -/
inductive GnssConstellationType
  | glonass | qzss | beidou | galileo | sbas | navic | gps
  deriving DecidableEq

/-- `GnssSvIdInfo`; a constellation of another number is `none`. -/
structure GnssSvIdInfo where
  constellation : Option GnssConstellationType
  svId : UInt32
  deriving DecidableEq

def GNSS_SV_ID_BLACKLIST_ALL : UInt32 := 0

/-- The numbers of the header that is not here; a `GnssSvId` has 16 bits. -/
structure SvConfigNumbers where
  GNSS_SV_CONFIG_GPS_INITIAL_SV_ID : UInt16
  GNSS_SV_CONFIG_GLO_INITIAL_SV_ID : UInt16
  GNSS_SV_CONFIG_QZSS_INITIAL_SV_ID : UInt16
  GNSS_SV_CONFIG_BDS_INITIAL_SV_ID : UInt16
  GNSS_SV_CONFIG_GAL_INITIAL_SV_ID : UInt16
  GNSS_SV_CONFIG_NAVIC_INITIAL_SV_ID : UInt16
  GNSS_SV_CONFIG_SBAS_INITIAL_SV_ID : UInt16
  GNSS_SV_CONFIG_SBAS_INITIAL_SV_LENGTH : UInt16
  GNSS_SV_CONFIG_SBAS_INITIAL2_SV_ID : UInt16
  GNSS_SV_CONFIG_ALL_BITS_ENABLED_MASK : UInt64

/-- What the message `PBGnssSvIdConfig` says of its bits. -/
def documentedNumbers : SvConfigNumbers where
  GNSS_SV_CONFIG_GPS_INITIAL_SV_ID := 1
  GNSS_SV_CONFIG_GLO_INITIAL_SV_ID := 65
  GNSS_SV_CONFIG_QZSS_INITIAL_SV_ID := 193
  GNSS_SV_CONFIG_BDS_INITIAL_SV_ID := 201
  GNSS_SV_CONFIG_GAL_INITIAL_SV_ID := 301
  GNSS_SV_CONFIG_NAVIC_INITIAL_SV_ID := 401
  GNSS_SV_CONFIG_SBAS_INITIAL_SV_ID := 120
  GNSS_SV_CONFIG_SBAS_INITIAL_SV_LENGTH := 39
  GNSS_SV_CONFIG_SBAS_INITIAL2_SV_ID := 183
  GNSS_SV_CONFIG_ALL_BITS_ENABLED_MASK := 0xFFFFFFFFFFFFFFFF

/-! ## The masks -/

/-- `*svMaskPtr` -/
def svMask (config : GnssSvIdConfig) : GnssConstellationType → UInt64
  | .glonass => config.gloBlacklistSvMask
  | .qzss => config.qzssBlacklistSvMask
  | .beidou => config.bdsBlacklistSvMask
  | .galileo => config.galBlacklistSvMask
  | .sbas => config.sbasBlacklistSvMask
  | .navic => config.navicBlacklistSvMask
  | .gps => config.gpsBlacklistSvMask

def setSvMask (config : GnssSvIdConfig) (mask : UInt64) : GnssConstellationType → GnssSvIdConfig
  | .glonass => { config with gloBlacklistSvMask := mask }
  | .qzss => { config with qzssBlacklistSvMask := mask }
  | .beidou => { config with bdsBlacklistSvMask := mask }
  | .galileo => { config with galBlacklistSvMask := mask }
  | .sbas => { config with sbasBlacklistSvMask := mask }
  | .navic => { config with navicBlacklistSvMask := mask }
  | .gps => { config with gpsBlacklistSvMask := mask }

theorem svMask_setSvMask (config : GnssSvIdConfig) (mask : UInt64)
    (c c' : GnssConstellationType) :
    svMask (setSvMask config mask c') c = if c = c' then mask else svMask config c := by
  cases c <;> cases c' <;> rfl

theorem svMask_ext {config config' : GnssSvIdConfig}
    (h : ∀ c, svMask config c = svMask config' c) : config = config' := by
  obtain ⟨glo, bds, qzss, gal, sbas, navic, gps⟩ := config
  obtain ⟨glo', bds', qzss', gal', sbas', navic', gps'⟩ := config'
  obtain rfl : glo = glo' := h .glonass
  obtain rfl : bds = bds' := h .beidou
  obtain rfl : qzss = qzss' := h .qzss
  obtain rfl : gal = gal' := h .galileo
  obtain rfl : sbas = sbas' := h .sbas
  obtain rfl : navic = navic' := h .navic
  obtain rfl : gps = gps' := h .gps
  rfl

/-! ## The code -/

/-- The variables that the switch sets; without a mask there is no bit to set. -/
structure SvTarget where
  svTypeMask : Option GnssSvTypesFlag
  svMaskPtr : Option GnssConstellationType
  initialSvId : UInt16
  svIndexOffset : UInt16

/-- `switch (it.constellation)` -/
def svTarget (numbers : SvConfigNumbers) (it : GnssSvIdInfo) : SvTarget :=
  match it.constellation with
  | some .gps => ⟨some .gps, some .gps, numbers.GNSS_SV_CONFIG_GPS_INITIAL_SV_ID, 0⟩
  | some .glonass => ⟨some .glo, some .glonass, numbers.GNSS_SV_CONFIG_GLO_INITIAL_SV_ID, 0⟩
  | some .qzss => ⟨some .qzss, some .qzss, numbers.GNSS_SV_CONFIG_QZSS_INITIAL_SV_ID, 0⟩
  | some .beidou => ⟨some .bds, some .beidou, numbers.GNSS_SV_CONFIG_BDS_INITIAL_SV_ID, 0⟩
  | some .galileo => ⟨some .gal, some .galileo, numbers.GNSS_SV_CONFIG_GAL_INITIAL_SV_ID, 0⟩
  | some .sbas =>
    -- no constellation is enabled or disabled by it
    if it.svId = GNSS_SV_ID_BLACKLIST_ALL then ⟨none, some .sbas, 0, 0⟩
    else if it.svId ≥ numbers.GNSS_SV_CONFIG_SBAS_INITIAL2_SV_ID.toUInt32 then
      ⟨none, some .sbas, numbers.GNSS_SV_CONFIG_SBAS_INITIAL2_SV_ID,
        numbers.GNSS_SV_CONFIG_SBAS_INITIAL_SV_LENGTH⟩
    else if it.svId ≥ numbers.GNSS_SV_CONFIG_SBAS_INITIAL_SV_ID.toUInt32 ∧
        it.svId < numbers.GNSS_SV_CONFIG_SBAS_INITIAL_SV_ID.toUInt32 +
          numbers.GNSS_SV_CONFIG_SBAS_INITIAL_SV_LENGTH.toUInt32 then
      ⟨none, some .sbas, numbers.GNSS_SV_CONFIG_SBAS_INITIAL_SV_ID, 0⟩
    else ⟨none, none, 0, 0⟩
  | some .navic => ⟨some .navic, some .navic, numbers.GNSS_SV_CONFIG_NAVIC_INITIAL_SV_ID, 0⟩
  | none => ⟨none, none, 0, 0⟩

/-- `constellationEnablementConfig` and `blacklistSvConfig`. -/
abbrev ConstellationConfig := GnssSvTypeConfig × GnssSvIdConfig

/-- `1ULL << shiftCnt` -/
def shiftedSvBit (shiftCnt : UInt32) : Option UInt64 :=
  if shiftCnt < 64 then some (1 <<< shiftCnt.toUInt64) else none

/-- What the switch is followed by. -/
def blacklistInto (numbers : SvConfigNumbers) (target : SvTarget) (svId : UInt32) :
    ConstellationConfig → Option ConstellationConfig
  | (types, svs) =>
    match target.svMaskPtr with
    | none => some (types, svs)
    | some ptr =>
      if svId = GNSS_SV_ID_BLACKLIST_ALL then
        some
          ({ types with
              enabledSvTypesMask := fun f =>
                types.enabledSvTypesMask f && !decide (target.svTypeMask = some f)
              blacklistedSvTypesMask := fun f =>
                types.blacklistedSvTypesMask f || decide (target.svTypeMask = some f) },
            setSvMask svs numbers.GNSS_SV_CONFIG_ALL_BITS_ENABLED_MASK ptr)
      else if svId < target.initialSvId.toUInt32 ∨ svId ≥ target.initialSvId.toUInt32 + 64 then
        some (types, svs)
      else do
        let shiftCnt := svId + target.svIndexOffset.toUInt32 - target.initialSvId.toUInt32
        let bit ← shiftedSvBit shiftCnt
        return (types, setSvMask svs (svMask svs ptr ||| bit) ptr)

/-- The body of the loop. -/
def blacklistEntry (numbers : SvConfigNumbers) (config : ConstellationConfig)
    (it : GnssSvIdInfo) : Option ConstellationConfig :=
  blacklistInto numbers (svTarget numbers it) it.svId config

/-- NavIC is not enabled before the loop. -/
def defaultConstellations : ConstellationConfig :=
  (⟨false, fun f => decide (f ≠ .navic), fun _ => false⟩, ⟨0, 0, 0, 0, 0, 0, 0⟩)

/-- What `mApiImpl->configConstellations` is called with.  Without a list the size is zero, which
asks for the default of the modem. -/
def configConstellations (numbers : SvConfigNumbers) :
    Option (List GnssSvIdInfo) → Option ConstellationConfig
  | none => some (⟨true, fun _ => false, fun _ => false⟩, ⟨0, 0, 0, 0, 0, 0, 0⟩)
  | some blacklistedSvIds =>
    blacklistedSvIds.foldlM (blacklistEntry numbers) defaultConstellations

/-! ## Bits -/

/-- The bit of an id in a range, which begins at the bit `offset`. -/
def rangeBit (first last offset id : Nat) : Option Nat :=
  if first ≤ id ∧ id ≤ last then some (id - first + offset) else none

/-- **The bit of a satellite**, over the ranges that `GnssSvIdInfo::svId` is documented with. -/
def documentedBit : GnssConstellationType → Nat → Option Nat
  | .gps, id => rangeBit 1 32 0 id
  | .glonass, id => rangeBit 65 96 0 id
  | .qzss, id => rangeBit 193 197 0 id
  | .beidou, id => rangeBit 201 263 0 id
  | .galileo, id => rangeBit 301 336 0 id
  | .sbas, id => (rangeBit 120 158 0 id).or (rangeBit 183 191 39 id)
  | .navic, id => rangeBit 401 414 0 id

/-- The shift that an id comes to; it is let in if it is one of the 64 from the first. -/
def acceptedShift : GnssConstellationType → Nat → Option Nat
  | .gps, id => rangeBit 1 64 0 id
  | .glonass, id => rangeBit 65 128 0 id
  | .qzss, id => rangeBit 193 256 0 id
  | .beidou, id => rangeBit 201 264 0 id
  | .galileo, id => rangeBit 301 364 0 id
  | .sbas, id => (rangeBit 120 158 0 id).or (rangeBit 183 246 39 id)
  | .navic, id => rangeBit 401 464 0 id

theorem rangeBit_eq_some_iff {first last offset id n : Nat} :
    rangeBit first last offset id = some n ↔
      first ≤ id ∧ id ≤ last ∧ id - first + offset = n := by
  unfold rangeBit
  by_cases hin : first ≤ id ∧ id ≤ last
  · rw [if_pos hin, Option.some.injEq]
    exact ⟨fun h => ⟨hin.1, hin.2, h⟩, fun h => h.2.2⟩
  · rw [if_neg hin]
    exact iff_of_false nofun fun h => hin ⟨h.1, h.2.1⟩

theorem rangeBit_eq_none_iff {first last offset id : Nat} :
    rangeBit first last offset id = none ↔ ¬(first ≤ id ∧ id ≤ last) := by
  simp [rangeBit]

/-- Two satellites of a constellation have two bits. -/
theorem acceptedShift_injective {c : GnssConstellationType} {id id' n : Nat}
    (h : acceptedShift c id = some n) (h' : acceptedShift c id' = some n) : id = id' := by
  cases c <;>
    simp only [acceptedShift, Option.or_eq_some_iff, rangeBit_eq_some_iff,
      rangeBit_eq_none_iff] at h h' <;>
    omega

/-- The documented ids are let in, each to its own bit, which is one of the mask. -/
theorem acceptedShift_of_documentedBit {c : GnssConstellationType} {id n : Nat}
    (h : documentedBit c id = some n) : acceptedShift c id = some n ∧ n < 64 := by
  cases c <;>
    simp only [documentedBit, acceptedShift, Option.or_eq_some_iff, rangeBit_eq_some_iff,
      rangeBit_eq_none_iff] at h ⊢ <;>
    omega

theorem documentedBit_injective {c : GnssConstellationType} {id id' n : Nat}
    (h : documentedBit c id = some n) (h' : documentedBit c id' = some n) : id = id' :=
  acceptedShift_injective (acceptedShift_of_documentedBit h).1 (acceptedShift_of_documentedBit h').1

/-! ## One entry -/

/-- All of a constellation: its mask is full, and it goes from one set to the other. -/
def blacklistAll (svTypeMask : Option GnssSvTypesFlag) (c : GnssConstellationType)
    (config : ConstellationConfig) : ConstellationConfig :=
  ({ config.1 with
      enabledSvTypesMask := fun f =>
        config.1.enabledSvTypesMask f && !decide (svTypeMask = some f)
      blacklistedSvTypesMask := fun f =>
        config.1.blacklistedSvTypesMask f || decide (svTypeMask = some f) },
    setSvMask config.2 0xFFFFFFFFFFFFFFFF c)

/-- One satellite. -/
def blacklistSv (c : GnssConstellationType) (n : Nat) (config : ConstellationConfig) :
    ConstellationConfig :=
  (config.1, setSvMask config.2 (svMask config.2 c ||| 1 <<< UInt64.ofNat n) c)

/-- The set that a constellation is in, if it is in one. -/
def typeFlag : GnssConstellationType → Option GnssSvTypesFlag
  | .glonass => some .glo
  | .qzss => some .qzss
  | .beidou => some .bds
  | .galileo => some .gal
  | .sbas => none
  | .navic => some .navic
  | .gps => some .gps

theorem shiftedSvBit_eq (shiftCnt : UInt32) :
    shiftedSvBit shiftCnt =
      if shiftCnt.toNat < 64 then some (1 <<< UInt64.ofNat shiftCnt.toNat) else none := by
  have hword : shiftCnt.toUInt64 = UInt64.ofNat shiftCnt.toNat := by
    apply UInt64.toNat_inj.mp
    have := shiftCnt.toNat_lt
    simp
  have hlt : shiftCnt < 64 ↔ shiftCnt.toNat < 64 := UInt32.lt_iff_toNat_lt
  simp only [shiftedSvBit, hword, hlt]

/-- `it.svId < initialSvId || it.svId >= initialSvId + 64` -/
theorem out_of_window_iff (svId : UInt32) (initialSvId : UInt16) :
    (svId < initialSvId.toUInt32 ∨ svId ≥ initialSvId.toUInt32 + 64) ↔
      ¬(initialSvId.toNat ≤ svId.toNat ∧ svId.toNat ≤ initialSvId.toNat + 63) := by
  have hfirst := initialSvId.toNat_lt
  simp only [UInt32.lt_iff_toNat_lt, ge_iff_le, UInt32.le_iff_toNat_le, UInt32.toNat_add,
    UInt16.toNat_toUInt32, UInt32.reduceToNat]
  omega

/-- The words of 32 bits do not wrap around. -/
theorem shiftCnt_toNat {svId : UInt32} {initialSvId svIndexOffset : UInt16}
    (hfirst : initialSvId.toNat ≤ svId.toNat) (hlast : svId.toNat ≤ initialSvId.toNat + 63) :
    (svId + svIndexOffset.toUInt32 - initialSvId.toUInt32).toNat =
      svId.toNat - initialSvId.toNat + svIndexOffset.toNat := by
  have hinitial := initialSvId.toNat_lt
  have hoffset := svIndexOffset.toNat_lt
  simp only [UInt32.toNat_sub, UInt32.toNat_add, UInt16.toNat_toUInt32]
  omega

/-- A single id, with a mask to set a bit of. -/
theorem blacklistInto_single {numbers : SvConfigNumbers} {target : SvTarget}
    {ptr : GnssConstellationType} (hptr : target.svMaskPtr = some ptr) {svId : UInt32}
    (hsvId : svId ≠ GNSS_SV_ID_BLACKLIST_ALL) (config : ConstellationConfig) :
    blacklistInto numbers target svId config =
      match rangeBit target.initialSvId.toNat (target.initialSvId.toNat + 63)
        target.svIndexOffset.toNat svId.toNat with
      | none => some config
      | some n => if n < 64 then some (blacklistSv ptr n config) else none := by
  obtain ⟨types, svs⟩ := config
  simp only [blacklistInto, hptr, if_neg hsvId, out_of_window_iff, rangeBit]
  by_cases hwindow : target.initialSvId.toNat ≤ svId.toNat ∧
      svId.toNat ≤ target.initialSvId.toNat + 63
  · simp only [hwindow, not_true_eq_false, if_false, and_self, if_true, shiftedSvBit_eq,
      shiftCnt_toNat hwindow.1 hwindow.2]
    split <;> rfl
  · simp only [hwindow, not_false_eq_true, if_true, if_false]

/-- `case GNSS_CONSTELLATION_TYPE_SBAS` -/
theorem svTarget_sbas {svId : UInt32} (hsvId : svId ≠ GNSS_SV_ID_BLACKLIST_ALL) :
    svTarget documentedNumbers ⟨some .sbas, svId⟩ =
      if 183 ≤ svId.toNat then ⟨none, some .sbas, 183, 39⟩
      else if 120 ≤ svId.toNat ∧ svId.toNat ≤ 158 then ⟨none, some .sbas, 120, 0⟩
      else ⟨none, none, 0, 0⟩ := by
  have hsecond : svId ≥ (183 : UInt16).toUInt32 ↔ 183 ≤ svId.toNat := UInt32.le_iff_toNat_le
  have hfirst : svId ≥ (120 : UInt16).toUInt32 ↔ 120 ≤ svId.toNat := UInt32.le_iff_toNat_le
  have hlast : svId < (120 : UInt16).toUInt32 + (39 : UInt16).toUInt32 ↔ svId.toNat ≤ 158 :=
    UInt32.lt_iff_toNat_lt.trans Nat.lt_succ_iff
  simp only [svTarget, if_neg hsvId, documentedNumbers, hsecond, hfirst, hlast]

/-- The second range has no upper end but that of the 64 ids. -/
theorem blacklistInto_sbas {svId : UInt32} (hsvId : svId ≠ GNSS_SV_ID_BLACKLIST_ALL)
    (config : ConstellationConfig) :
    blacklistInto documentedNumbers (svTarget documentedNumbers ⟨some .sbas, svId⟩) svId config =
      match acceptedShift .sbas svId.toNat with
      | none => some config
      | some n => if n < 64 then some (blacklistSv .sbas n config) else none := by
  rw [svTarget_sbas hsvId]
  by_cases hsecond : 183 ≤ svId.toNat
  · have hlower : rangeBit 120 158 0 svId.toNat = none := rangeBit_eq_none_iff.mpr (by omega)
    rw [if_pos hsecond, acceptedShift, hlower, Option.none_or]
    exact blacklistInto_single rfl hsvId config
  · have hupper : rangeBit 183 246 39 svId.toNat = none := rangeBit_eq_none_iff.mpr (by omega)
    rw [if_neg hsecond, acceptedShift, hupper, Option.or_none]
    by_cases hfirst : 120 ≤ svId.toNat ∧ svId.toNat ≤ 158
    · have hbit : rangeBit 120 158 0 svId.toNat = rangeBit 120 183 0 svId.toNat := by
        simp only [rangeBit, if_pos hfirst]
        rw [if_pos (by omega)]
      rw [if_pos hfirst, hbit]
      exact blacklistInto_single rfl hsvId config
    · rw [if_neg hfirst, rangeBit_eq_none_iff.mpr hfirst]
      rfl

/-- **What an entry does.** -/
theorem blacklistEntry_eq (config : ConstellationConfig) (c : GnssConstellationType)
    (svId : UInt32) :
    blacklistEntry documentedNumbers config ⟨some c, svId⟩ =
      if svId = GNSS_SV_ID_BLACKLIST_ALL then some (blacklistAll (typeFlag c) c config)
      else
        match acceptedShift c svId.toNat with
        | none => some config
        | some n => if n < 64 then some (blacklistSv c n config) else none := by
  by_cases hall : svId = GNSS_SV_ID_BLACKLIST_ALL
  · subst hall
    cases c <;> rfl
  · rw [if_neg hall]
    cases c
    case sbas => exact blacklistInto_sbas hall config
    all_goals exact blacklistInto_single rfl hall config

theorem blacklistEntry_none (config : ConstellationConfig) (svId : UInt32) :
    blacklistEntry documentedNumbers config ⟨none, svId⟩ = some config := rfl

/-! ## The list -/

/-- Where an entry is let in, the shift is inside the mask. -/
def ShiftInside (it : GnssSvIdInfo) : Prop :=
  ∀ c, it.constellation = some c → ∀ n, acceptedShift c it.svId.toNat = some n → n < 64

/-- The entry, as a step of a loop that cannot fail. -/
def entryStep (config : ConstellationConfig) (it : GnssSvIdInfo) : ConstellationConfig :=
  match it.constellation with
  | none => config
  | some c =>
    if it.svId = GNSS_SV_ID_BLACKLIST_ALL then blacklistAll (typeFlag c) c config
    else
      match acceptedShift c it.svId.toNat with
      | none => config
      | some n => blacklistSv c n config

/-- No constellation has the id 0 among its own. -/
theorem acceptedShift_all (c : GnssConstellationType) :
    acceptedShift c GNSS_SV_ID_BLACKLIST_ALL.toNat = none := by
  cases c <;> decide

theorem blacklistEntry_guard (it : GnssSvIdInfo) :
    Guarded.HasGuard (blacklistEntry documentedNumbers) ShiftInside entryStep it := by
  obtain ⟨constellation, svId⟩ := it
  intro config config'
  cases constellation with
  | none => simp [blacklistEntry_none, ShiftInside, entryStep]
  | some c =>
    rw [blacklistEntry_eq]
    simp only [ShiftInside, entryStep, Option.some.injEq, forall_eq']
    by_cases hall : svId = GNSS_SV_ID_BLACKLIST_ALL
    · subst hall
      simp [acceptedShift_all]
    · simp only [if_neg hall]
      cases hshift : acceptedShift c svId.toNat with
      | none => simp
      | some n => by_cases hn : n < 64 <;> simp [hn]

/-- **The call is defined** exactly if every shift is inside the mask. -/
theorem configConstellations_eq_some_iff (list : List GnssSvIdInfo)
    (config : ConstellationConfig) :
    configConstellations documentedNumbers (some list) = some config ↔
      (∀ it ∈ list, ShiftInside it) ∧ list.foldl entryStep defaultConstellations = config :=
  Guarded.foldlM_eq_some_iff (fun it _ => blacklistEntry_guard it) _ _

/-! ## Bits and sets -/

/-- A bit of a mask. -/
def svBit (c : GnssConstellationType) (n : Nat) (config : ConstellationConfig) : Bool :=
  (svMask config.2 c).toBitVec.getLsbD n

/-- An entry sets a bit. -/
def Hits (c : GnssConstellationType) (n : Nat) (it : GnssSvIdInfo) : Prop :=
  it.constellation = some c ∧
    (it.svId = GNSS_SV_ID_BLACKLIST_ALL ∨ acceptedShift c it.svId.toNat = some n)

/-- An entry is about all of the constellation of a flag. -/
def HitsType (f : GnssSvTypesFlag) (it : GnssSvIdInfo) : Prop :=
  it.svId = GNSS_SV_ID_BLACKLIST_ALL ∧ it.constellation.bind typeFlag = some f

instance (c : GnssConstellationType) (n : Nat) (it : GnssSvIdInfo) : Decidable (Hits c n it) :=
  inferInstanceAs (Decidable (_ ∧ _))

instance (f : GnssSvTypesFlag) (it : GnssSvIdInfo) : Decidable (HitsType f it) :=
  inferInstanceAs (Decidable (_ ∧ _))

theorem svBit_blacklistAll {c : GnssConstellationType} {n : Nat} (hn : n < 64)
    (flag : Option GnssSvTypesFlag) (c' : GnssConstellationType) (config : ConstellationConfig) :
    svBit c n (blacklistAll flag c' config) = (svBit c n config || decide (c' = c)) := by
  have hfull : (0xFFFFFFFFFFFFFFFF : UInt64).toBitVec.getLsbD n = true := by
    have hones : (0xFFFFFFFFFFFFFFFF : UInt64).toBitVec = BitVec.allOnes 64 := rfl
    rw [hones, BitVec.getLsbD_allOnes, decide_eq_true hn]
  unfold svBit blacklistAll
  rw [svMask_setSvMask]
  by_cases hc : c = c'
  · rw [if_pos hc, hfull]
    simp [hc]
  · simp [hc, Ne.symm hc]

theorem svBit_blacklistSv {c : GnssConstellationType} {n' : Nat} (hn' : n' < 64)
    (c' : GnssConstellationType) (n : Nat) (config : ConstellationConfig) :
    svBit c n (blacklistSv c' n' config) =
      (svBit c n config || (decide (c' = c) && decide (n = n'))) := by
  unfold svBit blacklistSv
  rw [svMask_setSvMask]
  by_cases hc : c = c'
  · subst hc
    have hword : (1 <<< UInt64.ofNat n' : UInt64).toBitVec = 1#64 <<< n' := by
      simp [UInt64.toBitVec_shiftLeft, Nat.mod_eq_of_lt hn']
    rw [if_pos rfl, UInt64.toBitVec_or, hword, BitMask.getLsbD_or_shiftLeft _ hn']
    simp
  · simp [hc, Ne.symm hc]

theorem svBit_entryStep {c : GnssConstellationType} {n : Nat} (hn : n < 64) {it : GnssSvIdInfo}
    (hinside : ShiftInside it) (config : ConstellationConfig) :
    svBit c n (entryStep config it) = (svBit c n config || decide (Hits c n it)) := by
  obtain ⟨constellation, svId⟩ := it
  cases constellation with
  | none => simp [entryStep, Hits]
  | some c' =>
    by_cases hall : svId = GNSS_SV_ID_BLACKLIST_ALL
    · simp [entryStep, Hits, hall, svBit_blacklistAll hn]
    · simp only [entryStep, Hits, hall, if_false, false_or, Option.some.injEq]
      cases hshift : acceptedShift c' svId.toNat with
      | none =>
        have hmiss : ¬(c' = c ∧ acceptedShift c svId.toNat = some n) := by
          rintro ⟨rfl, h⟩
          exact nomatch hshift.symm.trans h
        simp [hmiss]
      | some n' =>
        have hhit : (c' = c ∧ acceptedShift c svId.toNat = some n) ↔ c' = c ∧ n = n' := by
          constructor
          · rintro ⟨rfl, h⟩
            exact ⟨rfl, (Option.some.inj (hshift.symm.trans h)).symm⟩
          · rintro ⟨rfl, rfl⟩
            exact ⟨rfl, hshift⟩
        rw [svBit_blacklistSv (hinside c' rfl n' hshift)]
        simp [hhit]

theorem blacklisted_entryStep (f : GnssSvTypesFlag) (config : ConstellationConfig)
    (it : GnssSvIdInfo) :
    (entryStep config it).1.blacklistedSvTypesMask f =
        (config.1.blacklistedSvTypesMask f || decide (HitsType f it)) ∧
      (!(entryStep config it).1.enabledSvTypesMask f) =
        (!config.1.enabledSvTypesMask f || decide (HitsType f it)) := by
  obtain ⟨constellation, svId⟩ := it
  cases constellation with
  | none => simp [entryStep, HitsType]
  | some c =>
    by_cases hall : svId = GNSS_SV_ID_BLACKLIST_ALL
    · simp [entryStep, HitsType, hall, blacklistAll]
    · simp only [entryStep, HitsType, hall, if_false, false_and, decide_false, Bool.or_false]
      split <;> exact ⟨rfl, rfl⟩

/-- **What the loop leaves** in a mask. -/
theorem svBit_foldl {c : GnssConstellationType} {n : Nat} (hn : n < 64)
    {list : List GnssSvIdInfo} (hinside : ∀ it ∈ list, ShiftInside it) :
    svBit c n (list.foldl entryStep defaultConstellations) = true ↔ ∃ it ∈ list, Hits c n it := by
  have hinit : svBit c n defaultConstellations = false := by
    cases c <;> simp [svBit, svMask, defaultConstellations]
  rw [Guarded.foldl_collects fun it hit => svBit_entryStep hn (hinside it hit), hinit,
    Bool.false_or, List.any_eq_true]
  simp only [decide_eq_true_eq]

/-- And in the two sets. -/
theorem types_foldl (f : GnssSvTypesFlag) (list : List GnssSvIdInfo) :
    ((list.foldl entryStep defaultConstellations).1.blacklistedSvTypesMask f = true ↔
        ∃ it ∈ list, HitsType f it) ∧
      ((list.foldl entryStep defaultConstellations).1.enabledSvTypesMask f = true ↔
        f ≠ .navic ∧ ¬∃ it ∈ list, HitsType f it) := by
  constructor
  · have hblack := @Guarded.foldl_collects _ _ entryStep
      (fun config => config.1.blacklistedSvTypesMask f) (fun it => decide (HitsType f it)) list
      (fun it _ config => (blacklisted_entryStep f config it).1) defaultConstellations
    rw [hblack]
    simp [defaultConstellations]
  · have henabled := @Guarded.foldl_collects _ _ entryStep
      (fun config => !config.1.enabledSvTypesMask f) (fun it => decide (HitsType f it)) list
      (fun it _ config => (blacklisted_entryStep f config it).2) defaultConstellations
    rw [Bool.not_eq_eq_eq_not] at henabled
    rw [henabled]
    simp [defaultConstellations]

theorem sizeIsZero_foldl (list : List GnssSvIdInfo) :
    (list.foldl entryStep defaultConstellations).1.sizeIsZero = false := by
  have hstep : ∀ config it, (entryStep config it).1.sizeIsZero = config.1.sizeIsZero := by
    intro config it
    unfold entryStep
    split
    · rfl
    · split
      · rfl
      · split <;> rfl
  have hsize := @Guarded.foldl_collects _ _ entryStep (fun config => config.1.sizeIsZero)
    (fun _ => false) list (fun it _ config => by rw [hstep, Bool.or_false]) defaultConstellations
  rw [hsize]
  simp [defaultConstellations]

theorem typeConfig_ext {types types' : GnssSvTypeConfig}
    (hsize : types.sizeIsZero = types'.sizeIsZero)
    (henabled : ∀ f, types.enabledSvTypesMask f = types'.enabledSvTypesMask f)
    (hblacklisted : ∀ f, types.blacklistedSvTypesMask f = types'.blacklistedSvTypesMask f) :
    types = types' := by
  obtain ⟨size, enabled, blacklisted⟩ := types
  obtain ⟨size', enabled', blacklisted'⟩ := types'
  obtain rfl : enabled = enabled' := funext henabled
  obtain rfl : blacklisted = blacklisted' := funext hblacklisted
  obtain rfl : size = size' := hsize
  rfl

/-- **The order of the list** and its repetitions do not matter. -/
theorem configConstellations_congr {list list' : List GnssSvIdInfo}
    (h : ∀ it, it ∈ list ↔ it ∈ list') :
    configConstellations documentedNumbers (some list) =
      configConstellations documentedNumbers (some list') := by
  have hsome : ∀ config, configConstellations documentedNumbers (some list) = some config ↔
      configConstellations documentedNumbers (some list') = some config := by
    intro config
    rw [configConstellations_eq_some_iff, configConstellations_eq_some_iff]
    simp only [h]
    refine and_congr_right fun hinside => ?_
    have hinside' : ∀ it ∈ list, ShiftInside it := fun it hit => hinside it ((h it).mp hit)
    -- both runs are told apart by nothing that can be seen of them
    have heq : list.foldl entryStep defaultConstellations =
        list'.foldl entryStep defaultConstellations := by
      refine Prod.ext (typeConfig_ext ?_ (fun f => ?_) fun f => ?_) (svMask_ext fun c => ?_)
      · rw [sizeIsZero_foldl, sizeIsZero_foldl]
      · rw [Bool.eq_iff_iff, (types_foldl f list).2, (types_foldl f list').2]
        simp only [h]
      · rw [Bool.eq_iff_iff, (types_foldl f list).1, (types_foldl f list').1]
        simp only [h]
      · refine UInt64.toBitVec_inj.mp (BitVec.eq_of_getLsbD_eq fun n hn => Bool.eq_iff_iff.mpr ?_)
        have hbits := @svBit_foldl c n hn list hinside'
        have hbits' := @svBit_foldl c n hn list' hinside
        simp only [h] at hbits
        exact hbits.trans hbits'.symm
    rw [heq]
  exact Option.ext hsome

/-! ## The result -/

/-- **What the list should come to.**  A bit is set for each satellite of the list, all bits for a
constellation that is blacklisted as a whole, and such a constellation is in the one set and no
longer in the other. -/
structure Blacklists (list : List GnssSvIdInfo) (config : ConstellationConfig) : Prop where
  bits : ∀ c, ∀ n < 64, svBit c n config = true ↔
    ⟨some c, GNSS_SV_ID_BLACKLIST_ALL⟩ ∈ list ∨
      ∃ svId, ⟨some c, svId⟩ ∈ list ∧ documentedBit c svId.toNat = some n
  blacklisted : ∀ c f, typeFlag c = some f →
    (config.1.blacklistedSvTypesMask f = true ↔ ⟨some c, GNSS_SV_ID_BLACKLIST_ALL⟩ ∈ list)
  enabled : ∀ c f, typeFlag c = some f →
    (config.1.enabledSvTypesMask f = true ↔
      defaultConstellations.1.enabledSvTypesMask f = true ∧
        ⟨some c, GNSS_SV_ID_BLACKLIST_ALL⟩ ∉ list)
  disjoint : ∀ f, ¬(config.1.enabledSvTypesMask f = true ∧
    config.1.blacklistedSvTypesMask f = true)

/-- An id that is let in is a documented one, or its bit is one of the mask, and that mask is full
for another entry. -/
def EntriesFit (list : List GnssSvIdInfo) : Prop :=
  ∀ c svId, ⟨some c, svId⟩ ∈ list → ∀ n, acceptedShift c svId.toNat = some n →
    documentedBit c svId.toNat = some n ∨
      n < 64 ∧ ⟨some c, GNSS_SV_ID_BLACKLIST_ALL⟩ ∈ list

theorem hits_iff {list : List GnssSvIdInfo} {c : GnssConstellationType} {n : Nat} :
    (∃ it ∈ list, Hits c n it) ↔ ⟨some c, GNSS_SV_ID_BLACKLIST_ALL⟩ ∈ list ∨
      ∃ svId, ⟨some c, svId⟩ ∈ list ∧ acceptedShift c svId.toNat = some n := by
  constructor
  · rintro ⟨⟨_, svId⟩, hit, rfl, rfl | hshift⟩
    · exact .inl hit
    · exact .inr ⟨svId, hit, hshift⟩
  · rintro (hall | ⟨svId, hit, hshift⟩)
    · exact ⟨_, hall, rfl, .inl rfl⟩
    · exact ⟨_, hit, rfl, .inr hshift⟩

theorem hitsType_iff {list : List GnssSvIdInfo} {c : GnssConstellationType}
    {f : GnssSvTypesFlag} (hflag : typeFlag c = some f) :
    (∃ it ∈ list, HitsType f it) ↔ ⟨some c, GNSS_SV_ID_BLACKLIST_ALL⟩ ∈ list := by
  constructor
  · rintro ⟨⟨constellation, svId⟩, hit, hall, hf⟩
    obtain ⟨c', hc', hf'⟩ := Option.bind_eq_some_iff.mp hf
    have hc : c' = c := by
      cases c <;> cases c' <;> cases hflag <;> first | rfl | exact nomatch hf'
    dsimp only at hall hc'
    rw [hall, hc', hc] at hit
    exact hit
  · intro hit
    exact ⟨_, hit, rfl, hflag⟩

/-- **The conversion of the list is as documented** exactly if its entries fit: the shifts are
inside the masks, the result is what the list should come to, in any order of it, and distinct
satellites have distinct bits. -/
theorem blacklists_iff_entriesFit {numbers : SvConfigNumbers}
    (hnumbers : numbers = documentedNumbers) (list : List GnssSvIdInfo) :
    ((∃ config, configConstellations numbers (some list) = some config ∧
          Blacklists list config) ∧
        (∀ list', list'.Perm list →
          configConstellations numbers (some list') = configConstellations numbers (some list)) ∧
        ∀ c svId svId' n, documentedBit c svId = some n → documentedBit c svId' = some n →
          svId = svId') ↔ EntriesFit list := by
  subst hnumbers
  constructor
  · rintro ⟨⟨config, hconfig, hright⟩, -, -⟩ c svId hit n hshift
    obtain ⟨hinside, rfl⟩ := (configConstellations_eq_some_iff list config).mp hconfig
    have hn := hinside _ hit c rfl n hshift
    have hset := (svBit_foldl hn hinside).mpr ⟨_, hit, rfl, .inr hshift⟩
    rcases (hright.bits c n hn).mp hset with hall | ⟨svId', _, hdocumented⟩
    · exact .inr ⟨hn, hall⟩
    · have hid := acceptedShift_injective hshift (acceptedShift_of_documentedBit hdocumented).1
      exact .inl (hid ▸ hdocumented)
  · intro hfit
    have hinside : ∀ it ∈ list, ShiftInside it := by
      rintro ⟨_, svId⟩ hit c rfl n hshift
      rcases hfit c svId hit n hshift with hdocumented | ⟨hn, _⟩
      · exact (acceptedShift_of_documentedBit hdocumented).2
      · exact hn
    refine ⟨⟨_, (configConstellations_eq_some_iff list _).mpr ⟨hinside, rfl⟩, ?_⟩,
      fun list' hperm => configConstellations_congr fun it => hperm.mem_iff,
      fun c svId svId' n => documentedBit_injective⟩
    constructor
    case bits =>
      intro c n hn
      rw [svBit_foldl hn hinside, hits_iff]
      constructor
      · rintro (hall | ⟨svId, hit, hshift⟩)
        · exact .inl hall
        · rcases hfit c svId hit n hshift with hdocumented | ⟨_, hall⟩
          · exact .inr ⟨svId, hit, hdocumented⟩
          · exact .inl hall
      · rintro (hall | ⟨svId, hit, hdocumented⟩)
        · exact .inl hall
        · exact .inr ⟨svId, hit, (acceptedShift_of_documentedBit hdocumented).1⟩
    case blacklisted =>
      intro c f hflag
      rw [(types_foldl f list).1, hitsType_iff hflag]
    case enabled =>
      intro c f hflag
      rw [(types_foldl f list).2, hitsType_iff hflag]
      simp [defaultConstellations]
    case disjoint =>
      rintro f ⟨henabled, hblacklisted⟩
      exact ((types_foldl f list).2.mp henabled).2 ((types_foldl f list).1.mp hblacklisted)

/-- An SBAS id past the second range comes to a shift by 64, and a GPS id that is not one sets a
bit of the mask. -/
theorem sbas_208_shifts_outside :
    (¬∃ config, configConstellations documentedNumbers (some [⟨some .sbas, 208⟩]) = some config ∧
        Blacklists [⟨some .sbas, 208⟩] config) ∧
      acceptedShift .sbas 208 = some 64 ∧
      (configConstellations documentedNumbers (some [⟨some .gps, 33⟩])).map
        (fun config => config.2.gpsBlacklistSvMask) = some 0x100000000 ∧
      documentedBit .gps 33 = none := by
  refine ⟨?_, rfl, rfl, rfl⟩
  rintro ⟨config, hconfig, _⟩
  exact nomatch hconfig

/-- A satellite of each range of SBAS, and all of NavIC. -/
theorem blacklists_three :
    ∃ config, configConstellations documentedNumbers
        (some [⟨some .sbas, 191⟩, ⟨some .navic, 0⟩, ⟨some .sbas, 158⟩]) = some config ∧
      Blacklists [⟨some .sbas, 191⟩, ⟨some .navic, 0⟩, ⟨some .sbas, 158⟩] config := by
  refine ((blacklists_iff_entriesFit rfl _).mpr ?_).1
  intro c svId hit n hshift
  simp only [List.mem_cons, List.not_mem_nil, or_false, GnssSvIdInfo.mk.injEq,
    Option.some.injEq] at hit
  rcases hit with ⟨rfl, rfl⟩ | ⟨rfl, rfl⟩ | ⟨rfl, rfl⟩
  · exact .inl hshift
  · exact nomatch hshift
  · exact .inl hshift

end LocationStack.Integration
