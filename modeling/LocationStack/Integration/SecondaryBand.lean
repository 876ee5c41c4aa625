import LocationStack.Integration.Blacklist
import LocationStack.Lib.EventRun
import Mathlib.Data.List.Nodup
import Mathlib.Logic.Function.Basic

/-! # The secondary bands, from the client to the modem and back

A client names the constellations whose secondary bands are not to be used.  The set becomes two
masks, a message, two masks again in the daemon, and at last one word for the modem, which has the
enabled bands in an order of its own.  A query goes the same way back and ends with a set.  Four
numberings of the constellations are involved, and what is blacklisted at one end is what is not
enabled at the other.

Between the daemon and `LocApiV02` lies code that is not here, and the modem is not here either; of
both only what is documented is used.
-/
namespace LocationStack.Integration

open PbConv

/-! ## The client -/

/-- A `ConstellationSet`, in the order of its iteration; another number is `none`. -/
abbrev ConstellationSet := List (Option GnssConstellationType)

/-- `switch (disabledSecondaryBand)`; SBAS has no bit. -/
def disableSecondaryBand (mask : Flags GnssSvTypesFlag) (c : Option GnssConstellationType) :
    Flags GnssSvTypesFlag :=
  match c with
  | some .glonass => Function.update mask .glo true
  | some .qzss => Function.update mask .qzss true
  | some .beidou => Function.update mask .bds true
  | some .galileo => Function.update mask .gal true
  | some .navic => Function.update mask .navic true
  | some .gps => Function.update mask .gps true
  | some .sbas | none => mask

/-- `configConstellationSecondaryBand`; the set may be null. -/
def configConstellationSecondaryBand (secondaryBandDisablementSet : Option ConstellationSet) :
    GnssSvTypeConfig :=
  let blacklistedSvTypesMask :=
    (secondaryBandDisablementSet.getD []).foldl disableSecondaryBand fun _ => false
  { sizeIsZero := false
    enabledSvTypesMask := fun f => true ^^ blacklistedSvTypesMask f
    blacklistedSvTypesMask := blacklistedSvTypesMask }

def isBitMaskSetForConstellation (type : GnssConstellationType) (mask : Flags GnssSvTypesFlag) :
    Bool :=
  match type with
  | .glonass => mask .glo
  | .beidou => mask .bds
  | .qzss => mask .qzss
  | .galileo => mask .gal
  | .navic => mask .navic
  | .gps => mask .gps
  | .sbas => false

/-- The constellations by their numbers; 0 is none, and has no bit. -/
def constellationTypes : List GnssConstellationType :=
  [.glonass, .qzss, .beidou, .galileo, .sbas, .navic, .gps]

/-- The set that the callback of the client is given. -/
def processGetConstellationSecondaryBandConfigRespCb (mSecondaryBandConfig : GnssSvTypeConfig) :
    List GnssConstellationType :=
  if mSecondaryBandConfig.sizeIsZero then []
  else
    constellationTypes.filter fun type =>
      isBitMaskSetForConstellation type mSecondaryBandConfig.blacklistedSvTypesMask

theorem mem_processGetConstellationSecondaryBandConfigRespCb {config : GnssSvTypeConfig}
    (hsize : config.sizeIsZero = false) (c : GnssConstellationType) :
    c ∈ processGetConstellationSecondaryBandConfigRespCb config ↔
      ∃ f, typeFlag c = some f ∧ config.blacklistedSvTypesMask f = true := by
  have hall : c ∈ constellationTypes := by cases c <;> decide
  rw [processGetConstellationSecondaryBandConfigRespCb, hsize, if_neg Bool.false_ne_true,
    List.mem_filter, and_iff_right hall]
  cases c <;> simp [isBitMaskSetForConstellation, typeFlag]

/-- One constellation sets its own bit. -/
theorem disableSecondaryBand_eq (mask : Flags GnssSvTypesFlag) (c : Option GnssConstellationType)
    (f : GnssSvTypesFlag) :
    disableSecondaryBand mask c f = (mask f || decide (c.bind typeFlag = some f)) := by
  rcases c with _ | c
  · simp [disableSecondaryBand]
  · cases c <;> cases f <;> simp [disableSecondaryBand, typeFlag]

theorem foldl_disableSecondaryBand (set : ConstellationSet) (mask : Flags GnssSvTypesFlag)
    (f : GnssSvTypesFlag) :
    set.foldl disableSecondaryBand mask f =
      (mask f || set.any fun c => decide (c.bind typeFlag = some f)) := by
  induction set generalizing mask with
  | nil => simp
  | cons c set ih =>
    rw [List.foldl_cons, ih, disableSecondaryBand_eq, List.any_cons, Bool.or_assoc]

/-- The two masks are complements. -/
theorem configConstellationSecondaryBand_enabled (set : Option ConstellationSet)
    (f : GnssSvTypesFlag) :
    (configConstellationSecondaryBand set).enabledSvTypesMask f =
      !(configConstellationSecondaryBand set).blacklistedSvTypesMask f :=
  Bool.true_xor _

/-- Only one constellation has a given bit. -/
theorem typeFlag_inj {c c' : GnssConstellationType} {f : GnssSvTypesFlag}
    (hc : typeFlag c = some f) (hc' : typeFlag c' = some f) : c = c' := by
  cases c <;> cases c' <;> first | rfl | (rw [← hc'] at hc; cases hc)

theorem configConstellationSecondaryBand_blacklisted (set : Option ConstellationSet)
    {c : GnssConstellationType} {f : GnssSvTypesFlag} (hc : typeFlag c = some f) :
    (configConstellationSecondaryBand set).blacklistedSvTypesMask f = true ↔
      some c ∈ set.getD [] := by
  show (set.getD []).foldl disableSecondaryBand (fun _ => false) f = true ↔ _
  rw [foldl_disableSecondaryBand, Bool.false_or, List.any_eq_true]
  constructor
  · rintro ⟨c', hmem, hflag⟩
    obtain ⟨d, rfl, hd⟩ := Option.bind_eq_some_iff.mp (of_decide_eq_true hflag)
    rwa [typeFlag_inj hc hd]
  · intro hmem
    exact ⟨some c, hmem, decide_eq_true hc⟩

/-! ## The modem's word -/

/-- `eQMI_SYSTEM_…` -/
def qmiSystem : FlagTable GnssSvTypesFlag 64 where
  rows := [(.gps, 0x01), (.glo, 0x02), (.bds, 0x04), (.qzss, 0x10), (.gal, 0x08), (.navic, 0x20)]
  nonzero := by decide
  disjoint := by decide

/-- `secondaryGnssConfig` of the request of `configConstellationMultiBand`. -/
def configConstellationMultiBand (secondaryBandConfig : GnssSvTypeConfig) : BitVec 64 :=
  qmiSystem.write secondaryBandConfig.enabledSvTypesMask

/-- `maskAll` is `GNSS_SV_TYPES_MASK_ALL`. -/
def convertQmiSecondaryConfigToGnssConfig (maskAll : Flags GnssSvTypesFlag)
    (qmiSecondaryBandConfig : BitVec 64) : GnssSvTypeConfig where
  sizeIsZero := false
  enabledSvTypesMask := qmiSystem.read qmiSecondaryBandConfig
  blacklistedSvTypesMask f := !qmiSystem.read qmiSecondaryBandConfig f && maskAll f

/-- A modem with states `M`: how it serves the request, and the word of its answer to the query, if
that is a success and the word is valid. -/
structure MultibandModem (M : Type) where
  setMultibandConfig : M → BitVec 64 → M
  getMultibandConfig : M → Option (BitVec 64)

/-- As documented, a bit enables the bands of its constellation, and tells that they are. -/
def MultibandModem.Documented {M : Type} (modem : MultibandModem M) : Prop :=
  ∀ m w v, modem.getMultibandConfig (modem.setMultibandConfig m w) = some v →
    ∀ row ∈ qmiSystem.rows, v &&& row.2 ≠ 0 ↔ w &&& row.2 ≠ 0

/-- The word that is read has the bands that were written. -/
theorem read_getMultibandConfig {M : Type} {modem : MultibandModem M} (hdoc : modem.Documented)
    {m : M} {v : BitVec 64} {mask : Flags GnssSvTypesFlag}
    (hv : modem.getMultibandConfig (modem.setMultibandConfig m (qmiSystem.write mask)) = some v) :
    qmiSystem.read v = mask := by
  rw [← qmiSystem.read_write (fun f => by cases f <;> decide) mask]
  funext f
  rw [Bool.eq_iff_iff]
  simp only [FlagTable.read, FlagTable.readRows, List.any_eq_true, Bool.and_eq_true, bne_iff_ne]
  refine exists_congr fun row => and_congr_right fun hrow => and_congr_right fun _ => ?_
  exact hdoc m _ v hv row hrow

/-! ## All the way -/

/-- What lies between the daemon and `LocApiV02`, on the way down and up. -/
structure AdapterPath where
  down : GnssSvTypeConfig → GnssSvTypeConfig
  up : GnssSvTypeConfig → GnssSvTypeConfig

/-- It hands a configuration on. -/
structure AdapterPath.HandsOn (path : AdapterPath) : Prop where
  down : ∀ config, (path.down config).enabledSvTypesMask = config.enabledSvTypesMask
  up : ∀ config, path.up config = config

/-- A client sets the bands; the request may be lost on the way, or refused. -/
structure BandRequest where
  secondaryBandDisablementSet : Option ConstellationSet
  served : Bool

section
variable {M : Type} (numbers : ConfigNumbers) (path : AdapterPath) (modem : MultibandModem M)
  (maskAll : Flags GnssSvTypesFlag)

/-- The message that carries a configuration. -/
def throughMessage (config : GnssSvTypeConfig) : GnssSvTypeConfig :=
  pbConvertToGnssSvTypeConfig (convertGnssSvTypeConfigToPB numbers config)

def bandStep (m : M) (request : BandRequest) : M :=
  if request.served then
    modem.setMultibandConfig m
      (configConstellationMultiBand
        (path.down (throughMessage numbers
          (configConstellationSecondaryBand request.secondaryBandDisablementSet))))
  else m

/-- The set of the callback, if the modem answers. -/
def readBands (m : M) : Option (List GnssConstellationType) :=
  (modem.getMultibandConfig m).map fun word =>
    processGetConstellationSecondaryBandConfigRespCb
      (throughMessage numbers (path.up (convertQmiSecondaryConfigToGnssConfig maskAll word)))

end

section
variable {M : Type} {numbers : ConfigNumbers} {path : AdapterPath} {modem : MultibandModem M}
  {maskAll : Flags GnssSvTypesFlag}

/-- What is not served changes nothing. -/
theorem bandStep_of_not_served (m : M) {requests : List BandRequest}
    (hrest : ∀ request ∈ requests, request.served = false) :
    EventRun.run (bandStep numbers path modem) m requests = m := by
  induction requests with
  | nil => rfl
  | cons request rest ih =>
    have hskip : bandStep numbers path modem m request = m :=
      if_neg (by rw [hrest request List.mem_cons_self]; decide)
    rw [EventRun.run_cons, hskip]
    exact ih fun r hr => hrest r (List.mem_cons_of_mem request hr)

/-- **The set comes back.**  Whatever was set before, and whatever is refused after, a query tells
the client the constellations that were named in the last request that was served, but for SBAS and
numbers without a meaning; if there was no set, none. -/
theorem secondary_band_reads_back (hnum : numbers.SameAsMessage) (hpath : path.HandsOn)
    (hdoc : modem.Documented) (hall : ∀ f, maskAll f = true) (m : M) (before : List BandRequest)
    (set : Option ConstellationSet) {after : List BandRequest}
    (hafter : ∀ request ∈ after, request.served = false) {told : List GnssConstellationType}
    (htold : readBands numbers path modem maskAll
      (EventRun.run (bandStep numbers path modem) m (before ++ ⟨set, true⟩ :: after)) = some told) :
    told.Nodup ∧ ∀ c, c ∈ told ↔ c ≠ .sbas ∧ some c ∈ set.getD [] := by
  rw [EventRun.run_append, EventRun.run_cons, bandStep_of_not_served _ hafter, readBands,
    Option.map_eq_some_iff] at htold
  obtain ⟨word, hword, rfl⟩ := htold
  rw [bandStep, if_pos rfl, configConstellationMultiBand, hpath.down, throughMessage,
    pbConvertToGnssSvTypeConfig_convertToPB hnum] at hword
  have hread := read_getMultibandConfig hdoc hword
  have hconfig : throughMessage numbers
      (path.up (convertQmiSecondaryConfigToGnssConfig maskAll word)) =
        convertQmiSecondaryConfigToGnssConfig maskAll word := by
    rw [throughMessage, hpath.up, pbConvertToGnssSvTypeConfig_convertToPB hnum]
    rfl
  rw [hconfig]
  constructor
  · rw [processGetConstellationSecondaryBandConfigRespCb]
    split
    · exact List.nodup_nil
    · exact List.Nodup.filter _ (by decide)
  · intro c
    rw [mem_processGetConstellationSecondaryBandConfigRespCb rfl]
    have hblacklisted : ∀ f,
        (convertQmiSecondaryConfigToGnssConfig maskAll word).blacklistedSvTypesMask f =
          (configConstellationSecondaryBand set).blacklistedSvTypesMask f := by
      intro f
      show (!qmiSystem.read word f && maskAll f) = _
      rw [hread, configConstellationSecondaryBand_enabled, hall, Bool.and_true, Bool.not_not]
    constructor
    · rintro ⟨f, hc, hf⟩
      rw [hblacklisted, configConstellationSecondaryBand_blacklisted set hc] at hf
      refine ⟨?_, hf⟩
      rintro rfl
      cases hc
    · rintro ⟨hsbas, hmem⟩
      obtain ⟨f, hc⟩ : ∃ f, typeFlag c = some f := by
        cases c <;> first | exact ⟨_, rfl⟩ | exact absurd rfl hsbas
      refine ⟨f, hc, ?_⟩
      rwa [hblacklisted, configConstellationSecondaryBand_blacklisted set hc]

end

/-- GPS and SBAS are named, then a request for Galileo is refused: GPS is told. -/
theorem secondary_band_reads_back_sample :
    let modem : MultibandModem (BitVec 64) := ⟨fun _ w => w, some⟩
    let requests : List BandRequest :=
      [⟨none, true⟩] ++ ⟨some [some .gps, some .sbas, none], true⟩ ::
        [⟨some [some .galileo], false⟩]
    ∃ told, readBands .ofMessage ⟨id, id⟩ modem (fun _ => true)
        (EventRun.run (bandStep .ofMessage ⟨id, id⟩ modem) 0 requests) = some told ∧
      .gps ∈ told ∧ .galileo ∉ told := by
  intro modem requests
  have hdoc : modem.Documented := by
    intro _ w v hv row _
    rw [show w = v from Option.some.inj hv]
  have hback := @secondary_band_reads_back _ .ofMessage ⟨id, id⟩ modem (fun _ => true)
    ConfigNumbers.ofMessage_sameAsMessage ⟨fun _ => rfl, fun _ => rfl⟩ hdoc (fun _ => rfl)
    0 [⟨none, true⟩] (some [some .gps, some .sbas, none]) [⟨some [some .galileo], false⟩]
    (by simp) _ rfl
  refine ⟨_, rfl, (hback.2 .gps).mpr ⟨by decide, by decide⟩, fun hmem => ?_⟩
  exact absurd ((hback.2 .galileo).mp hmem).2 (by decide)

end LocationStack.Integration
