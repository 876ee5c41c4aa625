import LocationStack.Integration.Blacklist
import LocationStack.LocApi.SvReport
import LocationStack.LocApi.SvUsed
import LocationStack.Lib.EventRun
import LocationStack.Lib.LastWrite

/-! # Which satellites and constellations the modem may use

A configuration says of each constellation which of its satellites are not to be used, and which
constellations are not to be used at all.  The one that the modem prefers is left out of both, and
it can change from one request to the next.  So what the modem holds of a constellation is what
the last request said while another was preferred.

The modem itself is not here; of its messages only what is documented is used.
-/
namespace LocationStack.LocApi

open PbConv Integration

/-! ## The preferred constellation -/

/-- The constellation of a signal. -/
def GnssSignal.svType : GnssSignal → GnssSvType
  | .gpsL1ca | .gpsL1c | .gpsL2 | .gpsL5 => .gps
  | .glonassG1 | .glonassG2 => .glonass
  | .galileoE1 | .galileoE5a | .galileoE5b => .galileo
  | .beidouB1i | .beidouB1c | .beidouB2i | .beidouB2ai | .beidouB2bi | .beidouB2bq
  | .beidouB2aq => .beidou
  | .qzssL1ca | .qzssL1s | .qzssL2 | .qzssL5 => .qzss
  | .sbasL1 => .sbas
  | .navicL5 | .navicL1 => .navic

/-- The word is that of one signal, or the type is unknown. -/
def getSvTypeFromSignalType (gnssSignalType : BitVec 64) : GnssSvType :=
  match qmiSignalTable.rows.find? fun row => row.2 == gnssSignalType with
  | some row => row.1.svType
  | none => .unknown

/-- The `GnssSvType` of a constellation. -/
def constellationSvType : GnssConstellationType → GnssSvType
  | .glonass => .glonass
  | .qzss => .qzss
  | .beidou => .beidou
  | .galileo => .galileo
  | .sbas => .sbas
  | .navic => .navic
  | .gps => .gps

/-- `mPreferredSvSystemType` after `processGnssBandsSupportedInd`. -/
def preferredAfter (mPreferredSvSystemType : GnssSvType)
    (primaryGnssSignalType : Option (BitVec 64)) : GnssSvType :=
  match primaryGnssSignalType with
  | some signal => getSvTypeFromSignalType signal
  | none => mPreferredSvSystemType

/-! ## Blacklisted satellites -/

/-- The two masks of a constellation, if they are valid. -/
structure PersistBlacklistSv where
  persist_blacklist_sv : Option UInt64
  clear_persist_blacklist_sv : Option UInt64
  deriving DecidableEq

/-- `qmiLocSetBlacklistSvReqMsgT_v02` -/
structure QmiLocSetBlacklistSvReqMsg where
  (glo bds qzss gal sbas navic gps : PersistBlacklistSv)

/-- The masks of one constellation. -/
def QmiLocSetBlacklistSvReqMsg.sv (req : QmiLocSetBlacklistSvReqMsg) :
    GnssConstellationType → PersistBlacklistSv
  | .glonass => req.glo
  | .qzss => req.qzss
  | .beidou => req.bds
  | .galileo => req.gal
  | .sbas => req.sbas
  | .navic => req.navic
  | .gps => req.gps

/-- `if (mPreferredSvSystemType != type)`: the masks are filled in. -/
def persistBlacklistSv (mPreferredSvSystemType type : GnssSvType) (mask : UInt64) :
    PersistBlacklistSv :=
  if mPreferredSvSystemType ≠ type then ⟨some mask, some (~~~mask)⟩ else ⟨none, none⟩

/-- The request of `setBlacklistSvSync`. -/
def setBlacklistSvMsg (mPreferredSvSystemType : GnssSvType) (config : GnssSvIdConfig) :
    QmiLocSetBlacklistSvReqMsg where
  gps := persistBlacklistSv mPreferredSvSystemType .gps config.gpsBlacklistSvMask
  glo := persistBlacklistSv mPreferredSvSystemType .glonass config.gloBlacklistSvMask
  bds := persistBlacklistSv mPreferredSvSystemType .beidou config.bdsBlacklistSvMask
  qzss := persistBlacklistSv mPreferredSvSystemType .qzss config.qzssBlacklistSvMask
  gal := persistBlacklistSv mPreferredSvSystemType .galileo config.galBlacklistSvMask
  sbas := persistBlacklistSv mPreferredSvSystemType .sbas config.sbasBlacklistSvMask
  navic := persistBlacklistSv mPreferredSvSystemType .navic config.navicBlacklistSvMask

theorem sv_setBlacklistSvMsg (mPreferredSvSystemType : GnssSvType) (config : GnssSvIdConfig)
    (c : GnssConstellationType) :
    (setBlacklistSvMsg mPreferredSvSystemType config).sv c =
      persistBlacklistSv mPreferredSvSystemType (constellationSvType c) (svMask config c) := by
  cases c <;> rfl

/-- `qmiLocGetBlacklistSvIndMsgT_v02` with a status of success: the masks that are valid. -/
structure QmiLocGetBlacklistSvIndMsg where
  (glo_persist_blacklist_sv bds_persist_blacklist_sv : Option UInt64)
  (qzss_persist_blacklist_sv gal_persist_blacklist_sv : Option UInt64)
  (sbas_persist_blacklist_sv navic_persist_blacklist_sv : Option UInt64)
  gps_persist_blacklist_sv : Option UInt64

def QmiLocGetBlacklistSvIndMsg.sv (ind : QmiLocGetBlacklistSvIndMsg) :
    GnssConstellationType → Option UInt64
  | .glonass => ind.glo_persist_blacklist_sv
  | .qzss => ind.qzss_persist_blacklist_sv
  | .beidou => ind.bds_persist_blacklist_sv
  | .galileo => ind.gal_persist_blacklist_sv
  | .sbas => ind.sbas_persist_blacklist_sv
  | .navic => ind.navic_persist_blacklist_sv
  | .gps => ind.gps_persist_blacklist_sv

/-- The configuration is `{}` before. -/
def convertQmiBlacklistedSvConfigToGnssConfig (ind : QmiLocGetBlacklistSvIndMsg) :
    GnssSvIdConfig where
  gloBlacklistSvMask := ind.glo_persist_blacklist_sv.getD 0
  bdsBlacklistSvMask := ind.bds_persist_blacklist_sv.getD 0
  qzssBlacklistSvMask := ind.qzss_persist_blacklist_sv.getD 0
  galBlacklistSvMask := ind.gal_persist_blacklist_sv.getD 0
  sbasBlacklistSvMask := ind.sbas_persist_blacklist_sv.getD 0
  navicBlacklistSvMask := ind.navic_persist_blacklist_sv.getD 0
  gpsBlacklistSvMask := ind.gps_persist_blacklist_sv.getD 0

theorem svMask_convertQmi (ind : QmiLocGetBlacklistSvIndMsg) (c : GnssConstellationType) :
    svMask (convertQmiBlacklistedSvConfigToGnssConfig ind) c = (ind.sv c).getD 0 := by
  cases c <;> rfl

/-! ## The modem -/

/-- A modem with states `M`: how it serves the two requests, and the satellites that it does not
use. -/
structure BlacklistModem (M : Type) where
  setBlacklistSv : M → QmiLocSetBlacklistSvReqMsg → M
  getBlacklistSv : M → QmiLocGetBlacklistSvIndMsg
  blacklist : M → GnssConstellationType → UInt64

/-- A satellite is in the mask, if that is valid. -/
def inMask (mask : Option UInt64) (k : Nat) : Bool := mask.any fun m => m.toBitVec.getLsbD k

/-- The second mask is the complement of the first. -/
theorem inMask_not (mask : UInt64) (k : Nat) :
    inMask (some (~~~mask)) k = (decide (k < 64) && !inMask (some mask) k) := by
  simp only [inMask, Option.any_some, UInt64.toBitVec_not, BitVec.getLsbD_not]

/-- What the messages document: one mask blacklists, the other removes from the blacklist, and the
blacklist is told.  A satellite in both masks is not spoken of. -/
structure BlacklistModem.Documented {M : Type} (modem : BlacklistModem M) : Prop where
  persist : ∀ m req c k, inMask (req.sv c).persist_blacklist_sv k = true →
    inMask (req.sv c).clear_persist_blacklist_sv k = false →
    (modem.blacklist (modem.setBlacklistSv m req) c).toBitVec.getLsbD k = true
  clear : ∀ m req c k, inMask (req.sv c).persist_blacklist_sv k = false →
    inMask (req.sv c).clear_persist_blacklist_sv k = true →
    (modem.blacklist (modem.setBlacklistSv m req) c).toBitVec.getLsbD k = false
  others : ∀ m req c k, inMask (req.sv c).persist_blacklist_sv k = false →
    inMask (req.sv c).clear_persist_blacklist_sv k = false →
    (modem.blacklist (modem.setBlacklistSv m req) c).toBitVec.getLsbD k =
      (modem.blacklist m c).toBitVec.getLsbD k
  told : ∀ m c mask, (modem.getBlacklistSv m).sv c = some mask → mask = modem.blacklist m c

section
variable {M : Type} {modem : BlacklistModem M}

/-- A request that the modem serves replaces the masks, but that of the preferred one. -/
theorem blacklist_setBlacklistSv (hdoc : modem.Documented) (m : M)
    (mPreferredSvSystemType : GnssSvType) (config : GnssSvIdConfig) (c : GnssConstellationType) :
    modem.blacklist (modem.setBlacklistSv m (setBlacklistSvMsg mPreferredSvSystemType config)) c =
      if mPreferredSvSystemType ≠ constellationSvType c then svMask config c
      else modem.blacklist m c := by
  have hsv := sv_setBlacklistSvMsg mPreferredSvSystemType config c
  have hpersist := hdoc.persist m (setBlacklistSvMsg mPreferredSvSystemType config) c
  have hclear := hdoc.clear m (setBlacklistSvMsg mPreferredSvSystemType config) c
  have hothers := hdoc.others m (setBlacklistSvMsg mPreferredSvSystemType config) c
  rw [hsv, persistBlacklistSv] at hpersist hclear hothers
  apply UInt64.toBitVec_inj.mp
  apply BitVec.eq_of_getLsbD_eq
  intro k hk
  split
  · rename_i hother
    simp only [if_pos hother] at hpersist hclear
    have hnot := inMask_not (svMask config c) k
    rw [decide_eq_true hk, Bool.true_and] at hnot
    -- a satellite is in one of the two masks
    cases hbit : inMask (some (svMask config c)) k with
    | true =>
      rw [hbit] at hnot
      exact (hpersist k hbit hnot).trans hbit.symm
    | false =>
      rw [hbit] at hnot
      exact (hclear k hbit hnot).trans hbit.symm
  · rename_i hsame
    simp only [if_neg hsame] at hothers
    exact hothers k rfl rfl

end

/-! ## Runs -/

/-- What `LocApiV02` does about blacklists.  A request may fail for the caller, because of a
timeout, and yet be `served`. -/
inductive SvEvent
  | gnssBandsSupported (primaryGnssSignalType : Option (BitVec 64))
  | setBlacklistSv (config : GnssSvIdConfig) (served : Bool)

structure SvState (M : Type) where
  mPreferredSvSystemType : GnssSvType
  modem : M

def blacklistStep {M : Type} (modem : BlacklistModem M) (s : SvState M) : SvEvent → SvState M
  | .gnssBandsSupported primary =>
    { s with mPreferredSvSystemType := preferredAfter s.mPreferredSvSystemType primary }
  | .setBlacklistSv config served =>
    if served then
      { s with
        modem := modem.setBlacklistSv s.modem (setBlacklistSvMsg s.mPreferredSvSystemType config) }
    else s

def allConstellations : List GnssConstellationType :=
  [.glonass, .qzss, .beidou, .galileo, .sbas, .navic, .gps]

/-- What an event says of the constellations, but the preferred one. -/
def SvEvent.writes (mPreferredSvSystemType : GnssSvType) :
    SvEvent → List (GnssConstellationType × UInt64)
  | .setBlacklistSv config true =>
    (allConstellations.filter fun c =>
      mPreferredSvSystemType ≠ constellationSvType c).map fun c => (c, svMask config c)
  | _ => []

/-- What the events say, one after the other. -/
def blacklistWrites (mPreferredSvSystemType : GnssSvType) :
    List SvEvent → List (GnssConstellationType × UInt64)
  | [] => []
  | .gnssBandsSupported primary :: es =>
      blacklistWrites (preferredAfter mPreferredSvSystemType primary) es
  | e :: es => e.writes mPreferredSvSystemType ++ blacklistWrites mPreferredSvSystemType es

open LastWrite

/-- One request says one thing of a constellation. -/
theorem lastValue_writes (mPreferredSvSystemType : GnssSvType) (config : GnssSvIdConfig)
    (c : GnssConstellationType) :
    lastValue Prod.fst Prod.snd c
        ((SvEvent.setBlacklistSv config true).writes mPreferredSvSystemType) =
      if mPreferredSvSystemType ≠ constellationSvType c then some (svMask config c) else none := by
  cases c <;> cases mPreferredSvSystemType <;> rfl

section
variable {M : Type} {modem : BlacklistModem M}

/-- **The blacklists over a run**: of each constellation the modem has what the last request that
it served said while another constellation was preferred. -/
theorem blacklist_run (hdoc : modem.Documented) (s : SvState M) (es : List SvEvent)
    (c : GnssConstellationType) :
    modem.blacklist (EventRun.run (blacklistStep modem) s es).modem c =
      (lastValue Prod.fst Prod.snd c (blacklistWrites s.mPreferredSvSystemType es)).getD
        (modem.blacklist s.modem c) := by
  induction es generalizing s with
  | nil => rfl
  | cons e es ih =>
    rw [EventRun.run_cons, ih]
    cases e with
    | gnssBandsSupported primary => rfl
    | setBlacklistSv config served =>
      cases served with
      | false => rfl
      | true =>
        have hset := blacklist_setBlacklistSv hdoc s.modem s.mPreferredSvSystemType config c
        have hwrites := lastValue_writes s.mPreferredSvSystemType config c
        simp only [blacklistStep, if_pos, blacklistWrites, lastValue_append, hset, hwrites]
        cases lastValue Prod.fst Prod.snd c (blacklistWrites s.mPreferredSvSystemType es) with
        | some mask => rfl
        | none => split <;> rfl

/-- **What is read is what was set last.**  After any run of requests and of changes of the
preferred constellation, a query reports of each constellation that the modem tells about the mask
of the last request that was served while another one was preferred, and of all others nothing. -/
theorem blacklist_reads_back (hdoc : modem.Documented) (s : SvState M) (es : List SvEvent)
    (c : GnssConstellationType) :
    let ind := modem.getBlacklistSv (EventRun.run (blacklistStep modem) s es).modem
    svMask (convertQmiBlacklistedSvConfigToGnssConfig ind) c =
      if (ind.sv c).isSome then
        (lastValue Prod.fst Prod.snd c (blacklistWrites s.mPreferredSvSystemType es)).getD
          (modem.blacklist s.modem c)
      else 0 := by
  intro ind
  rw [svMask_convertQmi]
  cases hind : ind.sv c with
  | none => rfl
  | some mask =>
    have htold := hdoc.told _ c mask hind
    rw [blacklist_run hdoc] at htold
    rw [htold]
    rfl

end

/-- A modem that keeps the masks and tells all of them. -/
def plainModem : BlacklistModem (GnssConstellationType → UInt64) where
  setBlacklistSv m req := fun c =>
    (m c &&& ~~~(req.sv c).clear_persist_blacklist_sv.getD 0) |||
      (req.sv c).persist_blacklist_sv.getD 0
  getBlacklistSv m :=
    { glo_persist_blacklist_sv := some (m .glonass)
      bds_persist_blacklist_sv := some (m .beidou)
      qzss_persist_blacklist_sv := some (m .qzss)
      gal_persist_blacklist_sv := some (m .galileo)
      sbas_persist_blacklist_sv := some (m .sbas)
      navic_persist_blacklist_sv := some (m .navic)
      gps_persist_blacklist_sv := some (m .gps) }
  blacklist m := m

theorem plainModem_documented : plainModem.Documented := by
  have hbit : ∀ (mask : Option UInt64) (k : Nat),
      (mask.getD 0).toBitVec.getLsbD k = inMask mask k := by
    intro mask k
    cases mask <;> simp [inMask]
  have hset : ∀ (m : GnssConstellationType → UInt64) (req : QmiLocSetBlacklistSvReqMsg)
      (c : GnssConstellationType) (k : Nat),
      (plainModem.blacklist (plainModem.setBlacklistSv m req) c).toBitVec.getLsbD k =
        ((m c).toBitVec.getLsbD k &&
            (decide (k < 64) && !inMask (req.sv c).clear_persist_blacklist_sv k) ||
          inMask (req.sv c).persist_blacklist_sv k) := by
    intro m req c k
    simp only [plainModem, UInt64.toBitVec_or, UInt64.toBitVec_and, UInt64.toBitVec_not,
      BitVec.getLsbD_or, BitVec.getLsbD_and, BitVec.getLsbD_not, hbit]
  constructor
  · intro m req c k hpersist _
    rw [hset, hpersist, Bool.or_true]
  · intro m req c k hpersist hclear
    simp [hset, hpersist, hclear]
  · intro m req c k hpersist hclear
    rw [hset, hpersist, hclear]
    by_cases hk : k < 64
    · simp [plainModem, hk]
    · simp [plainModem, BitVec.getLsbD_of_ge _ k (Nat.le_of_not_lt hk)]
  · intro m c mask htold
    cases c <;> exact (Option.some.inj htold).symm

/-- GPS is blacklisted, then preferred; what is said of it then is lost, what is said of Galileo
is read. -/
theorem blacklist_reads_back_sample :
    let s := EventRun.run (blacklistStep plainModem) ⟨.unknown, fun _ => 0⟩
      [.setBlacklistSv ⟨0, 0, 0, 2, 0, 0, 1⟩ true, .gnssBandsSupported (some 0x1),
        .setBlacklistSv ⟨0, 0, 0, 4, 0, 0, 0⟩ true]
    let config := convertQmiBlacklistedSvConfigToGnssConfig (plainModem.getBlacklistSv s.modem)
    svMask config .gps = 1 ∧ svMask config .galileo = 4 :=
  ⟨(blacklist_reads_back plainModem_documented ⟨.unknown, fun _ => 0⟩
      [.setBlacklistSv ⟨0, 0, 0, 2, 0, 0, 1⟩ true, .gnssBandsSupported (some 0x1),
        .setBlacklistSv ⟨0, 0, 0, 4, 0, 0, 0⟩ true] .gps).trans (by decide),
    (blacklist_reads_back plainModem_documented ⟨.unknown, fun _ => 0⟩
      [.setBlacklistSv ⟨0, 0, 0, 2, 0, 0, 1⟩ true, .gnssBandsSupported (some 0x1),
        .setBlacklistSv ⟨0, 0, 0, 4, 0, 0, 0⟩ true] .galileo).trans (by decide)⟩

/-! ## Constellations -/

/-- `qmiLocConstellationStatusEnumT_v02`; other numbers have no meaning. -/
inductive QmiLocConstellationStatus
  | enabledMandatory
  | enabledInternally
  | enabledByClient
  | disabledNotSupported
  | disabledInternally
  | disabledByClient
  | disabledNoMemory
  | unknown
  deriving DecidableEq

namespace QmiLocConstellationStatus

def enabled : QmiLocConstellationStatus → Bool
  | enabledMandatory | enabledInternally | enabledByClient => true
  | _ => false

def disabled : QmiLocConstellationStatus → Bool
  | disabledNotSupported | disabledInternally | disabledByClient | disabledNoMemory => true
  | _ => false

end QmiLocConstellationStatus

/-- `qmiLocGetConstellationConfigIndMsgT_v02`: the states that are valid. -/
structure QmiLocGetConstellationConfigIndMsg where
  (gps_status glonass_status bds_status : Option QmiLocConstellationStatus)
  (qzss_status galileo_status navic_status : Option QmiLocConstellationStatus)

def QmiLocGetConstellationConfigIndMsg.status (ind : QmiLocGetConstellationConfigIndMsg) :
    GnssSvTypesFlag → Option QmiLocConstellationStatus
  | .gps => ind.gps_status
  | .glo => ind.glonass_status
  | .bds => ind.bds_status
  | .qzss => ind.qzss_status
  | .gal => ind.galileo_status
  | .navic => ind.navic_status

/-- The size is set. -/
def convertToGnssSvTypeConfig (ind : QmiLocGetConstellationConfigIndMsg) : GnssSvTypeConfig where
  sizeIsZero := false
  enabledSvTypesMask f := (ind.status f).any QmiLocConstellationStatus.enabled
  blacklistedSvTypesMask f := (ind.status f).any QmiLocConstellationStatus.disabled

/-- `QMI_LOC_CONSTELLATION_…` -/
def qmiLocConstellation : GnssSvTypesFlag → BitVec 64
  | .glo => 0x01
  | .bds => 0x02
  | .qzss => 0x04
  | .gal => 0x08
  | .navic => 0x10
  | .gps => 0x20

/-- The `GnssSvType` of a constellation. -/
def flagSvType : GnssSvTypesFlag → GnssSvType
  | .glo => .glonass
  | .bds => .beidou
  | .qzss => .qzss
  | .gal => .galileo
  | .navic => .navic
  | .gps => .gps

/-- `qmiLocSetConstellationConfigReqMsgT_v02`: the masks that are valid. -/
structure QmiLocSetConstellationConfigReqMsg where
  resetConstellations : Bool
  (enableMask disableMask : Option (BitVec 64))

/-- `if (mPreferredSvSystemType != type)`: the bit of one constellation. -/
def disabledBit (mPreferredSvSystemType : GnssSvType) (blacklistedSvTypesMask : BitVec 64)
    (f : GnssSvTypesFlag) : BitVec 64 :=
  if mPreferredSvSystemType ≠ flagSvType f then qmiLocConstellation f &&& blacklistedSvTypesMask
  else 0

/-- The request of `setConstellationControl`.  `disableSupported` tells whether the modem has the
feature; `numbers` has the bits of the configuration, which the code takes for those of the
modem. -/
def setConstellationControlMsg (numbers : ConfigNumbers) (mPreferredSvSystemType : GnssSvType)
    (disableSupported : Bool) (config : GnssSvTypeConfig) : QmiLocSetConstellationConfigReqMsg :=
  let blacklisted := encodeGnssSvTypesMask numbers config.blacklistedSvTypesMask
  let disableMask :=
    if disableSupported then
      disabledBit mPreferredSvSystemType blacklisted .gps |||
        disabledBit mPreferredSvSystemType blacklisted .glo |||
        disabledBit mPreferredSvSystemType blacklisted .bds |||
        disabledBit mPreferredSvSystemType blacklisted .qzss |||
        disabledBit mPreferredSvSystemType blacklisted .gal |||
        disabledBit mPreferredSvSystemType blacklisted .navic
    else 0
  { resetConstellations := false
    disableMask := if disableSupported then some disableMask else none
    enableMask :=
      some ((qmiLocConstellation .gps ||| qmiLocConstellation .glo ||| qmiLocConstellation .bds |||
        qmiLocConstellation .qzss ||| qmiLocConstellation .gal ||| qmiLocConstellation .navic) &&&
          ~~~disableMask) }

namespace QmiLocSetConstellationConfigReqMsg

/-- The bit of the constellation is in the mask. -/
def names (mask : Option (BitVec 64)) (f : GnssSvTypesFlag) : Bool :=
  mask.any fun m => m &&& qmiLocConstellation f != 0

/-- As documented: a mask is valid only beside the other, and each bit is in one of them. -/
def WellFormed (msg : QmiLocSetConstellationConfigReqMsg) : Prop :=
  (msg.enableMask.isSome = true ∧ msg.disableMask.isSome = true) ∧
    ∀ f, names msg.enableMask f = !names msg.disableMask f

end QmiLocSetConstellationConfigReqMsg

open QmiLocSetConstellationConfigReqMsg

/-- The number of the bit. -/
def constellationBit : GnssSvTypesFlag → Nat
  | .glo => 0
  | .bds => 1
  | .qzss => 2
  | .gal => 3
  | .navic => 4
  | .gps => 5

theorem qmiLocConstellation_eq (f : GnssSvTypesFlag) :
    qmiLocConstellation f = 1#64 <<< constellationBit f := by
  cases f <;> rfl

theorem constellationBit_lt (f : GnssSvTypesFlag) : constellationBit f < 64 := by
  cases f <;> decide

theorem constellationBit_inj (f g : GnssSvTypesFlag) :
    constellationBit f = constellationBit g ↔ f = g := by
  cases f <;> cases g <;> decide

theorem getLsbD_qmiLocConstellation (f g : GnssSvTypesFlag) :
    (qmiLocConstellation g).getLsbD (constellationBit f) = decide (f = g) := by
  cases f <;> cases g <;> rfl

theorem names_some (w : BitVec 64) (f : GnssSvTypesFlag) :
    names (some w) f = w.getLsbD (constellationBit f) := by
  have hbit := BitMask.and_shiftLeft_eq_zero w (constellationBit_lt f)
  rw [names, Option.any_some, qmiLocConstellation_eq, Bool.eq_iff_iff, bne_iff_ne]
  exact (not_congr hbit).trans (Bool.not_eq_false _).to_iff

/-- The word of a mask has the bits of the modem. -/
theorem getLsbD_encode {numbers : ConfigNumbers} (hnum : numbers.SameAsMessage)
    (m : Flags GnssSvTypesFlag) (f : GnssSvTypesFlag) :
    (encodeGnssSvTypesMask numbers m).getLsbD (constellationBit f) = m f := by
  have hrow : (f, qmiLocConstellation f) ∈ gnssSvTypesFlags.rows := by cases f <;> decide
  have hbits := FlagTable.writeRows_and_ne_zero gnssSvTypesFlags.nonzero gnssSvTypesFlags.disjoint
    hrow m
  rw [← names_some, names, Option.any_some, encodeGnssSvTypesMask, hnum.gnssSvTypes,
    Bool.eq_iff_iff, bne_iff_ne]
  exact hbits

theorem getLsbD_disabledBit (mPreferredSvSystemType : GnssSvType) (w : BitVec 64)
    (f g : GnssSvTypesFlag) :
    (disabledBit mPreferredSvSystemType w g).getLsbD (constellationBit f) =
      (decide (f = g) && (decide (mPreferredSvSystemType ≠ flagSvType g) &&
        w.getLsbD (constellationBit f))) := by
  rw [disabledBit]
  split
  · rename_i hother
    rw [BitVec.getLsbD_and, getLsbD_qmiLocConstellation, decide_eq_true hother, Bool.true_and]
  · rename_i hsame
    rw [decide_eq_false hsame]
    simp

/-- **The two masks of the request**: a constellation is disabled if the configuration blacklists
it, the modem can disable constellations, and it is not the preferred one; else it is enabled. -/
theorem setConstellationControlMsg_names {numbers : ConfigNumbers} (hnum : numbers.SameAsMessage)
    (mPreferredSvSystemType : GnssSvType) (disableSupported : Bool) (config : GnssSvTypeConfig)
    (f : GnssSvTypesFlag) :
    let msg := setConstellationControlMsg numbers mPreferredSvSystemType disableSupported config
    names msg.disableMask f =
        (disableSupported && (decide (mPreferredSvSystemType ≠ flagSvType f) &&
          config.blacklistedSvTypesMask f)) ∧
      names msg.enableMask f =
        !(disableSupported && (decide (mPreferredSvSystemType ≠ flagSvType f) &&
          config.blacklistedSvTypesMask f)) := by
  have hlt := constellationBit_lt f
  cases disableSupported with
  | false =>
    simp only [setConstellationControlMsg, Bool.false_eq_true, if_false, names_some]
    refine ⟨rfl, ?_⟩
    cases f <;> rfl
  | true =>
    simp only [setConstellationControlMsg, if_true, names_some, BitVec.getLsbD_and,
      BitVec.getLsbD_or, BitVec.getLsbD_not, getLsbD_disabledBit, getLsbD_qmiLocConstellation,
      getLsbD_encode hnum, decide_eq_true hlt, Bool.true_and]
    cases f <;> simp

/-- **Constellations that are read and written back.**  Of the states that the modem reports, the
configuration has each constellation at most once, and has it exactly if its state is valid and
known.  The request made of a configuration is one that the modem heeds exactly if the feature is
there; and then the request made of what was reported disables what was reported as disabled, but
not the preferred constellation, and enables all others. -/
theorem constellations_written_back {numbers : ConfigNumbers} (hnum : numbers.SameAsMessage)
    (ind : QmiLocGetConstellationConfigIndMsg) (mPreferredSvSystemType : GnssSvType)
    (disableSupported : Bool) :
    let config := convertToGnssSvTypeConfig ind
    let msg := setConstellationControlMsg numbers mPreferredSvSystemType disableSupported config
    (∀ f, ¬ (config.enabledSvTypesMask f = true ∧ config.blacklistedSvTypesMask f = true)) ∧
    (∀ f, (config.enabledSvTypesMask f || config.blacklistedSvTypesMask f) = true ↔
      ∃ status, ind.status f = some status ∧ status ≠ .unknown) ∧
    (msg.WellFormed ↔ disableSupported = true) ∧
    (disableSupported = true → ∀ f,
      (names msg.disableMask f = true ↔
        config.blacklistedSvTypesMask f = true ∧ mPreferredSvSystemType ≠ flagSvType f) ∧
      (names msg.enableMask f = true ↔
        config.blacklistedSvTypesMask f = false ∨ mPreferredSvSystemType = flagSvType f)) := by
  intro config msg
  have hnames := setConstellationControlMsg_names hnum mPreferredSvSystemType disableSupported
    config
  refine ⟨fun f => ?_, fun f => ?_, ?_, ?_⟩
  · show ¬ ((ind.status f).any _ = true ∧ (ind.status f).any _ = true)
    cases ind.status f with
    | none => simp
    | some status => cases status <;> decide
  · show ((ind.status f).any _ || (ind.status f).any _) = true ↔ _
    cases ind.status f with
    | none => simp
    | some status => cases status <;> simp [QmiLocConstellationStatus.enabled,
        QmiLocConstellationStatus.disabled]
  · constructor
    · intro hformed
      cases disableSupported with
      | true => rfl
      | false => exact absurd hformed.1.2 (by simp [msg, setConstellationControlMsg])
    · rintro rfl
      refine ⟨⟨rfl, rfl⟩, fun f => ?_⟩
      rw [(hnames f).1, (hnames f).2]
  · rintro rfl f
    rw [(hnames f).1, (hnames f).2]
    cases config.blacklistedSvTypesMask f <;> simp

/-- Galileo and GPS are disabled and GPS is preferred: only Galileo is disabled again. -/
theorem constellations_written_back_sample :
    let ind : QmiLocGetConstellationConfigIndMsg :=
      ⟨some .disabledByClient, some .enabledInternally, some .enabledByClient, none,
        some .disabledByClient, some .unknown⟩
    let msg := setConstellationControlMsg .ofMessage .gps true (convertToGnssSvTypeConfig ind)
    msg.WellFormed ∧ names msg.disableMask .gal = true ∧ names msg.enableMask .gps = true := by
  intro ind msg
  obtain ⟨-, -, hformed, hmasks⟩ := constellations_written_back
    ConfigNumbers.ofMessage_sameAsMessage ind .gps true
  exact ⟨hformed.mpr rfl, (hmasks rfl .gal).1.mpr ⟨rfl, by decide⟩,
    (hmasks rfl .gps).2.mpr (Or.inr rfl)⟩

end LocationStack.LocApi
