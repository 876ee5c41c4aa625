import LocationStack.Integration.Impl

/-! # The configuration of a daemon

What the kinds of requests that are kept for a restart configure.  A message sets what it has, and
leaves the rest: some lever arms, some parameters of the dead-reckoning engine, the state of some
engines.  The configuration that a daemon is in is what the messages since its start have made of
that of a fresh daemon (`configOf`).

`Keeps` says that an object keeps a configuration: sent to a fresh daemon, what it has kept makes
that configuration again (`configOf_cachedConfig`).
-/
namespace LocationStack.Integration

open PbConv LocationIntegrationApiImpl

variable {h : Header}

/-! ## Settings by flag -/

section Overlay

variable {F β : Type}

/-- New values for the flags of a mask. -/
def overlay (mask : Flags F) (value : F → β) (old : F → Option β) : F → Option β :=
  fun f => if mask f then some (value f) else old f

/-- Masks one after the other, each with one value for its flags. -/
def overlays (old : F → Option β) (entries : List (Flags F × β)) : F → Option β :=
  entries.foldl (fun old it => overlay it.1 (fun _ => it.2) old) old

/-- Masks that agree with a setting make it, if they cover it. -/
theorem overlays_eq {entries : List (Flags F × β)} {setting : F → Option β}
    (hagree : ∀ it ∈ entries, ∀ f, it.1 f = true → setting f = some it.2) (old : F → Option β)
    (f : F) : overlays old entries f =
      if entries.any fun it => it.1 f then setting f else old f := by
  induction entries generalizing old with
  | nil => rfl
  | cons it entries ih =>
    rw [overlays, List.foldl_cons, ← overlays,
      ih (fun it' hit' => hagree it' (List.mem_cons_of_mem _ hit')), List.any_cons]
    by_cases hit : it.1 f = true
    · simp [overlay, hit, hagree it List.mem_cons_self f hit]
    · have hold : overlay it.1 (fun _ => it.2) old f = old f := if_neg hit
      rw [Bool.not_eq_true] at hit
      rw [hit, Bool.false_or, hold]

theorem overlay_none (mask : Flags F) (value : F → β) (old : F → Option β)
    (hcover : ∀ f, old f ≠ none → mask f = true) :
    overlay mask value old = overlay mask value fun _ => none := by
  funext f
  by_cases hf : mask f = true
  · simp only [overlay, hf, if_true]
  · have hold : old f = none := by_contra fun hne => hf (hcover f hne)
    simp only [overlay, hf, hold]

end Overlay

/-! ## Configurations -/

def LeverArmConfigInfo.params (configInfo : LeverArmConfigInfo) :
    LeverArmTypeFlag → LeverArmParams
  | .gnssToVrp => configInfo.gnssToVRP
  | .drImuToGnss => configInfo.drImuToGnss
  | .veppImuToGnss => configInfo.veppImuToGnss

/-- The mount parameters, or one of the factors and their uncertainties. -/
def DeadReckoningEngineConfig.value (dreConfig : DeadReckoningEngineConfig) :
    DeadReckoningEngineConfigValidFlag → BodyToSensorMountParams ⊕ Single
  | .bodyToSensorMountParams => .inl dreConfig.bodyToSensorMountParams
  | .vehicleSpeedScaleFactor => .inr dreConfig.vehicleSpeedScaleFactor
  | .vehicleSpeedScaleFactorUnc => .inr dreConfig.vehicleSpeedScaleFactorUnc
  | .gyroScaleFactor => .inr dreConfig.gyroScaleFactor
  | .gyroScaleFactorUnc => .inr dreConfig.gyroScaleFactorUnc

/-- What was configured last, where anything was. -/
@[ext] structure DaemonConfig where
  constellations : Option LocConfigSvConstellationReqMsg
  secondaryBand : Option GnssSvTypeConfig
  tunc : Option ConstrainedTunc
  pace : Option Bool
  leverArm : LeverArmTypeFlag → Option LeverArmParams
  robustLocation : Option RobustLocationReq
  dre : DeadReckoningEngineConfigValidFlag → Option (BodyToSensorMountParams ⊕ Single)
  userConsent : Option Bool
  nmeaTypes : Option OutputNmeaTypesReq
  engineRunState : PositioningEngineFlag → Option LocEngineRunState
  engineIntegrityRisk : PositioningEngineFlag → Option UInt32
  xtraStatusUpdate : Bool

namespace DaemonConfig

/-- Nothing is configured, and nobody is registered. -/
def fresh : DaemonConfig where
  constellations := none
  secondaryBand := none
  tunc := none
  pace := none
  leverArm := fun _ => none
  robustLocation := none
  dre := fun _ => none
  userConsent := none
  nmeaTypes := none
  engineRunState := fun _ => none
  engineIntegrityRisk := fun _ => none
  xtraStatusUpdate := false

/-- The configuration after a message. -/
def apply (config : DaemonConfig) : Payload h → DaemonConfig
  | .configSvConstellationReq msg => { config with constellations := some msg }
  | .configConstellationSecondaryBandReq mSecondaryBandConfig =>
    { config with secondaryBand := some mSecondaryBandConfig }
  | .configConstrainedTuncReq tunc => { config with tunc := some tunc }
  | .configPositionAssistedClockEstimatorReq mEnable => { config with pace := some mEnable }
  | .configLeverArmReq configInfo =>
    { config with
      leverArm := overlay configInfo.leverArmValidMask (LeverArmConfigInfo.params configInfo)
        config.leverArm }
  | .configRobustLocationReq req => { config with robustLocation := some req }
  | .configDrEngineParamsReq mDreConfig =>
    { config with
      dre := overlay mDreConfig.validMask (DeadReckoningEngineConfig.value mDreConfig)
        config.dre }
  | .configUserConsentTerrestrialPositioningReq mUserConsent =>
    { config with userConsent := some mUserConsent }
  | .configOutputNmeaTypesReq req => { config with nmeaTypes := some req }
  | .configEngineRunStateReq req =>
    { config with
      engineRunState := overlay req.mEngType (fun _ => req.mEngState) config.engineRunState }
  | .configEngineIntegrityRiskReq req =>
    { config with
      engineIntegrityRisk :=
        overlay req.mEngType (fun _ => req.mIntegrityRisk) config.engineIntegrityRisk }
  | .registerXtraStatusUpdateReq => { config with xtraStatusUpdate := true }
  | .deregisterXtraStatusUpdateReq => { config with xtraStatusUpdate := false }
  | _ => config

end DaemonConfig

/-- The configuration that the messages put a fresh daemon into. -/
def configOf (payloads : List (Payload h)) : DaemonConfig :=
  payloads.foldl DaemonConfig.apply .fresh

/-! ## What an object keeps -/

/-- The masks of a map agree with the setting of each engine, and cover it. -/
structure Covers {β : Type} (entries : List (Flags PositioningEngineFlag × β))
    (setting : PositioningEngineFlag → Option β) : Prop where
  agree : ∀ it ∈ entries, ∀ f, it.1 f = true → setting f = some it.2
  cover : ∀ f value, setting f = some value → ∃ it ∈ entries, it.1 f = true

/-- An object keeps a configuration. -/
structure Keeps (impl : LocationIntegrationApiImpl h) (config : DaemonConfig) : Prop where
  constellations : config.constellations =
    if impl.mSvConfigInfo.isValid then
      some ⟨impl.mSvConfigInfo.constellationEnablementConfig, impl.mSvConfigInfo.blacklistSvConfig⟩
    else none
  secondaryBand : config.secondaryBand =
    if impl.mSvConfigInfo.secondaryBandConfig.sizeIsZero = false then
      some impl.mSvConfigInfo.secondaryBandConfig
    else none
  tunc : config.tunc = impl.mTuncConfigInfo
  pace : config.pace = impl.mPaceConfigInfo
  leverArm : config.leverArm = overlay impl.mLeverArmConfigInfo.leverArmValidMask
    (LeverArmConfigInfo.params impl.mLeverArmConfigInfo) fun _ => none
  robustLocation : config.robustLocation = impl.mRobustLocationConfigInfo
  dre : config.dre = match impl.mDreConfigInfo with
    | none => fun _ => none
    | some dreConfig =>
      overlay dreConfig.validMask (DeadReckoningEngineConfig.value dreConfig) fun _ => none
  userConsent : config.userConsent = impl.mGtpUserConsentConfigInfo
  nmeaTypes : config.nmeaTypes = impl.mNmeaConfigInfo
  engineRunState :
    Covers (impl.mEngRunStateConfigMap.entries.map fun it => (it.1, it.2)) config.engineRunState
  engineIntegrityRisk :
    Covers (impl.mEngIntegrityRiskConfigMap.entries.map fun it => (it.1, it.2))
      config.engineIntegrityRisk
  xtraStatusUpdate : config.xtraStatusUpdate = impl.mRegisterXtraUpdate

theorem Keeps.new (mIntegrationCbs : LocIntegrationCbs) (sXtraTestEnabled : UInt32) :
    Keeps (.new mIntegrationCbs sXtraTestEnabled : LocationIntegrationApiImpl h) .fresh where
  constellations := rfl
  secondaryBand := rfl
  tunc := rfl
  pace := rfl
  leverArm := rfl
  robustLocation := rfl
  dre := rfl
  userConsent := rfl
  nmeaTypes := rfl
  engineRunState := ⟨fun _ hit => absurd hit List.not_mem_nil, nofun⟩
  engineIntegrityRisk := ⟨fun _ hit => absurd hit List.not_mem_nil, nofun⟩
  xtraStatusUpdate := rfl

/-! ## Sending it again -/

section Resending

variable (config : DaemonConfig)

theorem foldl_apply_runState
    (entries : List (Sigma fun _ : Flags PositioningEngineFlag => LocEngineRunState)) :
    ((entries.map fun it => ((.configEngineRunState, .configEngineRunStateReq ⟨it.1, it.2⟩) :
        LocConfigTypeEnum × Payload h)).map Prod.snd).foldl DaemonConfig.apply config =
      { config with
        engineRunState :=
          overlays config.engineRunState (entries.map fun it => (it.1, it.2)) } := by
  induction entries generalizing config with
  | nil => rfl
  | cons it entries ih =>
    rw [List.map_cons, List.map_cons, List.foldl_cons, ih]
    rfl

theorem foldl_apply_integrityRisk
    (entries : List (Sigma fun _ : Flags PositioningEngineFlag => UInt32)) :
    ((entries.map fun it => ((.configEngineIntegrityRisk,
        .configEngineIntegrityRiskReq ⟨it.1, it.2⟩) :
        LocConfigTypeEnum × Payload h)).map Prod.snd).foldl DaemonConfig.apply config =
      { config with
        engineIntegrityRisk :=
          overlays config.engineIntegrityRisk (entries.map fun it => (it.1, it.2)) } := by
  induction entries generalizing config with
  | nil => rfl
  | cons it entries ih =>
    rw [List.map_cons, List.map_cons, List.foldl_cons, ih]
    rfl

end Resending

theorem Covers.overlays {β : Type} {entries : List (Flags PositioningEngineFlag × β)}
    {setting : PositioningEngineFlag → Option β} (hcovers : Covers entries setting) :
    overlays (fun _ => none) entries = setting := by
  funext f
  rw [overlays_eq hcovers.agree]
  cases hset : setting f with
  | none => exact ite_self _
  | some value =>
    obtain ⟨it, hit, hf⟩ := hcovers.cover f value hset
    exact if_pos (List.any_eq_true.mpr ⟨it, hit, hf⟩)

theorem LeverArmConfigInfo.anyValid_iff (configInfo : LeverArmConfigInfo) :
    anyValid configInfo = true ↔ ∃ f, configInfo.leverArmValidMask f = true := by
  constructor
  · intro hany
    simp only [anyValid, Bool.or_eq_true] at hany
    obtain (hf | hf) | hf := hany <;> exact ⟨_, hf⟩
  · rintro ⟨f, hf⟩
    cases f <;> simp [anyValid, hf]

/-- A mask without a lever arm changes nothing. -/
theorem LeverArmConfigInfo.overlay_of_not_anyValid {configInfo : LeverArmConfigInfo}
    (hany : ¬ anyValid configInfo = true) (old : LeverArmTypeFlag → Option LeverArmParams) :
    overlay configInfo.leverArmValidMask (params configInfo) old = old :=
  funext fun f => if_neg fun hf => hany ((anyValid_iff configInfo).mpr ⟨f, hf⟩)

/-- Lists of messages one after the other, each with what it makes of a configuration. -/
theorem foldl_apply_flatten {lists : List (List (LocConfigTypeEnum × Payload h))}
    {updates : List (DaemonConfig → DaemonConfig)}
    (hupdates : List.Forall₂
      (fun messages update => ∀ config,
        (messages.map Prod.snd).foldl DaemonConfig.apply config = update config) lists updates)
    (config : DaemonConfig) :
    (lists.flatten.map Prod.snd).foldl DaemonConfig.apply config =
      updates.foldl (fun config update => update config) config := by
  induction hupdates generalizing config with
  | nil => rfl
  | cons hupdate _ ih =>
    rw [List.flatten_cons, List.map_append, List.foldl_append, hupdate, ih, List.foldl_cons]

/-- What the messages of each kind make of a configuration. -/
def restored (impl : LocationIntegrationApiImpl h) : List (DaemonConfig → DaemonConfig) :=
  [fun config => { config with
    constellations := if impl.mSvConfigInfo.isValid then
      some ⟨impl.mSvConfigInfo.constellationEnablementConfig, impl.mSvConfigInfo.blacklistSvConfig⟩
      else config.constellations },
  fun config => { config with
    secondaryBand := if impl.mSvConfigInfo.secondaryBandConfig.sizeIsZero = false then
      some impl.mSvConfigInfo.secondaryBandConfig else config.secondaryBand },
  fun config => { config with tunc := impl.mTuncConfigInfo.or config.tunc },
  fun config => { config with pace := impl.mPaceConfigInfo.or config.pace },
  fun config => { config with
    leverArm := overlay impl.mLeverArmConfigInfo.leverArmValidMask
      (LeverArmConfigInfo.params impl.mLeverArmConfigInfo) config.leverArm },
  fun config => { config with
    robustLocation := impl.mRobustLocationConfigInfo.or config.robustLocation },
  fun config => { config with
    dre := match impl.mDreConfigInfo with
      | none => config.dre
      | some dreConfig =>
        overlay dreConfig.validMask (DeadReckoningEngineConfig.value dreConfig) config.dre },
  fun config => { config with userConsent := impl.mGtpUserConsentConfigInfo.or config.userConsent },
  fun config => { config with nmeaTypes := impl.mNmeaConfigInfo.or config.nmeaTypes },
  fun config => { config with
    engineRunState := overlays config.engineRunState
      (impl.mEngRunStateConfigMap.entries.map fun it => (it.1, it.2)) },
  fun config => { config with
    engineIntegrityRisk := overlays config.engineIntegrityRisk
      (impl.mEngIntegrityRiskConfigMap.entries.map fun it => (it.1, it.2)) },
  fun config => { config with
    xtraStatusUpdate := impl.mRegisterXtraUpdate || config.xtraStatusUpdate }]

/-- **Each kind of messages makes its setting.** -/
theorem cachedMessages_restored (impl : LocationIntegrationApiImpl h) :
    List.Forall₂
      (fun messages update => ∀ config,
        (messages.map Prod.snd).foldl DaemonConfig.apply config = update config)
      impl.cachedMessages (restored impl) := by
  unfold cachedMessages restored
  refine .cons ?constellations <| .cons ?secondaryBand <| .cons ?tunc <| .cons ?pace <|
    .cons ?leverArm <| .cons ?robustLocation <| .cons ?dre <| .cons ?userConsent <|
    .cons ?nmeaTypes <| .cons ?engineRunState <| .cons ?engineIntegrityRisk <|
    .cons ?xtraStatusUpdate .nil
  all_goals intro config
  case constellations | secondaryBand => split <;> rfl
  case tunc => cases impl.mTuncConfigInfo <;> rfl
  case pace => cases impl.mPaceConfigInfo <;> rfl
  case robustLocation => cases impl.mRobustLocationConfigInfo <;> rfl
  case dre => cases impl.mDreConfigInfo <;> rfl
  case userConsent => cases impl.mGtpUserConsentConfigInfo <;> rfl
  case nmeaTypes => cases impl.mNmeaConfigInfo <;> rfl
  case xtraStatusUpdate => cases impl.mRegisterXtraUpdate <;> rfl
  case engineRunState => exact foldl_apply_runState config _
  case engineIntegrityRisk => exact foldl_apply_integrityRisk config _
  case leverArm =>
    by_cases hany : LeverArmConfigInfo.anyValid impl.mLeverArmConfigInfo = true
    · rw [if_pos hany]
      rfl
    · rw [if_neg hany]
      simp only [LeverArmConfigInfo.overlay_of_not_anyValid hany]
      rfl

/-- **What is kept makes the configuration again.** -/
theorem configOf_cachedConfig {impl : LocationIntegrationApiImpl h} {config : DaemonConfig}
    (hkeeps : Keeps impl config) :
    configOf (impl.cachedConfig.map Prod.snd) = config := by
  rw [configOf, cachedConfig, foldl_apply_flatten (cachedMessages_restored impl)]
  ext1
  case constellations => exact hkeeps.constellations.symm
  case secondaryBand => exact hkeeps.secondaryBand.symm
  case tunc => exact (Option.or_none).trans hkeeps.tunc.symm
  case pace => exact (Option.or_none).trans hkeeps.pace.symm
  case leverArm => exact hkeeps.leverArm.symm
  case robustLocation => exact (Option.or_none).trans hkeeps.robustLocation.symm
  case dre => exact hkeeps.dre.symm
  case userConsent => exact (Option.or_none).trans hkeeps.userConsent.symm
  case nmeaTypes => exact (Option.or_none).trans hkeeps.nmeaTypes.symm
  case engineRunState => exact hkeeps.engineRunState.overlays
  case engineIntegrityRisk => exact hkeeps.engineIntegrityRisk.overlays
  case xtraStatusUpdate => exact (Bool.or_false _).trans hkeeps.xtraStatusUpdate.symm

/-! ## Requests -/

/-- The request sets again whatever of its kind the object has kept. -/
def Request.KeptBy (impl : LocationIntegrationApiImpl h) : Request h → Prop
  | .configConstellationSecondaryBand secondaryBandConfig =>
    impl.mSvConfigInfo.isValid = true ∧ secondaryBandConfig.sizeIsZero = false
  | .configLeverArm configInfo =>
    ∀ f, impl.mLeverArmConfigInfo.leverArmValidMask f = true →
      configInfo.leverArmValidMask f = true
  | .configDeadReckoningEngineParams dreConfig =>
    ∀ kept ∈ impl.mDreConfigInfo, ∀ f, kept.validMask f = true → dreConfig.validMask f = true
  | .configEngineRunState engType engState =>
    ∀ it ∈ impl.mEngRunStateConfigMap.entries, it.1 ≠ engType →
      (∃ f, it.1 f = true ∧ engType f = true) → it.2 = engState
  | .configEngineIntegrityRisk engType integrityRisk =>
    ∀ it ∈ impl.mEngIntegrityRiskConfigMap.entries, it.1 ≠ engType →
      (∃ f, it.1 f = true ∧ engType f = true) → it.2 = integrityRisk
  | _ => True

/-- A new state of some engines is kept under their mask. -/
theorem Covers.insert {β : Type} {map : IdMap.Map (Flags PositioningEngineFlag) β}
    {setting : PositioningEngineFlag → Option β}
    (hcovers : Covers (map.entries.map fun it => (it.1, it.2)) setting)
    {engType : Flags PositioningEngineFlag} {value : β}
    (hkept : ∀ it ∈ map.entries, it.1 ≠ engType →
      (∃ f, it.1 f = true ∧ engType f = true) → it.2 = value) :
    Covers ((map.insert engType value).entries.map fun it => (it.1, it.2))
      (overlay engType (fun _ => value) setting) := by
  constructor
  · intro it hit f hf
    obtain ⟨e, he, rfl⟩ := List.mem_map.mp hit
    by_cases hnew : engType f = true
    · rw [overlay, if_pos hnew]
      rcases (IdMap.mem_entries_insert map engType value e).mp he with rfl | ⟨hne, hold⟩
      · rfl
      · exact congrArg some (hkept e hold hne ⟨f, hf, hnew⟩).symm
    · rw [overlay, if_neg hnew]
      rcases (IdMap.mem_entries_insert map engType value e).mp he with rfl | ⟨_, hold⟩
      · exact absurd hf hnew
      · exact hcovers.agree _ (List.mem_map.mpr ⟨e, hold, rfl⟩) f hf
  · intro f value' hset
    by_cases hnew : engType f = true
    · have hmem := (IdMap.mem_entries_insert map engType value ⟨engType, value⟩).mpr (Or.inl rfl)
      exact ⟨_, List.mem_map.mpr ⟨_, hmem, rfl⟩, hnew⟩
    · rw [overlay, if_neg hnew] at hset
      obtain ⟨it, hit, hf⟩ := hcovers.cover f value' hset
      obtain ⟨e, hold, rfl⟩ := List.mem_map.mp hit
      have hne : e.1 ≠ engType := fun heq => hnew (heq ▸ hf)
      have hmem := (IdMap.mem_entries_insert map engType value e).mpr (Or.inr ⟨hne, hold⟩)
      exact ⟨_, List.mem_map.mpr ⟨e, hmem, rfl⟩, hf⟩

/-- **A request is kept** with the configuration it makes. -/
theorem Keeps.cache {impl : LocationIntegrationApiImpl h} {config : DaemonConfig}
    (hkeeps : Keeps impl config) {request : Request h} (hkept : request.KeptBy impl)
    (sXtraTestEnabled : UInt32) :
    Keeps (impl.cache request) (config.apply (request.payload sXtraTestEnabled)) := by
  cases request with
  | configConstellations constellationEnablementConfig blacklistSvConfig =>
    exact { hkeeps with constellations := rfl }
  | configConstellationSecondaryBand secondaryBandConfig =>
    obtain ⟨hvalid, hsize⟩ := hkept
    have hconstellations := hkeeps.constellations
    rw [if_pos hvalid] at hconstellations
    exact { hkeeps with
      constellations := hconstellations
      secondaryBand := (if_pos hsize).symm }
  | configConstrainedTimeUncertainty enable tuncThreshold energyBudget =>
    exact { hkeeps with tunc := rfl }
  | configPositionAssistedClockEstimator enable => exact { hkeeps with pace := rfl }
  | configLeverArm configInfo =>
    refine { hkeeps with leverArm := overlay_none _ _ _ fun f hf => hkept f ?_ }
    rw [hkeeps.leverArm] at hf
    exact by_contra fun hmask => hf (if_neg hmask)
  | configRobustLocation enable enableForE911 => exact { hkeeps with robustLocation := rfl }
  | configDeadReckoningEngineParams dreConfig =>
    refine { hkeeps with dre := overlay_none _ _ _ fun f hf => ?_ }
    rw [hkeeps.dre] at hf
    cases hdre : impl.mDreConfigInfo with
    | none =>
      rw [hdre] at hf
      exact absurd rfl hf
    | some kept =>
      rw [hdre] at hf
      exact hkept kept hdre f (by_contra fun hmask => hf (if_neg hmask))
  | configEngineRunState engType engState =>
    exact { hkeeps with engineRunState := hkeeps.engineRunState.insert hkept }
  | setUserConsentForTerrestrialPositioning userConsent =>
    exact { hkeeps with userConsent := rfl }
  | configOutputNmeaTypes enabledNmeaTypes nmeaDatumType locReqEngMask =>
    exact { hkeeps with nmeaTypes := rfl }
  | configEngineIntegrityRisk engType integrityRisk =>
    exact { hkeeps with engineIntegrityRisk := hkeeps.engineIntegrityRisk.insert hkept }
  | registerXtraStatusUpdate registerUpdate =>
    cases registerUpdate <;> exact { hkeeps with xtraStatusUpdate := rfl }
  | _ => exact { hkeeps with }

end LocationStack.Integration
