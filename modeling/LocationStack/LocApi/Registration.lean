import LocationStack.LocApi.Client

/-! # The registered events

`mQmiMask` should be the mask that the modem has registered, and, unless a registration failed, the
mask that the reports asked for, the session, the engine and the power state call for.  The state
of the engine is registered while requests wait for it and the device is not suspended, and no
longer than that.

The mask is registered anew by most events, and by one that makes a request wait it is not: the
engine's state is added to what the modem has, or not even that, and `mQmiMask` stays.  So an event
goes wrong when a request has to wait and the engine's state is not registered before (`BusyClean`);
when a registration that changes the engine's state fails (`RegisterClean`); and in two rarer cases
(`Clean`).
-/
namespace LocationStack.LocApi

open EventRun

/-! ## The property -/

namespace Sys

variable (platform : Platform) (answers : Nat → Answer)

/-- The engine's state is in a mask as long as requests wait for it. -/
structure EngineKept (s : Sys) (mask : LocClientEventMaskType) : Prop where
  waiting : s.api.mResenders ≠ [] → s.api.mPlatformPowerState.isSuspended = false →
    mask .engineState = true
  idle : s.api.mResenders = [] → s.qmiMask platform .engineState = false →
    mask .engineState = false

/-- The registered events follow the mask. -/
structure Follows (s : Sys) : Prop where
  registered : s.registered = s.api.mQmiMask
  current : s.regFailed = false → s.api.mQmiMask = s.qmiMask platform
  engine : s.EngineKept platform s.registered

/-! ## The condition -/

/-- Whether a request that has to wait now makes the modem register the engine's state. -/
def registersEngine (s : Sys) : Bool :=
  s.needsEngineState && answers (s.sent + 1) == .accepted

/-- A request has to wait only where the engine's state is registered, and with it what is
registered, or where the device is suspended. -/
def BusyClean (s : Sys) : Prop :=
  answers s.sent = .engineBusy →
    s.api.mPlatformPowerState.isSuspended = true ∨
      s.registered .engineState = true ∧ s.registersEngine answers = false

/-- The requests that go with a new mask. -/
def InformClean (s : Sys) (qmiMask : LocClientEventMaskType) : Prop :=
  let wifi := qmiMask .wifiReq && !s.api.mQmiMask .wifiReq
  (wifi = true → s.BusyClean answers) ∧
    ((platform.isMaster &&
        qmiMask .gnssSvPolynomialReport != s.api.mQmiMask .gnssSvPolynomialReport) = true →
      (if wifi then s.wifiStatusInformSync answers else s).BusyClean answers)

/-- A registration that fails leaves the engine's state as it should be. -/
def RegisterClean (s : Sys) : Prop :=
  if s.qmiMask platform ≠ s.api.mQmiMask ∧ answers s.sent = .accepted then
    (s.locClientRegisterEventMask answers (s.qmiMask platform)).2.InformClean platform answers
      (s.qmiMask platform)
  else s.registered = s.api.mQmiMask ∧ s.EngineKept platform s.api.mQmiMask

/-- What an event must not come with: what the modem supports is found out, and an engine that is
on does not call for another mask. -/
def ActClean (s : Sys) : Event → Prop
  | .openMask mask batching capabilities =>
    let opened := s.beforeRegister platform answers batching capabilities
    opened.2.api.clientHandle = true →
      opened.1 = true ∧ (opened.2.setMask mask).RegisterClean platform answers
  | .close => True
  | .startTimeBasedTracking _ =>
    s.api.clientHandle = true →
      (s.setInSession true).RegisterClean platform answers ∧
        ((s.setInSession true).registerEventMask platform answers).BusyClean answers
  | .stopTimeBasedTracking =>
    s.api.clientHandle = true → answers s.sent = .accepted →
      ((s.locClientSendReq answers).2.setInSession false).RegisterClean platform answers
  | .engineState true =>
    s.api.clientHandle = true →
      (s.reportEngineState platform answers true).qmiMask platform = s.qmiMask platform
  | .engineState false =>
    s.api.clientHandle = true → (s.flushed answers).RegisterClean platform answers
  | .powerState newPowerState =>
    s.api.clientHandle = true → (s.setPowerState newPowerState).RegisterClean platform answers
  | .request _ => s.api.clientHandle = true → s.BusyClean answers

/-- The events after which the registered events follow the mask. -/
def Clean (s : Sys) (e : Event) : Prop :=
  ({ s with regFailed := false } : Sys).ActClean platform answers e

end Sys

/-! ## Masks -/

section Masks

variable {platform : Platform} {capabilities : Capabilities} (state : MaskState)
  (qmiMask : LocClientEventMaskType)

/-- A request that waits calls for the engine's state only. -/
theorem adjust_waiting (hengine : state.mPlatformPowerState.isSuspended = true ∨
      adjustLocClientEventMask platform capabilities state qmiMask .engineState = true) :
    adjustLocClientEventMask platform capabilities { state with waiting := true } qmiMask =
      adjustLocClientEventMask platform capabilities state qmiMask := by
  funext event
  cases event with
  | engineState =>
    rcases hengine with hsuspended | hengine
    · simp [adjustLocClientEventMask, hsuspended]
    · rw [hengine]
      simp only [adjustLocClientEventMask, Bool.and_eq_true, Bool.or_eq_true] at hengine ⊢
      exact ⟨hengine.1, Or.inr trivial⟩
  | _ => rfl

theorem adjust_engineState_of_waiting (hwaiting : state.waiting = true)
    (hpower : state.mPlatformPowerState.isSuspended = false) :
    adjustLocClientEventMask platform capabilities state qmiMask .engineState = true := by
  simp [adjustLocClientEventMask, hwaiting, hpower]

end Masks

namespace Sys

variable {platform : Platform} {answers : Nat → Answer}

theorem engineKept_qmiMask (s : Sys) : s.EngineKept platform (s.qmiMask platform) where
  waiting := fun hwaiting hpower =>
    adjust_engineState_of_waiting _ _ (by simpa [maskState] using hwaiting) hpower
  idle := fun _ hengine => hengine

/-! ## Requests -/

/-- What a step leaves alone that registers nothing. -/
structure Same (platform : Platform) (s s' : Sys) : Prop where
  clientHandle : s'.api.clientHandle = s.api.clientHandle
  mQmiMask : s'.api.mQmiMask = s.api.mQmiMask
  registered : s'.registered = s.registered
  qmiMask : s'.qmiMask platform = s.qmiMask platform

theorem Same.refl (s : Sys) : Same platform s s := ⟨rfl, rfl, rfl, rfl⟩

theorem Same.trans {s s' s'' : Sys} (h : Same platform s s')
    (h' : Same platform s' s'') : Same platform s s'' where
  clientHandle := h'.clientHandle.trans h.clientHandle
  mQmiMask := h'.mQmiMask.trans h.mQmiMask
  registered := h'.registered.trans h.registered
  qmiMask := h'.qmiMask.trans h.qmiMask

variable (answers) in
/-- What the temporary registration leaves alone, if it is none or fails. -/
theorem locClientRegisterEventMask_spec (s : Sys) (mask : LocClientEventMaskType) :
    let s' := (s.locClientRegisterEventMask answers mask).2
    let ok := s.api.clientHandle && answers s.sent == .accepted
    (s.locClientRegisterEventMask answers mask).1 = ok ∧ s'.api = s.api ∧
      s'.capabilities = s.capabilities ∧ s'.sent = s.sent + 1 ∧
      s'.registered = (if ok then mask else s.registered) ∧
      s'.regFailed = (s.regFailed || !ok) := by
  intro s' ok
  have hok :
      ((if s.api.clientHandle then answers s.sent else .failed) == Answer.accepted) = ok := by
    cases hhandle : s.api.clientHandle <;> simp [ok, hhandle]
  simp only [s', locClientRegisterEventMask, locClientSendReq, send, hok, and_self]

theorem syncSendReq_spec (s : Sys) (r : Request) :
    let s' := (s.syncSendReq answers r).2
    (s.syncSendReq answers r).1 =
        (if s.api.clientHandle then answers s.sent else .failed) ∧ s'.api = s.api ∧
      s'.capabilities = s.capabilities ∧ s'.sent = s.sent + 1 ∧
      s'.registered = s.registered ∧ s'.regFailed = s.regFailed := ⟨rfl, rfl, rfl, rfl, rfl, rfl⟩

theorem locSyncSendReq_of_not_busy {s : Sys}
    (hanswer : s.api.clientHandle = true → answers s.sent ≠ .engineBusy) (r : Request) :
    let s' := (s.locSyncSendReq answers r).2
    s'.api = s.api ∧ s'.capabilities = s.capabilities ∧ s'.registered = s.registered ∧
      s'.regFailed = s.regFailed := by
  intro s'
  have hsync : (s.syncSendReq answers r).1 ≠ .engineBusy := by
    rw [(s.syncSendReq_spec r).1]
    cases hhandle : s.api.clientHandle with
    | false => exact nofun
    | true => exact hanswer hhandle
  simp only [s', locSyncSendReq]
  split
  · exact absurd (by assumption) hsync
  · exact ⟨rfl, rfl, rfl, rfl⟩
  · exact ⟨rfl, rfl, rfl, rfl⟩
  · exact ⟨rfl, rfl, rfl, rfl⟩

theorem locSyncSendReq_of_busy {s : Sys} (hhandle : s.api.clientHandle = true)
    (hanswer : answers s.sent = .engineBusy) (r : Request) :
    let s' := (s.locSyncSendReq answers r).2
    s'.api = { s.api with mResenders := s.api.mResenders ++ [r] } ∧
      s'.capabilities = s.capabilities ∧
      s'.registered = (if s.registersEngine answers then addEvent .engineState s.api.mQmiMask
        else s.registered) ∧ (s.regFailed = true → s'.regFailed = true) := by
  intro s'
  have hsync : (s.syncSendReq answers r).1 = .engineBusy := by
    rw [(s.syncSendReq_spec r).1, if_pos hhandle, hanswer]
  simp only [s', locSyncSendReq, hsync]
  split
  · case isTrue htemp =>
    obtain ⟨-, hapi, hcapabilities, -, hregistered, hfailed⟩ :=
      (s.syncSendReq answers r).2.locClientRegisterEventMask_spec answers
        (addEvent .engineState (s.syncSendReq answers r).2.api.mQmiMask)
    refine ⟨by rw [hapi]; rfl, hcapabilities, hregistered.trans ?_, fun h => ?_⟩
    · have htemp' : s.registersEngine answers = (answers (s.sent + 1) == .accepted) := by
        rw [registersEngine, show s.needsEngineState = true from htemp, Bool.true_and]
      rw [htemp', show (s.syncSendReq answers r).2.api.clientHandle = true from hhandle,
        Bool.true_and]
      rfl
    · rw [hfailed, show (s.syncSendReq answers r).2.regFailed = true from h]
      rfl
  · case isFalse htemp =>
    have htemp' : s.registersEngine answers = false := by
      rw [registersEngine, Bool.eq_false_iff.mpr (show ¬ s.needsEngineState = true from htemp),
        Bool.false_and]
    refine ⟨rfl, rfl, ?_, id⟩
    rw [htemp', if_neg Bool.false_ne_true]
    rfl

/-- **A request changes nothing that is registered**, if it has to wait only where it may. -/
theorem locSyncSendReq_spec {s : Sys} (hkept : s.EngineKept platform s.registered)
    (hbusy : s.api.clientHandle = true → s.BusyClean answers) (r : Request) :
    let s' := (s.locSyncSendReq answers r).2
    Same platform s s' ∧ s'.EngineKept platform s'.registered ∧
      (s.regFailed = true → s'.regFailed = true) := by
  intro s'
  by_cases hanswer : s.api.clientHandle = true ∧ answers s.sent = .engineBusy
  · obtain ⟨hhandle, hanswer⟩ := hanswer
    obtain ⟨hapi, hcapabilities, hregistered, hfailed⟩ := locSyncSendReq_of_busy hhandle hanswer r
    have hclean := hbusy hhandle hanswer
    have hregistered' : s'.registered = s.registered := by
      refine hregistered.trans (if_neg (Bool.eq_false_iff.mp ?_))
      rcases hclean with hsuspended | ⟨-, hno⟩
      · rw [registersEngine, needsEngineState]
        cases hpower : s.api.mPlatformPowerState <;> rw [hpower] at hsuspended <;>
          first | rfl | cases hsuspended
      · exact hno
    have hmask : s'.qmiMask platform = s.qmiMask platform := by
      have hne : (s.api.mResenders ++ [r]).isEmpty = false := by
        cases s.api.mResenders <;> rfl
      have hengine : s.api.mPlatformPowerState.isSuspended = true ∨
          s.qmiMask platform .engineState = true := by
        rw [or_iff_not_imp_left, Bool.not_eq_true]
        intro hpower
        by_cases hwaiting : s.api.mResenders = []
        · by_contra hno
          have hidle := hkept.idle hwaiting (Bool.not_eq_true _ ▸ hno)
          rcases hclean with hsuspended | ⟨hengine, -⟩
          · exact absurd (hsuspended.symm.trans hpower) nofun
          · exact absurd (hengine.symm.trans hidle) nofun
        · exact s.engineKept_qmiMask.waiting hwaiting hpower
      rw [qmiMask, maskState, hapi, hcapabilities]
      simp only [hne, Bool.not_false]
      exact adjust_waiting s.maskState _ hengine
    refine ⟨⟨by rw [hapi], by rw [hapi], hregistered', hmask⟩, ⟨fun _ hpower => ?_, ?_⟩, hfailed⟩
    · rw [hapi] at hpower
      rw [hregistered']
      rcases hclean with hsuspended | ⟨hengine, -⟩
      · exact absurd (hsuspended.symm.trans hpower) nofun
      · exact hengine
    · rw [hapi]
      intro hnil
      exact absurd hnil (List.append_ne_nil_of_right_ne_nil _ (List.cons_ne_nil _ _))
  · obtain ⟨hapi, hcapabilities, hregistered, hfailed⟩ :=
      locSyncSendReq_of_not_busy (fun hhandle h => hanswer ⟨hhandle, h⟩) r
    have hmask : s'.qmiMask platform = s.qmiMask platform := by
      rw [qmiMask, maskState, hapi, hcapabilities]
      rfl
    refine ⟨⟨by rw [hapi], by rw [hapi], hregistered, hmask⟩, ⟨?_, ?_⟩, fun h => hfailed.trans h⟩
    · rw [hapi, hregistered]
      exact hkept.waiting
    · rw [hapi, hregistered, hmask]
      exact hkept.idle

/-! ## Registration -/

theorem informModem_spec {s : Sys} (hkept : s.EngineKept platform s.registered)
    {mask : LocClientEventMaskType} (hclean : s.InformClean platform answers mask) :
    let s' := s.informModem platform answers mask
    Same platform s s' ∧ s'.EngineKept platform s'.registered := by
  obtain ⟨hwifi, hpoly⟩ := hclean
  -- The state after the first request, if there is one.
  have hfirst : ∃ s₁, s₁ = (if mask .wifiReq && !s.api.mQmiMask .wifiReq then
      s.wifiStatusInformSync answers else s) ∧ Same platform s s₁ ∧
        s₁.EngineKept platform s₁.registered := by
    refine ⟨_, rfl, ?_⟩
    split
    · case isTrue h =>
      obtain ⟨hsame, hkept', -⟩ := locSyncSendReq_spec hkept (fun _ => hwifi h) .notifyWifiStatus
      exact ⟨hsame, hkept'⟩
    · exact ⟨.refl s, hkept⟩
  obtain ⟨s₁, hs₁, hsame, hkept₁⟩ := hfirst
  simp only [informModem]
  rw [← hs₁] at hpoly ⊢
  split
  · case isTrue h =>
    obtain ⟨hsame', hkept', -⟩ := locSyncSendReq_spec hkept₁ (fun _ => hpoly h)
      (.setGnssConstRepConfig _ _)
    exact ⟨hsame.trans hsame', hkept'⟩
  · exact ⟨hsame, hkept₁⟩

variable (platform answers) in
/-- **The mask is registered**, or was, or the engine's state is registered as it should be. -/
theorem registerEventMask_spec {s : Sys}
    (hclean : s.api.clientHandle = true → s.RegisterClean platform answers) :
    let s' := s.registerEventMask platform answers
    s'.api.clientHandle = s.api.clientHandle ∧
      (s.api.clientHandle = true → s'.Follows platform) := by
  intro s'
  have hs' : s' = s.registerEventMask platform answers := rfl
  rw [registerEventMask] at hs'
  simp only [] at hs'
  obtain ⟨hok, hapi, hcapabilities, -, hregistered, hfailed⟩ :=
    s.locClientRegisterEventMask_spec answers (s.qmiMask platform)
  generalize hmid : (s.locClientRegisterEventMask answers (s.qmiMask platform)).2 = mid at *
  have hmask : mid.qmiMask platform = s.qmiMask platform := by
    rw [qmiMask, maskState, hapi, hcapabilities]
    rfl
  split at hs'
  · case isTrue hsame =>
    refine ⟨by rw [hs'], fun hhandle => ?_⟩
    have hclean' := hclean hhandle
    rw [RegisterClean, if_neg fun h => h.1 hsame] at hclean'
    obtain ⟨hregistered', hkept⟩ := hclean'
    rw [hs']
    exact ⟨hregistered', fun _ => hsame.symm, hregistered'.symm ▸ hkept⟩
  · case isFalse hchanged =>
    cases hsent : (s.locClientRegisterEventMask answers (s.qmiMask platform)).1 with
    | false =>
      -- The modem keeps what it has.
      rw [hsent, if_neg Bool.false_ne_true] at hs'
      rw [← hok, hsent] at hregistered hfailed
      refine ⟨by rw [hs', hapi], fun hhandle => ?_⟩
      have hclean' := hclean hhandle
      rw [hsent, hhandle, Bool.true_and, eq_comm, beq_eq_false_iff_ne] at hok
      rw [RegisterClean, if_neg fun h => hok h.2] at hclean'
      obtain ⟨hregistered', hkept⟩ := hclean'
      rw [hs']
      refine ⟨?_, fun h => absurd (hfailed.symm.trans h) (by simp), ?_, ?_⟩
      · rw [hregistered, hapi]
        exact hregistered'
      · rw [hregistered, hapi]
        exact hregistered'.symm ▸ hkept.waiting
      · rw [hregistered, hapi, hmask]
        exact hregistered'.symm ▸ hkept.idle
    | true =>
      -- The modem has the mask, and the requests that go with it keep it.
      rw [hsent, if_pos rfl] at hs'
      rw [← hok, hsent, if_pos rfl] at hregistered
      rw [hsent, eq_comm, Bool.and_eq_true, beq_iff_eq] at hok
      obtain ⟨hhandle, haccepted⟩ := hok
      have hclean' := hclean hhandle
      rw [RegisterClean, if_pos ⟨hchanged, haccepted⟩, hmid] at hclean'
      have hkept : mid.EngineKept platform mid.registered := by
        rw [hregistered, ← hmask]
        exact mid.engineKept_qmiMask
      obtain ⟨hsame, hkept'⟩ := informModem_spec hkept hclean'
      generalize mid.informModem platform answers (s.qmiMask platform) = informed at *
      rw [hs']
      refine ⟨hsame.clientHandle.trans (congrArg _ hapi), fun _ => ⟨?_, fun _ => ?_, ?_⟩⟩
      · exact hsame.registered.trans hregistered
      · exact (hsame.qmiMask.trans hmask).symm
      · exact ⟨hkept'.waiting, hkept'.idle⟩

/-! ## Events -/

/-- What an event makes of a client that follows the mask. -/
structure Acted (platform : Platform) (s s' : Sys) : Prop where
  registered : s'.registered = s'.api.mQmiMask
  current : s'.regFailed = false → s'.api.mQmiMask = s'.qmiMask platform ∨
    s.api.clientHandle = true ∧ s'.qmiMask platform = s.qmiMask platform ∧
      s'.api.mQmiMask = s.api.mQmiMask
  engine : s'.EngineKept platform s'.registered

theorem Follows.acted {s s' : Sys} (h : s'.Follows platform) : Acted platform s s' :=
  ⟨h.registered, fun hfailed => Or.inl (h.current hfailed), h.engine⟩

/-- An event that registers nothing. -/
theorem Same.acted {s s' : Sys} (hsame : Same platform s s') (hhandle : s.api.clientHandle = true)
    (hregistered : s.registered = s.api.mQmiMask)
    (hkept : s'.EngineKept platform s'.registered) : Acted platform s s' where
  registered := hsame.registered.trans (hregistered.trans hsame.mQmiMask.symm)
  current := fun _ => Or.inr ⟨hhandle, hsame.qmiMask, hsame.mQmiMask⟩
  engine := hkept

theorem act_openMask {s : Sys} {mask : Flags LocApiAdapterBit} {batching : Bool}
    {capabilities : Capabilities}
    (hclean : s.ActClean platform answers (.openMask mask batching capabilities)) :
    let s' := s.openMask platform answers mask batching capabilities
    s'.api.clientHandle = true → s'.Follows platform := by
  intro s' hhandle
  have hs' : s' = s.openMask platform answers mask batching capabilities := rfl
  simp only [openMask] at hs'
  cases hok : (s.beforeRegister platform answers batching capabilities).1 with
  | false =>
    rw [hok, if_neg Bool.false_ne_true] at hs'
    rw [hs'] at hhandle
    exact absurd (hok.symm.trans (hclean hhandle).1) nofun
  | true =>
    rw [hok, if_pos rfl] at hs'
    obtain ⟨hsame, hfollows⟩ := registerEventMask_spec platform answers
      (s := (s.beforeRegister platform answers batching capabilities).2.setMask mask)
      fun h => (hclean h).2
    rw [hs'] at hhandle ⊢
    exact hfollows (hsame.symm.trans hhandle)

theorem locSyncSendReq_clientHandle (s : Sys) (r : Request) :
    (s.locSyncSendReq answers r).2.api.clientHandle = s.api.clientHandle := by
  by_cases hanswer : s.api.clientHandle = true ∧ answers s.sent = .engineBusy
  · rw [(locSyncSendReq_of_busy hanswer.1 hanswer.2 r).1]
  · rw [(locSyncSendReq_of_not_busy (fun hhandle h => hanswer ⟨hhandle, h⟩) r).1]

theorem Follows.locSyncSendReq {s : Sys} (h : s.Follows platform)
    (hbusy : s.api.clientHandle = true → s.BusyClean answers) (r : Request) :
    (s.locSyncSendReq answers r).2.Follows platform := by
  obtain ⟨hsame, hkept, hfailed⟩ := locSyncSendReq_spec h.engine hbusy r
  refine ⟨hsame.registered.trans (h.registered.trans hsame.mQmiMask.symm), fun hno => ?_, hkept⟩
  have hno' : s.regFailed = false := by
    by_contra hfail
    rw [Bool.not_eq_false] at hfail
    exact absurd ((hfailed hfail).symm.trans hno) nofun
  rw [hsame.mQmiMask, hsame.qmiMask]
  exact h.current hno'

theorem act_startTimeBasedTracking {s : Sys} {mode : GnssSuplMode}
    (hclean : s.ActClean platform answers (.startTimeBasedTracking mode)) :
    let s' := s.startTimeBasedTracking platform answers mode
    s'.api.clientHandle = true → s'.Follows platform := by
  intro s' hhandle
  obtain ⟨hsame, hfollows⟩ := registerEventMask_spec platform answers
    (s := s.setInSession true) fun h => (hclean h).1
  have hhandle' : s.api.clientHandle = true :=
    hsame.symm.trans ((locSyncSendReq_clientHandle _ _).symm.trans hhandle)
  have hrequest := (hfollows hhandle').locSyncSendReq (fun _ => (hclean hhandle').2)
    (.setOperationMode mode)
  exact ⟨hrequest.registered, hrequest.current, hrequest.engine.waiting, hrequest.engine.idle⟩

theorem resend_api (s : Sys) (requests : List Request) :
    (s.resend answers requests).api = s.api := by
  induction requests generalizing s with
  | nil => rfl
  | cons r rest ih =>
    rw [resend]
    exact ih _

theorem flushed_clientHandle (s : Sys) :
    (s.flushed answers).api.clientHandle = s.api.clientHandle := by
  show (s.resend answers s.api.mResenders).api.clientHandle = _
  rw [resend_api]

/-- **An event keeps what the modem has** in step with the mask. -/
theorem act_spec {s : Sys} {e : Event}
    (hregistered : s.api.clientHandle = true → s.registered = s.api.mQmiMask)
    (hkept : s.api.clientHandle = true → s.EngineKept platform s.registered)
    (hclean : s.ActClean platform answers e) :
    (s.act platform answers e).api.clientHandle = true →
      Acted platform s (s.act platform answers e) := by
  intro hhandle
  cases e with
  | openMask mask batching capabilities => exact (act_openMask hclean hhandle).acted
  | close => exact absurd hhandle nofun
  | startTimeBasedTracking mode => exact (act_startTimeBasedTracking hclean hhandle).acted
  | stopTimeBasedTracking =>
    simp only [act, stopTimeBasedTracking] at hhandle ⊢
    split at hhandle
    · case isTrue hsent =>
      rw [if_pos hsent]
      obtain ⟨hsame, hfollows⟩ := registerEventMask_spec platform answers
        (s := (s.locClientSendReq answers).2.setInSession false)
        fun h => hclean h (by
          have hhandle' : s.api.clientHandle = true := h
          simpa [locClientSendReq, send, hhandle'] using hsent)
      exact (hfollows (hsame.symm.trans hhandle)).acted
    · case isFalse hsent =>
      rw [if_neg hsent]
      have hsame : Same platform s (s.locClientSendReq answers).2 := ⟨rfl, rfl, rfl, rfl⟩
      have hkept' := hkept hhandle
      exact hsame.acted hhandle (hregistered hhandle) ⟨hkept'.waiting, hkept'.idle⟩
  | engineState engineOn =>
    cases engineOn with
    | true =>
      have hmask := hclean hhandle
      have hkept' := hkept hhandle
      have hsame : Same platform s (s.reportEngineState platform answers true) :=
        ⟨rfl, rfl, rfl, hmask⟩
      exact hsame.acted hhandle (hregistered hhandle)
        ⟨hkept'.waiting, by rw [hmask]; exact hkept'.idle⟩
    | false =>
      obtain ⟨hsame, hfollows⟩ := registerEventMask_spec platform answers
        (s := s.flushed answers) fun h => hclean (by
          rwa [flushed_clientHandle] at h)
      exact (hfollows (hsame.symm.trans hhandle)).acted
  | powerState newPowerState =>
    obtain ⟨hsame, hfollows⟩ := registerEventMask_spec platform answers
      (s := s.setPowerState newPowerState) hclean
    exact (hfollows (hsame.symm.trans hhandle)).acted
  | request r =>
    have hhandle' := (locSyncSendReq_clientHandle s r).symm.trans hhandle
    obtain ⟨hsame, hkept', -⟩ := locSyncSendReq_spec (hkept hhandle') hclean r
    exact hsame.acted hhandle' (hregistered hhandle') hkept'

theorem Follows.step {s : Sys} {e : Event}
    (h : s.api.clientHandle = true → s.Follows platform) (hclean : s.Clean platform answers e) :
    (s.step platform answers e).api.clientHandle = true →
      (s.step platform answers e).Follows platform := by
  intro hhandle
  have hacted := act_spec (s := { s with regFailed := false }) (fun hh => (h hh).registered)
    (fun hh => ⟨(h hh).engine.waiting, (h hh).engine.idle⟩) hclean hhandle
  refine ⟨hacted.registered, fun hfailed => ?_, hacted.engine.waiting, hacted.engine.idle⟩
  obtain ⟨hnot, hold⟩ := Bool.or_eq_false_iff.mp hfailed
  rcases hacted.current hnot with hcurrent | ⟨hhandle', hmask, hsame⟩
  · exact hcurrent
  · rw [Bool.and_eq_false_iff] at hold
    have hfailed' : s.regFailed = false :=
      hold.resolve_right fun hno => absurd hmask (of_decide_eq_false hno)
    exact hsame.trans (((h hhandle').current hfailed').trans hmask.symm)

end Sys

/-! ## Runs -/

/-- **The registered events follow the mask** after every event of a clean run. -/
theorem mask_followed (platform : Platform) (answers : Nat → Answer)
    (mExcludedMask : Flags LocApiAdapterBit) (capabilities : Capabilities) (es : List Event)
    (hclean : Meets (Sys.step platform answers) (Sys.Clean platform answers)
      (.init mExcludedMask capabilities) es) :
    Throughout (Sys.step platform answers)
      (fun s => s.api.clientHandle = true → s.Follows platform)
      (.init mExcludedMask capabilities) es :=
  throughout_of_meets (fun _ _ hs hc => Sys.Follows.step hs hc) nofun hclean

/-- A client that is not the master. -/
def Platform.sample : Platform := ⟨false, false⟩

def Capabilities.sample : Capabilities := ⟨false, false, false⟩

/-- The engine is too busy for the message with this number. -/
def busyAt (k n : Nat) : Answer := if n = k then .engineBusy else .accepted

/-- A request waits while the engine's state is registered. -/
theorem mask_followed_sample :
    Throughout (Sys.step .sample (busyAt 9))
      (fun s => s.api.clientHandle = true → s.Follows .sample)
      (.init (fun _ => false) .sample)
      [.openMask (fun bit => bit = .statusReport) false .sample, .startTimeBasedTracking .msb,
        .request (.other 1 []), .engineState false] := by
  refine mask_followed .sample (busyAt 9) _ .sample _ ⟨?_, ?_, ?_, ?_, trivial⟩
  · refine fun _ => ⟨rfl, ?_⟩
    rw [Sys.RegisterClean, if_pos (by decide)]
    exact ⟨nofun, nofun⟩
  · refine fun _ => ⟨?_, nofun⟩
    rw [Sys.RegisterClean, if_pos (by decide)]
    exact ⟨nofun, nofun⟩
  · exact fun _ _ => Or.inr ⟨rfl, rfl⟩
  · refine fun _ => ?_
    rw [Sys.RegisterClean, if_neg (by decide)]
    exact ⟨rfl, fun _ _ => rfl, fun _ => nofun⟩

/-- The engine's state stays registered after what waited was sent; and with a power state that
is not known, a request waits for an engine whose state is not registered. -/
theorem mask_not_followed :
    (¬ Throughout (Sys.step .sample (busyAt 6))
      (fun s => s.api.clientHandle = true → s.Follows .sample) (.init (fun _ => false) .sample)
      [.openMask (fun _ => false) false .sample, .powerState .resume, .request (.other 1 []),
        .engineState false]) ∧
    ¬ Throughout (Sys.step .sample (busyAt 6))
      (fun s => s.api.clientHandle = true → s.Follows .sample) (.init (fun _ => false) .sample)
      [.openMask (fun _ => false) false .sample, .request (.other 1 [])] := by
  constructor
  · intro hfollows
    exact absurd ((hfollows.last rfl).engine.idle rfl rfl) nofun
  · intro hfollows
    exact absurd ((hfollows.last rfl).engine.waiting nofun rfl) nofun

end LocationStack.LocApi
