import LocationStack.Link.System

/-! # The two copies of the subscription mask

The client keeps `mCallbacksMask`, the daemon's handler `mSubscriptionMask`.  The client
reports its mask only when it has grown; what it clears, the daemon has to clear by
itself, when it is told to stop with `clearSubscriptions`.  So the two agree as long as
every clearing on the client's side goes with such a stop, and none of the bits set
since is taken back by it.

The proof follows the mask that the daemon has once it has processed what is on its way
to it (`run maskAfter`): it is the client's mask at any time.
-/
namespace LocationStack.Link

open Ipc Client EventRun

/-- The mask a handler has after a message. -/
def maskAfter (mask : LocationCallbacksMask) : ReqMsg → LocationCallbacksMask
  | .updateCallbacks mask' => mask'
  | .stopTracking clearSubscriptions =>
    if clearSubscriptions then mask &&& ~~~locationSessonAllInfoMask else mask
  | _ => mask

/-- A message that leaves the mask of a handler as it is. -/
def neutral : ReqMsg → Bool
  | .updateCallbacks _ | .stopTracking _ | .clientDeregister => false
  | .clientRegister _ | .startTracking _ | .updateTrackingOptions _ | .startBatching _ _ _
  | .stopBatching | .updateBatchingOptions _ _ _ | .addGeofences _ | .removeGeofences _
  | .modifyGeofences _ | .pauseGeofences _ | .resumeGeofences _ => true

/-- The mask of a client's handler; a new handler's mask is empty. -/
def handlerMask (client : Daemon.Entry) : LocationCallbacksMask :=
  (client.map Daemon.LocHalDaemonClientHandler.mSubscriptionMask).getD 0

/-! ## The condition -/

/-- The start adds a bit to what is left of the mask. -/
def addsBits (c : LocationClientApiImpl) (callbacksOption : Client.LocationCallbacks) : Prop :=
  c.mCallbacksMask &&& ~~~locationSessonAllInfoMask &&& c.callBacksMask callbacksOption ≠
    c.callBacksMask callbacksOption

/-- The start makes a session passive that was not, which stops it at the daemon. -/
def turnsPassive (c : LocationClientApiImpl) (trackingOptions : TrackingOptions) : Prop :=
  c.isInTracking ∧ !trackingOptions.active ∧ c.mLocationOptions.active

/-- A call of a registered client that clears bits only where the daemon clears them
too, and sets none that it clears.  A start that adds bits reports the mask before the
daemon is told to stop; one that adds none reports nothing. -/
def KeepsMask (c : LocationClientApiImpl) : Call → Prop
  | .startPositionSession callbacksOption trackingOptions =>
    c.mPositionSessionResponseCbPending = false → c.mBatchingId = 0 →
      (addsBits c callbacksOption → turnsPassive c trackingOptions →
        c.callBacksMask callbacksOption &&& locationSessonAllInfoMask = 0) ∧
      (¬addsBits c callbacksOption → ¬turnsPassive c trackingOptions →
        c.mCallbacksMask &&& locationSessonAllInfoMask = 0)
  | .stopTrackingAndClearSubscriptions =>
    ¬(c.isInTracking ∧ c.mLocationOptions.active) →
      c.mCallbacksMask &&& locationSessonAllInfoMask = 0
  | _ => True

/-- A response that takes no bit off the client's mask: a collective one finds a
geofence in the map, or no subscription to breaches. -/
def KeepsMaskMsg (c : LocationClientApiImpl) : IndMsg → Prop
  | .collectiveResp _ _ =>
    c.mLocationCbs.collectiveResponseCb → c.isGeofenceMapEmpty →
      c.mCallbacksMask &&& locationGeofenceSessionMask = 0
  | _ => True

/-- A step that keeps the two masks together. -/
def KeepsMaskStep (s : Sys) : Event → Prop
  | .call a _ => s.client.mHalRegistered → KeepsMask s.client a
  | .onReceive _ => s.client.mHalRegistered → ∀ msg ∈ s.toClient.head?, KeepsMaskMsg s.client msg
  | _ => True

instance (c : LocationClientApiImpl) (callbacksOption : Client.LocationCallbacks) :
    Decidable (addsBits c callbacksOption) := inferInstanceAs (Decidable (_ ≠ _))

instance (c : LocationClientApiImpl) (trackingOptions : TrackingOptions) :
    Decidable (turnsPassive c trackingOptions) := inferInstanceAs (Decidable (_ ∧ _))

instance (c : LocationClientApiImpl) : (a : Call) → Decidable (KeepsMask c a)
  | .startPositionSession callbacksOption trackingOptions =>
    inferInstanceAs (Decidable (c.mPositionSessionResponseCbPending = false →
      c.mBatchingId = 0 →
        (addsBits c callbacksOption → turnsPassive c trackingOptions →
          c.callBacksMask callbacksOption &&& locationSessonAllInfoMask = 0) ∧
        (¬addsBits c callbacksOption → ¬turnsPassive c trackingOptions →
          c.mCallbacksMask &&& locationSessonAllInfoMask = 0)))
  | .stopTrackingAndClearSubscriptions =>
    inferInstanceAs (Decidable (¬(c.isInTracking ∧ c.mLocationOptions.active) →
      c.mCallbacksMask &&& locationSessonAllInfoMask = 0))
  | .clientRegister | .updateCallbacks _ | .startBatchingSession _ _ | .stopBatching
  | .addGeofences _ _ | .removeGeofences _ | .modifyGeofences _ | .pauseGeofences _
  | .resumeGeofences _ => inferInstanceAs (Decidable True)

instance (c : LocationClientApiImpl) : (msg : IndMsg) → Decidable (KeepsMaskMsg c msg)
  | .collectiveResp _ _ =>
    inferInstanceAs (Decidable (c.mLocationCbs.collectiveResponseCb → c.isGeofenceMapEmpty →
      c.mCallbacksMask &&& locationGeofenceSessionMask = 0))
  | .capabilities _ | .halReady | .genericResp _ _ | .geofenceBreach _ =>
    inferInstanceAs (Decidable True)

instance (s : Sys) : (e : Event) → Decidable (KeepsMaskStep s e)
  | .call a _ => inferInstanceAs (Decidable (s.client.mHalRegistered → KeepsMask s.client a))
  | .onReceive _ =>
    inferInstanceAs (Decidable (s.client.mHalRegistered →
      ∀ msg ∈ s.toClient.head?, KeepsMaskMsg s.client msg))
  | .processClientMsg _ _ _ | .callback _ | .restart => inferInstanceAs (Decidable True)

/-! ## Masks -/

section Masks

variable {x y z : LocationCallbacksMask}

/-- Taking bits off changes nothing exactly where none of them is set. -/
theorem and_not_eq_self : x &&& ~~~y = x ↔ x &&& y = 0 := by
  constructor
  · intro h
    rw [← h, BitVec.and_assoc]
    simp
  · intro h
    calc x &&& ~~~y = (x &&& ~~~y) ||| (x &&& y) := by rw [h]; simp
      _ = x &&& (~~~y ||| y) := by rw [BitVec.and_or_distrib_left]
      _ = x := by rw [BitVec.or_comm, BitVec.or_not_self, BitVec.and_allOnes]

/-- Bits taken off stay off where the bits set afterwards are others. -/
theorem or_and_not_eq_self :
    (x &&& ~~~y ||| z) &&& ~~~y = x &&& ~~~y ||| z ↔ z &&& y = 0 := by
  rw [and_not_eq_self, BitVec.and_or_distrib_right, BitVec.and_assoc]
  simp

end Masks

/-! ## What the client reports -/

theorem maskAfter_neutral {msg : ReqMsg} (h : neutral msg) (mask : LocationCallbacksMask) :
    maskAfter mask msg = mask := by
  cases msg <;> simp [neutral] at h <;> simp only [maskAfter]

theorem run_neutral {msgs : List ReqMsg} (h : ∀ msg ∈ msgs, neutral msg)
    (mask : LocationCallbacksMask) : run maskAfter mask msgs = mask := by
  induction msgs with
  | nil => rfl
  | cons msg msgs ih =>
    rw [run_cons, maskAfter_neutral (h msg List.mem_cons_self)]
    exact ih fun msg' hmsg' => h msg' (List.mem_cons_of_mem _ hmsg')

/-- The messages of some work take the daemon from the client's mask before it to the
client's mask after it. -/
def Reports (c : LocationClientApiImpl) (r : Client.Result) : Prop :=
  run maskAfter c.mCallbacksMask (sentReqs r.2) = r.1.mCallbacksMask

/-- Work that has nothing to do with the mask. -/
structure Silent (c : LocationClientApiImpl) (r : Client.Result) : Prop where
  mask : r.1.mCallbacksMask = c.mCallbacksMask
  sent : ∀ msg ∈ sentReqs r.2, neutral msg

theorem Silent.reports {c : LocationClientApiImpl} {r : Client.Result} (h : Silent c r) :
    Reports c r := by
  rw [Reports, run_neutral h.sent, h.mask]

theorem Reports.andThen {c : LocationClientApiImpl} {r : Client.Result}
    {f : LocationClientApiImpl → Client.Result} (hr : Reports c r) (hf : Silent r.1 (f r.1)) :
    Reports c (r.andThen f) := by
  rw [Reports, Result.andThen_snd, sentReqs_append, run_append, hr, Result.andThen_fst]
  exact hf.reports

section Work

variable (c : LocationClientApiImpl)

theorem updateCallbacksSync_reports (callbacks : Client.LocationCallbacks)
    (hreg : c.mHalRegistered) : Reports c (c.updateCallbacksSync callbacks) := by
  rw [Reports, c.sent_updateCallbacksSync, c.updateCallbacksSync_fst]
  by_cases hall : c.mCallbacksMask &&& c.callBacksMask callbacks = c.callBacksMask callbacks
  · rw [if_neg (fun h => h.1 hall), run_nil]
    dsimp only
    rw [LocationClientApiImpl.or_eq_left_of_and_eq hall]
  · rw [if_pos ⟨hall, hreg⟩, run_cons, run_nil, maskAfter]

theorem startBatchingSync_silent (batchOptions : BatchingOptions) :
    Silent c (c.startBatchingSync batchOptions) where
  mask := by rw [c.startBatchingSync_fst]
  sent := c.startBatchingSync_allSent (fun _ _ _ => rfl) (fun _ _ _ => rfl) batchOptions

theorem sendGeofences_silent (geofences : List GeofencePayload) :
    Silent c (c.sendGeofences geofences) where
  mask := by rw [c.sendGeofences_fst]
  sent := c.sendGeofences_allSent (fun _ => rfl) geofences

theorem requestGeofences_silent (ids : List UInt32) {request : List UInt32 → ReqMsg}
    (hrequest : ∀ ids, neutral (request ids)) : Silent c (c.requestGeofences ids request) where
  mask := by rw [c.requestGeofences_fst]
  sent := c.requestGeofences_allSent hrequest ids

theorem stopBatching_silent : Silent c c.stopBatching where
  mask := by
    unfold LocationClientApiImpl.stopBatching
    split <;> rfl
  sent := c.stopBatching_allSent rfl

theorem modifyGeofences_silent (geofences : List (UInt32 × GeofenceOption)) :
    Silent c (c.modifyGeofences geofences) where
  mask := by rw [c.modifyGeofences_fst]
  sent := c.modifyGeofences_allSent (fun _ => rfl) geofences

/-- The messages of a start or an update of a session: nothing that concerns the mask,
or the stop of a session that becomes passive. -/
theorem run_startTrackingSync (trackingOptions : TrackingOptions) (hreg : c.mHalRegistered)
    (mask : LocationCallbacksMask) :
    run maskAfter mask (sentReqs (c.startTrackingSync trackingOptions).2) =
      if turnsPassive c trackingOptions then mask &&& ~~~locationSessonAllInfoMask
      else mask := by
  rw [c.sent_startTrackingSync, if_pos hreg]
  cases ht : c.isInTracking with
  | false =>
    have hnot : ¬turnsPassive c trackingOptions := by simp [turnsPassive, ht]
    rw [if_neg hnot, if_neg (by simp)]
    split <;> exact run_neutral (by simp [neutral]) mask
  | true =>
    rw [if_pos rfl]
    cases hact : trackingOptions.active <;> cases hold : c.mLocationOptions.active
    case false.true =>
      -- options that differ in being passive differ
      have hupd : c.isOptionUpdated trackingOptions = true := by
        simp only [LocationOptions.active, Bool.or_eq_false_iff, Bool.or_eq_true, bne_iff_ne,
          bne_eq_false_iff_eq] at hact hold
        simp only [LocationClientApiImpl.isOptionUpdated, Bool.or_eq_true, bne_iff_ne]
        rw [hact.1, hact.2]
        exact .inl hold
      have htp : turnsPassive c trackingOptions := by simp [turnsPassive, ht, hact, hold]
      rw [if_pos hupd, if_pos htp]
      simp [LocationClientApiImpl.trackingUpdate, hact, hold, maskAfter]
    all_goals
      have hnot : ¬turnsPassive c trackingOptions := by simp [turnsPassive, hact, hold]
      rw [if_neg hnot]
      split <;>
        exact run_neutral
          (by simp [LocationClientApiImpl.trackingUpdate, hact, hold, neutral]) mask

/-- **Which starts keep the masks together.** -/
theorem startPositionSession_reports (callbacksOption : Client.LocationCallbacks)
    (trackingOptions : TrackingOptions) (hreg : c.mHalRegistered) :
    Reports c (c.startPositionSession callbacksOption trackingOptions) ↔
      KeepsMask c (.startPositionSession callbacksOption trackingOptions) := by
  by_cases hacc : c.mPositionSessionResponseCbPending = false ∧ c.mBatchingId = 0
  · obtain ⟨hp, hb⟩ := hacc
    let c₁ := { c with mPositionSessionResponseCbPending := true }.clearTrackingSubscriptions
    have hfst := c₁.updateCallbacksSync_fst callbacksOption
    have hsent := c₁.sent_updateCallbacksSync callbacksOption
    have htp : turnsPassive (c₁.updateCallbacksSync callbacksOption).1 trackingOptions ↔
        turnsPassive c trackingOptions := by rw [hfst]; rfl
    have hadds : (c₁.mCallbacksMask &&& c₁.callBacksMask callbacksOption ≠
        c₁.callBacksMask callbacksOption ∧ c₁.mHalRegistered) ↔ addsBits c callbacksOption :=
      ⟨fun h => h.1, fun h => ⟨h, hreg⟩⟩
    have hmask : ((c₁.updateCallbacksSync callbacksOption).1.startTrackingSync
        trackingOptions).1.mCallbacksMask =
          c.mCallbacksMask &&& ~~~locationSessonAllInfoMask |||
            c.callBacksMask callbacksOption := by
      rw [LocationClientApiImpl.startTrackingSync_fst, hfst]
      rfl
    have hkeeps : KeepsMask c (.startPositionSession callbacksOption trackingOptions) ↔
        (addsBits c callbacksOption → turnsPassive c trackingOptions →
          c.callBacksMask callbacksOption &&& locationSessonAllInfoMask = 0) ∧
        (¬addsBits c callbacksOption → ¬turnsPassive c trackingOptions →
          c.mCallbacksMask &&& locationSessonAllInfoMask = 0) :=
      ⟨fun h => h hp hb, fun h _ _ => h⟩
    rw [Reports, c.startPositionSession_accepted _ _ hp hb, Result.andThen_snd,
      sentReqs_append, run_append, Result.andThen_fst, hmask,
      run_startTrackingSync _ _ (by rw [hfst]; exact hreg), hsent, hkeeps]
    by_cases hadd : addsBits c callbacksOption
    · have hrun : run maskAfter c.mCallbacksMask [.updateCallbacks
          (c₁.mCallbacksMask ||| c₁.callBacksMask callbacksOption)] =
            c.mCallbacksMask &&& ~~~locationSessonAllInfoMask |||
              c.callBacksMask callbacksOption := by
        rw [run_cons, run_nil, maskAfter]
        rfl
      rw [if_pos (hadds.mpr hadd), hrun]
      by_cases htp' : turnsPassive c trackingOptions
      · rw [if_pos (htp.mpr htp'), or_and_not_eq_self]
        exact ⟨fun h => ⟨fun _ _ => h, fun hno => absurd hadd hno⟩, fun h => h.1 hadd htp'⟩
      · rw [if_neg (fun h => htp' (htp.mp h))]
        exact iff_of_true rfl ⟨fun _ h => absurd h htp', fun hno => absurd hadd hno⟩
    · -- nothing is reported; the bits taken off have to be those a stop takes off
      have hor : c.mCallbacksMask &&& ~~~locationSessonAllInfoMask |||
          c.callBacksMask callbacksOption =
            c.mCallbacksMask &&& ~~~locationSessonAllInfoMask :=
        LocationClientApiImpl.or_eq_left_of_and_eq (not_not.mp hadd)
      rw [if_neg (fun h => hadd (hadds.mp h)), run_nil, hor]
      by_cases htp' : turnsPassive c trackingOptions
      · rw [if_pos (htp.mpr htp')]
        exact iff_of_true rfl ⟨fun h => absurd h hadd, fun _ h => absurd htp' h⟩
      · rw [if_neg (fun h => htp' (htp.mp h)), eq_comm, and_not_eq_self]
        exact ⟨fun h => ⟨fun h' => absurd h' hadd, fun _ _ => h⟩, fun h => h.2 hadd htp'⟩
  · obtain ⟨hfst, hsent⟩ := c.startPositionSession_refused callbacksOption trackingOptions hacc
    refine iff_of_true ?_ fun hp hb => absurd ⟨hp, hb⟩ hacc
    rw [Reports, hfst, hsent, run_nil]

/-- **Which stops keep the masks together.** -/
theorem stopTracking_reports (hreg : c.mHalRegistered) :
    Reports c c.stopTrackingAndClearSubscriptions ↔
      KeepsMask c .stopTrackingAndClearSubscriptions := by
  have hsent : sentReqs c.stopTrackingAndClearSubscriptions.2 =
      if c.isInTracking && c.mHalRegistered && c.mLocationOptions.active then
        [.stopTracking true]
      else [] := c.sent_stopTrackingSync true
  have hmask : c.stopTrackingAndClearSubscriptions.1.mCallbacksMask =
      c.mCallbacksMask &&& ~~~locationSessonAllInfoMask := rfl
  rw [Reports, hsent, hmask]
  by_cases hstop : c.isInTracking ∧ c.mLocationOptions.active
  · rw [if_pos (by simp only [hstop, hreg, Bool.and_self]), run_cons, run_nil, maskAfter,
      if_pos rfl]
    exact iff_of_true rfl fun hno => absurd hstop hno
  · rw [if_neg (by simpa [hreg] using hstop), run_nil, eq_comm, and_not_eq_self]
    exact ⟨fun h _ => h, fun h => h hstop⟩

theorem startBatchingSession_reports (callbacksOption : Client.LocationCallbacks)
    (batchingOptions : BatchingOptions) (hreg : c.mHalRegistered) :
    Reports c (c.startBatchingSession callbacksOption batchingOptions) := by
  unfold LocationClientApiImpl.startBatchingSession
  split
  · exact rfl
  · split
    · exact rfl
    · exact (updateCallbacksSync_reports { c with mPositionSessionResponseCbPending := true }
        callbacksOption hreg).andThen (startBatchingSync_silent _ _)

theorem addGeofences_reports (callbacksOption : Client.LocationCallbacks)
    (geofences : List GeofencePayload) (hreg : c.mHalRegistered) :
    Reports c (c.addGeofences callbacksOption geofences) := by
  unfold LocationClientApiImpl.addGeofences
  split
  · rw [LocationClientApiImpl.foldl_addGeofenceMap_eq]
    exact rfl
  · refine (updateCallbacksSync_reports { c with mPositionSessionResponseCbPending := true }
      callbacksOption hreg).andThen ?_
    have hsilent := sendGeofences_silent (geofences.foldl LocationClientApiImpl.addGeofenceMap
      { ({ c with mPositionSessionResponseCbPending := true }.updateCallbacksSync
          callbacksOption).1 with
        mLastAddedClientIds := geofences.map GeofencePayload.gfClientId }) geofences
    refine ⟨hsilent.mask.trans ?_, hsilent.sent⟩
    rw [LocationClientApiImpl.foldl_addGeofenceMap_eq]

/-- **What a registered client reports.** -/
theorem work_reports (hreg : c.mHalRegistered) {a : Call} (hkeeps : KeepsMask c a) :
    Reports c (a.work c) := by
  cases a with
  | clientRegister => exact Silent.reports ⟨rfl, by simp [Call.work,
      LocationClientApiImpl.clientRegister, neutral]⟩
  | updateCallbacks callbacks => exact updateCallbacksSync_reports c callbacks hreg
  | startPositionSession callbacks options =>
    exact (startPositionSession_reports c callbacks options hreg).mpr hkeeps
  | stopTrackingAndClearSubscriptions => exact (stopTracking_reports c hreg).mpr hkeeps
  | startBatchingSession callbacks options =>
    exact startBatchingSession_reports c callbacks options hreg
  | stopBatching => exact (stopBatching_silent c).reports
  | addGeofences callbacks geofences => exact addGeofences_reports c callbacks geofences hreg
  | removeGeofences ids => exact (requestGeofences_silent c ids fun _ => rfl).reports
  | modifyGeofences geofences => exact (modifyGeofences_silent c geofences).reports
  | pauseGeofences ids => exact (requestGeofences_silent c ids fun _ => rfl).reports
  | resumeGeofences ids => exact (requestGeofences_silent c ids fun _ => rfl).reports

/-- A session that is started where there was none concerns the mask no more. -/
theorem startTrackingSync_silent (trackingOptions : TrackingOptions) (hidle : c.mSessionId = 0) :
    Silent c (c.startTrackingSync trackingOptions) where
  mask := by rw [c.startTrackingSync_fst]
  sent := by
    rw [c.sent_startTrackingSync]
    intro msg hmsg
    split at hmsg
    · rw [if_neg (by simpa using hidle)] at hmsg
      split at hmsg <;> simp_all [neutral]
    · exact absurd hmsg List.not_mem_nil

theorem resumeSession_silent : Silent c c.resumeSession := by
  unfold LocationClientApiImpl.resumeSession
  split
  · have h := startTrackingSync_silent { c with mSessionId := 0 } c.mLocationOptions rfl
    exact ⟨h.mask, h.sent⟩
  · split
    · have h := startBatchingSync_silent { c with mBatchingId := 0 } c.mBatchingOptions
      exact ⟨h.mask, h.sent⟩
    · exact ⟨rfl, by simp⟩

theorem resumeGeofenceMap_silent : Silent c c.resumeGeofenceMap := by
  unfold LocationClientApiImpl.resumeGeofenceMap
  split
  · exact ⟨rfl, by simp⟩
  · exact sendGeofences_silent c _

/-- A client that is told the capabilities is registered and reports its whole mask. -/
theorem capabilitesCallback_reports {mask : LocationCallbacksMask}
    (hmask : c.mCallbacksMask = 0 → mask = 0) :
    run maskAfter mask (sentReqs c.capabilitesCallback.2) = c.mCallbacksMask ∧
      c.capabilitesCallback.1.mCallbacksMask = c.mCallbacksMask := by
  let r : Client.Result :=
    ({ c with mHalRegistered := true },
      if c.mCallbacksMask ≠ 0 then [.send (.updateCallbacks c.mCallbacksMask)] else [])
  have hr : run maskAfter mask (sentReqs r.2) = c.mCallbacksMask := by
    by_cases hzero : c.mCallbacksMask = 0
    · rw [show r.2 = [] from if_neg (by simp [hzero]), sentReqs_nil, run_nil, hzero,
        hmask hzero]
    · rw [show r.2 = _ from if_pos hzero, sentReqs_send, sentReqs_nil, run_cons, run_nil,
        maskAfter]
  have hdef : c.capabilitesCallback = if c.mHalRegistered then r
      else (r.andThen LocationClientApiImpl.resumeSession).andThen
        LocationClientApiImpl.resumeGeofenceMap := rfl
  rw [hdef]
  split
  · exact ⟨hr, rfl⟩
  · have hsession := resumeSession_silent r.1
    have hgeofences := resumeGeofenceMap_silent r.1.resumeSession.1
    constructor
    · rw [Result.andThen_snd, Result.andThen_snd, Result.andThen_fst, sentReqs_append,
        sentReqs_append, run_append, run_append, hr, run_neutral hsession.sent,
        run_neutral hgeofences.sent]
    · exact hgeofences.mask.trans hsession.mask

/-- What the daemon tells a registered client, its capabilities apart, takes no bit off
the mask. -/
theorem onReceive_mask {msg : IndMsg} (hmsg : ∀ mask, msg ≠ .capabilities mask)
    (hkeeps : KeepsMaskMsg c msg) : (c.onReceive msg).1.mCallbacksMask = c.mCallbacksMask := by
  cases msg with
  | capabilities mask => exact absurd rfl (hmsg mask)
  | halReady => rfl
  | genericResp msgId err =>
    simp only [LocationClientApiImpl.onReceive, LocationClientApiImpl.onGenericResponse]
    split
    · rw [c.invokePositionSessionResponseCb_fst]
    · rfl
  | collectiveResp msgId resp =>
    simp only [LocationClientApiImpl.onReceive, LocationClientApiImpl.onCollectiveResponse]
    split
    · dsimp only [LocationClientApiImpl.eraseGeofenceMap]
      split
      · exact and_not_eq_self.mpr (hkeeps ‹_› ‹_›)
      · rfl
    · rfl
  | geofenceBreach ids =>
    simp only [LocationClientApiImpl.onReceive, LocationClientApiImpl.onGeofenceBreach]
    split
    · split <;> rfl
    · rfl

end Work

/-! ## What the daemon does to its copy -/

theorem stopTracking_mask (h : Daemon.LocHalDaemonClientHandler) (clientExpectingResp : Bool) :
    (h.stopTracking clientExpectingResp).1.mSubscriptionMask = h.mSubscriptionMask := by
  unfold Daemon.LocHalDaemonClientHandler.stopTracking
  split <;> rfl

/-- Geofence requests leave the mask as it is. -/
theorem onGeofences_mask (ids : List UInt32) (id : ELocMsgID)
    (call : Daemon.LocHalDaemonClientHandler → List UInt32 → List Daemon.Action)
    (h : Daemon.LocHalDaemonClientHandler) :
    (Daemon.LocationApiService.onGeofences ids id call h).1.mSubscriptionMask =
      h.mSubscriptionMask := by
  unfold Daemon.LocationApiService.onGeofences
    Daemon.LocHalDaemonClientHandler.getSessionIds
  by_cases hids : ids.isEmpty
  · rw [if_pos hids]
  · rw [if_neg hids]
    rfl

open Daemon Daemon.LocHalDaemonClientHandler Daemon.LocationApiService in
/-- A request of a registered client does to the handler's mask what `maskAfter` says. -/
theorem processClientMsg_mask (mPositionMode : GnssSuplMode) (h : LocHalDaemonClientHandler)
    {msg : ReqMsg} (hmsg : msg ≠ .clientDeregister) (ret : HalReturns) (mIpcSender : Bool) :
    handlerMask (processClientMsg mPositionMode (some h) msg ret mIpcSender true).1 =
      maskAfter h.mSubscriptionMask msg := by
  cases msg with
  | clientRegister clientType =>
    rw [processClientMsg, newClient, h.sendCapabilitiesMsg_true.1]
    rfl
  | clientDeregister => exact absurd rfl hmsg
  | updateCallbacks mask => rfl
  | startTracking options =>
    change (h.startTracking _ _).1.mSubscriptionMask = h.mSubscriptionMask
    unfold LocHalDaemonClientHandler.startTracking
    split <;> rfl
  | stopTracking clear =>
    cases clear with
    | true => exact stopTracking_mask h.unsubscribeLocationSessionCb.1 false
    | false => exact stopTracking_mask h true
  | updateTrackingOptions options =>
    change (h.updateTrackingOptions _).1.mSubscriptionMask = h.mSubscriptionMask
    unfold LocHalDaemonClientHandler.updateTrackingOptions
    split <;> rfl
  | startBatching interval distance mode =>
    change (LocationApiService.startBatching interval distance mode _ h).1.mSubscriptionMask = _
    unfold LocationApiService.startBatching LocHalDaemonClientHandler.startBatching
    dsimp only
    split <;> split <;> rfl
  | stopBatching =>
    change (LocationApiService.stopBatching h).1.mSubscriptionMask = h.mSubscriptionMask
    unfold LocationApiService.stopBatching LocHalDaemonClientHandler.stopBatching
    dsimp only
    split <;> rfl
  | updateBatchingOptions interval distance mode =>
    change (h.updateBatchingOptions interval distance mode).1.mSubscriptionMask = _
    unfold LocHalDaemonClientHandler.updateBatchingOptions
    split <;> rfl
  | addGeofences geofences =>
    change (LocationApiService.addGeofences geofences _ h).1.mSubscriptionMask = _
    unfold LocationApiService.addGeofences LocHalDaemonClientHandler.addGeofences
    split
    · rfl
    · dsimp only
      split <;> split <;> rfl
  | removeGeofences ids => exact onGeofences_mask ids _ _ h
  | modifyGeofences geofences =>
    change (LocationApiService.modifyGeofences geofences h).1.mSubscriptionMask = _
    unfold LocationApiService.modifyGeofences
    split
    · rfl
    · exact onGeofences_mask _ _ _ h
  | pauseGeofences ids => exact onGeofences_mask ids _ _ h
  | resumeGeofences ids => exact onGeofences_mask ids _ _ h

/-! ## Runs -/

/-- The client's mask is the one that the daemon has once it has processed what is on its
way, and the daemon has a handler for a client that is registered, or about to be. -/
structure InSync (s : Sys) : Prop where
  registered : s.client.mHalRegistered →
    run maskAfter (handlerMask s.daemon.client) s.toDaemon = s.client.mCallbacksMask
  unregistered : s.client.mHalRegistered = false →
    handlerMask s.daemon.client = 0 ∧ ∀ msg ∈ s.toDaemon, neutral msg
  requests : ∀ msg ∈ s.toDaemon, librarySends msg
  handler : (s.client.mHalRegistered = true ∨ ∃ mask, .capabilities mask ∈ s.toClient) →
    s.daemon.client.isSome
  started : .halReady ∉ s.toClient

theorem init_inSync (mClientId : { id : UInt32 // id ≠ 0 }) : InSync (.init mClientId) where
  registered := by simp [Sys.init, LocationClientApiImpl.new]
  unregistered := fun _ => ⟨rfl, by simp [Sys.init]⟩
  requests := by simp [Sys.init]
  handler := by simp [Sys.init, LocationClientApiImpl.new]
  started := by simp [Sys.init]

theorem not_deregister {msg : ReqMsg} (h : librarySends msg) : msg ≠ .clientDeregister := by
  rintro rfl
  exact absurd h (by simp [librarySends])

theorem InSync.call {s : Sys} (hs : InSync s) (a : Call)
    (hkeeps : s.client.mHalRegistered → KeepsMask s.client a) :
    InSync (s.clientWork (a.work s.client) true) where
  registered := by
    intro hreg
    replace hreg : s.client.mHalRegistered := (a.work_registered s.client).symm.trans hreg
    have hreports := work_reports s.client hreg (hkeeps hreg)
    rw [Sys.clientWork, if_pos rfl, run_append, hs.registered hreg]
    exact hreports
  unregistered := by
    intro hreg
    replace hreg : s.client.mHalRegistered = false :=
      (a.work_registered s.client).symm.trans hreg
    obtain ⟨hzero, hneutral⟩ := hs.unregistered hreg
    refine ⟨hzero, fun msg hmsg => ?_⟩
    rcases List.mem_append.mp hmsg with hmsg | hmsg
    · exact hneutral msg hmsg
    · rcases a.work_unregistered hreg msg hmsg with rfl | rfl <;> rfl
  requests := by
    intro msg hmsg
    rcases List.mem_append.mp hmsg with hmsg | hmsg
    · exact hs.requests msg hmsg
    · exact a.work_library s.client msg hmsg
  handler := by
    rintro (hreg | hcap)
    · exact hs.handler (.inl ((a.work_registered s.client).symm.trans hreg))
    · exact hs.handler (.inr hcap)
  started := hs.started

theorem InSync.processClientMsg (mPositionMode : GnssSuplMode) {s : Sys} (hs : InSync s)
    {msg : ReqMsg} {rest : List ReqMsg} (hq : s.toDaemon = msg :: rest)
    {ret : Daemon.HalReturns} (hret : s.daemon.hal.MayAnswer ret msg) (mIpcSender : Bool) :
    InSync ({ s with toDaemon := rest }.daemonWork mPositionMode
      (.request msg ret mIpcSender true)) := by
  have hmem : msg ∈ s.toDaemon := by rw [hq]; exact List.mem_cons_self
  have hrest : ∀ msg' ∈ rest, msg' ∈ s.toDaemon := by
    intro msg' hmsg'
    rw [hq]
    exact List.mem_cons_of_mem _ hmsg'
  -- the mask of the handler afterwards, and whether there is one
  obtain ⟨hmask, hsome⟩ : handlerMask (Daemon.LocationApiService.processClientMsg mPositionMode
      s.daemon.client msg ret mIpcSender true).1 = maskAfter (handlerMask s.daemon.client) msg ∧
      (s.daemon.client.isSome → (Daemon.LocationApiService.processClientMsg mPositionMode
        s.daemon.client msg ret mIpcSender true).1.isSome) := by
    cases hc : s.daemon.client with
    | some h =>
      have hmsg := not_deregister (hs.requests msg hmem)
      refine ⟨processClientMsg_mask mPositionMode h hmsg ret mIpcSender, fun _ => ?_⟩
      exact Daemon.LocationApiService.processClientMsg_isSome mPositionMode h hmsg ret mIpcSender
    | none =>
      have hreg : s.client.mHalRegistered = false := by
        by_contra hreg
        have := hs.handler (.inl (by simpa using hreg))
        simp [hc] at this
      rw [maskAfter_neutral ((hs.unregistered hreg).2 msg hmem)]
      refine ⟨?_, fun h => absurd h (by simp)⟩
      by_cases hmsg : ∃ clientType, msg = .clientRegister clientType
      · obtain ⟨clientType, rfl⟩ := hmsg
        rfl
      · rw [Daemon.LocationApiService.processClientMsg_none _ fun t h => hmsg ⟨t, h⟩]
  have hready := Daemon.halReady_notMem_sent mPositionMode s.daemon
    (.request msg ret mIpcSender true)
  unfold Sys.daemonWork
  dsimp only
  rw [Daemon.stepActs_request _ hret] at hready ⊢
  exact
    { registered := by
        intro hreg
        have hsync := hs.registered hreg
        rw [hq, run_cons] at hsync
        rw [Daemon.State.settle_client, hmask]
        exact hsync
      unregistered := by
        intro hreg
        obtain ⟨hzero, hneutral⟩ := hs.unregistered hreg
        refine ⟨?_, fun msg' hmsg' => hneutral msg' (hrest msg' hmsg')⟩
        rw [Daemon.State.settle_client, hmask, maskAfter_neutral (hneutral msg hmem), hzero]
      requests := fun msg' hmsg' => hs.requests msg' (hrest msg' hmsg')
      handler := by
        rintro (hreg | ⟨mask, hcap⟩)
        · exact hsome (hs.handler (.inl hreg))
        · rcases List.mem_append.mp hcap with hcap | hcap
          · exact hsome (hs.handler (.inr ⟨mask, hcap⟩))
          · apply hsome
            cases hc : s.daemon.client with
            | some h => rfl
            | none =>
              rw [hc, Daemon.LocationApiService.sent_none] at hcap
              exact absurd hcap List.not_mem_nil
      started := by
        rw [List.mem_append, not_or]
        exact ⟨hs.started, hready⟩ }

theorem InSync.callback (mPositionMode : GnssSuplMode) {s : Sys} (hs : InSync s)
    {d : Daemon.Event} (hd : Daemon.isCallback d) (hsent : Daemon.callbackSent d) :
    InSync (s.daemonWork mPositionMode d) := by
  have hready := Daemon.halReady_notMem_sent mPositionMode s.daemon d
  unfold Sys.daemonWork
  cases hc : s.daemon.client with
  | none =>
    rw [Daemon.callback_none mPositionMode hc hd, Daemon.sentMsgs_nil, List.append_nil]
    exact hs
  | some h =>
    obtain ⟨h', hc', hkept⟩ := Daemon.callback_kept mPositionMode hc hd hsent
    have hmask : handlerMask (Daemon.stepActs mPositionMode s.daemon d).1.client =
        handlerMask s.daemon.client := by
      rw [hc', hc, hkept]
      rfl
    exact
      { registered := by rw [hmask]; exact hs.registered
        unregistered := by rw [hmask]; exact hs.unregistered
        requests := hs.requests
        handler := fun _ => by rw [hc']; rfl
        started := by
          rw [List.mem_append, not_or]
          exact ⟨hs.started, hready⟩ }

theorem InSync.onReceive {s : Sys} (hs : InSync s) {msg : IndMsg} {rest : List IndMsg}
    (hq : s.toClient = msg :: rest)
    (hkeeps : s.client.mHalRegistered → KeepsMaskMsg s.client msg) :
    InSync ({ s with toClient := rest }.clientWork (s.client.onReceive msg) true) := by
  have hmem : msg ∈ s.toClient := by rw [hq]; exact List.mem_cons_self
  have hrest : ∀ msg' ∈ rest, msg' ∈ s.toClient := by
    intro msg' hmsg'
    rw [hq]
    exact List.mem_cons_of_mem _ hmsg'
  by_cases hmsg : ∃ mask, msg = .capabilities mask
  · obtain ⟨mask, rfl⟩ := hmsg
    have hzero : s.client.mCallbacksMask = 0 →
        run maskAfter (handlerMask s.daemon.client) s.toDaemon = 0 := by
      intro h0
      cases hreg : s.client.mHalRegistered with
      | true => rw [hs.registered hreg, h0]
      | false =>
        obtain ⟨hmask, hneutral⟩ := hs.unregistered hreg
        rw [run_neutral hneutral, hmask]
    obtain ⟨hrun, hmask⟩ := capabilitesCallback_reports s.client hzero
    exact
      { registered := by
          intro _
          rw [Sys.clientWork, if_pos rfl, run_append]
          exact hrun.trans hmask.symm
        unregistered := by
          intro hreg
          exact absurd (s.client.capabilitesCallback_registered.symm.trans hreg) (by simp)
        requests := by
          intro msg' hmsg'
          rcases List.mem_append.mp hmsg' with hmsg' | hmsg'
          · exact hs.requests msg' hmsg'
          · exact s.client.capabilitesCallback_library msg' hmsg'
        handler := fun _ => hs.handler (.inr ⟨mask, hmem⟩)
        started := fun h => hs.started (hrest _ h) }
  · have hcap : ∀ mask, msg ≠ .capabilities mask := fun mask h => hmsg ⟨mask, h⟩
    have hno : msg ≠ .halReady := fun h => hs.started (h ▸ hmem)
    have hreg := s.client.onReceive_registered hcap hno
    unfold Sys.clientWork
    rw [s.client.sent_onReceive hcap, ite_self, List.append_nil]
    exact
      { registered := by
          intro h
          replace h : s.client.mHalRegistered := hreg.symm.trans h
          exact (hs.registered h).trans (onReceive_mask s.client hcap (hkeeps h)).symm
        unregistered := fun h => hs.unregistered (hreg.symm.trans h)
        requests := hs.requests
        handler := by
          rintro (h | ⟨mask, h⟩)
          · exact hs.handler (.inl (hreg.symm.trans h))
          · exact hs.handler (.inr ⟨mask, hrest _ h⟩)
        started := fun h => hs.started (hrest _ h) }

/-- **One step.**  A step that loses nothing and keeps the masks together keeps the
client's mask the one the daemon is going to have. -/
theorem step_inSync (mPositionMode : GnssSuplMode) (s : Sys) (e : Event) (hs : InSync s)
    (hstep : lossless e ∧ KeepsMaskStep s e) : InSync (step mPositionMode s e) := by
  obtain ⟨hsent, hkeeps⟩ := hstep
  apply step_induction e hs
  · rintro a sent rfl
    cases (hsent : sent = true)
    exact hs.call a hkeeps
  · rintro ret mIpcSender rc rfl msg rest hq hret
    cases (hsent : rc = true)
    exact hs.processClientMsg mPositionMode hq hret mIpcSender
  · rintro d rfl hd
    exact hs.callback mPositionMode hd hsent
  · rintro sent rfl msg rest hq
    cases (hsent : sent = true)
    exact hs.onReceive hq fun hreg => hkeeps hreg msg (by rw [hq]; rfl)
  · rintro rfl
    exact absurd hsent (by simp [lossless])

/-- The daemon's mask for the client is the client's own. -/
def MasksAgree (s : Sys) : Prop :=
  s.daemon.client.map Daemon.LocHalDaemonClientHandler.mSubscriptionMask =
    some s.client.mCallbacksMask

instance (s : Sys) : Decidable (MasksAgree s) := inferInstanceAs (Decidable (_ = _))

/-- **The copies of the mask agree.**  In a run that loses no message and whose steps
keep the masks together, they agree whenever a registered client has no message on its
way to the daemon. -/
theorem subscriptions_agree (mPositionMode : GnssSuplMode)
    (mClientId : { id : UInt32 // id ≠ 0 }) (es : List Event)
    (hlossless : ∀ e ∈ es, lossless e)
    (hkeeps : Meets (step mPositionMode) KeepsMaskStep (.init mClientId) es) :
    Throughout (step mPositionMode)
      (fun s => s.client.mHalRegistered → s.toDaemon = [] → MasksAgree s)
      (.init mClientId) es := by
  have hmeets : Meets (step mPositionMode) (fun s e => lossless e ∧ KeepsMaskStep s e)
      (.init mClientId) es := (Meets.of_forall hlossless).and hkeeps
  refine (throughout_of_meets (step_inSync mPositionMode) (init_inSync mClientId) hmeets).imp ?_
  intro s hs hreg hidle
  obtain ⟨h, hc⟩ := Option.isSome_iff_exists.mp (hs.handler (.inl hreg))
  have hmask := hs.registered hreg
  rw [hidle, run_nil, hc] at hmask
  rw [MasksAgree, hc]
  exact congrArg some hmask

/-- The client registers and is told the capabilities, and what it sends then is
processed. -/
def register : List Event :=
  [.call .clientRegister true, .processClientMsg ⟨0, 0, none⟩ true true,
    .callback (.capabilitiesCb 1 true), .onReceive true]

/-- The callbacks of an application that wants locations. -/
def wantsLocations : Client.LocationCallbacks :=
  { Client.LocationCallbacks.zero with responseCb := some 0, trackingCb := true }

def everySecond : TrackingOptions := { LocationOptions.zero with minInterval := 1000 }

/-- The daemon processes a message, its calls on `LocationAPI` being accepted. -/
def processed : Event := .processClientMsg ⟨1, 1, none⟩ true true

/-- An active session is started, answered and stopped. -/
theorem subscriptions_agree_sample :
    Throughout (step .standalone)
      (fun s => s.client.mHalRegistered → s.toDaemon = [] → MasksAgree s) (.init ⟨1, by decide⟩)
      (register ++ [.call (.startPositionSession wantsLocations everySecond) true,
        processed, processed, .callback (.responseCb .success true), .onReceive true,
        .call .stopTrackingAndClearSubscriptions true, processed]) :=
  subscriptions_agree .standalone _ _ (by decide +kernel) (by decide +kernel)

/-- A passive session is started and stopped: the daemon is told of neither, so it goes
on reporting locations to a client that is no longer subscribed. -/
theorem subscriptions_disagree :
    ¬Throughout (step .standalone)
      (fun s => s.client.mHalRegistered → s.toDaemon = [] ∧ s.toClient = [] → MasksAgree s)
      (.init ⟨1, by decide⟩)
      (register ++ [.call (.startPositionSession wantsLocations .zero) true, processed,
        .call .stopTrackingAndClearSubscriptions true]) := by
  intro hall
  exact absurd hall.last (by decide +kernel)

end LocationStack.Link
