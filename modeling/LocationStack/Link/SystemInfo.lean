import LocationStack.Daemon.GeofenceSteps
import LocationStack.Link.Subscriptions
import LocationStack.Lib.BitMask

/-! # The listener for system information

An application may have a listener for system information, beside its sessions.  While there is
one, the client's mask has a bit of its own, and the daemon passes the reports of `LocationAPI` on
for the handler's copy of that bit.

What concerns sessions leaves the bit alone on both sides, and a client that registers again after
a restart of the daemon reports its whole mask.  So the daemon's bit says whether there is a
listener in any run that loses no message, whatever the sessions are, and however often the daemon
restarts.
-/
namespace LocationStack

open Ipc EventRun

/-! ## The client -/

namespace Client

/-- The bit of system information in a mask. -/
def sysInfoBit (mask : LocationCallbacksMask) : Bool := mask &&& eLocCbSystemInfoBit != 0

theorem sysInfoBit_eq (mask : LocationCallbacksMask) : sysInfoBit mask = mask.getLsbD 5 := by
  have h := BitMask.and_shiftLeft_eq_zero mask (k := 5) (by decide)
  rw [Bool.eq_iff_iff, sysInfoBit, bne_iff_ne, ← Bool.not_eq_false, ← h]
  rfl

theorem sysInfoBit_or (mask mask' : LocationCallbacksMask) :
    sysInfoBit (mask ||| mask') = (sysInfoBit mask || sysInfoBit mask') := by
  rw [sysInfoBit_eq, sysInfoBit_eq, sysInfoBit_eq, BitVec.getLsbD_or]

theorem sysInfoBit_and_not (mask mask' : LocationCallbacksMask) :
    sysInfoBit (mask &&& ~~~mask') = (sysInfoBit mask && !sysInfoBit mask') := by
  rw [sysInfoBit_eq, sysInfoBit_eq, sysInfoBit_eq, BitVec.getLsbD_and, BitVec.getLsbD_not]
  rfl

/-- The mask, as far as a listener that comes or goes changes it. -/
def sysInfoMask (mask : LocationCallbacksMask) (old new : Bool) : LocationCallbacksMask :=
  if new && !old then mask ||| eLocCbSystemInfoBit
  else if !new && old then mask &&& ~~~eLocCbSystemInfoBit
  else mask

/-- `updateLocationSystemInfoListener`, for a callback that may be null.  Beside the work there is
what `responseCb` is called with, if it is: a registered client tells it how the message to the
daemon fared, one that is not registered leaves it at that. -/
def LocationClientApiImpl.updateLocationSystemInfoListener (c : LocationClientApiImpl)
    (locationSystemInfoCb rc : Bool) : Result × Option LocationError :=
  let needIpc := locationSystemInfoCb != c.mLocationSysInfoCb
  let c := { c with
    mCallbacksMask := sysInfoMask c.mCallbacksMask c.mLocationSysInfoCb locationSystemInfoCb
    mLocationSysInfoCb := locationSystemInfoCb }
  if needIpc then
    if c.mHalRegistered then
      ((c, [.send (.updateCallbacks c.mCallbacksMask)]),
        some (if rc then .success else .generalFailure))
    else ((c, []), none)
  else ((c, []), some .success)

/-- A report of system information reaches the listener. -/
def LocationClientApiImpl.onLocationSystemInfo (c : LocationClientApiImpl) : Bool :=
  sysInfoBit c.mCallbacksMask && c.mLocationSysInfoCb

end Client

/-! ## The daemon -/

namespace Daemon

/-- `LocationAPI` has a callback for system information, and `onLocationSystemInfoCb` sends what it
is called with. -/
def LocHalDaemonClientHandler.reportsSystemInfo (h : LocHalDaemonClientHandler) : Bool :=
  h.mLocationApi && h.mCallbacks.locationSystemInfoCb &&
    (h.mIpcSender && maskHas h.mSubscriptionMask eLocCbSystemInfoBit)

end Daemon

namespace Link

open Client

/-- The system with the listener that is in force. -/
structure Listening where
  sys : Sys
  listener : Option Nat

def Listening.init (mClientId : { id : UInt32 // id ≠ 0 }) : Listening := ⟨.init mClientId, none⟩

inductive ListenerEvent
  | other (e : Event)
  /-- The application sets a listener, or none. -/
  | updateLocationSystemInfoListener (locationSystemInfoCb : Option Nat) (sent : Bool)

def listenerStep (mPositionMode : GnssSuplMode) (w : Listening) : ListenerEvent → Listening
  | .other e => { w with sys := step mPositionMode w.sys e }
  | .updateLocationSystemInfoListener locationSystemInfoCb sent =>
    { sys := w.sys.clientWork
        (w.sys.client.updateLocationSystemInfoListener locationSystemInfoCb.isSome sent).1 sent
      listener := locationSystemInfoCb }

/-! ## The client's mask -/

/-- What the client holds, if `b` says whether there is a listener. -/
structure Holds (b : Bool) (c : LocationClientApiImpl) : Prop where
  listener : c.mLocationSysInfoCb = b
  mask : sysInfoBit c.mCallbacksMask = b

/-- A message that says nothing else, and no registration. -/
def Told (b : Bool) : ReqMsg → Prop
  | .updateCallbacks mask => sysInfoBit mask = b
  | .clientRegister _ | .clientDeregister => False
  | .startTracking _ | .stopTracking _ | .updateTrackingOptions _ | .startBatching _ _ _
  | .stopBatching | .updateBatchingOptions _ _ _ | .addGeofences _ | .removeGeofences _
  | .modifyGeofences _ | .pauseGeofences _ | .resumeGeofences _ => True

/-- Work that keeps to this. -/
structure KeepsListener (b : Bool) (r : Client.Result) : Prop where
  holds : Holds b r.1
  told : AllSent (Told b) r

theorem KeepsListener.andThen {b : Bool} {r : Client.Result}
    {f : LocationClientApiImpl → Client.Result} (hr : KeepsListener b r)
    (hf : Holds b r.1 → KeepsListener b (f r.1)) : KeepsListener b (r.andThen f) where
  holds := (hf hr.holds).holds
  told := hr.told.andThen (hf hr.holds).told

section Work

variable {b : Bool} {c : LocationClientApiImpl}

/-- Work that changes neither, and reports no mask. -/
theorem Holds.keeps (h : Holds b c) {r : Client.Result}
    (hlistener : r.1.mLocationSysInfoCb = c.mLocationSysInfoCb)
    (hmask : r.1.mCallbacksMask = c.mCallbacksMask) (htold : AllSent (Told b) r) :
    KeepsListener b r :=
  ⟨⟨hlistener.trans h.listener, hmask ▸ h.mask⟩, htold⟩

theorem sysInfoBit_bitIf (cb : Bool) (bit : LocationCallbacksMask) :
    sysInfoBit (LocationClientApiImpl.bitIf cb bit) = (cb && sysInfoBit bit) := by
  cases cb
  · show sysInfoBit 0 = false
    decide
  · rfl

/-- Of all callbacks, only the listener has the bit. -/
theorem sysInfoBit_callBacksMask (callbacks : Client.LocationCallbacks) :
    sysInfoBit (c.callBacksMask callbacks) = c.mLocationSysInfoCb := by
  have hbits : [eLocCbTrackingBit, eLocCbGnssLocationInfoBit, eLocCbEngineLocationsInfoBit,
      eLocCbGnssSvBit, eLocCbGnssNmeaBit, eLocCbGnssDataBit, eLocCbGnssMeasBit,
      eLocCbGnssNhzMeasBit, eLocCbGnssDcReportBit, eLocCbEngineNmeaBit, eLocCbBatchingBit,
      eLocCbBatchingStatusBit, eLocCbGeofenceBreachBit, eLocCbGnssEphBit].all
        (fun bit => !sysInfoBit bit) = true := by decide
  simp only [List.all_cons, List.all_nil, Bool.and_true, Bool.and_eq_true,
    Bool.not_eq_true'] at hbits
  have hown : sysInfoBit eLocCbSystemInfoBit = true := by decide
  simp only [LocationClientApiImpl.callBacksMask, sysInfoBit_or, sysInfoBit_bitIf, hbits, hown,
    Bool.and_false, Bool.and_true, Bool.or_false, Bool.false_or]

theorem Holds.updateCallbacksSync (h : Holds b c) (callbacks : Client.LocationCallbacks) :
    KeepsListener b (c.updateCallbacksSync callbacks) := by
  have hmask : sysInfoBit (c.mCallbacksMask ||| c.callBacksMask callbacks) = b := by
    rw [sysInfoBit_or, sysInfoBit_callBacksMask, h.mask, h.listener, Bool.or_self]
  constructor
  · rw [c.updateCallbacksSync_fst]
    exact ⟨h.listener, hmask⟩
  · unfold AllSent
    rw [c.sent_updateCallbacksSync]
    split
    · simpa [Told] using hmask
    · simp

theorem Holds.startTrackingSync (h : Holds b c) (option : TrackingOptions) :
    KeepsListener b (c.startTrackingSync option) :=
  h.keeps (by rw [c.startTrackingSync_fst]) (by rw [c.startTrackingSync_fst])
    (c.startTrackingSync_allSent (fun _ => trivial) (fun _ => trivial) trivial option)

theorem Holds.startBatchingSync (h : Holds b c) (batchOptions : BatchingOptions) :
    KeepsListener b (c.startBatchingSync batchOptions) :=
  h.keeps (by rw [c.startBatchingSync_fst]) (by rw [c.startBatchingSync_fst])
    (c.startBatchingSync_allSent (fun _ _ _ => trivial) (fun _ _ _ => trivial) batchOptions)

theorem Holds.sendGeofences (h : Holds b c) (geofences : List GeofencePayload) :
    KeepsListener b (c.sendGeofences geofences) :=
  h.keeps (by rw [c.sendGeofences_fst]) (by rw [c.sendGeofences_fst])
    (c.sendGeofences_allSent (fun _ => trivial) geofences)

theorem Holds.requestGeofences (h : Holds b c) (ids : List UInt32)
    {request : List UInt32 → ReqMsg} (hrequest : ∀ ids, Told b (request ids)) :
    KeepsListener b (c.requestGeofences ids request) :=
  h.keeps (by rw [c.requestGeofences_fst]) (by rw [c.requestGeofences_fst])
    (c.requestGeofences_allSent hrequest ids)

theorem Holds.clearTrackingSubscriptions (h : Holds b c) :
    Holds b c.clearTrackingSubscriptions where
  listener := h.listener
  mask := by
    show sysInfoBit (c.mCallbacksMask &&& ~~~locationSessonAllInfoMask) = b
    have hsession : sysInfoBit locationSessonAllInfoMask = false := by decide
    rw [sysInfoBit_and_not, hsession, h.mask, Bool.not_false, Bool.and_true]

theorem Holds.clearGeofenceSubscriptions (h : Holds b c) :
    Holds b c.clearGeofenceSubscriptions where
  listener := h.listener
  mask := by
    show sysInfoBit (c.mCallbacksMask &&& ~~~locationGeofenceSessionMask) = b
    have hgeofence : sysInfoBit locationGeofenceSessionMask = false := by decide
    rw [sysInfoBit_and_not, hgeofence, h.mask, Bool.not_false, Bool.and_true]

theorem Holds.startPositionSession (h : Holds b c) (callbacks : Client.LocationCallbacks)
    (options : TrackingOptions) : KeepsListener b (c.startPositionSession callbacks options) := by
  unfold LocationClientApiImpl.startPositionSession
  split
  · exact h.keeps rfl rfl (.of_nil rfl)
  · split
    · exact h.keeps rfl rfl (.of_nil rfl)
    · have hpending : Holds b { c with mPositionSessionResponseCbPending := true } :=
        ⟨h.listener, h.mask⟩
      exact (hpending.clearTrackingSubscriptions.updateCallbacksSync callbacks).andThen
        fun h => h.startTrackingSync options

theorem Holds.startBatchingSession (h : Holds b c) (callbacks : Client.LocationCallbacks)
    (options : BatchingOptions) : KeepsListener b (c.startBatchingSession callbacks options) := by
  unfold LocationClientApiImpl.startBatchingSession
  split
  · exact h.keeps rfl rfl (.of_nil rfl)
  · split
    · exact h.keeps rfl rfl (.of_nil rfl)
    · have hpending : Holds b { c with mPositionSessionResponseCbPending := true } :=
        ⟨h.listener, h.mask⟩
      exact (hpending.updateCallbacksSync callbacks).andThen fun h => h.startBatchingSync options

theorem Holds.addGeofences (h : Holds b c) (callbacks : Client.LocationCallbacks)
    (geofences : List GeofencePayload) : KeepsListener b (c.addGeofences callbacks geofences) := by
  unfold LocationClientApiImpl.addGeofences
  split
  · rw [LocationClientApiImpl.foldl_addGeofenceMap_eq]
    exact ⟨⟨h.listener, h.mask⟩, .of_nil rfl⟩
  · have hpending : Holds b { c with mPositionSessionResponseCbPending := true } :=
      ⟨h.listener, h.mask⟩
    refine (hpending.updateCallbacksSync callbacks).andThen fun h => ?_
    refine Holds.sendGeofences ?_ geofences
    rw [LocationClientApiImpl.foldl_addGeofenceMap_eq]
    exact ⟨h.listener, h.mask⟩

/-- A call that is not the registration. -/
theorem Holds.work (h : Holds b c) {a : Call} (ha : a ≠ .clientRegister) :
    KeepsListener b (a.work c) := by
  cases a with
  | clientRegister => exact absurd rfl ha
  | updateCallbacks callbacks => exact h.updateCallbacksSync callbacks
  | startPositionSession callbacks options => exact h.startPositionSession callbacks options
  | stopTrackingAndClearSubscriptions =>
    refine ⟨Holds.clearTrackingSubscriptions ⟨h.listener, h.mask⟩, ?_⟩
    change ∀ msg ∈ sentReqs (c.stopTrackingSync true).2, _
    rw [c.sent_stopTrackingSync]
    split <;> simp [Told]
  | startBatchingSession callbacks options => exact h.startBatchingSession callbacks options
  | stopBatching =>
    refine h.keeps ?_ ?_ (c.stopBatching_allSent trivial)
    · rw [Call.work, LocationClientApiImpl.stopBatching]
      split <;> rfl
    · rw [Call.work, LocationClientApiImpl.stopBatching]
      split <;> rfl
  | addGeofences callbacks geofences => exact h.addGeofences callbacks geofences
  | removeGeofences ids => exact h.requestGeofences ids fun _ => trivial
  | modifyGeofences geofences =>
    exact h.keeps (by rw [Call.work, c.modifyGeofences_fst])
      (by rw [Call.work, c.modifyGeofences_fst]) (c.modifyGeofences_allSent (fun _ => trivial) _)
  | pauseGeofences ids => exact h.requestGeofences ids fun _ => trivial
  | resumeGeofences ids => exact h.requestGeofences ids fun _ => trivial

theorem Holds.resumeSession (h : Holds b c) : KeepsListener b c.resumeSession := by
  unfold LocationClientApiImpl.resumeSession
  split
  · have hidle : Holds b { c with mSessionId := 0 } := ⟨h.listener, h.mask⟩
    exact hidle.startTrackingSync _
  · split
    · have hidle : Holds b { c with mBatchingId := 0 } := ⟨h.listener, h.mask⟩
      exact hidle.startBatchingSync _
    · exact h.keeps rfl rfl (.of_nil rfl)

theorem Holds.resumeGeofenceMap (h : Holds b c) : KeepsListener b c.resumeGeofenceMap := by
  unfold LocationClientApiImpl.resumeGeofenceMap
  split
  · exact h.keeps rfl rfl (.of_nil rfl)
  · exact h.sendGeofences _

/-- The mask is reported, if there is something in it. -/
theorem Holds.capabilitesCallback (h : Holds b c) : KeepsListener b c.capabilitesCallback := by
  have hreport : KeepsListener b ({ c with mHalRegistered := true },
      if c.mCallbacksMask ≠ 0 then [.send (.updateCallbacks c.mCallbacksMask)] else []) := by
    refine ⟨⟨h.listener, h.mask⟩, ?_⟩
    unfold AllSent
    split
    · simpa [Told] using h.mask
    · simp
  unfold LocationClientApiImpl.capabilitesCallback
  dsimp only
  split
  · exact hreport
  · exact (hreport.andThen fun h => h.resumeSession).andThen fun h => h.resumeGeofenceMap

theorem Holds.onReceive (h : Holds b c) (msg : IndMsg) : KeepsListener b (c.onReceive msg) := by
  by_cases hmsg : ∃ mask, msg = .capabilities mask
  · obtain ⟨mask, rfl⟩ := hmsg
    exact h.capabilitesCallback
  · refine ⟨?_, .of_nil (c.sent_onReceive fun mask heq => hmsg ⟨mask, heq⟩)⟩
    cases msg with
    | capabilities mask => exact absurd ⟨mask, rfl⟩ hmsg
    | halReady => exact ⟨h.listener, h.mask⟩
    | genericResp msgId err =>
      simp only [LocationClientApiImpl.onReceive, LocationClientApiImpl.onGenericResponse]
      split
      · rw [c.invokePositionSessionResponseCb_fst]
        exact ⟨h.listener, h.mask⟩
      · exact h
    | collectiveResp msgId resp =>
      simp only [LocationClientApiImpl.onReceive, LocationClientApiImpl.onCollectiveResponse]
      split
      · dsimp only [LocationClientApiImpl.eraseGeofenceMap]
        split
        · have hcleared := h.clearGeofenceSubscriptions
          exact ⟨hcleared.listener, hcleared.mask⟩
        · exact ⟨h.listener, h.mask⟩
      · exact ⟨h.listener, h.mask⟩
    | geofenceBreach ids =>
      simp only [LocationClientApiImpl.onReceive, LocationClientApiImpl.onGeofenceBreach]
      split
      · split <;> exact h
      · exact h

end Work

/-! ## The daemon's bit -/

/-- Whether there is a handler, and its bit, after a message. -/
def bitAfter : Option Bool → ReqMsg → Option Bool
  | bit, .clientRegister _ => some (bit.getD false)
  | bit, .updateCallbacks mask => bit.map fun _ => sysInfoBit mask
  | bit, _ => bit

/-- The bit of the daemon's handler. -/
def handlerBit (client : Daemon.Entry) : Option Bool :=
  client.map fun h => sysInfoBit h.mSubscriptionMask

/-- The daemon's bit once it has processed what is on its way. -/
def Sys.finalBit (s : Sys) : Option Bool := run bitAfter (handlerBit s.daemon.client) s.toDaemon

theorem run_bitAfter_told {b : Bool} {msgs : List ReqMsg} (h : ∀ msg ∈ msgs, Told b msg)
    {bit : Option Bool} (hbit : ∀ x ∈ bit, x = b) : run bitAfter bit msgs = bit := by
  induction msgs with
  | nil => rfl
  | cons msg msgs ih =>
    have hmsg : bitAfter bit msg = bit := by
      have htold := h msg List.mem_cons_self
      cases msg with
      | clientRegister clientType => exact htold.elim
      | updateCallbacks mask =>
        cases bit with
        | none => rfl
        | some x => rw [bitAfter, Option.map_some, hbit x rfl, (htold : sysInfoBit mask = b)]
      | _ => rfl
    rw [run_cons, hmsg]
    exact ih fun msg' hmsg' => h msg' (List.mem_cons_of_mem _ hmsg')

theorem run_bitAfter_isSome {msgs : List ReqMsg} {bit : Option Bool} (hbit : bit.isSome) :
    (run bitAfter bit msgs).isSome := by
  induction msgs generalizing bit with
  | nil => exact hbit
  | cons msg msgs ih =>
    refine ih ?_
    cases msg with
    | clientRegister clientType => rfl
    | updateCallbacks mask => rwa [bitAfter, Option.isSome_map]
    | _ => exact hbit

/-- The handler can report, and has its callback if it has the bit. -/
structure Reporting (h : Daemon.LocHalDaemonClientHandler) : Prop where
  sender : h.mIpcSender = true
  api : h.mLocationApi = true
  synced : h.mCallbacks.locationSystemInfoCb = sysInfoBit h.mSubscriptionMask

theorem Reporting.reports {h : Daemon.LocHalDaemonClientHandler} (hr : Reporting h) :
    h.reportsSystemInfo = sysInfoBit h.mSubscriptionMask := by
  rw [Daemon.LocHalDaemonClientHandler.reportsSystemInfo, hr.api, hr.synced, hr.sender,
    Bool.true_and, Bool.true_and]
  exact Bool.and_self _

/-- The two change together. -/
def Synced (h : Daemon.LocHalDaemonClientHandler) : Prop :=
  h.mCallbacks.locationSystemInfoCb = sysInfoBit h.mSubscriptionMask

theorem ofMask_synced {h : Daemon.LocHalDaemonClientHandler} (mask : LocationCallbacksMask) :
    Synced { h with mSubscriptionMask := mask, mCallbacks := .ofMask mask } := by
  unfold Synced
  rfl

theorem stopTracking_synced {h : Daemon.LocHalDaemonClientHandler} (hs : Synced h)
    (clientExpectingResp : Bool) : Synced (h.stopTracking clientExpectingResp).1 := by
  unfold Daemon.LocHalDaemonClientHandler.stopTracking
  split <;> exact hs

open Daemon Daemon.LocHalDaemonClientHandler Daemon.LocationApiService in
theorem processClientMsg_synced (mPositionMode : GnssSuplMode) {h : LocHalDaemonClientHandler}
    (hs : Synced h) (msg : ReqMsg) (ret : HalReturns) (mIpcSender : Bool) :
    ∀ h' ∈ (processClientMsg mPositionMode (some h) msg ret mIpcSender true).1, Synced h' := by
  intro h' hh'
  have hgeofences : ∀ ids id call, Synced (onGeofences ids id call h).1 := by
    intro ids id call
    unfold onGeofences getSessionIds
    by_cases hids : ids.isEmpty
    · rw [if_pos hids]
      exact hs
    · rw [if_neg hids]
      exact hs
  cases msg with
  | clientRegister clientType =>
    rw [processClientMsg, newClient, h.sendCapabilitiesMsg_true.1] at hh'
    exact Option.some.inj hh' ▸ hs
  | clientDeregister => cases hh'
  | updateCallbacks mask =>
    cases Option.some.inj hh'
    exact ofMask_synced mask
  | startTracking options =>
    cases Option.some.inj hh'
    unfold LocationApiService.startTracking LocHalDaemonClientHandler.startTracking
    split <;> exact hs
  | stopTracking clear =>
    cases Option.some.inj hh'
    cases clear with
    | true => exact stopTracking_synced (ofMask_synced _) false
    | false => exact stopTracking_synced hs true
  | updateTrackingOptions options =>
    cases Option.some.inj hh'
    unfold LocationApiService.updateTrackingOptions
      LocHalDaemonClientHandler.updateTrackingOptions
    dsimp only
    split <;> exact hs
  | startBatching interval distance mode =>
    cases Option.some.inj hh'
    unfold LocationApiService.startBatching LocHalDaemonClientHandler.startBatching
    dsimp only
    split <;> split <;> exact hs
  | stopBatching =>
    cases Option.some.inj hh'
    unfold LocationApiService.stopBatching LocHalDaemonClientHandler.stopBatching
    dsimp only
    split <;> exact hs
  | updateBatchingOptions interval distance mode =>
    cases Option.some.inj hh'
    unfold LocationApiService.updateBatchingOptions
      LocHalDaemonClientHandler.updateBatchingOptions
    dsimp only
    split <;> exact hs
  | addGeofences geofences =>
    cases Option.some.inj hh'
    unfold LocationApiService.addGeofences LocHalDaemonClientHandler.addGeofences
    split
    · exact hs
    · dsimp only
      split <;> split <;> exact hs
  | removeGeofences ids =>
    cases Option.some.inj hh'
    exact hgeofences ids _ _
  | modifyGeofences geofences =>
    cases Option.some.inj hh'
    unfold LocationApiService.modifyGeofences
    split
    · exact hs
    · exact hgeofences _ _ _
  | pauseGeofences ids =>
    cases Option.some.inj hh'
    exact hgeofences ids _ _
  | resumeGeofences ids =>
    cases Option.some.inj hh'
    exact hgeofences ids _ _

/-- What a message of the library makes of the daemon's entry of the client. -/
theorem processClientMsg_bit (mPositionMode : GnssSuplMode) {client : Daemon.Entry}
    (hready : ∀ h ∈ client, Reporting h) {msg : ReqMsg} (hmsg : librarySends msg)
    (ret : Daemon.HalReturns) :
    let client' :=
      (Daemon.LocationApiService.processClientMsg mPositionMode client msg ret true true).1
    handlerBit client' = bitAfter (handlerBit client) msg ∧ ∀ h ∈ client', Reporting h := by
  have hdereg : msg ≠ .clientDeregister := not_deregister hmsg
  intro client'
  cases hc : client with
  | none =>
    subst hc
    by_cases hreg : ∃ clientType, msg = .clientRegister clientType
    · obtain ⟨clientType, rfl⟩ := hreg
      obtain rfl : clientType = .locationClientApi := eq_of_beq hmsg
      refine ⟨rfl, fun h hh => ?_⟩
      cases Option.some.inj hh
      exact ⟨rfl, rfl, rfl⟩
    · have hnone : client' = none := congrArg Prod.fst
        (Daemon.LocationApiService.processClientMsg_none mPositionMode
          (fun t heq => hreg ⟨t, heq⟩) ret true true)
      rw [hnone]
      refine ⟨?_, fun h hh => by cases hh⟩
      cases msg with
      | clientRegister clientType => exact absurd ⟨clientType, rfl⟩ hreg
      | _ => rfl
  | some h =>
    subst hc
    have hr := hready h rfl
    obtain ⟨h', hh'⟩ : ∃ h', client' = some h' := Option.isSome_iff_exists.mp
      (Daemon.LocationApiService.processClientMsg_isSome mPositionMode h hdereg ret true)
    have hsucceeds := Daemon.processClientMsg_succeeds mPositionMode h msg ret true true h' hh'
    have hsynced := processClientMsg_synced mPositionMode hr.synced msg ret true h' hh'
    have hmask : handlerMask client' = maskAfter h.mSubscriptionMask msg :=
      processClientMsg_mask mPositionMode h hdereg ret true
    rw [hh'] at hmask
    rw [hh']
    refine ⟨?_, fun h'' hh'' => ?_⟩
    · show some (sysInfoBit h'.mSubscriptionMask) =
        bitAfter (some (sysInfoBit h.mSubscriptionMask)) msg
      rw [show h'.mSubscriptionMask = maskAfter h.mSubscriptionMask msg from hmask]
      cases msg with
      | stopTracking clear =>
        have hsession : sysInfoBit locationSessonAllInfoMask = false := by decide
        cases clear with
        | true =>
          rw [maskAfter, if_pos rfl, sysInfoBit_and_not, hsession, Bool.not_false, Bool.and_true]
          rfl
        | false => rfl
      | _ => rfl
    · cases Option.some.inj hh''
      exact ⟨hsucceeds.sender.trans hr.sender, hsucceeds.api.trans hr.api, hsynced⟩

/-! ## Steps -/

/-- Nothing is lost, a handler is made with a sender, and the client registers only when it is not
registered, and no restart of the daemon is on its way to it. -/
def SoundStep (w : Listening) : ListenerEvent → Prop
  | .other (.call a sent) => sent = true ∧
      (a = .clientRegister → w.sys.client.mHalRegistered = false ∧ .halReady ∉ w.sys.toClient)
  | .other (.processClientMsg _ mIpcSender rc) => mIpcSender = true ∧ rc = true
  | .other (.callback d) => Daemon.callbackSent d = true
  | .other (.onReceive sent) => sent = true
  | .other .restart => True
  | .updateLocationSystemInfoListener _ sent => sent = true

instance (w : Listening) : (e : ListenerEvent) → Decidable (SoundStep w e)
  | .other (.call _ _) => inferInstanceAs (Decidable (_ ∧ _))
  | .other (.processClientMsg _ _ _) => inferInstanceAs (Decidable (_ ∧ _))
  | .other (.callback _) => inferInstanceAs (Decidable (_ = _))
  | .other (.onReceive _) => inferInstanceAs (Decidable (_ = _))
  | .other .restart => inferInstanceAs (Decidable True)
  | .updateLocationSystemInfoListener _ _ => inferInstanceAs (Decidable (_ = _))

/-- The daemon's bit is on its way to what the listener says.  A daemon that has restarted tells
nobody anything before the client knows of it. -/
structure Follows (w : Listening) : Prop where
  holds : Holds w.listener.isSome w.sys.client
  requests : ∀ msg ∈ w.sys.toDaemon, librarySends msg
  ready : ∀ h ∈ w.sys.daemon.client, Reporting h
  restarted : .halReady ∈ w.sys.toClient →
    w.sys.finalBit = none ∧ w.sys.toClient.getLast? = some .halReady
  registered : .halReady ∉ w.sys.toClient → w.sys.client.mHalRegistered = true →
    w.sys.finalBit = some w.listener.isSome
  unregistered : .halReady ∉ w.sys.toClient → w.sys.client.mHalRegistered = false →
    w.sys.finalBit ≠ some true ∧
      ((∃ mask, .capabilities mask ∈ w.sys.toClient) → w.sys.finalBit.isSome)

theorem init_follows (mClientId : { id : UInt32 // id ≠ 0 }) : Follows (.init mClientId) where
  holds := by
    refine ⟨rfl, ?_⟩
    show sysInfoBit 0 = false
    decide
  requests msg hmsg := absurd hmsg List.not_mem_nil
  ready h hh := by cases hh
  restarted h := absurd h List.not_mem_nil
  registered _ h := by cases h
  unregistered _ _ := by
    refine ⟨by rintro ⟨⟩, ?_⟩
    rintro ⟨mask, hmask⟩
    exact absurd hmask List.not_mem_nil

theorem finalBit_clientWork (s : Sys) (r : Client.Result) :
    (s.clientWork r true).finalBit = run bitAfter s.finalBit (sentReqs r.2) := by
  rw [Sys.finalBit, Sys.clientWork, if_pos rfl, run_append]
  rfl

/-- A stop of batching says nothing. -/
theorem run_bitAfter_stopBatching {msgs : List ReqMsg} (h : ∀ msg ∈ msgs, msg = .stopBatching)
    (bit : Option Bool) : run bitAfter bit msgs = bit := by
  cases bit with
  | none =>
    exact run_bitAfter_told (b := false) (fun msg hmsg => h msg hmsg ▸ trivial) (by simp)
  | some x =>
    exact run_bitAfter_told (b := x) (fun msg hmsg => h msg hmsg ▸ trivial) (by simp)

variable {w : Listening}

theorem Follows.work (hw : Follows w) {a : Call} (ha : a ≠ .clientRegister) :
    Follows { w with sys := w.sys.clientWork (a.work w.sys.client) true } := by
  have hkeeps := hw.holds.work ha
  have hreg := a.work_registered w.sys.client
  have hlibrary := a.work_library w.sys.client
  exact
    { holds := hkeeps.holds
      requests := by
        intro msg hmsg
        rcases List.mem_append.mp hmsg with hold | hnew
        · exact hw.requests msg hold
        · exact hlibrary msg hnew
      ready := hw.ready
      restarted := by
        intro hready
        obtain ⟨hnone, hlast⟩ := hw.restarted hready
        refine ⟨?_, hlast⟩
        rw [finalBit_clientWork, hnone]
        exact run_bitAfter_told hkeeps.told (by simp)
      registered := by
        intro hready hr
        have hbit := hw.registered hready (hreg.symm.trans hr)
        rw [finalBit_clientWork, hbit]
        exact run_bitAfter_told hkeeps.told (by simp)
      unregistered := by
        intro hready hr
        have hstop : ∀ msg ∈ sentReqs (a.work w.sys.client).2, msg = .stopBatching := by
          intro msg hmsg
          rcases a.work_unregistered (hreg.symm.trans hr) msg hmsg with rfl | rfl
          · exact (hkeeps.told _ hmsg).elim
          · rfl
        rw [finalBit_clientWork, run_bitAfter_stopBatching hstop]
        exact hw.unregistered hready (hreg.symm.trans hr) }

theorem Follows.clientRegister (hw : Follows w) (hreg : w.sys.client.mHalRegistered = false)
    (hready : .halReady ∉ w.sys.toClient) :
    Follows { w with
      sys := w.sys.clientWork ((Call.clientRegister).work w.sys.client) true } where
  holds := hw.holds
  requests := by
    intro msg hmsg
    rcases List.mem_append.mp hmsg with hold | hnew
    · exact hw.requests msg hold
    · rw [List.mem_singleton.mp hnew]
      rfl
  ready := hw.ready
  restarted h := absurd h hready
  registered _ hr := absurd (hreg.symm.trans hr) Bool.false_ne_true
  unregistered _ _ := by
    have hbit := (hw.unregistered hready hreg).1
    rw [finalBit_clientWork]
    refine ⟨?_, fun _ => rfl⟩
    show some (w.sys.finalBit.getD false) ≠ some true
    cases hfinal : w.sys.finalBit with
    | none => decide
    | some x =>
      rw [hfinal] at hbit
      exact hbit

/-- The daemon does something that leaves the bit, and says nothing if it has no handler. -/
theorem Follows.served (hw : Follows w) {sys' : Sys} (hclient : sys'.client = w.sys.client)
    {msgs : List IndMsg} (htoClient : sys'.toClient = w.sys.toClient ++ msgs)
    (hrequests : ∀ msg ∈ sys'.toDaemon, librarySends msg)
    (hready : ∀ h ∈ sys'.daemon.client, Reporting h) (hbit : sys'.finalBit = w.sys.finalBit)
    (hnot : .halReady ∉ msgs) (hsilent : w.sys.finalBit = none → msgs = []) :
    Follows { w with sys := sys' } := by
  have hiff : .halReady ∈ sys'.toClient ↔ .halReady ∈ w.sys.toClient := by
    rw [htoClient, List.mem_append, or_iff_left hnot]
  exact
    { holds := hclient ▸ hw.holds
      requests := hrequests
      ready := hready
      restarted := by
        intro hmem
        obtain ⟨hnone, hlast⟩ := hw.restarted (hiff.mp hmem)
        refine ⟨hbit.trans hnone, ?_⟩
        rw [htoClient, hsilent hnone, List.append_nil]
        exact hlast
      registered := by
        intro hmem hreg
        exact hbit.trans (hw.registered (mt hiff.mpr hmem) (hclient ▸ hreg))
      unregistered := by
        intro hmem hreg
        obtain ⟨hfalse, hsome⟩ := hw.unregistered (mt hiff.mpr hmem) (hclient ▸ hreg)
        refine ⟨hbit ▸ hfalse, ?_⟩
        rintro ⟨mask, hmask⟩
        rw [hbit]
        rcases List.mem_append.mp (htoClient ▸ hmask) with hold | hnew
        · exact hsome ⟨mask, hold⟩
        · rw [Option.isSome_iff_ne_none]
          intro hnone
          rw [hsilent hnone] at hnew
          exact absurd hnew List.not_mem_nil }

/-- There is no handler if there is not to be one. -/
theorem client_of_finalBit {s : Sys} (h : s.finalBit = none) : s.daemon.client = none := by
  cases hc : s.daemon.client with
  | none => rfl
  | some handler =>
    have hsome : s.finalBit.isSome := by
      rw [Sys.finalBit, hc]
      exact run_bitAfter_isSome rfl
    rw [h] at hsome
    cases hsome

/-- The daemon processes its oldest message. -/
theorem Follows.request (hw : Follows w) (mPositionMode : GnssSuplMode) {msg : ReqMsg}
    {rest : List ReqMsg} (hq : w.sys.toDaemon = msg :: rest) {ret : Daemon.HalReturns}
    (hret : w.sys.daemon.hal.MayAnswer ret msg) :
    Follows { w with
      sys := { w.sys with toDaemon := rest }.daemonWork mPositionMode
        (.request msg ret true true) } := by
  have hmsg : librarySends msg := hw.requests msg (by rw [hq]; exact List.mem_cons_self)
  obtain ⟨hbit, hrep⟩ := processClientMsg_bit mPositionMode hw.ready hmsg ret
  have hready := Daemon.halReady_notMem_sent mPositionMode w.sys.daemon (.request msg ret true true)
  refine hw.served rfl rfl ?_ ?_ ?_ hready ?_
  · intro msg' hmsg'
    exact hw.requests msg' (by rw [hq]; exact List.mem_cons_of_mem _ hmsg')
  · intro h hh
    dsimp only [Sys.daemonWork] at hh
    rw [Daemon.stepActs_request _ hret] at hh
    exact hrep h hh
  · dsimp only [Sys.finalBit, Sys.daemonWork]
    rw [Daemon.stepActs_request _ hret, hq, run_cons, ← hbit]
    rfl
  · intro hnone
    rw [Daemon.stepActs_request _ hret, client_of_finalBit hnone]
    exact Daemon.LocationApiService.sent_none mPositionMode msg ret true true

theorem Follows.callback (hw : Follows w) (mPositionMode : GnssSuplMode) {d : Daemon.Event}
    (hd : Daemon.isCallback d) (hsent : Daemon.callbackSent d) :
    Follows { w with sys := w.sys.daemonWork mPositionMode d } := by
  have hready := Daemon.halReady_notMem_sent mPositionMode w.sys.daemon d
  cases hc : w.sys.daemon.client with
  | none =>
    have hnothing := Daemon.callback_none mPositionMode hc hd
    refine hw.served rfl rfl hw.requests ?_ ?_ hready fun _ => ?_
    · rw [Sys.daemonWork, hnothing]
      exact hw.ready
    · rw [Sys.daemonWork, hnothing]
      rfl
    · rw [hnothing]
      rfl
  | some h =>
    obtain ⟨h', hc', hkept⟩ := Daemon.callback_kept mPositionMode hc hd hsent
    have hr := hw.ready h hc
    refine hw.served rfl rfl hw.requests ?_ ?_ hready fun hnone => ?_
    · intro h'' hh''
      cases Option.some.inj (hc'.symm.trans hh'')
      rw [hkept]
      exact ⟨hr.sender, hr.api, hr.synced⟩
    · dsimp only [Sys.finalBit, Sys.daemonWork]
      rw [hc', hc, hkept]
      rfl
    · rw [client_of_finalBit hnone] at hc
      cases hc

theorem Follows.restart (hw : Follows w) :
    Follows { w with sys := { w.sys with
      toDaemon := [], daemon := .init, toClient := w.sys.toClient ++ [.halReady] } } where
  holds := hw.holds
  requests msg hmsg := absurd hmsg List.not_mem_nil
  ready h hh := by cases hh
  restarted _ := ⟨rfl, List.getLast?_concat⟩
  registered h := absurd (List.mem_append_right _ List.mem_cons_self) h
  unregistered h := absurd (List.mem_append_right _ List.mem_cons_self) h

/-- A client that is told the capabilities reports its mask before anything else. -/
theorem run_capabilities {b : Bool} {c : LocationClientApiImpl} (h : Holds b c) {x : Bool}
    (hx : c.mCallbacksMask = 0 → x = b) :
    run bitAfter (some x) (sentReqs c.capabilitesCallback.2) = some b := by
  have htold := h.capabilitesCallback.told
  by_cases hzero : c.mCallbacksMask = 0
  · rw [hx hzero]
    exact run_bitAfter_told htold (by simp)
  · obtain ⟨rest, hrest⟩ : ∃ rest,
        sentReqs c.capabilitesCallback.2 = .updateCallbacks c.mCallbacksMask :: rest := by
      unfold LocationClientApiImpl.capabilitesCallback
      dsimp only
      rw [if_pos hzero]
      split <;> exact ⟨_, rfl⟩
    rw [hrest, run_cons, bitAfter, Option.map_some, h.mask]
    refine run_bitAfter_told (fun msg hmsg => htold msg ?_) (by simp)
    rw [hrest]
    exact List.mem_cons_of_mem _ hmsg

/-- The client processes its oldest message. -/
theorem Follows.onReceive (hw : Follows w) {msg : IndMsg} {rest : List IndMsg}
    (hq : w.sys.toClient = msg :: rest) :
    Follows { w with
      sys := { w.sys with toClient := rest }.clientWork (w.sys.client.onReceive msg) true } := by
  have hkeeps := hw.holds.onReceive msg
  have hrest : ∀ msg' ∈ rest, msg' ∈ w.sys.toClient := by
    intro msg' hmsg'
    rw [hq]
    exact List.mem_cons_of_mem _ hmsg'
  have hfinal : ∀ r : Client.Result, ({ w.sys with toClient := rest }.clientWork r true).finalBit =
      run bitAfter w.sys.finalBit (sentReqs r.2) :=
    fun r => finalBit_clientWork { w.sys with toClient := rest } r
  have hrequests : ∀ msg' ∈ ({ w.sys with toClient := rest }.clientWork
      (w.sys.client.onReceive msg) true).toDaemon, librarySends msg' := by
    intro msg' hmsg'
    rcases List.mem_append.mp hmsg' with hold | hnew
    · exact hw.requests msg' hold
    · exact w.sys.client.onReceive_library msg msg' hnew
  have hrestarted : .halReady ∈ rest → ({ w.sys with toClient := rest }.clientWork
      (w.sys.client.onReceive msg) true).finalBit = none ∧ rest.getLast? = some .halReady := by
    intro hmem
    obtain ⟨hnone, hlast⟩ := hw.restarted (hrest _ hmem)
    constructor
    · rw [hfinal, hnone]
      exact run_bitAfter_told hkeeps.told (by simp)
    · rw [hq, List.getLast?_cons_of_ne_nil (List.ne_nil_of_mem hmem)] at hlast
      exact hlast
  by_cases hcap : ∃ mask, msg = .capabilities mask
  · obtain ⟨mask, rfl⟩ := hcap
    refine ⟨hkeeps.holds, hrequests, hw.ready, hrestarted, fun hnot _ => ?_, fun _ hreg => ?_⟩
    · have hnot' : .halReady ∉ w.sys.toClient := by
        rw [hq, List.mem_cons, not_or]
        exact ⟨by rintro ⟨⟩, hnot⟩
      rw [hfinal]
      cases hreg : w.sys.client.mHalRegistered with
      | true =>
        rw [hw.registered hnot' hreg]
        exact run_capabilities hw.holds fun _ => rfl
      | false =>
        obtain ⟨hfalse, hsome⟩ := hw.unregistered hnot' hreg
        obtain ⟨x, hx⟩ := Option.isSome_iff_exists.mp
          (hsome ⟨mask, by rw [hq]; exact List.mem_cons_self⟩)
        rw [hx]
        refine run_capabilities hw.holds fun hzero => ?_
        rw [hx] at hfalse
        have hb := hw.holds.mask
        rw [hzero, show sysInfoBit 0 = false by decide] at hb
        rw [← hb]
        exact Bool.eq_false_iff.mpr fun htrue => hfalse (congrArg some htrue)
    · exact absurd (w.sys.client.capabilitesCallback_registered.symm.trans hreg) (by decide)
  · have hcap' : ∀ mask, msg ≠ .capabilities mask := fun mask heq => hcap ⟨mask, heq⟩
    have hsame : ({ w.sys with toClient := rest }.clientWork
        (w.sys.client.onReceive msg) true).finalBit = w.sys.finalBit := by
      rw [hfinal, w.sys.client.sent_onReceive hcap', run_nil]
    by_cases hready : msg = .halReady
    · subst hready
      obtain ⟨hnone, hlast⟩ := hw.restarted (by rw [hq]; exact List.mem_cons_self)
      refine ⟨hkeeps.holds, hrequests, hw.ready, hrestarted, fun _ hreg => ?_, fun hnot _ => ?_⟩
      · cases hreg
      · -- the restart was the last thing that the daemon told
        have hempty : rest = [] := by
          by_contra hne
          rw [hq, List.getLast?_cons_of_ne_nil hne] at hlast
          exact hnot (List.mem_of_getLast? hlast)
        refine ⟨by rw [hsame, hnone]; rintro ⟨⟩, ?_⟩
        rintro ⟨mask, hmask⟩
        rw [hempty] at hrest hmask
        exact absurd hmask List.not_mem_nil
    · have hreg := w.sys.client.onReceive_registered hcap' hready
      have hnot' : .halReady ∉ rest → .halReady ∉ w.sys.toClient := by
        intro hnot
        rw [hq, List.mem_cons, not_or]
        exact ⟨Ne.symm hready, hnot⟩
      refine ⟨hkeeps.holds, hrequests, hw.ready, hrestarted, fun hnot hr => ?_, fun hnot hr => ?_⟩
      · exact hsame.trans (hw.registered (hnot' hnot) (hreg.symm.trans hr))
      · obtain ⟨hfalse, hsome⟩ := hw.unregistered (hnot' hnot) (hreg.symm.trans hr)
        refine ⟨hsame ▸ hfalse, ?_⟩
        rintro ⟨mask, hmask⟩
        exact hsame ▸ hsome ⟨mask, hrest _ hmask⟩

/-- The mask has the bit if there is a listener. -/
theorem sysInfoBit_sysInfoMask {mask : LocationCallbacksMask} {old : Bool}
    (h : sysInfoBit mask = old) (new : Bool) : sysInfoBit (sysInfoMask mask old new) = new := by
  have hown : sysInfoBit eLocCbSystemInfoBit = true := by decide
  cases new with
  | true =>
    cases old with
    | true => exact h
    | false =>
      show sysInfoBit (mask ||| eLocCbSystemInfoBit) = true
      rw [sysInfoBit_or, hown, Bool.or_true]
  | false =>
    cases old with
    | true =>
      show sysInfoBit (mask &&& ~~~eLocCbSystemInfoBit) = false
      rw [sysInfoBit_and_not, hown, Bool.not_true, Bool.and_false]
    | false => exact h

theorem updateLocationSystemInfoListener_fst (c : LocationClientApiImpl) (cb rc : Bool) :
    (c.updateLocationSystemInfoListener cb rc).1.1 =
      { c with
        mCallbacksMask := sysInfoMask c.mCallbacksMask c.mLocationSysInfoCb cb
        mLocationSysInfoCb := cb } := by
  unfold LocationClientApiImpl.updateLocationSystemInfoListener
  dsimp only
  split
  · split <;> rfl
  · rfl

theorem sent_updateLocationSystemInfoListener (c : LocationClientApiImpl) (cb rc : Bool) :
    sentReqs (c.updateLocationSystemInfoListener cb rc).1.2 =
      if (cb != c.mLocationSysInfoCb) && c.mHalRegistered then
        [.updateCallbacks (sysInfoMask c.mCallbacksMask c.mLocationSysInfoCb cb)]
      else [] := by
  unfold LocationClientApiImpl.updateLocationSystemInfoListener
  dsimp only
  cases cb != c.mLocationSysInfoCb <;> cases c.mHalRegistered <;> rfl

/-- A listener comes, goes, or takes the place of another. -/
theorem Follows.listener (hw : Follows w) (cb : Option Nat) :
    Follows {
      sys := w.sys.clientWork
        (w.sys.client.updateLocationSystemInfoListener cb.isSome true).1 true
      listener := cb } := by
  have hmask := sysInfoBit_sysInfoMask (hw.holds.mask.trans hw.holds.listener.symm) cb.isSome
  have hfst := updateLocationSystemInfoListener_fst w.sys.client cb.isSome true
  have hsent := sent_updateLocationSystemInfoListener w.sys.client cb.isSome true
  have hreg : (w.sys.client.updateLocationSystemInfoListener cb.isSome true).1.1.mHalRegistered =
      w.sys.client.mHalRegistered := by rw [hfst]
  revert hfst hsent hreg
  generalize (w.sys.client.updateLocationSystemInfoListener cb.isSome true).1 = r
  intro hfst hsent hreg
  exact
    { holds := by
        show Holds cb.isSome r.1
        rw [hfst]
        exact ⟨rfl, hmask⟩
      requests := by
        intro msg hmsg
        rcases List.mem_append.mp hmsg with hold | hnew
        · exact hw.requests msg hold
        · rw [if_pos rfl, hsent] at hnew
          split at hnew
          · rw [List.mem_singleton.mp hnew]
            rfl
          · exact absurd hnew List.not_mem_nil
      ready := hw.ready
      restarted := by
        intro hready
        obtain ⟨hnone, hlast⟩ := hw.restarted hready
        refine ⟨?_, hlast⟩
        rw [finalBit_clientWork, hnone, hsent]
        split <;> rfl
      registered := by
        intro hready hr
        have hr' := hreg.symm.trans hr
        rw [finalBit_clientWork, hw.registered hready hr', hsent, hr', Bool.and_true]
        split
        · rw [run_cons, run_nil, bitAfter, Option.map_some, hmask]
        · rename_i hsame
          have hsame' : cb.isSome = w.sys.client.mLocationSysInfoCb := by simpa using hsame
          rw [run_nil, hsame', hw.holds.listener]
      unregistered := by
        intro hready hr
        have hr' := hreg.symm.trans hr
        rw [finalBit_clientWork, hsent, hr', Bool.and_false, if_neg Bool.false_ne_true, run_nil]
        exact hw.unregistered hready hr' }

theorem listenerStep_follows (mPositionMode : GnssSuplMode) (w : Listening) (e : ListenerEvent)
    (hw : Follows w) (hstep : SoundStep w e) : Follows (listenerStep mPositionMode w e) := by
  cases e with
  | updateLocationSystemInfoListener cb sent =>
    cases (hstep : sent = true)
    exact hw.listener cb
  | other e =>
    rw [listenerStep]
    refine step_induction (I := fun sys => Follows { w with sys := sys }) e hw ?_ ?_ ?_ ?_ ?_
    · rintro a sent rfl
      obtain ⟨hsent, hregister⟩ := hstep
      cases (hsent : sent = true)
      by_cases ha : a = .clientRegister
      · subst ha
        obtain ⟨hreg, hready⟩ := hregister rfl
        exact hw.clientRegister hreg hready
      · exact hw.work ha
    · rintro ret mIpcSender rc rfl msg rest hq hret
      obtain ⟨hsender, hrc⟩ := hstep
      cases (hsender : mIpcSender = true)
      cases (hrc : rc = true)
      exact hw.request mPositionMode hq hret
    · rintro d rfl hd
      exact hw.callback mPositionMode hd hstep
    · rintro sent rfl msg rest hq
      cases (hstep : sent = true)
      exact hw.onReceive hq
    · rintro rfl
      exact hw.restart

/-! ## Runs -/

/-- The daemon reports to the client, and the client to its listener, if there is one. -/
def ReportsToListener (w : Listening) : Prop :=
  w.sys.daemon.client.map Daemon.LocHalDaemonClientHandler.reportsSystemInfo =
      some w.listener.isSome ∧
    w.sys.client.onLocationSystemInfo = w.listener.isSome

/-- **System information follows its listener.**  In a run that loses no message, in which the
client registers only when it has to, whenever a registered client has no message on its way to the
daemon, and no restart of the daemon is on its way to the client: a report of `LocationAPI` is
passed on to the client, and by the client, if and only if there is a listener.  The sessions of
the client do not matter, nor how often the daemon has restarted. -/
theorem system_info_follows_listener (mPositionMode : GnssSuplMode)
    (mClientId : { id : UInt32 // id ≠ 0 }) (es : List ListenerEvent)
    (hsound : Meets (listenerStep mPositionMode) SoundStep (.init mClientId) es) :
    Throughout (listenerStep mPositionMode)
      (fun w => w.sys.client.mHalRegistered = true → w.sys.toDaemon = [] →
        .halReady ∉ w.sys.toClient → ReportsToListener w)
      (.init mClientId) es := by
  refine (throughout_of_meets (listenerStep_follows mPositionMode) (init_follows mClientId)
    hsound).imp ?_
  intro w hw hreg hidle hready
  have hbit := hw.registered hready hreg
  rw [Sys.finalBit, hidle, run_nil] at hbit
  obtain ⟨h, hc, hbit⟩ := Option.map_eq_some_iff.mp hbit
  constructor
  · rw [hc, Option.map_some, (hw.ready h hc).reports, hbit]
  · rw [LocationClientApiImpl.onLocationSystemInfo, hw.holds.mask, hw.holds.listener,
      Bool.and_self]

/-- A listener is set while the client registers, and the daemon restarts during a session of
the client. -/
theorem system_info_follows_listener_sample :
    Throughout (listenerStep .standalone)
      (fun w => w.sys.client.mHalRegistered = true → w.sys.toDaemon = [] →
        .halReady ∉ w.sys.toClient → ReportsToListener w)
      (.init ⟨1, by decide⟩)
      (.other (.call .clientRegister true) :: .updateLocationSystemInfoListener (some 1) true ::
        ([.processClientMsg ⟨0, 0, none⟩ true true, .callback (.capabilitiesCb 1 true),
            .onReceive true, processed,
            .call (.startPositionSession wantsLocations everySecond) true, processed, processed,
            .restart, .onReceive true, .onReceive true] ++ register).map .other ++
        [.updateLocationSystemInfoListener none true, .other processed]) :=
  system_info_follows_listener .standalone _ _ (by decide +kernel)

end Link
end LocationStack
