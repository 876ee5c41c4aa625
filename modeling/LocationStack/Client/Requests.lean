import LocationStack.Client.Impl

/-! # What the client's work sends

For each piece of work the list of its messages, and what it leaves of the object: the
facts about the client library that the properties of the link to the daemon use.
-/
namespace LocationStack.Client

open Ipc

/-- The messages among what a piece of work did. -/
def sentReqs (outs : List Out) : List ReqMsg :=
  outs.filterMap fun
    | .send msg => some msg
    | _ => none

@[simp] theorem sentReqs_nil : sentReqs [] = [] := rfl

@[simp] theorem sentReqs_send (msg : ReqMsg) (outs : List Out) :
    sentReqs (.send msg :: outs) = msg :: sentReqs outs := rfl

@[simp] theorem sentReqs_responseCb (cb : Option Nat) (err : LocationError)
    (outs : List Out) : sentReqs (.responseCb cb err :: outs) = sentReqs outs := rfl

@[simp] theorem sentReqs_collectiveResponseCb (set : Bool)
    (resp : List (UInt32 × LocationError)) (outs : List Out) :
    sentReqs (.collectiveResponseCb set resp :: outs) = sentReqs outs := rfl

@[simp] theorem sentReqs_geofenceBreachCb (ids : List UInt32) (outs : List Out) :
    sentReqs (.geofenceBreachCb ids :: outs) = sentReqs outs := rfl

@[simp] theorem sentReqs_outOfRange (id : UInt32) (outs : List Out) :
    sentReqs (.outOfRange id :: outs) = sentReqs outs := rfl

@[simp] theorem sentReqs_append (outs outs' : List Out) :
    sentReqs (outs ++ outs') = sentReqs outs ++ sentReqs outs' := List.filterMap_append

@[simp] theorem Result.andThen_fst (r : Result) (f : LocationClientApiImpl → Result) :
    (r.andThen f).1 = (f r.1).1 := rfl

@[simp] theorem Result.andThen_snd (r : Result) (f : LocationClientApiImpl → Result) :
    (r.andThen f).2 = r.2 ++ (f r.1).2 := rfl

namespace LocationClientApiImpl

variable (c : LocationClientApiImpl)

@[simp] theorem isInTracking_iff : c.isInTracking = true ↔ c.mSessionId ≠ 0 := by
  simp [isInTracking]

@[simp] theorem isInTracking_eq_false : c.isInTracking = false ↔ c.mSessionId = 0 := by
  simp [isInTracking]

@[simp] theorem isInBatching_iff : c.isInBatching = true ↔ c.mBatchingId ≠ 0 := by
  simp [isInBatching]

@[simp] theorem isInBatching_eq_false : c.isInBatching = false ↔ c.mBatchingId = 0 := by
  simp [isInBatching]

/-! ## Sessions -/

@[simp] theorem clearTrackingSubscriptions_registered :
    c.clearTrackingSubscriptions.mHalRegistered = c.mHalRegistered := rfl

@[simp] theorem sent_callResponseCb (err : LocationError) :
    sentReqs [c.callResponseCb err] = [] := rfl

theorem invokePositionSessionResponseCb_fst (err : LocationError) :
    (c.invokePositionSessionResponseCb err).1 =
      { c with mPositionSessionResponseCbPending := false } := by
  unfold invokePositionSessionResponseCb
  cases hp : c.mPositionSessionResponseCbPending with
  | true => rfl
  | false => rw [if_neg (by simp), ← hp]

theorem sent_invokePositionSessionResponseCb (err : LocationError) :
    sentReqs (c.invokePositionSessionResponseCb err).2 = [] := by
  unfold invokePositionSessionResponseCb
  split
  · dsimp only
    split <;> rfl
  · rfl

/-- Bits that are all there add nothing. -/
theorem or_eq_left_of_and_eq {x y : LocationCallbacksMask} (h : x &&& y = y) :
    x ||| y = x := by
  rw [← h]
  ext i
  simp
  exact fun hx _ => hx

theorem updateCallbacksSync_fst (callbacks : LocationCallbacks) :
    (c.updateCallbacksSync callbacks).1 =
      { c with
        mCallbacksMask := c.mCallbacksMask ||| c.callBacksMask callbacks
        mLocationCbs := mergeCallbacks c.mLocationCbs callbacks } := by
  unfold updateCallbacksSync
  dsimp only
  split
  · rfl
  · rename_i hall
    rw [or_eq_left_of_and_eq (by simpa using hall)]

theorem sent_updateCallbacksSync (callbacks : LocationCallbacks) :
    sentReqs (c.updateCallbacksSync callbacks).2 =
      if c.mCallbacksMask &&& c.callBacksMask callbacks ≠ c.callBacksMask callbacks ∧
          c.mHalRegistered then
        [.updateCallbacks (c.mCallbacksMask ||| c.callBacksMask callbacks)]
      else [] := by
  unfold updateCallbacksSync
  dsimp only
  split
  · cases hr : c.mHalRegistered <;> simp [*]
  · simp [*]

theorem sent_startTrackingSync (option : TrackingOptions) :
    sentReqs (c.startTrackingSync option).2 =
      if c.mHalRegistered then
        if c.isInTracking then
          if c.isOptionUpdated option then [c.trackingUpdate option true] else []
        else if option.active then [.startTracking option] else []
      else [] := by
  unfold startTrackingSync updateTrackingOptionsSync
  cases c.mHalRegistered <;> cases c.isInTracking <;> cases c.isOptionUpdated option <;>
    cases option.active <;> simp [sent_invokePositionSessionResponseCb]

/-- A registered client keeps a session that is there; one whose options do not change is
answered at once. -/
theorem startTrackingSync_fst (option : TrackingOptions) :
    (c.startTrackingSync option).1 =
      { c with
        mLocationOptions :=
          if c.mHalRegistered && c.isInTracking && !c.isOptionUpdated option then
            c.mLocationOptions
          else option
        mSessionId :=
          if c.mHalRegistered && c.isInTracking then c.mSessionId else c.mClientId
        mPositionSessionResponseCbPending :=
          c.mPositionSessionResponseCbPending &&
            !(c.mHalRegistered && c.isInTracking && !c.isOptionUpdated option) } := by
  unfold startTrackingSync updateTrackingOptionsSync
  cases hr : c.mHalRegistered <;> cases ht : c.isInTracking <;>
    cases hu : c.isOptionUpdated option <;>
    simp [invokePositionSessionResponseCb_fst, hr]

theorem sent_stopTrackingSync (clearSubscriptions : Bool) :
    sentReqs (c.stopTrackingSync clearSubscriptions).2 =
      if c.isInTracking && c.mHalRegistered && c.mLocationOptions.active then
        [.stopTracking clearSubscriptions]
      else [] := by
  unfold stopTrackingSync
  dsimp only
  split <;> rfl

theorem sent_startBatchingSync (batchOptions : BatchingOptions) :
    sentReqs (c.startBatchingSync batchOptions).2 =
      if c.mHalRegistered then
        if c.isInTracking then
          if c.isBatchingUpdated batchOptions then
            [.updateBatchingOptions batchOptions.minInterval batchOptions.minDistance
              batchOptions.batchingMode]
          else []
        else
          [.startBatching batchOptions.minInterval batchOptions.minDistance
            batchOptions.batchingMode]
      else [] := by
  unfold startBatchingSync updateBatchingOptions
  cases c.mHalRegistered <;> cases c.isInTracking <;>
    cases c.isBatchingUpdated batchOptions <;>
    cases c.mLocationCbs.responseCb.isSome <;> simp [sent_invokePositionSessionResponseCb]

theorem startBatchingSync_fst (batchOptions : BatchingOptions) :
    (c.startBatchingSync batchOptions).1 =
      { c with
        mBatchingOptions :=
          if c.mHalRegistered && c.isInTracking && !c.isBatchingUpdated batchOptions then
            c.mBatchingOptions
          else batchOptions
        mBatchingId :=
          if c.mHalRegistered && !c.isInTracking then c.mClientId else c.mBatchingId
        mPositionSessionResponseCbPending :=
          c.mPositionSessionResponseCbPending &&
            !(c.mHalRegistered && c.isInTracking && !c.isBatchingUpdated batchOptions) } := by
  unfold startBatchingSync updateBatchingOptions
  cases hr : c.mHalRegistered <;> cases ht : c.isInTracking <;>
    cases hu : c.isBatchingUpdated batchOptions <;>
    simp [invokePositionSessionResponseCb_fst, hr]

theorem sent_stopBatching :
    sentReqs c.stopBatching.2 = if c.mBatchingId == c.mClientId then [.stopBatching] else [] := by
  unfold stopBatching
  split <;> rfl

/-- A start that is refused does nothing but call back. -/
theorem startPositionSession_refused (callbacksOption : LocationCallbacks)
    (trackingOptions : TrackingOptions)
    (h : ¬(c.mPositionSessionResponseCbPending = false ∧ c.mBatchingId = 0)) :
    (c.startPositionSession callbacksOption trackingOptions).1 = c ∧
      sentReqs (c.startPositionSession callbacksOption trackingOptions).2 = [] := by
  unfold startPositionSession
  split
  · exact ⟨rfl, rfl⟩
  · rw [if_pos (by simpa [*] using h)]
    exact ⟨rfl, rfl⟩

/-- A start that is not refused goes on with its subscriptions and its session. -/
theorem startPositionSession_accepted (callbacksOption : LocationCallbacks)
    (trackingOptions : TrackingOptions)
    (hp : c.mPositionSessionResponseCbPending = false) (hb : c.mBatchingId = 0) :
    c.startPositionSession callbacksOption trackingOptions =
      (({ c with mPositionSessionResponseCbPending := true }.clearTrackingSubscriptions
        ).updateCallbacksSync callbacksOption).andThen
          fun c => c.startTrackingSync trackingOptions := by
  rw [startPositionSession, if_neg (by simp [hp]), if_neg (by simp [hb])]

theorem startBatchingSession_refused (callbacksOption : LocationCallbacks)
    (batchingOptions : BatchingOptions)
    (h : ¬(c.mPositionSessionResponseCbPending = false ∧ c.mSessionId = 0)) :
    (c.startBatchingSession callbacksOption batchingOptions).1 = c ∧
      sentReqs (c.startBatchingSession callbacksOption batchingOptions).2 = [] := by
  unfold startBatchingSession
  split
  · exact ⟨rfl, rfl⟩
  · rw [if_pos (by simpa [*] using h)]
    exact ⟨rfl, rfl⟩

theorem startBatchingSession_accepted (callbacksOption : LocationCallbacks)
    (batchingOptions : BatchingOptions)
    (hp : c.mPositionSessionResponseCbPending = false) (ht : c.mSessionId = 0) :
    c.startBatchingSession callbacksOption batchingOptions =
      ({ c with mPositionSessionResponseCbPending := true }.updateCallbacksSync
        callbacksOption).andThen fun c => c.startBatchingSync batchingOptions := by
  rw [startBatchingSession, if_neg (by simp [hp]), if_neg (by simp [ht])]

/-! ## Geofences -/

theorem sent_sendGeofences (geofences : List GeofencePayload) :
    sentReqs (c.sendGeofences geofences).2 =
      if c.mHalRegistered then
        [.addGeofences ((geofences.zipIdx.map fun g =>
          { g.1 with gfClientId := c.mLastAddedClientIds.getD g.2 0 }).take maxGeofenceEntry)]
      else [] := by
  unfold sendGeofences
  cases c.mHalRegistered <;> simp

@[simp] theorem sendGeofences_fst (geofences : List GeofencePayload) :
    (c.sendGeofences geofences).1 = c := by
  unfold sendGeofences
  split <;> rfl

theorem sent_requestGeofences (ids : List UInt32) (msg : List UInt32 → ReqMsg) :
    sentReqs (c.requestGeofences ids msg).2 =
      if c.checkGeofenceMap ids ∧ c.mHalRegistered ∧ ids ≠ [] then
        [msg (ids.take maxGeofenceEntry)]
      else [] := by
  unfold requestGeofences
  cases c.checkGeofenceMap ids <;> cases c.mHalRegistered <;> cases ids <;> simp

@[simp] theorem requestGeofences_fst (ids : List UInt32) (msg : List UInt32 → ReqMsg) :
    (c.requestGeofences ids msg).1 = c := by
  unfold requestGeofences
  repeat' split
  all_goals rfl

/-- Entering a geofence changes nothing but the map. -/
theorem addGeofenceMap_eq (geofence : GeofencePayload) :
    c.addGeofenceMap geofence =
      { c with mGeofenceMap := (c.addGeofenceMap geofence).mGeofenceMap } := by
  unfold addGeofenceMap
  split <;> rfl

theorem foldl_addGeofenceMap_eq (geofences : List GeofencePayload) :
    geofences.foldl addGeofenceMap c =
      { c with mGeofenceMap := (geofences.foldl addGeofenceMap c).mGeofenceMap } := by
  induction geofences generalizing c with
  | nil => rfl
  | cons g geofences ih =>
    rw [List.foldl_cons, ih, addGeofenceMap_eq]

theorem setGeofenceOption_eq (geofence : UInt32 × GeofenceOption) :
    c.setGeofenceOption geofence =
      { c with mGeofenceMap := (c.setGeofenceOption geofence).mGeofenceMap } := by
  unfold setGeofenceOption
  split <;> rfl

theorem foldl_setGeofenceOption_eq (geofences : List (UInt32 × GeofenceOption)) :
    geofences.foldl setGeofenceOption c =
      { c with mGeofenceMap := (geofences.foldl setGeofenceOption c).mGeofenceMap } := by
  induction geofences generalizing c with
  | nil => rfl
  | cons g geofences ih =>
    rw [List.foldl_cons, ih, setGeofenceOption_eq]

/-- New options change nothing but the map. -/
theorem modifyGeofences_fst (geofences : List (UInt32 × GeofenceOption)) :
    (c.modifyGeofences geofences).1 =
      { c with mGeofenceMap := (c.modifyGeofences geofences).1.mGeofenceMap } := by
  unfold modifyGeofences
  repeat' split
  · rfl
  · rfl
  · rfl
  · exact c.foldl_setGeofenceOption_eq _

end LocationClientApiImpl

/-! ## What the library never sends

It registers as a client of the location client API, deregisters only when the object is
destroyed, and tells the daemon to stop only with `clearSubscriptions`. -/

/-- A message that the library may send. -/
def librarySends : ReqMsg → Bool
  | .clientRegister clientType => clientType == .locationClientApi
  | .stopTracking clearSubscriptions => clearSubscriptions
  | .clientDeregister => false
  | .updateCallbacks _ | .startTracking _ | .updateTrackingOptions _ | .startBatching _ _ _
  | .stopBatching | .updateBatchingOptions _ _ _ | .addGeofences _ | .removeGeofences _
  | .modifyGeofences _ | .pauseGeofences _ | .resumeGeofences _ => true

/-- Every message of the work has the property. -/
def AllSent (P : ReqMsg → Prop) (r : Result) : Prop := ∀ msg ∈ sentReqs r.2, P msg

namespace AllSent

variable {P : ReqMsg → Prop}

theorem of_nil {r : Result} (h : sentReqs r.2 = []) : AllSent P r := by
  simp [AllSent, h]

theorem andThen {r : Result} {f : LocationClientApiImpl → Result} (hr : AllSent P r)
    (hf : AllSent P (f r.1)) : AllSent P (r.andThen f) := by
  intro msg hmsg
  rw [Result.andThen_snd, sentReqs_append, List.mem_append] at hmsg
  rcases hmsg with hmsg | hmsg
  · exact hr msg hmsg
  · exact hf msg hmsg

end AllSent

namespace LocationClientApiImpl

variable (c : LocationClientApiImpl)

section AllSent

variable {P : ReqMsg → Prop}

theorem updateCallbacksSync_allSent (hP : ∀ mask, P (.updateCallbacks mask))
    (callbacks : LocationCallbacks) : AllSent P (c.updateCallbacksSync callbacks) := by
  unfold AllSent
  rw [sent_updateCallbacksSync]
  split <;> simp [hP]

theorem startTrackingSync_allSent (hstart : ∀ option, P (.startTracking option))
    (hupdate : ∀ option, P (.updateTrackingOptions option)) (hstop : P (.stopTracking true))
    (option : TrackingOptions) : AllSent P (c.startTrackingSync option) := by
  have htracking : P (c.trackingUpdate option true) := by
    unfold trackingUpdate
    split
    · exact hstop
    · split
      · exact hstart option
      · exact hupdate option
  unfold AllSent
  rw [sent_startTrackingSync]
  repeat' split
  all_goals simp [htracking, hstart]

theorem startBatchingSync_allSent
    (hstart : ∀ interval distance mode, P (.startBatching interval distance mode))
    (hupdate : ∀ interval distance mode, P (.updateBatchingOptions interval distance mode))
    (batchOptions : BatchingOptions) : AllSent P (c.startBatchingSync batchOptions) := by
  unfold AllSent
  rw [sent_startBatchingSync]
  repeat' split
  all_goals simp [hstart, hupdate]

theorem stopBatching_allSent (hP : P .stopBatching) : AllSent P c.stopBatching := by
  unfold AllSent
  rw [sent_stopBatching]
  split <;> simp [hP]

theorem sendGeofences_allSent (hP : ∀ geofences, P (.addGeofences geofences))
    (geofences : List GeofencePayload) : AllSent P (c.sendGeofences geofences) := by
  unfold AllSent
  rw [sent_sendGeofences]
  split <;> simp [hP]

theorem requestGeofences_allSent {request : List UInt32 → ReqMsg} (hP : ∀ ids, P (request ids))
    (ids : List UInt32) : AllSent P (c.requestGeofences ids request) := by
  unfold AllSent
  rw [sent_requestGeofences]
  split <;> simp [hP]

theorem modifyGeofences_allSent (hP : ∀ geofences, P (.modifyGeofences geofences))
    (geofences : List (UInt32 × GeofenceOption)) : AllSent P (c.modifyGeofences geofences) := by
  unfold modifyGeofences
  repeat' split
  all_goals simp [AllSent, hP]

end AllSent

theorem updateCallbacksSync_library (callbacks : LocationCallbacks) :
    AllSent (librarySends ·) (c.updateCallbacksSync callbacks) :=
  c.updateCallbacksSync_allSent (fun _ => rfl) callbacks

theorem startTrackingSync_library (option : TrackingOptions) :
    AllSent (librarySends ·) (c.startTrackingSync option) :=
  c.startTrackingSync_allSent (P := (librarySends ·)) (fun _ => rfl) (fun _ => rfl) rfl option

theorem startBatchingSync_library (batchOptions : BatchingOptions) :
    AllSent (librarySends ·) (c.startBatchingSync batchOptions) :=
  c.startBatchingSync_allSent (fun _ _ _ => rfl) (fun _ _ _ => rfl) batchOptions

theorem sendGeofences_library (geofences : List GeofencePayload) :
    AllSent (librarySends ·) (c.sendGeofences geofences) :=
  c.sendGeofences_allSent (fun _ => rfl) geofences

theorem startPositionSession_library (callbacksOption : LocationCallbacks)
    (trackingOptions : TrackingOptions) :
    AllSent (librarySends ·) (c.startPositionSession callbacksOption trackingOptions) := by
  unfold startPositionSession
  split
  · exact .of_nil rfl
  · split
    · exact .of_nil rfl
    · exact (updateCallbacksSync_library _ _).andThen (startTrackingSync_library _ _)

theorem stopTrackingAndClearSubscriptions_library :
    AllSent (librarySends ·) c.stopTrackingAndClearSubscriptions := by
  change ∀ msg ∈ sentReqs (c.stopTrackingSync true).2, _
  rw [sent_stopTrackingSync]
  split <;> simp [librarySends]

theorem startBatchingSession_library (callbacksOption : LocationCallbacks)
    (batchingOptions : BatchingOptions) :
    AllSent (librarySends ·) (c.startBatchingSession callbacksOption batchingOptions) := by
  unfold startBatchingSession
  split
  · exact .of_nil rfl
  · split
    · exact .of_nil rfl
    · exact (updateCallbacksSync_library _ _).andThen (startBatchingSync_library _ _)

theorem addGeofences_library (callbacksOption : LocationCallbacks)
    (geofences : List GeofencePayload) :
    AllSent (librarySends ·) (c.addGeofences callbacksOption geofences) := by
  unfold addGeofences
  split
  · exact .of_nil rfl
  · exact (updateCallbacksSync_library _ _).andThen (sendGeofences_library _ _)

theorem resumeSession_library : AllSent (librarySends ·) c.resumeSession := by
  unfold resumeSession
  split
  · exact startTrackingSync_library _ _
  · split
    · exact startBatchingSync_library _ _
    · exact .of_nil rfl

theorem resumeGeofenceMap_library : AllSent (librarySends ·) c.resumeGeofenceMap := by
  unfold resumeGeofenceMap
  split
  · exact .of_nil rfl
  · exact sendGeofences_library _ _

theorem capabilitesCallback_library : AllSent (librarySends ·) c.capabilitesCallback := by
  have hcallbacks : ∀ c' : LocationClientApiImpl, AllSent (librarySends ·)
      (c', if c.mCallbacksMask ≠ 0 then [.send (.updateCallbacks c.mCallbacksMask)] else []) := by
    intro c'
    unfold AllSent
    split <;> simp [librarySends]
  unfold capabilitesCallback
  dsimp only
  split
  · exact hcallbacks _
  · exact ((hcallbacks _).andThen (resumeSession_library _)).andThen
      (resumeGeofenceMap_library _)

/-- Messages of the daemon other than its capabilities are answered by none. -/
theorem sent_onReceive {msg : IndMsg} (hmsg : ∀ mask, msg ≠ .capabilities mask) :
    sentReqs (c.onReceive msg).2 = [] := by
  cases msg with
  | capabilities mask => exact absurd rfl (hmsg mask)
  | halReady => rfl
  | genericResp msgId err =>
    simp only [onReceive, onGenericResponse]
    split
    · exact c.sent_invokePositionSessionResponseCb err
    · rfl
  | collectiveResp msgId resp =>
    simp only [onReceive, onCollectiveResponse]
    split <;> rfl
  | geofenceBreach ids =>
    simp only [onReceive, onGeofenceBreach]
    split
    · split <;> rfl
    · rfl

/-- Only its capabilities and its restart change whether a client is registered. -/
theorem onReceive_registered {msg : IndMsg} (hcap : ∀ mask, msg ≠ .capabilities mask)
    (hready : msg ≠ .halReady) : (c.onReceive msg).1.mHalRegistered = c.mHalRegistered := by
  cases msg with
  | capabilities mask => exact absurd rfl (hcap mask)
  | halReady => exact absurd rfl hready
  | genericResp msgId err =>
    simp only [onReceive, onGenericResponse]
    split
    · rw [c.invokePositionSessionResponseCb_fst]
    · rfl
  | collectiveResp msgId resp =>
    simp only [onReceive, onCollectiveResponse]
    split
    · dsimp only [eraseGeofenceMap]
      split <;> rfl
    · rfl
  | geofenceBreach ids =>
    simp only [onReceive, onGeofenceBreach]
    split
    · split <;> rfl
    · rfl

theorem resumeSession_registered : c.resumeSession.1.mHalRegistered = c.mHalRegistered := by
  unfold resumeSession
  split
  · rw [startTrackingSync_fst]
  · split
    · rw [startBatchingSync_fst]
    · rfl

/-- A registered client resumes the session it has, under its own id. -/
theorem resumeSession_fst (hreg : c.mHalRegistered = true) :
    c.resumeSession.1 =
      { c with
        mSessionId := if c.isInTracking then c.mClientId else c.mSessionId
        mBatchingId :=
          if !c.isInTracking && c.isInBatching then c.mClientId else c.mBatchingId } := by
  unfold resumeSession
  cases ht : c.isInTracking with
  | true => simp [startTrackingSync_fst, hreg, isInTracking]
  | false =>
    have hsession : c.mSessionId = 0 := c.isInTracking_eq_false.mp ht
    cases c.isInBatching with
    | true => simp [startBatchingSync_fst, hreg, hsession]
    | false => simp

theorem sent_resumeSession (hreg : c.mHalRegistered = true) :
    sentReqs c.resumeSession.2 =
      if c.isInTracking then
        if c.mLocationOptions.active then [.startTracking c.mLocationOptions] else []
      else if c.isInBatching then
        [.startBatching c.mBatchingOptions.minInterval c.mBatchingOptions.minDistance
          c.mBatchingOptions.batchingMode]
      else [] := by
  unfold resumeSession
  cases ht : c.isInTracking with
  | true => simp [sent_startTrackingSync, hreg, isInTracking]
  | false =>
    have hsession : c.mSessionId = 0 := c.isInTracking_eq_false.mp ht
    cases c.isInBatching with
    | true => simp [sent_startBatchingSync, hreg, hsession]
    | false => simp

theorem resumeGeofenceMap_fst : c.resumeGeofenceMap.1 = c := by
  unfold resumeGeofenceMap
  split
  · rfl
  · exact c.sendGeofences_fst _

/-- A client that is told the capabilities is registered. -/
theorem capabilitesCallback_registered : c.capabilitesCallback.1.mHalRegistered = true := by
  unfold capabilitesCallback
  dsimp only
  split
  · rfl
  · rw [Result.andThen_fst, resumeGeofenceMap_fst, Result.andThen_fst,
      resumeSession_registered]

theorem onReceive_library (msg : IndMsg) : AllSent (librarySends ·) (c.onReceive msg) := by
  by_cases hmsg : ∃ mask, msg = .capabilities mask
  · obtain ⟨mask, rfl⟩ := hmsg
    exact c.capabilitesCallback_library
  · exact .of_nil (c.sent_onReceive fun mask h => hmsg ⟨mask, h⟩)

end LocationClientApiImpl
end LocationStack.Client
