import LocationStack.Client.Calls

/-! # One session at a time

A client object has a tracking session or a batching session, never both.  The two
starts look at the other's id before they do anything; every other piece of work that
sets an id is led to only by a start that passed, or sets again an id that was there.
-/
namespace LocationStack.Client

open Ipc EventRun

/-- The work does nothing but report an error to the application: the object is the one
it was, and no message is sent. -/
def Refused (c : LocationClientApiImpl) (r : Result) : Prop :=
  ∃ err, err ≠ .success ∧ r = (c, [c.callResponseCb err])

/-- At most one of the two ids is valid, and a start of one kind of session is refused
while there is one of the other kind; a start is refused, too, while the response to an
earlier one is pending. -/
structure Exclusive (c : LocationClientApiImpl) : Prop where
  ids : ¬(c.mSessionId ≠ 0 ∧ c.mBatchingId ≠ 0)
  tracking : ∀ callbacksOption trackingOptions,
    c.mBatchingId ≠ 0 ∨ c.mPositionSessionResponseCbPending →
      Refused c (c.startPositionSession callbacksOption trackingOptions)
  batching : ∀ callbacksOption batchingOptions,
    c.mSessionId ≠ 0 ∨ c.mPositionSessionResponseCbPending →
      Refused c (c.startBatchingSession callbacksOption batchingOptions)

/-! ## Refusals -/

namespace LocationClientApiImpl

variable (c : LocationClientApiImpl)

theorem startPositionSession_refuses (callbacksOption : LocationCallbacks)
    (trackingOptions : TrackingOptions)
    (h : c.mBatchingId ≠ 0 ∨ c.mPositionSessionResponseCbPending) :
    Refused c (c.startPositionSession callbacksOption trackingOptions) := by
  unfold startPositionSession
  split
  · exact ⟨.alreadyStarted, by decide, rfl⟩
  · rw [if_pos (by simpa [*] using h)]
    exact ⟨.exclusiveSessionInProgress, by decide, rfl⟩

theorem startBatchingSession_refuses (callbacksOption : LocationCallbacks)
    (batchingOptions : BatchingOptions)
    (h : c.mSessionId ≠ 0 ∨ c.mPositionSessionResponseCbPending) :
    Refused c (c.startBatchingSession callbacksOption batchingOptions) := by
  unfold startBatchingSession
  split
  · exact ⟨.alreadyStarted, by decide, rfl⟩
  · rw [if_pos (by simpa [*] using h)]
    exact ⟨.exclusiveSessionInProgress, by decide, rfl⟩

/-! ## The ids -/

/-- One of the ids is not valid. -/
def OneSession (c : LocationClientApiImpl) : Prop := c.mSessionId = 0 ∨ c.mBatchingId = 0

/-- Some work leaves both ids as they are, or takes one away. -/
structure SessionsKept (c : LocationClientApiImpl) (r : Result) : Prop where
  session : r.1.mSessionId = c.mSessionId ∨ r.1.mSessionId = 0
  batching : r.1.mBatchingId = c.mBatchingId ∨ r.1.mBatchingId = 0

theorem SessionsKept.oneSession {c : LocationClientApiImpl} {r : Result}
    (h : SessionsKept c r) (hc : OneSession c) : OneSession r.1 := by
  obtain ⟨hs, hb⟩ := h
  rcases hc with h0 | h0
  · exact .inl (by rcases hs with hs | hs <;> simp [hs, h0])
  · exact .inr (by rcases hb with hb | hb <;> simp [hb, h0])

theorem startPositionSession_oneSession (callbacksOption : LocationCallbacks)
    (trackingOptions : TrackingOptions) (hc : OneSession c) :
    OneSession (c.startPositionSession callbacksOption trackingOptions).1 := by
  by_cases hacc : c.mPositionSessionResponseCbPending = false ∧ c.mBatchingId = 0
  · -- a session is started where no batching session is
    right
    rw [c.startPositionSession_accepted _ _ hacc.1 hacc.2, Result.andThen_fst,
      startTrackingSync_fst, updateCallbacksSync_fst]
    exact hacc.2
  · rw [(c.startPositionSession_refused _ _ hacc).1]
    exact hc

theorem startBatchingSession_oneSession (callbacksOption : LocationCallbacks)
    (batchingOptions : BatchingOptions) (hc : OneSession c) :
    OneSession (c.startBatchingSession callbacksOption batchingOptions).1 := by
  by_cases hacc : c.mPositionSessionResponseCbPending = false ∧ c.mSessionId = 0
  · left
    rw [c.startBatchingSession_accepted _ _ hacc.1 hacc.2, Result.andThen_fst,
      startBatchingSync_fst, updateCallbacksSync_fst]
    exact hacc.2
  · rw [(c.startBatchingSession_refused _ _ hacc).1]
    exact hc

theorem stopBatching_kept : SessionsKept c c.stopBatching := by
  unfold stopBatching
  split <;> exact ⟨.inl rfl, .inr rfl⟩

theorem addGeofences_kept (callbacksOption : LocationCallbacks)
    (geofences : List GeofencePayload) :
    SessionsKept c (c.addGeofences callbacksOption geofences) := by
  unfold addGeofences
  split
  · rw [foldl_addGeofenceMap_eq]
    exact ⟨.inl rfl, .inl rfl⟩
  · constructor <;>
      rw [Result.andThen_fst, sendGeofences_fst, foldl_addGeofenceMap_eq,
        updateCallbacksSync_fst] <;> exact .inl rfl

theorem modifyGeofences_kept (geofences : List (UInt32 × GeofenceOption)) :
    SessionsKept c (c.modifyGeofences geofences) := by
  constructor <;> rw [c.modifyGeofences_fst] <;> exact .inl rfl

theorem requestGeofences_kept (ids : List UInt32) (msg : List UInt32 → ReqMsg) :
    SessionsKept c (c.requestGeofences ids msg) := by
  constructor <;> rw [c.requestGeofences_fst] <;> exact .inl rfl

/-- A session is started again where it was. -/
theorem resumeSession_oneSession (hc : OneSession c) : OneSession c.resumeSession.1 := by
  unfold resumeSession
  split
  · right
    rw [startTrackingSync_fst]
    exact hc.resolve_left (by simpa using ‹c.isInTracking = true›)
  · have ht : c.mSessionId = 0 := by simpa using ‹¬c.isInTracking = true›
    left
    split
    · rw [startBatchingSync_fst]
      exact ht
    · exact ht

theorem capabilitesCallback_oneSession (hc : OneSession c) :
    OneSession c.capabilitesCallback.1 := by
  unfold capabilitesCallback
  dsimp only
  split
  · exact hc
  · rw [Result.andThen_fst, resumeGeofenceMap_fst, Result.andThen_fst]
    exact resumeSession_oneSession _ hc

theorem onReceive_kept {msg : IndMsg} (hcap : ∀ mask, msg ≠ .capabilities mask) :
    SessionsKept c (c.onReceive msg) := by
  cases msg with
  | capabilities mask => exact absurd rfl (hcap mask)
  | halReady => exact ⟨.inl rfl, .inl rfl⟩
  | genericResp msgId err =>
    simp only [onReceive, onGenericResponse]
    split
    · constructor <;> rw [c.invokePositionSessionResponseCb_fst] <;> exact .inl rfl
    · exact ⟨.inl rfl, .inl rfl⟩
  | collectiveResp msgId resp =>
    simp only [onReceive, onCollectiveResponse]
    split
    · dsimp only [eraseGeofenceMap]
      split <;> exact ⟨.inl rfl, .inl rfl⟩
    · exact ⟨.inl rfl, .inl rfl⟩
  | geofenceBreach ids =>
    simp only [onReceive, onGeofenceBreach]
    split
    · split <;> exact ⟨.inl rfl, .inl rfl⟩
    · exact ⟨.inl rfl, .inl rfl⟩

end LocationClientApiImpl

open LocationClientApiImpl

/-! ## Runs -/

/-- **One step.**  No event makes both ids valid. -/
theorem step_oneSession (c : LocationClientApiImpl) (e : Event) (hc : OneSession c) :
    OneSession (step c e) := by
  cases e with
  | receive msg =>
    by_cases hmsg : ∃ mask, msg = .capabilities mask
    · obtain ⟨mask, rfl⟩ := hmsg
      exact c.capabilitesCallback_oneSession hc
    · exact (c.onReceive_kept fun mask h => hmsg ⟨mask, h⟩).oneSession hc
  | call a =>
    cases a with
    | clientRegister => exact hc
    | updateCallbacks callbacks =>
      change OneSession (c.updateCallbacksSync callbacks).1
      rw [c.updateCallbacksSync_fst]
      exact hc
    | startPositionSession callbacks options =>
      exact c.startPositionSession_oneSession callbacks options hc
    | stopTrackingAndClearSubscriptions => exact .inl rfl
    | startBatchingSession callbacks options =>
      exact c.startBatchingSession_oneSession callbacks options hc
    | stopBatching => exact c.stopBatching_kept.oneSession hc
    | addGeofences callbacks geofences =>
      exact (c.addGeofences_kept callbacks geofences).oneSession hc
    | removeGeofences ids => exact (c.requestGeofences_kept ids _).oneSession hc
    | modifyGeofences geofences => exact (c.modifyGeofences_kept geofences).oneSession hc
    | pauseGeofences ids => exact (c.requestGeofences_kept ids _).oneSession hc
    | resumeGeofences ids => exact (c.requestGeofences_kept ids _).oneSession hc

/-- **Tracking and batching exclude each other.**  In every run of the message loop at
most one session id is valid, and a start that is refused changes and sends nothing. -/
theorem sessions_exclusive (mClientId : { id : UInt32 // id ≠ 0 }) (es : List Event) :
    Throughout step Exclusive (.new mClientId) es := by
  have hinit : OneSession (.new mClientId) := .inl rfl
  refine (throughout_of_invariant step_oneSession hinit).imp fun c hc => ?_
  exact
    { ids := fun h => hc.elim h.1 h.2
      tracking := c.startPositionSession_refuses
      batching := c.startBatchingSession_refuses }

end LocationStack.Client
