import LocationStack.Client.Requests
import LocationStack.Lib.EventRun

/-! # The client's message loop

Everything that happens to a client object happens on one thread, as the work of a call
or as the processing of a message of the daemon.  This module makes that a machine of
its own, whose runs are all sequences of the two, and states what every call keeps.
-/
namespace LocationStack.Client

open Ipc EventRun

/-- What the client's message loop does apart from messages of the daemon: the
registration its listener posts, and the calls of the application. -/
inductive Call
  | clientRegister
  | updateCallbacks (callbacks : LocationCallbacks)
  | startPositionSession (callbacksOption : LocationCallbacks)
      (trackingOptions : TrackingOptions)
  | stopTrackingAndClearSubscriptions
  | startBatchingSession (callbacksOption : LocationCallbacks)
      (batchingOptions : BatchingOptions)
  | stopBatching
  | addGeofences (callbacksOption : LocationCallbacks)
      (geofences : List GeofencePayload)
  | removeGeofences (ids : List UInt32)
  | modifyGeofences (geofences : List (UInt32 × GeofenceOption))
  | pauseGeofences (ids : List UInt32)
  | resumeGeofences (ids : List UInt32)
  deriving DecidableEq

/-- The work a call is. -/
def Call.work (c : LocationClientApiImpl) : Call → Result
  | .clientRegister => c.clientRegister
  | .updateCallbacks callbacks => c.updateCallbacksSync callbacks
  | .startPositionSession callbacks options => c.startPositionSession callbacks options
  | .stopTrackingAndClearSubscriptions => c.stopTrackingAndClearSubscriptions
  | .startBatchingSession callbacks options => c.startBatchingSession callbacks options
  | .stopBatching => c.stopBatching
  | .addGeofences callbacks geofences => c.addGeofences callbacks geofences
  | .removeGeofences ids => c.removeGeofences ids
  | .modifyGeofences geofences => c.modifyGeofences geofences
  | .pauseGeofences ids => c.pauseGeofences ids
  | .resumeGeofences ids => c.resumeGeofences ids

/-- What the message loop processes. -/
inductive Event
  | call (a : Call)
  | receive (msg : IndMsg)
  deriving DecidableEq

/-- The object after an event and what was done on the way. -/
def stepOuts (c : LocationClientApiImpl) : Event → Result
  | .call a => a.work c
  | .receive msg => c.onReceive msg

def step (c : LocationClientApiImpl) (e : Event) : LocationClientApiImpl := (stepOuts c e).1

/-! ## What every call keeps -/

/-- The library sends what it may send. -/
theorem Call.work_library (c : LocationClientApiImpl) (a : Call) :
    AllSent (librarySends ·) (a.work c) := by
  cases a with
  | clientRegister => simp [Call.work, LocationClientApiImpl.clientRegister, AllSent, librarySends]
  | updateCallbacks callbacks => exact c.updateCallbacksSync_library callbacks
  | startPositionSession callbacks options => exact c.startPositionSession_library callbacks options
  | stopTrackingAndClearSubscriptions => exact c.stopTrackingAndClearSubscriptions_library
  | startBatchingSession callbacks options => exact c.startBatchingSession_library callbacks options
  | stopBatching => exact c.stopBatching_allSent rfl
  | addGeofences callbacks geofences => exact c.addGeofences_library callbacks geofences
  | removeGeofences ids =>
    exact c.requestGeofences_allSent (P := (librarySends ·)) (fun _ => rfl) ids
  | modifyGeofences geofences => exact c.modifyGeofences_allSent (fun _ => rfl) geofences
  | pauseGeofences ids =>
    exact c.requestGeofences_allSent (P := (librarySends ·)) (fun _ => rfl) ids
  | resumeGeofences ids =>
    exact c.requestGeofences_allSent (P := (librarySends ·)) (fun _ => rfl) ids

/-- A call leaves the client registered, or not, as it was. -/
theorem Call.work_registered (c : LocationClientApiImpl) (a : Call) :
    (a.work c).1.mHalRegistered = c.mHalRegistered := by
  cases a with
  | clientRegister => rfl
  | updateCallbacks callbacks => rw [Call.work, c.updateCallbacksSync_fst]
  | startPositionSession callbacks options =>
    simp only [Call.work, LocationClientApiImpl.startPositionSession]
    split
    · rfl
    · split
      · rfl
      · rw [Result.andThen_fst, LocationClientApiImpl.startTrackingSync_fst,
          LocationClientApiImpl.updateCallbacksSync_fst]
        rfl
  | stopTrackingAndClearSubscriptions => rfl
  | startBatchingSession callbacks options =>
    simp only [Call.work, LocationClientApiImpl.startBatchingSession]
    split
    · rfl
    · split
      · rfl
      · rw [Result.andThen_fst, LocationClientApiImpl.startBatchingSync_fst,
          LocationClientApiImpl.updateCallbacksSync_fst]
  | stopBatching =>
    simp only [Call.work, LocationClientApiImpl.stopBatching]
    split <;> rfl
  | addGeofences callbacks geofences =>
    simp only [Call.work, LocationClientApiImpl.addGeofences]
    split
    · rw [LocationClientApiImpl.foldl_addGeofenceMap_eq]
    · rw [Result.andThen_fst, LocationClientApiImpl.sendGeofences_fst,
        LocationClientApiImpl.foldl_addGeofenceMap_eq,
        LocationClientApiImpl.updateCallbacksSync_fst]
  | modifyGeofences geofences => rw [Call.work, c.modifyGeofences_fst]
  | removeGeofences ids => exact congrArg _ (c.requestGeofences_fst ids _)
  | pauseGeofences ids => exact congrArg _ (c.requestGeofences_fst ids _)
  | resumeGeofences ids => exact congrArg _ (c.requestGeofences_fst ids _)

/-- A client that is not registered sends its registration, and the stop of a batching
session it had before. -/
theorem Call.work_unregistered {c : LocationClientApiImpl} (hreg : c.mHalRegistered = false)
    (a : Call) :
    AllSent (fun msg => msg = .clientRegister .locationClientApi ∨ msg = .stopBatching)
      (a.work c) := by
  cases a with
  | clientRegister => simp [AllSent, Call.work, LocationClientApiImpl.clientRegister]
  | updateCallbacks callbacks =>
    exact .of_nil (by rw [Call.work, c.sent_updateCallbacksSync, if_neg (by simp [hreg])])
  | startPositionSession callbacks options =>
    simp only [Call.work, LocationClientApiImpl.startPositionSession]
    split
    · exact .of_nil rfl
    · split
      · exact .of_nil rfl
      · refine .andThen (.of_nil ?_) (.of_nil ?_)
        · rw [LocationClientApiImpl.sent_updateCallbacksSync,
            if_neg (fun h => by simpa [hreg] using h.2)]
        · rw [LocationClientApiImpl.sent_startTrackingSync,
            LocationClientApiImpl.updateCallbacksSync_fst, if_neg (by simp [hreg])]
  | stopTrackingAndClearSubscriptions =>
    exact .of_nil ((c.sent_stopTrackingSync true).trans (if_neg (by simp [hreg])))
  | startBatchingSession callbacks options =>
    simp only [Call.work, LocationClientApiImpl.startBatchingSession]
    split
    · exact .of_nil rfl
    · split
      · exact .of_nil rfl
      · refine .andThen (.of_nil ?_) (.of_nil ?_)
        · rw [LocationClientApiImpl.sent_updateCallbacksSync,
            if_neg (fun h => by simpa [hreg] using h.2)]
        · rw [LocationClientApiImpl.sent_startBatchingSync,
            LocationClientApiImpl.updateCallbacksSync_fst, if_neg (by simp [hreg])]
  | stopBatching => exact c.stopBatching_allSent (.inr rfl)
  | addGeofences callbacks geofences =>
    simp only [Call.work, LocationClientApiImpl.addGeofences]
    split
    · exact .of_nil rfl
    · refine .andThen (.of_nil ?_) (.of_nil ?_)
      · rw [LocationClientApiImpl.sent_updateCallbacksSync,
          if_neg (fun h => by simpa [hreg] using h.2)]
      · rw [LocationClientApiImpl.sent_sendGeofences,
          LocationClientApiImpl.foldl_addGeofenceMap_eq,
          LocationClientApiImpl.updateCallbacksSync_fst, if_neg (by simp [hreg])]
  | modifyGeofences geofences =>
    simp only [Call.work, LocationClientApiImpl.modifyGeofences, hreg]
    split <;> exact .of_nil rfl
  | removeGeofences ids =>
    exact .of_nil ((c.sent_requestGeofences ids _).trans (if_neg (by simp [hreg])))
  | pauseGeofences ids =>
    exact .of_nil ((c.sent_requestGeofences ids _).trans (if_neg (by simp [hreg])))
  | resumeGeofences ids =>
    exact .of_nil ((c.sent_requestGeofences ids _).trans (if_neg (by simp [hreg])))

end LocationStack.Client
