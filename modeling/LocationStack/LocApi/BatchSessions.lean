import LocationStack.Ipc.Messages
import LocationStack.Lib.EventRun
import LocationStack.SyncReq.Calls

/-! # Sessions that batch

The modem batches fixes in a buffer, which it allocates when it is asked for its size, and a
session is only started if there is one.  What the modem told of the buffer is kept, a size for
each kind of session; it is forgotten when the adapter wants another size, and when the buffer of a
trip is released.

The modem is a function of a state of its own and of the request.  Beside the sizes stands what
happened so far: the requests with what came back, what was read out, and what the adapter was told.
-/
namespace LocationStack.LocApi

open SyncReq (LocClientStatus)
open Ipc (LocationError BatchingMode)

/-! ## Messages -/

/-- `qmiLocStatusEnumT_v02` -/
inductive QmiLocStatus
  | success | generalFailure | unsupported | invalidParameter | engineBusy | phoneOffline | timeout
  | configNotSupported | insufficientMemory | maxGeofenceProgrammed | xtraVersionCheckFailure
  | gnssDisabled
  deriving DecidableEq, Repr

/-- `qmiLocBatchingTypeEnumT_v02` -/
inductive QmiLocBatchingType
  | locationBatching | outdoorTripBatching
  deriving DecidableEq, Repr

/-- `qmiLocAccuracyLevelEnumT_v02` -/
inductive QmiLocAccuracyLevel
  | low | med | high
  deriving DecidableEq, Repr

/-- `qmiLocStartBatchingReqMsgT_v02`; the timeout is there if it is valid. -/
structure StartBatchingReq where
  minInterval : UInt32
  horizontalAccuracyLevel : QmiLocAccuracyLevel
  fixSessionTimeout : Option UInt32
  requestId : UInt32
  batchAllPos : Bool
  deriving DecidableEq, Repr

/-- `qmiLocStartOutdoorTripBatchingReqMsgT_v02` -/
structure StartOutdoorTripBatchingReq where
  batchDistance : UInt32
  minTimeInterval : UInt32
  batchAllPos : Bool
  fixSessionTimeout : Option UInt32
  deriving DecidableEq, Repr

inductive BatchRequest
  | setOperationMode (mode : Ipc.GnssSuplMode)
  | getBatchSize (batchSize : UInt32) (batchType : QmiLocBatchingType)
  | releaseBatch (batchType : QmiLocBatchingType)
  | startBatching (req : StartBatchingReq)
  | stopBatching (requestId : Option UInt32) (batchType : QmiLocBatchingType)
  | startOutdoorTripBatching (req : StartOutdoorTripBatchingReq)
  | queryOTBAccumulatedDistance
  deriving DecidableEq, Repr

/-- What comes back: the status of the call, and what is read of the indication, which is cleared
before. -/
structure BatchReply where
  st : LocClientStatus
  status : QmiLocStatus
  batchSize : UInt32
  batchedPosition : UInt32
  deriving DecidableEq, Repr

/-- `rv` of `LOC_SEND_SYNC_REQ` -/
def BatchReply.rv (ind : BatchReply) : Bool := ind.st == .success && ind.status == .success

/-- The buffer that a request for the size was given; there is none if it failed. -/
def BatchReply.granted (ind : BatchReply) : UInt64 := if ind.rv then ind.batchSize.toUInt64 else 0

theorem BatchReply.granted_of_rv {ind : BatchReply} (h : ind.rv = true) :
    ind.granted = ind.batchSize.toUInt64 := if_pos h

theorem BatchReply.granted_of_not_rv {ind : BatchReply} (h : ¬ind.rv = true) : ind.granted = 0 :=
  if_neg h

/-! ## What happened -/

inductive BatchEntry
  /-- The adapter wants another size. -/
  | sized (batchType : QmiLocBatchingType) (size : UInt64)
  | exchanged (req : BatchRequest) (ind : BatchReply)
  /-- `getBatchedTripLocationsSync(count, 0)` -/
  | getBatchedTripLocations (count : UInt32)
  /-- `returnToSender` -/
  | answered (err : LocationError)
  deriving DecidableEq, Repr

def BatchEntry.isAnswer : BatchEntry → Bool
  | .answered _ => true
  | _ => false

variable (type : QmiLocBatchingType)

/-- The size of the buffer, as the modem told it, after an entry. -/
def BatchEntry.confirms (size : UInt64) : BatchEntry → UInt64
  | .sized batchType _ => if batchType = type then 0 else size
  | .exchanged (.getBatchSize _ batchType) ind =>
      if batchType = type then ind.granted else size
  | .exchanged (.releaseBatch batchType) ind => if batchType = type ∧ ind.rv then 0 else size
  | _ => size

/-- The size that is wanted after an entry. -/
def BatchEntry.wants (size : UInt64) : BatchEntry → UInt64
  | .sized batchType wanted => if batchType = type then wanted else size
  | _ => size

def confirmedSize (trace : List BatchEntry) : UInt64 := trace.foldl (BatchEntry.confirms type) 0

def wantedSize (trace : List BatchEntry) : UInt64 := trace.foldl (BatchEntry.wants type) 0

@[simp] theorem confirmedSize_concat (trace : List BatchEntry) (e : BatchEntry) :
    confirmedSize type (trace ++ [e]) = e.confirms type (confirmedSize type trace) := by
  rw [confirmedSize, confirmedSize, List.foldl_concat]

@[simp] theorem wantedSize_concat (trace : List BatchEntry) (e : BatchEntry) :
    wantedSize type (trace ++ [e]) = e.wants type (wantedSize type trace) := by
  rw [wantedSize, wantedSize, List.foldl_concat]

/-- The request that was just sent, with what came back. -/
def justExchanged (trace : List BatchEntry) : Option (BatchRequest × BatchReply) :=
  match trace.getLast? with
  | some (.exchanged req ind) => some (req, ind)
  | _ => none

@[simp] theorem justExchanged_concat (trace : List BatchEntry) (req : BatchRequest)
    (ind : BatchReply) : justExchanged (trace ++ [.exchanged req ind]) = some (req, ind) := by
  rw [justExchanged, List.getLast?_concat]

/-- The requests that a call is for; the others prepare it. -/
def BatchRequest.isFor : BatchRequest → Bool
  | .setOperationMode _ | .getBatchSize _ _ => false
  | _ => true

def BatchRequest.isStart : BatchRequest → Bool
  | .startBatching _ | .startOutdoorTripBatching _ => true
  | _ => false

/-- What may happen after a trace. -/
def BatchEntry.Follows (trace : List BatchEntry) : BatchEntry → Prop
  | .sized _ _ => True
  | .exchanged (.getBatchSize size batchType) _ =>
      confirmedSize batchType trace = 0 ∧
        (size = (wantedSize batchType trace).toUInt32 ∨
          ∃ refused ind, justExchanged trace = some (.getBatchSize refused batchType, ind) ∧
            batchType = .outdoorTripBatching ∧ ind.rv = false ∧ ind.status = .invalidParameter ∧
            0 < size ∧ size = ind.batchSize)
  | .exchanged (.releaseBatch batchType) _ =>
      batchType = .outdoorTripBatching ∧
        ∃ ind, justExchanged trace = some (.stopBatching none batchType, ind) ∧ ind.rv = true
  | .exchanged (.startBatching req) _ =>
      confirmedSize .locationBatching trace ≠ 0 ∧ 1000 ≤ req.minInterval ∧
        req.fixSessionTimeout ≠ some 0
  | .exchanged (.startOutdoorTripBatching req) _ =>
      confirmedSize .outdoorTripBatching trace ≠ 0 ∧ 1000 ≤ req.minTimeInterval ∧
        1 ≤ req.batchDistance ∧ req.fixSessionTimeout ≠ some 0
  | .exchanged _ _ => True
  | .getBatchedTripLocations count =>
      count ≠ 0 ∧ ∃ ind, justExchanged trace = some (.queryOTBAccumulatedDistance, ind) ∧
        ind.rv = true ∧ ind.batchedPosition = count
  | .answered err =>
      (err = .success ↔
        ∃ req ind, justExchanged trace = some (req, ind) ∧ req.isFor = true ∧ ind.rv = true) ∧
      (err = .tzLocked →
        ∃ req ind, justExchanged trace = some (req, ind) ∧ req.isStart = true ∧ ind.rv = false)

/-- Every entry may happen when it does. -/
def Lawful (trace : List BatchEntry) : Prop :=
  ∀ before e, before ++ [e] <+: trace → e.Follows before

theorem Lawful.concat {trace : List BatchEntry} {e : BatchEntry} (h : Lawful trace)
    (he : e.Follows trace) : Lawful (trace ++ [e]) := by
  intro before e' hprefix
  rcases List.prefix_concat_iff.mp hprefix with heq | hold
  · obtain ⟨rfl, rfl⟩ := List.append_inj' heq rfl |>.imp id List.singleton_inj.mp
    exact he
  · exact h before e' hold

/-! ## State -/

/-- `EngineLockState` -/
inductive EngineLockState
  | invalid | enabled | disabled
  deriving DecidableEq, Repr

/-- The sizes of `LocApiV02`, with the modem and what happened. -/
structure BatchSessions (σ : Type) where
  modem : σ
  mBatchSize : UInt64
  mDesiredBatchSize : UInt64
  mTripBatchSize : UInt64
  mDesiredTripBatchSize : UInt64
  engineLockState : EngineLockState
  trace : List BatchEntry

namespace BatchSessions

variable {σ : Type} (modem : σ → BatchRequest → BatchReply × σ)

def init (m : σ) (engineLockState : EngineLockState) : BatchSessions σ where
  modem := m
  mBatchSize := 0
  mDesiredBatchSize := 0
  mTripBatchSize := 0
  mDesiredTripBatchSize := 0
  engineLockState := engineLockState
  trace := []

def batchSize (s : BatchSessions σ) : QmiLocBatchingType → UInt64
  | .locationBatching => s.mBatchSize
  | .outdoorTripBatching => s.mTripBatchSize

def desiredSize (s : BatchSessions σ) : QmiLocBatchingType → UInt64
  | .locationBatching => s.mDesiredBatchSize
  | .outdoorTripBatching => s.mDesiredTripBatchSize

def withBatchSize (s : BatchSessions σ) (size : UInt64) :
    QmiLocBatchingType → BatchSessions σ
  | .locationBatching => { s with mBatchSize := size }
  | .outdoorTripBatching => { s with mTripBatchSize := size }

def note (s : BatchSessions σ) (e : BatchEntry) : BatchSessions σ :=
  { s with trace := s.trace ++ [e] }

/-! ## Requests -/

/-- `LOC_SEND_SYNC_REQ` -/
def send (s : BatchSessions σ) (req : BatchRequest) : BatchReply × BatchSessions σ :=
  let (ind, m) := modem s.modem req
  (ind, { s with modem := m }.note (.exchanged req ind))

/-- `batchType` of the request for a size. -/
def batchTypeOf (batchMode : BatchingMode) : QmiLocBatchingType :=
  if batchMode = .routine then .locationBatching else .outdoorTripBatching

/-- `allocatedSize` is the size that is kept for the mode. -/
def queryBatchBuffer (s : BatchSessions σ) (desiredSize : UInt64) (batchMode : BatchingMode) :
    LocationError × BatchSessions σ :=
  let batchType := batchTypeOf batchMode
  let allocated (ind : BatchReply) (s : BatchSessions σ) : LocationError × BatchSessions σ :=
    (if ind.batchSize ≠ 0 then .success else .generalFailure,
      s.withBatchSize ind.batchSize.toUInt64 batchType)
  let (ind, s) := send modem s (.getBatchSize desiredSize.toUInt32 batchType)
  if ind.rv then allocated ind s
  else if batchMode = .trip ∧ ind.status = .invalidParameter ∧ 0 < ind.batchSize then
    let (ind, s) := send modem s (.getBatchSize ind.batchSize batchType)
    if ind.rv then allocated ind s else (.generalFailure, s.withBatchSize 0 batchType)
  else (.generalFailure, s.withBatchSize 0 batchType)

/-- A start asks for the size if none is kept. -/
def getBatchSizeIfNeeded (s : BatchSessions σ) (batchMode : BatchingMode) :
    LocationError × BatchSessions σ :=
  if s.batchSize (batchTypeOf batchMode) = 0 then
    queryBatchBuffer modem s (s.desiredSize (batchTypeOf batchMode)) batchMode
  else (.success, s)

def releaseBatchBuffer (s : BatchSessions σ) (batchMode : BatchingMode) :
    LocationError × BatchSessions σ :=
  let release (batchType : QmiLocBatchingType) : LocationError × BatchSessions σ :=
    let (ind, s) := send modem s (.releaseBatch batchType)
    if ind.rv then (.success, { s with mTripBatchSize := 0 }) else (.generalFailure, s)
  match batchMode with
  | .routine => release .locationBatching
  | .trip => release .outdoorTripBatching
  | .noAutoReport => (.invalidParameter, s)

/-- `fixSessionTimeout`, if it is valid. -/
def fixSessionTimeout (timeout : UInt32) : Option UInt32 :=
  if 0 < timeout then some timeout else none

/-- `err` of a request to start. -/
def startError (s : BatchSessions σ) (ind : BatchReply) : LocationError :=
  if ind.rv then .success
  else if s.engineLockState = .disabled then .tzLocked else .generalFailure

/-- `adapterResponse->returnToSender(err)`, if there is one. -/
def respond (s : BatchSessions σ) (adapterResponse : Bool) (err : LocationError) :
    BatchSessions σ :=
  if adapterResponse then s.note (.answered err) else s

/-! ## Calls -/

def setBatchSize (s : BatchSessions σ) (size : UInt64) : BatchSessions σ :=
  { s with mDesiredBatchSize := size, mBatchSize := 0 }.note (.sized .locationBatching size)

def setTripBatchSize (s : BatchSessions σ) (size : UInt64) : BatchSessions σ :=
  { s with mDesiredTripBatchSize := size, mTripBatchSize := 0 }.note
    (.sized .outdoorTripBatching size)

def accuracyLevel (accuracy : UInt32) : QmiLocAccuracyLevel :=
  if accuracy = 0 then .low else if accuracy = 1 then .med else if accuracy = 2 then .high else .low

/-- The request of `startBatching`. -/
def startBatchReq (sessionId : UInt32) (options : Ipc.LocationOptions) (accuracy timeout : UInt32) :
    StartBatchingReq where
  minInterval := if 1000 ≤ options.minInterval then options.minInterval else 1000
  horizontalAccuracyLevel := accuracyLevel accuracy
  fixSessionTimeout := fixSessionTimeout timeout
  requestId := sessionId
  batchAllPos := true

def startBatching (s : BatchSessions σ) (sessionId : UInt32) (options : Ipc.LocationOptions)
    (accuracy timeout : UInt32) (adapterResponse : Bool) : BatchSessions σ :=
  let (_, s) := send modem s (.setOperationMode options.mode)
  let (err, s) := getBatchSizeIfNeeded modem s .routine
  if err ≠ .success then s.respond adapterResponse .generalFailure
  else
    let (ind, s) :=
      send modem s (.startBatching (startBatchReq sessionId options accuracy timeout))
    s.respond adapterResponse (s.startError ind)

def stopBatching (s : BatchSessions σ) (sessionId : UInt32) (adapterResponse : Bool) :
    BatchSessions σ :=
  let (ind, s) := send modem s (.stopBatching (some sessionId) .locationBatching)
  s.respond adapterResponse (if ind.rv then .success else .generalFailure)

/-- The request of `startOutdoorTripBatchingSync`. -/
def startOutdoorTripBatchReq (tripDistance tripTbf timeout : UInt32) :
    StartOutdoorTripBatchingReq where
  batchDistance := if 0 < tripDistance then tripDistance else 1
  minTimeInterval := if 1000 ≤ tripTbf then tripTbf else 1000
  batchAllPos := true
  fixSessionTimeout := fixSessionTimeout timeout

def startOutdoorTripBatchingSync (s : BatchSessions σ) (tripDistance tripTbf timeout : UInt32) :
    LocationError × BatchSessions σ :=
  let (err, s) := getBatchSizeIfNeeded modem s .trip
  if err ≠ .success then (.generalFailure, s)
  else
    let (ind, s) := send modem s
      (.startOutdoorTripBatching (startOutdoorTripBatchReq tripDistance tripTbf timeout))
    (s.startError ind, s)

def stopOutdoorTripBatchingSync (s : BatchSessions σ) (deallocBatchBuffer : Bool) :
    LocationError × BatchSessions σ :=
  let (ind, s) := send modem s (.stopBatching none .outdoorTripBatching)
  if !ind.rv then (.generalFailure, s)
  else if deallocBatchBuffer then releaseBatchBuffer modem s .trip
  else (.success, s)

/-- Nothing is sent if there is nobody to tell. -/
def startOutdoorTripBatching (s : BatchSessions σ) (tripDistance tripTbf timeout : UInt32)
    (adapterResponse : Bool) : BatchSessions σ :=
  if adapterResponse then
    let (err, s) := startOutdoorTripBatchingSync modem s tripDistance tripTbf timeout
    s.respond adapterResponse err
  else s

def stopOutdoorTripBatching (s : BatchSessions σ) (deallocBatchBuffer adapterResponse : Bool) :
    BatchSessions σ :=
  if adapterResponse then
    let (err, s) := stopOutdoorTripBatchingSync modem s deallocBatchBuffer
    s.respond adapterResponse err
  else s

/-- The error, and `numOfBatchedPositions`, which is 0 before. -/
def queryAccumulatedTripDistanceSync (s : BatchSessions σ) :
    (LocationError × UInt32) × BatchSessions σ :=
  let (ind, s) := send modem s .queryOTBAccumulatedDistance
  (if ind.rv then (.success, ind.batchedPosition) else (.generalFailure, 0), s)

def queryAccumulatedTripDistance (s : BatchSessions σ) (adapterResponseData : Bool) :
    BatchSessions σ :=
  let ((err, _), s) := queryAccumulatedTripDistanceSync modem s
  s.respond adapterResponseData err

def reStartOutdoorTripBatching (s : BatchSessions σ)
    (ongoingTripDistance ongoingTripInterval batchingTimeout : UInt32) (adapterResponse : Bool) :
    BatchSessions σ :=
  let ((_, numOfBatchedPositions), s) := queryAccumulatedTripDistanceSync modem s
  let s :=
    if numOfBatchedPositions ≠ 0 then s.note (.getBatchedTripLocations numOfBatchedPositions)
    else s
  let (_, s) := stopOutdoorTripBatchingSync modem s false
  let (err, s) := startOutdoorTripBatchingSync modem s ongoingTripDistance ongoingTripInterval
    batchingTimeout
  s.respond adapterResponse err

end BatchSessions

/-- What the adapter calls; a flag says whether there is a response object.  The modem tells the
state of the engine lock by itself. -/
inductive BatchCall
  | setBatchSize (size : UInt64)
  | setTripBatchSize (size : UInt64)
  | startBatching (sessionId : UInt32) (options : Ipc.LocationOptions) (accuracy timeout : UInt32)
      (adapterResponse : Bool)
  | stopBatching (sessionId : UInt32) (adapterResponse : Bool)
  | startOutdoorTripBatching (tripDistance tripTbf timeout : UInt32) (adapterResponse : Bool)
  | reStartOutdoorTripBatching (ongoingTripDistance ongoingTripInterval batchingTimeout : UInt32)
      (adapterResponse : Bool)
  | stopOutdoorTripBatching (deallocBatchBuffer adapterResponse : Bool)
  | queryAccumulatedTripDistance (adapterResponseData : Bool)
  | engineLockStatus (lockState : EngineLockState)

/-- Somebody is to be told. -/
def BatchCall.hasResponse : BatchCall → Bool
  | .setBatchSize _ | .setTripBatchSize _ | .engineLockStatus _ => false
  | .startBatching _ _ _ _ adapterResponse | .stopBatching _ adapterResponse
  | .startOutdoorTripBatching _ _ _ adapterResponse
  | .reStartOutdoorTripBatching _ _ _ adapterResponse
  | .stopOutdoorTripBatching _ adapterResponse
  | .queryAccumulatedTripDistance adapterResponse => adapterResponse

namespace BatchSessions

variable {σ : Type} (modem : σ → BatchRequest → BatchReply × σ)

def step (s : BatchSessions σ) : BatchCall → BatchSessions σ
  | .setBatchSize size => s.setBatchSize size
  | .setTripBatchSize size => s.setTripBatchSize size
  | .startBatching sessionId options accuracy timeout adapterResponse =>
      startBatching modem s sessionId options accuracy timeout adapterResponse
  | .stopBatching sessionId adapterResponse => stopBatching modem s sessionId adapterResponse
  | .startOutdoorTripBatching tripDistance tripTbf timeout adapterResponse =>
      startOutdoorTripBatching modem s tripDistance tripTbf timeout adapterResponse
  | .reStartOutdoorTripBatching distance interval timeout adapterResponse =>
      reStartOutdoorTripBatching modem s distance interval timeout adapterResponse
  | .stopOutdoorTripBatching deallocBatchBuffer adapterResponse =>
      stopOutdoorTripBatching modem s deallocBatchBuffer adapterResponse
  | .queryAccumulatedTripDistance adapterResponseData =>
      queryAccumulatedTripDistance modem s adapterResponseData
  | .engineLockStatus lockState => { s with engineLockState := lockState }

/-! ## What is kept -/

/-- The sizes are those of the trace, which is lawful and has `n` answers. -/
structure Kept (n : Nat) (s : BatchSessions σ) : Prop where
  size : ∀ type, s.batchSize type = confirmedSize type s.trace
  desired : ∀ type, s.desiredSize type = wantedSize type s.trace
  lawful : Lawful s.trace
  answers : s.trace.countP BatchEntry.isAnswer = n

theorem Kept.init (m : σ) (lockState : EngineLockState) : (init m lockState).Kept 0 where
  size type := by cases type <;> rfl
  desired type := by cases type <;> rfl
  lawful before e hprefix := by simp [BatchSessions.init] at hprefix
  answers := rfl

variable {n : Nat} {s s' : BatchSessions σ}

/-- An entry is added that may happen, and the sizes follow it. -/
theorem Kept.extend (h : s.Kept n) (e : BatchEntry) (htrace : s'.trace = s.trace ++ [e])
    (hsize : ∀ type, s'.batchSize type = e.confirms type (s.batchSize type))
    (hdesired : ∀ type, s'.desiredSize type = e.wants type (s.desiredSize type))
    (he : e.Follows s.trace) : s'.Kept (n + e.isAnswer.toNat) where
  size type := by rw [hsize, h.size, htrace, confirmedSize_concat]
  desired type := by rw [hdesired, h.desired, htrace, wantedSize_concat]
  lawful := htrace ▸ h.lawful.concat he
  answers := by
    rw [htrace, List.countP_append, h.answers, List.countP_singleton]
    cases e.isAnswer <;> rfl

variable {modem}

@[simp] theorem trace_send (req : BatchRequest) :
    (send modem s req).2.trace = s.trace ++ [.exchanged req (send modem s req).1] := rfl

@[simp] theorem batchSize_send (req : BatchRequest) :
    (send modem s req).2.batchSize = s.batchSize := by
  funext type
  cases type <;> rfl

@[simp] theorem desiredSize_send (req : BatchRequest) :
    (send modem s req).2.desiredSize = s.desiredSize := by
  funext type
  cases type <;> rfl

@[simp] theorem trace_withBatchSize (size : UInt64) (type : QmiLocBatchingType) :
    (s.withBatchSize size type).trace = s.trace := by cases type <;> rfl

@[simp] theorem desiredSize_withBatchSize (size : UInt64) (type : QmiLocBatchingType) :
    (s.withBatchSize size type).desiredSize = s.desiredSize := by
  funext type'
  cases type <;> cases type' <;> rfl

theorem batchSize_withBatchSize (size : UInt64) (type type' : QmiLocBatchingType) :
    (s.withBatchSize size type).batchSize type' =
      if type = type' then size else s.batchSize type' := by
  cases type <;> cases type' <;> rfl

/-- A request that is not about a buffer. -/
theorem Kept.send (h : s.Kept n) {req : BatchRequest}
    (hquiet : ∀ ind type size, (BatchEntry.exchanged req ind).confirms type size = size)
    (he : ∀ ind, (BatchEntry.exchanged req ind).Follows s.trace) :
    (send modem s req).2.Kept n :=
  h.extend _ rfl (fun _ => by rw [batchSize_send, hquiet]) (fun _ => by rw [desiredSize_send]; rfl)
    (he _)

/-! ## Answers -/

theorem startError_eq_success (ind : BatchReply) :
    s.startError ind = .success ↔ ind.rv = true := by
  rw [startError]
  split
  · simp_all
  · split <;> simp_all

theorem startError_eq_tzLocked {ind : BatchReply} (h : s.startError ind = .tzLocked) :
    ind.rv = false := by
  rw [startError] at h
  split at h
  · cases h
  · simp_all

/-- After the request that the call is for. -/
theorem follows_answered {trace : List BatchEntry} {req : BatchRequest} {ind : BatchReply}
    {err : LocationError} (hjust : justExchanged trace = some (req, ind))
    (hfor : req.isFor = true) (hsuccess : err = .success ↔ ind.rv = true)
    (hlocked : err = .tzLocked → req.isStart = true) : (BatchEntry.answered err).Follows trace := by
  refine ⟨?_, fun herr => ⟨req, ind, hjust, hlocked herr, ?_⟩⟩
  · rw [hsuccess, hjust]
    constructor
    · exact fun hrv => ⟨req, ind, rfl, hfor, hrv⟩
    · rintro ⟨_, _, ⟨⟩, -, hrv⟩
      exact hrv
  · rw [← Bool.not_eq_true, ← hsuccess, herr]
    rintro ⟨⟩

/-- After a request that only prepares it. -/
theorem follows_answered_of_prepares {trace : List BatchEntry} {req : BatchRequest}
    {ind : BatchReply} (hjust : justExchanged trace = some (req, ind)) (hfor : req.isFor = false) :
    (BatchEntry.answered .generalFailure).Follows trace := by
  refine ⟨?_, by rintro ⟨⟩⟩
  constructor
  · rintro ⟨⟩
  · rintro ⟨req', ind', hjust', hfor', -⟩
    rw [hjust] at hjust'
    cases hjust'
    rw [hfor] at hfor'
    cases hfor'

theorem Kept.respond (h : s.Kept n) {err : LocationError}
    (herr : (BatchEntry.answered err).Follows s.trace) (adapterResponse : Bool) :
    (s.respond adapterResponse err).Kept (n + adapterResponse.toNat) := by
  cases adapterResponse
  · exact h
  · exact h.extend (.answered err) rfl (fun type => by cases type <;> rfl)
      (fun type => by cases type <;> rfl) herr

/-! ## Buffers -/

/-- The answer to a request for the size is stored. -/
theorem Kept.allocated (h : s.Kept n) {size : UInt32} {type : QmiLocBatchingType}
    (he : ∀ ind, (BatchEntry.exchanged (.getBatchSize size type) ind).Follows s.trace)
    {stored : UInt64}
    (hstored : (BatchSessions.send modem s (.getBatchSize size type)).1.granted = stored) :
    ((BatchSessions.send modem s (.getBatchSize size type)).2.withBatchSize stored type).Kept
      n := by
  refine h.extend _ (by rw [trace_withBatchSize, trace_send]) (fun type' => ?_) (fun type' => ?_)
    (he _)
  · rw [batchSize_withBatchSize, batchSize_send, ← hstored]
    rfl
  · rw [desiredSize_withBatchSize, desiredSize_send]
    rfl

/-- What a call has prepared: there is a buffer, or it failed at that. -/
structure Prepared (n : Nat) (type : QmiLocBatchingType) (r : LocationError × BatchSessions σ) :
    Prop where
  kept : r.2.Kept n
  allocated : r.1 = .success → r.2.batchSize type ≠ 0
  failed : r.1 ≠ .success →
    ∃ req ind, justExchanged r.2.trace = some (req, ind) ∧ req.isFor = false

/-- The modem has answered, and `err` is right. -/
theorem Kept.prepared (h : s.Kept n) {size : UInt32} {type : QmiLocBatchingType}
    (he : ∀ ind, (BatchEntry.exchanged (.getBatchSize size type) ind).Follows s.trace)
    {stored : UInt64} {err : LocationError}
    (hstored : (BatchSessions.send modem s (.getBatchSize size type)).1.granted = stored)
    (herr : err = .success → stored ≠ 0) :
    Prepared n type
      (err, (BatchSessions.send modem s (.getBatchSize size type)).2.withBatchSize stored type) where
  kept := h.allocated he hstored
  allocated hsuccess := by
    rw [batchSize_withBatchSize, if_pos rfl]
    exact herr hsuccess
  failed _ := ⟨_, _, by rw [trace_withBatchSize, trace_send, justExchanged_concat], rfl⟩

theorem allocated_ne_zero {ind : BatchReply}
    (herr : (if ind.batchSize ≠ 0 then LocationError.success else .generalFailure) = .success) :
    ind.batchSize.toUInt64 ≠ 0 := by
  split at herr
  · rename_i hne
    intro hzero
    exact hne (UInt32.toUInt64_inj.mp hzero)
  · cases herr

/-- The first answer may name the largest size, which is asked for then. -/
theorem Kept.queryBatchBuffer (h : s.Kept n) {batchMode : BatchingMode}
    (hzero : s.batchSize (batchTypeOf batchMode) = 0) {desiredSize : UInt64}
    (hdesired : desiredSize = s.desiredSize (batchTypeOf batchMode)) :
    Prepared n (batchTypeOf batchMode)
      (BatchSessions.queryBatchBuffer modem s desiredSize batchMode) := by
  have hnone : confirmedSize (batchTypeOf batchMode) s.trace = 0 := h.size _ ▸ hzero
  have hfirst : ∀ ind, (BatchEntry.exchanged
      (.getBatchSize desiredSize.toUInt32 (batchTypeOf batchMode)) ind).Follows s.trace :=
    fun _ => ⟨hnone, .inl (by rw [hdesired, h.desired])⟩
  rw [BatchSessions.queryBatchBuffer]
  generalize hsent : BatchSessions.send modem s
    (.getBatchSize desiredSize.toUInt32 (batchTypeOf batchMode)) = sent
  dsimp only
  split
  · rename_i hrv
    subst hsent
    exact h.prepared hfirst (BatchReply.granted_of_rv hrv) allocated_ne_zero
  · rename_i hrv
    split
    · rename_i hretry
      obtain ⟨rfl, hinvalid, hpos⟩ := hretry
      -- nothing is stored between the two requests, where the size is 0 already
      have hrefused : sent.2.Kept n := by
        subst hsent
        refine h.extend _ rfl (fun type => ?_) (fun type => by rw [desiredSize_send]; rfl)
          (hfirst _)
        show _ = if batchTypeOf .trip = type then (BatchSessions.send modem s _).1.granted else _
        rw [batchSize_send, BatchReply.granted_of_not_rv hrv]
        split
        · rename_i htype
          rw [← htype, hzero]
        · rfl
      have hsecond : ∀ ind, (BatchEntry.exchanged
          (.getBatchSize sent.1.batchSize (batchTypeOf .trip)) ind).Follows sent.2.trace := by
        intro _
        refine ⟨?_, .inr ⟨desiredSize.toUInt32, sent.1, ?_, rfl, (Bool.not_eq_true _).mp hrv,
          hinvalid, hpos, rfl⟩⟩
        · rw [← hrefused.size, ← hsent, batchSize_send, hzero]
        · rw [← hsent, trace_send, justExchanged_concat]
      split
      · rename_i hagain
        exact hrefused.prepared hsecond (BatchReply.granted_of_rv hagain) allocated_ne_zero
      · rename_i hagain
        exact hrefused.prepared hsecond (BatchReply.granted_of_not_rv hagain) (by rintro ⟨⟩)
    · subst hsent
      exact h.prepared hfirst (BatchReply.granted_of_not_rv hrv) (by rintro ⟨⟩)

variable (modem)

theorem Kept.getBatchSizeIfNeeded (h : s.Kept n) (batchMode : BatchingMode) :
    Prepared n (batchTypeOf batchMode) (BatchSessions.getBatchSizeIfNeeded modem s batchMode) := by
  rw [BatchSessions.getBatchSizeIfNeeded]
  split
  · rename_i hzero
    exact h.queryBatchBuffer hzero rfl
  · rename_i hne
    exact ⟨h, fun _ => hne, fun hfail => absurd rfl hfail⟩

/-! ## Calls -/

theorem fixSessionTimeout_ne (timeout : UInt32) : fixSessionTimeout timeout ≠ some 0 := by
  rw [fixSessionTimeout]
  split
  · rename_i hpos
    rintro ⟨⟩
    exact absurd hpos (by decide)
  · rintro ⟨⟩

theorem one_thousand_le (interval : UInt32) :
    1000 ≤ if 1000 ≤ interval then interval else 1000 := by
  split
  · assumption
  · exact UInt32.le_refl _

theorem one_le_distance (distance : UInt32) : 1 ≤ if 0 < distance then distance else 1 := by
  split
  · rename_i hpos
    exact UInt32.le_iff_toNat_le.mpr (UInt32.lt_iff_toNat_lt.mp hpos)
  · exact UInt32.le_refl _

/-- There is a buffer, so the session is started. -/
theorem Prepared.start {type : QmiLocBatchingType} {r : LocationError × BatchSessions σ}
    (h : Prepared n type r) (req : BatchRequest) (hstart : req.isStart = true)
    (he : confirmedSize type r.2.trace ≠ 0 → ∀ ind,
      (BatchEntry.exchanged req ind).Follows r.2.trace)
    (hsuccess : r.1 = .success) :
    let sent := BatchSessions.send modem r.2 req
    sent.2.Kept n ∧ (BatchEntry.answered (sent.2.startError sent.1)).Follows sent.2.trace := by
  intro sent
  have hsize : confirmedSize type r.2.trace ≠ 0 := h.kept.size type ▸ h.allocated hsuccess
  constructor
  · refine h.kept.send (fun ind type size => ?_) (he hsize)
    cases req <;> first | rfl | cases hstart
  · refine follows_answered (by rw [trace_send, justExchanged_concat]) ?_
      (startError_eq_success _) fun _ => hstart
    cases req <;> first | rfl | cases hstart

theorem Prepared.answered {type : QmiLocBatchingType} {r : LocationError × BatchSessions σ}
    (h : Prepared n type r) (hfail : r.1 ≠ .success) :
    (BatchEntry.answered .generalFailure).Follows r.2.trace := by
  obtain ⟨req, ind, hjust, hfor⟩ := h.failed hfail
  exact follows_answered_of_prepares hjust hfor

theorem Kept.startBatching (h : s.Kept n) (sessionId : UInt32) (options : Ipc.LocationOptions)
    (accuracy timeout : UInt32) (adapterResponse : Bool) :
    (BatchSessions.startBatching modem s sessionId options accuracy timeout adapterResponse).Kept
      (n + adapterResponse.toNat) := by
  have hmode : (BatchSessions.send modem s (.setOperationMode options.mode)).2.Kept n :=
    h.send (fun _ _ _ => rfl) fun _ => trivial
  have hprep := hmode.getBatchSizeIfNeeded modem .routine
  rw [BatchSessions.startBatching]
  dsimp only
  split
  · rename_i hfail
    exact hprep.kept.respond (hprep.answered hfail) adapterResponse
  · rename_i hsuccess
    obtain ⟨hkept, hanswered⟩ := hprep.start modem
      (.startBatching (startBatchReq sessionId options accuracy timeout)) rfl
      (fun hsize _ => ⟨hsize, one_thousand_le _, fixSessionTimeout_ne _⟩) (not_not.mp hsuccess)
    exact hkept.respond hanswered adapterResponse

theorem Kept.startOutdoorTripBatchingSync (h : s.Kept n) (tripDistance tripTbf timeout : UInt32) :
    let r := BatchSessions.startOutdoorTripBatchingSync modem s tripDistance tripTbf timeout
    r.2.Kept n ∧ (BatchEntry.answered r.1).Follows r.2.trace := by
  have hprep := h.getBatchSizeIfNeeded modem .trip
  rw [BatchSessions.startOutdoorTripBatchingSync]
  dsimp only
  split
  · rename_i hfail
    exact ⟨hprep.kept, hprep.answered hfail⟩
  · rename_i hsuccess
    refine hprep.start modem (.startOutdoorTripBatching _) rfl (fun hsize _ => ?_)
      (not_not.mp hsuccess)
    exact ⟨hsize, one_thousand_le _, one_le_distance _, fixSessionTimeout_ne _⟩

theorem Kept.stop (h : s.Kept n) (requestId : Option UInt32) (type : QmiLocBatchingType) :
    (BatchSessions.send modem s (.stopBatching requestId type)).2.Kept n :=
  h.send (fun _ _ _ => rfl) fun _ => trivial

/-- After a request that is not a start. -/
theorem follows_answered_sent (s : BatchSessions σ) {req : BatchRequest}
    (hfor : req.isFor = true) :
    let sent := send modem s req
    (BatchEntry.answered (if sent.1.rv then .success else .generalFailure)).Follows
      sent.2.trace := by
  intro sent
  refine follows_answered (by rw [trace_send, justExchanged_concat]) hfor ?_ ?_
  · cases sent.1.rv <;> simp
  · split <;> rintro ⟨⟩

theorem Kept.stopBatching (h : s.Kept n) (sessionId : UInt32) (adapterResponse : Bool) :
    (BatchSessions.stopBatching modem s sessionId adapterResponse).Kept
      (n + adapterResponse.toNat) :=
  (h.stop modem (some sessionId) .locationBatching).respond (follows_answered_sent modem s rfl)
    adapterResponse

theorem confirms_releaseBatch (batchType type : QmiLocBatchingType) (ind : BatchReply)
    (size : UInt64) : (BatchEntry.exchanged (.releaseBatch batchType) ind).confirms type size =
      if batchType = type ∧ ind.rv then 0 else size := rfl

/-- The buffer is released when the trip is stopped. -/
theorem Kept.releaseBatchBuffer (h : s.Kept n) {ind : BatchReply} (hrv : ind.rv = true)
    (hjust : justExchanged s.trace = some (.stopBatching none .outdoorTripBatching, ind)) :
    let r := BatchSessions.releaseBatchBuffer modem s .trip
    r.2.Kept n ∧ (BatchEntry.answered r.1).Follows r.2.trace := by
  have hanswered : (BatchEntry.answered (if
      (BatchSessions.send modem s (.releaseBatch .outdoorTripBatching)).1.rv then _ else _)).Follows
        _ := follows_answered_sent modem s rfl
  have he : ∀ ind, (BatchEntry.exchanged (.releaseBatch .outdoorTripBatching) ind).Follows
      s.trace := fun _ => ⟨rfl, ind, hjust, hrv⟩
  rw [BatchSessions.releaseBatchBuffer]
  dsimp only at hanswered ⊢
  split at hanswered
  · rename_i hreleased
    rw [if_pos hreleased]
    refine ⟨h.extend _ rfl (fun type => ?_) (fun type => by cases type <;> rfl) (he _), hanswered⟩
    rw [confirms_releaseBatch]
    cases type
    · rw [if_neg (by rintro ⟨⟨⟩, -⟩)]
      rfl
    · rw [if_pos ⟨rfl, hreleased⟩]
      rfl
  · rename_i hrefused
    rw [if_neg hrefused]
    refine ⟨h.extend _ rfl (fun type => ?_) (fun type => by cases type <;> rfl) (he _), hanswered⟩
    rw [batchSize_send, confirms_releaseBatch, if_neg fun hboth => hrefused hboth.2]

theorem Kept.stopOutdoorTripBatchingSync (h : s.Kept n) (deallocBatchBuffer : Bool) :
    let r := BatchSessions.stopOutdoorTripBatchingSync modem s deallocBatchBuffer
    r.2.Kept n ∧ (BatchEntry.answered r.1).Follows r.2.trace := by
  have hstop := h.stop modem none .outdoorTripBatching
  have hanswered : (BatchEntry.answered (if
      (BatchSessions.send modem s (.stopBatching none .outdoorTripBatching)).1.rv
        then _ else _)).Follows _ := follows_answered_sent modem s rfl
  rw [BatchSessions.stopOutdoorTripBatchingSync]
  dsimp only at hanswered ⊢
  split at hanswered
  · rename_i hrv
    rw [hrv, if_neg (by decide)]
    split
    · exact hstop.releaseBatchBuffer modem hrv (by rw [trace_send, justExchanged_concat])
    · exact ⟨hstop, hanswered⟩
  · rename_i hrv
    rw [(Bool.not_eq_true _).mp hrv, if_pos (by decide)]
    exact ⟨hstop, hanswered⟩

/-- What is read out is what the answer has. -/
theorem Kept.queryAccumulatedTripDistanceSync (h : s.Kept n) :
    let r := BatchSessions.queryAccumulatedTripDistanceSync modem s
    r.2.Kept n ∧ (BatchEntry.answered r.1.1).Follows r.2.trace ∧
      (r.1.2 ≠ 0 → (BatchEntry.getBatchedTripLocations r.1.2).Follows r.2.trace) := by
  have hkept : (BatchSessions.send modem s .queryOTBAccumulatedDistance).2.Kept n :=
    h.send (fun _ _ _ => rfl) fun _ => trivial
  have hanswered : (BatchEntry.answered (if
      (BatchSessions.send modem s .queryOTBAccumulatedDistance).1.rv then _ else _)).Follows _ :=
    follows_answered_sent modem s rfl
  rw [BatchSessions.queryAccumulatedTripDistanceSync]
  dsimp only
  split at hanswered
  · rename_i hrv
    rw [if_pos hrv]
    exact ⟨hkept, hanswered, fun hne =>
      ⟨hne, _, by rw [trace_send, justExchanged_concat], hrv, rfl⟩⟩
  · rename_i hrv
    rw [if_neg hrv]
    exact ⟨hkept, hanswered, fun hne => absurd rfl hne⟩

theorem Kept.reStartOutdoorTripBatching (h : s.Kept n)
    (ongoingTripDistance ongoingTripInterval batchingTimeout : UInt32) (adapterResponse : Bool) :
    (BatchSessions.reStartOutdoorTripBatching modem s ongoingTripDistance ongoingTripInterval
      batchingTimeout adapterResponse).Kept (n + adapterResponse.toNat) := by
  obtain ⟨hquery, -, hread⟩ := h.queryAccumulatedTripDistanceSync modem
  rw [BatchSessions.reStartOutdoorTripBatching]
  revert hquery hread
  generalize BatchSessions.queryAccumulatedTripDistanceSync modem s = r
  intro hquery hread
  dsimp only
  have hreadOut :
      (if r.1.2 ≠ 0 then r.2.note (.getBatchedTripLocations r.1.2) else r.2).Kept n := by
    split
    · rename_i hne
      exact hquery.extend _ rfl (fun type => by cases type <;> rfl)
        (fun type => by cases type <;> rfl) (hread hne)
    · exact hquery
  have hstop := (hreadOut.stopOutdoorTripBatchingSync modem false).1
  obtain ⟨hkept, hanswered⟩ := hstop.startOutdoorTripBatchingSync modem
    ongoingTripDistance ongoingTripInterval batchingTimeout
  exact hkept.respond hanswered adapterResponse

theorem Kept.step (h : s.Kept n) (call : BatchCall) :
    (step modem s call).Kept (n + call.hasResponse.toNat) := by
  cases call with
  | setBatchSize size =>
    exact h.extend (.sized .locationBatching size) rfl (fun type => by cases type <;> rfl)
      (fun type => by cases type <;> rfl) trivial
  | setTripBatchSize size =>
    exact h.extend (.sized .outdoorTripBatching size) rfl (fun type => by cases type <;> rfl)
      (fun type => by cases type <;> rfl) trivial
  | startBatching sessionId options accuracy timeout adapterResponse =>
    exact h.startBatching modem sessionId options accuracy timeout adapterResponse
  | stopBatching sessionId adapterResponse => exact h.stopBatching modem sessionId adapterResponse
  | startOutdoorTripBatching tripDistance tripTbf timeout adapterResponse =>
    cases adapterResponse
    · exact h
    · obtain ⟨hkept, hanswered⟩ := h.startOutdoorTripBatchingSync modem tripDistance
        tripTbf timeout
      exact hkept.respond hanswered true
  | reStartOutdoorTripBatching distance interval timeout adapterResponse =>
    exact h.reStartOutdoorTripBatching modem distance interval timeout adapterResponse
  | stopOutdoorTripBatching deallocBatchBuffer adapterResponse =>
    cases adapterResponse
    · exact h
    · obtain ⟨hkept, hanswered⟩ := h.stopOutdoorTripBatchingSync modem
        deallocBatchBuffer
      exact hkept.respond hanswered true
  | queryAccumulatedTripDistance adapterResponseData =>
    obtain ⟨hkept, hanswered, -⟩ := h.queryAccumulatedTripDistanceSync modem
    exact hkept.respond hanswered adapterResponseData
  | engineLockStatus lockState => exact ⟨h.size, h.desired, h.lawful, h.answers⟩

theorem Kept.run (h : s.Kept n) (calls : List BatchCall) :
    (EventRun.run (BatchSessions.step modem) s calls).Kept
      (n + calls.countP BatchCall.hasResponse) := by
  induction calls generalizing s n with
  | nil => exact h
  | cons call calls ih =>
    have hrest := ih (h.step modem call)
    rw [EventRun.run_cons, List.countP_cons]
    convert hrest using 1
    cases call.hasResponse
    · rfl
    · show n + (_ + 1) = n + 1 + _
      omega

end BatchSessions

end LocationStack.LocApi
