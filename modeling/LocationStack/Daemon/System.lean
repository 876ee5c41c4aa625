import LocationStack.Daemon.Service
import LocationStack.Lib.EventRun

/-! # One client of the daemon and its LocationAPI

The daemon's entry of one client together with a ghost account of what `LocationAPI`
still owes it: the session calls and the collective requests that are not answered,
both in call order, and the geofences it holds or is still adding.  `LocationAPI` is
outside the source; all that is assumed of it is that it answers each call once and in
order, with one error per id for a collective request, that the ids it gives to new
geofences are distinct, not 0 and not in use, and that it reports breaches of
geofences it has.  An event that would break this does not happen.

An `addGeofences` that returned a null pointer was not accepted and is not answered.
-/
namespace LocationStack.Daemon

open Ipc

/-! ## The account of LocationAPI -/

/-- The request whose `responseCb` a call leads to. -/
def HalCall.responseTo : HalCall → Option ELocMsgID
  | .startTracking _ => some .startTracking
  | .stopTracking _ => some .stopTracking
  | .updateTrackingOptions _ _ => some .updateTrackingOptions
  | .startBatching _ => some .startBatching
  | .stopBatching _ => some .stopBatching
  | .updateBatchingOptions _ _ => some .updateBatchingOptions
  | _ => none

/-- The request and the session ids whose `collectiveResponseCb` a call leads to. -/
def HalCall.collectiveFor : HalCall → Option (ELocMsgID × List UInt32)
  | .addGeofences _ _ (some ids) => some (.addGeofences, ids)
  | .removeGeofences ids => some (.removeGeofences, ids)
  | .modifyGeofences ids _ => some (.modifyGeofences, ids)
  | .pauseGeofences ids => some (.pauseGeofences, ids)
  | .resumeGeofences ids => some (.resumeGeofences, ids)
  | _ => none

/-- What `LocationAPI` has of one client. -/
structure HalState where
  /-- Session calls without a `responseCb` so far. -/
  sessionCalls : List ELocMsgID
  /-- Collective requests without a `collectiveResponseCb` so far. -/
  collectiveCalls : List (ELocMsgID × List UInt32)
  /-- The geofences held or being added: the client id each was added under, and its
  session id. -/
  held : List (UInt32 × UInt32)
  deriving DecidableEq

namespace HalState

def empty : HalState := { sessionCalls := [], collectiveCalls := [], held := [] }

/-- The new geofences among the calls made for `clientIds`. -/
def added (clientIds : List UInt32) : HalCall → List (UInt32 × UInt32)
  | .addGeofences _ _ (some ids) => clientIds.zip ids
  | _ => []

/-- The calls of a list of actions. -/
def calls (acts : List Action) : List HalCall :=
  acts.filterMap fun
    | .hal call => some call
    | .send _ => none

/-- The account after a request, made for `clientIds`, did `acts`. -/
def record (hal : HalState) (clientIds : List UInt32) (acts : List Action) : HalState :=
  { sessionCalls := hal.sessionCalls ++ (calls acts).filterMap HalCall.responseTo
    collectiveCalls := hal.collectiveCalls ++ (calls acts).filterMap HalCall.collectiveFor
    held := hal.held ++ (calls acts).flatMap (added clientIds) }

/-- A response to `label` says of the session that it is gone: its add failed or its
removal succeeded. -/
def drops (label : ELocMsgID) (resp : List (UInt32 × LocationError)) (session : UInt32) :
    Bool :=
  resp.any fun r => r.1 == session &&
    ((label == .addGeofences && r.2 != .success) ||
      (label == .removeGeofences && r.2 == .success))

/-- The geofences left after a collective response to `label`. -/
def heldAfter (hal : HalState) (label : ELocMsgID)
    (resp : List (UInt32 × LocationError)) : List (UInt32 × UInt32) :=
  hal.held.filter fun g => !drops label resp g.2

/-- `LocationAPI` has a geofence with the session id. -/
def holds (hal : HalState) (session : UInt32) : Bool :=
  (hal.held.map Prod.snd).contains session

theorem holds_iff (hal : HalState) (session : UInt32) :
    hal.holds session = true ↔ session ∈ hal.held.map Prod.snd := List.contains_iff_mem

/-- The ids `LocationAPI` may give to `n` new geofences. -/
def MayReturn (hal : HalState) (n : Nat) (ret : Option (List UInt32)) : Prop :=
  ∀ ids ∈ ret, ids.length = n ∧ ids.Nodup ∧ 0 ∉ ids ∧
    ids.all fun session => !hal.holds session

instance (hal : HalState) (n : Nat) (ret : Option (List UInt32)) :
    Decidable (hal.MayReturn n ret) :=
  inferInstanceAs (Decidable (∀ ids ∈ ret, _))

end HalState

/-- What `LocationAPI` may return to the calls a message leads to. -/
def HalState.MayAnswer (hal : HalState) (ret : HalReturns) : ReqMsg → Prop
  | .addGeofences geofences => hal.MayReturn geofences.length ret.addGeofences
  | _ => True

instance (hal : HalState) (ret : HalReturns) : (msg : ReqMsg) → Decidable (hal.MayAnswer ret msg)
  | .addGeofences geofences =>
    inferInstanceAs (Decidable (hal.MayReturn geofences.length ret.addGeofences))
  | .clientRegister _ | .clientDeregister | .updateCallbacks _ | .startTracking _
  | .stopTracking _ | .updateTrackingOptions _ | .startBatching _ _ _ | .stopBatching
  | .updateBatchingOptions _ _ _ | .removeGeofences _ | .modifyGeofences _
  | .pauseGeofences _ | .resumeGeofences _ => inferInstanceAs (Decidable True)

/-- The client ids an add request names. -/
def addedIds : ReqMsg → List UInt32
  | .addGeofences geofences => geofences.map GeofencePayload.gfClientId
  | _ => []

/-! ## Events -/

/-- One client's entry, the account of its `LocationAPI`, and a record of every
session response: the call it answers and the message id of the
`LocAPIGenericRespMsg` that was sent for it, if one was. -/
structure State where
  client : Entry
  hal : HalState
  answered : List (ELocMsgID × Option ELocMsgID)
  deriving DecidableEq

/-- No client is registered. -/
def State.init : State := { client := none, hal := .empty, answered := [] }

inductive Event
  /-- A message of the client is processed. -/
  | request (msg : ReqMsg) (ret : HalReturns) (mIpcSender rc : Bool)
  /-- The default client is made. -/
  | autoStart (gnssSessionTbfMs ret : UInt32) (mIpcSender : Bool)
  /-- `LocationAPI` reports its capabilities. -/
  | capabilitiesCb (mask : UInt64) (rc : Bool)
  /-- `LocationAPI` answers its oldest session call. -/
  | responseCb (err : LocationError) (rc : Bool)
  /-- `LocationAPI` answers its oldest collective request. -/
  | collectiveResponseCb (errs : List LocationError) (rc : Bool)
  /-- `LocationAPI` reports a breach. -/
  | geofenceBreachCb (ids : List UInt32) (rc : Bool)
  deriving DecidableEq

/-- The message id of the generic response among `acts`. -/
def respondedWith (acts : List Action) : Option ELocMsgID :=
  acts.findSome? fun
    | .send (.genericResp id _) => some id
    | _ => none

/-- The messages of a list of actions. -/
def sentMsgs (acts : List Action) : List IndMsg :=
  acts.filterMap fun
    | .send msg => some msg
    | .hal _ => none

/-- What `LocationAPI` owes a client that is gone is not accounted for: it goes to a
handler that has no sender. -/
def State.settle (client : Entry) (hal : HalState)
    (answered : List (ELocMsgID × Option ELocMsgID)) : State :=
  { client := client
    hal := if client.isSome then hal else .empty
    answered := answered }

/-- The next state and what the daemon does on the way. -/
def stepActs (mPositionMode : GnssSuplMode) (s : State) : Event → State × List Action
  | .request msg ret mIpcSender rc =>
    if s.hal.MayAnswer ret msg then
      let (client, acts) :=
        LocationApiService.processClientMsg mPositionMode s.client msg ret mIpcSender rc
      (.settle client (s.hal.record (addedIds msg) acts) s.answered, acts)
    else (s, [])
  | .autoStart gnssSessionTbfMs ret mIpcSender =>
    match s.client with
    | some _ => (s, [])
    | none =>
      let (h, acts) :=
        LocationApiService.autoStart mPositionMode gnssSessionTbfMs ret mIpcSender
      (.settle (some h) (s.hal.record [] acts) s.answered, acts)
  | .capabilitiesCb mask rc =>
    match s.client with
    | none => (s, [])
    | some h =>
      let (client, acts) := h.onCapabilitiesCallback mask rc
      (.settle client s.hal s.answered, acts)
  | .responseCb err rc =>
    match s.client, s.hal.sessionCalls with
    | some h, call :: calls =>
      let (client, acts) := h.onResponseCb err rc
      (.settle client { s.hal with sessionCalls := calls }
        (s.answered ++ [(call, respondedWith acts)]), acts)
    | _, _ => (s, [])
  | .collectiveResponseCb errs rc =>
    match s.client, s.hal.collectiveCalls with
    | some h, (label, ids) :: calls =>
      if errs.length = ids.length then
        let (client, acts) := h.onCollectiveResponseCallback (ids.zip errs) rc
        (.settle client
          { s.hal with
            collectiveCalls := calls
            held := s.hal.heldAfter label (ids.zip errs) } s.answered, acts)
      else (s, [])
    | _, _ => (s, [])
  | .geofenceBreachCb ids rc =>
    match s.client with
    | none => (s, [])
    | some h =>
      if ids.all s.hal.holds then
        let (client, acts) := h.onGeofenceBreachCb ids rc
        (.settle client s.hal s.answered, acts)
      else (s, [])

def step (mPositionMode : GnssSuplMode) (s : State) (e : Event) : State :=
  (stepActs mPositionMode s e).1

/-! ## A handler that survives -/

namespace LocHalDaemonClientHandler

variable (h : LocHalDaemonClientHandler)

/-- A handler that is not purged by a send is the one it was, and called nothing. -/
theorem sendMessage_some {msg : IndMsg} (rc : Bool) {h' : LocHalDaemonClientHandler}
    (hh' : h' ∈ (h.sendMessage msg rc).1) :
    h' = h ∧ HalState.calls (h.sendMessage msg rc).2 = [] := by
  cases rc with
  | false => simp [sendMessage] at hh'
  | true => exact ⟨(Option.some.inj hh').symm, rfl⟩

theorem sendCapabilitiesMsg_some (rc : Bool) {h' : LocHalDaemonClientHandler}
    (hh' : h' ∈ (h.sendCapabilitiesMsg rc).1) :
    h' = h ∧ HalState.calls (h.sendCapabilitiesMsg rc).2 = [] := by
  unfold sendCapabilitiesMsg at hh' ⊢
  split at hh'
  · rw [if_pos ‹_›]
    exact h.sendMessage_some rc hh'
  · rw [if_neg ‹_›]
    exact ⟨(Option.some.inj hh').symm, rfl⟩

theorem onCapabilitiesCallback_some (mask : UInt64) (rc : Bool)
    {h' : LocHalDaemonClientHandler} (hh' : h' ∈ (h.onCapabilitiesCallback mask rc).1) :
    h' = { h with mCapabilityMask := mask } := by
  unfold onCapabilitiesCallback at hh'
  split at hh'
  · exact (sendCapabilitiesMsg_some _ rc hh').1
  · have hmask : mask = h.mCapabilityMask := by simpa using ‹¬(mask != h.mCapabilityMask) = true›
    subst hmask
    exact (Option.some.inj hh').symm

theorem onGeofenceBreachCb_some (ids : List UInt32) (rc : Bool)
    {h' : LocHalDaemonClientHandler} (hh' : h' ∈ (h.onGeofenceBreachCb ids rc).1) :
    h' = h := by
  unfold onGeofenceBreachCb at hh'
  split at hh'
  · split at hh'
    · exact (Option.some.inj hh').symm
    · exact (sendMessage_some _ rc hh').1
  · exact (Option.some.inj hh').symm

/-- With a sender, a response takes the front id off the queue. -/
theorem onResponseCb_some (err : LocationError) (rc : Bool) (hs : h.mIpcSender)
    {h' : LocHalDaemonClientHandler} (hh' : h' ∈ (h.onResponseCb err rc).1) :
    h' = { h with mPendingMessages := h.mPendingMessages.tail } := by
  unfold onResponseCb at hh'
  rw [if_pos hs] at hh'
  dsimp only at hh'
  split at hh'
  · exact (sendMessage_some _ rc hh').1
  · exact (Option.some.inj hh').symm

/-- The geofences an answered collective request takes out of the map: all of a
removal, and those that failed. -/
def answeredIds (label : ELocMsgID) (resp : List (UInt32 × LocationError)) : List UInt32 :=
  (resp.filter fun r => label == .removeGeofences || r.2 != .success).map
    fun r => IdMap.keyOf h.mGfIdsMap r.1 0

/-- The response to a client: each geofence under its client id, with its error. -/
def gfResponse (resp : List (UInt32 × LocationError)) : List GeofenceResponse :=
  resp.map fun r => ⟨IdMap.keyOf h.mGfIdsMap r.1 0, r.2⟩

theorem getClientIds_eq {ids : List UInt32} (hne : ids ≠ []) :
    h.getClientIds ids = some (ids.map fun session => IdMap.keyOf h.mGfIdsMap session 0) := by
  rw [getClientIds, if_neg (by simpa using hne)]

theorem zipWith_response (resp : List (UInt32 × LocationError)) :
    ((resp.map Prod.fst).map fun session => IdMap.keyOf h.mGfIdsMap session 0).zipWith
      GeofenceResponse.mk (resp.map Prod.snd) = h.gfResponse resp := by
  rw [List.map_map, List.zipWith_map, List.zipWith_self]
  rfl

/-- What a collective response to `label` erases. -/
theorem lookup_answered (label : ELocMsgID) (resp : List (UInt32 × LocationError))
    (id : UInt32) :
    (IdMap.eraseAll
      (if label == .removeGeofences then
        IdMap.eraseAll h.mGfIdsMap
          ((resp.map Prod.fst).map fun s => IdMap.keyOf h.mGfIdsMap s 0)
      else h.mGfIdsMap)
      (((h.gfResponse resp).filter fun r => r.error != .success).map
        GeofenceResponse.clientId)).lookup id =
      if id ∈ h.answeredIds label resp then none else h.mGfIdsMap.lookup id := by
  have hfailed : ((h.gfResponse resp).filter fun r => r.error != .success).map
      GeofenceResponse.clientId =
        (resp.filter fun r => r.2 != .success).map fun r => IdMap.keyOf h.mGfIdsMap r.1 0 := by
    simp [gfResponse, List.filter_map, Function.comp_def]
  rw [IdMap.lookup_eraseAll, hfailed]
  by_cases hl : label = .removeGeofences
  · subst hl
    have hall : h.answeredIds .removeGeofences resp =
        (resp.map Prod.fst).map fun s => IdMap.keyOf h.mGfIdsMap s 0 := by
      simp [answeredIds, Function.comp_def]
    rw [beq_self_eq_true, if_pos rfl, IdMap.lookup_eraseAll, hall]
    split
    · rw [if_pos]
      obtain ⟨r, hr, rfl⟩ := List.mem_map.mp ‹_›
      exact List.mem_map.mpr ⟨r.1, List.mem_map.mpr ⟨r, (List.mem_filter.mp hr).1, rfl⟩, rfl⟩
    · rfl
  · have hne : (label == .removeGeofences) = false := by simpa using hl
    simp only [answeredIds, hne, Bool.false_or, Bool.false_eq_true, if_false]

/-- With a sender and a geofence request at the front, a collective response takes the
request off the queue and the answered ids out of the map. -/
theorem onCollectiveResponseCallback_some {label : ELocMsgID}
    (resp : List (UInt32 × LocationError)) (rc : Bool) (hs : h.mIpcSender)
    (hfront : h.mGfPendingMessages.head? = some label) (hlabel : collectiveRespondsTo label)
    {h' : LocHalDaemonClientHandler}
    (hh' : h' ∈ (h.onCollectiveResponseCallback resp rc).1) :
    ∃ m : GfIdsMap,
      h' = { h with mGfPendingMessages := h.mGfPendingMessages.tail, mGfIdsMap := m } ∧
      ∀ id, m.lookup id =
        if id ∈ h.answeredIds label resp then none else h.mGfIdsMap.lookup id := by
  unfold onCollectiveResponseCallback at hh'
  rw [if_pos hs, hfront] at hh'
  dsimp only [Option.getD_some] at hh'
  cases resp with
  | nil =>
    refine ⟨h.mGfIdsMap, (Option.some.inj hh').symm, fun id => ?_⟩
    simp [answeredIds]
  | cons r resp =>
    have hids := getClientIds_eq { h with mGfPendingMessages := h.mGfPendingMessages.tail }
      (show (r :: resp).map Prod.fst ≠ [] by simp)
    rw [hids] at hh'
    dsimp only at hh'
    rw [if_pos hlabel] at hh'
    obtain ⟨rfl, _⟩ := sendMessage_some _ rc hh'
    refine ⟨_, ?_, h.lookup_answered label (r :: resp)⟩
    rw [← zipWith_response]
    split <;> rfl

theorem onCollectiveResponseCallback_pending (resp : List (UInt32 × LocationError))
    (rc : Bool) {h' : LocHalDaemonClientHandler}
    (hh' : h' ∈ (h.onCollectiveResponseCallback resp rc).1) :
    h'.mPendingMessages = h.mPendingMessages := by
  unfold onCollectiveResponseCallback at hh'
  split at hh'
  · dsimp only at hh'
    split at hh'
    · rw [← Option.some.inj hh']
    · split at hh'
      · rw [(sendMessage_some _ rc hh').1]
        split <;> rfl
      · rw [← Option.some.inj hh']
  · rw [Option.some.inj hh']

end LocHalDaemonClientHandler

/-! ## A client that is gone -/

/-- Nothing is owed to a client that is not registered. -/
def Settled (s : State) : Prop := s.client = none → s.hal = .empty

theorem settle_settled (client : Entry) (hal : HalState)
    (answered : List (ELocMsgID × Option ELocMsgID)) :
    Settled (.settle client hal answered) := by
  rintro (rfl : client = none)
  rfl

theorem init_settled : Settled .init := fun _ => rfl

theorem step_settled (mPositionMode : GnssSuplMode) (s : State) (e : Event)
    (hs : Settled s) : Settled (step mPositionMode s e) := by
  unfold step
  cases e with
  | request msg ret mIpcSender rc =>
    simp only [stepActs]
    split
    · exact settle_settled _ _ _
    · exact hs
  | autoStart tbf ret mIpcSender =>
    simp only [stepActs]
    split
    · exact hs
    · exact settle_settled _ _ _
  | capabilitiesCb mask rc =>
    simp only [stepActs]
    split
    · exact hs
    · exact settle_settled _ _ _
  | responseCb err rc =>
    simp only [stepActs]
    split
    · exact settle_settled _ _ _
    · exact hs
  | collectiveResponseCb errs rc =>
    simp only [stepActs]
    split
    · split
      · exact settle_settled _ _ _
      · exact hs
    · exact hs
  | geofenceBreachCb ids rc =>
    simp only [stepActs]
    split
    · exact hs
    · split
      · exact settle_settled _ _ _
      · exact hs

end LocationStack.Daemon
