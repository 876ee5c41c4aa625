import LocationStack.Link.System
import LocationStack.Daemon.Pairing

/-! # What the daemon answers

A request is answered where the daemon knows the client and the handler makes a call of
`LocationAPI` for it: a start finds no session, an update and a stop find one, and a geofence
request has geofences.  `Standing` is what decides this, and it is followed through the messages
that are on their way to the daemon, so that it can be said of each of them whether an answer will
come (`awaits`).

What `LocationAPI` answers goes out under the front of a queue that may hold ids no call was made
for.  Each of them makes a response that the client takes for its own, whichever it is, so the
next response is one as long as there is an id and a call (`State.owes`).
-/
namespace LocationStack.Link

open Ipc Client Daemon

/-! ## What is looked at -/

/-- A response that a client waiting for one takes. -/
def clears : IndMsg → Bool
  | .genericResp msgId _ => msgId != .stopTracking
  | .collectiveResp _ _ => true
  | .capabilities _ | .halReady | .geofenceBreach _ => false

/-- The ids of session requests whose responses a client takes. -/
def passedOn (id : ELocMsgID) : Bool :=
  LocHalDaemonClientHandler.respondsTo id && id != .stopTracking

/-- What the daemon has of the client: a handler, with a tracking session, with a batching one. -/
structure Standing where
  known : Bool
  tracking : Bool
  batching : Bool
  deriving DecidableEq

def standing : Entry → Standing
  | none => ⟨false, false, false⟩
  | some h => ⟨true, h.mSessionId != 0, h.mBatchingId != 0⟩

namespace Standing

/-- After a message, if `LocationAPI` accepts what it is asked. -/
def after (s : Standing) : ReqMsg → Standing
  | .clientRegister _ => { s with known := true }
  | .startTracking _ => { s with tracking := s.known }
  | .stopTracking _ => { s with tracking := false }
  | .startBatching _ _ _ => { s with batching := s.known }
  | .stopBatching => { s with batching := false }
  | _ => s

/-- The message leads to a call of `LocationAPI` that is answered. -/
def answers (s : Standing) : ReqMsg → Bool
  | .startTracking _ => s.known && !s.tracking
  | .updateTrackingOptions _ => s.known && s.tracking
  | .startBatching _ _ _ => s.known && !s.batching
  | .stopBatching | .updateBatchingOptions _ _ _ => s.known && s.batching
  | .addGeofences geofences =>
    s.known && !geofences.isEmpty && decide (geofences.length ≤ Daemon.maxGeofenceCount)
  | .modifyGeofences geofences =>
    s.known && !geofences.isEmpty && decide (geofences.length ≤ Daemon.maxGeofenceCount)
  | .removeGeofences ids | .pauseGeofences ids | .resumeGeofences ids =>
    s.known && !ids.isEmpty
  | .clientRegister _ | .clientDeregister | .updateCallbacks _ | .stopTracking _ => false

/-- One of the messages, processed in their order, will be answered. -/
def awaits : Standing → List ReqMsg → Bool
  | _, [] => false
  | s, msg :: rest => s.answers msg || awaits (s.after msg) rest

end Standing

/-- The daemon can do what a message asks of it: a handler is made with a sender and tells its
capabilities, and `LocationAPI` gives ids to the sessions and geofences it is asked for. -/
def Accepts (st : Standing) (ret : HalReturns) (mIpcSender rc : Bool) : ReqMsg → Prop
  | .clientRegister _ => if st.known then rc = true else mIpcSender = true
  | .startTracking options => st.answers (.startTracking options) → ret.startTracking ≠ 0
  | .startBatching interval distance mode =>
    st.answers (.startBatching interval distance mode) → ret.startBatching ≠ 0
  | .addGeofences geofences => st.answers (.addGeofences geofences) → ret.addGeofences.isSome
  | _ => True

instance (st : Standing) (ret : HalReturns) (mIpcSender rc : Bool) :
    (msg : ReqMsg) → Decidable (Accepts st ret mIpcSender rc msg)
  | .clientRegister _ =>
    inferInstanceAs (Decidable (if st.known then rc = true else mIpcSender = true))
  | .startTracking options =>
    inferInstanceAs (Decidable (st.answers (.startTracking options) → ret.startTracking ≠ 0))
  | .startBatching interval distance mode =>
    inferInstanceAs (Decidable (st.answers (.startBatching interval distance mode) →
      ret.startBatching ≠ 0))
  | .addGeofences geofences =>
    inferInstanceAs (Decidable (st.answers (.addGeofences geofences) → ret.addGeofences.isSome))
  | .clientDeregister | .updateCallbacks _ | .stopTracking _ | .updateTrackingOptions _
  | .stopBatching | .updateBatchingOptions _ _ _ | .removeGeofences _ | .modifyGeofences _
  | .pauseGeofences _ | .resumeGeofences _ => inferInstanceAs (Decidable True)

/-- The next response of `LocationAPI`, to a session call or to a collective one, is passed on
as one that a client takes. -/
def owes (d : Daemon.State) : Bool :=
  d.client.any fun h => h.mIpcSender &&
    ((h.mPendingMessages.head?.any passedOn && !d.hal.sessionCalls.isEmpty) ||
      (h.mGfPendingMessages.head?.any LocHalDaemonClientHandler.collectiveRespondsTo &&
        d.hal.collectiveCalls.head?.any fun call => !call.2.isEmpty))

/-! ## Messages on their way -/

namespace Standing

variable (st : Standing)

theorem awaits_append (msgs msgs' : List ReqMsg) :
    st.awaits (msgs ++ msgs') = (st.awaits msgs || (msgs.foldl after st).awaits msgs') := by
  induction msgs generalizing st with
  | nil => rfl
  | cons msg msgs ih =>
    rw [List.cons_append, awaits, ih, awaits, List.foldl_cons, Bool.or_assoc]

/-- A client that is known stays known. -/
theorem foldl_after_known {st : Standing} (h : st.known = true) (msgs : List ReqMsg) :
    (msgs.foldl after st).known = true := by
  induction msgs generalizing st with
  | nil => exact h
  | cons msg msgs ih =>
    refine ih ?_
    cases msg with
    | clientRegister clientType => rfl
    | _ => exact h

/-- A message that starts no session and stops none. -/
def neutral : ReqMsg → Bool
  | .startTracking _ | .stopTracking _ | .startBatching _ _ _ | .stopBatching => false
  | .clientRegister _ | .clientDeregister | .updateCallbacks _ | .updateTrackingOptions _
  | .updateBatchingOptions _ _ _ | .addGeofences _ | .removeGeofences _ | .modifyGeofences _
  | .pauseGeofences _ | .resumeGeofences _ => true

theorem foldl_after_neutral {msgs : List ReqMsg} (h : ∀ msg ∈ msgs, neutral msg) :
    (msgs.foldl after st).tracking = st.tracking ∧
      (msgs.foldl after st).batching = st.batching := by
  induction msgs generalizing st with
  | nil => exact ⟨rfl, rfl⟩
  | cons msg msgs ih =>
    obtain ⟨htracking, hbatching⟩ := ih (st.after msg) fun msg' hmem =>
      h msg' (List.mem_cons_of_mem _ hmem)
    have hmsg := h msg (List.mem_cons_self ..)
    rw [List.foldl_cons, htracking, hbatching]
    cases msg <;> first | exact ⟨rfl, rfl⟩ | exact absurd hmsg (by simp [neutral])

end Standing

/-! ## A request -/

/-- The collective calls of a list of actions. -/
def collectiveCallsOf (acts : List Action) : List (ELocMsgID × List UInt32) :=
  (HalState.calls acts).filterMap HalCall.collectiveFor

@[simp] theorem collectiveCallsOf_nil : collectiveCallsOf [] = [] := rfl

@[simp] theorem collectiveCallsOf_hal (call : HalCall) (acts : List Action) :
    collectiveCallsOf (.hal call :: acts) =
      call.collectiveFor.toList ++ collectiveCallsOf acts := by
  cases h : call.collectiveFor <;> simp [collectiveCallsOf, HalState.calls, h]

/-- What a request makes of a handler: its queues grow by ids whose responses a client takes, and
a collective call is for some geofences. -/
structure Serves (h : LocHalDaemonClientHandler)
    (r : LocHalDaemonClientHandler × List Action) : Prop where
  sender : r.1.mIpcSender = h.mIpcSender
  api : r.1.mLocationApi = h.mLocationApi
  pending : ∃ ids, r.1.mPendingMessages = h.mPendingMessages ++ ids ∧ ∀ id ∈ ids, passedOn id
  gfPending : ∃ ids, r.1.mGfPendingMessages = h.mGfPendingMessages ++ ids ∧
    ∀ id ∈ ids, LocHalDaemonClientHandler.collectiveRespondsTo id
  collective : ∀ call ∈ collectiveCallsOf r.2, call.2 ≠ []

/-- There is an id and a call for a response to come. -/
def Promises (r : LocHalDaemonClientHandler × List Action) : Prop :=
  (r.1.mPendingMessages ≠ [] ∧ sessionCallsOf r.2 ≠ []) ∨
    (r.1.mGfPendingMessages ≠ [] ∧ collectiveCallsOf r.2 ≠ [])

/-- A request of a handler is served, leaves the client standing as it should, and is answered
where it should be. -/
structure ServedAs (h : LocHalDaemonClientHandler) (msg : ReqMsg)
    (r : LocHalDaemonClientHandler × List Action) : Prop where
  serves : Serves h r
  standing : standing (some r.1) = (standing (some h)).after msg
  promises : (Link.standing (some h)).answers msg → Promises r

section Handler

variable {h : LocHalDaemonClientHandler}

/-- Work that touches neither the queues nor a session. -/
theorem Serves.same {r : LocHalDaemonClientHandler × List Action}
    (hsender : r.1.mIpcSender = h.mIpcSender) (hapi : r.1.mLocationApi = h.mLocationApi)
    (hpending : r.1.mPendingMessages = h.mPendingMessages)
    (hgf : r.1.mGfPendingMessages = h.mGfPendingMessages) (hcalls : collectiveCallsOf r.2 = []) :
    Serves h r where
  sender := hsender
  api := hapi
  pending := ⟨[], by rw [hpending, List.append_nil], fun _ hid => absurd hid List.not_mem_nil⟩
  gfPending := ⟨[], by rw [hgf, List.append_nil], fun _ hid => absurd hid List.not_mem_nil⟩
  collective := fun call hcall => by rw [hcalls] at hcall; exact absurd hcall List.not_mem_nil

/-- Work that pushes an id, if any, of the session requests. -/
theorem Serves.push {r : LocHalDaemonClientHandler × List Action} {id : ELocMsgID}
    (hsender : r.1.mIpcSender = h.mIpcSender) (hapi : r.1.mLocationApi = h.mLocationApi)
    (hpending : r.1.mPendingMessages = h.mPendingMessages ++ [id]) (hid : passedOn id)
    (hgf : r.1.mGfPendingMessages = h.mGfPendingMessages) (hcalls : collectiveCallsOf r.2 = []) :
    Serves h r where
  sender := hsender
  api := hapi
  pending := ⟨[id], hpending, fun id' hid' => by rwa [List.mem_singleton.mp hid']⟩
  gfPending := ⟨[], by rw [hgf, List.append_nil], fun _ hid => absurd hid List.not_mem_nil⟩
  collective := fun call hcall => by rw [hcalls] at hcall; exact absurd hcall List.not_mem_nil

/-- Work that pushes an id of the geofence requests. -/
theorem Serves.pushGf {r : LocHalDaemonClientHandler × List Action} {id : ELocMsgID}
    (hsender : r.1.mIpcSender = h.mIpcSender) (hapi : r.1.mLocationApi = h.mLocationApi)
    (hpending : r.1.mPendingMessages = h.mPendingMessages)
    (hgf : r.1.mGfPendingMessages = h.mGfPendingMessages ++ [id])
    (hid : LocHalDaemonClientHandler.collectiveRespondsTo id)
    (hcalls : ∀ call ∈ collectiveCallsOf r.2, call.2 ≠ []) : Serves h r where
  sender := hsender
  api := hapi
  pending := ⟨[], by rw [hpending, List.append_nil], fun _ hid => absurd hid List.not_mem_nil⟩
  gfPending := ⟨[id], hgf, fun id' hid' => by rwa [List.mem_singleton.mp hid']⟩
  collective := hcalls

variable (hapi : h.mLocationApi = true)
include hapi

theorem updateSubscription_served (mask : LocationCallbacksMask) :
    ServedAs h (.updateCallbacks mask) (LocationApiService.updateSubscription mask h) where
  serves := by
    refine .same rfl rfl rfl rfl ?_
    unfold LocationApiService.updateSubscription LocHalDaemonClientHandler.updateSubscription
    rw [if_pos hapi]
    rfl
  standing := rfl
  promises := fun hanswers => absurd hanswers (by simp [Standing.answers])

theorem startTracking_served (mPositionMode : GnssSuplMode) (options : LocationOptions)
    {ret : UInt32} (hret : h.mSessionId = 0 → ret ≠ 0) :
    ServedAs h (.startTracking options)
      (LocationApiService.startTracking mPositionMode options ret h) := by
  unfold LocationApiService.startTracking LocHalDaemonClientHandler.startTracking
  by_cases hid : h.mSessionId = 0
  · rw [if_pos (by simp [hid, hapi])]
    refine ⟨.push rfl rfl rfl rfl rfl rfl, ?_, fun _ =>
      .inl ⟨by simp, by simp [HalCall.responseTo]⟩⟩
    simp [standing, Standing.after, hret hid]
  · rw [if_neg (by simp [hid])]
    refine ⟨.same rfl rfl rfl rfl rfl, ?_, fun hanswers => ?_⟩
    · simp [standing, Standing.after, hid]
    · simp [standing, Standing.answers, hid] at hanswers

theorem stopTracking_served :
    ServedAs h (.stopTracking true) (LocationApiService.stopTracking true h) := by
  unfold LocationApiService.stopTracking LocHalDaemonClientHandler.unsubscribeLocationSessionCb
    LocHalDaemonClientHandler.updateSubscription LocHalDaemonClientHandler.stopTracking
  by_cases hid : h.mSessionId = 0
  · refine ⟨.same ?_ ?_ ?_ ?_ ?_, ?_, fun hanswers => absurd hanswers (by simp [Standing.answers])⟩
    all_goals simp [hid, hapi, HalCall.collectiveFor, standing, Standing.after]
  · refine ⟨.same ?_ ?_ ?_ ?_ ?_, ?_, fun hanswers => absurd hanswers (by simp [Standing.answers])⟩
    all_goals simp [hid, hapi, HalCall.collectiveFor, standing, Standing.after]

theorem updateTrackingOptions_served (mPositionMode : GnssSuplMode) (options : LocationOptions) :
    ServedAs h (.updateTrackingOptions options)
      (LocationApiService.updateTrackingOptions mPositionMode options h) := by
  unfold LocationApiService.updateTrackingOptions LocHalDaemonClientHandler.updateTrackingOptions
  by_cases hid : h.mSessionId = 0
  · rw [if_neg (by simp [hid])]
    refine ⟨.push rfl rfl rfl rfl rfl rfl, rfl, fun hanswers => ?_⟩
    simp [standing, Standing.answers, hid] at hanswers
  · rw [if_pos (by simp [hid, hapi])]
    exact ⟨.push rfl rfl rfl rfl rfl rfl, rfl, fun _ =>
      .inl ⟨by simp [LocHalDaemonClientHandler.pushPending], by simp [HalCall.responseTo]⟩⟩

theorem startBatching_served (interval distance : UInt32) (mode : BatchingMode) {ret : UInt32}
    (hret : h.mBatchingId = 0 → ret ≠ 0) :
    ServedAs h (.startBatching interval distance mode)
      (LocationApiService.startBatching interval distance mode ret h) := by
  unfold LocationApiService.startBatching LocHalDaemonClientHandler.startBatching
  by_cases hid : h.mBatchingId = 0
  · rw [if_pos (by simp [hid, hapi])]
    dsimp only
    rw [if_neg (by simpa using hret hid)]
    refine ⟨.push rfl rfl rfl rfl rfl rfl, ?_, fun _ =>
      .inl ⟨by simp [LocHalDaemonClientHandler.pushPending], by simp [HalCall.responseTo]⟩⟩
    simp [standing, Standing.after, hret hid, LocHalDaemonClientHandler.pushPending]
  · rw [if_neg (by simp [hid])]
    dsimp only
    rw [if_neg (by simpa using hid)]
    refine ⟨.push rfl rfl rfl rfl rfl rfl, ?_, fun hanswers => ?_⟩
    · simp [standing, Standing.after, hid, LocHalDaemonClientHandler.pushPending]
    · simp [standing, Standing.answers, hid] at hanswers

theorem stopBatching_served : ServedAs h .stopBatching (LocationApiService.stopBatching h) := by
  unfold LocationApiService.stopBatching LocHalDaemonClientHandler.stopBatching
  by_cases hid : h.mBatchingId = 0
  · rw [if_neg (by simp [hid])]
    refine ⟨.push rfl rfl rfl rfl rfl rfl, ?_, fun hanswers => ?_⟩
    · simp [standing, Standing.after, hid, LocHalDaemonClientHandler.pushPending]
    · simp [standing, Standing.answers, hid] at hanswers
  · rw [if_pos (by simp [hid, hapi])]
    refine ⟨.push rfl rfl rfl rfl rfl rfl, ?_, fun _ =>
      .inl ⟨by simp [LocHalDaemonClientHandler.pushPending], by simp [HalCall.responseTo]⟩⟩
    simp [standing, Standing.after, LocHalDaemonClientHandler.pushPending]

theorem updateBatchingOptions_served (interval distance : UInt32) (mode : BatchingMode) :
    ServedAs h (.updateBatchingOptions interval distance mode)
      (LocationApiService.updateBatchingOptions interval distance mode h) := by
  unfold LocationApiService.updateBatchingOptions LocHalDaemonClientHandler.updateBatchingOptions
  by_cases hid : h.mBatchingId = 0
  · rw [if_neg (by simp [hid])]
    refine ⟨.push rfl rfl rfl rfl rfl rfl, rfl, fun hanswers => ?_⟩
    simp [standing, Standing.answers, hid] at hanswers
  · rw [if_pos (by simp [hid, hapi])]
    exact ⟨.push rfl rfl rfl rfl rfl rfl, rfl, fun _ =>
      .inl ⟨by simp [LocHalDaemonClientHandler.pushPending], by simp [HalCall.responseTo]⟩⟩

theorem addGeofences_served (geofences : List GeofencePayload) {ret : Option (List UInt32)}
    (hlength : ∀ ids ∈ ret, ids.length = geofences.length)
    (hret : geofences ≠ [] → geofences.length ≤ Daemon.maxGeofenceCount → ret.isSome) :
    ServedAs h (.addGeofences geofences) (LocationApiService.addGeofences geofences ret h) := by
  unfold LocationApiService.addGeofences LocHalDaemonClientHandler.addGeofences
  by_cases hmany : geofences.length > Daemon.maxGeofenceCount
  · rw [if_pos hmany]
    refine ⟨.same rfl rfl rfl rfl rfl, rfl, fun hanswers => ?_⟩
    simp only [Standing.answers, Bool.and_eq_true, decide_eq_true_eq] at hanswers
    omega
  rw [if_neg hmany]
  dsimp only
  by_cases hnone : geofences = []
  · -- no call, but what an earlier one returned is still there
    rw [if_neg (by simp [hnone])]
    dsimp only
    split
    · refine ⟨.same rfl rfl rfl rfl rfl, rfl, fun hanswers => ?_⟩
      simp [Standing.answers, hnone] at hanswers
    · refine ⟨.pushGf rfl rfl rfl rfl rfl (by simp), rfl, fun hanswers => ?_⟩
      simp [Standing.answers, hnone] at hanswers
  · rw [if_pos (by simp [hnone, hapi])]
    dsimp only
    obtain ⟨ids, rfl⟩ := Option.isSome_iff_exists.mp (hret hnone (Nat.not_lt.mp hmany))
    have hids : ids ≠ [] := by
      have hlen := hlength ids rfl
      rintro rfl
      exact hnone (List.length_eq_zero_iff.mp hlen.symm)
    refine ⟨.pushGf rfl rfl rfl rfl rfl (by simp [HalCall.collectiveFor, hids]), rfl, fun _ =>
      .inr ⟨?_, by simp [HalCall.collectiveFor]⟩⟩
    simp [LocHalDaemonClientHandler.pushGfPending]

/-- The requests for geofences that are there, by ids. -/
theorem onGeofences_served {msg : ReqMsg} {ids : List UInt32} {id : ELocMsgID}
    (hid : LocHalDaemonClientHandler.collectiveRespondsTo id) {call : List UInt32 → HalCall}
    (hcall : ∀ sessions, (call sessions).collectiveFor = some (id, sessions))
    (hafter : (standing (some h)).after msg = standing (some h))
    (hanswers : (standing (some h)).answers msg → ids ≠ []) :
    ServedAs h msg (LocationApiService.onGeofences ids id
      (fun h sessions => h.callGeofences sessions (call sessions)) h) := by
  unfold LocationApiService.onGeofences LocHalDaemonClientHandler.getSessionIds
  by_cases hnone : ids = []
  · rw [if_pos (by simp [hnone])]
    exact ⟨.same rfl rfl rfl rfl rfl, hafter.symm, fun h => absurd hnone (hanswers h)⟩
  rw [if_neg (by simp [hnone])]
  dsimp only
  have hsessions : (LocHalDaemonClientHandler.readGfIds h.mGfIdsMap ids).1 ≠ [] := by
    cases ids with
    | nil => exact absurd rfl hnone
    | cons id ids =>
      rw [LocHalDaemonClientHandler.readGfIds]
      split <;> exact List.cons_ne_nil _ _
  generalize LocHalDaemonClientHandler.readGfIds h.mGfIdsMap ids = r at hsessions ⊢
  have hmade : collectiveCallsOf
      (({ h with mGfIdsMap := r.2 } : LocHalDaemonClientHandler).callGeofences r.1 (call r.1)) =
        [(id, r.1)] := by
    unfold LocHalDaemonClientHandler.callGeofences
    rw [if_pos (by simp [hsessions, hapi])]
    simp [hcall]
  refine ⟨.pushGf rfl rfl rfl rfl hid ?_, hafter.symm, fun _ => .inr ⟨?_, ?_⟩⟩
  · show ∀ c ∈ collectiveCallsOf (LocHalDaemonClientHandler.callGeofences _ r.1 (call r.1)), _
    rw [hmade]
    simpa using hsessions
  · simp [LocHalDaemonClientHandler.pushGfPending]
  · show collectiveCallsOf (LocHalDaemonClientHandler.callGeofences _ r.1 (call r.1)) ≠ []
    rw [hmade]
    exact List.cons_ne_nil _ _

end Handler

/-- A request other than a registration. -/
theorem processClientMsg_served (mPositionMode : GnssSuplMode) {h : LocHalDaemonClientHandler}
    (hapi : h.mLocationApi = true) {msg : ReqMsg} (hlib : librarySends msg)
    (hreg : ∀ clientType, msg ≠ .clientRegister clientType) {hal : HalState} {ret : HalReturns}
    {mIpcSender rc : Bool} (hmay : hal.MayAnswer ret msg)
    (haccepts : Accepts (standing (some h)) ret mIpcSender rc msg) :
    ∃ r, Daemon.LocationApiService.processClientMsg mPositionMode (some h) msg ret mIpcSender rc =
      (some r.1, r.2) ∧ ServedAs h msg r := by
  cases msg with
  | clientRegister clientType => exact absurd rfl (hreg clientType)
  | clientDeregister => exact absurd hlib (by simp [librarySends])
  | updateCallbacks mask => exact ⟨_, rfl, updateSubscription_served hapi mask⟩
  | startTracking options =>
    refine ⟨_, rfl, startTracking_served hapi mPositionMode options fun hid => haccepts ?_⟩
    simp [standing, Standing.answers, hid]
  | stopTracking clearSubscriptions =>
    obtain rfl : clearSubscriptions = true := hlib
    exact ⟨_, rfl, stopTracking_served hapi⟩
  | updateTrackingOptions options =>
    exact ⟨_, rfl, updateTrackingOptions_served hapi mPositionMode options⟩
  | startBatching interval distance mode =>
    refine ⟨_, rfl, startBatching_served hapi interval distance mode fun hid => haccepts ?_⟩
    simp [standing, Standing.answers, hid]
  | stopBatching => exact ⟨_, rfl, stopBatching_served hapi⟩
  | updateBatchingOptions interval distance mode =>
    exact ⟨_, rfl, updateBatchingOptions_served hapi interval distance mode⟩
  | addGeofences geofences =>
    refine ⟨_, rfl, addGeofences_served hapi geofences (fun ids hids => (hmay ids hids).1) ?_⟩
    intro hsome hfew
    exact haccepts (by simp [standing, Standing.answers, hsome, hfew])
  | removeGeofences ids =>
    exact ⟨_, rfl, onGeofences_served hapi rfl (fun _ => rfl) rfl
      (by simp [standing, Standing.answers])⟩
  | pauseGeofences ids =>
    exact ⟨_, rfl, onGeofences_served hapi rfl (fun _ => rfl) rfl
      (by simp [standing, Standing.answers])⟩
  | resumeGeofences ids =>
    exact ⟨_, rfl, onGeofences_served hapi rfl (fun _ => rfl) rfl
      (by simp [standing, Standing.answers])⟩
  | modifyGeofences geofences =>
    refine ⟨_, rfl, ?_⟩
    unfold Daemon.LocationApiService.modifyGeofences
    by_cases hmany : geofences.length > Daemon.maxGeofenceCount
    · rw [if_pos hmany]
      refine ⟨.same rfl rfl rfl rfl rfl, rfl, fun hanswers => ?_⟩
      simp only [Standing.answers, Bool.and_eq_true, decide_eq_true_eq] at hanswers
      omega
    · rw [if_neg hmany]
      refine onGeofences_served hapi rfl (fun _ => rfl) rfl fun hanswers => ?_
      simp [standing, Standing.answers] at hanswers
      simp [hanswers]

/-! ## The daemon -/

/-- The daemon passes on to the client what `LocationAPI` answers. -/
structure Sound (d : Daemon.State) : Prop where
  sender : ∀ h ∈ d.client, h.mIpcSender = true
  api : ∀ h ∈ d.client, h.mLocationApi = true
  pending : ∀ h ∈ d.client, ∀ id ∈ h.mPendingMessages, passedOn id
  gfPending : ∀ h ∈ d.client, ∀ id ∈ h.mGfPendingMessages,
    LocHalDaemonClientHandler.collectiveRespondsTo id
  collective : ∀ call ∈ d.hal.collectiveCalls, call.2 ≠ []

theorem init_sound : Sound .init where
  sender := fun _ hh => absurd hh (by simp [State.init])
  api := fun _ hh => absurd hh (by simp [State.init])
  pending := fun _ hh => absurd hh (by simp [State.init])
  gfPending := fun _ hh => absurd hh (by simp [State.init])
  collective := fun _ hcall => absurd hcall List.not_mem_nil

/-- There are an id and a call. -/
theorem Sound.owes_iff {d : Daemon.State} (hd : Sound d) {h : LocHalDaemonClientHandler}
    (hc : d.client = some h) : owes d ↔
      (h.mPendingMessages ≠ [] ∧ d.hal.sessionCalls ≠ []) ∨
        (h.mGfPendingMessages ≠ [] ∧ d.hal.collectiveCalls ≠ []) := by
  have hpending := hd.pending h hc
  have hgf := hd.gfPending h hc
  have hcollective := hd.collective
  rw [owes, hc, Option.any_some, hd.sender h hc]
  cases hp : h.mPendingMessages with
  | nil =>
    cases hg : h.mGfPendingMessages with
    | nil => simp
    | cons id ids =>
      rw [hg] at hgf
      cases hcalls : d.hal.collectiveCalls with
      | nil => simp
      | cons call calls =>
        rw [hcalls] at hcollective
        simp [hgf, hcollective]
  | cons id ids =>
    rw [hp] at hpending
    cases hg : h.mGfPendingMessages with
    | nil => cases hs : d.hal.sessionCalls <;> simp [hpending]
    | cons gfId gfIds =>
      rw [hg] at hgf
      cases hcalls : d.hal.collectiveCalls with
      | nil => cases hs : d.hal.sessionCalls <;> simp [hpending]
      | cons call calls =>
        rw [hcalls] at hcollective
        cases hs : d.hal.sessionCalls <;> simp [hpending, hgf, hcollective]

/-- What the processing of a message makes of the daemon. -/
structure Processed (d d' : Daemon.State) (msg : ReqMsg) (sent : List IndMsg) : Prop where
  sound : Sound d'
  standing : Link.standing d'.client = (Link.standing d.client).after msg
  owes : Link.owes d → Link.owes d'
  answers : (Link.standing d.client).answers msg → Link.owes d'
  sent : ∀ ind ∈ sent, (∃ mask, ind = .capabilities mask) ∧ (Link.standing d.client).known

section Daemon

variable {mPositionMode : GnssSuplMode} {d : Daemon.State}

/-- A handler that served the request, with the calls it made. -/
theorem Sound.served (hd : Sound d) {h : LocHalDaemonClientHandler} (hc : d.client = some h)
    {msg : ReqMsg} {r : LocHalDaemonClientHandler × List Action} (hr : ServedAs h msg r)
    (clientIds : List UInt32) {sent : List IndMsg} (hsent : sent = []) :
    Processed d (.settle (some r.1) (d.hal.record clientIds r.2) d.answered) msg sent := by
  obtain ⟨⟨hsender, hapi, ⟨ids, hpending, hids⟩, ⟨gfIds, hgf, hgfIds⟩, hcollective⟩, hstanding,
    hpromises⟩ := hr
  have hsound : Sound (.settle (some r.1) (d.hal.record clientIds r.2) d.answered) := by
    refine ⟨?_, ?_, ?_, ?_, ?_⟩
    · rintro _ ⟨⟩
      exact hsender.trans (hd.sender h hc)
    · rintro _ ⟨⟩
      exact hapi.trans (hd.api h hc)
    · rintro _ ⟨⟩ id hid
      rw [hpending, List.mem_append] at hid
      exact hid.elim (hd.pending h hc id) (hids id)
    · rintro _ ⟨⟩ id hid
      rw [hgf, List.mem_append] at hid
      exact hid.elim (hd.gfPending h hc id) (hgfIds id)
    · intro call hcall
      rw [State.settle_hal, HalState.record, List.mem_append] at hcall
      exact hcall.elim (hd.collective call) (hcollective call)
  -- ids and calls are only added, so that what was owed still is
  have howes := hsound.owes_iff rfl
  refine ⟨hsound, ?_, fun hold => howes.mpr ?_, fun hans => howes.mpr ?_, ?_⟩
  · rw [hc]
    exact hstanding
  · rw [State.settle_hal, hpending, hgf]
    rcases (hd.owes_iff hc).mp hold with ⟨hp, hcalls⟩ | ⟨hp, hcalls⟩
    · exact .inl ⟨by simp [hp], by simp [HalState.record, hcalls]⟩
    · exact .inr ⟨by simp [hp], by simp [HalState.record, hcalls]⟩
  · rw [hc] at hans
    rw [State.settle_hal]
    rcases hpromises hans with ⟨hp, hcalls⟩ | ⟨hp, hcalls⟩
    · exact .inl ⟨hp, fun hnil => hcalls (List.append_eq_nil_iff.mp hnil).2⟩
    · exact .inr ⟨hp, fun hnil => hcalls (List.append_eq_nil_iff.mp hnil).2⟩
  · intro ind hind
    rw [hsent] at hind
    exact absurd hind List.not_mem_nil

/-- Nothing happened but that the client may have been told the capabilities. -/
theorem Sound.told (hd : Sound d) {h : LocHalDaemonClientHandler} (hc : d.client = some h)
    {msg : ReqMsg} (hafter : (standing d.client).after msg = standing d.client)
    (hanswers : (standing d.client).answers msg = false) {sent : List IndMsg}
    (hsent : ∀ ind ∈ sent, ∃ mask, ind = .capabilities mask) : Processed d d msg sent where
  sound := hd
  standing := hafter.symm
  owes := id
  answers := fun hans => absurd hans (by simp [hanswers])
  sent := fun ind hind => ⟨hsent ind hind, by rw [hc]; rfl⟩

/-- A daemon that does not know the client, whatever it has of others. -/
theorem Sound.unknown {client : Entry} {hal : HalState}
    {answered : List (ELocMsgID × Option ELocMsgID)} (hc : client = none) :
    Sound (.settle client hal answered) := by
  subst hc
  refine ⟨fun h hh => ?_, fun h hh => ?_, fun h hh => ?_, fun h hh => ?_, ?_⟩
  · cases hh
  · cases hh
  · cases hh
  · cases hh
  · exact fun _ hcall => absurd hcall List.not_mem_nil

theorem owes_none (hc : d.client = none) : owes d = false := by
  rw [owes, hc]
  rfl

theorem settle_self {h : LocHalDaemonClientHandler} (hc : d.client = some h) :
    State.settle (some h) d.hal d.answered = d := by
  obtain ⟨client, hal, answered⟩ := d
  obtain rfl : client = some h := hc
  rfl

theorem record_nil (hal : HalState) (clientIds : List UInt32) {acts : List Action}
    (hcalls : HalState.calls acts = []) : hal.record clientIds acts = hal := by
  unfold HalState.record
  rw [hcalls]
  simp

/-- **A message of the client.** -/
theorem Sound.request (hd : Sound d) {msg : ReqMsg} (hlib : librarySends msg) {ret : HalReturns}
    {mIpcSender rc : Bool} (hmay : d.hal.MayAnswer ret msg)
    (haccepts : Accepts (standing d.client) ret mIpcSender rc msg) :
    Processed d (stepActs mPositionMode d (.request msg ret mIpcSender rc)).1 msg
      (sentMsgs (stepActs mPositionMode d (.request msg ret mIpcSender rc)).2) := by
  rw [stepActs_request mPositionMode hmay]
  dsimp only
  by_cases hreg : ∃ clientType, msg = .clientRegister clientType
  · obtain ⟨clientType, rfl⟩ := hreg
    cases hc : d.client with
    | none =>
      -- a new handler, with empty queues
      obtain rfl : clientType = .locationClientApi := by simpa [librarySends] using hlib
      rw [hc] at haccepts
      obtain rfl : mIpcSender = true := haccepts
      refine ⟨⟨?_, ?_, ?_, ?_, ?_⟩, ?_, ?_, ?_, ?_⟩
      · rintro _ ⟨⟩
        rfl
      · rintro _ ⟨⟩
        rfl
      · rintro _ ⟨⟩ id hid
        exact absurd hid List.not_mem_nil
      · rintro _ ⟨⟩ id hid
        exact absurd hid List.not_mem_nil
      · intro call hcall
        rcases List.mem_append.mp hcall with hheld | hadded
        · exact hd.collective call hheld
        · exact absurd hadded List.not_mem_nil
      · rw [hc]
        rfl
      · exact fun howes => absurd howes (by simp [owes_none hc])
      · exact fun hans => absurd hans (by simp [Standing.answers])
      · exact fun ind hind => absurd hind List.not_mem_nil
    | some h =>
      -- a client that registers again is told the capabilities
      rw [hc] at haccepts
      obtain rfl : rc = true := haccepts
      obtain ⟨hsame, hsent⟩ := h.sendCapabilitiesMsg_true
      have hcalls := (h.sendCapabilitiesMsg_some true hsame).2
      show Processed d (.settle (h.sendCapabilitiesMsg true).1
        (d.hal.record [] (h.sendCapabilitiesMsg true).2) d.answered) _
        (sentMsgs (h.sendCapabilitiesMsg true).2)
      rw [hsame, record_nil _ _ hcalls, settle_self hc, hsent]
      refine hd.told hc (by rw [hc]; rfl) rfl fun ind hind => ?_
      split at hind
      · exact ⟨_, List.mem_singleton.mp hind⟩
      · exact absurd hind List.not_mem_nil
  · have hreg' : ∀ clientType, msg ≠ .clientRegister clientType :=
      fun clientType heq => hreg ⟨clientType, heq⟩
    have hsent := Daemon.LocationApiService.sent_processClientMsg mPositionMode d.client hreg' ret
      mIpcSender rc
    cases hc : d.client with
    | none =>
      -- the daemon drops what a client sends that it does not know
      rw [Daemon.LocationApiService.processClientMsg_none mPositionMode hreg']
      refine ⟨.unknown rfl, ?_, ?_, ?_, ?_⟩
      · rw [hc]
        cases msg with
        | clientRegister clientType => exact absurd rfl (hreg' clientType)
        | _ => rfl
      · exact fun howes => absurd howes (by simp [owes_none hc])
      · intro hans
        rw [hc] at hans
        cases msg <;> simp [standing, Standing.answers] at hans
      · exact fun ind hind => absurd hind List.not_mem_nil
    | some h =>
      rw [hc] at haccepts hsent
      obtain ⟨r, hproc, hr⟩ := processClientMsg_served mPositionMode (hd.api h hc) hlib hreg' hmay
        haccepts
      rw [hproc] at hsent ⊢
      exact hd.served hc hr _ hsent

/-- What a callback of `LocationAPI` makes of the daemon. -/
structure CalledBack (d d' : Daemon.State) (sent : List IndMsg) : Prop where
  sound : Sound d'
  standing : Link.standing d'.client = Link.standing d.client
  owes : Link.owes d → Link.owes d' ∨ sent.any clears
  sent : ∀ ind ∈ sent, ind ≠ .halReady ∧ (Link.standing d.client).known

theorem CalledBack.same (hd : Sound d) : CalledBack d d [] where
  sound := hd
  standing := rfl
  owes := .inl
  sent := fun _ hind => absurd hind List.not_mem_nil

/-- A handler that was called back is the one it was but for its queues, which have what they had
or less. -/
theorem Sound.kept (hd : Sound d) {h h' : LocHalDaemonClientHandler} (hc : d.client = some h)
    (hkept : h.KeptBy h') (hpending : h'.mPendingMessages ⊆ h.mPendingMessages)
    (hgf : h'.mGfPendingMessages ⊆ h.mGfPendingMessages) {hal : HalState}
    (hcollective : hal.collectiveCalls ⊆ d.hal.collectiveCalls)
    (answered : List (ELocMsgID × Option ELocMsgID)) :
    Sound (.settle (some h') hal answered) ∧ standing (some h') = standing d.client := by
  refine ⟨⟨?_, ?_, ?_, ?_, ?_⟩, ?_⟩
  · rintro _ ⟨⟩
    rw [hkept]
    exact hd.sender h hc
  · rintro _ ⟨⟩
    rw [hkept]
    exact hd.api h hc
  · rintro _ ⟨⟩ id hid
    exact hd.pending h hc id (hpending hid)
  · rintro _ ⟨⟩ id hid
    exact hd.gfPending h hc id (hgf hid)
  · exact fun call hcall => hd.collective call (hcollective hcall)
  · rw [hc, hkept]
    rfl

/-- The session response. -/
theorem Sound.responseCb (hd : Sound d) (err : LocationError) :
    CalledBack d (stepActs mPositionMode d (.responseCb err true)).1
      (sentMsgs (stepActs mPositionMode d (.responseCb err true)).2) := by
  cases hc : d.client with
  | none =>
    rw [callback_none mPositionMode hc rfl]
    exact .same hd
  | some h =>
    cases hcalls : d.hal.sessionCalls with
    | nil =>
      simp only [stepActs, hc, hcalls]
      exact .same hd
    | cons call calls =>
      obtain ⟨hfst, hsent⟩ := h.onResponseCb_true err (hd.sender h hc)
      simp only [stepActs, hc, hcalls]
      rw [hsent, hfst]
      obtain ⟨hsound, hstanding⟩ := hd.kept hc
        (show h.KeptBy { h with mPendingMessages := h.mPendingMessages.tail } from rfl)
        (List.tail_subset _) (List.Subset.refl _)
        (show ({ d.hal with sessionCalls := calls } : HalState).collectiveCalls ⊆
          d.hal.collectiveCalls from List.Subset.refl _)
        (d.answered ++ [(call, respondedWith (h.onResponseCb err true).2)])
      refine ⟨hsound, hstanding, fun howes => ?_, ?_⟩
      · rcases (hd.owes_iff hc).mp howes with ⟨hp, -⟩ | hgf
        · -- the front id makes a response that the client takes
          refine .inr ?_
          obtain ⟨id, ids, hids⟩ := List.exists_cons_of_ne_nil hp
          have hpassed := hd.pending h hc id (by rw [hids]; exact List.mem_cons_self ..)
          simp only [passedOn, Bool.and_eq_true] at hpassed
          rw [hids, List.head?_cons, Option.getD_some, if_pos hpassed.1]
          simpa [clears] using hpassed.2
        · exact .inl ((hsound.owes_iff rfl).mpr (.inr hgf))
      · intro ind hind
        refine ⟨?_, by rw [hc]; rfl⟩
        split at hind
        · rw [List.mem_singleton.mp hind]
          rintro ⟨⟩
        · exact absurd hind List.not_mem_nil

theorem onCollectiveResponseCallback_gfPending {h : LocHalDaemonClientHandler}
    (resp : List (UInt32 × LocationError)) (hs : h.mIpcSender = true)
    {h' : LocHalDaemonClientHandler}
    (hh' : (h.onCollectiveResponseCallback resp true).1 = some h') :
    h'.mGfPendingMessages = h.mGfPendingMessages.tail := by
  unfold LocHalDaemonClientHandler.onCollectiveResponseCallback at hh'
  rw [if_pos hs] at hh'
  dsimp only at hh'
  split at hh'
  · rw [← Option.some.inj hh']
  · split at hh'
    · rw [(LocHalDaemonClientHandler.sendMessage_some _ true hh').1]
      split <;> rfl
    · rw [← Option.some.inj hh']

/-- Whatever is sent for a collective response is one. -/
theorem sent_onCollectiveResponseCallback {h : LocHalDaemonClientHandler}
    (resp : List (UInt32 × LocationError)) :
    ∀ ind ∈ sentMsgs (h.onCollectiveResponseCallback resp true).2,
      ∃ label ids, ind = .collectiveResp label ids := by
  intro ind hind
  unfold LocHalDaemonClientHandler.onCollectiveResponseCallback at hind
  split at hind
  · dsimp only at hind
    split at hind
    · exact absurd hind List.not_mem_nil
    · split at hind
      · rw [LocHalDaemonClientHandler.sendMessage_true] at hind
        exact ⟨_, _, List.mem_singleton.mp hind⟩
      · exact absurd hind List.not_mem_nil
  · exact absurd hind List.not_mem_nil

/-- The collective response. -/
theorem Sound.collectiveResponseCb (hd : Sound d) (errs : List LocationError) :
    CalledBack d (stepActs mPositionMode d (.collectiveResponseCb errs true)).1
      (sentMsgs (stepActs mPositionMode d (.collectiveResponseCb errs true)).2) := by
  cases hc : d.client with
  | none =>
    rw [callback_none mPositionMode hc rfl]
    exact .same hd
  | some h =>
    cases hcalls : d.hal.collectiveCalls with
    | nil =>
      simp only [stepActs, hc, hcalls]
      exact .same hd
    | cons call calls =>
      obtain ⟨label, ids⟩ := call
      by_cases hlen : errs.length = ids.length
      · have hids : ids ≠ [] :=
          hd.collective (label, ids) (by rw [hcalls]; exact List.mem_cons_self ..)
        have hresp : ids.zip errs ≠ [] := by
          have hpos := List.length_pos_of_ne_nil hids
          refine List.ne_nil_of_length_pos ?_
          rw [List.length_zip]
          omega
        obtain ⟨h', hfst, hkept⟩ := h.onCollectiveResponseCallback_kept (ids.zip errs)
        have hpending := h.onCollectiveResponseCallback_pending (ids.zip errs) true hfst
        have hgf := onCollectiveResponseCallback_gfPending (ids.zip errs) (hd.sender h hc) hfst
        simp only [stepActs, hc, hcalls, hlen, if_true, hfst]
        obtain ⟨hsound, hstanding⟩ := hd.kept hc hkept (by rw [hpending]; exact List.Subset.refl _)
          (by rw [hgf]; exact List.tail_subset _)
          (show ({ d.hal with
              collectiveCalls := calls
              held := d.hal.heldAfter label (ids.zip errs) } : HalState).collectiveCalls ⊆
            d.hal.collectiveCalls by rw [hcalls]; exact List.subset_cons_self _ _) d.answered
        refine ⟨hsound, hstanding, fun howes => ?_, fun ind hind => ?_⟩
        · -- with no id to answer, what is owed is owed to a session
          cases hg : h.mGfPendingMessages with
          | nil =>
            rcases (hd.owes_iff hc).mp howes with ⟨hp, hs⟩ | ⟨hp, -⟩
            · exact .inl ((hsound.owes_iff rfl).mpr (.inl ⟨by rwa [hpending], hs⟩))
            · exact absurd hg hp
          | cons id gfIds =>
            have hlabel := hd.gfPending h hc id (by rw [hg]; exact List.mem_cons_self ..)
            refine .inr ?_
            rw [h.onCollectiveResponseCallback_true hresp (hd.sender h hc) (by rw [hg]; rfl) hlabel]
            rfl
        · obtain ⟨_, _, rfl⟩ := sent_onCollectiveResponseCallback _ ind hind
          exact ⟨by rintro ⟨⟩, by rw [hc]; rfl⟩
      · simp only [stepActs, hc, hcalls, hlen, if_false]
        exact .same hd

/-- **A callback.** -/
theorem Sound.callback (hd : Sound d) {e : Daemon.Event} (he : isCallback e)
    (hsent : callbackSent e) :
    CalledBack d (stepActs mPositionMode d e).1 (sentMsgs (stepActs mPositionMode d e).2) := by
  cases e with
  | request msg ret mIpcSender rc => exact absurd he (by simp [isCallback])
  | autoStart tbf ret mIpcSender => exact absurd he (by simp [isCallback])
  | responseCb err rc =>
    obtain rfl : rc = true := hsent
    exact hd.responseCb err
  | collectiveResponseCb errs rc =>
    obtain rfl : rc = true := hsent
    exact hd.collectiveResponseCb errs
  | capabilitiesCb mask rc =>
    obtain rfl : rc = true := hsent
    cases hc : d.client with
    | none =>
      rw [callback_none mPositionMode hc rfl]
      exact .same hd
    | some h =>
      obtain ⟨hfst, hsent⟩ := h.onCapabilitiesCallback_true mask
      simp only [stepActs, hc, hfst]
      rw [hsent]
      obtain ⟨hsound, hstanding⟩ := hd.kept hc
        (show h.KeptBy { h with mCapabilityMask := mask } from rfl) (List.Subset.refl _)
        (List.Subset.refl _) (List.Subset.refl d.hal.collectiveCalls) d.answered
      refine ⟨hsound, hstanding, fun howes => ?_, fun ind hind => ⟨?_, by rw [hc]; rfl⟩⟩
      · exact .inl ((hsound.owes_iff rfl).mpr ((hd.owes_iff hc).mp howes))
      · split at hind
        · rw [List.mem_singleton.mp hind]
          rintro ⟨⟩
        · exact absurd hind List.not_mem_nil
  | geofenceBreachCb ids rc =>
    obtain rfl : rc = true := hsent
    cases hc : d.client with
    | none =>
      rw [callback_none mPositionMode hc rfl]
      exact .same hd
    | some h =>
      simp only [stepActs, hc]
      split
      · rw [h.onGeofenceBreachCb_true ids, settle_self hc]
        refine ⟨hd, rfl, .inl, fun ind hind => ⟨?_, by rw [hc]; rfl⟩⟩
        unfold LocHalDaemonClientHandler.onGeofenceBreachCb at hind
        split at hind
        · split at hind
          · exact absurd hind List.not_mem_nil
          · rw [LocHalDaemonClientHandler.sendMessage_true] at hind
            rw [List.mem_singleton.mp hind]
            rintro ⟨⟩
        · exact absurd hind List.not_mem_nil
      · exact .same hd

end Daemon

end LocationStack.Link
