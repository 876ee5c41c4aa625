import LocationStack.Client.Calls

/-! # Which start a response is delivered to

A session start installs its `responseCb`, and a response of the daemon is delivered to
the one that is installed, if the client is waiting for one.  All the client goes by is
the flag that it waits and the message id of the response, of which it leaves out those
to `STOP_TRACKING`.

Here the client object runs against an ideal daemon, which answers every session request
in order and under its own id.  Starts are numbered; a start's `responseCb` bears its
number, and so does every request it sends.
-/
namespace LocationStack.Client

namespace Correlation

open Ipc EventRun

/-- The session requests, which the daemon answers. -/
def requestId : ReqMsg → Option ELocMsgID
  | .startTracking _ => some .startTracking
  | .stopTracking _ => some .stopTracking
  | .updateTrackingOptions _ => some .updateTrackingOptions
  | .startBatching _ _ _ => some .startBatching
  | .stopBatching => some .stopBatching
  | .updateBatchingOptions _ _ _ => some .updateBatchingOptions
  | .clientRegister _ | .clientDeregister | .updateCallbacks _ | .addGeofences _
  | .removeGeofences _ | .modifyGeofences _ | .pauseGeofences _ | .resumeGeofences _ => none

/-- A request that was sent: its id, and the start that sent it, if one did. -/
structure Request where
  msgId : ELocMsgID
  start : Option Nat
  deriving DecidableEq

/-- An error code delivered to the callback `cb`, and what it was delivered for: the
daemon's answer to a request, or nothing but the work of a call. -/
structure Delivery where
  cb : Option Nat
  err : LocationError
  answer : Option (Request × LocationError)
  deriving DecidableEq

/-- The client, the number of its starts so far, the requests that the daemon has still
to answer, and all deliveries. -/
structure State where
  client : LocationClientApiImpl
  starts : Nat
  unanswered : List Request
  delivered : List Delivery
  deriving DecidableEq

/-- A client, registered or not, before its first start. -/
def State.init (mClientId : { id : UInt32 // id ≠ 0 }) (mHalRegistered : Bool) : State :=
  { client := { LocationClientApiImpl.new mClientId with mHalRegistered := mHalRegistered }
    starts := 0
    unanswered := []
    delivered := [] }

inductive Event
  | startPositionSession (callbacksOption : LocationCallbacks)
      (trackingOptions : TrackingOptions)
  | startBatchingSession (callbacksOption : LocationCallbacks)
      (batchingOptions : BatchingOptions)
  | stopTrackingAndClearSubscriptions
  | stopBatching
  /-- The answer to the oldest request arrives. -/
  | response (err : LocationError)
  deriving DecidableEq

/-- The requests among what was done, sent by `start`. -/
def requests (start : Option Nat) (outs : List Out) : List Request :=
  ((sentReqs outs).filterMap requestId).map fun msgId => ⟨msgId, start⟩

/-- The error codes delivered among what was done, for `answer`. -/
def deliveries (answer : Option (Request × LocationError)) (outs : List Out) : List Delivery :=
  outs.filterMap fun
    | .responseCb cb err => some ⟨cb, err, answer⟩
    | _ => none

/-- The state after some work of a call. -/
def State.work (s : State) (start : Option Nat) (r : Result) : State :=
  { s with
    client := r.1
    unanswered := s.unanswered ++ requests start r.2
    delivered := s.delivered ++ deliveries none r.2 }

/-- The callbacks of the next start, whose `responseCb` bears its number. -/
def State.numbered (s : State) (callbacksOption : LocationCallbacks) : LocationCallbacks :=
  { callbacksOption with responseCb := callbacksOption.responseCb.map fun _ => s.starts }

def step (s : State) : Event → State
  | .startPositionSession callbacksOption trackingOptions =>
    { s.work (some s.starts)
        (s.client.startPositionSession (s.numbered callbacksOption) trackingOptions) with
      starts := s.starts + 1 }
  | .startBatchingSession callbacksOption batchingOptions =>
    { s.work (some s.starts)
        (s.client.startBatchingSession (s.numbered callbacksOption) batchingOptions) with
      starts := s.starts + 1 }
  | .stopTrackingAndClearSubscriptions =>
    s.work none s.client.stopTrackingAndClearSubscriptions
  | .stopBatching => s.work none s.client.stopBatching
  | .response err =>
    match s.unanswered with
    | [] => s
    | request :: rest =>
      let r := s.client.onReceive (.genericResp request.msgId err)
      { s with
        client := r.1
        unanswered := rest
        delivered := s.delivered ++ deliveries (some (request, err)) r.2 }

/-- Every error code delivered to the callback of a start is the daemon's answer to a
request of this start, and no callback is called twice. -/
structure Correlated (s : State) : Prop where
  answered : ∀ d ∈ s.delivered, ∀ start ∈ d.cb, ∃ request,
    d.answer = some (request, d.err) ∧ request.start = some start
  once : (s.delivered.filterMap Delivery.cb).Nodup

/-! ## The condition -/

/-- The client still waits for a response that it does not leave out. -/
def Outstanding (s : State) : Prop := ∃ request ∈ s.unanswered, request.msgId ≠ .stopTracking

/-- A start that reports to nobody else's callback, and to its own only what answers it.
Where it is refused no callback is installed.  Where it is not, it brings its own or none
is installed; and if it brings one, nothing but answers to `STOP_TRACKING` is on its way,
and the client does not answer it by itself. -/
def StartsClean (s : State) (callbacksOption : LocationCallbacks) (refused byItself : Prop) :
    Prop :=
  (refused → s.client.mLocationCbs.responseCb = none) ∧
    (¬refused →
      (callbacksOption.responseCb = none → s.client.mLocationCbs.responseCb = none) ∧
        (callbacksOption.responseCb ≠ none → ¬Outstanding s ∧ ¬byItself))

/-- A step that keeps responses with their starts. -/
def CleanStep (s : State) : Event → Prop
  | .startPositionSession callbacksOption trackingOptions =>
    StartsClean s callbacksOption
      (s.client.mPositionSessionResponseCbPending ∨ s.client.isInBatching)
      (s.client.mHalRegistered ∧ s.client.isInTracking ∧
        !s.client.isOptionUpdated trackingOptions)
  | .startBatchingSession callbacksOption _ =>
    StartsClean s callbacksOption
      (s.client.mPositionSessionResponseCbPending ∨ s.client.isInTracking)
      (¬s.client.mHalRegistered)
  | _ => True

instance (s : State) : Decidable (Outstanding s) := inferInstanceAs (Decidable (∃ _ ∈ _, _))

instance (s : State) (callbacksOption : LocationCallbacks) (refused byItself : Prop)
    [Decidable refused] [Decidable byItself] :
    Decidable (StartsClean s callbacksOption refused byItself) :=
  inferInstanceAs (Decidable (_ ∧ _))

instance (s : State) : (e : Event) → Decidable (CleanStep s e)
  | .startPositionSession callbacksOption trackingOptions =>
    inferInstanceAs (Decidable (StartsClean s callbacksOption
      (s.client.mPositionSessionResponseCbPending ∨ s.client.isInBatching)
      (s.client.mHalRegistered ∧ s.client.isInTracking ∧
        !s.client.isOptionUpdated trackingOptions)))
  | .startBatchingSession callbacksOption _ =>
    inferInstanceAs (Decidable (StartsClean s callbacksOption
      (s.client.mPositionSessionResponseCbPending ∨ s.client.isInTracking)
      (¬s.client.mHalRegistered)))
  | .stopTrackingAndClearSubscriptions | .stopBatching | .response _ =>
    inferInstanceAs (Decidable True)

/-! ## What a start does -/

@[simp] theorem deliveries_append (answer : Option (Request × LocationError))
    (outs outs' : List Out) :
    deliveries answer (outs ++ outs') = deliveries answer outs ++ deliveries answer outs' :=
  List.filterMap_append

theorem mem_requests {start : Option Nat} {outs : List Out} {request : Request}
    (h : request ∈ requests start outs) : request.start = start := by
  obtain ⟨msgId, _, rfl⟩ := List.mem_map.mp h
  rfl

section Starts

variable (c : LocationClientApiImpl)

theorem updateCallbacksSync_deliveries (callbacks : LocationCallbacks) :
    deliveries none (c.updateCallbacksSync callbacks).2 = [] := by
  unfold LocationClientApiImpl.updateCallbacksSync
  dsimp only
  split
  · dsimp only
    split <;> rfl
  · rfl

/-- Without a change of options, and only then, a start of a session that is there is
answered by the client itself. -/
theorem startTrackingSync_deliveries (trackingOptions : TrackingOptions)
    (h : c.mLocationCbs.responseCb = none ∨
      ¬(c.mHalRegistered ∧ c.isInTracking ∧ !c.isOptionUpdated trackingOptions)) :
    deliveries none (c.startTrackingSync trackingOptions).2 = [] := by
  unfold LocationClientApiImpl.startTrackingSync
  split
  · rfl
  · split
    · dsimp only
      split <;> rfl
    · split
      · rfl
      · have hnone : c.mLocationCbs.responseCb = none := by
          apply h.resolve_right
          simp_all
        unfold LocationClientApiImpl.invokePositionSessionResponseCb
        rw [hnone]
        split <;> rfl

/-- Where there is no tracking session, only a client that is not registered answers the
start of a batching session itself. -/
theorem startBatchingSync_deliveries (batchingOptions : BatchingOptions)
    (ht : c.mSessionId = 0) (h : c.mLocationCbs.responseCb = none ∨ c.mHalRegistered) :
    deliveries none (c.startBatchingSync batchingOptions).2 = [] := by
  unfold LocationClientApiImpl.startBatchingSync
  split
  · have hnone : c.mLocationCbs.responseCb = none := by
      apply h.resolve_right
      simp_all
    rw [hnone]
    rfl
  · rw [if_pos (by simpa using ht)]
    rfl

end Starts

/-! ## The invariant -/

/-- The oldest request whose answer the client does not leave out. -/
def front (s : State) : Option Request :=
  s.unanswered.find? fun request => request.msgId != .stopTracking

theorem front_eq_none {s : State} : front s = none ↔ ¬Outstanding s := by
  simp [front, Outstanding]

/-- While the client waits, the next answer it delivers is one to the start whose callback
is installed, which has had none; or none is on its way, and there is no batching session
whose stop would send one. -/
structure Waits (s : State) : Prop where
  once : ∀ start ∈ s.client.mLocationCbs.responseCb, start ∉ s.delivered.filterMap Delivery.cb
  next : ∀ start ∈ s.client.mLocationCbs.responseCb, ∀ request ∈ front s,
    request.start = some start
  idle : s.client.mLocationCbs.responseCb ≠ none → front s = none → s.client.mBatchingId = 0

/-- Starts are numbered in order, and responses are with their starts. -/
structure Inv (s : State) : Prop where
  correlated : Correlated s
  delivered : ∀ start ∈ s.delivered.filterMap Delivery.cb, start < s.starts
  installed : ∀ start ∈ s.client.mLocationCbs.responseCb, start < s.starts
  waits : s.client.mPositionSessionResponseCbPending → Waits s

theorem init_inv (mClientId : { id : UInt32 // id ≠ 0 }) (mHalRegistered : Bool) :
    Inv (.init mClientId mHalRegistered) where
  correlated := ⟨by simp [State.init], by simp [State.init]⟩
  delivered := by simp [State.init]
  installed := by simp [State.init, LocationClientApiImpl.new, LocationCallbacks.zero]
  waits := by simp [State.init, LocationClientApiImpl.new]

/-- Deliveries to no callback change nothing. -/
theorem Correlated.nobody {s s' : State} (hs : Correlated s) {ds : List Delivery}
    (hds : ∀ d ∈ ds, d.cb = none) (heq : s'.delivered = s.delivered ++ ds) : Correlated s' where
  answered := by
    intro d hd start hstart
    rw [heq, List.mem_append] at hd
    rcases hd with hd | hd
    · exact hs.answered d hd start hstart
    · rw [hds d hd] at hstart
      exact absurd hstart (by simp)
  once := by
    rw [heq, List.filterMap_append, List.filterMap_eq_nil_iff.mpr hds, List.append_nil]
    exact hs.once

theorem Correlated.congr {s s' : State} (hs : Correlated s)
    (heq : s'.delivered = s.delivered) : Correlated s' :=
  ⟨heq ▸ hs.answered, heq ▸ hs.once⟩

/-- A refused start calls no callback where none is installed. -/
theorem Inv.refused {s s' : State} (hs : Inv s) {r : Result} (err : LocationError)
    (hr : r = (s.client, [s.client.callResponseCb err]))
    (hnone : s.client.mLocationCbs.responseCb = none)
    (heq : s' = { s.work (some s.starts) r with starts := s.starts + 1 }) : Inv s' := by
  subst hr heq
  have hds : ∀ d ∈ deliveries none [s.client.callResponseCb err], d.cb = none := by
    simp [deliveries, LocationClientApiImpl.callResponseCb, hnone]
  exact
    { correlated := hs.correlated.nobody hds rfl
      delivered := by
        intro start hstart
        rw [State.work, List.filterMap_append, List.filterMap_eq_nil_iff.mpr hds,
          List.append_nil] at hstart
        exact Nat.lt_succ_of_lt (hs.delivered start hstart)
      installed := fun start hstart => Nat.lt_succ_of_lt (hs.installed start hstart)
      waits := fun _ =>
        ⟨fun start hstart => absurd (hnone ▸ hstart) (by simp),
          fun start hstart => absurd (hnone ▸ hstart) (by simp),
          fun hsome => absurd hnone hsome⟩ }

/-- A start that is accepted: its callback is installed, if it brings one; what it sends
bears its number, and if that is nothing to wait for there is no batching session. -/
theorem Inv.accepted {s s' : State} (hs : Inv s) {r : Result} (cb : Option Nat)
    (hcb : r.1.mLocationCbs.responseCb =
      ((cb.map fun _ => s.starts) <|> s.client.mLocationCbs.responseCb))
    (hclean : (cb = none → s.client.mLocationCbs.responseCb = none) ∧
      (cb ≠ none → ¬Outstanding s))
    (hquiet : deliveries none r.2 = [])
    (hbatch : cb ≠ none → (∀ request ∈ requests (some s.starts) r.2,
      request.msgId = .stopTracking) → r.1.mBatchingId = 0)
    (heq : s' = { s.work (some s.starts) r with starts := s.starts + 1 }) : Inv s' := by
  subst heq
  have hdel : (s.work (some s.starts) r).delivered = s.delivered := by
    rw [State.work, hquiet, List.append_nil]
  cases cb with
  | none =>
    have hnone : r.1.mLocationCbs.responseCb = none := hcb.trans (hclean.1 rfl)
    exact
      { correlated := hs.correlated.congr hdel
        delivered := fun start hstart => Nat.lt_succ_of_lt (hs.delivered start (hdel ▸ hstart))
        installed := fun start hstart => absurd (hnone ▸ hstart) (by simp)
        waits := fun _ =>
          ⟨fun start hstart => absurd (hnone ▸ hstart) (by simp),
            fun start hstart => absurd (hnone ▸ hstart) (by simp),
            fun hsome => absurd hnone hsome⟩ }
  | some n =>
    have hsome : r.1.mLocationCbs.responseCb = some s.starts := hcb
    have hidle : front s = none := front_eq_none.mpr (hclean.2 (by simp))
    have hfront : front (s.work (some s.starts) r) =
        (requests (some s.starts) r.2).find? fun request => request.msgId != .stopTracking := by
      rw [front, State.work, List.find?_append, show s.unanswered.find? _ = none from hidle]
      rfl
    exact
      { correlated := hs.correlated.congr hdel
        delivered := fun start hstart => Nat.lt_succ_of_lt (hs.delivered start (hdel ▸ hstart))
        installed := by
          intro start hstart
          have : start = s.starts := by
            simpa [State.work, hsome, eq_comm] using hstart
          rw [this]
          exact Nat.lt_succ_self _
        waits := fun _ =>
          { once := by
              intro start hstart hmem
              have : start = s.starts := by
                simpa [State.work, hsome, eq_comm] using hstart
              have := hs.delivered start (hdel ▸ hmem)
              omega
            next := by
              intro start hstart request hrequest
              have : start = s.starts := by
                simpa [State.work, hsome, eq_comm] using hstart
              subst this
              exact mem_requests (List.mem_of_find?_eq_some (hfront ▸ hrequest))
            idle := by
              intro _ hnone
              refine hbatch (by simp) fun request hrequest => ?_
              have := List.find?_eq_none.mp (hfront ▸ hnone) request hrequest
              simpa using this } }

/-! ## Each event -/

theorem Inv.startPositionSession {s : State} (hs : Inv s) (callbacksOption : LocationCallbacks)
    (trackingOptions : TrackingOptions)
    (hclean : CleanStep s (.startPositionSession callbacksOption trackingOptions)) :
    Inv (step s (.startPositionSession callbacksOption trackingOptions)) := by
  obtain ⟨hrefused, haccepted⟩ := hclean
  by_cases hpend : s.client.mPositionSessionResponseCbPending = true
  · refine hs.refused .alreadyStarted (if_pos hpend) (hrefused (.inl hpend)) rfl
  · by_cases hbatch : s.client.isInBatching = true
    · refine hs.refused .exclusiveSessionInProgress ?_ (hrefused (.inr hbatch)) rfl
      rw [LocationClientApiImpl.startPositionSession, if_neg hpend, if_pos hbatch]
    · obtain ⟨hnone, hsome⟩ := haccepted (by simp [hpend, hbatch])
      have hb : s.client.mBatchingId = 0 := by simpa using hbatch
      have hr := s.client.startPositionSession_accepted (s.numbered callbacksOption)
        trackingOptions (by simpa using hpend) hb
      refine hs.accepted callbacksOption.responseCb ?_ ⟨hnone, fun h => (hsome h).1⟩
        ?_ ?_ rfl
      · rw [hr, Result.andThen_fst, LocationClientApiImpl.startTrackingSync_fst,
          LocationClientApiImpl.updateCallbacksSync_fst]
        rfl
      · rw [hr, Result.andThen_snd, deliveries_append, updateCallbacksSync_deliveries,
          List.nil_append]
        apply startTrackingSync_deliveries
        rw [LocationClientApiImpl.updateCallbacksSync_fst]
        cases hcb : callbacksOption.responseCb with
        | none =>
          left
          have hold := hnone hcb
          simp [LocationClientApiImpl.mergeCallbacks, State.numbered, hcb,
            LocationClientApiImpl.clearTrackingSubscriptions, hold]
        | some n => exact .inr (hsome (by simp [hcb])).2
      · intro _ _
        rw [hr, Result.andThen_fst, LocationClientApiImpl.startTrackingSync_fst,
          LocationClientApiImpl.updateCallbacksSync_fst]
        exact hb

theorem Inv.startBatchingSession {s : State} (hs : Inv s) (callbacksOption : LocationCallbacks)
    (batchingOptions : BatchingOptions)
    (hclean : CleanStep s (.startBatchingSession callbacksOption batchingOptions)) :
    Inv (step s (.startBatchingSession callbacksOption batchingOptions)) := by
  obtain ⟨hrefused, haccepted⟩ := hclean
  by_cases hpend : s.client.mPositionSessionResponseCbPending = true
  · refine hs.refused .alreadyStarted (if_pos hpend) (hrefused (.inl hpend)) rfl
  · by_cases htrack : s.client.isInTracking = true
    · refine hs.refused .exclusiveSessionInProgress ?_ (hrefused (.inr htrack)) rfl
      rw [LocationClientApiImpl.startBatchingSession, if_neg hpend, if_pos htrack]
    · obtain ⟨hnone, hsome⟩ := haccepted (by simp [hpend, htrack])
      have ht : s.client.mSessionId = 0 := by simpa using htrack
      have hr := s.client.startBatchingSession_accepted (s.numbered callbacksOption)
        batchingOptions (by simpa using hpend) ht
      refine hs.accepted callbacksOption.responseCb ?_ ⟨hnone, fun h => (hsome h).1⟩
        ?_ ?_ rfl
      · rw [hr, Result.andThen_fst, LocationClientApiImpl.startBatchingSync_fst,
          LocationClientApiImpl.updateCallbacksSync_fst]
        rfl
      · rw [hr, Result.andThen_snd, deliveries_append, updateCallbacksSync_deliveries,
          List.nil_append]
        apply startBatchingSync_deliveries
        · rw [LocationClientApiImpl.updateCallbacksSync_fst]
          exact ht
        · rw [LocationClientApiImpl.updateCallbacksSync_fst]
          cases hcb : callbacksOption.responseCb with
          | none =>
            left
            have hold := hnone hcb
            simp [LocationClientApiImpl.mergeCallbacks, State.numbered, hcb, hold]
          | some n => exact .inr (not_not.mp (hsome (by simp [hcb])).2)
      · -- a registered client sends a request that it waits for
        intro hne hstops
        have hreg : s.client.mHalRegistered = true := not_not.mp (hsome hne).2
        have hmem : (⟨.startBatching, some s.starts⟩ : Request) ∈
            requests (some s.starts) (s.client.startBatchingSession
              (s.numbered callbacksOption) batchingOptions).2 := by
          rw [hr, Result.andThen_snd, requests, sentReqs_append,
            LocationClientApiImpl.sent_startBatchingSync,
            LocationClientApiImpl.updateCallbacksSync_fst]
          simp [hreg, LocationClientApiImpl.isInTracking, ht, requestId]
        exact absurd (hstops _ hmem) (by simp)

theorem Inv.stopTracking {s : State} (hs : Inv s) :
    Inv (step s .stopTrackingAndClearSubscriptions) := by
  have hquiet : deliveries none s.client.stopTrackingAndClearSubscriptions.2 = [] := by
    simp only [LocationClientApiImpl.stopTrackingAndClearSubscriptions,
      LocationClientApiImpl.stopTrackingSync]
    split <;> rfl
  have hdel : (step s .stopTrackingAndClearSubscriptions).delivered = s.delivered := by
    rw [step, State.work, hquiet, List.append_nil]
  exact
    { correlated := hs.correlated.congr hdel
      delivered := fun start hstart => hs.delivered start (hdel ▸ hstart)
      installed := hs.installed
      waits := fun h => absurd h (by
        simp [step, State.work, LocationClientApiImpl.stopTrackingAndClearSubscriptions,
          LocationClientApiImpl.stopTrackingSync,
          LocationClientApiImpl.clearTrackingSubscriptions]) }

/-- The stop of a batching session sends a request whose answer is not left out; what the
client waits for was sent before it. -/
theorem Inv.stopBatching {s : State} (hs : Inv s) : Inv (step s .stopBatching) := by
  by_cases hid : s.client.mBatchingId = s.client.mClientId
  · have hr : s.client.stopBatching =
        ({ s.client with mBatchingOptions := .zero, mBatchingId := 0 }, [.send .stopBatching]) :=
      if_pos (by simpa using hid)
    have hstep : step s .stopBatching =
        { s with
          client := { s.client with mBatchingOptions := .zero, mBatchingId := 0 }
          unanswered := s.unanswered ++ [⟨.stopBatching, none⟩] } := by
      simp [step, State.work, hr, requests, deliveries, requestId]
    rw [hstep]
    refine ⟨⟨hs.correlated.answered, hs.correlated.once⟩, hs.delivered, hs.installed,
      fun hpend => ?_⟩
    obtain ⟨honce, hnext, hidle⟩ := hs.waits hpend
    refine ⟨honce, fun start hstart request hrequest => ?_, fun _ _ => rfl⟩
    cases hf : front s with
    | none =>
      have hsome : s.client.mLocationCbs.responseCb ≠ none := by
        intro hnone
        exact absurd (hnone ▸ hstart) (by simp)
      exact absurd (hidle hsome hf) (hid ▸ s.client.mClientId.2)
    | some first =>
      rw [front, List.find?_append, show s.unanswered.find? _ = some first from hf] at hrequest
      exact hnext start hstart request (hf.trans hrequest)
  · have hr : s.client.stopBatching = ({ s.client with mBatchingId := 0 }, []) :=
      if_neg (by simpa using hid)
    have hstep : step s .stopBatching =
        { s with client := { s.client with mBatchingId := 0 } } := by
      simp [step, State.work, hr, requests, deliveries]
    rw [hstep]
    exact
      { correlated := ⟨hs.correlated.answered, hs.correlated.once⟩
        delivered := hs.delivered
        installed := hs.installed
        waits := fun hpend =>
          ⟨(hs.waits hpend).once, (hs.waits hpend).next, fun _ _ => rfl⟩ }

/-- An answer is delivered to the callback of the start it is an answer to. -/
theorem Inv.response {s : State} (hs : Inv s) (err : LocationError) :
    Inv (step s (.response err)) := by
  rw [step]
  cases hq : s.unanswered with
  | nil => exact hs
  | cons request rest =>
    dsimp only
    by_cases hstop : request.msgId = .stopTracking
    · -- left out, and the next one is the next one still
      have hr : s.client.onReceive (.genericResp request.msgId err) = (s.client, []) := by
        simp [LocationClientApiImpl.onReceive, LocationClientApiImpl.onGenericResponse, hstop]
      have hfront : front { s with unanswered := rest } = front s := by
        simp [front, hq, hstop]
      rw [hr, show deliveries _ [] = [] from rfl, List.append_nil]
      exact
        { correlated := ⟨hs.correlated.answered, hs.correlated.once⟩
          delivered := hs.delivered
          installed := hs.installed
          waits := fun hpend =>
            ⟨(hs.waits hpend).once,
              fun start hstart first hfirst =>
                (hs.waits hpend).next start hstart first (hfront ▸ hfirst),
              fun hsome hnone => (hs.waits hpend).idle hsome (hfront ▸ hnone)⟩ }
    · have hfront : front s = some request := by simp [front, hq, hstop]
      have hr : s.client.onReceive (.genericResp request.msgId err) =
          s.client.invokePositionSessionResponseCb err := if_pos hstop
      rw [hr]
      by_cases hpend : s.client.mPositionSessionResponseCbPending = true
      · obtain ⟨honce, hnext, _⟩ := hs.waits hpend
        have hcall : s.client.invokePositionSessionResponseCb err =
            ({ s.client with mPositionSessionResponseCbPending := false },
              if s.client.mLocationCbs.responseCb.isSome then [s.client.callResponseCb err]
              else []) := if_pos hpend
        rw [hcall]
        cases hcb : s.client.mLocationCbs.responseCb with
        | none =>
          rw [if_neg (by simp), show deliveries _ [] = [] from rfl, List.append_nil]
          exact
            { correlated := ⟨hs.correlated.answered, hs.correlated.once⟩
              delivered := hs.delivered
              installed := hs.installed
              waits := fun h => absurd h (by simp) }
        | some start =>
          have hds : deliveries (some (request, err)) [s.client.callResponseCb err] =
              [⟨some start, err, some (request, err)⟩] := by
            simp [deliveries, LocationClientApiImpl.callResponseCb, hcb]
          have hcbs : (s.delivered ++ [Delivery.mk (some start) err (some (request, err))]
              ).filterMap Delivery.cb = s.delivered.filterMap Delivery.cb ++ [start] := by simp
          dsimp only
          rw [if_pos (by simp), hds]
          exact
            { correlated :=
                { answered := by
                    intro d hd start' hstart'
                    rcases List.mem_append.mp hd with hd | hd
                    · exact hs.correlated.answered d hd start' hstart'
                    · cases List.mem_singleton.mp hd
                      cases Option.some.inj hstart'
                      exact ⟨request, rfl, hnext start hcb request hfront⟩
                  once := by
                    rw [hcbs, List.nodup_append]
                    refine ⟨hs.correlated.once, by simp, fun a ha b hb hab => ?_⟩
                    rw [List.mem_singleton.mp hb] at hab
                    exact honce start hcb (hab ▸ ha) }
              delivered := by
                intro start' hstart'
                rw [hcbs, List.mem_append] at hstart'
                rcases hstart' with hstart' | hstart'
                · exact hs.delivered start' hstart'
                · rw [List.mem_singleton.mp hstart']
                  exact hs.installed start hcb
              installed := hs.installed
              waits := fun h => absurd h (by simp) }
      · have hnot : s.client.invokePositionSessionResponseCb err = (s.client, []) :=
          if_neg hpend
        rw [hnot, show deliveries _ [] = [] from rfl, List.append_nil]
        exact
          { correlated := ⟨hs.correlated.answered, hs.correlated.once⟩
            delivered := hs.delivered
            installed := hs.installed
            waits := fun h => absurd h hpend }

/-! ## Runs -/

/-- **One step.**  A clean step keeps responses with their starts. -/
theorem step_inv (s : State) (e : Event) (hs : Inv s) (hclean : CleanStep s e) :
    Inv (step s e) := by
  cases e with
  | startPositionSession callbacks options => exact hs.startPositionSession callbacks options hclean
  | startBatchingSession callbacks options => exact hs.startBatchingSession callbacks options hclean
  | stopTrackingAndClearSubscriptions => exact hs.stopTracking
  | stopBatching => exact hs.stopBatching
  | response err => exact hs.response err

/-- **Responses are delivered to their starts.**  In a run whose starts are all clean,
every error code a start's callback gets is the daemon's answer to a request of this
start, and it gets at most one. -/
theorem responses_correlated (mClientId : { id : UInt32 // id ≠ 0 }) (mHalRegistered : Bool)
    (es : List Event) (hclean : Meets step CleanStep (.init mClientId mHalRegistered) es) :
    Throughout step Correlated (.init mClientId mHalRegistered) es :=
  (throughout_of_meets step_inv (init_inv mClientId mHalRegistered) hclean).imp
    fun _ hs => hs.correlated

/-- A start with its own callback and an interval. -/
def startEvery (minInterval : UInt32) : Event :=
  .startPositionSession { LocationCallbacks.zero with responseCb := some 0 }
    { LocationOptions.zero with minInterval := minInterval }

/-- A session is started, answered, changed, answered and stopped, and another one is
started before the stop is answered. -/
theorem responses_correlated_sample :
    Throughout step Correlated (.init ⟨1, by decide⟩ true)
      [startEvery 1000, .response .success, startEvery 2000, .response .success,
        .stopTrackingAndClearSubscriptions, startEvery 1000, .response .success,
        .response .timeout] :=
  responses_correlated _ _ _ (by decide +kernel)

/-- The answer to the stop of a batching session is delivered to the callback of the
tracking session that was started after it. -/
theorem responses_not_correlated :
    ¬Throughout step Correlated (.init ⟨1, by decide⟩ true)
      [.startBatchingSession { LocationCallbacks.zero with responseCb := some 0 } .zero,
        .response .success, .stopBatching, startEvery 1000, .response .generalFailure] := by
  intro hall
  obtain ⟨_, hanswer, hstart⟩ := hall.last.answered
    ⟨some 1, .generalFailure, some (⟨.stopBatching, none⟩, .generalFailure)⟩
    (by decide +kernel) 1 rfl
  cases hanswer
  exact absurd hstart (by decide)

end Correlation
end LocationStack.Client
