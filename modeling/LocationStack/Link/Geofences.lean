import LocationStack.Client.Resume
import LocationStack.Daemon.GeofenceSteps
import LocationStack.Link.System

/-! # The geofences of the client and of the daemon

The client keeps a geofence in `mGeofenceMap` from the moment it asks for it, the daemon from
the moment `LocationAPI` accepted it, and both take it out when they are told that its add failed
or that it is removed.  They also take it out when a pause, a resumption, a change or a removal of
it fails, and the client enters geofences that it never asked for.  This module follows what
became of each geofence, by the requests sent and the answers received, beside the system, and
says which steps keep the maps to it.

The proof follows the client's map over what is on its way to it: `Lasting` are the geofences that
are left when all of it has been processed.  What `LocationAPI` holds, and what an add on its way
to the daemon names, is among them.
-/
namespace LocationStack.Link

open Ipc Client EventRun

/-! ## What messages tell -/

/-- The client ids of the adds that a message reports as failed. -/
def failedAdds : IndMsg → List UInt32
  | .collectiveResp .addGeofences resp =>
    (resp.filter fun r => r.error != .success).map GeofenceResponse.clientId
  | _ => []

/-- The client ids of the geofences that a message reports as removed. -/
def removals : IndMsg → List UInt32
  | .collectiveResp .removeGeofences resp =>
    (resp.filter fun r => r.error == .success).map GeofenceResponse.clientId
  | _ => []

/-- The client ids that a message takes out of the client's map. -/
def erasedIds : IndMsg → List UInt32
  | .collectiveResp msgId resp => LocationClientApiImpl.respondedIds msgId resp
  | _ => []

/-- The client ids of a breach. -/
def breachIds : IndMsg → List UInt32
  | .geofenceBreach ids => ids
  | _ => []

/-- What the client sends in an event. -/
def clientSends (s : Sys) : Event → List ReqMsg
  | .call a sent => if sent then sentReqs (a.work s.client).2 else []
  | .onReceive sent =>
    match s.toClient with
    | [] => []
    | msg :: _ => if sent then sentReqs (s.client.onReceive msg).2 else []
  | .processClientMsg _ _ _ | .callback _ | .restart => []

/-- What the client is told in an event. -/
def clientReceives (s : Sys) : Event → List IndMsg
  | .onReceive _ => s.toClient.take 1
  | .call _ _ | .processClientMsg _ _ _ | .callback _ | .restart => []

/-- The system with the client ids of the geofences whose add was sent, of those whose add was
reported as failed, and of those reported as removed. -/
structure Geofenced where
  sys : Sys
  added : List UInt32
  failed : List UInt32
  removed : List UInt32

namespace Geofenced

def init (mClientId : { id : UInt32 // id ≠ 0 }) : Geofenced := ⟨.init mClientId, [], [], []⟩

def step (mPositionMode : GnssSuplMode) (s : Geofenced) (e : Event) : Geofenced :=
  { sys := Link.step mPositionMode s.sys e
    added := s.added ++ (clientSends s.sys e).flatMap Daemon.addedIds
    failed := s.failed ++ (clientReceives s.sys e).flatMap failedAdds
    removed := s.removed ++ (clientReceives s.sys e).flatMap removals }

/-! ## The property and the condition -/

/-- A breach that `LocationAPI` reports next is told under the client ids that its geofences were
added under, a breach that comes next is one of geofences in the client's map, and the map has
exactly the geofences whose add was sent, not reported as failed, and which are not removed. -/
structure Sound (mPositionMode : GnssSuplMode) (s : Geofenced) : Prop where
  breach : ∀ ids rc, ids.all s.sys.daemon.hal.holds →
    ∀ msg ∈ Daemon.sentMsgs
        (Daemon.stepActs mPositionMode s.sys.daemon (.geofenceBreachCb ids rc)).2,
      ∃ clientIds, msg = .geofenceBreach clientIds ∧
        List.Forall₂ (fun id session => (id, session) ∈ s.sys.daemon.hal.held) clientIds ids
  found : ∀ ids rest, s.sys.toClient = .geofenceBreach ids :: rest →
    (∀ id ∈ ids, id ∈ s.sys.client.mGeofenceMap) ∧
      ∀ id, .outOfRange id ∉ (s.sys.client.onReceive (.geofenceBreach ids)).2
  entries : ∀ id, id ∈ s.sys.client.mGeofenceMap ↔
    id ∈ s.added ∧ id ∉ s.failed ∧ id ∉ s.removed

/-- Distinct ids of geofences that were not added before, as `GeofenceImpl::nextId` gives them
until it wraps. -/
def NewIds (s : Geofenced) (ids : List UInt32) : Prop :=
  ids.Nodup ∧ 0 ∉ ids ∧ ids.all fun id => decide (id ∉ s.added)

/-- The geofence is in the client's map when the client has processed what is on its way. -/
def Lasting (s : Sys) (id : UInt32) : Prop :=
  id ∈ s.client.mGeofenceMap ∧ id ∉ s.toClient.flatMap erasedIds

/-- The client ids of the geofences that `LocationAPI` holds or is still to be asked for. -/
def entrusted (s : Sys) : List UInt32 :=
  s.daemon.hal.held.map Prod.fst ++ s.toDaemon.flatMap Daemon.addedIds

/-- The client ids that a client sends when it is registered again. -/
def resentIds (c : LocationClientApiImpl) : List UInt32 :=
  (c.repaired.take maxGeofenceEntry).map GeofencePayload.gfClientId

/-- What is sent again are distinct geofences of the map, of which `LocationAPI` holds none and
none is being added. -/
def Resends (s : Sys) : Prop :=
  (resentIds s.client).Nodup ∧
    ∀ id ∈ resentIds s.client, Lasting s id ∧ id ∉ entrusted s

/-- An add that is not refused, has room in the message, names new geofences, and is sent. -/
def KeepsCall (s : Geofenced) (sent : Bool) : Call → Prop
  | .addGeofences _ geofences =>
    s.sys.client.mPositionSessionResponseCbPending = false ∧
      s.sys.client.mHalRegistered = true ∧ sent = true ∧ geofences ≠ [] ∧
      geofences.length ≤ maxGeofenceEntry ∧ s.NewIds (geofences.map GeofencePayload.gfClientId)
  | _ => True

/-- No request but an add fails for a geofence that the client keeps, unless the same response
removes it, and none is removed that is still to be asked for. -/
def KeepsAnswer (s : Sys) (errs : List LocationError) : Prop :=
  ∀ h ∈ s.daemon.client, h.mIpcSender →
    ∀ call ∈ s.daemon.hal.collectiveCalls.head?, errs.length = call.2.length →
      ∀ r ∈ call.2.zip errs,
        if r.2 = .success then call.1 = .removeGeofences →
          IdMap.keyOf h.mGfIdsMap r.1 0 ∉ s.toDaemon.flatMap Daemon.addedIds
        else call.1 ≠ .addGeofences → Lasting s (IdMap.keyOf h.mGfIdsMap r.1 0) →
          call.1 = .removeGeofences ∧ (r.1, .success) ∈ call.2.zip errs

/-- A failed add, or a removal, finds a `collectiveResponseCb`; a client that becomes registered
sends its geofences again under their ids. -/
def KeepsMessage (s : Sys) (sent : Bool) (msg : IndMsg) : Prop :=
  (s.client.mLocationCbs.collectiveResponseCb ∨
      (failedAdds msg ++ removals msg).all fun id => decide (id ∉ s.client.mGeofenceMap)) ∧
    ((msg matches .capabilities _) → s.client.mHalRegistered = false → sent = true → Resends s)

/-- A step that keeps the maps to what was asked and answered. -/
def Keeps (s : Geofenced) : Event → Prop
  | .call a sent => s.KeepsCall sent a
  | .callback (.collectiveResponseCb errs rc) => rc = true → KeepsAnswer s.sys errs
  | .onReceive sent => ∀ msg ∈ s.sys.toClient.head?, KeepsMessage s.sys sent msg
  | _ => True

instance (s : Geofenced) (ids : List UInt32) : Decidable (s.NewIds ids) :=
  inferInstanceAs (Decidable (_ ∧ _ ∧ _))

instance (s : Sys) (id : UInt32) : Decidable (Lasting s id) :=
  inferInstanceAs (Decidable (_ ∧ _))

-- by the list: there are too many ids to try
instance (s : Sys) : Decidable (Resends s) :=
  @instDecidableAnd _ _ (inferInstanceAs (Decidable (List.Nodup _))) (List.decidableBAll _ _)

instance (s : Geofenced) (sent : Bool) : (a : Call) → Decidable (s.KeepsCall sent a)
  | .addGeofences _ _ => inferInstanceAs (Decidable (_ ∧ _ ∧ _ ∧ _ ∧ _ ∧ _))
  | .clientRegister | .updateCallbacks _ | .startPositionSession _ _
  | .stopTrackingAndClearSubscriptions | .startBatchingSession _ _ | .stopBatching
  | .removeGeofences _ | .modifyGeofences _ | .pauseGeofences _ | .resumeGeofences _ =>
    inferInstanceAs (Decidable True)

instance (s : Sys) (errs : List LocationError) : Decidable (KeepsAnswer s errs) :=
  inferInstanceAs (Decidable (∀ h ∈ s.daemon.client, _))

instance (s : Sys) (sent : Bool) (msg : IndMsg) : Decidable (KeepsMessage s sent msg) :=
  inferInstanceAs (Decidable (_ ∧ _))

instance (s : Geofenced) : (e : Event) → Decidable (s.Keeps e)
  | .call a sent => inferInstanceAs (Decidable (s.KeepsCall sent a))
  | .callback (.collectiveResponseCb errs rc) =>
    inferInstanceAs (Decidable (rc = true → KeepsAnswer s.sys errs))
  | .onReceive sent =>
    inferInstanceAs (Decidable (∀ msg ∈ s.sys.toClient.head?, KeepsMessage s.sys sent msg))
  | .callback (.request _ _ _ _) | .callback (.autoStart _ _ _)
  | .callback (.capabilitiesCb _ _) | .callback (.responseCb _ _)
  | .callback (.geofenceBreachCb _ _) | .processClientMsg _ _ _ | .restart =>
    inferInstanceAs (Decidable True)

end Geofenced

/-! ## What the client asks for -/

/-- Work that enters the geofences of `ids`, asks for them, and asks for no other geofence that is
not in the map. -/
structure Works (c : LocationClientApiImpl) (ids : List UInt32) (r : Client.Result) : Prop where
  keys : ∀ id, id ∈ r.1.mGeofenceMap ↔ id ∈ c.mGeofenceMap ∨ id ∈ ids
  added : (sentReqs r.2).flatMap Daemon.addedIds = ids
  nonempty : ∀ geofences, .addGeofences geofences ∈ sentReqs r.2 → geofences ≠ []
  named : ∀ msg ∈ sentReqs r.2, ∀ id ∈ Daemon.namedIds msg, id ∈ c.mGeofenceMap ∨ id ∈ ids

/-- A message about no geofence. -/
def aboutSessions : ReqMsg → Bool
  | .addGeofences _ | .removeGeofences _ | .modifyGeofences _ | .pauseGeofences _
  | .resumeGeofences _ => false
  | .clientRegister _ | .clientDeregister | .updateCallbacks _ | .startTracking _
  | .stopTracking _ | .updateTrackingOptions _ | .startBatching _ _ _ | .stopBatching
  | .updateBatchingOptions _ _ _ => true

theorem namedIds_of_sessions {msg : ReqMsg} (h : aboutSessions msg) :
    Daemon.namedIds msg = [] ∧ Daemon.addedIds msg = [] := by
  cases msg <;> simp [aboutSessions] at h <;> exact ⟨rfl, rfl⟩

namespace Works

variable {c : LocationClientApiImpl} {r : Client.Result} {ids : List UInt32}

/-- Work that has nothing to do with geofences. -/
theorem of_sessions (hmap : r.1.mGeofenceMap = c.mGeofenceMap)
    (hsent : AllSent (aboutSessions ·) r) : Works c [] r where
  keys := fun id => by rw [hmap]; simp
  added := List.flatMap_eq_nil_iff.mpr fun msg hmsg => (namedIds_of_sessions (hsent msg hmsg)).2
  nonempty := fun geofences hmsg => absurd (hsent _ hmsg) (by simp [aboutSessions])
  named := by
    intro msg hmsg id hid
    rw [(namedIds_of_sessions (hsent msg hmsg)).1] at hid
    exact absurd hid List.not_mem_nil

theorem of_nil (hmap : ∀ id, id ∈ r.1.mGeofenceMap ↔ id ∈ c.mGeofenceMap)
    (hsent : sentReqs r.2 = []) : Works c [] r where
  keys := fun id => by rw [hmap]; simp
  added := by rw [hsent]; rfl
  nonempty := fun geofences hmsg => absurd hmsg (by rw [hsent]; exact List.not_mem_nil)
  named := fun msg hmsg => absurd hmsg (by rw [hsent]; exact List.not_mem_nil)

/-- First work about sessions, then work on geofences. -/
theorem andThen {f : LocationClientApiImpl → Client.Result} (hr : Works c [] r)
    (hf : Works r.1 ids (f r.1)) : Works c ids (r.andThen f) where
  keys := by
    intro id
    rw [Result.andThen_fst, hf.keys, hr.keys]
    simp
  added := by
    rw [Result.andThen_snd, sentReqs_append, List.flatMap_append, hr.added, hf.added]
    rfl
  nonempty := by
    intro geofences hmsg
    rw [Result.andThen_snd, sentReqs_append, List.mem_append] at hmsg
    exact hmsg.elim (hr.nonempty geofences) (hf.nonempty geofences)
  named := by
    intro msg hmsg id hid
    rw [Result.andThen_snd, sentReqs_append, List.mem_append] at hmsg
    rcases hmsg with hmsg | hmsg
    · exact (hr.named msg hmsg id hid).imp_right fun h => absurd h List.not_mem_nil
    · refine (hf.named msg hmsg id hid).imp_left fun hold => ?_
      rcases (hr.keys id).mp hold with hmem | hmem
      · exact hmem
      · exact absurd hmem List.not_mem_nil

end Works

section Requests

variable (c : LocationClientApiImpl)

theorem updateCallbacksSync_sessions (callbacks : Client.LocationCallbacks) :
    Works c [] (c.updateCallbacksSync callbacks) :=
  .of_sessions (by rw [c.updateCallbacksSync_fst])
    (c.updateCallbacksSync_allSent (fun _ => rfl) callbacks)

theorem startTrackingSync_sessions (option : TrackingOptions) :
    Works c [] (c.startTrackingSync option) :=
  .of_sessions (by rw [c.startTrackingSync_fst])
    (c.startTrackingSync_allSent (P := (aboutSessions ·)) (fun _ => rfl) (fun _ => rfl) rfl option)

theorem startBatchingSync_sessions (batchOptions : BatchingOptions) :
    Works c [] (c.startBatchingSync batchOptions) :=
  .of_sessions (by rw [c.startBatchingSync_fst])
    (c.startBatchingSync_allSent (fun _ _ _ => rfl) (fun _ _ _ => rfl) batchOptions)

/-- A request for geofences of the map. -/
theorem requestGeofences_works (ids : List UInt32) {request : List UInt32 → ReqMsg}
    (hrequest : ∀ ids, Daemon.namedIds (request ids) = ids ∧ Daemon.addedIds (request ids) = [] ∧
      ∀ geofences, request ids ≠ .addGeofences geofences) :
    Works c [] (c.requestGeofences ids request) := by
  have hkeys : ∀ id, id ∈ (c.requestGeofences ids request).1.mGeofenceMap ↔
      id ∈ c.mGeofenceMap := fun id => by rw [c.requestGeofences_fst]
  by_cases hsend : c.checkGeofenceMap ids ∧ c.mHalRegistered ∧ ids ≠ []
  · have hsent := (c.sent_requestGeofences ids request).trans (if_pos hsend)
    obtain ⟨hnamed, hadded, hother⟩ := hrequest (ids.take maxGeofenceEntry)
    refine ⟨fun id => by rw [hkeys]; simp, ?_, ?_, ?_⟩
    · rw [hsent]
      simpa using hadded
    · intro geofences hmsg
      rw [hsent, List.mem_singleton] at hmsg
      exact absurd hmsg.symm (hother geofences)
    · intro msg hmsg id hid
      rw [hsent, List.mem_singleton] at hmsg
      rw [hmsg, hnamed] at hid
      have hmem := List.all_eq_true.mp hsend.1 id (List.mem_of_mem_take hid)
      exact .inl (of_decide_eq_true hmem)
  · exact .of_nil hkeys ((c.sent_requestGeofences ids request).trans (if_neg hsend))

/-- New options are those of geofences in the map. -/
theorem foldl_setGeofenceOption_keys (geofences : List (UInt32 × GeofenceOption)) (id : UInt32) :
    id ∈ (geofences.foldl LocationClientApiImpl.setGeofenceOption c).mGeofenceMap ↔
      id ∈ c.mGeofenceMap := by
  induction geofences generalizing c with
  | nil => exact Iff.rfl
  | cons g geofences ih =>
    rw [List.foldl_cons, ih]
    unfold LocationClientApiImpl.setGeofenceOption
    split
    · exact AList.mem_replace
    · exact Iff.rfl

theorem modifyGeofences_works (geofences : List (UInt32 × GeofenceOption)) :
    Works c [] (c.modifyGeofences geofences) := by
  unfold LocationClientApiImpl.modifyGeofences
  split
  · exact .of_nil (fun _ => Iff.rfl) rfl
  · rename_i hknown
    split
    · exact .of_nil (fun _ => Iff.rfl) rfl
    · split
      · exact .of_nil (fun _ => Iff.rfl) rfl
      · refine ⟨fun id => ?_, rfl, fun gs hmsg => ?_, fun msg hmsg id hid => .inl ?_⟩
        · rw [foldl_setGeofenceOption_keys]
          simp
        · exact absurd (List.mem_singleton.mp hmsg) (by simp)
        · rw [List.mem_singleton.mp hmsg] at hid
          obtain ⟨g, hg, rfl⟩ := List.mem_map.mp hid
          obtain ⟨g', hg', rfl⟩ := List.mem_map.mp hg
          have hall : c.checkGeofenceMap (geofences.map Prod.fst) = true := by simpa using hknown
          have hmem := List.all_eq_true.mp hall g'.1
            (List.mem_map_of_mem (List.mem_of_mem_take hg'))
          exact of_decide_eq_true hmem

theorem addGeofenceMap_keys (geofence : GeofencePayload) (id : UInt32) :
    id ∈ (c.addGeofenceMap geofence).mGeofenceMap ↔
      id ∈ c.mGeofenceMap ∨ id = geofence.gfClientId := by
  unfold LocationClientApiImpl.addGeofenceMap
  split
  · rename_i hmem
    constructor
    · exact .inl
    · rintro (hold | rfl)
      · exact hold
      · exact hmem
  · exact (AList.mem_insert _).trans or_comm

theorem foldl_addGeofenceMap_keys (geofences : List GeofencePayload) (id : UInt32) :
    id ∈ (geofences.foldl LocationClientApiImpl.addGeofenceMap c).mGeofenceMap ↔
      id ∈ c.mGeofenceMap ∨ id ∈ geofences.map GeofencePayload.gfClientId := by
  induction geofences generalizing c with
  | nil => simp
  | cons g geofences ih =>
    rw [List.foldl_cons, ih, addGeofenceMap_keys, List.map_cons, List.mem_cons, or_assoc]

/-- Geofences that fit into a message are sent under the ids that were noted for them. -/
theorem sent_ids {geofences : List GeofencePayload} (hlen : geofences.length ≤ maxGeofenceEntry)
    {ids : List UInt32} (hids : ids = geofences.map GeofencePayload.gfClientId) :
    ((geofences.zipIdx.map fun g => { g.1 with gfClientId := ids.getD g.2 0 }).take
      maxGeofenceEntry).map GeofencePayload.gfClientId = ids := by
  rw [List.take_of_length_le (by simpa using hlen)]
  subst hids
  apply List.ext_getElem
  · simp
  · intro i hi hi'
    have hlt : i < geofences.length := by simpa using hi'
    simp [List.getElem?_eq_getElem hlt]

/-- **An add** that is not refused. -/
theorem addGeofences_works (callbacksOption : Client.LocationCallbacks)
    {geofences : List GeofencePayload} (hpending : c.mPositionSessionResponseCbPending = false)
    (hreg : c.mHalRegistered = true) (hne : geofences ≠ [])
    (hlen : geofences.length ≤ maxGeofenceEntry) :
    Works c (geofences.map GeofencePayload.gfClientId)
      (c.addGeofences callbacksOption geofences) := by
  rw [LocationClientApiImpl.addGeofences, if_neg (by simp [hpending])]
  have hupdate := updateCallbacksSync_sessions
    { c with mPositionSessionResponseCbPending := true } callbacksOption
  replace hupdate : Works c []
      ({ c with mPositionSessionResponseCbPending := true }.updateCallbacksSync
        callbacksOption) := ⟨hupdate.keys, hupdate.added, hupdate.nonempty, hupdate.named⟩
  refine hupdate.andThen ?_
  generalize hc' : ({ c with mPositionSessionResponseCbPending := true }.updateCallbacksSync
    callbacksOption).1 = c'
  have hreg' : c'.mHalRegistered = true := by
    rw [← hc', LocationClientApiImpl.updateCallbacksSync_fst]
    exact hreg
  have hfold := LocationClientApiImpl.foldl_addGeofenceMap_eq
    { c' with mLastAddedClientIds := geofences.map GeofencePayload.gfClientId } geofences
  have hkeys := foldl_addGeofenceMap_keys
    { c' with mLastAddedClientIds := geofences.map GeofencePayload.gfClientId } geofences
  generalize geofences.foldl LocationClientApiImpl.addGeofenceMap
    { c' with mLastAddedClientIds := geofences.map GeofencePayload.gfClientId } = c''
    at hfold hkeys ⊢
  have hlast : c''.mLastAddedClientIds = geofences.map GeofencePayload.gfClientId := by
    rw [hfold]
  have hsent := (c''.sent_sendGeofences geofences).trans (if_pos (by rw [hfold]; exact hreg'))
  have hids := sent_ids hlen hlast
  refine ⟨fun id => ?_, ?_, fun gs hmsg => ?_, fun msg hmsg id hid => .inr ?_⟩
  · rw [c''.sendGeofences_fst]
    exact hkeys id
  · rw [hsent, List.flatMap_singleton, Daemon.addedIds, hids, hlast]
  · rw [hsent, List.mem_singleton, ReqMsg.addGeofences.injEq] at hmsg
    rw [hmsg]
    intro hnil
    rw [hnil] at hids
    exact hne (List.map_eq_nil_iff.mp (hlast.symm.trans hids.symm))
  · rw [hsent, List.mem_singleton] at hmsg
    rw [hmsg, Daemon.namedIds, hids, hlast] at hid
    exact hid

/-- **Every call** but an add leaves the geofences of the map, and asks for these only. -/
theorem work_works {a : Call} (ha : ∀ callbacks geofences, a ≠ .addGeofences callbacks geofences) :
    Works c [] (a.work c) := by
  cases a with
  | clientRegister =>
    exact .of_sessions rfl (by
      simp [AllSent, Call.work, LocationClientApiImpl.clientRegister, aboutSessions])
  | updateCallbacks callbacks => exact updateCallbacksSync_sessions c callbacks
  | startPositionSession callbacks options =>
    simp only [Call.work, LocationClientApiImpl.startPositionSession]
    split
    · exact .of_nil (fun _ => Iff.rfl) rfl
    · split
      · exact .of_nil (fun _ => Iff.rfl) rfl
      · have hupdate := updateCallbacksSync_sessions { c with
          mPositionSessionResponseCbPending := true }.clearTrackingSubscriptions callbacks
        exact .andThen ⟨hupdate.keys, hupdate.added, hupdate.nonempty, hupdate.named⟩
          (startTrackingSync_sessions _ options)
  | stopTrackingAndClearSubscriptions =>
    refine .of_sessions rfl ?_
    change ∀ msg ∈ sentReqs (c.stopTrackingSync true).2, _
    rw [c.sent_stopTrackingSync]
    split <;> simp [aboutSessions]
  | startBatchingSession callbacks options =>
    simp only [Call.work, LocationClientApiImpl.startBatchingSession]
    split
    · exact .of_nil (fun _ => Iff.rfl) rfl
    · split
      · exact .of_nil (fun _ => Iff.rfl) rfl
      · have hupdate := updateCallbacksSync_sessions
          { c with mPositionSessionResponseCbPending := true } callbacks
        exact .andThen ⟨hupdate.keys, hupdate.added, hupdate.nonempty, hupdate.named⟩
          (startBatchingSync_sessions _ options)
  | stopBatching =>
    refine .of_sessions ?_ ?_
    · unfold Call.work LocationClientApiImpl.stopBatching
      dsimp only
      split <;> rfl
    · unfold AllSent
      rw [Call.work, c.sent_stopBatching]
      split <;> simp [aboutSessions]
  | addGeofences callbacks geofences => exact absurd rfl (ha callbacks geofences)
  | removeGeofences ids =>
    exact requestGeofences_works c ids fun _ => ⟨rfl, rfl, fun _ => by rintro ⟨⟩⟩
  | modifyGeofences geofences => exact modifyGeofences_works c geofences
  | pauseGeofences ids =>
    exact requestGeofences_works c ids fun _ => ⟨rfl, rfl, fun _ => by rintro ⟨⟩⟩
  | resumeGeofences ids =>
    exact requestGeofences_works c ids fun _ => ⟨rfl, rfl, fun _ => by rintro ⟨⟩⟩

/-! ## What the client makes of a message -/

theorem resumeSession_works : Works c [] c.resumeSession := by
  unfold LocationClientApiImpl.resumeSession
  split
  · obtain ⟨hkeys, hadded, hnonempty, hnamed⟩ :=
      startTrackingSync_sessions { c with mSessionId := 0 } c.mLocationOptions
    exact ⟨hkeys, hadded, hnonempty, hnamed⟩
  · split
    · obtain ⟨hkeys, hadded, hnonempty, hnamed⟩ :=
        startBatchingSync_sessions { c with mBatchingId := 0 } c.mBatchingOptions
      exact ⟨hkeys, hadded, hnonempty, hnamed⟩
    · exact .of_nil (fun _ => Iff.rfl) rfl

/-- The geofences of a registered client are sent again under the ids of the last add. -/
theorem resumeGeofenceMap_works (hreg : c.mHalRegistered = true)
    (hids : ∀ id ∈ Geofenced.resentIds c, id ∈ c.mGeofenceMap) :
    Works c (Geofenced.resentIds c) c.resumeGeofenceMap := by
  have hkeys : ∀ id, id ∈ c.resumeGeofenceMap.1.mGeofenceMap ↔
      id ∈ c.mGeofenceMap ∨ id ∈ Geofenced.resentIds c := by
    intro id
    rw [c.resumeGeofenceMap_fst]
    exact (or_iff_left_of_imp (hids id)).symm
  cases hempty : c.isGeofenceMapEmpty with
  | true =>
    have hnone : Geofenced.resentIds c = [] := by
      simp [Geofenced.resentIds, LocationClientApiImpl.repaired, LocationClientApiImpl.mapped,
        c.entries_of_empty hempty]
    have hsent : sentReqs c.resumeGeofenceMap.2 = [] := by
      rw [LocationClientApiImpl.resumeGeofenceMap, if_pos hempty]
      rfl
    rw [hnone] at hkeys ⊢
    exact .of_nil (fun id => (hkeys id).trans (by simp)) hsent
  | false =>
    have hsent : sentReqs c.resumeGeofenceMap.2 =
        [.addGeofences (c.repaired.take maxGeofenceEntry)] := by
      rw [LocationClientApiImpl.resumeGeofenceMap, if_neg (by simp [hempty])]
      exact c.sent_geofenceMap hreg
    refine ⟨hkeys, ?_, fun gs hmsg => ?_, fun msg hmsg id hid => .inr ?_⟩
    · rw [hsent, List.flatMap_singleton]
      rfl
    · rw [hsent, List.mem_singleton, ReqMsg.addGeofences.injEq] at hmsg
      -- a map that is not empty has a geofence to send
      have hentries : c.mGeofenceMap.entries ≠ [] := by
        intro hnil
        simp [LocationClientApiImpl.isGeofenceMapEmpty, AList.keys, List.keys, hnil] at hempty
      rw [hmsg]
      simpa [maxGeofenceEntry, LocationClientApiImpl.repaired, LocationClientApiImpl.mapped]
        using hentries
    · rw [hsent, List.mem_singleton] at hmsg
      rw [hmsg] at hid
      exact hid

/-- **Registration.**  A client that becomes registered asks for its geofences again, one that is
registered already for none. -/
theorem capabilitesCallback_works
    (hids : c.mHalRegistered = false → ∀ id ∈ Geofenced.resentIds c, id ∈ c.mGeofenceMap) :
    Works c (if c.mHalRegistered then [] else Geofenced.resentIds c) c.capabilitesCallback := by
  have hcallbacks : Works c [] ({ c with mHalRegistered := true },
      if c.mCallbacksMask ≠ 0 then [.send (.updateCallbacks c.mCallbacksMask)] else []) := by
    refine .of_sessions rfl ?_
    unfold AllSent
    split <;> simp [aboutSessions]
  unfold LocationClientApiImpl.capabilitesCallback
  dsimp only
  cases hreg : c.mHalRegistered with
  | true => exact hcallbacks
  | false =>
    simp only [Bool.false_eq_true, if_false]
    have hresume := resumeSession_works ({ c with mHalRegistered := true } : LocationClientApiImpl)
    refine (hcallbacks.andThen hresume).andThen ?_
    generalize hc' :
      ({ c with mHalRegistered := true } : LocationClientApiImpl).resumeSession.1 = c'
    obtain ⟨-, hmap, hlast⟩ := LocationClientApiImpl.resumeSession_geofences
      ({ c with mHalRegistered := true } : LocationClientApiImpl)
    rw [hc'] at hmap hlast
    have hresent : Geofenced.resentIds c' = Geofenced.resentIds c := by
      simp only [Geofenced.resentIds, LocationClientApiImpl.repaired, LocationClientApiImpl.mapped,
        hmap, hlast]
    have hreg' : c'.mHalRegistered = true := by
      rw [← hc', LocationClientApiImpl.resumeSession_registered]
    rw [Result.andThen_fst, hc', ← hresent]
    refine resumeGeofenceMap_works c' hreg' fun id hid => ?_
    rw [hresent] at hid
    rw [hmap]
    exact hids hreg id hid

end Requests

end LocationStack.Link
