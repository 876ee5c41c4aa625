import LocationStack.Daemon.Pairing

/-! # The daemon's map of geofence ids

A client names a geofence by an id of its own, `LocationAPI` by a session id, and
`mGfIdsMap` translates both ways: forward by a lookup, back by a scan.  This module
relates the map to the geofences `LocationAPI` has.  The map follows them as long as
every request names ids that are in the map, every add names new ones, and no response
reports a failure of a geofence that stays: `getSessionIds` inserts what it does not
find, an add overwrites, and a failed request erases the entry of a geofence that
`LocationAPI` still holds.
-/
namespace LocationStack.Daemon

open Ipc EventRun

/-- The map is injective, maps to no zero session, has exactly the client ids of the
geofences `LocationAPI` holds or is adding, and translates back what it translated. -/
structure MapSound (h : LocHalDaemonClientHandler) (hal : HalState) : Prop where
  injective : IdMap.Injective h.mGfIdsMap
  nonzero : ∀ id session, h.mGfIdsMap.lookup id = some session → session ≠ 0
  keys : ∀ id, id ∈ h.mGfIdsMap ↔ id ∈ hal.held.map Prod.fst
  round_trip : ∀ ids sessions, (∀ id ∈ ids, id ∈ h.mGfIdsMap) →
    (h.getSessionIds ids).1 = some sessions →
      (h.getSessionIds ids).2.getClientIds sessions = some ids

/-- The ids are in the map. -/
def Known (h : LocHalDaemonClientHandler) (ids : List UInt32) : Prop :=
  ∀ id ∈ ids, id ∈ h.mGfIdsMap

instance (h : LocHalDaemonClientHandler) (ids : List UInt32) : Decidable (Known h ids) :=
  List.decidableBAll (fun id => id ∈ h.mGfIdsMap) ids

/-- The ids are distinct and not in the map. -/
def New (h : LocHalDaemonClientHandler) (ids : List UInt32) : Prop :=
  ids.Nodup ∧ ids.all fun id => decide (id ∉ h.mGfIdsMap)

instance (h : LocHalDaemonClientHandler) (ids : List UInt32) : Decidable (New h ids) :=
  inferInstanceAs (Decidable (_ ∧ _))

/-- A geofence request that keeps to the map: an add that `LocationAPI` accepts names
distinct ids that are not in the map, an empty add finds no array of an earlier one,
and the other requests name ids that are in the map. -/
def KeepsMap (h : LocHalDaemonClientHandler) (ret : HalReturns) : ReqMsg → Prop
  | .addGeofences geofences =>
    geofences.length ≤ maxGeofenceCount →
      (geofences = [] → h.mGeofenceIds = none) ∧
      (h.mLocationApi → ret.addGeofences ≠ none →
        New h (geofences.map GeofencePayload.gfClientId))
  | .removeGeofences ids => Known h ids
  | .modifyGeofences geofences =>
    geofences.length ≤ maxGeofenceCount →
      Known h (geofences.map GeofencePayload.gfClientId)
  | .pauseGeofences ids => Known h ids
  | .resumeGeofences ids => Known h ids
  | _ => True

/-- The session is in the map. -/
def HasSession (h : LocHalDaemonClientHandler) (session : UInt32) : Bool :=
  h.mGfIdsMap.keys.any fun id => h.mGfIdsMap.lookup id == some session

/-- A response that erases no more than `LocationAPI` drops: nothing in the map fails
except an add, and an entry of the response that is not in the map is not taken for the
geofence with the client id 0. -/
def KeepsMapResponse (h : LocHalDaemonClientHandler) (label : ELocMsgID)
    (resp : List (UInt32 × LocationError)) : Prop :=
  ∀ r ∈ resp,
    (label ≠ .addGeofences → r.2 ≠ .success → ¬HasSession h r.1) ∧
    (label = .removeGeofences ∨ r.2 ≠ .success → HasSession h r.1 ∨ 0 ∉ h.mGfIdsMap)

/-- A step that keeps the map with the geofences of `LocationAPI`. -/
def KeepsMapStep (s : State) : Event → Prop
  | .request msg ret _ _ => s.hal.MayAnswer ret msg → ∀ h ∈ s.client, KeepsMap h ret msg
  | .collectiveResponseCb errs _ =>
    ∀ h ∈ s.client, ∀ call ∈ s.hal.collectiveCalls.head?, errs.length = call.2.length →
      h.mIpcSender ∧ KeepsMapResponse h call.1 (call.2.zip errs)
  | _ => True

instance (h : LocHalDaemonClientHandler) (ret : HalReturns) :
    (msg : ReqMsg) → Decidable (KeepsMap h ret msg)
  | .addGeofences geofences =>
    inferInstanceAs (Decidable (geofences.length ≤ maxGeofenceCount →
      (geofences = [] → h.mGeofenceIds = none) ∧
      (h.mLocationApi → ret.addGeofences ≠ none →
        New h (geofences.map GeofencePayload.gfClientId))))
  | .modifyGeofences geofences =>
    inferInstanceAs (Decidable (geofences.length ≤ maxGeofenceCount →
      Known h (geofences.map GeofencePayload.gfClientId)))
  | .removeGeofences ids | .pauseGeofences ids | .resumeGeofences ids =>
    inferInstanceAs (Decidable (Known h ids))
  | .clientRegister _ | .clientDeregister | .updateCallbacks _ | .startTracking _
  | .stopTracking _ | .updateTrackingOptions _ | .startBatching _ _ _ | .stopBatching
  | .updateBatchingOptions _ _ _ => inferInstanceAs (Decidable True)

instance (h : LocHalDaemonClientHandler) (label : ELocMsgID)
    (resp : List (UInt32 × LocationError)) : Decidable (KeepsMapResponse h label resp) :=
  inferInstanceAs (Decidable (∀ r ∈ resp, _))

instance (s : State) : (e : Event) → Decidable (KeepsMapStep s e)
  | .request msg ret _ _ =>
    inferInstanceAs (Decidable (s.hal.MayAnswer ret msg → ∀ h ∈ s.client, KeepsMap h ret msg))
  | .collectiveResponseCb errs _ =>
    inferInstanceAs (Decidable (∀ h ∈ s.client, ∀ call ∈ s.hal.collectiveCalls.head?,
      errs.length = call.2.length →
        h.mIpcSender ∧ KeepsMapResponse h call.1 (call.2.zip errs)))
  | .autoStart _ _ _ | .capabilitiesCb _ _ | .responseCb _ _ | .geofenceBreachCb _ _ =>
    inferInstanceAs (Decidable True)

/-! ## The invariant -/

/-- The map is the geofences of `LocationAPI`, and the pending ids are its unanswered
collective requests. -/
structure Agrees (h : LocHalDaemonClientHandler) (hal : HalState) : Prop where
  pending : h.mGfPendingMessages = hal.collectiveCalls.map Prod.fst
  labels : ∀ call ∈ hal.collectiveCalls,
    LocHalDaemonClientHandler.collectiveRespondsTo call.1
  lookup : ∀ id session, h.mGfIdsMap.lookup id = some session ↔ (id, session) ∈ hal.held
  distinct : (hal.held.map Prod.snd).Nodup
  nonzero : ∀ g ∈ hal.held, g.2 ≠ 0
  noApi : h.mLocationApi = false → h.mGfIdsMap = ∅ ∧ h.mGeofenceIds = none

theorem new_agrees (mClientType : ClientType) (mIpcSender : Bool) :
    Agrees (.new mClientType mIpcSender) .empty where
  pending := rfl
  labels := by simp [HalState.empty]
  lookup := by simp [LocHalDaemonClientHandler.new, HalState.empty]
  distinct := by simp [HalState.empty]
  nonzero := by simp [HalState.empty]
  noApi := fun _ => ⟨rfl, rfl⟩

theorem eq_of_held_session {hal : HalState} (hnd : (hal.held.map Prod.snd).Nodup)
    {g g' : UInt32 × UInt32} (hg : g ∈ hal.held) (hg' : g' ∈ hal.held)
    (h : g.2 = g'.2) : g = g' :=
  List.inj_on_of_nodup_map hnd hg hg' h

theorem Agrees.injective {h : LocHalDaemonClientHandler} {hal : HalState}
    (ha : Agrees h hal) : IdMap.Injective h.mGfIdsMap := by
  intro id id' session hid hid'
  have heq := eq_of_held_session ha.distinct ((ha.lookup _ _).mp hid)
    ((ha.lookup _ _).mp hid') rfl
  exact congrArg Prod.fst heq

theorem mem_map_iff (m : GfIdsMap) (id : UInt32) :
    id ∈ m ↔ ∃ session, m.lookup id = some session := by
  rw [← AList.lookup_isSome, Option.isSome_iff_exists]

theorem hasSession_iff (h : LocHalDaemonClientHandler) (session : UInt32) :
    HasSession h session ↔ ∃ id, h.mGfIdsMap.lookup id = some session := by
  rw [HasSession, List.any_eq_true]
  constructor
  · rintro ⟨id, _, hid⟩
    exact ⟨id, by simpa using hid⟩
  · rintro ⟨id, hid⟩
    have hmem : id ∈ h.mGfIdsMap := (mem_map_iff _ _).mpr ⟨session, hid⟩
    exact ⟨id, AList.mem_keys.mp hmem, by simpa using hid⟩

/-! ## Translating ids -/

/-- Looking up ids that are in the map leaves it as it is, and a scan takes each session
found back to its id. -/
theorem readGfIds_known {m : GfIdsMap} (hinj : IdMap.Injective m) {ids : List UInt32}
    (hids : ∀ id ∈ ids, id ∈ m) :
    (LocHalDaemonClientHandler.readGfIds m ids).2 = m ∧
      (LocHalDaemonClientHandler.readGfIds m ids).1.map (fun s => IdMap.keyOf m s 0) = ids := by
  induction ids with
  | nil => exact ⟨rfl, rfl⟩
  | cons id ids ih =>
    obtain ⟨session, hs⟩ := (mem_map_iff m id).mp (hids id List.mem_cons_self)
    obtain ⟨hm, hback⟩ := ih fun id' h' => hids id' (List.mem_cons_of_mem _ h')
    constructor
    · simp [LocHalDaemonClientHandler.readGfIds, hs, hm]
    · simp [LocHalDaemonClientHandler.readGfIds, hs, hback, IdMap.keyOf_of_lookup hinj hs]

theorem Agrees.mapSound {h : LocHalDaemonClientHandler} {hal : HalState}
    (ha : Agrees h hal) : MapSound h hal where
  injective := ha.injective
  nonzero := fun id session hid => ha.nonzero _ ((ha.lookup id session).mp hid)
  keys := by
    intro id
    rw [mem_map_iff, List.mem_map]
    constructor
    · rintro ⟨session, hs⟩
      exact ⟨(id, session), (ha.lookup id session).mp hs, rfl⟩
    · rintro ⟨⟨id', session⟩, hg, rfl⟩
      exact ⟨session, (ha.lookup _ _).mpr hg⟩
  round_trip := by
    intro ids sessions hids hs
    unfold LocHalDaemonClientHandler.getSessionIds at hs ⊢
    split at hs
    · exact absurd hs (by simp)
    · obtain ⟨hm, hback⟩ := readGfIds_known ha.injective hids
      rw [if_neg ‹_›]
      cases hs
      have hne : ids ≠ [] := by simpa using ‹¬ids.isEmpty = true›
      have hne' : (LocHalDaemonClientHandler.readGfIds h.mGfIdsMap ids).1 ≠ [] := by
        intro hnil
        rw [hnil] at hback
        exact hne hback.symm
      simp [LocHalDaemonClientHandler.getClientIds, hm, hback, hne']

/-! ## Requests -/

/-- A request that leaves the map, its queue and `LocationAPI`'s geofences alone. -/
structure GfQuiet (h : LocHalDaemonClientHandler)
    (r : LocHalDaemonClientHandler × List Action) : Prop where
  map : r.1.mGfIdsMap = h.mGfIdsMap
  pending : r.1.mGfPendingMessages = h.mGfPendingMessages
  api : r.1.mLocationApi = h.mLocationApi
  ids : h.mLocationApi = false → r.1.mGeofenceIds = h.mGeofenceIds
  calls : ∀ call ∈ HalState.calls r.2, call.collectiveFor = none

namespace GfQuiet

variable {h : LocHalDaemonClientHandler}

theorem refl (h : LocHalDaemonClientHandler) : GfQuiet h (h, []) :=
  ⟨rfl, rfl, rfl, fun _ => rfl, by simp [HalState.calls]⟩

/-- A session call and a change of fields that the geofences do not use. -/
theorem call {h' : LocHalDaemonClientHandler} {call : HalCall}
    (hmap : h'.mGfIdsMap = h.mGfIdsMap)
    (hpend : h'.mGfPendingMessages = h.mGfPendingMessages)
    (hapi : h'.mLocationApi = h.mLocationApi) (hids : h'.mGeofenceIds = h.mGeofenceIds)
    (hcall : call.collectiveFor = none) : GfQuiet h (h', [.hal call]) :=
  ⟨hmap, hpend, hapi, fun _ => hids, by simpa [HalState.calls] using hcall⟩

theorem comp {r : LocHalDaemonClientHandler × List Action}
    {r' : LocHalDaemonClientHandler × List Action} (hr : GfQuiet h r) (hr' : GfQuiet r.1 r') :
    GfQuiet h (r'.1, r.2 ++ r'.2) where
  map := hr'.map.trans hr.map
  pending := hr'.pending.trans hr.pending
  api := hr'.api.trans hr.api
  ids := fun hno => (hr'.ids (hr.api.trans hno)).trans (hr.ids hno)
  calls := by
    intro call hmem
    rw [HalState.calls, List.filterMap_append, List.mem_append] at hmem
    rcases hmem with hmem | hmem
    · exact hr.calls call hmem
    · exact hr'.calls call hmem

theorem pushPending {r : LocHalDaemonClientHandler × List Action} (hr : GfQuiet h r)
    (id : ELocMsgID) : GfQuiet h (r.1.pushPending id, r.2) :=
  ⟨hr.map, hr.pending, hr.api, hr.ids, hr.calls⟩

end GfQuiet

theorem added_of_not_collective {call : HalCall} (hc : call.collectiveFor = none)
    (clientIds : List UInt32) : HalState.added clientIds call = [] := by
  cases call with
  | addGeofences options info ids =>
    cases ids with
    | none => rfl
    | some ids => exact absurd hc (by simp [HalCall.collectiveFor])
  | _ => rfl

theorem Agrees.quiet {h : LocHalDaemonClientHandler} {hal : HalState} (ha : Agrees h hal)
    {r : LocHalDaemonClientHandler × List Action} (hq : GfQuiet h r)
    (clientIds : List UInt32) : Agrees r.1 (hal.record clientIds r.2) := by
  have hcalls : (HalState.calls r.2).filterMap HalCall.collectiveFor = [] :=
    List.filterMap_eq_nil_iff.mpr hq.calls
  have hadded : (HalState.calls r.2).flatMap (HalState.added clientIds) = [] :=
    List.flatMap_eq_nil_iff.mpr fun call hmem =>
      added_of_not_collective (hq.calls call hmem) clientIds
  exact
    { pending := by rw [hq.pending, HalState.record, hcalls, List.append_nil, ha.pending]
      labels := by rw [HalState.record, hcalls, List.append_nil]; exact ha.labels
      lookup := by rw [hq.map, HalState.record, hadded, List.append_nil]; exact ha.lookup
      distinct := by rw [HalState.record, hadded, List.append_nil]; exact ha.distinct
      nonzero := by rw [HalState.record, hadded, List.append_nil]; exact ha.nonzero
      noApi := by
        intro hno
        rw [hq.api] at hno
        rw [hq.map, hq.ids hno]
        exact ha.noApi hno }

/-- What an accepted add adds to the account. -/
theorem record_added (hal : HalState) (clientIds ids : List UInt32)
    (options : List GeofenceOption) (info : List GeofenceInfo) :
    hal.record clientIds [.hal (.addGeofences options info (some ids))] =
      { hal with
        collectiveCalls := hal.collectiveCalls ++ [(.addGeofences, ids)]
        held := hal.held ++ clientIds.zip ids } := by
  simp [HalState.record, HalState.calls, HalCall.responseTo, HalCall.collectiveFor,
    HalState.added]

/-- The sessions of new geofences, under new ids: what the map has then. -/
theorem Agrees.lookup_added {h : LocHalDaemonClientHandler} {hal : HalState}
    (ha : Agrees h hal) {clientIds ids : List UInt32} (hlen : clientIds.length = ids.length)
    (hnew : New h clientIds) (id session : UInt32) :
    (IdMap.insertAll h.mGfIdsMap (clientIds.zip ids)).lookup id = some session ↔
      (id, session) ∈ hal.held ++ clientIds.zip ids := by
  obtain ⟨hdistinct, hfresh⟩ := hnew
  simp only [List.all_eq_true, decide_eq_true_eq] at hfresh
  have hfst : (clientIds.zip ids).map Prod.fst = clientIds :=
    List.map_fst_zip (Nat.le_of_eq hlen)
  have hdistinct' : ((clientIds.zip ids).map Prod.fst).Nodup := by
    rw [hfst]
    exact hdistinct
  rw [IdMap.lookup_insertAll_iff h.mGfIdsMap hdistinct', hfst, List.mem_append,
    ← ha.lookup id session]
  constructor
  · rintro (hz | ⟨_, hl⟩)
    · exact .inr hz
    · exact .inl hl
  · rintro (hl | hz)
    · refine .inr ⟨fun hmem => ?_, hl⟩
      exact hfresh id hmem ((mem_map_iff _ _).mpr ⟨session, hl⟩)
    · exact .inl hz

/-- An add that `LocationAPI` accepts, under new ids: the new entries and the new
geofences are the same pairs. -/
theorem Agrees.added {h : LocHalDaemonClientHandler} {hal : HalState} (ha : Agrees h hal)
    (happ : h.mLocationApi = true) {clientIds ids : List UInt32}
    (hret : hal.MayReturn clientIds.length (some ids)) (hnew : New h clientIds)
    (options : List GeofenceOption) (info : List GeofenceInfo) :
    Agrees
      ((({ h with mGeofenceIds := some ids } : LocHalDaemonClientHandler).setGeofenceIds
        clientIds ids).pushGfPending .addGeofences)
      (hal.record clientIds [.hal (.addGeofences options info (some ids))]) := by
  obtain ⟨hlen, hnd, hzero, hfree⟩ := hret ids rfl
  simp only [List.all_eq_true, Bool.not_eq_true', ← Bool.not_eq_true,
    HalState.holds_iff] at hfree
  have hsnd : (clientIds.zip ids).map Prod.snd = ids :=
    List.map_snd_zip (Nat.le_of_eq hlen)
  rw [record_added]
  exact
    { pending := by
        simp [LocHalDaemonClientHandler.pushGfPending,
          LocHalDaemonClientHandler.setGeofenceIds, ha.pending]
      labels := by
        intro c hc
        rcases List.mem_append.mp hc with hc | hc
        · exact ha.labels c hc
        · rw [List.mem_singleton.mp hc]
          rfl
      lookup := ha.lookup_added hlen.symm hnew
      distinct := by
        rw [List.map_append, hsnd, List.nodup_append]
        exact ⟨ha.distinct, hnd, fun a hmem b hb hab => hfree b hb (hab ▸ hmem)⟩
      nonzero := by
        intro g hg
        rcases List.mem_append.mp hg with hg | hg
        · exact ha.nonzero g hg
        · intro h0
          have hmem : g.2 ∈ ids := by
            rw [← hsnd]
            exact List.mem_map_of_mem hg
          exact hzero (h0 ▸ hmem)
      noApi := fun hno => absurd happ (by
        simpa [LocHalDaemonClientHandler.pushGfPending,
          LocHalDaemonClientHandler.setGeofenceIds] using hno) }

namespace LocHalDaemonClientHandler

variable (h : LocHalDaemonClientHandler)

theorem updateSubscription_gfQuiet (mask : LocationCallbacksMask) :
    GfQuiet h (h.updateSubscription mask) := by
  unfold updateSubscription
  split
  · exact .call rfl rfl rfl rfl rfl
  · exact ⟨rfl, rfl, rfl, fun _ => rfl, by simp [HalState.calls]⟩

theorem startTracking_gfQuiet (locOptions : LocationOptions) (ret : UInt32) :
    GfQuiet h (h.startTracking locOptions ret) := by
  unfold startTracking
  split
  · exact .call rfl rfl rfl rfl rfl
  · exact .refl h

theorem stopTracking_gfQuiet (clientExpectingResp : Bool) :
    GfQuiet h (h.stopTracking clientExpectingResp) := by
  unfold stopTracking
  split
  · exact .call rfl rfl rfl rfl rfl
  · exact ⟨rfl, rfl, rfl, fun _ => rfl, by simp [HalState.calls]⟩

theorem updateTrackingOptions_gfQuiet (locOptions : LocationOptions) :
    GfQuiet h (h.updateTrackingOptions locOptions) := by
  unfold updateTrackingOptions
  split
  · exact .call rfl rfl rfl rfl rfl
  · exact .refl h

theorem startBatching_gfQuiet (minInterval minDistance : UInt32) (batchMode : BatchingMode)
    (ret : UInt32) : GfQuiet h (h.startBatching minInterval minDistance batchMode ret) := by
  unfold startBatching
  split
  · exact .call rfl rfl rfl rfl rfl
  · exact .refl h

theorem stopBatching_gfQuiet : GfQuiet h h.stopBatching := by
  unfold stopBatching
  split
  · exact .call rfl rfl rfl rfl rfl
  · exact .refl h

theorem updateBatchingOptions_gfQuiet (minInterval minDistance : UInt32)
    (batchMode : BatchingMode) :
    GfQuiet h (h.updateBatchingOptions minInterval minDistance batchMode) := by
  unfold updateBatchingOptions
  split
  · exact .call rfl rfl rfl rfl rfl
  · exact .refl h

end LocHalDaemonClientHandler

namespace LocationApiService

variable (h : LocHalDaemonClientHandler)

theorem stopTracking_gfQuiet (clearSubscriptions : Bool) :
    GfQuiet h (stopTracking clearSubscriptions h) := by
  have hsub : GfQuiet h
      (if clearSubscriptions then h.unsubscribeLocationSessionCb else (h, [])) := by
    split
    · exact h.updateSubscription_gfQuiet _
    · exact .refl h
  exact hsub.comp (LocHalDaemonClientHandler.stopTracking_gfQuiet _ (!clearSubscriptions))

theorem startBatching_gfQuiet (intervalInMs distanceInMeters : UInt32)
    (batchingMode : BatchingMode) (ret : UInt32) :
    GfQuiet h (startBatching intervalInMs distanceInMeters batchingMode ret h) := by
  have hq := h.startBatching_gfQuiet intervalInMs distanceInMeters batchingMode ret
  unfold startBatching
  dsimp only
  split
  · exact hq
  · exact ⟨hq.map, hq.pending, hq.api, hq.ids, hq.calls⟩

theorem stopBatching_gfQuiet : GfQuiet h (stopBatching h) := by
  have hq := LocHalDaemonClientHandler.stopBatching_gfQuiet
    { h with mBatching := false, mBatchingMode := .noAutoReport }
  exact ⟨hq.map, hq.pending, hq.api, hq.ids, hq.calls⟩

/-- A request with ids that are in the map: the map stays, and `LocationAPI` owes one
more answer. -/
theorem onGeofences_agrees {h : LocHalDaemonClientHandler} {hal : HalState}
    (ha : Agrees h hal) {ids : List UInt32} (hids : ∀ id ∈ ids, id ∈ h.mGfIdsMap)
    {label : ELocMsgID} (hlabel : LocHalDaemonClientHandler.collectiveRespondsTo label)
    (call : List UInt32 → HalCall)
    (hcall : ∀ sessions, (call sessions).collectiveFor = some (label, sessions))
    (hadded : ∀ sessions, HalState.added [] (call sessions) = []) :
    Agrees
      (onGeofences ids label (fun h sessions => h.callGeofences sessions (call sessions)) h).1
      (hal.record []
        (onGeofences ids label
          (fun h sessions => h.callGeofences sessions (call sessions)) h).2) := by
  obtain ⟨hm, hback⟩ := readGfIds_known ha.injective hids
  cases ids with
  | nil => simpa [onGeofences, LocHalDaemonClientHandler.getSessionIds] using ha.quiet (.refl h) []
  | cons id ids =>
    -- an id in the map, so there is an instance of `LocationAPI` to call
    have happ : h.mLocationApi = true := by
      by_contra hno
      have hempty := (ha.noApi (by simpa using hno)).1
      exact absurd (hids id List.mem_cons_self) (by rw [hempty]; exact AList.notMem_empty id)
    set sessions := (LocHalDaemonClientHandler.readGfIds h.mGfIdsMap (id :: ids)).1 with hsess
    have hne : sessions ≠ [] := by
      intro hnil
      rw [hnil] at hback
      exact absurd hback (by simp)
    have hres : onGeofences (id :: ids) label
        (fun h sessions => h.callGeofences sessions (call sessions)) h =
          (h.pushGfPending label, [.hal (call sessions)]) := by
      have hget : h.getSessionIds (id :: ids) = (some sessions, h) := by
        rw [LocHalDaemonClientHandler.getSessionIds, if_neg (by simp)]
        simp only [hm]
        rfl
      have hacts : h.callGeofences sessions (call sessions) = [.hal (call sessions)] :=
        if_pos (by simp [hne, happ])
      rw [onGeofences, hget]
      dsimp only
      rw [hacts]
    rw [hres]
    exact
      { pending := by
          simp [LocHalDaemonClientHandler.pushGfPending, HalState.record, HalState.calls,
            hcall, ha.pending]
        labels := by
          intro c hc
          simp only [HalState.record, HalState.calls, List.filterMap_cons, List.filterMap_nil,
            hcall, List.mem_append, List.mem_singleton] at hc
          rcases hc with hc | rfl
          · exact ha.labels c hc
          · exact hlabel
        lookup := by
          simpa [LocHalDaemonClientHandler.pushGfPending, HalState.record, HalState.calls,
            hadded] using ha.lookup
        distinct := by simpa [HalState.record, HalState.calls, hadded] using ha.distinct
        nonzero := by simpa [HalState.record, HalState.calls, hadded] using ha.nonzero
        noApi := ha.noApi }

/-- An add under new ids, accepted or not. -/
theorem addGeofences_agrees {h : LocHalDaemonClientHandler} {hal : HalState}
    (ha : Agrees h hal) {geofences : List GeofencePayload} {ret : HalReturns}
    (hret : hal.MayAnswer ret (.addGeofences geofences))
    (hkeep : KeepsMap h ret (.addGeofences geofences)) :
    Agrees (addGeofences geofences ret.addGeofences h).1
      (hal.record (addedIds (.addGeofences geofences))
        (addGeofences geofences ret.addGeofences h).2) := by
  unfold addGeofences
  split
  · exact ha.quiet (.refl h) _
  · obtain ⟨hstale, hnew⟩ := hkeep (by omega)
    by_cases hcall : geofences ≠ [] ∧ h.mLocationApi
    · have hadd : h.addGeofences (geofences.map GeofencePayload.gfOption)
          (geofences.map GeofencePayload.gfInfo) ret.addGeofences =
          ({ h with mGeofenceIds := ret.addGeofences },
            [.hal (.addGeofences (geofences.map GeofencePayload.gfOption)
              (geofences.map GeofencePayload.gfInfo) ret.addGeofences)]) :=
        if_pos (by simpa using hcall)
      rw [hadd]
      dsimp only
      cases hids : ret.addGeofences with
      | none =>
        refine ha.quiet ⟨rfl, rfl, rfl, ?_, by simp [HalState.calls, HalCall.collectiveFor]⟩ _
        intro hno
        exact absurd hcall.2 (by simp [hno])
      | some ids =>
        refine ha.added hcall.2 ?_ (hnew hcall.2 (by simp [hids])) _ _
        rw [← hids, List.length_map]
        exact hret
    · -- no call is made, and there is no array of an earlier one
      have hadd : h.addGeofences (geofences.map GeofencePayload.gfOption)
          (geofences.map GeofencePayload.gfInfo) ret.addGeofences = (h, []) :=
        if_neg (by simpa using hcall)
      have hnone : h.mGeofenceIds = none := by
        by_cases hg : geofences = []
        · exact hstale hg
        · have hno : h.mLocationApi = false := by
            cases happ : h.mLocationApi
            · rfl
            · exact absurd ⟨hg, happ⟩ hcall
          exact (ha.noApi hno).2
      rw [hadd]
      dsimp only
      rw [hnone]
      exact ha.quiet (.refl h) _

/-- **Which requests keep the map.** -/
theorem processClientMsg_agrees {h : LocHalDaemonClientHandler} {hal : HalState}
    (ha : Agrees h hal) (mPositionMode : GnssSuplMode) {msg : ReqMsg} {ret : HalReturns}
    (hret : hal.MayAnswer ret msg) (hkeep : KeepsMap h ret msg) (mIpcSender rc : Bool) :
    ∀ h' ∈ (processClientMsg mPositionMode (some h) msg ret mIpcSender rc).1,
      Agrees h' (hal.record (addedIds msg)
        (processClientMsg mPositionMode (some h) msg ret mIpcSender rc).2) := by
  intro h' hh'
  -- a request of a registered client is answered by its handler
  have hquiet : ∀ {f : LocHalDaemonClientHandler → LocHalDaemonClientHandler × List Action},
      GfQuiet h (f h) → h' ∈ (withClient (some h) f).1 →
        Agrees h' (hal.record [] (withClient (some h) f).2) := by
    intro f hq hmem
    cases Option.some.inj hmem
    exact ha.quiet hq []
  cases msg with
  | clientRegister clientType =>
    obtain ⟨rfl, hcalls⟩ := h.sendCapabilitiesMsg_some rc hh'
    have hq : GfQuiet h' (h', (h'.sendCapabilitiesMsg rc).2) :=
      ⟨rfl, rfl, rfl, fun _ => rfl, by rw [hcalls]; simp⟩
    exact ha.quiet hq []
  | clientDeregister => exact absurd hh' (by simp [processClientMsg, deleteClient])
  | updateCallbacks mask => exact hquiet (h.updateSubscription_gfQuiet mask) hh'
  | startTracking options => exact hquiet (h.startTracking_gfQuiet _ _) hh'
  | stopTracking clear => exact hquiet (stopTracking_gfQuiet h clear) hh'
  | updateTrackingOptions options =>
    exact hquiet ((h.updateTrackingOptions_gfQuiet _).pushPending _) hh'
  | startBatching interval distance mode =>
    exact hquiet (startBatching_gfQuiet h interval distance mode _) hh'
  | stopBatching => exact hquiet (stopBatching_gfQuiet h) hh'
  | updateBatchingOptions interval distance mode =>
    exact hquiet ((h.updateBatchingOptions_gfQuiet interval distance mode).pushPending _) hh'
  | addGeofences geofences =>
    cases Option.some.inj hh'
    exact addGeofences_agrees ha hret hkeep
  | removeGeofences ids =>
    cases Option.some.inj hh'
    exact onGeofences_agrees ha hkeep rfl .removeGeofences (fun _ => rfl) fun _ => rfl
  | modifyGeofences geofences =>
    cases Option.some.inj hh'
    simp only [withClient, modifyGeofences, processClientMsg]
    split
    · exact ha.quiet (.refl h) _
    · exact onGeofences_agrees ha (hkeep (by omega)) rfl
        (fun sessions => .modifyGeofences sessions (geofences.map GeofencePayload.gfOption))
        (fun _ => rfl) fun _ => rfl
  | pauseGeofences ids =>
    cases Option.some.inj hh'
    exact onGeofences_agrees ha hkeep rfl .pauseGeofences (fun _ => rfl) fun _ => rfl
  | resumeGeofences ids =>
    cases Option.some.inj hh'
    exact onGeofences_agrees ha hkeep rfl .resumeGeofences (fun _ => rfl) fun _ => rfl

end LocationApiService

/-! ## Responses -/

/-- A response that keeps to the map erases exactly the geofences that are dropped. -/
theorem answered_iff_drops {h : LocHalDaemonClientHandler} {hal : HalState}
    (ha : Agrees h hal) {label : ELocMsgID} {resp : List (UInt32 × LocationError)}
    (hkeep : KeepsMapResponse h label resp) {id session : UInt32}
    (hid : h.mGfIdsMap.lookup id = some session) :
    id ∈ h.answeredIds label resp ↔ HalState.drops label resp session = true := by
  rw [LocHalDaemonClientHandler.answeredIds, List.mem_map, HalState.drops, List.any_eq_true]
  constructor
  · rintro ⟨r, hr, hkey⟩
    obtain ⟨hmem, herased⟩ := List.mem_filter.mp hr
    simp only [Bool.or_eq_true, beq_iff_eq, bne_iff_ne] at herased
    obtain ⟨hfail, hzero⟩ := hkeep r hmem
    rcases IdMap.keyOf_cases h.mGfIdsMap r.1 0 with ⟨h0, hnone⟩ | hsome
    · -- the session is unknown, so the scan ended with 0, which is no client id
      rw [hkey] at h0
      rcases hzero herased with hhas | hno
      · obtain ⟨id', hid'⟩ := (hasSession_iff h r.1).mp hhas
        exact absurd hid' (hnone id')
      · exact absurd ((mem_map_iff _ _).mpr ⟨session, h0 ▸ hid⟩) hno
    · rw [hkey, hid] at hsome
      have hsess : r.1 = session := (Option.some.inj hsome).symm
      refine ⟨r, hmem, ?_⟩
      have hhas : HasSession h r.1 := (hasSession_iff h r.1).mpr ⟨id, hsess ▸ hid⟩
      by_cases hadd : label = .addGeofences
      · subst hadd
        simpa [hsess] using herased
      · have hok : r.2 = .success := by
          by_contra hne
          exact hfail hadd hne hhas
        rcases herased with hrem | hne
        · simp [hsess, hrem, hok]
        · exact absurd hok hne
  · rintro ⟨r, hmem, hdrop⟩
    simp only [Bool.and_eq_true, Bool.or_eq_true, beq_iff_eq, bne_iff_ne] at hdrop
    obtain ⟨rfl, hwhy⟩ := hdrop
    refine ⟨r, List.mem_filter.mpr ⟨hmem, ?_⟩, IdMap.keyOf_of_lookup ha.injective hid 0⟩
    rcases hwhy with ⟨_, hne⟩ | ⟨hrem, _⟩
    · simp [hne]
    · simp [hrem]

theorem response_agrees {h : LocHalDaemonClientHandler} {hal : HalState} (ha : Agrees h hal)
    {label : ELocMsgID} {ids : List UInt32} {calls : List (ELocMsgID × List UInt32)}
    (hcalls : hal.collectiveCalls = (label, ids) :: calls)
    {resp : List (UInt32 × LocationError)} (hsend : h.mIpcSender)
    (hkeep : KeepsMapResponse h label resp) (rc : Bool) :
    ∀ h' ∈ (h.onCollectiveResponseCallback resp rc).1,
      Agrees h' { hal with
        collectiveCalls := calls, held := hal.heldAfter label resp } := by
  intro h' hh'
  have hpend : h.mGfPendingMessages = label :: calls.map Prod.fst := by
    rw [ha.pending, hcalls, List.map_cons]
  have hlabel := ha.labels (label, ids) (by rw [hcalls]; exact List.mem_cons_self)
  obtain ⟨m, rfl, hm⟩ := h.onCollectiveResponseCallback_some resp rc hsend
    (by rw [hpend, List.head?_cons]) hlabel hh'
  have hsub : (hal.heldAfter label resp).Sublist hal.held := List.filter_sublist
  exact
    { pending := by simp [hpend]
      labels := by
        intro call hcall
        exact ha.labels call (by rw [hcalls]; exact List.mem_cons_of_mem _ hcall)
      lookup := by
        intro id session
        rw [hm id, HalState.heldAfter, List.mem_filter, ← ha.lookup id session]
        by_cases hid : h.mGfIdsMap.lookup id = some session
        · have hiff := answered_iff_drops ha hkeep hid
          by_cases hans : id ∈ h.answeredIds label resp
          · simp [hans, hid, hiff.mp hans]
          · have hdrop : HalState.drops label resp session = false := by
              simpa using fun hd => hans (hiff.mpr hd)
            simp [hans, hid, hdrop]
        · simp [hid]
      distinct := ha.distinct.sublist (hsub.map _)
      nonzero := fun g hg => ha.nonzero g (hsub.subset hg)
      noApi := by
        intro hno
        obtain ⟨hempty, hids⟩ := ha.noApi hno
        refine ⟨?_, hids⟩
        have hnone : ∀ id, m.lookup id = none := by
          intro id
          rw [hm id, hempty]
          split
          · rfl
          · exact AList.lookup_empty id
        apply AList.ext
        rw [AList.empty_entries, List.eq_nil_iff_forall_not_mem]
        rintro ⟨id, session⟩ hmem
        exact absurd (AList.mem_lookup_iff.mpr hmem) (by rw [hnone id]; simp) }

/-! ## Runs -/

/-- The map agrees with `LocationAPI` in a client that is registered. -/
def GfInv (s : State) : Prop := ∀ h ∈ s.client, Agrees h s.hal

theorem GfInv.settle {client : Entry} {hal : HalState}
    {answered : List (ELocMsgID × Option ELocMsgID)} (ha : ∀ h ∈ client, Agrees h hal) :
    GfInv (.settle client hal answered) := by
  rintro h (hh : client = some h)
  have hagree := ha h hh
  subst hh
  exact hagree

/-- What the geofences do not use may change. -/
theorem Agrees.congr {h h' : LocHalDaemonClientHandler} {hal : HalState} (ha : Agrees h hal)
    (hmap : h'.mGfIdsMap = h.mGfIdsMap)
    (hpend : h'.mGfPendingMessages = h.mGfPendingMessages)
    (hapi : h'.mLocationApi = h.mLocationApi) (hids : h'.mGeofenceIds = h.mGeofenceIds)
    (calls : List ELocMsgID) : Agrees h' { hal with sessionCalls := calls } :=
  { pending := hpend.trans ha.pending
    labels := ha.labels
    lookup := by rw [hmap]; exact ha.lookup
    distinct := ha.distinct
    nonzero := ha.nonzero
    noApi := by rw [hmap, hapi, hids]; exact ha.noApi }

/-- **One step.**  A step of `KeepsMapStep` keeps the map in agreement. -/
theorem step_gfInv (mPositionMode : GnssSuplMode) (s : State) (e : Event)
    (hs : Settled s ∧ GfInv s) (hkeep : KeepsMapStep s e) :
    Settled (step mPositionMode s e) ∧ GfInv (step mPositionMode s e) := by
  refine ⟨step_settled mPositionMode s e hs.1, ?_⟩
  obtain ⟨client, hal, answered⟩ := s
  obtain ⟨hsettled, hinv⟩ := hs
  cases e with
  | request msg ret mIpcSender rc =>
    by_cases hret : hal.MayAnswer ret msg
    · simp only [step, stepActs, hret, if_true]
      apply GfInv.settle
      cases client with
      | none =>
        have hhal : hal = .empty := hsettled rfl
        subst hhal
        cases msg <;>
          simp [LocationApiService.processClientMsg, LocationApiService.newClient,
            LocationApiService.deleteClient, LocationApiService.withClient, HalState.record,
            HalState.empty, HalState.calls]
        case clientRegister clientType => exact new_agrees clientType mIpcSender
      | some h =>
        exact LocationApiService.processClientMsg_agrees (hinv h rfl) mPositionMode hret
          (hkeep hret h rfl) mIpcSender rc
    · simpa only [step, stepActs, hret, if_false] using hinv
  | autoStart tbf ret mIpcSender =>
    cases client with
    | some h => exact hinv
    | none =>
      have hhal : hal = .empty := hsettled rfl
      subst hhal
      apply GfInv.settle
      rintro h hh
      cases Option.some.inj hh
      have hnew := new_agrees .locationClientApi mIpcSender
      have hq := ((LocHalDaemonClientHandler.new .locationClientApi
        mIpcSender).updateSubscription_gfQuiet
          (eLocCbGnssLocationInfoBit ||| eLocCbGnssSvBit)).comp
        (LocHalDaemonClientHandler.startTracking_gfQuiet _
          { LocationOptions.zero with minInterval := tbf, mode := mPositionMode } ret)
      exact hnew.quiet (hq.pushPending .startTracking) []
  | capabilitiesCb mask rc =>
    cases client with
    | none => exact hinv
    | some h =>
      apply GfInv.settle
      intro h' hh'
      cases h.onCapabilitiesCallback_some mask rc hh'
      refine (hinv h rfl).congr ?_ ?_ ?_ ?_ hal.sessionCalls <;> rfl
  | responseCb err rc =>
    simp only [step, stepActs]
    split
    · rename_i h call calls hcalls
      apply GfInv.settle
      intro h' hh'
      have ha := hinv h rfl
      cases hsend : h.mIpcSender with
      | true =>
        cases h.onResponseCb_some err rc hsend hh'
        refine ha.congr ?_ ?_ ?_ ?_ calls <;> rfl
      | false =>
        rw [h.onResponseCb_no_sender err rc hsend] at hh'
        cases Option.some.inj hh'
        refine ha.congr ?_ ?_ ?_ ?_ calls <;> rfl
    · exact hinv
  | collectiveResponseCb errs rc =>
    simp only [step, stepActs]
    split
    · rename_i h label ids calls hcalls
      split
      · apply GfInv.settle
        obtain ⟨hsend, hresp⟩ := hkeep h rfl (label, ids) (by simp [hcalls]) ‹_›
        exact response_agrees (hinv h rfl) hcalls hsend hresp rc
      · exact hinv
    · exact hinv
  | geofenceBreachCb ids rc =>
    simp only [step, stepActs]
    split
    · exact hinv
    · split
      · apply GfInv.settle
        intro h' hh'
        cases LocHalDaemonClientHandler.onGeofenceBreachCb_some _ ids rc hh'
        exact hinv _ rfl
      · exact hinv

/-- **The daemon's geofence map.**  In every run whose steps keep to the map, the map
of a registered client is sound in every state. -/
theorem geofence_map_sound (mPositionMode : GnssSuplMode) (es : List Event)
    (hkeep : Meets (step mPositionMode) KeepsMapStep .init es) :
    Throughout (step mPositionMode) (fun s => ∀ h ∈ s.client, MapSound h s.hal) .init es := by
  have hinit : Settled .init ∧ GfInv .init :=
    ⟨init_settled, fun _ hh => absurd hh (by simp [State.init])⟩
  have hinv := throughout_of_meets (step_gfInv mPositionMode) hinit hkeep
  exact hinv.imp fun s hs h hh => (hs.2 h hh).mapSound

/-- The client registers and adds geofences under `ids`, to which `LocationAPI` gives
`sessions`. -/
def registerAndAdd (ids sessions : List UInt32) : List Event :=
  let geofence := fun id : UInt32 => GeofencePayload.mk id ⟨1, 0, 0⟩ ⟨0, 0, 0⟩
  [.request (.clientRegister .locationClientApi) ⟨0, 0, none⟩ true true,
    .request (.addGeofences (ids.map geofence)) ⟨0, 0, some sessions⟩ true true]

/-- Two geofences of which one is not added; the other is paused and removed. -/
theorem geofence_map_sound_sample :
    Throughout (step .standalone) (fun s => ∀ h ∈ s.client, MapSound h s.hal) .init
      (registerAndAdd [10, 20] [5, 6] ++
        [.collectiveResponseCb [.success, .geofencesAtMax] true,
          .request (.pauseGeofences [10]) ⟨0, 0, none⟩ true true,
          .collectiveResponseCb [.success] true,
          .request (.removeGeofences [10]) ⟨0, 0, none⟩ true true,
          .collectiveResponseCb [.success] true]) :=
  geofence_map_sound .standalone _ (by decide +kernel)

/-- A pause that fails erases the entry of a geofence that `LocationAPI` holds. -/
theorem geofence_map_unsound :
    ¬Throughout (step .standalone) (fun s => ∀ h ∈ s.client, MapSound h s.hal) .init
      (registerAndAdd [10] [5] ++
        [.collectiveResponseCb [.success] true,
          .request (.pauseGeofences [10]) ⟨0, 0, none⟩ true true,
          .collectiveResponseCb [.timeout] true]) := by
  intro hall
  have hlast := hall.last
  have hkeys : ∀ h ∈ (run (step .standalone) .init (registerAndAdd [10] [5] ++
      [.collectiveResponseCb [.success] true,
        .request (.pauseGeofences [10]) ⟨0, 0, none⟩ true true,
        .collectiveResponseCb [.timeout] true])).client, 10 ∈ h.mGfIdsMap :=
    fun h hh => ((hlast h hh).keys 10).mpr (by decide +kernel)
  exact absurd hkeys (by decide +kernel)

end LocationStack.Daemon
