import LocationStack.Daemon.HeldGeofences
import LocationStack.Daemon.Messages

/-! # What a step does to the geofences of a client

A step of the daemon leaves the client's handler its `LocationAPI` and its sender, or no handler
at all.  No client id gets into the map that the client did not name, and no geofence into the
account of `LocationAPI` that an add did not name.  With that, what the map finds is kept over
steps: of a handler that has a sender, for without one nothing is answered and nothing told.
-/
namespace LocationStack.Daemon

open Ipc

/-! ## What a handler becomes -/

/-- A handler with the same `LocationAPI` and the same sender, and with no client ids in its map
but those of `ids` besides. -/
structure Succeeds (ids : List UInt32) (h h' : LocHalDaemonClientHandler) : Prop where
  api : h'.mLocationApi = h.mLocationApi
  sender : h'.mIpcSender = h.mIpcSender
  keys : ∀ id ∈ h'.mGfIdsMap, id ∈ h.mGfIdsMap ∨ id ∈ ids

namespace Succeeds

variable {h h' : LocHalDaemonClientHandler} {ids : List UInt32}

theorem of_map (happ : h'.mLocationApi = h.mLocationApi)
    (hsender : h'.mIpcSender = h.mIpcSender) (hmap : h'.mGfIdsMap = h.mGfIdsMap) :
    Succeeds ids h h' :=
  ⟨happ, hsender, fun _ hid => .inl (hmap ▸ hid)⟩

theorem onGeofences (ids : List UInt32) (id : ELocMsgID)
    (call : LocHalDaemonClientHandler → List UInt32 → List Action)
    (h : LocHalDaemonClientHandler) :
    Succeeds ids h (LocationApiService.onGeofences ids id call h).1 := by
  unfold LocationApiService.onGeofences LocHalDaemonClientHandler.getSessionIds
  by_cases hids : ids.isEmpty
  · rw [if_pos hids]
    exact of_map rfl rfl rfl
  · rw [if_neg hids]
    refine ⟨rfl, rfl, fun id' hid => ?_⟩
    obtain ⟨session, hsession⟩ := (mem_map_iff _ id').mp hid
    rcases readGfIds_lookup h.mGfIdsMap ids id' with hsame | ⟨-, hmem, -⟩
    · exact .inl ((mem_map_iff _ id').mpr ⟨session, hsame.symm.trans hsession⟩)
    · exact .inr hmem

theorem addGeofences (geofences : List GeofencePayload) (ret : Option (List UInt32))
    (h : LocHalDaemonClientHandler) :
    Succeeds (geofences.map GeofencePayload.gfClientId) h
      (LocationApiService.addGeofences geofences ret h).1 := by
  have hmap : (h.addGeofences (geofences.map GeofencePayload.gfOption)
      (geofences.map GeofencePayload.gfInfo) ret).1.mGfIdsMap = h.mGfIdsMap ∧
      (h.addGeofences (geofences.map GeofencePayload.gfOption)
        (geofences.map GeofencePayload.gfInfo) ret).1.mLocationApi = h.mLocationApi ∧
      (h.addGeofences (geofences.map GeofencePayload.gfOption)
        (geofences.map GeofencePayload.gfInfo) ret).1.mIpcSender = h.mIpcSender := by
    unfold LocHalDaemonClientHandler.addGeofences
    split <;> exact ⟨rfl, rfl, rfl⟩
  obtain ⟨hmap, happ, hsender⟩ := hmap
  unfold LocationApiService.addGeofences
  split
  · exact of_map rfl rfl rfl
  · dsimp only
    split
    · exact of_map happ hsender hmap
    · rename_i sessions _
      refine ⟨happ, hsender, fun id hid => ?_⟩
      obtain ⟨session, hsession⟩ := (mem_map_iff _ id).mp hid
      by_cases hmem : id ∈ ((geofences.map GeofencePayload.gfClientId).zip sessions).map Prod.fst
      · obtain ⟨g, hg, rfl⟩ := List.mem_map.mp hmem
        exact .inr (List.of_mem_zip hg).1
      · left
        have hold := IdMap.lookup_insertAll_of_notMem (h.addGeofences
          (geofences.map GeofencePayload.gfOption) (geofences.map GeofencePayload.gfInfo)
          ret).1.mGfIdsMap hmem
        exact (mem_map_iff _ id).mpr ⟨session, hmap ▸ hold.symm.trans hsession⟩

theorem stopTracking (h : LocHalDaemonClientHandler) (clientExpectingResp : Bool) :
    Succeeds ids h (h.stopTracking clientExpectingResp).1 := by
  unfold LocHalDaemonClientHandler.stopTracking
  split <;> exact of_map rfl rfl rfl

end Succeeds

/-- What a request makes of a handler. -/
theorem processClientMsg_succeeds (mPositionMode : GnssSuplMode) (h : LocHalDaemonClientHandler)
    (msg : ReqMsg) (ret : HalReturns) (mIpcSender rc : Bool) :
    ∀ h' ∈ (LocationApiService.processClientMsg mPositionMode (some h) msg ret mIpcSender rc).1,
      Succeeds (namedIds msg) h h' := by
  intro h' hh'
  cases msg with
  | clientRegister clientType =>
    obtain ⟨rfl, -⟩ := h.sendCapabilitiesMsg_some rc hh'
    exact .of_map rfl rfl rfl
  | clientDeregister =>
    exact absurd hh' (by
      simp [LocationApiService.processClientMsg, LocationApiService.deleteClient])
  | addGeofences geofences =>
    cases Option.some.inj hh'
    exact .addGeofences geofences _ h
  | removeGeofences ids =>
    cases Option.some.inj hh'
    exact .onGeofences ids _ _ h
  | modifyGeofences geofences =>
    cases Option.some.inj hh'
    unfold LocationApiService.modifyGeofences
    split
    · exact .of_map rfl rfl rfl
    · exact .onGeofences _ _ _ h
  | pauseGeofences ids =>
    cases Option.some.inj hh'
    exact .onGeofences ids _ _ h
  | resumeGeofences ids =>
    cases Option.some.inj hh'
    exact .onGeofences ids _ _ h
  | stopTracking clear =>
    cases Option.some.inj hh'
    cases clear with
    | true =>
      obtain ⟨happ, hsender, hkeys⟩ :=
        @Succeeds.stopTracking (namedIds (.stopTracking true)) h.unsubscribeLocationSessionCb.1
          false
      exact ⟨happ, hsender, hkeys⟩
    | false => exact .stopTracking h true
  | startBatching interval distance mode =>
    cases Option.some.inj hh'
    unfold LocationApiService.startBatching LocHalDaemonClientHandler.startBatching
    dsimp only
    split <;> split <;> exact .of_map rfl rfl rfl
  | updateCallbacks mask =>
    cases Option.some.inj hh'
    exact .of_map rfl rfl rfl
  | startTracking options =>
    cases Option.some.inj hh'
    unfold LocationApiService.startTracking LocHalDaemonClientHandler.startTracking
    split <;> exact .of_map rfl rfl rfl
  | updateTrackingOptions options =>
    cases Option.some.inj hh'
    unfold LocationApiService.updateTrackingOptions
      LocHalDaemonClientHandler.updateTrackingOptions
    dsimp only
    split <;> exact .of_map rfl rfl rfl
  | stopBatching =>
    cases Option.some.inj hh'
    unfold LocationApiService.stopBatching LocHalDaemonClientHandler.stopBatching
    dsimp only
    split <;> exact .of_map rfl rfl rfl
  | updateBatchingOptions interval distance mode =>
    cases Option.some.inj hh'
    unfold LocationApiService.updateBatchingOptions
      LocHalDaemonClientHandler.updateBatchingOptions
    dsimp only
    split <;> exact .of_map rfl rfl rfl

theorem eraseGeofenceIds_succeeds (h : LocHalDaemonClientHandler) (clientIds ids : List UInt32) :
    Succeeds ids h (h.eraseGeofenceIds clientIds) := by
  refine ⟨rfl, rfl, fun id hid => .inl ?_⟩
  obtain ⟨session, hsession⟩ := (mem_map_iff _ id).mp hid
  replace hsession : (IdMap.eraseAll h.mGfIdsMap clientIds).lookup id = some session := hsession
  rw [IdMap.lookup_eraseAll] at hsession
  split at hsession
  · exact absurd hsession (by simp)
  · exact (mem_map_iff _ id).mpr ⟨session, hsession⟩

theorem Succeeds.trans {h h' h'' : LocHalDaemonClientHandler} {ids : List UInt32}
    (hh : Succeeds ids h h') (hh' : Succeeds ids h' h'') : Succeeds ids h h'' :=
  ⟨hh'.api.trans hh.api, hh'.sender.trans hh.sender, fun id hid =>
    (hh'.keys id hid).elim (hh.keys id) .inr⟩

theorem onCollectiveResponseCallback_succeeds (h : LocHalDaemonClientHandler)
    (resp : List (UInt32 × LocationError)) (rc : Bool) {h' : LocHalDaemonClientHandler}
    (hh' : h' ∈ (h.onCollectiveResponseCallback resp rc).1) : Succeeds [] h h' := by
  have hpop : Succeeds [] h ({ h with
      mGfPendingMessages := h.mGfPendingMessages.tail } : LocHalDaemonClientHandler) :=
    .of_map rfl rfl rfl
  unfold LocHalDaemonClientHandler.onCollectiveResponseCallback at hh'
  split at hh'
  · dsimp only at hh'
    split at hh'
    · cases Option.some.inj hh'
      exact hpop
    · split at hh'
      · rw [(LocHalDaemonClientHandler.sendMessage_some _ rc hh').1]
        refine .trans ?_ (eraseGeofenceIds_succeeds _ _ [])
        split
        · exact hpop.trans (eraseGeofenceIds_succeeds _ _ [])
        · exact hpop
      · cases Option.some.inj hh'
        exact hpop
  · cases Option.some.inj hh'
    exact .of_map rfl rfl rfl

/-- What a callback makes of the handler, if it leaves one. -/
theorem callback_succeeds (mPositionMode : GnssSuplMode) {s : State}
    {h : LocHalDaemonClientHandler} (hc : s.client = some h) {e : Event} (he : isCallback e) :
    ∀ h' ∈ (stepActs mPositionMode s e).1.client, Succeeds [] h h' := by
  obtain ⟨client, hal, answered⟩ := s
  cases (hc : client = some h)
  have hsame : ∀ h' ∈ some h, Succeeds [] h h' := by
    intro h' hh'
    cases Option.some.inj hh'
    exact .of_map rfl rfl rfl
  intro h' hh'
  cases e with
  | request msg ret mIpcSender rc => exact absurd he (by simp [isCallback])
  | autoStart tbf ret mIpcSender => exact absurd he (by simp [isCallback])
  | capabilitiesCb mask rc =>
    rw [h.onCapabilitiesCallback_some mask rc hh']
    exact .of_map rfl rfl rfl
  | responseCb err rc =>
    simp only [stepActs] at hh'
    cases hcalls : hal.sessionCalls with
    | nil => exact hsame h' (by simpa only [hcalls] using hh')
    | cons call calls =>
      simp only [hcalls] at hh'
      cases hsend : h.mIpcSender with
      | true =>
        rw [h.onResponseCb_some err rc hsend hh']
        exact .of_map rfl rfl rfl
      | false =>
        rw [State.settle_client, h.onResponseCb_no_sender err rc hsend] at hh'
        exact hsame h' hh'
  | collectiveResponseCb errs rc =>
    simp only [stepActs] at hh'
    cases hcalls : hal.collectiveCalls with
    | nil => exact hsame h' (by simpa only [hcalls] using hh')
    | cons call calls =>
      simp only [hcalls] at hh'
      split at hh'
      · exact onCollectiveResponseCallback_succeeds h _ rc hh'
      · exact hsame h' hh'
  | geofenceBreachCb ids rc =>
    simp only [stepActs] at hh'
    split at hh'
    · rw [h.onGeofenceBreachCb_some ids rc hh']
      exact .of_map rfl rfl rfl
    · exact hsame h' hh'

/-! ## What LocationAPI holds then -/

@[simp] theorem added_nil (call : HalCall) : HalState.added [] call = [] := by
  cases call with
  | addGeofences options info ids => cases ids <;> rfl
  | _ => rfl

theorem record_held_of_nil (hal : HalState) (acts : List Action) :
    (hal.record [] acts).held = hal.held := by
  simp [HalState.record]

/-- An add makes one call at most. -/
theorem addGeofences_acts (geofences : List GeofencePayload) (ret : Option (List UInt32))
    (h : LocHalDaemonClientHandler) :
    (LocationApiService.addGeofences geofences ret h).2 = [] ∨
      ∃ options info, (LocationApiService.addGeofences geofences ret h).2 =
        [.hal (.addGeofences options info ret)] := by
  unfold LocationApiService.addGeofences LocHalDaemonClientHandler.addGeofences
  split
  · exact .inl rfl
  · dsimp only
    split <;> split
    · exact .inr ⟨_, _, rfl⟩
    · exact .inl rfl
    · exact .inr ⟨_, _, rfl⟩
    · exact .inl rfl

/-- A request adds no geofence that it does not name. -/
theorem held_processClientMsg (mPositionMode : GnssSuplMode) (client : Entry) (hal : HalState)
    {msg : ReqMsg} {ret : HalReturns} (hret : hal.MayAnswer ret msg) (mIpcSender rc : Bool) :
    ((hal.record (addedIds msg) (LocationApiService.processClientMsg mPositionMode client msg ret
      mIpcSender rc).2).held.map Prod.fst).Sublist (hal.held.map Prod.fst ++ addedIds msg) := by
  by_cases hadd : ∃ geofences, msg = .addGeofences geofences
  · obtain ⟨geofences, rfl⟩ := hadd
    have hnone : ((hal.record (addedIds (.addGeofences geofences)) []).held.map
        Prod.fst).Sublist (hal.held.map Prod.fst ++ addedIds (.addGeofences geofences)) := by
      simp [HalState.record, HalState.calls]
    cases client with
    | none => exact hnone
    | some h =>
      rw [LocationApiService.processClientMsg, LocationApiService.withClient]
      rcases addGeofences_acts geofences ret.addGeofences h with hacts | ⟨options, info, hacts⟩
      · rw [hacts]
        exact hnone
      · rw [hacts]
        cases hids : ret.addGeofences with
        | none => simp [HalState.record, HalState.calls, HalState.added]
        | some ids =>
          have hlen : (addedIds (.addGeofences geofences)).length = ids.length := by
            rw [addedIds, List.length_map]
            exact (hret ids hids).1.symm
          rw [record_added, List.map_append, List.map_fst_zip (Nat.le_of_eq hlen)]
  · have hids : addedIds msg = [] := by
      cases msg with
      | addGeofences geofences => exact absurd ⟨geofences, rfl⟩ hadd
      | _ => rfl
    rw [hids, record_held_of_nil, List.append_nil]

/-- A client that is gone has no geofence. -/
theorem State.settle_held (client : Entry) (hal : HalState)
    (answered : List (ELocMsgID × Option ELocMsgID)) :
    (State.settle client hal answered).hal.held.Sublist hal.held := by
  cases client with
  | none => exact List.nil_sublist _
  | some h => exact List.Sublist.refl _

/-- No callback adds a geofence. -/
theorem held_callback (mPositionMode : GnssSuplMode) (s : State) {e : Event}
    (he : isCallback e) : (stepActs mPositionMode s e).1.hal.held.Sublist s.hal.held := by
  cases e with
  | request msg ret mIpcSender rc => exact absurd he (by simp [isCallback])
  | autoStart tbf ret mIpcSender => exact absurd he (by simp [isCallback])
  | capabilitiesCb mask rc =>
    simp only [stepActs]
    split
    · exact List.Sublist.refl _
    · exact State.settle_held _ _ _
  | responseCb err rc =>
    simp only [stepActs]
    split
    · exact State.settle_held _ _ _
    · exact List.Sublist.refl _
  | collectiveResponseCb errs rc =>
    simp only [stepActs]
    split
    · split
      · exact (State.settle_held _ _ _).trans List.filter_sublist
      · exact List.Sublist.refl _
    · exact List.Sublist.refl _
  | geofenceBreachCb ids rc =>
    simp only [stepActs]
    split
    · exact List.Sublist.refl _
    · split
      · exact State.settle_held _ _ _
      · exact List.Sublist.refl _

/-! ## Steps -/

/-- The client has a `LocationAPI`, and what it holds is found in the map. -/
structure Holding (s : State) : Prop where
  settled : Settled s
  api : ∀ h ∈ s.client, h.mLocationApi = true
  tracks : ∀ h ∈ s.client, h.mIpcSender → Tracks h s.hal

theorem init_holding : Holding .init where
  settled := init_settled
  api := fun _ hh => absurd hh (by simp [State.init])
  tracks := fun _ hh => absurd hh (by simp [State.init])

theorem Tracks.settle {client : Entry} {hal : HalState}
    {answered : List (ELocMsgID × Option ELocMsgID)} {h : LocHalDaemonClientHandler}
    (hh : h ∈ client) (ht : Tracks h hal) : Tracks h (State.settle client hal answered).hal := by
  rw [Option.mem_def] at hh
  subst hh
  exact ht

/-- A request keeps the geofences, if an add names such as are not held. -/
theorem Holding.request {s : State} (hs : Holding s) (mPositionMode : GnssSuplMode)
    {msg : ReqMsg} (htype : ∀ clientType, msg = .clientRegister clientType →
      clientType = .locationClientApi)
    (hnew : AddsNew s.hal msg) (ret : HalReturns) (mIpcSender rc : Bool) :
    Holding (stepActs mPositionMode s (.request msg ret mIpcSender rc)).1 := by
  have hsettled := step_settled mPositionMode s (.request msg ret mIpcSender rc) hs.settled
  rw [step] at hsettled
  by_cases hret : s.hal.MayAnswer ret msg
  · rw [stepActs_request mPositionMode hret mIpcSender rc] at hsettled ⊢
    cases hc : s.client with
    | none =>
      by_cases hreg : ∃ clientType, msg = .clientRegister clientType
      · obtain ⟨clientType, rfl⟩ := hreg
        obtain rfl := htype clientType rfl
        rw [hc] at hsettled
        refine ⟨hsettled, fun h hh => ?_, fun h hh _ => ?_⟩
        · cases Option.some.inj hh
          rfl
        · cases Option.some.inj hh
          have hhal : s.hal = .empty := hs.settled hc
          rw [hhal]
          exact new_tracks .locationClientApi mIpcSender
      · have hnone := LocationApiService.processClientMsg_none mPositionMode
          (fun t heq => hreg ⟨t, heq⟩) ret mIpcSender rc
        rw [hc] at hsettled
        refine ⟨hsettled, fun h hh => ?_, fun h hh _ => ?_⟩
        · rw [hnone] at hh
          exact absurd hh (by simp)
        · rw [hnone] at hh
          exact absurd hh (by simp)
    | some h =>
      rw [hc] at hsettled
      have happ := hs.api h hc
      have hsucceeds := processClientMsg_succeeds mPositionMode h msg ret mIpcSender rc
      refine ⟨hsettled, fun h' hh' => ?_, fun h' hh' hsender => ?_⟩
      · exact (hsucceeds h' hh').api.trans happ
      · have hsender' := (hsucceeds h' hh').sender
        have htracks := hs.tracks h hc (hsender' ▸ hsender)
        exact .settle hh'
          (htracks.processClientMsg happ mPositionMode hret hnew mIpcSender rc h' hh')
  · rw [stepActs, if_neg hret]
    exact hs

/-- A response that reports no failure of a geofence that is held and stays, or that is not
told. -/
def AnswersKeeping (s : State) (e : Event) : Prop :=
  ∀ errs, e = .collectiveResponseCb errs true → ∀ h ∈ s.client, h.mIpcSender →
    ∀ call ∈ s.hal.collectiveCalls.head?, errs.length = call.2.length →
      FailsNoneHeld s.hal call.1 (call.2.zip errs)

/-- What the geofences do not use may change. -/
theorem Tracks.congr {h h' : LocHalDaemonClientHandler} {hal : HalState} (ht : Tracks h hal)
    (hmap : h'.mGfIdsMap = h.mGfIdsMap)
    (hpend : h'.mGfPendingMessages = h.mGfPendingMessages) (calls : List ELocMsgID) :
    Tracks h' { hal with sessionCalls := calls } :=
  { pending := hpend.trans ht.pending
    labels := ht.labels
    adds := ht.adds
    lookup := by rw [hmap]; exact ht.lookup
    entries := by rw [hmap]; exact ht.entries
    distinct := ht.distinct
    nonzero := ht.nonzero }

/-- A handler that survives a response that cannot be sent had none to send. -/
theorem Tracks.eq_nil_of_survives {h h' : LocHalDaemonClientHandler} {hal : HalState}
    (ht : Tracks h hal) {label : ELocMsgID} {ids : List UInt32}
    {calls : List (ELocMsgID × List UInt32)} (hcalls : hal.collectiveCalls = (label, ids) :: calls)
    (hsender : h.mIpcSender = true) {resp : List (UInt32 × LocationError)}
    (hh' : h' ∈ (h.onCollectiveResponseCallback resp false).1) : resp = [] := by
  have hpend : h.mGfPendingMessages = label :: calls.map Prod.fst := by
    rw [ht.pending, hcalls, List.map_cons]
  have hlabel := ht.labels (label, ids) (by rw [hcalls]; exact List.mem_cons_self)
  by_contra hne
  have hids := LocHalDaemonClientHandler.getClientIds_eq
    { h with mGfPendingMessages := h.mGfPendingMessages.tail }
    (show resp.map Prod.fst ≠ [] by simpa using hne)
  unfold LocHalDaemonClientHandler.onCollectiveResponseCallback at hh'
  rw [if_pos hsender, hpend] at hh'
  dsimp only [List.head?_cons, Option.getD_some] at hh'
  rw [hpend] at hids
  rw [hids] at hh'
  dsimp only at hh'
  rw [if_pos hlabel] at hh'
  exact absurd hh' (by simp [LocHalDaemonClientHandler.sendMessage])

/-- A callback keeps the geofences, if it is no response that fails for one that stays. -/
theorem Holding.callback {s : State} (hs : Holding s) (mPositionMode : GnssSuplMode) {e : Event}
    (he : isCallback e) (hids : ∀ g ∈ s.hal.held, g.1 ≠ 0) (hkeeps : AnswersKeeping s e) :
    Holding (stepActs mPositionMode s e).1 := by
  cases hc : s.client with
  | none =>
    rw [callback_none mPositionMode hc he]
    exact hs
  | some h =>
    have hsucceeds := callback_succeeds mPositionMode hc he
    refine ⟨step_settled mPositionMode s e hs.settled, fun h' hh' => ?_, fun h' hh' hsender => ?_⟩
    · exact (hsucceeds h' hh').api.trans (hs.api h hc)
    have hsender' : h.mIpcSender = true := (hsucceeds h' hh').sender ▸ hsender
    have ht := hs.tracks h hc hsender'
    obtain ⟨client, hal, answered⟩ := s
    cases (hc : client = some h)
    cases e with
    | request msg ret mIpcSender rc => exact absurd he (by simp [isCallback])
    | autoStart tbf ret mIpcSender => exact absurd he (by simp [isCallback])
    | capabilitiesCb mask rc =>
      refine .settle hh' ?_
      rw [h.onCapabilitiesCallback_some mask rc hh']
      refine ht.congr ?_ ?_ hal.sessionCalls <;> rfl
    | responseCb err rc =>
      simp only [stepActs] at hh' ⊢
      cases hcalls : hal.sessionCalls with
      | nil =>
        simp only [hcalls] at hh' ⊢
        cases Option.some.inj hh'
        exact ht
      | cons call calls =>
        simp only [hcalls] at hh' ⊢
        refine .settle hh' ?_
        rw [h.onResponseCb_some err rc hsender' hh']
        refine ht.congr ?_ ?_ calls <;> rfl
    | collectiveResponseCb errs rc =>
      simp only [stepActs] at hh' ⊢
      cases hcalls : hal.collectiveCalls with
      | nil =>
        simp only [hcalls] at hh' ⊢
        cases Option.some.inj hh'
        exact ht
      | cons call calls =>
        obtain ⟨label, ids⟩ := call
        simp only [hcalls] at hh' ⊢
        split at hh'
        · rename_i hlen
          rw [if_pos hlen]
          refine .settle hh' ?_
          cases rc with
          | true =>
            have hfails := hkeeps errs rfl h rfl hsender' (label, ids) (by simp [hcalls]) hlen
            exact ht.response hids hcalls hsender' hfails true h' hh'
          | false =>
            -- the response is empty, for a handler that cannot send one is gone
            have hempty := ht.eq_nil_of_survives hcalls hsender' hh'
            have hfails : FailsNoneHeld hal label (ids.zip errs) := by
              rw [hempty]
              exact fun r hr => absurd hr List.not_mem_nil
            exact ht.response hids hcalls hsender' hfails false h' hh'
        · rw [if_neg ‹_›]
          cases Option.some.inj hh'
          exact ht
    | geofenceBreachCb ids rc =>
      simp only [stepActs] at hh' ⊢
      split at hh'
      · rw [if_pos ‹_›]
        refine .settle hh' ?_
        rw [h.onGeofenceBreachCb_some ids rc hh']
        exact ht
      · rw [if_neg ‹_›]
        cases Option.some.inj hh'
        exact ht

end LocationStack.Daemon
