import LocationStack.Daemon.GeofenceMap

/-! # The geofences that LocationAPI holds

For a breach to be told under the right id it is enough that the map of the daemon finds each
geofence that `LocationAPI` holds.  This is less than the agreement of the two: a request for a
geofence that the daemon does not know leaves an entry with session 0, which no geofence has,
and a response may fail for a geofence that is gone.

What is kept so is `Tracks`.  An add has to name geofences that are not held, and a response
must not report a failure of one that is and stays.
-/
namespace LocationStack.Daemon

open Ipc

/-- The map has each geofence of `LocationAPI` under its client id and nothing else but entries
with session 0, which no add is about, and the pending ids are the unanswered collective
requests. -/
structure Tracks (h : LocHalDaemonClientHandler) (hal : HalState) : Prop where
  pending : h.mGfPendingMessages = hal.collectiveCalls.map Prod.fst
  labels : ∀ call ∈ hal.collectiveCalls,
    LocHalDaemonClientHandler.collectiveRespondsTo call.1
  adds : ∀ call ∈ hal.collectiveCalls, call.1 = .addGeofences → 0 ∉ call.2
  lookup : ∀ g ∈ hal.held, h.mGfIdsMap.lookup g.1 = some g.2
  entries : ∀ id session, h.mGfIdsMap.lookup id = some session →
    session = 0 ∨ (id, session) ∈ hal.held
  distinct : (hal.held.map Prod.snd).Nodup
  nonzero : ∀ g ∈ hal.held, g.2 ≠ 0

theorem new_tracks (mClientType : ClientType) (mIpcSender : Bool) :
    Tracks (.new mClientType mIpcSender) .empty where
  pending := rfl
  labels := by simp [HalState.empty]
  adds := by simp [HalState.empty]
  lookup := by simp [HalState.empty]
  entries := by simp [LocHalDaemonClientHandler.new]
  distinct := by simp [HalState.empty]
  nonzero := by simp [HalState.empty]

section Tracks

variable {h : LocHalDaemonClientHandler} {hal : HalState}

/-- A geofence that is held is found by its session. -/
theorem Tracks.keyOf (ht : Tracks h hal) {g : UInt32 × UInt32} (hg : g ∈ hal.held) :
    IdMap.keyOf h.mGfIdsMap g.2 0 = g.1 := by
  rcases IdMap.keyOf_cases h.mGfIdsMap g.2 0 with ⟨_, hnone⟩ | hkey
  · exact absurd (ht.lookup g hg) (hnone g.1)
  · rcases ht.entries _ _ hkey with hzero | hheld
    · exact absurd hzero (ht.nonzero g hg)
    · exact congrArg Prod.fst (eq_of_held_session ht.distinct hheld hg rfl)

/-- **Breaches.**  The sessions of a breach that `LocationAPI` may report are translated to the
client ids they were added under. -/
theorem Tracks.translates (ht : Tracks h hal) {ids : List UInt32} (hids : ids.all hal.holds) :
    List.Forall₂ (fun id session => (id, session) ∈ hal.held)
      (ids.map fun session => IdMap.keyOf h.mGfIdsMap session 0) ids := by
  rw [List.forall₂_map_left_iff, List.forall₂_same]
  intro session hsession
  have hholds := (hal.holds_iff session).mp (List.all_eq_true.mp hids session hsession)
  obtain ⟨g, hg, rfl⟩ := List.mem_map.mp hholds
  rw [ht.keyOf hg]
  exact hg

/-! ## Requests -/

/-- What the geofences do not use may change. -/
theorem Tracks.quiet (ht : Tracks h hal) {r : LocHalDaemonClientHandler × List Action}
    (hq : GfQuiet h r) (clientIds : List UInt32) :
    Tracks r.1 (hal.record clientIds r.2) := by
  have hcalls : (HalState.calls r.2).filterMap HalCall.collectiveFor = [] :=
    List.filterMap_eq_nil_iff.mpr hq.calls
  have hadded : (HalState.calls r.2).flatMap (HalState.added clientIds) = [] :=
    List.flatMap_eq_nil_iff.mpr fun call hmem =>
      added_of_not_collective (hq.calls call hmem) clientIds
  exact
    { pending := by rw [hq.pending, HalState.record, hcalls, List.append_nil, ht.pending]
      labels := by rw [HalState.record, hcalls, List.append_nil]; exact ht.labels
      adds := by rw [HalState.record, hcalls, List.append_nil]; exact ht.adds
      lookup := by rw [hq.map, HalState.record, hadded, List.append_nil]; exact ht.lookup
      entries := by rw [hq.map, HalState.record, hadded, List.append_nil]; exact ht.entries
      distinct := by rw [HalState.record, hadded, List.append_nil]; exact ht.distinct
      nonzero := by rw [HalState.record, hadded, List.append_nil]; exact ht.nonzero }

/-- Reading ids leaves what is there, and adds entries with session 0 under some of them. -/
theorem readGfIds_lookup (m : GfIdsMap) (ids : List UInt32) (id : UInt32) :
    (LocHalDaemonClientHandler.readGfIds m ids).2.lookup id = m.lookup id ∨
      m.lookup id = none ∧ id ∈ ids ∧
        (LocHalDaemonClientHandler.readGfIds m ids).2.lookup id = some 0 := by
  induction ids generalizing m with
  | nil => exact .inl rfl
  | cons id' ids ih =>
    rw [LocHalDaemonClientHandler.readGfIds]
    cases hm : m.lookup id' with
    | some session =>
      rcases ih m with hsame | ⟨hnone, hmem, hzero⟩
      · exact .inl hsame
      · exact .inr ⟨hnone, List.mem_cons_of_mem id' hmem, hzero⟩
    | none =>
      by_cases hid : id = id'
      · -- the entry that was put there stays
        subst hid
        right
        refine ⟨hm, List.mem_cons_self, ?_⟩
        rcases ih (m.insert id 0) with hsame | ⟨hnone, -, -⟩
        · exact hsame.trans (AList.lookup_insert m)
        · rw [AList.lookup_insert] at hnone
          exact absurd hnone (by simp)
      · have hlookup : (m.insert id' 0).lookup id = m.lookup id := AList.lookup_insert_ne hid
        rcases ih (m.insert id' 0) with hsame | ⟨hnone, hmem, hzero⟩
        · exact .inl (hsame.trans hlookup)
        · exact .inr ⟨hlookup ▸ hnone, List.mem_cons_of_mem id' hmem, hzero⟩

/-- A request for geofences, of which the daemon may know some or none: `LocationAPI` owes one
more answer, and no geofence is lost. -/
theorem Tracks.request (ht : Tracks h hal) (happ : h.mLocationApi = true) (ids : List UInt32)
    {label : ELocMsgID} (hlabel : LocHalDaemonClientHandler.collectiveRespondsTo label)
    (hadd : label ≠ .addGeofences) (call : List UInt32 → HalCall)
    (hcall : ∀ sessions, (call sessions).collectiveFor = some (label, sessions))
    (hadded : ∀ sessions, HalState.added [] (call sessions) = []) :
    Tracks
      (LocationApiService.onGeofences ids label
        (fun h sessions => h.callGeofences sessions (call sessions)) h).1
      (hal.record []
        (LocationApiService.onGeofences ids label
          (fun h sessions => h.callGeofences sessions (call sessions)) h).2) := by
  cases ids with
  | nil =>
    simpa [LocationApiService.onGeofences, LocHalDaemonClientHandler.getSessionIds] using
      ht.quiet (.refl h) []
  | cons id ids =>
    set read := LocHalDaemonClientHandler.readGfIds h.mGfIdsMap (id :: ids) with hread
    have hlookup := readGfIds_lookup h.mGfIdsMap (id :: ids)
    have hne : read.1 ≠ [] := by
      rw [hread, LocHalDaemonClientHandler.readGfIds]
      split <;> simp
    have hres : LocationApiService.onGeofences (id :: ids) label
        (fun h sessions => h.callGeofences sessions (call sessions)) h =
          (({ h with mGfIdsMap := read.2 } : LocHalDaemonClientHandler).pushGfPending label,
            [.hal (call read.1)]) := by
      have hget : h.getSessionIds (id :: ids) =
          (some read.1, { h with mGfIdsMap := read.2 }) := by
        rw [LocHalDaemonClientHandler.getSessionIds, if_neg (by simp)]
      rw [LocationApiService.onGeofences, hget]
      simp [LocHalDaemonClientHandler.callGeofences, hne, happ]
    rw [hres]
    exact
      { pending := by
          simp [LocHalDaemonClientHandler.pushGfPending, HalState.record, HalState.calls,
            hcall, ht.pending]
        labels := by
          intro c hc
          simp only [HalState.record, HalState.calls, List.filterMap_cons, List.filterMap_nil,
            hcall, List.mem_append, List.mem_singleton] at hc
          rcases hc with hc | rfl
          · exact ht.labels c hc
          · exact hlabel
        adds := by
          intro c hc
          simp only [HalState.record, HalState.calls, List.filterMap_cons, List.filterMap_nil,
            hcall, List.mem_append, List.mem_singleton] at hc
          rcases hc with hc | rfl
          · exact ht.adds c hc
          · exact fun h => absurd h hadd
        lookup := by
          intro g hg
          simp only [HalState.record, HalState.calls, List.filterMap_cons, List.filterMap_nil,
            List.flatMap_cons, List.flatMap_nil, hadded, List.append_nil] at hg
          have hold := ht.lookup g hg
          rcases hlookup g.1 with hsame | ⟨hnone, -, -⟩
          · exact hsame.trans hold
          · rw [hold] at hnone
            exact absurd hnone (by simp)
        entries := by
          intro id' session hid
          simp only [HalState.record, HalState.calls, List.filterMap_cons, List.filterMap_nil,
            List.flatMap_cons, List.flatMap_nil, hadded, List.append_nil]
          replace hid : read.2.lookup id' = some session := hid
          rcases hlookup id' with hsame | ⟨-, -, hzero⟩
          · exact ht.entries id' session (hsame.symm.trans hid)
          · exact .inl (Option.some.inj (hid.symm.trans hzero))
        distinct := by simpa [HalState.record, HalState.calls, hadded] using ht.distinct
        nonzero := by simpa [HalState.record, HalState.calls, hadded] using ht.nonzero }

/-- An add that `LocationAPI` accepts, of geofences that it does not hold. -/
theorem Tracks.added (ht : Tracks h hal) {clientIds ids : List UInt32}
    (hret : hal.MayReturn clientIds.length (some ids)) (hdistinct : clientIds.Nodup)
    (hnew : ∀ g ∈ hal.held, g.1 ∉ clientIds)
    (options : List GeofenceOption) (info : List GeofenceInfo) :
    Tracks
      ((({ h with mGeofenceIds := some ids } : LocHalDaemonClientHandler).setGeofenceIds
        clientIds ids).pushGfPending .addGeofences)
      (hal.record clientIds [.hal (.addGeofences options info (some ids))]) := by
  obtain ⟨hlen, hnd, hzero, hfree⟩ := hret ids rfl
  simp only [List.all_eq_true, Bool.not_eq_true', ← Bool.not_eq_true,
    HalState.holds_iff] at hfree
  have hfst : (clientIds.zip ids).map Prod.fst = clientIds :=
    List.map_fst_zip (Nat.le_of_eq hlen.symm)
  have hsnd : (clientIds.zip ids).map Prod.snd = ids :=
    List.map_snd_zip (Nat.le_of_eq hlen)
  have hdistinct' : ((clientIds.zip ids).map Prod.fst).Nodup := by
    rw [hfst]
    exact hdistinct
  rw [record_added]
  exact
    { pending := by
        simp [LocHalDaemonClientHandler.pushGfPending,
          LocHalDaemonClientHandler.setGeofenceIds, ht.pending]
      labels := by
        intro c hc
        rcases List.mem_append.mp hc with hc | hc
        · exact ht.labels c hc
        · rw [List.mem_singleton.mp hc]
          rfl
      adds := by
        intro c hc
        rcases List.mem_append.mp hc with hc | hc
        · exact ht.adds c hc
        · rw [List.mem_singleton.mp hc]
          exact fun _ => hzero
      lookup := by
        intro g hg
        refine (IdMap.lookup_insertAll_iff h.mGfIdsMap hdistinct').mpr ?_
        rw [hfst]
        rcases List.mem_append.mp hg with hg | hg
        · exact .inr ⟨hnew g hg, ht.lookup g hg⟩
        · exact .inl hg
      entries := by
        intro id session hid
        rcases (IdMap.lookup_insertAll_iff h.mGfIdsMap hdistinct').mp hid with hz | ⟨-, hl⟩
        · exact .inr (List.mem_append_right _ hz)
        · exact (ht.entries id session hl).imp_right (List.mem_append_left _)
      distinct := by
        rw [List.map_append, hsnd, List.nodup_append]
        exact ⟨ht.distinct, hnd, fun a hmem b hb hab => hfree b hb (hab ▸ hmem)⟩
      nonzero := by
        intro g hg
        rcases List.mem_append.mp hg with hg | hg
        · exact ht.nonzero g hg
        · intro h0
          have hmem : g.2 ∈ ids := by
            rw [← hsnd]
            exact List.mem_map_of_mem hg
          exact hzero (h0 ▸ hmem) }

/-- The client ids that a request names. -/
def namedIds : ReqMsg → List UInt32
  | .addGeofences geofences => geofences.map GeofencePayload.gfClientId
  | .modifyGeofences geofences => geofences.map GeofencePayload.gfClientId
  | .removeGeofences ids | .pauseGeofences ids | .resumeGeofences ids => ids
  | _ => []

/-- An add that loses no geofence: it has one at least, and they are not held. -/
def AddsNew (hal : HalState) (msg : ReqMsg) : Prop :=
  ∀ geofences, msg = .addGeofences geofences → geofences ≠ [] ∧
    (addedIds msg).Nodup ∧ ∀ g ∈ hal.held, g.1 ∉ addedIds msg

/-- An add, whether `LocationAPI` accepts it or not. -/
theorem Tracks.addGeofences (ht : Tracks h hal) (happ : h.mLocationApi = true)
    {geofences : List GeofencePayload} {ret : HalReturns}
    (hret : hal.MayAnswer ret (.addGeofences geofences))
    (hnew : AddsNew hal (.addGeofences geofences)) :
    Tracks (LocationApiService.addGeofences geofences ret.addGeofences h).1
      (hal.record (addedIds (.addGeofences geofences))
        (LocationApiService.addGeofences geofences ret.addGeofences h).2) := by
  obtain ⟨hne, hdistinct, hfree⟩ := hnew geofences rfl
  unfold LocationApiService.addGeofences
  split
  · exact ht.quiet (.refl h) _
  · have hadd : h.addGeofences (geofences.map GeofencePayload.gfOption)
        (geofences.map GeofencePayload.gfInfo) ret.addGeofences =
        ({ h with mGeofenceIds := ret.addGeofences },
          [.hal (.addGeofences (geofences.map GeofencePayload.gfOption)
            (geofences.map GeofencePayload.gfInfo) ret.addGeofences)]) :=
      if_pos (by simpa [happ] using hne)
    rw [hadd]
    dsimp only
    cases hids : ret.addGeofences with
    | none =>
      refine ht.quiet ⟨rfl, rfl, rfl, ?_, by simp [HalState.calls, HalCall.collectiveFor]⟩ _
      intro hno
      exact absurd happ (by simp [hno])
    | some ids =>
      refine ht.added ?_ hdistinct hfree _ _
      rw [← hids, addedIds, List.length_map]
      exact hret

/-- **Which requests keep track.**  All of them but an add of nothing, or of geofences that are
held. -/
theorem Tracks.processClientMsg (ht : Tracks h hal) (happ : h.mLocationApi = true)
    (mPositionMode : GnssSuplMode) {msg : ReqMsg} {ret : HalReturns}
    (hret : hal.MayAnswer ret msg) (hnew : AddsNew hal msg) (mIpcSender rc : Bool) :
    ∀ h' ∈ (LocationApiService.processClientMsg mPositionMode (some h) msg ret mIpcSender rc).1,
      Tracks h' (hal.record (addedIds msg)
        (LocationApiService.processClientMsg mPositionMode (some h) msg ret mIpcSender rc).2) := by
  intro h' hh'
  -- a request of a registered client is answered by its handler
  have hquiet : ∀ {f : LocHalDaemonClientHandler → LocHalDaemonClientHandler × List Action},
      GfQuiet h (f h) → h' ∈ (LocationApiService.withClient (some h) f).1 →
        Tracks h' (hal.record [] (LocationApiService.withClient (some h) f).2) := by
    intro f hq hmem
    cases Option.some.inj hmem
    exact ht.quiet hq []
  cases msg with
  | clientRegister clientType =>
    obtain ⟨rfl, hcalls⟩ := h.sendCapabilitiesMsg_some rc hh'
    have hq : GfQuiet h' (h', (h'.sendCapabilitiesMsg rc).2) :=
      ⟨rfl, rfl, rfl, fun _ => rfl, by rw [hcalls]; simp⟩
    exact ht.quiet hq []
  | clientDeregister =>
    exact absurd hh' (by
      simp [LocationApiService.processClientMsg, LocationApiService.deleteClient])
  | updateCallbacks mask => exact hquiet (h.updateSubscription_gfQuiet mask) hh'
  | startTracking options => exact hquiet (h.startTracking_gfQuiet _ _) hh'
  | stopTracking clear => exact hquiet (LocationApiService.stopTracking_gfQuiet h clear) hh'
  | updateTrackingOptions options =>
    exact hquiet ((h.updateTrackingOptions_gfQuiet _).pushPending _) hh'
  | startBatching interval distance mode =>
    exact hquiet (LocationApiService.startBatching_gfQuiet h interval distance mode _) hh'
  | stopBatching => exact hquiet (LocationApiService.stopBatching_gfQuiet h) hh'
  | updateBatchingOptions interval distance mode =>
    exact hquiet ((h.updateBatchingOptions_gfQuiet interval distance mode).pushPending _) hh'
  | addGeofences geofences =>
    cases Option.some.inj hh'
    exact ht.addGeofences happ hret hnew
  | removeGeofences ids =>
    cases Option.some.inj hh'
    exact ht.request happ ids rfl (by simp) .removeGeofences (fun _ => rfl) fun _ => rfl
  | modifyGeofences geofences =>
    cases Option.some.inj hh'
    simp only [LocationApiService.withClient, LocationApiService.modifyGeofences,
      LocationApiService.processClientMsg]
    split
    · exact ht.quiet (.refl h) _
    · exact ht.request happ _ rfl (by simp)
        (fun sessions => .modifyGeofences sessions (geofences.map GeofencePayload.gfOption))
        (fun _ => rfl) fun _ => rfl
  | pauseGeofences ids =>
    cases Option.some.inj hh'
    exact ht.request happ ids rfl (by simp) .pauseGeofences (fun _ => rfl) fun _ => rfl
  | resumeGeofences ids =>
    cases Option.some.inj hh'
    exact ht.request happ ids rfl (by simp) .resumeGeofences (fun _ => rfl) fun _ => rfl

/-! ## Responses -/

/-- A response that reports no failure of a geofence that is held and stays: but for an add,
what fails is not held, or is removed all the same. -/
def FailsNoneHeld (hal : HalState) (label : ELocMsgID)
    (resp : List (UInt32 × LocationError)) : Prop :=
  ∀ r ∈ resp, label ≠ .addGeofences → r.2 ≠ .success → hal.holds r.1 →
    label = .removeGeofences ∧ (r.1, .success) ∈ resp

/-- The geofences that a response takes out of the map are those that `LocationAPI` drops. -/
theorem Tracks.answered_iff (ht : Tracks h hal) (hids : ∀ g ∈ hal.held, g.1 ≠ 0)
    {label : ELocMsgID} {resp : List (UInt32 × LocationError)}
    (hkeep : FailsNoneHeld hal label resp) {g : UInt32 × UInt32} (hg : g ∈ hal.held) :
    g.1 ∈ h.answeredIds label resp ↔ HalState.drops label resp g.2 = true := by
  rw [LocHalDaemonClientHandler.answeredIds, List.mem_map, HalState.drops, List.any_eq_true]
  constructor
  · rintro ⟨r, hr, hkey⟩
    obtain ⟨hmem, herased⟩ := List.mem_filter.mp hr
    simp only [Bool.or_eq_true, beq_iff_eq, bne_iff_ne] at herased
    have hsession : r.1 = g.2 := by
      rcases IdMap.keyOf_cases h.mGfIdsMap r.1 0 with ⟨h0, -⟩ | hsome
      · exact absurd (hkey.symm.trans h0) (hids g hg)
      · rw [hkey, ht.lookup g hg] at hsome
        exact (Option.some.inj hsome).symm
    have hheld : hal.holds r.1 :=
      (hal.holds_iff r.1).mpr (hsession ▸ List.mem_map_of_mem hg)
    by_cases hadd : label = .addGeofences
    · subst hadd
      exact ⟨r, hmem, by simpa [hsession] using herased⟩
    · by_cases hok : r.2 = .success
      · have hremove : label = .removeGeofences :=
          herased.resolve_right (not_not_intro hok)
        exact ⟨r, hmem, by simp [hsession, hremove, hok]⟩
      · -- the failure is of a geofence that the same response removes
        obtain ⟨hremove, hmem'⟩ := hkeep r hmem hadd hok hheld
        exact ⟨(r.1, .success), hmem', by simp [hsession, hremove]⟩
  · rintro ⟨r, hmem, hdrop⟩
    simp only [Bool.and_eq_true, Bool.or_eq_true, beq_iff_eq, bne_iff_ne] at hdrop
    obtain ⟨hsession, hwhy⟩ := hdrop
    refine ⟨r, List.mem_filter.mpr ⟨hmem, ?_⟩, by rw [hsession]; exact ht.keyOf hg⟩
    rcases hwhy with ⟨_, hne⟩ | ⟨hrem, _⟩
    · simp [hne]
    · simp [hrem]

/-- **Which responses keep track.** -/
theorem Tracks.response (ht : Tracks h hal) (hids : ∀ g ∈ hal.held, g.1 ≠ 0)
    {label : ELocMsgID} {ids : List UInt32} {calls : List (ELocMsgID × List UInt32)}
    (hcalls : hal.collectiveCalls = (label, ids) :: calls)
    {resp : List (UInt32 × LocationError)} (hsend : h.mIpcSender)
    (hkeep : FailsNoneHeld hal label resp) (rc : Bool) :
    ∀ h' ∈ (h.onCollectiveResponseCallback resp rc).1,
      Tracks h' { hal with
        collectiveCalls := calls, held := hal.heldAfter label resp } := by
  intro h' hh'
  have hpend : h.mGfPendingMessages = label :: calls.map Prod.fst := by
    rw [ht.pending, hcalls, List.map_cons]
  have hlabel := ht.labels (label, ids) (by rw [hcalls]; exact List.mem_cons_self)
  obtain ⟨m, rfl, hm⟩ := h.onCollectiveResponseCallback_some resp rc hsend
    (by rw [hpend, List.head?_cons]) hlabel hh'
  have hsub : (hal.heldAfter label resp).Sublist hal.held := List.filter_sublist
  exact
    { pending := by simp [hpend]
      labels := by
        intro call hcall
        exact ht.labels call (by rw [hcalls]; exact List.mem_cons_of_mem _ hcall)
      adds := by
        intro call hcall
        exact ht.adds call (by rw [hcalls]; exact List.mem_cons_of_mem _ hcall)
      lookup := by
        intro g hg
        obtain ⟨hheld, hdrop⟩ := List.mem_filter.mp hg
        have hans : g.1 ∉ h.answeredIds label resp := by
          intro hmem
          rw [(ht.answered_iff hids hkeep hheld).mp hmem] at hdrop
          exact absurd hdrop (by simp)
        exact (hm g.1).trans ((if_neg hans).trans (ht.lookup g hheld))
      entries := by
        intro id session hid
        replace hid : m.lookup id = some session := hid
        rw [hm id] at hid
        split at hid
        · exact absurd hid (by simp)
        · rename_i hans
          rcases ht.entries id session hid with hzero | hheld
          · exact .inl hzero
          · refine .inr (List.mem_filter.mpr ⟨hheld, ?_⟩)
            have hstays : ¬HalState.drops label resp session = true :=
              fun hdrop => hans ((ht.answered_iff hids hkeep hheld).mpr hdrop)
            simpa using hstays
      distinct := ht.distinct.sublist (hsub.map _)
      nonzero := fun g hg => ht.nonzero g (hsub.subset hg) }

end Tracks

end LocationStack.Daemon
