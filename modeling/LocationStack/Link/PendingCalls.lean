import LocationStack.Link.Outstanding
import LocationStack.Link.Geofences

/-! # Calls and the pending flag

What each call of the application makes of a client that waits for a response, and of what it
waits for.  A call that is refused, and one that is about no session, decides nothing.  A start of
tracking or batching and an add of geofences set the flag, so that their own message, if it
reaches the daemon, has to be answered there; a stop leaves the daemon without the session.
-/
namespace LocationStack.Link

open Ipc Client Daemon EventRun

section Calls

variable {c : LocationClientApiImpl}

theorem isGeofenceMapEmpty_iff : c.isGeofenceMapEmpty ↔ ∀ id, id ∉ c.mGeofenceMap := by
  rw [LocationClientApiImpl.isGeofenceMapEmpty, List.isEmpty_iff, List.eq_nil_iff_forall_not_mem]
  exact Iff.rfl

theorem Keeps.same {c' : LocationClientApiImpl} (h : c' = c) : Keeps c c' := by
  subst h
  exact ⟨rfl, rfl, rfl, rfl, id, fun _ => id⟩

theorem modifyGeofences_keeps (geofences : List (UInt32 × GeofenceOption)) :
    Keeps c (c.modifyGeofences geofences).1 := by
  unfold LocationClientApiImpl.modifyGeofences
  repeat' split
  · exact .same rfl
  · exact .same rfl
  · exact .same rfl
  · have hkeys := foldl_setGeofenceOption_keys (c := c) (geofences.take maxGeofenceEntry)
    dsimp only
    rw [c.foldl_setGeofenceOption_eq]
    refine ⟨rfl, rfl, rfl, rfl, id, fun _ hempty => ?_⟩
    rw [isGeofenceMapEmpty_iff] at hempty ⊢
    exact fun id hid => hempty id ((hkeys id).mpr hid)

theorem stopBatching_keeps (c : LocationClientApiImpl) :
    Keeps { c with mBatchingId := 0 } c.stopBatching.1 ∧
      c.stopBatching.1.isGeofenceMapEmpty = c.isGeofenceMapEmpty := by
  unfold LocationClientApiImpl.stopBatching
  split <;> exact ⟨⟨rfl, rfl, rfl, rfl, id, fun _ => id⟩, rfl⟩

/-- A refused add still enters its geofences. -/
theorem addGeofences_keeps (hpending : c.mPositionSessionResponseCbPending = true)
    (callbacksOption : Client.LocationCallbacks) (geofences : List GeofencePayload) :
    Keeps c (c.addGeofences callbacksOption geofences).1 ∧
      sentReqs (c.addGeofences callbacksOption geofences).2 = [] := by
  unfold LocationClientApiImpl.addGeofences
  rw [if_pos hpending]
  refine ⟨?_, rfl⟩
  have hkeys := foldl_addGeofenceMap_keys c geofences
  rw [c.foldl_addGeofenceMap_eq]
  refine ⟨rfl, rfl, rfl, rfl, id, fun _ hempty => ?_⟩
  rw [isGeofenceMapEmpty_iff] at hempty ⊢
  exact fun id hid => hempty id ((hkeys id).mpr (.inl hid))

/-- Subscriptions that are reported first make no difference. -/
theorem updates_sameEffect (st : Standing) (c : LocationClientApiImpl)
    (callbacks : Client.LocationCallbacks) (msgs : List ReqMsg) :
    st.SameEffect (sentReqs (c.updateCallbacksSync callbacks).2 ++ msgs) msgs := by
  rw [c.sent_updateCallbacksSync]
  split <;> exact ⟨rfl, rfl⟩

/-- The client once its flag is set and its subscriptions are made. -/
structure Subscribed (c c₁ : LocationClientApiImpl) : Prop where
  clientId : c₁.mClientId = c.mClientId
  sessionId : c₁.mSessionId = c.mSessionId
  batchingId : c₁.mBatchingId = c.mBatchingId
  registered : c₁.mHalRegistered = c.mHalRegistered
  options : c₁.mLocationOptions = c.mLocationOptions
  geofences : c₁.mGeofenceMap = c.mGeofenceMap

namespace Subscribed

variable {c₁ : LocationClientApiImpl} (h : Subscribed c c₁)
include h

theorem isInTracking_eq : c₁.isInTracking = c.isInTracking := by
  rw [LocationClientApiImpl.isInTracking, h.sessionId]
  rfl

theorem isOptionUpdated_eq (trackingOptions : TrackingOptions) :
    c₁.isOptionUpdated trackingOptions = c.isOptionUpdated trackingOptions := by
  rw [LocationClientApiImpl.isOptionUpdated, h.options]
  rfl

theorem trackingUpdate_eq (trackingOptions : TrackingOptions) :
    c₁.trackingUpdate trackingOptions true = c.trackingUpdate trackingOptions true := by
  rw [LocationClientApiImpl.trackingUpdate, h.options]
  rfl

theorem isGeofenceMapEmpty_eq : c₁.isGeofenceMapEmpty = c.isGeofenceMapEmpty := by
  rw [LocationClientApiImpl.isGeofenceMapEmpty, h.geofences]
  rfl

end Subscribed

/-- The message of a start that is not answered at once. -/
def startMsgs (c : LocationClientApiImpl) (trackingOptions : TrackingOptions) : List ReqMsg :=
  if c.mHalRegistered then
    if c.isInTracking then [c.trackingUpdate trackingOptions true]
    else if trackingOptions.active then [.startTracking trackingOptions] else []
  else []

/-- A start that is not refused. -/
structure Started (c : LocationClientApiImpl) (trackingOptions : TrackingOptions)
    (c' : LocationClientApiImpl) : Prop where
  clientId : c'.mClientId = c.mClientId
  batchingId : c'.mBatchingId = c.mBatchingId
  active : tracksActively c' = trackingOptions.active
  geofences : c'.isGeofenceMapEmpty = c.isGeofenceMapEmpty

section Start

variable (callbacksOption : Client.LocationCallbacks) (trackingOptions : TrackingOptions)

/-- The client of an accepted start once its subscriptions are made. -/
def startSubscribed (c : LocationClientApiImpl) (callbacksOption : Client.LocationCallbacks) :
    LocationClientApiImpl :=
  (({ c with mPositionSessionResponseCbPending := true }.clearTrackingSubscriptions
    ).updateCallbacksSync callbacksOption).1

theorem startSubscribed_subscribed : Subscribed c (startSubscribed c callbacksOption) := by
  rw [startSubscribed, LocationClientApiImpl.updateCallbacksSync_fst]
  exact ⟨rfl, rfl, rfl, rfl, rfl, rfl⟩

variable (hpending : c.mPositionSessionResponseCbPending = false) (hbatching : c.mBatchingId = 0)
include hpending hbatching

theorem startPositionSession_fst :
    (c.startPositionSession callbacksOption trackingOptions).1 =
      ((startSubscribed c callbacksOption).startTrackingSync trackingOptions).1 := by
  rw [c.startPositionSession_accepted _ _ hpending hbatching]
  rfl

/-- The options are those of the session that is there, and the application was answered. -/
theorem startPositionSession_same
    (hsame : (c.mHalRegistered && c.isInTracking && !c.isOptionUpdated trackingOptions) = true) :
    Keeps c (c.startPositionSession callbacksOption trackingOptions).1 ∧
      AllSent (Standing.neutral ·) (c.startPositionSession callbacksOption trackingOptions) := by
  have hsub := startSubscribed_subscribed (c := c) callbacksOption
  constructor
  · rw [startPositionSession_fst _ _ hpending hbatching,
      LocationClientApiImpl.startTrackingSync_fst]
    generalize startSubscribed c callbacksOption = c₁ at hsub
    rw [hsub.registered, hsub.isInTracking_eq, hsub.isOptionUpdated_eq, hsame]
    have hboth := (Bool.and_eq_true_iff.mp hsame).1
    refine ⟨hsub.clientId, ?_, hsub.batchingId, ?_, fun h => ?_, fun h => ?_⟩
    · rw [if_pos hboth, hsub.sessionId]
    · rw [if_pos rfl, hsub.options]
    · exact absurd h (by simp)
    · exact absurd h (by simp)
  · rw [c.startPositionSession_accepted _ _ hpending hbatching]
    refine .andThen (LocationClientApiImpl.updateCallbacksSync_allSent _ (fun _ => rfl) _)
      (.of_nil ?_)
    change sentReqs ((startSubscribed c callbacksOption).startTrackingSync trackingOptions).2 = []
    rw [LocationClientApiImpl.sent_startTrackingSync, hsub.registered, hsub.isInTracking_eq,
      hsub.isOptionUpdated_eq]
    simp only [Bool.and_eq_true, Bool.not_eq_true'] at hsame
    rw [if_pos hsame.1.1, if_pos hsame.1.2, if_neg (by simp [hsame.2])]

theorem startPositionSession_started
    (hnew : (c.mHalRegistered && c.isInTracking && !c.isOptionUpdated trackingOptions) = false) :
    Started c trackingOptions (c.startPositionSession callbacksOption trackingOptions).1 := by
  have hsub := startSubscribed_subscribed (c := c) callbacksOption
  rw [startPositionSession_fst _ _ hpending hbatching,
    LocationClientApiImpl.startTrackingSync_fst]
  generalize startSubscribed c callbacksOption = c₁ at hsub
  rw [hsub.registered, hsub.isInTracking_eq, hsub.isOptionUpdated_eq, hnew]
  -- the session id is the one it had, or the client's own, which is never zero
  have htracking : (if c.mHalRegistered && c.isInTracking then c₁.mSessionId
      else c₁.mClientId : UInt32) ≠ 0 := by
    split
    · rw [hsub.sessionId]
      simp_all
    · exact c₁.mClientId.2
  refine ⟨hsub.clientId, hsub.batchingId, ?_, hsub.isGeofenceMapEmpty_eq⟩
  rw [tracksActively, LocationClientApiImpl.isInTracking, bne_iff_ne.mpr htracking, Bool.true_and]
  rfl

/-- What such a start sends. -/
theorem startPositionSession_msgs
    (hnew : (c.mHalRegistered && c.isInTracking && !c.isOptionUpdated trackingOptions) = false)
    (st : Standing) :
    st.SameEffect (sentReqs (c.startPositionSession callbacksOption trackingOptions).2)
      (startMsgs c trackingOptions) := by
  have hsub := startSubscribed_subscribed (c := c) callbacksOption
  have hmsgs : sentReqs ((startSubscribed c callbacksOption).startTrackingSync
      trackingOptions).2 = startMsgs c trackingOptions := by
    rw [LocationClientApiImpl.sent_startTrackingSync, hsub.registered, hsub.isInTracking_eq,
      hsub.isOptionUpdated_eq, hsub.trackingUpdate_eq, startMsgs]
    split
    · split
      · rw [if_pos (by simp_all)]
      · rfl
    · rfl
  rw [c.startPositionSession_accepted _ _ hpending hbatching, Result.andThen_snd,
    sentReqs_append]
  change st.SameEffect
    (_ ++ sentReqs ((startSubscribed c callbacksOption).startTrackingSync trackingOptions).2) _
  rw [hmsgs]
  exact updates_sameEffect st _ callbacksOption _

end Start

section Batch

variable (callbacksOption : Client.LocationCallbacks) (batchingOptions : BatchingOptions)
  (hpending : c.mPositionSessionResponseCbPending = false) (hsession : c.mSessionId = 0)

theorem updateCallbacksSync_subscribed :
    Subscribed c ({ c with mPositionSessionResponseCbPending := true }.updateCallbacksSync
      callbacksOption).1 := by
  rw [LocationClientApiImpl.updateCallbacksSync_fst]
  exact ⟨rfl, rfl, rfl, rfl, rfl, rfl⟩

/-- A start of batching that is not refused. -/
structure Batched (c c' : LocationClientApiImpl) : Prop where
  clientId : c'.mClientId = c.mClientId
  tracking : c'.isInTracking = false
  batchingId : c'.mBatchingId = if c.mHalRegistered then c.mClientId.val else c.mBatchingId
  geofences : c'.isGeofenceMapEmpty = c.isGeofenceMapEmpty

/-- The message of a start of batching. -/
def batchingMsgs (c : LocationClientApiImpl) (batchingOptions : BatchingOptions) : List ReqMsg :=
  if c.mHalRegistered then
    [.startBatching batchingOptions.minInterval batchingOptions.minDistance
      batchingOptions.batchingMode]
  else []

include hpending hsession

theorem startBatchingSession_batched :
    Batched c (c.startBatchingSession callbacksOption batchingOptions).1 := by
  have hsub := updateCallbacksSync_subscribed (c := c) callbacksOption
  rw [c.startBatchingSession_accepted _ _ hpending hsession, Result.andThen_fst,
    LocationClientApiImpl.startBatchingSync_fst]
  generalize ({ c with mPositionSessionResponseCbPending := true }.updateCallbacksSync
    callbacksOption).1 = c₁ at hsub
  have hno : c₁.isInTracking = false := by
    rw [LocationClientApiImpl.isInTracking_eq_false, hsub.sessionId, hsession]
  rw [hsub.registered, hno, Bool.not_false, Bool.and_true]
  refine ⟨hsub.clientId, hno, ?_, hsub.isGeofenceMapEmpty_eq⟩
  rw [hsub.clientId, hsub.batchingId]

/-- What such a start sends. -/
theorem startBatchingSession_msgs (st : Standing) :
    st.SameEffect (sentReqs (c.startBatchingSession callbacksOption batchingOptions).2)
      (batchingMsgs c batchingOptions) := by
  have hsub := updateCallbacksSync_subscribed (c := c) callbacksOption
  have hno : ({ c with mPositionSessionResponseCbPending := true }.updateCallbacksSync
      callbacksOption).1.isInTracking = false := by
    rw [LocationClientApiImpl.isInTracking_eq_false, hsub.sessionId, hsession]
  rw [c.startBatchingSession_accepted _ _ hpending hsession, Result.andThen_snd, sentReqs_append,
    LocationClientApiImpl.sent_startBatchingSync, hno, hsub.registered]
  exact updates_sameEffect st _ callbacksOption _

end Batch

/-- Some geofences are sent as some, and no more than there may be. -/
theorem sendGeofences_sent (c : LocationClientApiImpl) (geofences : List GeofencePayload) :
    ∃ sentGeofences : List GeofencePayload, (geofences ≠ [] → sentGeofences ≠ []) ∧
      sentGeofences.length ≤ Daemon.maxGeofenceCount ∧
      sentReqs (c.sendGeofences geofences).2 =
        if c.mHalRegistered then [.addGeofences sentGeofences] else [] := by
  refine ⟨_, fun hsome => ?_, List.length_take_le _ _, c.sent_sendGeofences geofences⟩
  refine List.ne_nil_of_length_pos ?_
  rw [List.length_take, List.length_map, List.length_zipIdx]
  exact Nat.lt_min.mpr ⟨by decide, List.length_pos_of_ne_nil hsome⟩

section Add

variable (callbacksOption : Client.LocationCallbacks) (geofences : List GeofencePayload)
  (hpending : c.mPositionSessionResponseCbPending = false)
include hpending

theorem addGeofences_accepted :
    c.addGeofences callbacksOption geofences =
      ({ c with mPositionSessionResponseCbPending := true }.updateCallbacksSync
        callbacksOption).andThen fun c =>
          (geofences.foldl LocationClientApiImpl.addGeofenceMap
            { c with mLastAddedClientIds := geofences.map GeofencePayload.gfClientId }
            ).sendGeofences geofences := by
  rw [LocationClientApiImpl.addGeofences, if_neg (by simp [hpending])]

/-- An add that is not refused enters its geofences. -/
theorem addGeofences_added :
    Keeps { c with mPositionSessionResponseCbPending := true }
        (c.addGeofences callbacksOption geofences).1 ∧
      (geofences ≠ [] →
        (c.addGeofences callbacksOption geofences).1.isGeofenceMapEmpty = false) := by
  have hsub := updateCallbacksSync_subscribed (c := c) callbacksOption
  rw [addGeofences_accepted callbacksOption geofences hpending, Result.andThen_fst,
    LocationClientApiImpl.sendGeofences_fst]
  generalize ({ c with mPositionSessionResponseCbPending := true }.updateCallbacksSync
    callbacksOption).1 = c₁ at hsub
  have hkeys := foldl_addGeofenceMap_keys
    { c₁ with mLastAddedClientIds := geofences.map GeofencePayload.gfClientId } geofences
  rw [LocationClientApiImpl.foldl_addGeofenceMap_eq]
  refine ⟨⟨hsub.clientId, hsub.sessionId, hsub.batchingId, hsub.options, fun _ => rfl,
    fun _ hempty => ?_⟩, fun hsome => ?_⟩
  · rw [isGeofenceMapEmpty_iff] at hempty ⊢
    intro id hid
    refine hempty id ((hkeys id).mpr (.inl ?_))
    rw [hsub.geofences]
    exact hid
  · obtain ⟨g, gs, rfl⟩ := List.exists_cons_of_ne_nil hsome
    rw [← Bool.not_eq_true, isGeofenceMapEmpty_iff]
    exact fun hempty => hempty g.gfClientId
      ((hkeys g.gfClientId).mpr (.inr (List.mem_map_of_mem (List.mem_cons_self ..))))

/-- What it sends: geofences, no more than there may be. -/
theorem addGeofences_msgs (st : Standing) :
    ∃ sentGeofences : List GeofencePayload, (geofences ≠ [] → sentGeofences ≠ []) ∧
      sentGeofences.length ≤ Daemon.maxGeofenceCount ∧
      st.SameEffect (sentReqs (c.addGeofences callbacksOption geofences).2)
        (if c.mHalRegistered then [.addGeofences sentGeofences] else []) := by
  have hsub := updateCallbacksSync_subscribed (c := c) callbacksOption
  rw [addGeofences_accepted callbacksOption geofences hpending, Result.andThen_snd,
    sentReqs_append]
  generalize hc₁ : { ({ c with mPositionSessionResponseCbPending := true }.updateCallbacksSync
    callbacksOption).1 with
      mLastAddedClientIds := geofences.map GeofencePayload.gfClientId } = c₁
  have hreg : (geofences.foldl LocationClientApiImpl.addGeofenceMap c₁).mHalRegistered =
      c.mHalRegistered := by
    rw [LocationClientApiImpl.foldl_addGeofenceMap_eq, ← hc₁]
    exact hsub.registered
  obtain ⟨sentGeofences, hsome, hfew, hsent⟩ := sendGeofences_sent
    (geofences.foldl LocationClientApiImpl.addGeofenceMap c₁) geofences
  rw [hsent, hreg]
  exact ⟨sentGeofences, hsome, hfew, updates_sameEffect st _ callbacksOption _⟩

end Add

end Calls

namespace Followed

variable {s : Sys}

theorem startMsgs_active_eq {c : LocationClientApiImpl} {trackingOptions : TrackingOptions}
    (hactive : trackingOptions.active = true) (hreg : c.mHalRegistered = true) :
    startMsgs c trackingOptions =
      if tracksActively c then [.updateTrackingOptions trackingOptions]
      else [.startTracking trackingOptions] := by
  unfold startMsgs tracksActively LocationClientApiImpl.trackingUpdate
  rw [hreg, hactive]
  cases c.isInTracking <;> cases c.mLocationOptions.active <;> rfl

theorem startMsgs_passive_eq {c : LocationClientApiImpl} {trackingOptions : TrackingOptions}
    (hactive : trackingOptions.active = false) :
    startMsgs c trackingOptions =
      if c.mHalRegistered && c.isInTracking then
        if c.mLocationOptions.active then [.stopTracking true]
        else [.updateTrackingOptions trackingOptions]
      else [] := by
  unfold startMsgs LocationClientApiImpl.trackingUpdate
  rw [hactive]
  cases c.mHalRegistered <;> cases c.isInTracking <;> cases c.mLocationOptions.active <;> rfl

/-- The message of an active start is answered, or the daemon has no session after it. -/
theorem startMsgs_active (hs : Followed s) {trackingOptions : TrackingOptions}
    (hactive : trackingOptions.active = true) (hreg : s.client.mHalRegistered = true) :
    (s.standingAfter.awaits (startMsgs s.client trackingOptions) ∨
        ((startMsgs s.client trackingOptions).foldl Standing.after
          s.standingAfter).tracking = false) ∧
      (s.unregisters = false →
        ((startMsgs s.client trackingOptions).foldl Standing.after
          s.standingAfter).tracking = true) := by
  rw [startMsgs_active_eq hactive hreg]
  cases hown : tracksActively s.client with
  | true =>
    -- an update, which changes nothing at the daemon and finds a session if there is one
    refine ⟨?_, fun hunreg => hs.inStep hunreg hown⟩
    cases htracking : s.standingAfter.tracking with
    | false => exact .inr htracking
    | true =>
      have hknown := s.standingAfter_grounded.known (.inl htracking)
      exact .inl (by simp [Standing.awaits, Standing.answers, hknown, htracking])
  | false =>
    -- a start: the daemon has no session yet
    have hnone : s.standingAfter.tracking = false := by
      by_contra htracking
      rw [hs.tracked (by simpa using htracking)] at hown
      exact absurd hown (by decide)
    refine ⟨?_, fun hunreg => hs.standingAfter_known hunreg⟩
    cases hknown : s.standingAfter.known with
    | true => exact .inl (by simp [Standing.awaits, Standing.answers, hknown, hnone])
    | false => exact .inr hknown

/-- An active start is answered, or something else is, or the client will start again. -/
theorem startMsgs_answered (hs : Followed s) {trackingOptions : TrackingOptions} {sent : Bool}
    (hactive : trackingOptions.active = true)
    (hcond : (s.client.mHalRegistered ∧ sent) ∨
      (s.unregisters ∧ (s.standingAfter.tracking = false ∨ s.rescued))) :
    s.standingAfter.awaits (if sent then startMsgs s.client trackingOptions else []) ∨ s.rescued ∨
      (s.unregisters ∧ ((if sent then startMsgs s.client trackingOptions else []).foldl
        Standing.after s.standingAfter).tracking = false) := by
  by_cases htold : s.client.mHalRegistered ∧ sent
  · obtain ⟨hreg, rfl⟩ := htold
    obtain ⟨hans, hinStep⟩ := hs.startMsgs_active hactive hreg
    -- a daemon without the session after it is one that does not know the client
    refine hans.imp_right fun hnone => .inr ⟨?_, hnone⟩
    by_contra hunreg
    rw [if_pos rfl, hinStep (by simpa using hunreg)] at hnone
    exact absurd hnone (by decide)
  · obtain ⟨hunreg, hnone | hrescued⟩ := hcond.resolve_left htold
    · -- nothing is sent
      have hmsgs : (if sent then startMsgs s.client trackingOptions else []) = [] := by
        cases sent with
        | false => rfl
        | true => exact if_neg fun hreg => htold ⟨hreg, rfl⟩
      rw [hmsgs]
      exact .inr (.inr ⟨hunreg, hnone⟩)
    · exact .inr (.inl hrescued)

/-- A passive start leaves the daemon without a session, if it had none or is told. -/
theorem startMsgs_passive (hs : Followed s) {trackingOptions : TrackingOptions} (sent : Bool)
    (hactive : trackingOptions.active = false)
    (hsent : s.standingAfter.tracking → s.client.mHalRegistered ∧ sent) :
    ((if sent then startMsgs s.client trackingOptions else []).foldl Standing.after
      s.standingAfter).tracking = false := by
  rw [startMsgs_passive_eq hactive]
  cases htracking : s.standingAfter.tracking with
  | true =>
    -- the session is one of the client, so that it sends a stop
    obtain ⟨hreg, rfl⟩ := hsent htracking
    have hown := hs.tracked htracking
    rw [tracksActively, Bool.and_eq_true] at hown
    rw [if_pos rfl, if_pos (by rw [hreg, hown.1]; rfl), if_pos hown.2]
    rfl
  | false =>
    repeat' split
    · rfl
    · exact htracking
    · exact htracking
    · exact htracking

theorem startMsgs_batching (st : Standing) (c : LocationClientApiImpl)
    (trackingOptions : TrackingOptions) (sent : Bool) :
    ((if sent then startMsgs c trackingOptions else []).foldl Standing.after st).batching =
      st.batching := by
  unfold startMsgs LocationClientApiImpl.trackingUpdate
  repeat' split
  all_goals rfl

/-- What takes the flag back whatever becomes of the sessions still does. -/
theorem rescued_outstanding (hrescued : s.rescued) {c' : LocationClientApiImpl}
    (hmap : s.client.isGeofenceMapEmpty = false → c'.isGeofenceMapEmpty = false)
    (msgs : List ReqMsg) (st : Standing) :
    s.answering ∨ s.standingAfter.awaits msgs ∨ (s.unregisters ∧ resumes c' st) := by
  rw [Sys.rescued, Bool.or_eq_true, Bool.and_eq_true, Bool.not_eq_true'] at hrescued
  rcases hrescued with hans | ⟨hunreg, hsome⟩
  · exact .inl hans
  · exact .inr (.inr ⟨hunreg, resumes_geofences (hmap hsome) st⟩)

/-- **A start of tracking.** -/
theorem startPositionSession (hs : Followed s) {sent : Bool}
    {callbacksOption : Client.LocationCallbacks} {trackingOptions : TrackingOptions}
    (hcond : AnswerableCall s sent (.startPositionSession callbacksOption trackingOptions)) :
    Followed (s.clientWork
      ((Call.startPositionSession callbacksOption trackingOptions).work s.client) sent) := by
  by_cases hacc : s.client.mPositionSessionResponseCbPending = false ∧ s.client.mBatchingId = 0
  · obtain ⟨hpending, hbatching⟩ := hacc
    cases hnew : s.client.mHalRegistered && s.client.isInTracking &&
      !s.client.isOptionUpdated trackingOptions with
    | true =>
      -- `invokePositionSessionResponseCb` at once: the client does not wait
      obtain ⟨hkeeps, hneutral⟩ :=
        startPositionSession_same callbacksOption trackingOptions hpending hbatching hnew
      exact hs.quiet hkeeps hneutral
    | false =>
      have hstarted :=
        startPositionSession_started callbacksOption trackingOptions hpending hbatching hnew
      have hmsgs := startPositionSession_msgs callbacksOption trackingOptions hpending hbatching
        hnew s.standingAfter
      have hcond := hcond hpending hbatching hnew
      have hbatched : ((if sent then startMsgs s.client trackingOptions else []).foldl
          Standing.after s.standingAfter).batching →
          (s.client.startPositionSession callbacksOption trackingOptions).1.mBatchingId =
            (s.client.startPositionSession callbacksOption trackingOptions).1.mClientId := by
        rw [startMsgs_batching, hstarted.batchingId, hstarted.clientId]
        exact hs.batched
      cases hactive : trackingOptions.active with
      | true =>
        rw [if_pos hactive] at hcond
        have hown := hstarted.active.trans hactive
        refine hs.work (hmsgs.sent sent) (fun _ => hown) hbatched (fun hunreg _ => ?_) fun _ => ?_
        · obtain ⟨hreg, rfl⟩ := hcond.resolve_right fun h => by simp [hunreg] at h
          exact (hs.startMsgs_active hactive hreg).2 hunreg
        · rcases hs.startMsgs_answered hactive hcond with hans | hrescued | ⟨hunreg, hnone⟩
          · exact .inr (.inl hans)
          · exact rescued_outstanding hrescued hstarted.geofences.trans _ _
          · exact .inr (.inr ⟨hunreg, resumes_tracking hown hnone⟩)
      | false =>
        -- nothing this start sends is answered, so something else has to be
        rw [if_neg (by simp [hactive])] at hcond
        have hown := hstarted.active.trans hactive
        have hnone := hs.startMsgs_passive sent hactive hcond.2
        refine hs.work (hmsgs.sent sent) ?_ hbatched ?_ fun _ => ?_
        · rw [hnone]
          exact nofun
        · exact fun _ h => absurd h (by simp [Call.work, hown])
        · exact rescued_outstanding hcond.1 hstarted.geofences.trans _ _
  · obtain ⟨hfst, hsent⟩ :=
      s.client.startPositionSession_refused callbacksOption trackingOptions hacc
    exact hs.quiet (.same hfst) (.of_nil hsent)

/-- **A stop of tracking.**  The client waits no longer. -/
theorem stopTracking (hs : Followed s) {sent : Bool}
    (hcond : AnswerableCall s sent .stopTrackingAndClearSubscriptions) :
    Followed (s.clientWork (Call.stopTrackingAndClearSubscriptions.work s.client) sent) := by
  have hmsgs : sentReqs (Call.stopTrackingAndClearSubscriptions.work s.client).2 =
      if s.client.isInTracking && s.client.mHalRegistered && s.client.mLocationOptions.active then
        [.stopTracking true]
      else [] := s.client.sent_stopTrackingSync true
  refine hs.work (.refl _ _) ?_ ?_ (fun _ h => absurd h Bool.false_ne_true)
    (fun h => absurd h Bool.false_ne_true)
  · intro htracking
    rw [hmsgs] at htracking
    cases hsession : s.standingAfter.tracking with
    | true =>
      obtain ⟨hreg, rfl⟩ := hcond hsession
      have hown := hs.tracked hsession
      rw [tracksActively, Bool.and_eq_true] at hown
      rw [if_pos rfl, if_pos (by rw [hown.1, hreg, hown.2]; rfl)] at htracking
      exact absurd htracking Bool.false_ne_true
    | false =>
      refine absurd htracking ?_
      repeat' split
      · exact Bool.false_ne_true
      · simp [hsession]
      · simp [hsession]
  · intro hbatching
    refine hs.batched ?_
    rw [hmsgs] at hbatching
    repeat' split at hbatching
    all_goals exact hbatching

/-- **A stop of batching.** -/
theorem stopBatching (hs : Followed s) {sent : Bool} (hcond : AnswerableCall s sent .stopBatching) :
    Followed (s.clientWork (Call.stopBatching.work s.client) sent) := by
  obtain ⟨hkeeps, hmap⟩ := stopBatching_keeps s.client
  have hmsgs : sentReqs (Call.stopBatching.work s.client).2 =
      if s.client.mBatchingId == s.client.mClientId then [.stopBatching] else [] :=
    s.client.sent_stopBatching
  by_cases hbatching : s.client.mBatchingId = 0
  · -- no session, and nothing is sent
    have hno : (s.client.mBatchingId == s.client.mClientId) = false := by
      rw [hbatching]
      exact beq_eq_false_iff_ne.mpr s.client.mClientId.2.symm
    refine hs.quiet ?_ (.of_nil (by rw [hmsgs, hno]; rfl))
    rwa [show ({ s.client with mBatchingId := 0 } : LocationClientApiImpl) = s.client by
      rw [← hbatching]] at hkeeps
  · obtain ⟨hsent, hout⟩ := hcond hbatching
    have hown : tracksActively (Call.stopBatching.work s.client).1 = tracksActively s.client :=
      hkeeps.tracksActively_eq
    obtain ⟨msgs, hsentMsgs⟩ : ∃ msgs, (if sent then sentReqs (Call.stopBatching.work s.client).2
      else []) = msgs := ⟨_, rfl⟩
    -- a session of the daemon is stopped
    have hstopped : s.standingAfter.batching = true → msgs = [.stopBatching] := by
      intro hsession
      rw [← hsentMsgs, hsent hsession, if_pos rfl, hmsgs, hs.batched hsession, beq_self_eq_true]
      rfl
    have hcases : msgs = [] ∨ msgs = [.stopBatching] := by
      rw [← hsentMsgs, hmsgs]
      repeat' split
      · exact .inr rfl
      · exact .inl rfl
      · exact .inl rfl
    have htracking : (msgs.foldl Standing.after s.standingAfter).tracking =
        s.standingAfter.tracking := by
      rcases hcases with rfl | rfl <;> rfl
    refine hs.work (show s.standingAfter.SameEffect _ msgs by rw [hsentMsgs]; exact .refl _ _) ?_
      (fun hstill => ?_) ?_ fun hpending => ?_
    · rw [htracking, hown]
      exact hs.tracked
    · rcases hcases with hnil | hstop
      · rw [hnil] at hstill
        exact absurd ((hstopped hstill).symm.trans hnil) (by simp)
      · rw [hstop] at hstill
        exact absurd hstill Bool.false_ne_true
    · rw [htracking, hown]
      exact hs.inStep
    · -- what is answered is the stop itself, if the daemon has the session
      rcases hout (hkeeps.pending hpending) with hrescued | hsession
      · exact rescued_outstanding hrescued hmap.trans _ _
      · have hknown := s.standingAfter_grounded.known (.inr hsession)
        rw [hstopped hsession]
        exact .inr (.inl (by simp [Standing.awaits, Standing.answers, hknown, hsession]))

/-- A start of batching, where the daemon has no such session, is answered or sent again. -/
theorem batchingMsgs_answered (hs : Followed s) (batchingOptions : BatchingOptions) {sent : Bool}
    (hnone : s.standingAfter.batching = false)
    (htold : s.unregisters ∨ (s.client.mHalRegistered ∧ sent)) :
    s.standingAfter.awaits (if sent then batchingMsgs s.client batchingOptions else []) ∨
      (s.unregisters ∧ ((if sent then batchingMsgs s.client batchingOptions else []).foldl
        Standing.after s.standingAfter).batching = false) := by
  by_cases hboth : s.client.mHalRegistered ∧ sent
  · obtain ⟨hreg, rfl⟩ := hboth
    rw [if_pos rfl, batchingMsgs, if_pos hreg]
    cases hknown : s.standingAfter.known with
    | true => exact .inl (by simp [Standing.awaits, Standing.answers, hknown, hnone])
    | false =>
      -- the daemon drops the request, and the client is to be told of a restart
      refine .inr ⟨?_, hknown⟩
      by_contra hunreg
      rw [hs.standingAfter_known (by simpa using hunreg)] at hknown
      exact absurd hknown (by decide)
  · have hmsgs : (if sent then batchingMsgs s.client batchingOptions else []) = [] := by
      cases sent with
      | false => rfl
      | true => exact if_neg fun hreg => hboth ⟨hreg, rfl⟩
    rw [hmsgs]
    exact .inr ⟨htold.resolve_right hboth, hnone⟩

/-- A client that waits for a start of batching is answered, or starts again. -/
theorem batched_outstanding (hs : Followed s) {c' : LocationClientApiImpl}
    (hbatch : Batched s.client c') (hno : s.client.isInTracking = false)
    {batchingOptions : BatchingOptions} {sent : Bool}
    (hcond : (s.answering ∨ s.resending) ∨
      (s.client.mHalRegistered ∧ s.standingAfter.batching = false ∧ (sent ∨ s.unregisters))) :
    s.answering ∨
      s.standingAfter.awaits (if sent then batchingMsgs s.client batchingOptions else []) ∨
        (s.unregisters ∧ resumes c' ((if sent then batchingMsgs s.client batchingOptions
          else []).foldl Standing.after s.standingAfter)) := by
  have hstart : s.standingAfter.batching = false → c'.mBatchingId ≠ 0 →
      (s.unregisters ∨ (s.client.mHalRegistered ∧ sent)) → _ := fun hnone hid htold =>
    Or.inr (a := (s.answering : Prop)) ((hs.batchingMsgs_answered batchingOptions hnone htold
      ).imp_right fun ⟨hunreg, hnone'⟩ =>
        And.intro hunreg (resumes_batching hbatch.tracking hid hnone'))
  rcases hcond with (hans | hresending) | ⟨hreg, hnone, htold⟩
  · exact .inl hans
  · -- it tracks nothing, so that it is batching or geofences that are sent again
    obtain ⟨hunreg, hresumes⟩ := resending_iff.mp hresending
    simp only [resumes, tracksActively, hno, Bool.false_and, Bool.false_or, Bool.not_false,
      Bool.true_and, Bool.or_eq_true, Bool.and_eq_true, Bool.not_eq_true'] at hresumes
    rcases hresumes with ⟨hin, hnone⟩ | hmap
    · refine hstart hnone ?_ (.inl hunreg)
      rw [hbatch.batchingId]
      split
      · exact s.client.mClientId.2
      · exact s.client.isInBatching_iff.mp hin
    · exact .inr (.inr ⟨hunreg, resumes_geofences (hbatch.geofences.trans hmap) _⟩)
  · refine hstart hnone ?_ (htold.symm.imp_right fun hsent => ⟨hreg, hsent⟩)
    rw [hbatch.batchingId, if_pos hreg]
    exact s.client.mClientId.2

/-- **A start of batching.** -/
theorem startBatchingSession (hs : Followed s) {sent : Bool}
    {callbacksOption : Client.LocationCallbacks} {batchingOptions : BatchingOptions}
    (hcond : AnswerableCall s sent (.startBatchingSession callbacksOption batchingOptions)) :
    Followed (s.clientWork
      ((Call.startBatchingSession callbacksOption batchingOptions).work s.client) sent) := by
  by_cases hacc : s.client.mPositionSessionResponseCbPending = false ∧ s.client.mSessionId = 0
  · obtain ⟨hpending, hsession⟩ := hacc
    have hbatch :=
      startBatchingSession_batched callbacksOption batchingOptions hpending hsession
    have hmsgs := startBatchingSession_msgs callbacksOption batchingOptions hpending hsession
      s.standingAfter
    have hcond := hcond hpending hsession
    have hno : s.client.isInTracking = false := s.client.isInTracking_eq_false.mpr hsession
    have htracking : ((if sent then batchingMsgs s.client batchingOptions else []).foldl
        Standing.after s.standingAfter).tracking = s.standingAfter.tracking := by
      unfold batchingMsgs
      repeat' split
      all_goals rfl
    refine hs.work (hmsgs.sent sent) (fun h => ?_) (fun h => ?_) (fun _ h => ?_) fun _ => ?_
    · rw [htracking] at h
      have hown := hs.tracked h
      rw [tracksActively, hno] at hown
      exact absurd hown Bool.false_ne_true
    · refine hbatch.batchingId.trans ?_
      rw [Call.work, hbatch.clientId]
      split
      · rfl
      · -- a client that is not registered keeps the id it had, and sends nothing
        rename_i hreg
        rw [batchingMsgs, if_neg hreg, ite_self] at h
        exact hs.batched h
    · rw [Call.work, tracksActively, hbatch.tracking] at h
      exact absurd h Bool.false_ne_true
    · exact hs.batched_outstanding hbatch hno hcond
  · obtain ⟨hfst, hsent⟩ :=
      s.client.startBatchingSession_refused callbacksOption batchingOptions hacc
    exact hs.quiet (.same hfst) (.of_nil hsent)

/-- **An add of geofences.** -/
theorem addGeofences (hs : Followed s) {sent : Bool}
    {callbacksOption : Client.LocationCallbacks} {geofences : List GeofencePayload}
    (hcond : AnswerableCall s sent (.addGeofences callbacksOption geofences)) :
    Followed (s.clientWork ((Call.addGeofences callbacksOption geofences).work s.client) sent) := by
  cases hpending : s.client.mPositionSessionResponseCbPending with
  | true =>
    obtain ⟨hkeeps, hsent⟩ := addGeofences_keeps hpending callbacksOption geofences
    exact hs.quiet hkeeps (.of_nil hsent)
  | false =>
    obtain ⟨hkeeps, hmap⟩ := addGeofences_added callbacksOption geofences hpending
    obtain ⟨sentGeofences, hsome, hfew, hmsgs⟩ :=
      addGeofences_msgs callbacksOption geofences hpending s.standingAfter
    have hown : tracksActively (s.client.addGeofences callbacksOption geofences).1 =
        tracksActively s.client := hkeeps.tracksActively_eq
    have hneutral : ∀ msg ∈ (if sent then (if s.client.mHalRegistered then
        [ReqMsg.addGeofences sentGeofences] else []) else []), Standing.neutral msg := by
      intro msg hmsg
      repeat' split at hmsg
      · rw [List.mem_singleton.mp hmsg]
        rfl
      · exact absurd hmsg List.not_mem_nil
      · exact absurd hmsg List.not_mem_nil
    obtain ⟨htracking, hbatching⟩ := Standing.foldl_after_neutral s.standingAfter hneutral
    refine hs.work (hmsgs.sent sent) ?_ ?_ ?_ fun hwaits => ?_
    · rw [htracking, Call.work, hown]
      exact hs.tracked
    · rw [hbatching, Call.work, hkeeps.batchingId, hkeeps.clientId]
      exact hs.batched
    · rw [htracking, Call.work, hown]
      exact hs.inStep
    · rcases hcond hpending with (hans | hresending) | ⟨hnew, htold⟩
      · exact .inl hans
      · obtain ⟨hunreg, hresumes⟩ := resending_iff.mp hresending
        exact .inr (.inr ⟨hunreg, hkeeps.resumes_imp hwaits htracking hbatching hresumes⟩)
      · cases hunreg : s.unregisters with
        | true => exact .inr (.inr ⟨rfl, resumes_geofences (hmap hnew) _⟩)
        | false =>
          obtain rfl : sent = true := htold.resolve_right (by simp [hunreg])
          have hknown := hs.standingAfter_known hunreg
          rw [Sys.unregisters, Bool.or_eq_false_iff, Bool.not_eq_false'] at hunreg
          rw [if_pos rfl, if_pos hunreg.1]
          exact .inr (.inl (by simp [Standing.awaits, Standing.answers, hknown, hsome hnew, hfew]))

/-- **A call.** -/
theorem call (hs : Followed s) {a : Call} {sent : Bool} (hcond : AnswerableCall s sent a) :
    Followed (s.clientWork (a.work s.client) sent) := by
  cases a with
  | clientRegister => exact hs.quiet (.same rfl) (by simp [AllSent, Call.work,
      LocationClientApiImpl.clientRegister, Standing.neutral])
  | updateCallbacks callbacks =>
    refine hs.quiet ?_ (s.client.updateCallbacksSync_allSent (fun _ => rfl) callbacks)
    rw [Call.work, s.client.updateCallbacksSync_fst]
    exact ⟨rfl, rfl, rfl, rfl, id, fun _ => id⟩
  | startPositionSession callbacksOption trackingOptions => exact hs.startPositionSession hcond
  | stopTrackingAndClearSubscriptions => exact hs.stopTracking hcond
  | startBatchingSession callbacksOption batchingOptions => exact hs.startBatchingSession hcond
  | stopBatching => exact hs.stopBatching hcond
  | addGeofences callbacksOption geofences => exact hs.addGeofences hcond
  | removeGeofences ids =>
    exact hs.quiet (.same (s.client.requestGeofences_fst ids _))
      (s.client.requestGeofences_allSent (P := (Standing.neutral ·)) (fun _ => rfl) ids)
  | modifyGeofences geofences =>
    exact hs.quiet (modifyGeofences_keeps geofences)
      (s.client.modifyGeofences_allSent (fun _ => rfl) geofences)
  | pauseGeofences ids =>
    exact hs.quiet (.same (s.client.requestGeofences_fst ids _))
      (s.client.requestGeofences_allSent (P := (Standing.neutral ·)) (fun _ => rfl) ids)
  | resumeGeofences ids =>
    exact hs.quiet (.same (s.client.requestGeofences_fst ids _))
      (s.client.requestGeofences_allSent (P := (Standing.neutral ·)) (fun _ => rfl) ids)

end Followed

end LocationStack.Link
