import LocationStack.Link.PendingCalls
import LocationStack.Link.Subscriptions

/-! # The pending flag over whole runs

The messages of the daemon and the work of the daemon keep what the calls keep (`Followed`), and
so does a restart, where the client has something to send again.  So a run whose steps are all
`Answerable` leaves the client waiting only for something that is outstanding.

A passive start is not: the flag is set, and no message follows that would be answered.
-/
namespace LocationStack.Link

open Ipc Client Daemon EventRun

/-! ## A client that is registered anew -/

section Resumed

/-- It has what it had, under its own id. -/
structure Resumed (c c' : LocationClientApiImpl) : Prop where
  clientId : c'.mClientId = c.mClientId
  tracking : c'.isInTracking = c.isInTracking
  batching : c'.isInBatching = c.isInBatching
  options : c'.mLocationOptions = c.mLocationOptions
  batchingId : c'.mBatchingId =
    if !c.isInTracking && c.isInBatching then c.mClientId.val else c.mBatchingId
  geofences : c'.isGeofenceMapEmpty = c.isGeofenceMapEmpty
  pending : c'.mPositionSessionResponseCbPending = c.mPositionSessionResponseCbPending

theorem Resumed.tracksActively_eq {c c' : LocationClientApiImpl} (h : Resumed c c') :
    tracksActively c' = tracksActively c := by
  rw [tracksActively, tracksActively, h.tracking, h.options]

/-- What it has to resume, where the daemon has no more of it. -/
theorem Resumed.resumes_imp {c c' : LocationClientApiImpl} (h : Resumed c c') {st st' : Standing}
    (htracking : st.tracking = false → st'.tracking = false)
    (hbatching : st.batching = false → st'.batching = false) (hresumes : resumes c st) :
    resumes c' st' := by
  simp only [resumes, h.tracksActively_eq, h.tracking, h.batching, h.geofences, Bool.or_eq_true,
    Bool.and_eq_true, Bool.not_eq_true'] at hresumes ⊢
  rcases hresumes with (⟨hown, hnone⟩ | ⟨hin, hnone⟩) | hmap
  · exact .inl (.inl ⟨hown, htracking hnone⟩)
  · exact .inl (.inr ⟨hin, hbatching hnone⟩)
  · exact .inr hmap

variable {c : LocationClientApiImpl} (hreg : c.mHalRegistered = false)
include hreg

theorem capabilitesCallback_resumed : Resumed c c.capabilitesCallback.1 := by
  have hid : (c.mClientId.val != 0) = true := bne_iff_ne.mpr c.mClientId.2
  rw [c.capabilitesCallback_fst hreg]
  refine ⟨rfl, ?_, ?_, rfl, rfl, rfl, rfl⟩
  · unfold LocationClientApiImpl.isInTracking
    cases htracking : c.mSessionId != 0 with
    | true => exact hid
    | false => exact htracking
  · unfold LocationClientApiImpl.isInBatching
    cases hboth : !c.isInTracking && c.mBatchingId != 0 with
    | true => exact hid.trans (Bool.and_eq_true_iff.mp hboth).2.symm
    | false => rfl

theorem foldl_capabilitesCallback (st : Standing) :
    ((sentReqs c.capabilitesCallback.2).foldl Standing.after st).tracking =
        (if tracksActively c then st.known else st.tracking) ∧
      ((sentReqs c.capabilitesCallback.2).foldl Standing.after st).batching =
        if !c.isInTracking && c.isInBatching then st.known else st.batching := by
  have hmask : ∀ mask, (if mask ≠ 0 then [ReqMsg.updateCallbacks mask] else []).foldl
      Standing.after st = st := by
    intro mask
    split <;> rfl
  have hgeofences : ∀ st' : Standing, (if c.isGeofenceMapEmpty then []
      else [ReqMsg.addGeofences (c.repaired.take maxGeofenceEntry)]).foldl Standing.after st' =
        st' := by
    intro st'
    split <;> rfl
  rw [c.sent_capabilitesCallback hreg, List.foldl_append, List.foldl_append, hmask, hgeofences,
    sent_resumed]
  unfold tracksActively
  cases c.isInTracking <;> cases c.mLocationOptions.active <;> cases c.isInBatching <;>
    exact ⟨rfl, rfl⟩

/-- The same of messages that may be lost. -/
theorem foldl_capabilitesCallback_sent (st : Standing) (sent : Bool) :
    ((if sent then sentReqs c.capabilitesCallback.2 else []).foldl Standing.after st).tracking =
        (if sent && tracksActively c then st.known else st.tracking) ∧
      ((if sent then sentReqs c.capabilitesCallback.2 else []).foldl Standing.after st).batching =
        if sent && (!c.isInTracking && c.isInBatching) then st.known else st.batching := by
  cases sent with
  | true => exact foldl_capabilitesCallback hreg st
  | false => exact ⟨rfl, rfl⟩

end Resumed

namespace Followed

variable {s : Sys}

/-- A message of the daemon, other than its capabilities to a client that is not registered. -/
theorem received (hs : Followed s) {msg : IndMsg} {rest : List IndMsg}
    (hq : s.toClient = msg :: rest) {sent : Bool}
    (hneutral : AllSent (Standing.neutral ·) (s.client.onReceive msg))
    (hreg : (s.client.onReceive msg).1.mHalRegistered =
      registersAfter s.client.mHalRegistered msg)
    (hcap : ∀ mask, msg = .capabilities mask → s.client.mHalRegistered = true)
    (hkeeps : Keeps s.client (s.client.onReceive msg).1)
    (hcleared : clears msg → (s.client.onReceive msg).1.mPositionSessionResponseCbPending = false) :
    Followed ({ s with toClient := rest }.clientWork (s.client.onReceive msg) sent) := by
  have hmsgs : ∀ msg' ∈ (if sent then sentReqs (s.client.onReceive msg).2 else []),
      Standing.neutral msg' := by
    cases sent with
    | true => exact hneutral
    | false => exact fun msg hmsg => absurd hmsg List.not_mem_nil
  obtain ⟨htracking, hbatching⟩ := Standing.foldl_after_neutral s.standingAfter hmsgs
  have hunreg : ({ s with toClient := rest }.clientWork (s.client.onReceive msg) sent).unregisters =
      s.unregisters := by
    rw [Sys.unregisters, Sys.unregisters, hq]
    change (!(s.client.onReceive msg).1.mHalRegistered || rest.contains .halReady) = _
    rw [hreg]
    cases msg with
    | capabilities mask =>
      rw [hcap mask rfl]
      rfl
    | halReady => simp [registersAfter]
    | _ => rfl
  refine of_clientWork (s := { s with toClient := rest }) hs.sound hs.library
    (s.client.onReceive_library msg) (.refl _ _) ?_ ?_ ?_ ?_ fun hpending => ?_
  · intro hregisters
    rw [hreg] at hregisters
    refine hs.known ?_
    rw [hq]
    exact hregisters
  · change (List.foldl Standing.after s.standingAfter _).tracking = true → _
    rw [htracking, hkeeps.tracksActively_eq]
    exact hs.tracked
  · change (List.foldl Standing.after s.standingAfter _).batching = true → _
    rw [hbatching, hkeeps.batchingId, hkeeps.clientId]
    exact hs.batched
  · change _ → _ → (List.foldl Standing.after s.standingAfter _).tracking = true
    rw [hunreg, htracking, hkeeps.tracksActively_eq]
    exact hs.inStep
  · rcases hs.outstanding (hkeeps.pending hpending) with hans | ⟨hpast, hresumes⟩
    · -- the message is not the response that is waited for
      have hnot : clears msg = false := by
        by_contra hclears
        rw [hcleared (by simpa using hclears)] at hpending
        exact absurd hpending (by decide)
      rw [Sys.answering, hq, List.any_cons, hnot, Bool.false_or] at hans
      exact .inl hans
    · refine .inr (.inr ⟨hunreg.trans hpast, ?_⟩)
      exact hkeeps.resumes_imp hpending htracking hbatching hresumes

/-- The capabilities, to a client that is not registered. -/
theorem registered (hs : Followed s) {mask : UInt64} {rest : List IndMsg}
    (hq : s.toClient = .capabilities mask :: rest) (hreg : s.client.mHalRegistered = false)
    {sent : Bool} (hcond : AnswerableMsg s sent (.capabilities mask)) :
    Followed ({ s with toClient := rest }.clientWork (s.client.onReceive (.capabilities mask))
      sent) := by
  change Followed ({ s with toClient := rest }.clientWork s.client.capabilitesCallback sent)
  have hresumed := capabilitesCallback_resumed hreg
  obtain ⟨htracking, hbatching⟩ := foldl_capabilitesCallback_sent hreg s.standingAfter sent
  have hactive := hresumed.tracksActively_eq
  have hunreg : ({ s with toClient := rest }.clientWork s.client.capabilitesCallback sent
      ).unregisters = rest.contains .halReady := by
    rw [Sys.unregisters]
    change (!s.client.capabilitesCallback.1.mHalRegistered || rest.contains .halReady) = _
    rw [s.client.capabilitesCallback_registered]
    rfl
  have hready : .halReady ∈ s.toClient ↔ rest.contains .halReady = true := by
    rw [hq]
    simp
  -- unless it is told of a restart, the daemon knows it
  have hknown : rest.contains .halReady = false → s.standingAfter.known = true := by
    intro hstays
    refine Standing.foldl_after_known (hs.known ?_) _
    rw [hq]
    exact foldl_registersAfter (by simpa using hstays)
  obtain ⟨htold, hout⟩ := hcond hreg
  rw [hready] at htold hout
  refine of_clientWork (s := { s with toClient := rest }) hs.sound hs.library
    s.client.capabilitesCallback_library (.refl _ _) ?_ ?_ ?_ ?_ fun hpending => ?_
  · rw [s.client.capabilitesCallback_registered]
    intro hregisters
    refine hs.known ?_
    rw [hq]
    exact hregisters
  · intro h
    replace h := htracking.symm.trans h
    refine hactive.trans ?_
    cases hown : tracksActively s.client with
    | true => rfl
    | false =>
      rw [hown, Bool.and_false] at h
      exact hown.symm.trans (hs.tracked h)
  · intro h
    replace h := hbatching.symm.trans h
    refine hresumed.batchingId.trans (Eq.trans ?_ (congrArg Subtype.val hresumed.clientId.symm))
    split at h
    · rename_i hboth
      rw [if_pos (Bool.and_eq_true_iff.mp hboth).2]
    · split
      · rfl
      · exact hs.batched h
  · intro hstays hown
    rw [hunreg] at hstays
    rw [hactive] at hown
    obtain rfl : sent = true := (htold hown).resolve_right
      (by rw [hstays]; exact Bool.false_ne_true)
    refine htracking.trans ?_
    rw [hown]
    exact hknown hstays
  · rw [hresumed.pending] at hpending
    have hpast : s.answering → ({ s with toClient := rest } : Sys).answering := by
      rw [Sys.answering, Sys.answering, hq]
      exact id
    rcases hs.outstanding hpending with hans | ⟨-, hresumes⟩
    · exact .inl (hpast hans)
    by_cases hanswered : sent = true ∧ s.standingAfter.known = true
    · obtain ⟨rfl, hknows⟩ := hanswered
      exact .inr (.inl ((awaits_resent hreg hknows).trans hresumes))
    · cases hstays : rest.contains .halReady with
      | true =>
        -- a daemon that does not know it starts no session
        have hignored : ∀ {resumed none' : Bool}, none' = false →
            (if sent && resumed then s.standingAfter.known else none') = false := by
          intro resumed none' hnone
          split
          · rename_i hsent
            by_contra hknows
            exact hanswered ⟨(Bool.and_eq_true_iff.mp hsent).1, by simpa using hknows⟩
          · exact hnone
        exact .inr (.inr ⟨hunreg.trans hstays, hresumed.resumes_imp
          (fun hnone => htracking.trans (hignored hnone))
          (fun hnone => hbatching.trans (hignored hnone)) hresumes⟩)
      | false =>
        rcases hout hpending with hsent | hready | hans
        · exact absurd ⟨hsent, hknown hstays⟩ hanswered
        · rw [hstays] at hready
          exact absurd hready Bool.false_ne_true
        · exact .inl (hpast hans)

/-- A message that says nothing of the registration. -/
theorem reported (hs : Followed s) {msg : IndMsg} {rest : List IndMsg}
    (hq : s.toClient = msg :: rest) {sent : Bool} (hcap : ∀ mask, msg ≠ .capabilities mask)
    (hready : msg ≠ .halReady) (hkeeps : Keeps s.client (s.client.onReceive msg).1)
    (hcleared : clears msg → (s.client.onReceive msg).1.mPositionSessionResponseCbPending = false) :
    Followed ({ s with toClient := rest }.clientWork (s.client.onReceive msg) sent) := by
  have hreg : registersAfter s.client.mHalRegistered msg = s.client.mHalRegistered := by
    cases msg with
    | capabilities mask => exact absurd rfl (hcap mask)
    | halReady => exact absurd rfl hready
    | _ => rfl
  exact hs.received hq (.of_nil (s.client.sent_onReceive hcap))
    ((s.client.onReceive_registered hcap hready).trans hreg.symm)
    (fun mask hmask => absurd hmask (hcap mask)) hkeeps hcleared

/-- **A message of the daemon.** -/
theorem receive (hs : Followed s) {msg : IndMsg} {rest : List IndMsg}
    (hq : s.toClient = msg :: rest) {sent : Bool} (hcond : AnswerableMsg s sent msg) :
    Followed ({ s with toClient := rest }.clientWork (s.client.onReceive msg) sent) := by
  cases msg with
  | capabilities mask =>
    cases hreg : s.client.mHalRegistered with
    | false => exact hs.registered hq hreg hcond
    | true =>
      -- a client that is registered reports its mask
      have hwork : s.client.onReceive (.capabilities mask) =
          (s.client, if s.client.mCallbacksMask ≠ 0 then
            [.send (.updateCallbacks s.client.mCallbacksMask)] else []) := by
        have hself : { s.client with mHalRegistered := true } = s.client := by rw [← hreg]
        rw [LocationClientApiImpl.onReceive, LocationClientApiImpl.capabilitesCallback, hself]
        exact if_pos hreg
      refine hs.received hq ?_ ?_ (fun _ _ => hreg) ?_ (by rintro ⟨⟩)
      · rw [hwork]
        unfold AllSent
        dsimp only
        split <;> simp [Standing.neutral]
      · rw [hwork]
        exact hreg
      · rw [hwork]
        exact .same rfl
  | halReady =>
    refine hs.received hq (.of_nil rfl) rfl (by rintro _ ⟨⟩) ?_ (by rintro ⟨⟩)
    exact ⟨rfl, rfl, rfl, rfl, id, fun _ => id⟩
  | genericResp msgId err =>
    have hfst : (s.client.onReceive (.genericResp msgId err)).1 =
        if msgId ≠ .stopTracking then
          { s.client with mPositionSessionResponseCbPending := false }
        else s.client := by
      rw [LocationClientApiImpl.onReceive, LocationClientApiImpl.onGenericResponse]
      split
      · exact s.client.invokePositionSessionResponseCb_fst err
      · rfl
    refine hs.reported hq (by rintro _ ⟨⟩) (by rintro ⟨⟩) ?_ fun hclears => ?_
    · rw [hfst]
      split
      · exact ⟨rfl, rfl, rfl, rfl, by rintro ⟨⟩, by rintro ⟨⟩⟩
      · exact .same rfl
    · rw [hfst, if_pos (by simpa [clears] using hclears)]
  | collectiveResp msgId resp =>
    -- the flag is taken back with a callback and without one
    have hfst : ∃ mask cbs map, (s.client.onReceive (.collectiveResp msgId resp)).1 =
        { s.client with
          mPositionSessionResponseCbPending := false
          mCallbacksMask := mask
          mLocationCbs := cbs
          mGeofenceMap := map } := by
      rw [LocationClientApiImpl.onReceive, LocationClientApiImpl.onCollectiveResponse]
      split
      · dsimp only
        split <;> exact ⟨_, _, _, rfl⟩
      · exact ⟨_, _, _, rfl⟩
    obtain ⟨mask, cbs, map, hfst⟩ := hfst
    refine hs.reported hq (by rintro _ ⟨⟩) (by rintro ⟨⟩) ?_ fun _ => ?_
    · rw [hfst]
      exact ⟨rfl, rfl, rfl, rfl, by rintro ⟨⟩, by rintro ⟨⟩⟩
    · rw [hfst]
  | geofenceBreach ids =>
    have hfst : (s.client.onReceive (.geofenceBreach ids)).1 = s.client := by
      rw [LocationClientApiImpl.onReceive, LocationClientApiImpl.onGeofenceBreach]
      repeat' split
      all_goals rfl
    exact hs.reported hq (by rintro _ ⟨⟩) (by rintro ⟨⟩) (.same hfst) (by rintro ⟨⟩)

/-- **Work of the daemon.**  It sends to a client it knows, tells of no restart, and leaves what is
to come of it as it was. -/
theorem of_daemonWork (hs : Followed s) {toDaemon : List ReqMsg} {daemon : Daemon.State}
    {sent : List IndMsg} (hsound : Sound daemon) (hlibrary : ∀ msg ∈ toDaemon, librarySends msg)
    (hstanding : toDaemon.foldl Standing.after (standing daemon.client) = s.standingAfter)
    (hknown : (standing s.daemon.client).known → (standing daemon.client).known)
    (hsent : ∀ ind ∈ sent, ind ≠ .halReady ∧ (standing s.daemon.client).known)
    (hans : s.answering →
      Sys.answering { s with
        toDaemon := toDaemon, daemon := daemon, toClient := s.toClient ++ sent }) :
    Followed { s with
      toDaemon := toDaemon, daemon := daemon, toClient := s.toClient ++ sent } := by
  have hunreg : Sys.unregisters { s with
      toDaemon := toDaemon, daemon := daemon, toClient := s.toClient ++ sent } = s.unregisters := by
    have hno : sent.contains .halReady = false := by
      rw [← Bool.not_eq_true, List.contains_iff_mem]
      exact fun hmem => (hsent _ hmem).1 rfl
    rw [Sys.unregisters, Sys.unregisters]
    dsimp only
    rw [List.contains_append, hno, Bool.or_false]
  refine ⟨hsound, hlibrary, ?_, ?_, ?_, ?_, fun hpending => ?_⟩
  · intro hregisters
    refine hknown ?_
    cases sent with
    | nil =>
      rw [List.append_nil] at hregisters
      exact hs.known hregisters
    | cons ind inds => exact (hsent ind (List.mem_cons_self ..)).2
  · rw [Sys.standingAfter, hstanding]
    exact hs.tracked
  · rw [Sys.standingAfter, hstanding]
    exact hs.batched
  · rw [hunreg, Sys.standingAfter, hstanding]
    exact hs.inStep
  · rw [hunreg, Sys.standingAfter, hstanding]
    exact (hs.outstanding hpending).imp_left hans

/-- **A message of the client.** -/
theorem processClientMsg (hs : Followed s) {mPositionMode : GnssSuplMode} {ret : HalReturns}
    {mIpcSender rc : Bool} {msg : ReqMsg} {rest : List ReqMsg} (hq : s.toDaemon = msg :: rest)
    (hmay : s.daemon.hal.MayAnswer ret msg)
    (haccepts : Accepts (standing s.daemon.client) ret mIpcSender rc msg) :
    Followed ({ s with toDaemon := rest }.daemonWork mPositionMode
      (.request msg ret mIpcSender rc)) := by
  have hlib := hs.library msg (by rw [hq]; exact List.mem_cons_self ..)
  have hp : Processed s.daemon
      (stepActs mPositionMode s.daemon (.request msg ret mIpcSender rc)).1 msg
      (sentMsgs (stepActs mPositionMode s.daemon (.request msg ret mIpcSender rc)).2) :=
    hs.sound.request hlib hmay haccepts
  refine hs.of_daemonWork hp.sound
    (fun msg' hmsg' => hs.library msg' (by rw [hq]; exact List.mem_cons_of_mem _ hmsg')) ?_ ?_ ?_ ?_
  · rw [hp.standing, Sys.standingAfter, hq]
    rfl
  · rw [hp.standing]
    exact fun hknown => Standing.foldl_after_known hknown [msg]
  · intro ind hind
    obtain ⟨⟨mask, rfl⟩, hknown⟩ := hp.sent ind hind
    exact ⟨nofun, hknown⟩
  · rw [Sys.answering, Sys.answering, hq, Standing.awaits]
    simp only [Bool.or_eq_true, List.any_append, hp.standing]
    -- the message is awaited no longer, but owed
    rintro ((hcleared | howes) | hans | hawaits)
    · exact .inl (.inl (.inl hcleared))
    · exact .inl (.inr (hp.owes howes))
    · exact .inl (.inr (hp.answers hans))
    · exact .inr hawaits

/-- **A callback of `LocationAPI`.** -/
theorem callback (hs : Followed s) {mPositionMode : GnssSuplMode} {e : Daemon.Event}
    (he : isCallback e) (hsent : callbackSent e) : Followed (s.daemonWork mPositionMode e) := by
  have hp : CalledBack s.daemon (stepActs mPositionMode s.daemon e).1
      (sentMsgs (stepActs mPositionMode s.daemon e).2) := hs.sound.callback he hsent
  refine hs.of_daemonWork hp.sound hs.library ?_ ?_ hp.sent ?_
  · rw [hp.standing]
    rfl
  · rw [hp.standing]
    exact id
  · rw [Sys.answering, Sys.answering]
    simp only [Bool.or_eq_true, List.any_append, hp.standing]
    rintro ((hcleared | howes) | hawaits)
    · exact .inl (.inl (.inl hcleared))
    · rcases hp.owes howes with howes' | hcleared
      · exact .inl (.inr howes')
      · exact .inl (.inl (.inr hcleared))
    · exact .inr hawaits

/-- **A restart of the daemon.** -/
theorem restart (hcond : Answerable s .restart) :
    Followed { s with toDaemon := [], daemon := .init, toClient := s.toClient ++ [.halReady] } where
  sound := init_sound
  library := fun _ hmsg => absurd hmsg List.not_mem_nil
  known := by
    rw [List.foldl_append]
    exact nofun
  tracked := nofun
  batched := nofun
  inStep := by
    intro hunreg
    simp [Sys.unregisters] at hunreg
  outstanding := by
    intro hpending
    -- the daemon owes nothing, and the requests in flight to it are lost
    rcases hcond hpending with hcleared | hresumes
    · exact .inl (by simp [Sys.answering, hcleared])
    · exact .inr ⟨by simp [Sys.unregisters], hresumes⟩

end Followed

/-! ## Runs -/

/-- **One step.** -/
theorem step_followed (mPositionMode : GnssSuplMode) (s : Sys) (e : Event) (hs : Followed s)
    (hcond : Answerable s e) : Followed (step mPositionMode s e) := by
  apply step_induction e hs
  · rintro a sent rfl
    exact hs.call hcond
  · rintro ret mIpcSender rc rfl msg rest hq hmay
    exact hs.processClientMsg hq hmay (hcond msg (by rw [hq]; rfl))
  · rintro d rfl hd
    exact hs.callback hd hcond
  · rintro sent rfl msg rest hq
    exact hs.receive hq (hcond msg (by rw [hq]; rfl))
  · rintro rfl
    exact .restart hcond

/-- **No client is stuck.**  In a run whose steps are all answerable, a client that waits for a
response has something outstanding that takes the flag back, in every state of the run. -/
theorem pending_outstanding (mPositionMode : GnssSuplMode)
    (mClientId : { id : UInt32 // id ≠ 0 }) {es : List Event}
    (hes : Meets (step mPositionMode) Answerable (.init mClientId) es) :
    Throughout (step mPositionMode) NotStuck (.init mClientId) es :=
  (throughout_of_meets (step_followed mPositionMode) (init_followed mClientId) hes).imp
    fun _ => Followed.notStuck

/-- A session is started while the daemon restarts, resumed once the client is registered again,
updated, and stopped. -/
theorem restartedStart_outstanding :
    Throughout (step .standalone) NotStuck (.init ⟨1, by decide⟩)
      (register ++ [.call (.startPositionSession wantsLocations everySecond) true, processed,
        .restart, .onReceive true] ++ register ++ [processed, processed,
        .callback (.responseCb .success true), .onReceive true,
        .call (.startPositionSession wantsLocations { everySecond with minInterval := 2000 }) true,
        processed, processed, .callback (.responseCb .success true), .onReceive true,
        .call .stopTrackingAndClearSubscriptions true, processed]) :=
  pending_outstanding .standalone _ (by decide +kernel)

/-- A registered client starts a passive session: it waits, and nothing is to come. -/
theorem passiveStart_stuck :
    ¬Throughout (step .standalone) NotStuck (.init ⟨1, by decide⟩)
      (register ++ [.call (.startPositionSession wantsLocations .zero) true, processed]) := by
  intro hall
  exact absurd hall.last (by decide +kernel)

end LocationStack.Link
