import LocationStack.Link.Answers
import LocationStack.Client.Resume

/-! # Waiting for a response

`mPositionSessionResponseCbPending` is one flag for tracking, batching and geofence requests.  It
is set before it is known which message a request leads to, if any, and taken back by the next
response that is not one to a stop of tracking.  While it is set, every new session is refused.

So the question is whether something is outstanding that takes it back: a response on its way, one
that `LocationAPI` owes, a request on its way that will be answered, or, for a client that is to
be registered again, a request among what it sends then.  `Answerable` says which steps see to
that, and `Followed` what is true of client and daemon in a run of such steps.
-/
namespace LocationStack.Link

open Ipc Client Daemon EventRun

/-- The client has a tracking session that is not passive, so one that the daemon is told of. -/
def tracksActively (c : LocationClientApiImpl) : Bool := c.isInTracking && c.mLocationOptions.active

/-- Whether the client is registered after a message of the daemon. -/
def registersAfter (registered : Bool) : IndMsg → Bool
  | .capabilities _ => true
  | .halReady => false
  | .genericResp _ _ | .collectiveResp _ _ | .geofenceBreach _ => registered

/-- A client that is registered anew sends a request that a daemon answers that has this of it. -/
def resumes (c : LocationClientApiImpl) (st : Standing) : Bool :=
  tracksActively c && !st.tracking ||
    (!c.isInTracking && c.isInBatching && !st.batching) || !c.isGeofenceMapEmpty

namespace Sys

variable (s : Sys)

/-- What the daemon has of the client once it has processed what is on its way. -/
def standingAfter : Standing := s.toDaemon.foldl Standing.after (standing s.daemon.client)

/-- The client is not registered, or is about to be told that the daemon restarted. -/
def unregisters : Bool := !s.client.mHalRegistered || s.toClient.contains .halReady

/-- What the client sends when it is registered anew. -/
def resent : List ReqMsg := sentReqs s.client.onHalReady.capabilitesCallback.2

/-- A response that takes the flag back is on its way or owed, or a request is on its way that
will be answered. -/
def answering : Bool :=
  s.toClient.any clears || owes s.daemon || (standing s.daemon.client).awaits s.toDaemon

/-- The client will be registered anew, and a request is sent then that will be answered. -/
def resending : Bool :=
  s.unregisters && Standing.awaits { s.standingAfter with known := true } s.resent

/-- Something takes the flag back whatever becomes of the sessions. -/
def rescued : Bool := s.answering || (s.unregisters && !s.client.isGeofenceMapEmpty)

end Sys

/-- A client that waits for a response has something to wait for. -/
def NotStuck (s : Sys) : Prop :=
  s.client.mPositionSessionResponseCbPending → s.answering ∨ s.resending

/-! ## The condition -/

/-- A call after which the client, if it waits, waits for something that comes.

An active start reaches the daemon, or will be sent when the client is registered, to a daemon
without a session.  A passive start is answered by nothing, so something else has to be.  A start
of batching and an add of geofences reach the daemon, or will, unless something else is
outstanding.  A stop reaches a daemon that has the session, and takes nothing away that a client
that waits would send again. -/
def AnswerableCall (s : Sys) (sent : Bool) : Call → Prop
  | .startPositionSession _ trackingOptions =>
    s.client.mPositionSessionResponseCbPending = false → s.client.mBatchingId = 0 →
      (s.client.mHalRegistered && s.client.isInTracking &&
        !s.client.isOptionUpdated trackingOptions) = false →
        if trackingOptions.active then
          (s.client.mHalRegistered ∧ sent) ∨
            (s.unregisters ∧ (s.standingAfter.tracking = false ∨ s.rescued))
        else
          s.rescued ∧ (s.standingAfter.tracking → s.client.mHalRegistered ∧ sent)
  | .stopTrackingAndClearSubscriptions =>
    s.standingAfter.tracking → s.client.mHalRegistered ∧ sent
  | .startBatchingSession _ _ =>
    s.client.mPositionSessionResponseCbPending = false → s.client.mSessionId = 0 →
      (s.answering ∨ s.resending) ∨
        (s.client.mHalRegistered ∧ s.standingAfter.batching = false ∧ (sent ∨ s.unregisters))
  | .stopBatching =>
    s.client.mBatchingId ≠ 0 →
      (s.standingAfter.batching → sent) ∧
        (s.client.mPositionSessionResponseCbPending → s.rescued ∨ s.standingAfter.batching)
  | .addGeofences _ geofences =>
    s.client.mPositionSessionResponseCbPending = false →
      (s.answering ∨ s.resending) ∨ (geofences ≠ [] ∧ (sent ∨ s.unregisters))
  | .clientRegister | .updateCallbacks _ | .removeGeofences _ | .modifyGeofences _
  | .pauseGeofences _ | .resumeGeofences _ => True

/-- A client that becomes registered sends what it has to, unless it is told again that the
daemon restarted. -/
def AnswerableMsg (s : Sys) (sent : Bool) : IndMsg → Prop
  | .capabilities _ =>
    s.client.mHalRegistered = false →
      (tracksActively s.client → sent ∨ .halReady ∈ s.toClient) ∧
        (s.client.mPositionSessionResponseCbPending →
          sent ∨ .halReady ∈ s.toClient ∨ s.answering)
  | .halReady | .genericResp _ _ | .collectiveResp _ _ | .geofenceBreach _ => True

/-- A step after which the client, if it waits, waits for something that comes. -/
def Answerable (s : Sys) : Event → Prop
  | .call a sent => AnswerableCall s sent a
  | .processClientMsg ret mIpcSender rc =>
    ∀ msg ∈ s.toDaemon.head?, Accepts (standing s.daemon.client) ret mIpcSender rc msg
  | .callback e => callbackSent e
  | .onReceive sent => ∀ msg ∈ s.toClient.head?, AnswerableMsg s sent msg
  | .restart =>
    s.client.mPositionSessionResponseCbPending →
      s.toClient.any clears ∨ resumes s.client (standing none)

instance (s : Sys) : Decidable (NotStuck s) := inferInstanceAs (Decidable (_ → _))

instance (s : Sys) (sent : Bool) : (a : Call) → Decidable (AnswerableCall s sent a)
  | .startPositionSession _ trackingOptions =>
    inferInstanceAs (Decidable (s.client.mPositionSessionResponseCbPending = false →
      s.client.mBatchingId = 0 →
        (s.client.mHalRegistered && s.client.isInTracking &&
          !s.client.isOptionUpdated trackingOptions) = false →
          if trackingOptions.active then
            (s.client.mHalRegistered ∧ sent) ∨
              (s.unregisters ∧ (s.standingAfter.tracking = false ∨ s.rescued))
          else
            s.rescued ∧ (s.standingAfter.tracking → s.client.mHalRegistered ∧ sent)))
  | .stopTrackingAndClearSubscriptions =>
    inferInstanceAs (Decidable (s.standingAfter.tracking → s.client.mHalRegistered ∧ sent))
  | .startBatchingSession _ _ =>
    inferInstanceAs (Decidable (s.client.mPositionSessionResponseCbPending = false →
      s.client.mSessionId = 0 →
        (s.answering ∨ s.resending) ∨
          (s.client.mHalRegistered ∧ s.standingAfter.batching = false ∧ (sent ∨ s.unregisters))))
  | .stopBatching =>
    inferInstanceAs (Decidable (s.client.mBatchingId ≠ 0 →
      (s.standingAfter.batching → sent) ∧
        (s.client.mPositionSessionResponseCbPending → s.rescued ∨ s.standingAfter.batching)))
  | .addGeofences _ geofences =>
    inferInstanceAs (Decidable (s.client.mPositionSessionResponseCbPending = false →
      (s.answering ∨ s.resending) ∨ (geofences ≠ [] ∧ (sent ∨ s.unregisters))))
  | .clientRegister | .updateCallbacks _ | .removeGeofences _ | .modifyGeofences _
  | .pauseGeofences _ | .resumeGeofences _ => inferInstanceAs (Decidable True)

instance (s : Sys) (sent : Bool) : (msg : IndMsg) → Decidable (AnswerableMsg s sent msg)
  | .capabilities _ =>
    inferInstanceAs (Decidable (s.client.mHalRegistered = false →
      (tracksActively s.client → sent ∨ .halReady ∈ s.toClient) ∧
        (s.client.mPositionSessionResponseCbPending →
          sent ∨ .halReady ∈ s.toClient ∨ s.answering)))
  | .halReady | .genericResp _ _ | .collectiveResp _ _ | .geofenceBreach _ =>
    inferInstanceAs (Decidable True)

instance (s : Sys) : (e : Event) → Decidable (Answerable s e)
  | .call a sent => inferInstanceAs (Decidable (AnswerableCall s sent a))
  | .processClientMsg ret mIpcSender rc =>
    inferInstanceAs (Decidable (∀ msg ∈ s.toDaemon.head?,
      Accepts (standing s.daemon.client) ret mIpcSender rc msg))
  | .callback e => inferInstanceAs (Decidable (callbackSent e = true))
  | .onReceive sent =>
    inferInstanceAs (Decidable (∀ msg ∈ s.toClient.head?, AnswerableMsg s sent msg))
  | .restart =>
    inferInstanceAs (Decidable (s.client.mPositionSessionResponseCbPending →
      s.toClient.any clears ∨ resumes s.client (standing none)))

/-! ## What the daemon has -/

namespace Standing

/-- Some messages have the effect of others: as many are answered, and the daemon has the same of
the client afterwards. -/
structure SameEffect (st : Standing) (msgs own : List ReqMsg) : Prop where
  awaits : st.awaits msgs = st.awaits own
  foldl : msgs.foldl Standing.after st = own.foldl Standing.after st

theorem SameEffect.refl (st : Standing) (msgs : List ReqMsg) : st.SameEffect msgs msgs := ⟨rfl, rfl⟩

/-- Messages that are lost with the others. -/
theorem SameEffect.sent {st : Standing} {msgs own : List ReqMsg} (h : st.SameEffect msgs own)
    (sent : Bool) :
    st.SameEffect (if sent then msgs else []) (if sent then own else []) := by
  cases sent with
  | true => exact h
  | false => exact .refl st []

/-- Only a client that is known has a session. -/
def Grounded (st : Standing) : Prop :=
  st.known = false → st.tracking = false ∧ st.batching = false

theorem Grounded.known {st : Standing} (h : st.Grounded)
    (hsession : st.tracking = true ∨ st.batching = true) : st.known = true := by
  by_contra hno
  obtain ⟨htracking, hbatching⟩ := h (by simpa using hno)
  rw [htracking, hbatching] at hsession
  exact absurd hsession (by decide)

theorem Grounded.after {st : Standing} (h : st.Grounded) (msg : ReqMsg) :
    (st.after msg).Grounded := by
  intro hknown
  cases msg with
  | clientRegister clientType => exact absurd hknown (by simp [Standing.after])
  | startTracking options => exact ⟨hknown, (h hknown).2⟩
  | stopTracking clearSubscriptions => exact ⟨rfl, (h hknown).2⟩
  | startBatching interval distance mode => exact ⟨(h hknown).1, hknown⟩
  | stopBatching => exact ⟨(h hknown).1, rfl⟩
  | _ => exact h hknown

theorem Grounded.foldl_after {st : Standing} (h : st.Grounded) (msgs : List ReqMsg) :
    (msgs.foldl Standing.after st).Grounded := by
  induction msgs generalizing st with
  | nil => exact h
  | cons msg msgs ih => exact ih (h.after msg)

end Standing

theorem standing_grounded (client : Entry) : (standing client).Grounded := by
  intro hknown
  cases client with
  | none => exact ⟨rfl, rfl⟩
  | some h => exact absurd hknown (by simp [standing])

theorem Sys.standingAfter_grounded (s : Sys) : s.standingAfter.Grounded :=
  (standing_grounded _).foldl_after _

/-- A registered client stays so until it is told of a restart. -/
theorem foldl_registersAfter {msgs : List IndMsg} (h : .halReady ∉ msgs) :
    msgs.foldl registersAfter true = true := by
  induction msgs with
  | nil => rfl
  | cons msg msgs ih =>
    have hrest := ih fun hmem => h (List.mem_cons_of_mem _ hmem)
    cases msg with
    | halReady => exact absurd (List.mem_cons_self ..) h
    | _ => exact hrest

/-! ## What is sent again -/

section Resent

variable {s : Sys}

/-- The geofences of a map that is not empty are sent as some, and no more than there may be. -/
theorem answers_geofenceMap {c : LocationClientApiImpl} (hmap : c.isGeofenceMapEmpty = false)
    {st : Standing} (hknown : st.known = true) :
    st.answers (.addGeofences (c.repaired.take maxGeofenceEntry)) = true := by
  have hlength : c.repaired.length = c.mGeofenceMap.entries.length := by
    simp [LocationClientApiImpl.repaired, LocationClientApiImpl.mapped]
  have hpos : 0 < c.repaired.length := by
    rw [hlength]
    refine List.length_pos_of_ne_nil fun hnil => ?_
    rw [LocationClientApiImpl.isGeofenceMapEmpty, AList.keys, hnil] at hmap
    exact absurd hmap (by simp)
  have hsome : (c.repaired.take maxGeofenceEntry).isEmpty = false := by
    refine List.isEmpty_eq_false_iff.mpr (List.ne_nil_of_length_pos ?_)
    rw [List.length_take]
    exact Nat.lt_min.mpr ⟨by decide, hpos⟩
  have hfew : (c.repaired.take maxGeofenceEntry).length ≤ Daemon.maxGeofenceCount :=
    List.length_take_le _ _
  rw [Standing.answers, hknown, hsome, decide_eq_true hfew]
  rfl

/-- The session of a client that is registered anew. -/
theorem sent_resumed (c : LocationClientApiImpl) :
    sentReqs ({ c with mHalRegistered := true } : LocationClientApiImpl).resumeSession.2 =
      if c.isInTracking then
        if c.mLocationOptions.active then [.startTracking c.mLocationOptions] else []
      else if c.isInBatching then
        [.startBatching c.mBatchingOptions.minInterval c.mBatchingOptions.minDistance
          c.mBatchingOptions.batchingMode]
      else [] :=
  LocationClientApiImpl.sent_resumeSession _ rfl

/-- Of the messages of a client that is registered anew one is answered, if it has something to
resume. -/
theorem awaits_resent {c : LocationClientApiImpl} (hreg : c.mHalRegistered = false)
    {st : Standing} (hknown : st.known = true) :
    st.awaits (sentReqs c.capabilitesCallback.2) = resumes c st := by
  have hmask : ∀ mask rest, st.awaits
      ((if mask ≠ 0 then [ReqMsg.updateCallbacks mask] else []) ++ rest) = st.awaits rest := by
    intro mask rest
    split <;> rfl
  rw [c.sent_capabilitesCallback hreg, hmask, Standing.awaits_append]
  have hsession : st.awaits (sentReqs
      ({ c with mHalRegistered := true } : LocationClientApiImpl).resumeSession.2) =
        (tracksActively c && !st.tracking ||
          (!c.isInTracking && c.isInBatching && !st.batching)) := by
    rw [sent_resumed]
    unfold tracksActively
    cases c.isInTracking <;> cases c.mLocationOptions.active <;> cases c.isInBatching <;>
      simp [Standing.awaits, Standing.answers, hknown]
  have hgeofences : ∀ st' : Standing, st'.known = true → st'.awaits
      (if c.isGeofenceMapEmpty then []
        else [.addGeofences (c.repaired.take maxGeofenceEntry)]) = !c.isGeofenceMapEmpty := by
    intro st' hknown'
    cases hmap : c.isGeofenceMapEmpty with
    | true => rfl
    | false => simp [Standing.awaits, answers_geofenceMap hmap hknown']
  rw [hsession, hgeofences _ (Standing.foldl_after_known hknown _)]
  rfl

theorem resending_iff : s.resending ↔ s.unregisters ∧ resumes s.client s.standingAfter := by
  rw [Sys.resending, Sys.resent, Bool.and_eq_true, awaits_resent rfl rfl]
  rfl

/-- An active session that the daemon does not have is one to resume. -/
theorem resumes_tracking {c : LocationClientApiImpl} (hown : tracksActively c = true)
    {st : Standing} (hnone : st.tracking = false) : resumes c st := by
  simp [resumes, hown, hnone]

theorem resumes_batching {c : LocationClientApiImpl} (htracking : c.isInTracking = false)
    (hbatching : c.mBatchingId ≠ 0) {st : Standing} (hnone : st.batching = false) :
    resumes c st := by
  have hin := c.isInBatching_iff.mpr hbatching
  simp only [resumes, htracking, hin, hnone, Bool.not_false, Bool.and_true, Bool.or_true,
    Bool.true_or]

theorem resumes_geofences {c : LocationClientApiImpl} (hmap : c.isGeofenceMapEmpty = false)
    (st : Standing) : resumes c st := by
  simp [resumes, hmap]

end Resent

/-! ## The invariant -/

/-- What the client has and the daemon has of it, in step, and what the client waits for. -/
structure Followed (s : Sys) : Prop where
  sound : Sound s.daemon
  library : ∀ msg ∈ s.toDaemon, librarySends msg
  known : s.toClient.foldl registersAfter s.client.mHalRegistered = true →
    (standing s.daemon.client).known = true
  tracked : s.standingAfter.tracking → tracksActively s.client
  batched : s.standingAfter.batching → s.client.mBatchingId = s.client.mClientId
  inStep : s.unregisters = false → tracksActively s.client → s.standingAfter.tracking
  outstanding : s.client.mPositionSessionResponseCbPending →
    s.answering ∨ (s.unregisters ∧ resumes s.client s.standingAfter)

theorem Followed.notStuck {s : Sys} (hs : Followed s) : NotStuck s := by
  intro hpending
  rw [resending_iff]
  exact hs.outstanding hpending

theorem init_followed (mClientId : { id : UInt32 // id ≠ 0 }) : Followed (.init mClientId) where
  sound := init_sound
  library := fun _ hmsg => absurd hmsg List.not_mem_nil
  known := nofun
  tracked := nofun
  batched := nofun
  inStep := nofun
  outstanding := nofun

/-! ## Work of the client -/

theorem Sys.standingAfter_clientWork (s : Sys) (r : Client.Result) (sent : Bool) :
    (s.clientWork r sent).standingAfter =
      (if sent then sentReqs r.2 else []).foldl Standing.after s.standingAfter :=
  List.foldl_append

theorem Sys.answering_clientWork (s : Sys) (r : Client.Result) (sent : Bool) :
    (s.clientWork r sent).answering =
      (s.answering || s.standingAfter.awaits (if sent then sentReqs r.2 else [])) := by
  simp only [Sys.answering, Sys.clientWork, Standing.awaits_append, Bool.or_assoc]
  rfl

namespace Followed

variable {s : Sys}

/-- A client that stays registered is known once its messages are processed. -/
theorem standingAfter_known (hs : Followed s) (h : s.unregisters = false) :
    s.standingAfter.known = true := by
  rw [Sys.unregisters, Bool.or_eq_false_iff, Bool.not_eq_false'] at h
  refine Standing.foldl_after_known (hs.known ?_) _
  rw [h.1]
  exact foldl_registersAfter (by simpa using h.2)

/-- **Work of the client.**  Some messages, which keep the daemon in step with the client, and
one of which is answered if nothing else is outstanding for a client that waits. -/
theorem of_clientWork (hsound : Sound s.daemon) (hlibrary : ∀ msg ∈ s.toDaemon, librarySends msg)
    {r : Client.Result} {sent : Bool} (hlib : AllSent (librarySends ·) r) {msgs : List ReqMsg}
    (hmsgs : s.standingAfter.SameEffect (if sent then sentReqs r.2 else []) msgs)
    (hknown : s.toClient.foldl registersAfter r.1.mHalRegistered = true →
      (standing s.daemon.client).known = true)
    (htracked : (msgs.foldl Standing.after s.standingAfter).tracking → tracksActively r.1)
    (hbatched : (msgs.foldl Standing.after s.standingAfter).batching →
      r.1.mBatchingId = r.1.mClientId)
    (hinStep : (s.clientWork r sent).unregisters = false → tracksActively r.1 →
      (msgs.foldl Standing.after s.standingAfter).tracking)
    (hout : r.1.mPositionSessionResponseCbPending → s.answering ∨ s.standingAfter.awaits msgs ∨
      ((s.clientWork r sent).unregisters ∧
        resumes r.1 (msgs.foldl Standing.after s.standingAfter))) :
    Followed (s.clientWork r sent) := by
  have hstanding := s.standingAfter_clientWork r sent
  have hanswering := s.answering_clientWork r sent
  rw [hmsgs.foldl] at hstanding
  rw [hmsgs.awaits] at hanswering
  refine ⟨hsound, ?_, hknown, ?_, ?_, ?_, ?_⟩
  · intro msg hmsg
    rcases List.mem_append.mp hmsg with hold | hnew
    · exact hlibrary msg hold
    · cases sent with
      | true => exact hlib msg hnew
      | false => exact absurd hnew List.not_mem_nil
  · rw [hstanding]
    exact htracked
  · rw [hstanding]
    exact hbatched
  · rw [hstanding]
    exact hinStep
  · rw [hstanding, hanswering, Bool.or_eq_true, or_assoc]
    exact hout

/-- The work of a call, which leaves the client registered or not. -/
theorem work (hs : Followed s) {a : Call} {sent : Bool} {msgs : List ReqMsg}
    (hmsgs : s.standingAfter.SameEffect (if sent then sentReqs (a.work s.client).2 else []) msgs)
    (htracked : (msgs.foldl Standing.after s.standingAfter).tracking →
      tracksActively (a.work s.client).1)
    (hbatched : (msgs.foldl Standing.after s.standingAfter).batching →
      (a.work s.client).1.mBatchingId = (a.work s.client).1.mClientId)
    (hinStep : s.unregisters = false → tracksActively (a.work s.client).1 →
      (msgs.foldl Standing.after s.standingAfter).tracking)
    (hout : (a.work s.client).1.mPositionSessionResponseCbPending →
      s.answering ∨ s.standingAfter.awaits msgs ∨ (s.unregisters ∧
        resumes (a.work s.client).1 (msgs.foldl Standing.after s.standingAfter))) :
    Followed (s.clientWork (a.work s.client) sent) := by
  have hreg := a.work_registered s.client
  have hunreg : (s.clientWork (a.work s.client) sent).unregisters = s.unregisters := by
    rw [Sys.unregisters, Sys.unregisters]
    exact congrArg (fun registered => !registered || _) hreg
  refine of_clientWork hs.sound hs.library (a.work_library s.client) hmsgs ?_ htracked hbatched
    ?_ ?_
  · rw [hreg]
    exact hs.known
  · rw [hunreg]
    exact hinStep
  · rw [hunreg]
    exact hout

end Followed

/-- What decides about the flag is as it was, or the client no longer waits. -/
structure Keeps (c c' : LocationClientApiImpl) : Prop where
  clientId : c'.mClientId = c.mClientId
  sessionId : c'.mSessionId = c.mSessionId
  batchingId : c'.mBatchingId = c.mBatchingId
  options : c'.mLocationOptions = c.mLocationOptions
  pending : c'.mPositionSessionResponseCbPending → c.mPositionSessionResponseCbPending
  geofences : c'.mPositionSessionResponseCbPending → c'.isGeofenceMapEmpty → c.isGeofenceMapEmpty

namespace Keeps

variable {c c' : LocationClientApiImpl} (h : Keeps c c')
include h

theorem tracksActively_eq : tracksActively c' = tracksActively c := by
  rw [tracksActively, tracksActively, LocationClientApiImpl.isInTracking, h.sessionId, h.options]
  rfl

/-- What is left to resume. -/
theorem resumes_imp (hpending : c'.mPositionSessionResponseCbPending) {st st' : Standing}
    (htracking : st'.tracking = st.tracking) (hbatching : st'.batching = st.batching)
    (hresumes : resumes c st) : resumes c' st' := by
  have hgeofences := h.geofences hpending
  simp only [resumes, h.tracksActively_eq, LocationClientApiImpl.isInTracking,
    LocationClientApiImpl.isInBatching, h.sessionId, h.batchingId, htracking, hbatching,
    Bool.or_eq_true, Bool.not_eq_true'] at hresumes ⊢
  refine hresumes.imp_right fun hmap => ?_
  by_contra hempty
  rw [hgeofences (by simpa using hempty)] at hmap
  exact absurd hmap (by simp)

end Keeps

namespace Followed

variable {s : Sys}

/-- Work that decides nothing, and messages about no session. -/
theorem quiet (hs : Followed s) {a : Call} {sent : Bool}
    (hkeeps : Keeps s.client (a.work s.client).1)
    (hneutral : AllSent (Standing.neutral ·) (a.work s.client)) :
    Followed (s.clientWork (a.work s.client) sent) := by
  have hmsgs : ∀ msg ∈ (if sent then sentReqs (a.work s.client).2 else []),
      Standing.neutral msg := by
    cases sent with
    | true => exact hneutral
    | false => exact fun msg hmsg => absurd hmsg List.not_mem_nil
  obtain ⟨htracking, hbatching⟩ := Standing.foldl_after_neutral s.standingAfter hmsgs
  refine hs.work (.refl _ _) ?_ ?_ ?_ fun hpending => ?_
  · rw [htracking, hkeeps.tracksActively_eq]
    exact hs.tracked
  · rw [hbatching, hkeeps.batchingId, hkeeps.clientId]
    exact hs.batched
  · rw [htracking, hkeeps.tracksActively_eq]
    exact hs.inStep
  · rcases hs.outstanding (hkeeps.pending hpending) with hans | ⟨hunreg, hresumes⟩
    · exact .inl hans
    · exact .inr (.inr ⟨hunreg, hkeeps.resumes_imp hpending htracking hbatching hresumes⟩)

end Followed

end LocationStack.Link
