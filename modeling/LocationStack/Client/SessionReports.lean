import LocationStack.Client.Calls

/-! # Reports and the callbacks of a session

A position session brings its callbacks: `updateCallbacksSync` puts them into `mLocationCbs`,
`clearSubscriptions` takes them out when the session is stopped or another one takes its place,
and the handlers of `onReceive` call them.  The three do not go through the same members.

`Sessions` is the client object with, for each of these members, the number of the session that
supplied the callback in it.  A report must reach callbacks of the session in force only.
-/
namespace LocationStack.Client

open Ipc EventRun

/-- The members of `mLocationCbs` that reports of a position session go to. -/
inductive TrackingCb
  | trackingCb
  | gnssLocationInfoCb
  | engineLocationsInfoCb
  | gnssSvCb
  | gnssNmeaCb
  | gnssDataCb
  | gnssMeasurementsCb
  | gnssNHzMeasurementsCb
  | gnssDcReportCb
  | engineNmeaCb
  | svEphemerisCb
  deriving DecidableEq, Repr

namespace TrackingCb

/-- The member is set. -/
def given (cbs : LocationCallbacks) : TrackingCb → Bool
  | trackingCb => cbs.trackingCb
  | gnssLocationInfoCb => cbs.gnssLocationInfoCb
  | engineLocationsInfoCb => cbs.engineLocationsInfoCb
  | gnssSvCb => cbs.gnssSvCb
  | gnssNmeaCb => cbs.gnssNmeaCb
  | gnssDataCb => cbs.gnssDataCb
  | gnssMeasurementsCb => cbs.gnssMeasurementsCb
  | gnssNHzMeasurementsCb => cbs.gnssNHzMeasurementsCb
  | gnssDcReportCb => cbs.gnssDcReportCb
  | engineNmeaCb => cbs.engineNmeaCb
  | svEphemerisCb => cbs.svEphemerisCb

/-- The bit the member has in `mCallbacksMask`. -/
def bit : TrackingCb → LocationCallbacksMask
  | trackingCb => eLocCbTrackingBit
  | gnssLocationInfoCb => eLocCbGnssLocationInfoBit
  | engineLocationsInfoCb => eLocCbEngineLocationsInfoBit
  | gnssSvCb => eLocCbGnssSvBit
  | gnssNmeaCb => eLocCbGnssNmeaBit
  | gnssDataCb => eLocCbGnssDataBit
  | gnssMeasurementsCb => eLocCbGnssMeasBit
  | gnssNHzMeasurementsCb => eLocCbGnssNhzMeasBit
  | gnssDcReportCb => eLocCbGnssDcReportBit
  | engineNmeaCb => eLocCbEngineNmeaBit
  | svEphemerisCb => eLocCbGnssEphBit

/-- `clearSubscriptions(TRACKING_CBS)` sets the member to null. -/
def cleared : TrackingCb → Bool
  | gnssDcReportCb | engineNmeaCb => false
  | _ => true

end TrackingCb

/-! ## The handlers of the reports -/

/-- The messages of the daemon that report to a position session. -/
inductive Report
  | location
  | locationInfo
  | engineLocationsInfo
  | satelliteVehicle
  | nmea
  | data
  | dcReport
  | meas (isNhz : Bool)
  | ephemeris
  deriving DecidableEq, Repr

namespace LocationClientApiImpl

variable (c : LocationClientApiImpl)

/-- A session is running and has been answered. -/
def takesReports : Bool := c.isInTracking && !c.mPositionSessionResponseCbPending

/-- The report is subscribed to, under one of the bits. -/
def subscribed (bits : LocationCallbacksMask) : Bool := c.mCallbacksMask &&& bits != 0

/-- A member is called, if it is set. -/
def callIf (cb : TrackingCb) : List TrackingCb :=
  if cb.given c.mLocationCbs then [cb] else []

/-- The callbacks that the handler of a report in `IpcListener::onReceive` calls.  NMEA of either
kind goes to both its callbacks; `engineLocationsInfoCb` is called without a test. -/
def onReport : Report → List TrackingCb
  | .location =>
    if c.takesReports && c.subscribed eLocCbTrackingBit then c.callIf .trackingCb else []
  | .locationInfo =>
    if c.takesReports && c.subscribed eLocCbGnssLocationInfoBit then
      c.callIf .gnssLocationInfoCb
    else []
  | .engineLocationsInfo =>
    if c.takesReports && c.subscribed eLocCbEngineLocationsInfoBit then
      [.engineLocationsInfoCb]
    else []
  | .satelliteVehicle =>
    if c.takesReports && c.subscribed eLocCbGnssSvBit then c.callIf .gnssSvCb else []
  | .nmea =>
    if c.takesReports && c.subscribed (eLocCbGnssNmeaBit ||| eLocCbEngineNmeaBit) then
      c.callIf .gnssNmeaCb ++ c.callIf .engineNmeaCb
    else []
  | .data =>
    if c.takesReports && c.subscribed eLocCbGnssDataBit then c.callIf .gnssDataCb else []
  | .dcReport =>
    if c.takesReports && c.subscribed eLocCbGnssDcReportBit then c.callIf .gnssDcReportCb
    else []
  | .meas isNhz =>
    if c.takesReports then
      if isNhz then
        if c.subscribed eLocCbGnssNhzMeasBit then c.callIf .gnssNHzMeasurementsCb else []
      else if c.subscribed eLocCbGnssMeasBit then c.callIf .gnssMeasurementsCb
      else []
    else []
  | .ephemeris =>
    if c.takesReports && c.subscribed eLocCbGnssEphBit then c.callIf .svEphemerisCb else []

end LocationClientApiImpl

/-! ## Sessions -/

/-- The client object, and whose the callbacks in it are. -/
structure Sessions where
  client : LocationClientApiImpl
  /-- The session that supplied the callback a member holds. -/
  supplier : TrackingCb → Option Nat
  /-- The number of sessions so far, which is the number of the last one. -/
  count : Nat
  /-- The last session has not been stopped. -/
  inForce : Bool
  /-- What the last session supplied. -/
  supplied : LocationCallbacks
  /-- Some session supplied an `engineNmeaCb`. -/
  engineNmea : Bool

namespace Sessions

def init (mClientId : { id : UInt32 // id ≠ 0 }) : Sessions :=
  ⟨.new mClientId, fun _ => none, 0, false, .zero, false⟩

inductive Event
  | startPositionSession (callbacksOption : LocationCallbacks)
      (trackingOptions : TrackingOptions)
  | stopTrackingAndClearSubscriptions
  | receive (msg : IndMsg)
  | report (r : Report)

variable (s : Sessions)

/-- A session can be started: no answer is pending and the client is not in batching. -/
def Accepts : Prop :=
  s.client.mPositionSessionResponseCbPending = false ∧ s.client.mBatchingId = 0

instance : Decidable s.Accepts := inferInstanceAs (Decidable (_ ∧ _))

/-- The members after `clearSubscriptions(TRACKING_CBS)`. -/
def clear (supplier : TrackingCb → Option Nat) (cb : TrackingCb) : Option Nat :=
  if cb.cleared then none else supplier cb

def startPositionSession (callbacksOption : LocationCallbacks)
    (trackingOptions : TrackingOptions) : Sessions :=
  let client := (s.client.startPositionSession callbacksOption trackingOptions).1
  if s.Accepts then
    { client := client
      supplier := fun cb =>
        if cb.given callbacksOption then some (s.count + 1) else clear s.supplier cb
      count := s.count + 1
      inForce := true
      supplied := callbacksOption
      engineNmea := s.engineNmea || callbacksOption.engineNmeaCb }
  else { s with client := client }

def step : Event → Sessions
  | .startPositionSession callbacksOption trackingOptions =>
      s.startPositionSession callbacksOption trackingOptions
  | .stopTrackingAndClearSubscriptions =>
      { s with
        client := s.client.stopTrackingAndClearSubscriptions.1
        supplier := clear s.supplier
        inForce := false }
  | .receive msg => { s with client := (s.client.onReceive msg).1 }
  | .report _ => s

/-- The report is delivered to callbacks of the session in force only. -/
def OwnCallbacks : Event → Prop
  | .report r => ∀ cb ∈ s.client.onReport r, s.inForce ∧ s.supplier cb = some s.count
  | _ => True

/-- The condition on it: a session that takes NMEA reports has an `engineNmeaCb` of its own, or
no session has ever had one. -/
def Fits : Event → Prop
  | .report .nmea =>
      s.inForce → s.client.mPositionSessionResponseCbPending = false → s.supplied.gnssNmeaCb →
        s.supplied.engineNmeaCb ∨ ¬ s.engineNmea
  | _ => True

end Sessions

/-! ## What the operations do to the members and their bits -/

theorem and_or_bits (x y b : LocationCallbacksMask) :
    ((x ||| y) &&& b != 0) = ((x &&& b != 0) || (y &&& b != 0)) := by
  rw [BitVec.and_or_distrib_right, Bool.eq_iff_iff]
  simp only [bne_iff_ne, Bool.or_eq_true]
  exact BitVec.or_eq_zero_iff.not.trans not_and_or

theorem bitIf_bits (cb : Bool) (bit b : LocationCallbacksMask) :
    (LocationClientApiImpl.bitIf cb bit &&& b != 0) = (cb && (bit &&& b != 0)) := by
  cases cb with
  | false => simp [LocationClientApiImpl.bitIf]
  | true => rfl

namespace LocationClientApiImpl

variable (c : LocationClientApiImpl)

/-- The mask the callbacks are converted to has the bits of those that are given. -/
theorem callBacksMask_bit (callbacks : LocationCallbacks) (cb : TrackingCb) :
    (c.callBacksMask callbacks &&& cb.bit != 0) = cb.given callbacks := by
  unfold callBacksMask
  simp only [and_or_bits, bitIf_bits]
  cases cb <;>
    simp [TrackingCb.bit, TrackingCb.given, eLocCbTrackingBit, eLocCbGnssLocationInfoBit,
      eLocCbGnssSvBit, eLocCbGnssNmeaBit, eLocCbGnssDataBit, eLocCbSystemInfoBit,
      eLocCbBatchingBit, eLocCbBatchingStatusBit, eLocCbGeofenceBreachBit,
      eLocCbEngineLocationsInfoBit, eLocCbGnssMeasBit, eLocCbGnssNhzMeasBit,
      eLocCbGnssDcReportBit, eLocCbEngineNmeaBit, eLocCbGnssEphBit]

theorem mergeCallbacks_given (old callbacks : LocationCallbacks) (cb : TrackingCb) :
    cb.given (mergeCallbacks old callbacks) = (cb.given old || cb.given callbacks) := by
  cases cb <;> rfl

theorem clearTrackingSubscriptions_bit (cb : TrackingCb) :
    c.clearTrackingSubscriptions.subscribed cb.bit = false := by
  have hbit : ~~~locationSessonAllInfoMask &&& cb.bit = 0 := by cases cb <;> decide
  simp [subscribed, clearTrackingSubscriptions, BitVec.and_assoc, hbit]

theorem clearTrackingSubscriptions_given (cb : TrackingCb) :
    cb.given c.clearTrackingSubscriptions.mLocationCbs =
      (!cb.cleared && cb.given c.mLocationCbs) := by
  cases cb <;> rfl

/-- A session that is accepted has the members it supplies, over those that were not set to
null, and the bits of the members it supplies. -/
theorem startPositionSession_members (callbacksOption : LocationCallbacks)
    (trackingOptions : TrackingOptions) (hp : c.mPositionSessionResponseCbPending = false)
    (hb : c.mBatchingId = 0) (cb : TrackingCb) :
    let c' := (c.startPositionSession callbacksOption trackingOptions).1
    c'.mSessionId ≠ 0 ∧ c'.subscribed cb.bit = cb.given callbacksOption ∧
      cb.given c'.mLocationCbs =
        (!cb.cleared && cb.given c.mLocationCbs || cb.given callbacksOption) := by
  intro c'
  have hc' : c' = ((({ c with mPositionSessionResponseCbPending := true } :
      LocationClientApiImpl).clearTrackingSubscriptions.updateCallbacksSync
        callbacksOption).1.startTrackingSync trackingOptions).1 := by
    show (c.startPositionSession callbacksOption trackingOptions).1 = _
    rw [c.startPositionSession_accepted _ _ hp hb, Result.andThen_fst]
  rw [startTrackingSync_fst, updateCallbacksSync_fst] at hc'
  refine ⟨?_, ?_, ?_⟩
  · rw [hc']
    dsimp only
    split
    · rename_i h
      exact (isInTracking_iff _).mp (Bool.and_eq_true_iff.mp h).2
    · exact c.mClientId.2
  · rw [hc', subscribed, and_or_bits, callBacksMask_bit]
    have hbit := ({ c with mPositionSessionResponseCbPending := true } :
      LocationClientApiImpl).clearTrackingSubscriptions_bit cb
    rw [subscribed] at hbit
    rw [hbit, Bool.false_or]
  · rw [hc', mergeCallbacks_given, clearTrackingSubscriptions_given]

/-! ## What a message of the daemon leaves of a session -/

/-- Tracking, members and bits are as they were. -/
structure SameMembers (c c' : LocationClientApiImpl) : Prop where
  tracking : c'.mSessionId ≠ 0 ↔ c.mSessionId ≠ 0
  bits : ∀ cb : TrackingCb, c'.subscribed cb.bit = c.subscribed cb.bit
  members : ∀ cb : TrackingCb, cb.given c'.mLocationCbs = cb.given c.mLocationCbs

theorem SameMembers.rfl' : SameMembers c c := ⟨Iff.rfl, fun _ => rfl, fun _ => rfl⟩

theorem clearGeofenceSubscriptions_same : SameMembers c c.clearGeofenceSubscriptions := by
  refine ⟨Iff.rfl, ?_, ?_⟩
  · intro cb
    have hbit : ~~~locationGeofenceSessionMask &&& cb.bit = cb.bit := by cases cb <;> decide
    simp only [subscribed, clearGeofenceSubscriptions, BitVec.and_assoc, hbit]
  · intro cb
    cases cb <;> rfl

theorem resumeSession_same : SameMembers c c.resumeSession.1 := by
  unfold resumeSession
  split
  · rename_i ht
    rw [startTrackingSync_fst]
    refine ⟨?_, fun _ => rfl, fun _ => rfl⟩
    have hid : c.mSessionId ≠ 0 := c.isInTracking_iff.mp ht
    simp [isInTracking, hid, c.mClientId.2]
  · split
    · rw [startBatchingSync_fst]
      exact ⟨Iff.rfl, fun _ => rfl, fun _ => rfl⟩
    · exact .rfl' c

theorem onReceive_same (msg : IndMsg) : SameMembers c (c.onReceive msg).1 := by
  cases msg with
  | capabilities mask =>
    simp only [onReceive, capabilitesCallback]
    split
    · exact ⟨Iff.rfl, fun _ => rfl, fun _ => rfl⟩
    · rw [Result.andThen_fst, resumeGeofenceMap_fst, Result.andThen_fst]
      obtain ⟨ht, hb, hm⟩ := resumeSession_same { c with mHalRegistered := true }
      exact ⟨ht, hb, hm⟩
  | halReady => exact ⟨Iff.rfl, fun _ => rfl, fun _ => rfl⟩
  | genericResp msgId err =>
    simp only [onReceive, onGenericResponse]
    split
    · rw [c.invokePositionSessionResponseCb_fst]
      exact ⟨Iff.rfl, fun _ => rfl, fun _ => rfl⟩
    · exact .rfl' c
  | collectiveResp msgId resp =>
    simp only [onReceive, onCollectiveResponse]
    split
    · dsimp only [eraseGeofenceMap]
      split
      · obtain ⟨ht, hb, hm⟩ := c.clearGeofenceSubscriptions_same
        exact ⟨ht, hb, hm⟩
      · exact ⟨Iff.rfl, fun _ => rfl, fun _ => rfl⟩
    · exact ⟨Iff.rfl, fun _ => rfl, fun _ => rfl⟩
  | geofenceBreach ids =>
    simp only [onReceive, onGeofenceBreach]
    split
    · split <;> exact .rfl' c
    · exact .rfl' c

end LocationClientApiImpl

/-! ## Whose the members are -/

namespace Sessions

/-- **What every run keeps.**  The bits are those of the session in force; the members are its
own, but for the two that are not set to null and that it did not supply. -/
structure Attributed (s : Sessions) : Prop where
  force : s.client.mSessionId ≠ 0 ↔ s.inForce
  bits : ∀ cb : TrackingCb, s.client.subscribed cb.bit = (s.inForce && cb.given s.supplied)
  held : ∀ cb : TrackingCb, cb.given s.client.mLocationCbs = (s.supplier cb).isSome
  own : ∀ cb, s.inForce → cb.given s.supplied → s.supplier cb = some s.count
  cleared : ∀ cb, cb.cleared → (s.supplier cb).isSome → s.inForce ∧ cb.given s.supplied
  foreign : ∀ cb, s.inForce → ¬ cb.given s.supplied → s.supplier cb ≠ some s.count
  bound : ∀ cb k, s.supplier cb = some k → k ≤ s.count
  engine : (s.supplier .engineNmeaCb).isSome = s.engineNmea

theorem init_attributed (mClientId : { id : UInt32 // id ≠ 0 }) :
    (init mClientId).Attributed where
  force := by simp [init, LocationClientApiImpl.new]
  bits := by intro cb; simp [init, LocationClientApiImpl.new, LocationClientApiImpl.subscribed]
  held := by intro cb; cases cb <;> rfl
  own := by intro cb h; cases h
  cleared := by intro cb _ h; cases h
  foreign := by intro cb h; cases h
  bound := by intro cb k h; cases h
  engine := rfl

variable {s : Sessions}

theorem clear_eq_some {supplier : TrackingCb → Option Nat} {cb : TrackingCb} {k : Nat}
    (h : clear supplier cb = some k) : cb.cleared = false ∧ supplier cb = some k := by
  unfold clear at h
  split at h
  · cases h
  · exact ⟨by simpa using ‹¬ cb.cleared = true›, h⟩

theorem clear_isSome (supplier : TrackingCb → Option Nat) (cb : TrackingCb) :
    (clear supplier cb).isSome = (!cb.cleared && (supplier cb).isSome) := by
  unfold clear
  cases cb.cleared <;> simp

/-- An accepted session owns the members it supplies. -/
theorem Attributed.start (h : s.Attributed) (callbacksOption : LocationCallbacks)
    (trackingOptions : TrackingOptions) :
    (s.startPositionSession callbacksOption trackingOptions).Attributed := by
  unfold startPositionSession
  dsimp only
  by_cases hacc : s.Accepts
  · rw [if_pos hacc]
    have hmem := s.client.startPositionSession_members callbacksOption trackingOptions
      hacc.1 hacc.2
    refine
      { force := ⟨fun _ => rfl, fun _ => (hmem .trackingCb).1⟩
        bits := fun cb => (hmem cb).2.1
        held := ?held
        own := fun cb _ hg => if_pos hg
        cleared := ?cleared
        foreign := ?foreign
        bound := ?bound
        engine := ?engine }
    case held =>
      intro cb
      rw [(hmem cb).2.2, h.held]
      dsimp only
      split
      · rename_i hg
        simp [hg]
      · rename_i hg
        rw [clear_isSome]
        simp [hg]
    case cleared =>
      intro cb hc hsome
      refine ⟨rfl, ?_⟩
      by_contra hg
      dsimp only at hsome hg
      rw [if_neg hg, clear_isSome, hc] at hsome
      cases hsome
    case foreign =>
      intro cb _ hg heq
      dsimp only at hg heq
      rw [if_neg hg] at heq
      have hle := h.bound cb _ (clear_eq_some heq).2
      exact absurd hle (by simp)
    case bound =>
      intro cb k heq
      dsimp only at heq
      by_cases hg : cb.given callbacksOption
      · rw [if_pos hg] at heq
        injection heq with heq
        exact heq.ge
      · rw [if_neg hg] at heq
        exact Nat.le_succ_of_le (h.bound cb k (clear_eq_some heq).2)
    case engine =>
      show (if callbacksOption.engineNmeaCb then some (s.count + 1)
        else clear s.supplier .engineNmeaCb).isSome = _
      split
      · rename_i hg
        simp [hg]
      · rename_i hg
        rw [clear_isSome, h.engine]
        simp [hg, TrackingCb.cleared]
  · rw [if_neg hacc]
    rw [(s.client.startPositionSession_refused _ _ hacc).1]
    exact h

theorem Attributed.stop (h : s.Attributed) :
    (s.step .stopTrackingAndClearSubscriptions).Attributed where
  force := by simp [step, LocationClientApiImpl.stopTrackingAndClearSubscriptions,
    LocationClientApiImpl.stopTrackingSync, LocationClientApiImpl.clearTrackingSubscriptions]
  bits := fun cb => (s.client.stopTrackingSync true).1.clearTrackingSubscriptions_bit cb
  held := by
    intro cb
    refine ((s.client.stopTrackingSync true).1.clearTrackingSubscriptions_given cb).trans ?_
    have hheld : cb.given (s.client.stopTrackingSync true).1.mLocationCbs =
      (s.supplier cb).isSome := h.held cb
    rw [hheld]
    exact (clear_isSome s.supplier cb).symm
  own := by intro cb hf; cases hf
  cleared := by
    intro cb hc hsome
    have hno := (clear_isSome s.supplier cb).symm.trans hsome
    rw [hc] at hno
    cases hno
  foreign := by intro cb hf; cases hf
  bound := fun cb k heq => h.bound cb k (clear_eq_some heq).2
  engine := (clear_isSome s.supplier .engineNmeaCb).trans h.engine

theorem Attributed.receive (h : s.Attributed) (msg : IndMsg) :
    (s.step (.receive msg)).Attributed := by
  obtain ⟨ht, hb, hm⟩ := s.client.onReceive_same msg
  exact
    { h with
      force := ht.trans h.force
      bits := fun cb => (hb cb).trans (h.bits cb)
      held := fun cb => (hm cb).trans (h.held cb) }

/-- **One step.** -/
theorem step_attributed (s : Sessions) (e : Event) (h : s.Attributed) :
    (s.step e).Attributed := by
  cases e with
  | startPositionSession callbacksOption trackingOptions =>
    exact h.start callbacksOption trackingOptions
  | stopTrackingAndClearSubscriptions => exact h.stop
  | receive msg => exact h.receive msg
  | report r => exact h

/-! ## The handlers -/

/-- A handler that tests the bit of the member it calls, calls a member of the session in
force. -/
theorem Attributed.own_of_subscribed (h : s.Attributed) (cb : TrackingCb)
    (hsub : s.client.subscribed cb.bit) : s.inForce ∧ s.supplier cb = some s.count := by
  have hgiven : s.inForce ∧ cb.given s.supplied := by
    simpa using (h.bits cb).symm.trans hsub
  exact ⟨hgiven.1, h.own cb hgiven.1 hgiven.2⟩

theorem Attributed.own_of_callIf (h : s.Attributed) (takes : Bool) (cb : TrackingCb)
    {cb' : TrackingCb}
    (hmem : cb' ∈ if takes && s.client.subscribed cb.bit then s.client.callIf cb else []) :
    s.inForce ∧ s.supplier cb' = some s.count := by
  by_cases hsub : takes && s.client.subscribed cb.bit
  · rw [if_pos hsub, LocationClientApiImpl.callIf] at hmem
    have heq : cb' = cb := by
      split at hmem
      · exact List.mem_singleton.mp hmem
      · cases hmem
    subst heq
    exact h.own_of_subscribed cb' (Bool.and_eq_true_iff.mp hsub).2
  · rw [if_neg hsub] at hmem
    cases hmem

theorem Attributed.takesReports_iff (h : s.Attributed) :
    s.client.takesReports ↔
      s.inForce ∧ s.client.mPositionSessionResponseCbPending = false := by
  simp [LocationClientApiImpl.takesReports, ← h.force]

/-- The callbacks that NMEA goes to. -/
theorem Attributed.mem_onReport_nmea (h : s.Attributed) (cb : TrackingCb) :
    cb ∈ s.client.onReport .nmea ↔
      s.client.takesReports ∧ (s.inForce ∧ (s.supplied.gnssNmeaCb ∨ s.supplied.engineNmeaCb)) ∧
        (cb = .gnssNmeaCb ∨ cb = .engineNmeaCb) ∧ (s.supplier cb).isSome := by
  have hsub : s.client.subscribed (eLocCbGnssNmeaBit ||| eLocCbEngineNmeaBit) =
      (s.inForce && (s.supplied.gnssNmeaCb || s.supplied.engineNmeaCb)) := by
    have hg := h.bits .gnssNmeaCb
    have he := h.bits .engineNmeaCb
    simp only [LocationClientApiImpl.subscribed, TrackingCb.bit, TrackingCb.given,
      BitVec.and_comm s.client.mCallbacksMask] at hg he ⊢
    rw [and_or_bits, hg, he, Bool.and_or_distrib_left]
  have hcall : ∀ cb', cb ∈ s.client.callIf cb' ↔ cb = cb' ∧ (s.supplier cb).isSome := by
    intro cb'
    rw [LocationClientApiImpl.callIf, h.held]
    by_cases hs : (s.supplier cb').isSome
    · rw [if_pos hs, List.mem_singleton]
      exact ⟨fun heq => ⟨heq, heq ▸ hs⟩, And.left⟩
    · rw [if_neg hs]
      constructor
      · intro hmem
        cases hmem
      · rintro ⟨rfl, hs'⟩
        exact absurd hs' hs
  rw [LocationClientApiImpl.onReport, hsub]
  split
  · rename_i hyes
    simp only [Bool.and_eq_true, Bool.or_eq_true] at hyes
    rw [List.mem_append, hcall, hcall, ← or_and_right]
    exact ⟨fun hmem => ⟨hyes.1, hyes.2, hmem⟩, fun hmem => hmem.2.2⟩
  · rename_i hno
    refine iff_of_false List.not_mem_nil fun hmem => hno ?_
    simpa using And.intro hmem.1 hmem.2.1

/-- NMEA of either kind reaches both members: a session without an `engineNmeaCb` of its own
lets it through to one of an earlier session. -/
theorem Attributed.ownCallbacks_nmea (h : s.Attributed) :
    s.OwnCallbacks (.report .nmea) ↔ s.Fits (.report .nmea) := by
  constructor
  · intro hown hforce hpend hgnss
    by_contra hstray
    obtain ⟨hno, hever⟩ := not_or.mp hstray
    have hsome : (s.supplier .engineNmeaCb).isSome := h.engine.trans (not_not.mp hever)
    have hmem : TrackingCb.engineNmeaCb ∈ s.client.onReport .nmea :=
      (h.mem_onReport_nmea _).mpr
        ⟨h.takesReports_iff.mpr ⟨hforce, hpend⟩, ⟨hforce, .inl hgnss⟩, .inr rfl, hsome⟩
    exact h.foreign .engineNmeaCb hforce hno (hown _ hmem).2
  · intro hfits cb hmem
    obtain ⟨htakes, ⟨hforce, hany⟩, hcb, hsome⟩ := (h.mem_onReport_nmea cb).mp hmem
    refine ⟨hforce, ?_⟩
    rcases hcb with rfl | rfl
    · exact h.own _ hforce (h.cleared _ rfl hsome).2
    · have hengine : s.supplied.engineNmeaCb := by
        rcases hany with hgnss | hengine
        · have hpend := (h.takesReports_iff.mp htakes).2
          refine (hfits hforce hpend hgnss).resolve_right (not_not.mpr ?_)
          exact h.engine.symm.trans hsome
        · exact hengine
      exact h.own _ hforce hengine

/-- A report that calls one callback at most never goes astray. -/
theorem Attributed.ownCallbacks_of_callIf (h : s.Attributed) {r : Report} (cb : TrackingCb)
    (hreport : s.client.onReport r =
      if s.client.takesReports && s.client.subscribed cb.bit then s.client.callIf cb else []) :
    s.OwnCallbacks (.report r) := by
  intro cb' hmem
  rw [hreport] at hmem
  exact h.own_of_callIf s.client.takesReports cb hmem

/-- Engine reports are subscribed for, and each of them calls the one callback. -/
theorem Attributed.ownCallbacks_engine (h : s.Attributed) :
    s.OwnCallbacks (.report .engineLocationsInfo) := by
  intro cb hmem
  rw [LocationClientApiImpl.onReport] at hmem
  split at hmem
  · rename_i hsub
    rw [List.mem_singleton.mp hmem]
    exact h.own_of_subscribed .engineLocationsInfoCb (Bool.and_eq_true_iff.mp hsub).2
  · cases hmem

/-- Measurements call the callback of their rate. -/
theorem Attributed.ownCallbacks_meas (h : s.Attributed) (isNhz : Bool) :
    s.OwnCallbacks (.report (.meas isNhz)) := by
  intro cb hmem
  rw [LocationClientApiImpl.onReport] at hmem
  split at hmem
  · split at hmem
    · exact h.own_of_callIf true .gnssNHzMeasurementsCb hmem
    · exact h.own_of_callIf true .gnssMeasurementsCb hmem
  · cases hmem

/-- **One report.**  It goes astray only as NMEA, in a session without an `engineNmeaCb` of
its own where an earlier one had one. -/
theorem ownCallbacks_iff_fits (s : Sessions) (e : Event) (h : s.Attributed) :
    s.OwnCallbacks e ↔ s.Fits e := by
  cases e with
  | startPositionSession callbacksOption trackingOptions => exact Iff.rfl
  | stopTrackingAndClearSubscriptions => exact Iff.rfl
  | receive msg => exact Iff.rfl
  | report r =>
    cases r with
    | nmea => exact h.ownCallbacks_nmea
    | location => exact iff_of_true (h.ownCallbacks_of_callIf .trackingCb rfl) trivial
    | locationInfo => exact iff_of_true (h.ownCallbacks_of_callIf .gnssLocationInfoCb rfl) trivial
    | engineLocationsInfo => exact iff_of_true h.ownCallbacks_engine trivial
    | satelliteVehicle => exact iff_of_true (h.ownCallbacks_of_callIf .gnssSvCb rfl) trivial
    | data => exact iff_of_true (h.ownCallbacks_of_callIf .gnssDataCb rfl) trivial
    | dcReport => exact iff_of_true (h.ownCallbacks_of_callIf .gnssDcReportCb rfl) trivial
    | meas isNhz => exact iff_of_true (h.ownCallbacks_meas isNhz) trivial
    | ephemeris => exact iff_of_true (h.ownCallbacks_of_callIf .svEphemerisCb rfl) trivial

/-! ## Runs -/

/-- **Reports of every run.**  In every sequence of sessions, stops, messages and reports, each
report calls callbacks of the session in force only, if and only if NMEA is never taken by a
session that asked for it without an `engineNmeaCb` after one that had one. -/
theorem reports_own_callbacks (mClientId : { id : UInt32 // id ≠ 0 }) (es : List Event) :
    Meets step OwnCallbacks (init mClientId) es ↔ Meets step Fits (init mClientId) es :=
  Meets.congr step_attributed ownCallbacks_iff_fits (init_attributed mClientId)

/-- A session with an engine NMEA callback, a stop, a session for GNSS NMEA alone that the
daemon answers, and NMEA. -/
def engineThenGnss : List Event :=
  [.startPositionSession { LocationCallbacks.zero with engineNmeaCb := true } .zero,
    .receive (.genericResp .startTracking .success),
    .stopTrackingAndClearSubscriptions,
    .startPositionSession { LocationCallbacks.zero with gnssNmeaCb := true } .zero,
    .receive (.genericResp .startTracking .success),
    .report .nmea]

/-- **The defect.**  The engine NMEA callback of a session that was stopped is called. -/
theorem engineNmeaCb_outlives_session :
    ¬ Meets step OwnCallbacks (init ⟨1, by decide⟩) engineThenGnss := by
  intro h
  have hlast := h.2.2.2.2.2.1 .engineNmeaCb (by decide)
  exact absurd hlast.2 (by decide)

end Sessions

end LocationStack.Client
