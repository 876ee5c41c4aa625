import LocationStack.Service.Fixes

/-! # The sessions for fixes

One tracking session serves all the single fixes that clients wait for, and one session of
network location all the terrestrial ones.  Whatever adds the first request starts the session,
and whatever takes the last one away stops it: a cancellation, a fix, a timeout, or the
deletion of the client, which also happens to a client that a message cannot be sent to.
-/
namespace LocationStack.Service

open Ipc State

/-! ## Session and requests -/

/-- There is a tracking session exactly if there are requests, and a `LocationAPI` to stop it
with. -/
structure Tracking (s : State) : Prop where
  session : s.mSingleFixTrackingSessionId ≠ 0 ↔ s.mSingleFixReqMap.keys ≠ []
  api : s.mSingleFixTrackingSessionId ≠ 0 → s.mSingleFixLocationApi = true

/-- Between an erasure and `stopTrackingSessionForSingleFixes` the session may be left over. -/
structure Overrun (s : State) : Prop where
  session : s.mSingleFixReqMap.keys ≠ [] → s.mSingleFixTrackingSessionId ≠ 0
  api : s.mSingleFixTrackingSessionId ≠ 0 → s.mSingleFixLocationApi = true

/-- Network location runs exactly if there are requests, and a `LocationAPI` to stop it with,
unless the daemon came to harm. -/
def Network (s : State) : Prop :=
  s.faults = [] → (s.networkLocation = true ↔ s.mTerrestrialFixTimeoutMap.keys ≠ []) ∧
    (s.mTerrestrialFixTimeoutMap.keys ≠ [] → s.mGtpWwanSsLocationApi = true)

namespace State

variable {s s' : State}

/-- The tracking session and what it serves. -/
def trackingPart (s : State) : Bool × UInt32 × IdMap.Map String SingleFixReqInfo :=
  (s.mSingleFixLocationApi, s.mSingleFixTrackingSessionId, s.mSingleFixReqMap)

/-- The session of network location and what it serves. -/
def networkPart (s : State) : Bool × IdMap.Map String SingleFixTimer × Bool :=
  (s.mGtpWwanSsLocationApi, s.mTerrestrialFixTimeoutMap, s.networkLocation)

theorem trackingPart_eraseTerrestrialFix (s : State) (name : String) :
    (s.eraseTerrestrialFix name).trackingPart = s.trackingPart := by
  obtain ⟨_, _, _, heq⟩ := eraseTerrestrialFix_eq s name
  rw [heq]
  rfl

theorem networkPart_stopTrackingSessionForSingleFixes (s : State) :
    s.stopTrackingSessionForSingleFixes.networkPart = s.networkPart := by
  obtain ⟨_, _, heq⟩ := stopTrackingSessionForSingleFixes_eq s
  rw [heq]
  rfl

theorem faults_stopTrackingSessionForSingleFixes (s : State) :
    s.stopTrackingSessionForSingleFixes.faults = s.faults := by
  obtain ⟨_, _, heq⟩ := stopTrackingSessionForSingleFixes_eq s
  rw [heq]

theorem Delivers.trackingPart {new : List Sent} (h : Delivers new s s') :
    s'.trackingPart = s.trackingPart := by
  obtain ⟨_, rfl⟩ := h
  rfl

theorem Delivers.networkPart {new : List Sent} (h : Delivers new s s') :
    s'.networkPart = s.networkPart := by
  obtain ⟨_, rfl⟩ := h
  rfl

theorem Delivers.faults {new : List Sent} (h : Delivers new s s') :
    ∀ f ∈ s.faults, f ∈ s'.faults := by
  obtain ⟨_, rfl⟩ := h
  exact fun _ hf => List.mem_append_left _ hf

end State

theorem Tracking.overrun {s : State} (h : Tracking s) : Overrun s := ⟨h.session.mpr, h.api⟩

theorem Tracking.of_eq {s s' : State} (h : Tracking s)
    (hpart : s'.trackingPart = s.trackingPart) : Tracking s' := by
  simp only [trackingPart, Prod.mk.injEq] at hpart
  obtain ⟨hapi, hsession, hmap⟩ := hpart
  refine ⟨?_, ?_⟩
  · rw [hsession, hmap]
    exact h.session
  · rw [hsession, hapi]
    exact h.api

theorem Overrun.of_eq {s s' : State} (h : Overrun s)
    (hpart : s'.trackingPart = s.trackingPart) : Overrun s' := by
  simp only [trackingPart, Prod.mk.injEq] at hpart
  obtain ⟨hapi, hsession, hmap⟩ := hpart
  refine ⟨?_, ?_⟩
  · rw [hsession, hmap]
    exact h.session
  · rw [hsession, hapi]
    exact h.api

theorem Network.of_eq {s s' : State} (h : Network s) (hpart : s'.networkPart = s.networkPart)
    (hfaults : ∀ f ∈ s.faults, f ∈ s'.faults) : Network s' := by
  simp only [networkPart, Prod.mk.injEq] at hpart
  obtain ⟨hapi, hmap, hnetwork⟩ := hpart
  intro hnone
  rw [hapi, hmap, hnetwork]
  refine h (List.eq_nil_iff_forall_not_mem.mpr fun f hf => ?_)
  have := hfaults f hf
  rw [hnone] at this
  cases this

/-! ## Single fixes -/

theorem Overrun.eraseSingleFix {s : State} (h : Overrun s) (name : String) :
    Overrun (s.eraseSingleFix name) := by
  refine ⟨fun hkeys => h.session fun hnil => hkeys ?_, h.api⟩
  rw [State.eraseSingleFix, AList.keys_erase, hnil]
  rfl

/-- The session ends with the last request. -/
theorem Overrun.stop {s : State} (h : Overrun s) :
    Tracking s.stopTrackingSessionForSingleFixes := by
  rw [stopTrackingSessionForSingleFixes]
  split
  · rename_i hkeys
    have hid : (if s.mSingleFixLocationApi && s.mSingleFixTrackingSessionId != 0 then 0
        else s.mSingleFixTrackingSessionId) = 0 := by
      by_cases hsession : s.mSingleFixTrackingSessionId = 0
      · simp [hsession]
      · simp [hsession, h.api hsession]
    exact ⟨⟨fun hne => absurd hid hne, fun hne => absurd hkeys hne⟩, fun hne => absurd hid hne⟩
  · rename_i hkeys
    exact ⟨⟨fun _ => hkeys, h.session⟩, h.api⟩

/-- The first request starts the session. -/
theorem addSingleFix_tracking {s : State} (hapi : s.mSingleFixLocationApi = true)
    (clientName : String) (horQoS : CFloat) {trackingId : UInt32} (htracks : trackingId ≠ 0) :
    Tracking (s.addSingleFix clientName horQoS trackingId) := by
  have hid : (if s.mSingleFixTrackingSessionId = 0 then trackingId
      else s.mSingleFixTrackingSessionId) ≠ 0 := by
    split
    · exact htracks
    · assumption
  have hkeys : (s.addSingleFix clientName horQoS trackingId).mSingleFixReqMap.keys ≠ [] := by
    rw [State.addSingleFix, AList.keys_insert]
    exact List.cons_ne_nil _ _
  exact ⟨⟨fun _ => hkeys, fun _ => hid⟩, fun _ => hapi⟩

theorem Tracking.getSinglePos {s : State} (h : Tracking s) (clientName : String)
    (horQoS : CFloat) (timeoutMsec : UInt32) (created : Bool) {trackingId : UInt32}
    (htracks : trackingId ≠ 0) :
    Tracking (s.getSinglePos clientName horQoS timeoutMsec created trackingId) := by
  have hapi : Overrun { s with mSingleFixLocationApi := true } := ⟨h.session.mpr, fun _ => rfl⟩
  rw [State.getSinglePos]
  split
  · exact h
  · simp only []
    split
    · have hadded := addSingleFix_tracking
        (s := { s with mSingleFixLocationApi := true }.eraseSingleFix clientName) rfl clientName
        horQoS htracks
      exact ⟨hadded.session, hadded.api⟩
    · exact (hapi.eraseSingleFix clientName).stop

theorem Tracking.singleFixRequestTimeout {s : State} (h : Tracking s) (clientName : String)
    (fired : Nat) (rc : Bool) : Tracking (s.singleFixRequestTimeout clientName fired rc) := by
  rw [State.singleFixRequestTimeout]
  split
  · exact h
  · rename_i info _
    obtain ⟨_, hsend, _⟩ := sendSingleFix_delivers
      (s.noteTimeout fired info.timeoutTimer.req) clientName .timeout s.mSingleFixLastLocation
      info.timeoutTimer.req rc
    have hnoted : Overrun (s.noteTimeout fired info.timeoutTimer.req) :=
      ⟨h.session.mpr, h.api⟩
    exact ((hnoted.of_eq hsend.trackingPart).eraseSingleFix clientName).stop

theorem Overrun.eraseAll {s : State} (h : Overrun s) (names : List String) :
    Overrun { s with mSingleFixReqMap := IdMap.eraseAll s.mSingleFixReqMap names } := by
  induction names generalizing s with
  | nil => exact h
  | cons name names ih => exact ih (h.eraseSingleFix name)

theorem Tracking.onGnssLocationInfoCb {s : State} (h : Tracking s) (location : Location)
    (rcs : String → Bool) : Tracking (s.onGnssLocationInfoCb location rcs) := by
  have hnoted : Overrun { s with mSingleFixLastLocation := location } := ⟨h.session.mpr, h.api⟩
  rw [State.onGnssLocationInfoCb]
  simp only []
  split
  · obtain ⟨_, hsend, _⟩ := singleFixes_delivers location rcs s.mSingleFixReqMap.entries
      { s with mSingleFixLastLocation := location }
    exact ((hnoted.eraseAll _).of_eq hsend.trackingPart).stop
  · exact hnoted.stop

/-! ## Terrestrial fixes -/

/-- `stopNetworkLocation` when there are no requests any more. -/
theorem Network.stop {s : State} (hapi : s.faults = [] → s.mGtpWwanSsLocationApi = true)
    (hkeys : s.mTerrestrialFixTimeoutMap.keys = []) : Network s.stopNetworkLocation := by
  rw [stopNetworkLocation]
  split
  · exact fun _ => ⟨by simp [hkeys], fun hne => absurd hkeys hne⟩
  · rename_i hnull
    intro hnone
    have hbefore : s.faults = [] := (List.append_eq_nil_iff.mp hnone).1
    exact absurd (hapi hbefore) hnull

theorem Network.eraseTerrestrialFix {s : State} (h : Network s) (name : String) :
    Network (s.eraseTerrestrialFix name) := by
  rw [State.eraseTerrestrialFix]
  split
  · rename_i hmem
    have hkeys : s.mTerrestrialFixTimeoutMap.keys ≠ [] := List.ne_nil_of_mem hmem
    simp only []
    split
    · exact Network.stop (fun hnone => (h hnone).2 hkeys) ‹_›
    · rename_i hleft
      intro hnone
      exact ⟨⟨fun _ => hleft, fun _ => (h hnone).1.mpr hkeys⟩, fun _ => (h hnone).2 hkeys⟩
  · exact h

/-- The first request starts network location. -/
theorem Network.getSingleTerrestrialPos {s : State} (h : Network s) (clientName : String)
    (rc : Bool) : Network (s.getSingleTerrestrialPos clientName rc) := by
  have hkeys : (s.addTerrestrialFix clientName).mTerrestrialFixTimeoutMap.keys ≠ [] := by
    rw [addTerrestrialFix, AList.keys_insert]
    exact List.cons_ne_nil _ _
  rw [State.getSingleTerrestrialPos]
  split
  · split
    · rename_i c _
      obtain ⟨_, hsend, _⟩ := sendTerrestrialFix_delivers s c .notSupported .zero s.nextReq rc
      exact h.of_eq hsend.networkPart hsend.faults
    · exact h.of_eq rfl fun _ hf => hf
  · split
    · rename_i hbefore
      intro hnone
      exact ⟨⟨fun _ => hkeys, fun _ => (h hnone).1.mpr hbefore⟩, fun _ => (h hnone).2 hbefore⟩
    · rw [startNetworkLocation]
      split
      · rename_i hapi
        exact fun _ => ⟨⟨fun _ => hkeys, fun _ => rfl⟩, fun _ => hapi⟩
      · intro hnone
        cases (List.append_eq_nil_iff.mp hnone).2

theorem Network.gtpFixRequestTimeout {s : State} (h : Network s) (clientName : String)
    (fired : Nat) (rc : Bool) : Network (s.gtpFixRequestTimeout clientName fired rc) := by
  rw [State.gtpFixRequestTimeout]
  split
  · exact h
  · rename_i timer _
    have hnoted : Network (s.noteTimeout fired timer.req) := h.of_eq rfl fun _ hf => hf
    simp only []
    split
    · rename_i c _
      obtain ⟨_, hsend, _⟩ := sendTerrestrialFix_delivers (s.noteTimeout fired timer.req) c
        .timeout .zero timer.req rc
      exact (hnoted.of_eq hsend.networkPart hsend.faults).eraseTerrestrialFix clientName
    · exact hnoted.eraseTerrestrialFix clientName

theorem Network.onGtpWwanTrackingCallback {s : State} (h : Network s) (location : Location)
    (rcs : String → Bool) : Network (s.onGtpWwanTrackingCallback location rcs) := by
  rw [State.onGtpWwanTrackingCallback]
  split
  · rename_i hasked
    obtain ⟨_, ⟨faults, hsend⟩, _⟩ :=
      terrestrialFixes_delivers location rcs s.mTerrestrialFixTimeoutMap.entries s
    rw [hsend]
    refine Network.stop (fun hnone => ?_) rfl
    exact (h (List.append_eq_nil_iff.mp hnone).1).2 hasked.1
  · exact h

/-! ## Each leaves the other alone -/

theorem trackingPart_getSingleTerrestrialPos (s : State) (clientName : String) (rc : Bool) :
    (s.getSingleTerrestrialPos clientName rc).trackingPart = s.trackingPart := by
  rw [State.getSingleTerrestrialPos]
  split
  · split
    · rename_i c _
      obtain ⟨_, hsend, _⟩ := sendTerrestrialFix_delivers s c .notSupported .zero s.nextReq rc
      exact hsend.trackingPart
    · rfl
  · split
    · rfl
    · rw [startNetworkLocation]
      split <;> rfl

theorem trackingPart_gtpFixRequestTimeout (s : State) (clientName : String) (fired : Nat)
    (rc : Bool) : (s.gtpFixRequestTimeout clientName fired rc).trackingPart = s.trackingPart := by
  rw [State.gtpFixRequestTimeout]
  split
  · rfl
  · rename_i timer _
    simp only []
    split
    · rename_i c _
      obtain ⟨_, hsend, _⟩ := sendTerrestrialFix_delivers (s.noteTimeout fired timer.req) c
        .timeout .zero timer.req rc
      rw [trackingPart_eraseTerrestrialFix]
      exact hsend.trackingPart
    · rw [trackingPart_eraseTerrestrialFix]
      rfl

theorem trackingPart_onGtpWwanTrackingCallback (s : State) (location : Location)
    (rcs : String → Bool) :
    (s.onGtpWwanTrackingCallback location rcs).trackingPart = s.trackingPart := by
  rw [State.onGtpWwanTrackingCallback]
  split
  · obtain ⟨_, hsend, _⟩ :=
      terrestrialFixes_delivers location rcs s.mTerrestrialFixTimeoutMap.entries s
    obtain ⟨_, _, hstop⟩ := stopNetworkLocation_eq (terrestrialFixes location rcs
      s.mTerrestrialFixTimeoutMap.entries s).clearTerrestrialFixes
    rw [hstop]
    exact hsend.trackingPart
  · rfl

/-- The network session does not depend on the tracking session. -/
theorem Network.stopTracking {s : State} (h : Network s) :
    Network s.stopTrackingSessionForSingleFixes := by
  refine h.of_eq (networkPart_stopTrackingSessionForSingleFixes s) fun f hf => ?_
  rwa [faults_stopTrackingSessionForSingleFixes]

theorem Network.eraseSingleFix {s : State} (h : Network s) (name : String) :
    Network (s.eraseSingleFix name) :=
  h.of_eq rfl fun _ hf => hf

theorem Network.getSinglePos {s : State} (h : Network s) (clientName : String)
    (horQoS : CFloat) (timeoutMsec : UInt32) (created : Bool) (trackingId : UInt32) :
    Network (s.getSinglePos clientName horQoS timeoutMsec created trackingId) := by
  rw [State.getSinglePos]
  split
  · exact h
  · simp only []
    split
    · exact h.of_eq rfl fun _ hf => hf
    · have hapi : Network { s with mSingleFixLocationApi := true } :=
        h.of_eq rfl fun _ hf => hf
      exact (hapi.eraseSingleFix clientName).stopTracking

theorem Network.singleFixRequestTimeout {s : State} (h : Network s) (clientName : String)
    (fired : Nat) (rc : Bool) : Network (s.singleFixRequestTimeout clientName fired rc) := by
  rw [State.singleFixRequestTimeout]
  split
  · exact h
  · rename_i info _
    obtain ⟨_, hsend, _⟩ := sendSingleFix_delivers
      (s.noteTimeout fired info.timeoutTimer.req) clientName .timeout s.mSingleFixLastLocation
      info.timeoutTimer.req rc
    have hnoted : Network (s.noteTimeout fired info.timeoutTimer.req) :=
      h.of_eq rfl fun _ hf => hf
    exact ((hnoted.of_eq hsend.networkPart hsend.faults).eraseSingleFix clientName).stopTracking

theorem Network.onGnssLocationInfoCb {s : State} (h : Network s) (location : Location)
    (rcs : String → Bool) : Network (s.onGnssLocationInfoCb location rcs) := by
  have hnoted : Network { s with mSingleFixLastLocation := location } :=
    h.of_eq rfl fun _ hf => hf
  rw [State.onGnssLocationInfoCb]
  simp only []
  split
  · obtain ⟨_, hsend, _⟩ := singleFixes_delivers location rcs s.mSingleFixReqMap.entries
      { s with mSingleFixLastLocation := location }
    have herased : Network { s with
        mSingleFixLastLocation := location
        mSingleFixReqMap := IdMap.eraseAll s.mSingleFixReqMap
          ((served location s.mSingleFixReqMap.entries).map Sigma.fst) } :=
      hnoted.of_eq rfl fun _ hf => hf
    exact (herased.of_eq hsend.networkPart hsend.faults).stopTracking
  · exact hnoted.stopTracking

/-! ## Both -/

/-- Both sessions run exactly if they are needed. -/
structure Sessions (s : State) : Prop where
  tracking : Tracking s
  network : Network s

theorem Sessions.init (gnssInterface : Bool) : Sessions (State.init gnssInterface) :=
  ⟨⟨⟨fun h => absurd rfl h, fun h => absurd rfl h⟩, fun h => absurd rfl h⟩,
    fun _ => ⟨⟨nofun, fun h => absurd rfl h⟩, fun h => absurd rfl h⟩⟩

theorem Sessions.of_eq {s s' : State} (h : Sessions s)
    (htracking : s'.trackingPart = s.trackingPart) (hnetwork : s'.networkPart = s.networkPart)
    (hfaults : ∀ f ∈ s.faults, f ∈ s'.faults) : Sessions s' :=
  ⟨h.tracking.of_eq htracking, h.network.of_eq hnetwork hfaults⟩

/-- A client that is deleted takes its requests away. -/
theorem Sessions.deleteClientbyName {s : State} (h : Sessions s) (name : String) :
    Sessions (s.deleteClientbyName name) := by
  cases hclient : s.getClient name with
  | none => rwa [deleteClientbyName_none hclient]
  | some c =>
    have hcleanup : ∀ {s : State}, Sessions s → Sessions (s.cleanup c) := by
      intro s hs
      rw [cleanup]
      split
      · exact hs
      · exact hs.of_eq rfl rfl fun _ hf => hf
    have hclients : Network { s with mClients := s.mClients.erase name } :=
      h.network.of_eq rfl fun _ hf => hf
    have hnetwork := hclients.eraseTerrestrialFix name
    have htracking : Overrun ({ s with mClients := s.mClients.erase name }.eraseTerrestrialFix
        name) := h.tracking.overrun.of_eq (trackingPart_eraseTerrestrialFix _ name)
    rw [State.deleteClientbyName, hclient]
    exact hcleanup ⟨(htracking.eraseSingleFix name).stop,
      (hnetwork.eraseSingleFix name).stopTracking⟩

theorem Sessions.idle {s s' : State} (h : Sessions s) (hidle : Idle s s') : Sessions s' := by
  induction hidle with
  | same hfix hfaults =>
    simp only [fixPart, Prod.mk.injEq] at hfix
    obtain ⟨_, hgtp, hterrestrial, hapi, hid, hfused, hnetwork, _⟩ := hfix
    exact h.of_eq (by simp only [trackingPart, hapi, hid, hfused])
      (by simp only [networkPart, hgtp, hterrestrial, hnetwork]) hfaults
  | delete s name => exact h.deleteClientbyName name
  | trans _ _ ih ih' => exact ih' (ih h)

/-- Consent may bring the `LocationAPI`, and never takes it away. -/
theorem Sessions.setOptIn {s : State} (h : Sessions s) (userConsent : Int) (created : Bool) :
    Sessions (s.setOptIn userConsent created) := by
  refine ⟨h.tracking.of_eq rfl, fun hnone => ⟨(h.network hnone).1, fun hkeys => ?_⟩⟩
  have hapi := (h.network hnone).2 hkeys
  rw [State.setOptIn]
  simp [hapi]

/-- A timer that fires leaves its request in the map. -/
theorem Sessions.timeOutCallback {s : State} (h : Sessions s) (clientName : String)
    (timerType : SingleShotTimerType) : Sessions (s.timeOutCallback clientName timerType) := by
  have hkeys : ∀ {β : Type} {m : IdMap.Map String β} {v w : β}, m.lookup clientName = some v →
      m.keys ≠ [] ∧ (m.insert clientName w).keys ≠ [] := by
    intro β m v w hlookup
    have hmem : clientName ∈ m := AList.lookup_isSome.mp (by rw [hlookup]; rfl)
    refine ⟨List.ne_nil_of_mem (AList.mem_keys.mp hmem), ?_⟩
    · rw [AList.keys_insert]
      exact List.cons_ne_nil _ _
  cases timerType with
  | terrestrial =>
    simp only [State.timeOutCallback]
    split
    · rename_i req hlookup
      obtain ⟨hbefore, hafter⟩ := hkeys (w := ⟨req, false⟩) hlookup
      refine ⟨h.tracking.of_eq rfl, fun hnone => ?_⟩
      exact ⟨⟨fun _ => hafter, fun _ => (h.network hnone).1.mpr hbefore⟩,
        fun _ => (h.network hnone).2 hbefore⟩
    · exact h
  | fused =>
    simp only [State.timeOutCallback]
    split
    · rename_i horQoS req hlookup
      obtain ⟨hbefore, hafter⟩ := hkeys (w := ⟨horQoS, ⟨req, false⟩⟩) hlookup
      refine ⟨⟨⟨fun _ => hafter, fun _ => h.tracking.session.mpr hbefore⟩, h.tracking.api⟩, ?_⟩
      exact h.network.of_eq rfl fun _ hf => hf
    · exact h

theorem Sessions.procMsg {s : State} (h : Sessions s) (rc : Bool) : Sessions (s.procMsg rc) := by
  rw [State.procMsg]
  split
  · exact h
  · rename_i msg rest _
    have htaken : Sessions { s with mMsgTask := rest } := h.of_eq rfl rfl fun _ hf => hf
    split
    · exact ⟨htaken.tracking.of_eq (trackingPart_gtpFixRequestTimeout _ _ _ rc),
        htaken.network.gtpFixRequestTimeout _ _ rc⟩
    · exact ⟨htaken.tracking.singleFixRequestTimeout _ _ rc,
        htaken.network.singleFixRequestTimeout _ _ rc⟩

/-- `startTracking` returns an id, if the event invokes it. -/
def Event.Tracks : Event → Prop
  | .getSinglePos _ _ _ _ trackingId => trackingId ≠ 0
  | _ => True

instance : ∀ e : Event, Decidable e.Tracks
  | .getSinglePos _ _ _ _ trackingId => inferInstanceAs (Decidable (trackingId ≠ 0))
  | .newClient .. | .deleteClient _ | .deleteEapClientByIds .. | .capabilitiesCb .. | .purge _
  | .configRequest .. | .registerXtraStatusUpdate .. | .deregisterXtraStatusUpdate ..
  | .registerGnssSignalTypesUpdate .. | .configUserConsent .. | .getGnssEnergyConsumed _
  | .controlResponse .. | .controlCollectiveResponse .. | .gnssConfig .. | .gnssSignalTypes ..
  | .gnssEnergyConsumed .. | .performMaintenance .. | .getSingleTerrestrialPos ..
  | .gtpWwanTracking .. | .gnssLocationInfo .. | .timeOut .. | .procMsg _ =>
    inferInstanceAs (Decidable True)

/-- **What one event preserves.** -/
theorem Sessions.next {s : State} {e : Event} (h : Sessions s) (htracks : e.Tracks) :
    Sessions (next s e) := by
  cases e with
  | configUserConsent clientName userConsent created sessionId rc =>
    obtain ⟨reqs, asked, hkeeps⟩ := configUserConsentTerrestrialPositioning_keeps s clientName
      userConsent created sessionId rc
    have hconsent : Sessions { s.setOptIn userConsent created with
        mConfigReqs := reqs, configRequests := asked } :=
      (h.setOptIn userConsent created).of_eq rfl rfl fun _ hf => hf
    exact hconsent.idle hkeeps.idle
  | getSingleTerrestrialPos clientName rc =>
    exact ⟨h.tracking.of_eq (trackingPart_getSingleTerrestrialPos s clientName rc),
      h.network.getSingleTerrestrialPos clientName rc⟩
  | getSinglePos clientName horQoS timeoutMsec created trackingId =>
    exact ⟨h.tracking.getSinglePos clientName horQoS timeoutMsec created htracks,
      h.network.getSinglePos clientName horQoS timeoutMsec created trackingId⟩
  | gtpWwanTracking location rcs =>
    exact ⟨h.tracking.of_eq (trackingPart_onGtpWwanTrackingCallback s location rcs),
      h.network.onGtpWwanTrackingCallback location rcs⟩
  | gnssLocationInfo location rcs =>
    exact ⟨h.tracking.onGnssLocationInfoCb location rcs,
      h.network.onGnssLocationInfoCb location rcs⟩
  | timeOut clientName timerType => exact h.timeOutCallback clientName timerType
  | procMsg rc => exact h.procMsg rc
  | _ => exact h.idle (next_idle rfl)

/-! ## Runs -/

/-- The sessions run exactly if there are requests for them, and no request was answered
twice. -/
structure FixSessions (s : State) : Prop where
  tracking : s.mSingleFixTrackingSessionId ≠ 0 ↔ s.mSingleFixReqMap.keys ≠ []
  network : s.faults = [] → (s.networkLocation = true ↔ s.mTerrestrialFixTimeoutMap.keys ≠ [])
  once : s.answered.Nodup

/-- What the event sends is earned. -/
def FixesEarned (s : State) (e : Event) : Prop :=
  ∀ m ∈ (step s e).fixes.drop s.fixes.length, e.Earned s m

/-- The sessions and the books. -/
structure FixInv (s : State) : Prop where
  sessions : Sessions s
  booked : Booked s

theorem FixInv.init (gnssInterface : Bool) : FixInv (State.init gnssInterface) :=
  ⟨Sessions.init gnssInterface, Booked.init gnssInterface⟩

theorem FixInv.sound {s : State} (h : FixInv s) : FixSessions s :=
  ⟨h.sessions.tracking.session, fun hnone => (h.sessions.network hnone).1, h.booked.nodup⟩

theorem FixInv.step {s : State} {e : Event} (h : FixInv s) (htracks : e.Tracks) :
    FixInv (step s e) := by
  rw [Service.step]
  split
  · have hnoted : Sessions (s.noteReports e.reports) :=
      h.sessions.of_eq rfl rfl fun _ hf => hf
    have hbooked : Booked (s.noteReports e.reports) := h.booked
    exact ⟨hnoted.next htracks, hbooked.next e⟩
  · exact h

theorem FixInv.earned {s : State} (h : FixInv s) (e : Event) : FixesEarned s e := by
  rw [FixesEarned, Service.step]
  split
  · have hbooked : Booked (s.noteReports e.reports) := h.booked
    have hdrop : ∀ {new : List Sent},
        (Service.next (s.noteReports e.reports) e).fixes = s.fixes ++ new →
          (∀ m ∈ new, e.Earned (s.noteReports e.reports) m) →
            ∀ m ∈ (Service.next (s.noteReports e.reports) e).fixes.drop s.fixes.length,
              e.Earned s m := by
      intro new hfixes hearned m hm
      rw [hfixes, List.drop_left] at hm
      obtain ⟨haddressed, hsingle, hterrestrial⟩ := hearned m hm
      exact ⟨haddressed, hsingle, hterrestrial⟩
    cases hasks : e.asks (s.noteReports e.reports) with
    | some k =>
      refine hdrop (?_ : _ = s.fixes ++ []) fun _ hm => absurd hm List.not_mem_nil
      rw [List.append_nil]
      exact (next_asks hasks).fixes
    | none =>
      obtain ⟨new, hearned, hanswers | ⟨_, hrefuses⟩⟩ := next_answers hbooked hasks
      · exact hdrop hanswers.fixes hearned
      · exact hdrop hrefuses.fixes hearned
  · rw [List.drop_length]
    exact fun _ hm => absurd hm List.not_mem_nil

/-- **Fixes are bookkept**, in every run in which `startTracking` returns an id whenever it is
invoked. -/
theorem fix_sessions_kept {gnssInterface : Bool} {es : List Event}
    (htracks : ∀ e ∈ es, e.Tracks) :
    EventRun.Throughout step FixSessions (State.init gnssInterface) es ∧
      EventRun.Meets step FixesEarned (State.init gnssInterface) es := by
  have hinv : EventRun.Throughout step FixInv (State.init gnssInterface) es :=
    EventRun.throughout_of_meets (C := fun _ e => e.Tracks) (fun _ _ => FixInv.step)
      (FixInv.init gnssInterface) (.of_forall htracks)
  exact ⟨hinv.imp fun _ => FixInv.sound, hinv.meets fun _ e h => h.earned e⟩

/-- Two requests of each kind; one of each is served, and one times out. -/
theorem fix_sessions_kept_sample :
    EventRun.Throughout step FixSessions (State.init true)
      [.newClient "a" .locationClientApi (0, 0) true, .configUserConsent "a" 1 true 0 true,
        .getSinglePos "a" 0x41200000 1000 true 7, .getSingleTerrestrialPos "a" true,
        .gnssLocationInfo ⟨true, true, 5, 1, 2, 0x40A00000⟩ fun _ => true,
        .timeOut "a" .terrestrial, .procMsg true, .getSinglePos "a" 0x41200000 1000 true 8,
        .deleteClient "a"] ∧
    EventRun.Meets step FixesEarned (State.init true)
      [.newClient "a" .locationClientApi (0, 0) true, .configUserConsent "a" 1 true 0 true,
        .getSinglePos "a" 0x41200000 1000 true 7, .getSingleTerrestrialPos "a" true,
        .gnssLocationInfo ⟨true, true, 5, 1, 2, 0x40A00000⟩ fun _ => true,
        .timeOut "a" .terrestrial, .procMsg true, .getSinglePos "a" 0x41200000 1000 true 8,
        .deleteClient "a"] :=
  fix_sessions_kept (by decide)

end LocationStack.Service
