import LocationStack.Service.Registry

/-! # What an event does

Most events keep all but the clients they lose (`Keeps`).  The others are those about
configuration requests, XTRA registrations and timeouts; each changes the part of the state
that it is about, and keeps the rest.  A client is lost only if the event deletes it or cannot
send it a message (`Event.MayLose`), and only a registration makes a new one
(`next_clients`).
-/
namespace LocationStack.Service

open Ipc

namespace State

variable {s s' : State}

/-! ## Configuration requests -/

/-- A new request is mapped, or refused with a response. -/
theorem addConfigRequestToMap_keeps (s : State) (sessionId : UInt32) (clientName : String)
    (msgId : ConfigMsgID) (rc : Bool) :
    ∃ reqs asked, Keeps { s with mConfigReqs := reqs, configRequests := asked }
      (s.addConfigRequestToMap sessionId clientName msgId rc) := by
  rw [addConfigRequestToMap]
  split
  · exact ⟨_, _, Keeps.refl _⟩
  · refine ⟨s.mConfigReqs, s.configRequests, ?_⟩
    split
    · exact onControlResponseCb_keeps s clientName _ _ _ rc
    · exact Keeps.refl s

theorem addConfigRequestToMap_survives (s : State) (sessionId : UInt32) {clientName n : String}
    (msgId : ConfigMsgID) {rc : Bool} (h : n = clientName → rc = true) :
    Survives n s (s.addConfigRequestToMap sessionId clientName msgId rc) := by
  rw [addConfigRequestToMap]
  split
  · exact Survives.of_eq rfl
  · split
    · exact method_survives _ _ 0 h
    · exact Survives.refl n s

theorem configRequest_keeps (s : State) (clientName : String) (msgId : ConfigMsgID)
    (sessionId : UInt32) (rc : Bool) :
    ∃ reqs asked, Keeps { s with mConfigReqs := reqs, configRequests := asked }
      (s.configRequest clientName msgId sessionId rc) := by
  have hadd := addConfigRequestToMap_keeps s sessionId clientName msgId rc
  have hsame : ∃ reqs asked, Keeps { s with mConfigReqs := reqs, configRequests := asked } s :=
    ⟨_, _, Keeps.refl s⟩
  cases msgId <;> simp only [configRequest] <;> (try split) <;> first | exact hadd | exact hsame

theorem configRequest_survives (s : State) {clientName n : String} (msgId : ConfigMsgID)
    (sessionId : UInt32) {rc : Bool} (h : n = clientName → rc = true) :
    Survives n s (s.configRequest clientName msgId sessionId rc) := by
  have hadd := addConfigRequestToMap_survives s sessionId msgId h
  have hsame := Survives.refl n s
  cases msgId <;> simp only [configRequest] <;> (try split) <;> first | exact hadd | exact hsame

theorem Keeps.withReqs (h : Keeps s s') (reqs : IdMap.Map UInt32 ConfigReqClientData) :
    Keeps { s with mConfigReqs := reqs } { s' with mConfigReqs := reqs } := by
  have hsame : Idle s' { s' with mConfigReqs := reqs } := .same rfl fun _ hf => hf
  have hback : Idle { s with mConfigReqs := reqs } s := .same rfl fun _ hf => hf
  refine ⟨h.clients, h.nextClient, h.xtra, ?_, h.timeouts, hback.trans (h.idle.trans hsame),
    h.freed⟩
  have hconfig := h.config
  simp only [configPart, Prod.mk.injEq] at hconfig ⊢
  obtain ⟨_, hasked, hreported, hresponses⟩ := hconfig
  exact ⟨trivial, hasked, hreported, hresponses⟩

/-- A control response keeps all but the messages that were sent, and those that are fixes. -/
theorem onControlResponseCb_sent (s : State) (name : String) (c : Client) (err : LocationError)
    (msgId : ConfigMsgID) (answers : Nat) (rc : Bool) :
    ∃ sent, sent.filter Sent.fix = s.fixes ∧
      Keeps { s with sent := sent } (s.onControlResponseCb name c err msgId answers rc) := by
  rcases method_cases s name c (some (.genericResp msgId err)) answers rc with h | h | ⟨m, hm, h⟩
  · exact ⟨s.sent, rfl, by rw [onControlResponseCb, h]; exact Keeps.refl s⟩
  · exact ⟨s.sent, rfl, by rw [onControlResponseCb, h]; exact fault_keeps s _⟩
  · rw [onControlResponseCb, h, sendOrPurge]
    split
    · exact ⟨_, fixes_append_of_not s (m := ⟨c.id, m, answers⟩) (Msg.fix_some rfl m hm),
        Keeps.refl _⟩
    · exact ⟨s.sent, rfl, deleteClientbyName_keeps s name⟩

theorem onControlResponseCallback_keeps (s : State) (err : LocationError) (sessionId : UInt32)
    (rc : Bool) :
    ∃ reqs sent, sent.filter Sent.fix = s.fixes ∧
      Keeps { s with mConfigReqs := reqs, sent := sent }
        (s.onControlResponseCallback err sessionId rc) := by
  rw [onControlResponseCallback]
  split
  · exact ⟨_, _, rfl, Keeps.refl s⟩
  · rename_i data _
    split
    · rename_i c _
      obtain ⟨sent, hsent, hkeeps⟩ := onControlResponseCb_sent s data.clientName c err
        data.configMsgId sessionId.toNat rc
      exact ⟨_, sent, hsent, hkeeps.withReqs _⟩
    · exact ⟨_, _, rfl, Keeps.refl _⟩

theorem onControlResponseCallback_survives (s : State) (err : LocationError) {n : String}
    (sessionId : UInt32) {rc : Bool}
    (h : (s.mConfigReqs.lookup sessionId).map ConfigReqClientData.clientName = some n → rc = true) :
    Survives n s (s.onControlResponseCallback err sessionId rc) := by
  rw [onControlResponseCallback]
  split
  · exact Survives.refl n s
  · rename_i data hdata
    rw [hdata] at h
    split
    · refine Survives.trans ?_ (Survives.of_eq rfl : Survives n _ (eraseConfigReq _ sessionId))
      exact method_survives _ _ _ fun hn => h (by rw [hn]; rfl)
    · exact Survives.of_eq rfl

theorem onControlCollectiveResponseCallback_keeps (s : State)
    (resp : List (LocationError × UInt32)) (rc : Bool) :
    ∃ reqs sent, sent.filter Sent.fix = s.fixes ∧
      Keeps { s with mConfigReqs := reqs, sent := sent }
        (s.onControlCollectiveResponseCallback resp rc) := by
  rw [onControlCollectiveResponseCallback.eq_def]
  split
  · exact onControlResponseCallback_keeps s _ _ rc
  · exact ⟨_, _, rfl, Keeps.refl s⟩

/-- The configuration callback changes the requests, or notes XTRA updates. -/
theorem onGnssConfigCallback_keeps (s : State) (sessionId : UInt32) (config : GnssConfig)
    (rc rc' : Bool) (rcs : String → Bool) :
    ∃ reqs sent unasked, sent.filter Sent.fix = s.fixes ∧
      Keeps { s with mConfigReqs := reqs, sent := sent, unaskedXtra := unasked }
        (s.onGnssConfigCallback sessionId config rc rc' rcs) := by
  rw [onGnssConfigCallback]
  split
  · split
    · obtain ⟨unasked, hkeeps⟩ :=
        xtraStatusUpdates_keeps ‹_› rcs s.mClientsRegForXtraStatus s
      exact ⟨s.mConfigReqs, s.sent, unasked, rfl, hkeeps⟩
    · exact ⟨_, _, _, rfl, Keeps.refl s⟩
  · split
    · exact ⟨_, _, _, rfl, Keeps.refl s⟩
    · rename_i data _
      split
      · rename_i c _
        obtain ⟨sent, hsent, hkeeps⟩ := onControlResponseCb_sent s data.clientName c .success
          data.configMsgId sessionId.toNat rc
        exact ⟨_, sent, s.unaskedXtra, hsent,
          (hkeeps.trans (onGnssConfigCb_keeps _ data.clientName c data.configMsgId config
            rc')).withReqs _⟩
      · exact ⟨_, _, s.unaskedXtra, rfl, Keeps.refl _⟩

theorem onGnssConfigCallback_survives (s : State) {n : String} (sessionId : UInt32)
    (config : GnssConfig) {rc rc' : Bool} {rcs : String → Bool}
    (hxtra : sessionId = 0 → rcs n = true)
    (hreq : sessionId ≠ 0 →
      (s.mConfigReqs.lookup sessionId).map ConfigReqClientData.clientName = some n →
        rc = true ∧ rc' = true) :
    Survives n s (s.onGnssConfigCallback sessionId config rc rc' rcs) := by
  rw [onGnssConfigCallback]
  split
  · rename_i hzero
    split
    · exact xtraStatusUpdates_survives _ (hxtra hzero) _ s
    · exact Survives.refl n s
  · rename_i hzero
    have hreq := hreq hzero
    split
    · exact Survives.refl n s
    · rename_i data hdata
      rw [hdata] at hreq
      split
      · refine Survives.trans ?_ (Survives.of_eq rfl : Survives n _ (eraseConfigReq _ sessionId))
        exact (method_survives _ _ _ fun hn => (hreq (by rw [hn]; rfl)).1).trans
          (method_survives _ _ _ fun hn => (hreq (by rw [hn]; rfl)).2)
      · exact Survives.of_eq rfl

/-! ## XTRA registrations -/

/-- A registration puts the name into the set and tells the GNSS interface. -/
theorem registerXtraStatusUpdate_keeps (s : State) (clientName : String) (sessionId : UInt32)
    (rc : Bool) :
    ∃ reqs asked update, Keeps
      { (s.addXtraClient clientName).gnssRegisterXtraStatusUpdate update with
        mConfigReqs := reqs, configRequests := asked }
      (s.registerXtraStatusUpdate clientName sessionId rc) ∧
      (s.gnssInterface = true → update = true) := by
  rw [registerXtraStatusUpdate]
  split
  · obtain ⟨reqs, asked, hkeeps⟩ := addConfigRequestToMap_keeps
      ((s.addXtraClient clientName).gnssRegisterXtraStatusUpdate true) sessionId clientName
      .registerXtraStatusUpdateReq rc
    exact ⟨reqs, asked, true, hkeeps, fun _ => rfl⟩
  · rename_i hgnss
    exact ⟨_, _, s.xtraStatusUpdate, Keeps.refl _, fun h => absurd h hgnss⟩

theorem registerXtraStatusUpdate_survives (s : State) {clientName n : String}
    (sessionId : UInt32) {rc : Bool} (h : n = clientName → rc = true) :
    Survives n s (s.registerXtraStatusUpdate clientName sessionId rc) := by
  rw [registerXtraStatusUpdate]
  split
  · exact Survives.trans (Survives.of_eq rfl) (addConfigRequestToMap_survives
      ((s.addXtraClient clientName).gnssRegisterXtraStatusUpdate true) sessionId
      .registerXtraStatusUpdateReq h)
  · exact Survives.of_eq rfl

/-- A deregistration erases the name, and tells the GNSS interface if it was the last. -/
theorem deregisterXtraStatusUpdate_keeps (s : State) (clientName : String) (sessionId : UInt32)
    (rc : Bool) :
    ∃ reqs asked update, Keeps
      { (s.eraseXtraClient clientName).gnssRegisterXtraStatusUpdate update with
        mConfigReqs := reqs, configRequests := asked }
      (s.deregisterXtraStatusUpdate clientName sessionId rc) ∧
      (s.gnssInterface = true →
        update = if s.mClientsRegForXtraStatus.erase clientName = [] then false
          else s.xtraStatusUpdate) := by
  rw [deregisterXtraStatusUpdate]
  split
  · rename_i hset
    split
    · obtain ⟨reqs, asked, hkeeps⟩ := addConfigRequestToMap_keeps
        ((s.eraseXtraClient clientName).gnssRegisterXtraStatusUpdate false) sessionId clientName
        .deregisterXtraStatusUpdateReq rc
      exact ⟨reqs, asked, false, hkeeps, fun _ => (if_pos hset).symm⟩
    · rename_i hgnss
      exact ⟨_, _, s.xtraStatusUpdate, Keeps.refl _, fun h => absurd h hgnss⟩
  · rename_i hset
    refine ⟨s.mConfigReqs, s.configRequests, s.xtraStatusUpdate, ?_,
      fun _ => (if_neg hset).symm⟩
    split
    · exact onControlResponseCb_keeps (s.eraseXtraClient clientName) clientName _ _ _ rc
    · exact Keeps.refl _

theorem deregisterXtraStatusUpdate_survives (s : State) {clientName n : String}
    (sessionId : UInt32) {rc : Bool} (h : n = clientName → rc = true) :
    Survives n s (s.deregisterXtraStatusUpdate clientName sessionId rc) := by
  have herase : Survives n s (s.eraseXtraClient clientName) := Survives.of_eq rfl
  rw [deregisterXtraStatusUpdate]
  split
  · split
    · exact herase.trans (Survives.trans (Survives.of_eq rfl) (addConfigRequestToMap_survives
        ((s.eraseXtraClient clientName).gnssRegisterXtraStatusUpdate false) sessionId
        .deregisterXtraStatusUpdateReq h))
    · exact herase
  · split
    · exact herase.trans (method_survives _ _ 0 h)
    · exact herase

theorem configUserConsentTerrestrialPositioning_keeps (s : State) (clientName : String)
    (userConsent : Int) (created : Bool) (sessionId : UInt32) (rc : Bool) :
    ∃ reqs asked, Keeps
      { s.setOptIn userConsent created with mConfigReqs := reqs, configRequests := asked }
      (s.configUserConsentTerrestrialPositioning clientName userConsent created sessionId rc) :=
  addConfigRequestToMap_keeps (s.setOptIn userConsent created) sessionId clientName
    .configUserConsentTerrestrialPositioning rc

theorem configUserConsentTerrestrialPositioning_survives (s : State) {clientName n : String}
    (userConsent : Int) (created : Bool) (sessionId : UInt32) {rc : Bool}
    (h : n = clientName → rc = true) :
    Survives n s
      (s.configUserConsentTerrestrialPositioning clientName userConsent created sessionId rc) :=
  Survives.trans (Survives.of_eq rfl) (addConfigRequestToMap_survives
    (s.setOptIn userConsent created) sessionId .configUserConsentTerrestrialPositioning h)

/-! ## Timeouts -/

theorem gtpFixRequestTimeout_quiet (s : State) (clientName : String) (fired : Nat) (rc : Bool) :
    ∃ timedOut, Quiet { s with timedOut := timedOut }
      (s.gtpFixRequestTimeout clientName fired rc) := by
  rw [gtpFixRequestTimeout]
  split
  · exact ⟨_, Quiet.refl s⟩
  · rename_i timer _
    refine ⟨s.timedOut ++ [(fired, timer.req)], ?_⟩
    simp only []
    split
    · exact (sendTerrestrialFix_quiet (s.noteTimeout fired timer.req) _ _ _ _ rc).trans
        (eraseTerrestrialFix_quiet _ clientName)
    · exact eraseTerrestrialFix_quiet (s.noteTimeout fired timer.req) clientName

theorem singleFixRequestTimeout_quiet (s : State) (clientName : String) (fired : Nat)
    (rc : Bool) :
    ∃ timedOut, Quiet { s with timedOut := timedOut }
      (s.singleFixRequestTimeout clientName fired rc) := by
  rw [singleFixRequestTimeout]
  split
  · exact ⟨_, Quiet.refl s⟩
  · rename_i info _
    refine ⟨s.timedOut ++ [(fired, info.timeoutTimer.req)], ?_⟩
    exact ((sendSingleFix_quiet (s.noteTimeout fired info.timeoutTimer.req) clientName _ _ _
      rc).trans (eraseSingleFix_quiet _ clientName)).trans
        (stopTrackingSessionForSingleFixes_quiet _)

theorem timeOutCallback_quiet (s : State) (clientName : String)
    (timerType : SingleShotTimerType) :
    ∃ msgTask fired, Quiet { s with mMsgTask := msgTask, fired := fired }
      (s.timeOutCallback clientName timerType) := by
  rw [timeOutCallback.eq_def]
  split
  · split
    · exact ⟨_, _, ⟨rfl, rfl, rfl, rfl, rfl, rfl⟩⟩
    · exact ⟨_, _, Quiet.refl s⟩
  · split
    · exact ⟨_, _, ⟨rfl, rfl, rfl, rfl, rfl, rfl⟩⟩
    · exact ⟨_, _, Quiet.refl s⟩

theorem procMsg_quiet (s : State) (rc : Bool) :
    ∃ msgTask timedOut, Quiet { s with mMsgTask := msgTask, timedOut := timedOut }
      (s.procMsg rc) := by
  rw [procMsg]
  split
  · exact ⟨_, _, Quiet.refl s⟩
  · rename_i msg rest _
    split
    · obtain ⟨timedOut, h⟩ :=
        gtpFixRequestTimeout_quiet { s with mMsgTask := rest } msg.mClientName msg.req rc
      exact ⟨rest, timedOut, h⟩
    · obtain ⟨timedOut, h⟩ :=
        singleFixRequestTimeout_quiet { s with mMsgTask := rest } msg.mClientName msg.req rc
      exact ⟨rest, timedOut, h⟩

/-! ## The other events -/

theorem onCapabilitiesCallback_keeps {name : String} {c : Client} (mask : UInt64) (rc : Bool)
    (h : s.getClient name = some c) : Keeps s (s.onCapabilitiesCallback name c mask rc) := by
  rw [onCapabilitiesCallback]
  split
  · exact Keeps.refl s
  · exact (setClient_keeps { c with mCapabilityMask := mask } h rfl).trans
      (sendCapabilitiesMsg_keeps _ name _ rc)

theorem onCapabilitiesCallback_survives {name n : String} {c : Client} (mask : UInt64)
    {rc : Bool} (h : s.getClient name = some c) (hrc : n = name → rc = true) :
    Survives n s (s.onCapabilitiesCallback name c mask rc) := by
  rw [onCapabilitiesCallback]
  split
  · exact Survives.refl n s
  · exact (setClient_survives { c with mCapabilityMask := mask } h rfl n).trans
      (method_survives _ _ 0 hrc)

theorem getGnssEnergyConsumed_keeps (s : State) (clientName : String) :
    Keeps s (s.getGnssEnergyConsumed clientName) := by
  rw [getGnssEnergyConsumed]
  split
  · split
    · rename_i c hc
      exact setClient_keeps { c with mEngineInfoRequestMask := true } hc rfl
    · exact Keeps.refl s
  · exact Keeps.refl s

theorem getGnssEnergyConsumed_survives (s : State) (clientName n : String) :
    Survives n s (s.getGnssEnergyConsumed clientName) := by
  rw [getGnssEnergyConsumed]
  split
  · split
    · rename_i c hc
      exact setClient_survives { c with mEngineInfoRequestMask := true } hc rfl n
    · exact Survives.refl n s
  · exact Survives.refl n s

theorem registerGnssSignalTypesUpdate_keeps (s : State) (clientName : String) (rc : Bool) :
    Keeps s (s.registerGnssSignalTypesUpdate clientName rc) := by
  rw [registerGnssSignalTypesUpdate]
  split
  · exact onControlResponseCb_keeps s clientName _ _ _ rc
  · exact Keeps.refl s

theorem registerGnssSignalTypesUpdate_survives (s : State) {clientName n : String} {rc : Bool}
    (h : n = clientName → rc = true) :
    Survives n s (s.registerGnssSignalTypesUpdate clientName rc) := by
  rw [registerGnssSignalTypesUpdate]
  split
  · exact method_survives _ _ 0 h
  · exact Survives.refl n s

theorem deleteEapClientByIds_keeps (s : State) (serviceId instanceId : Int) :
    Keeps s (s.deleteEapClientByIds serviceId instanceId) := by
  rw [deleteEapClientByIds]
  split
  · exact deleteClientbyName_keeps s _
  · exact Keeps.refl s

theorem deleteEapClientByIds_survives (s : State) {serviceId instanceId : Int} {n : String}
    (h : s.getClientNameByIds serviceId instanceId ≠ some n) :
    Survives n s (s.deleteEapClientByIds serviceId instanceId) := by
  rw [deleteEapClientByIds]
  split
  · rename_i clientName hname
    exact deleteClientbyName_survives fun hn => h (hn ▸ hname)
  · exact Survives.refl n s

/-- A new client gets the next number. -/
theorem newClient_of_none {clientname : String} (h : s.getClient clientname = none)
    (mClientType : ClientType) (ids : Int × Int) (rc : Bool) :
    ∃ c, c.id = s.nextClient ∧ s.newClient clientname mClientType ids rc =
      { s.setClient clientname c with nextClient := s.nextClient + 1 } := by
  rw [newClient, h]
  exact ⟨_, rfl, rfl⟩

theorem newClient_of_some {clientname : String} {c : Client}
    (h : s.getClient clientname = some c) (mClientType : ClientType) (ids : Int × Int)
    (rc : Bool) :
    s.newClient clientname mClientType ids rc = s.sendCapabilitiesMsg clientname c rc := by
  rw [newClient, h]

end State

/-! ## All events -/

open State

/-- The event deletes the client with this name, or cannot send a message to it. -/
def Event.MayLose (s : State) (name : String) : Event → Prop
  | .newClient clientName _ _ rc | .capabilitiesCb clientName _ rc
  | .configRequest clientName _ _ rc | .registerXtraStatusUpdate clientName _ rc
  | .deregisterXtraStatusUpdate clientName _ rc | .registerGnssSignalTypesUpdate clientName rc
  | .configUserConsent clientName _ _ _ rc => name = clientName ∧ rc = false
  | .deleteClient clientName | .purge clientName => name = clientName
  | .deleteEapClientByIds serviceId instanceId =>
    s.getClientNameByIds serviceId instanceId = some name
  | .controlResponse _ sessionId rc =>
    (s.mConfigReqs.lookup sessionId).map ConfigReqClientData.clientName = some name ∧ rc = false
  | .controlCollectiveResponse resp rc =>
    (∃ r ∈ resp, (s.mConfigReqs.lookup r.2).map ConfigReqClientData.clientName = some name) ∧
      rc = false
  | .gnssConfig sessionId _ rc rc' rcs =>
    if sessionId = 0 then rcs name = false
    else
      (s.mConfigReqs.lookup sessionId).map ConfigReqClientData.clientName = some name ∧
        (rc = false ∨ rc' = false)
  | .gnssSignalTypes _ rcs | .gnssEnergyConsumed _ rcs | .performMaintenance _ rcs =>
    rcs name = false
  | _ => False

instance (s : State) (name : String) : ∀ e : Event, Decidable (e.MayLose s name)
  | .newClient .. | .capabilitiesCb .. | .configRequest .. | .registerXtraStatusUpdate ..
  | .deregisterXtraStatusUpdate .. | .registerGnssSignalTypesUpdate ..
  | .configUserConsent .. => inferInstanceAs (Decidable (_ ∧ _))
  | .deleteClient _ | .purge _ => inferInstanceAs (Decidable (_ = _))
  | .deleteEapClientByIds .. => inferInstanceAs (Decidable (_ = _))
  | .controlResponse .. | .controlCollectiveResponse .. => inferInstanceAs (Decidable (_ ∧ _))
  | .gnssConfig sessionId .. => inferInstanceAs (Decidable (if sessionId = 0 then _ else _))
  | .gnssSignalTypes .. | .gnssEnergyConsumed .. | .performMaintenance .. =>
    inferInstanceAs (Decidable (_ = _))
  | .getGnssEnergyConsumed _ | .getSingleTerrestrialPos .. | .getSinglePos ..
  | .gtpWwanTracking .. | .gnssLocationInfo .. | .timeOut .. | .procMsg _ =>
    inferInstanceAs (Decidable False)

/-- **A client survives** an event that neither deletes it nor fails to send to it. -/
theorem next_survives {s : State} {e : Event} {n : String} (h : ¬ e.MayLose s n) :
    Survives n s (next s e) := by
  have hrc : ∀ {name : String} {rc : Bool}, ¬ (n = name ∧ rc = false) → n = name → rc = true := by
    intro name rc hnot hn
    cases rc
    · exact absurd ⟨hn, rfl⟩ hnot
    · rfl
  cases e with
  | newClient clientName mClientType ids rc =>
    cases hc : s.getClient clientName with
    | some c =>
      rw [next, newClient_of_some hc]
      exact method_survives _ _ 0 (hrc h)
    | none =>
      obtain ⟨c, _, heq⟩ := newClient_of_none hc mClientType ids rc
      rw [next, heq]
      intro d hd
      have hne : n ≠ clientName := fun hn => by rw [hn, hc] at hd; cases hd
      exact ⟨d, (getClient_setClient s clientName n c).trans ((if_neg hne).trans hd), rfl⟩
  | deleteClient clientName => exact deleteClientbyName_survives h
  | deleteEapClientByIds serviceId instanceId => exact deleteEapClientByIds_survives s h
  | capabilitiesCb clientName mask rc =>
    rw [next]
    split
    · rename_i c hc
      exact onCapabilitiesCallback_survives mask hc (hrc h)
    · exact Survives.refl n s
  | purge clientName => exact deleteClientbyName_survives h
  | configRequest clientName msgId sessionId rc =>
    exact configRequest_survives s msgId sessionId (hrc h)
  | registerXtraStatusUpdate clientName sessionId rc =>
    exact registerXtraStatusUpdate_survives s sessionId (hrc h)
  | deregisterXtraStatusUpdate clientName sessionId rc =>
    exact deregisterXtraStatusUpdate_survives s sessionId (hrc h)
  | registerGnssSignalTypesUpdate clientName rc =>
    exact registerGnssSignalTypesUpdate_survives s (hrc h)
  | configUserConsent clientName userConsent created sessionId rc =>
    exact configUserConsentTerrestrialPositioning_survives s userConsent created sessionId (hrc h)
  | getGnssEnergyConsumed clientName => exact getGnssEnergyConsumed_survives s clientName n
  | controlResponse err sessionId rc =>
    refine onControlResponseCallback_survives s err sessionId fun hn => ?_
    cases rc
    · exact absurd ⟨hn, rfl⟩ h
    · rfl
  | controlCollectiveResponse resp rc =>
    rw [next, onControlCollectiveResponseCallback.eq_def]
    split
    · rename_i err sessionId
      refine onControlResponseCallback_survives s err sessionId fun hn => ?_
      cases rc
      · exact absurd ⟨⟨_, List.mem_singleton.mpr rfl, hn⟩, rfl⟩ h
      · rfl
    · exact Survives.refl n s
  | gnssConfig sessionId config rc rc' rcs =>
    rw [Event.MayLose] at h
    refine onGnssConfigCallback_survives s sessionId config (fun hzero => ?_)
      (fun hzero hn => ?_)
    · rw [if_pos hzero] at h
      simpa using h
    · rw [if_neg hzero] at h
      simpa [hn] using h
  | gnssSignalTypes signalType rcs =>
    have hrcs : rcs n = true := by simpa [Event.MayLose] using h
    exact broadcast_survives
      (fun name c s' _ => method_survives c _ 0 fun hn => hn ▸ hrcs) _ s
  | gnssEnergyConsumed total rcs =>
    have hrcs : rcs n = true := by simpa [Event.MayLose] using h
    exact broadcast_survives (fun name c s' hc =>
      onGnssEnergyConsumedInfoAvailable_survives total hc fun hn => hn ▸ hrcs) _ s
  | performMaintenance socketDir rcs =>
    exact pings_survives socketDir (by simpa [Event.MayLose] using h) _ s
  | getSingleTerrestrialPos clientName rc =>
    exact (getSingleTerrestrialPos_quiet s clientName rc).survives n
  | getSinglePos clientName horQoS timeoutMsec created trackingId =>
    exact (getSinglePos_quiet s clientName horQoS timeoutMsec created trackingId).survives n
  | gtpWwanTracking location rcs =>
    exact (onGtpWwanTrackingCallback_quiet s location rcs).survives n
  | gnssLocationInfo location rcs => exact (onGnssLocationInfoCb_quiet s location rcs).survives n
  | timeOut clientName timerType =>
    obtain ⟨_, _, h⟩ := timeOutCallback_quiet s clientName timerType
    exact Survives.trans (Survives.of_eq rfl) (h.survives n)
  | procMsg rc =>
    obtain ⟨_, _, h⟩ := procMsg_quiet s rc
    exact Survives.trans (Survives.of_eq rfl) (h.survives n)

/-- The event registers a client under a name that is free. -/
def Event.registers (s : State) : Event → Bool
  | .newClient clientName _ _ _ => (s.getClient clientName).isNone
  | _ => false

/-- The event is about XTRA status updates. -/
def Event.aboutXtra : Event → Bool
  | .registerXtraStatusUpdate .. | .deregisterXtraStatusUpdate .. | .gnssConfig .. => true
  | _ => false

/-- The event is about configuration requests. -/
def Event.aboutConfig : Event → Bool
  | .configRequest .. | .registerXtraStatusUpdate .. | .deregisterXtraStatusUpdate ..
  | .configUserConsent .. | .controlResponse .. | .controlCollectiveResponse ..
  | .gnssConfig .. => true
  | _ => false

/-- The event is about timeouts. -/
def Event.aboutTimeouts : Event → Bool
  | .timeOut .. | .procMsg .. => true
  | _ => false

/-- The event is about fixes. -/
def Event.aboutFixes : Event → Bool
  | .configUserConsent .. | .getSingleTerrestrialPos .. | .getSinglePos .. | .gtpWwanTracking ..
  | .gnssLocationInfo .. | .timeOut .. | .procMsg .. => true
  | _ => false

/-- The states differ in what the event is about, and in what none of the parts has. -/
structure Event.Frame (e : Event) (s t : State) : Prop where
  clients : t.mClients = s.mClients
  nextClient : t.nextClient = s.nextClient
  freed : t.freed = s.freed
  xtra : e.aboutXtra = false → t.xtraPart = s.xtraPart
  config : e.aboutConfig = false → t.configPart = s.configPart
  timeouts : e.aboutTimeouts = false → t.timeoutPart = s.timeoutPart
  idle : e.aboutFixes = false → Idle s t

theorem Event.Frame.refl (e : Event) (s : State) : e.Frame s s :=
  ⟨rfl, rfl, rfl, fun _ => rfl, fun _ => rfl, fun _ => rfl, fun _ => .same rfl fun _ h => h⟩

/-- What is done about fixes. -/
theorem Event.Frame.quiet {e : Event} {s t : State} (h : Quiet s t) (habout : e.aboutFixes = true) :
    e.Frame s t :=
  ⟨h.mClients, h.nextClient, h.freed, fun _ => h.xtra, fun _ => h.config, fun _ => h.timeouts,
    fun hnot => by simp [habout] at hnot⟩

/-- **Frame.**  Whatever does not register a client changes the part of the state that it is
about, and keeps the rest but for the clients it loses. -/
theorem next_keeps {s : State} {e : Event} (h : e.registers s = false) :
    ∃ t, e.Frame s t ∧ Keeps t (next s e) := by
  cases e with
  | newClient clientName mClientType ids rc =>
    cases hc : s.getClient clientName with
    | some c =>
      refine ⟨s, .refl _ s, ?_⟩
      rw [next, newClient_of_some hc]
      exact sendCapabilitiesMsg_keeps s clientName c rc
    | none => simp [Event.registers, hc] at h
  | deleteClient clientName => exact ⟨s, .refl _ s, deleteClientbyName_keeps s clientName⟩
  | deleteEapClientByIds serviceId instanceId =>
    exact ⟨s, .refl _ s, deleteEapClientByIds_keeps s serviceId instanceId⟩
  | capabilitiesCb clientName mask rc =>
    refine ⟨s, .refl _ s, ?_⟩
    rw [next]
    split
    · exact onCapabilitiesCallback_keeps mask rc ‹_›
    · exact Keeps.refl s
  | purge clientName => exact ⟨s, .refl _ s, deleteClientbyName_keeps s clientName⟩
  | configRequest clientName msgId sessionId rc =>
    obtain ⟨reqs, asked, hkeeps⟩ := configRequest_keeps s clientName msgId sessionId rc
    refine ⟨_, ?_, hkeeps⟩
    exact ⟨rfl, rfl, rfl, fun _ => rfl, by rintro ⟨⟩, fun _ => rfl,
      fun _ => .same rfl fun _ hf => hf⟩
  | registerXtraStatusUpdate clientName sessionId rc =>
    obtain ⟨reqs, asked, update, hkeeps, _⟩ :=
      registerXtraStatusUpdate_keeps s clientName sessionId rc
    refine ⟨_, ?_, hkeeps⟩
    exact ⟨rfl, rfl, rfl, by rintro ⟨⟩, by rintro ⟨⟩, fun _ => rfl,
      fun _ => .same rfl fun _ hf => hf⟩
  | deregisterXtraStatusUpdate clientName sessionId rc =>
    obtain ⟨reqs, asked, update, hkeeps, _⟩ :=
      deregisterXtraStatusUpdate_keeps s clientName sessionId rc
    refine ⟨_, ?_, hkeeps⟩
    exact ⟨rfl, rfl, rfl, by rintro ⟨⟩, by rintro ⟨⟩, fun _ => rfl,
      fun _ => .same rfl fun _ hf => hf⟩
  | registerGnssSignalTypesUpdate clientName rc =>
    exact ⟨s, .refl _ s, registerGnssSignalTypesUpdate_keeps s clientName rc⟩
  | configUserConsent clientName userConsent created sessionId rc =>
    obtain ⟨reqs, asked, hkeeps⟩ := configUserConsentTerrestrialPositioning_keeps s clientName
      userConsent created sessionId rc
    refine ⟨_, ?_, hkeeps⟩
    exact ⟨rfl, rfl, rfl, fun _ => rfl, by rintro ⟨⟩, fun _ => rfl, by rintro ⟨⟩⟩
  | getGnssEnergyConsumed clientName =>
    exact ⟨s, .refl _ s, getGnssEnergyConsumed_keeps s clientName⟩
  | controlResponse err sessionId rc =>
    obtain ⟨reqs, sent, hsent, hkeeps⟩ := onControlResponseCallback_keeps s err sessionId rc
    refine ⟨_, ?_, hkeeps⟩
    exact ⟨rfl, rfl, rfl, fun _ => rfl, by rintro ⟨⟩, fun _ => rfl,
      fun _ => .same (by simp only [fixPart, fixes, hsent]) fun _ hf => hf⟩
  | controlCollectiveResponse resp rc =>
    obtain ⟨reqs, sent, hsent, hkeeps⟩ := onControlCollectiveResponseCallback_keeps s resp rc
    refine ⟨_, ?_, hkeeps⟩
    exact ⟨rfl, rfl, rfl, fun _ => rfl, by rintro ⟨⟩, fun _ => rfl,
      fun _ => .same (by simp only [fixPart, fixes, hsent]) fun _ hf => hf⟩
  | gnssConfig sessionId config rc rc' rcs =>
    obtain ⟨reqs, sent, unasked, hsent, hkeeps⟩ :=
      onGnssConfigCallback_keeps s sessionId config rc rc' rcs
    refine ⟨_, ?_, hkeeps⟩
    exact ⟨rfl, rfl, rfl, by rintro ⟨⟩, by rintro ⟨⟩, fun _ => rfl,
      fun _ => .same (by simp only [fixPart, fixes, hsent]) fun _ hf => hf⟩
  | gnssSignalTypes signalType rcs =>
    exact ⟨s, .refl _ s, broadcast_keeps (fun name c s' _ =>
      onGnssSignalTypesCb_keeps s' signalType _ name c) _ s⟩
  | gnssEnergyConsumed total rcs =>
    exact ⟨s, .refl _ s, broadcast_keeps (fun name c s' hc =>
      onGnssEnergyConsumedInfoAvailable_keeps total _ hc) _ s⟩
  | performMaintenance socketDir rcs => exact ⟨s, .refl _ s, pings_keeps socketDir rcs _ s⟩
  | getSingleTerrestrialPos clientName rc =>
    exact ⟨_, .quiet (getSingleTerrestrialPos_quiet s clientName rc) rfl, Keeps.refl _⟩
  | getSinglePos clientName horQoS timeoutMsec created trackingId =>
    exact ⟨_, .quiet (getSinglePos_quiet s clientName horQoS timeoutMsec created trackingId) rfl,
      Keeps.refl _⟩
  | gtpWwanTracking location rcs =>
    exact ⟨_, .quiet (onGtpWwanTrackingCallback_quiet s location rcs) rfl, Keeps.refl _⟩
  | gnssLocationInfo location rcs =>
    exact ⟨_, .quiet (onGnssLocationInfoCb_quiet s location rcs) rfl, Keeps.refl _⟩
  | timeOut clientName timerType =>
    obtain ⟨_, _, hquiet⟩ := timeOutCallback_quiet s clientName timerType
    refine ⟨_, ?_, Keeps.refl _⟩
    exact ⟨hquiet.mClients, hquiet.nextClient, hquiet.freed, fun _ => hquiet.xtra,
      fun _ => hquiet.config, by rintro ⟨⟩, by rintro ⟨⟩⟩
  | procMsg rc =>
    obtain ⟨_, _, hquiet⟩ := procMsg_quiet s rc
    refine ⟨_, ?_, Keeps.refl _⟩
    exact ⟨hquiet.mClients, hquiet.nextClient, hquiet.freed, fun _ => hquiet.xtra,
      fun _ => hquiet.config, by rintro ⟨⟩, by rintro ⟨⟩⟩

/-- A registration is a new client with the next number, and nothing else. -/
theorem next_registers {s : State} {e : Event} (h : e.registers s = true) :
    ∃ name c, (∃ mClientType ids rc, e = .newClient name mClientType ids rc) ∧
      s.getClient name = none ∧ c.id = s.nextClient ∧
      next s e = { s.setClient name c with nextClient := s.nextClient + 1 } := by
  cases e with
  | newClient name mClientType ids rc =>
    have hnone : s.getClient name = none := by simpa [Event.registers] using h
    obtain ⟨c, hid, heq⟩ := newClient_of_none hnone mClientType ids rc
    exact ⟨name, c, ⟨mClientType, ids, rc, rfl⟩, hnone, hid, heq⟩
  | _ => simp [Event.registers] at h

/-- Events that are not about fixes leave them alone, but for the clients that they lose. -/
theorem next_idle {s : State} {e : Event} (h : e.aboutFixes = false) : Idle s (next s e) := by
  cases hregisters : e.registers s with
  | false =>
    obtain ⟨t, hframe, hkeeps⟩ := next_keeps hregisters
    exact (hframe.idle h).trans hkeeps.idle
  | true =>
    obtain ⟨n, c, _, _, _, heq⟩ := next_registers hregisters
    rw [heq]
    exact .same rfl fun _ hf => hf

/-- **Who is registered** after an event was so before, or is new. -/
theorem next_clients {s : State} {e : Event} {name : String} {c' : Client}
    (h : (next s e).getClient name = some c') :
    (∃ c, s.getClient name = some c ∧ c'.id = c.id) ∨
      s.getClient name = none ∧ c'.id = s.nextClient ∧ e.registers s = true ∧
        ∃ mClientType ids rc, e = .newClient name mClientType ids rc := by
  cases hregisters : e.registers s with
  | false =>
    obtain ⟨t, hframe, hkeeps⟩ := next_keeps hregisters
    obtain ⟨c, hc, hid⟩ := hkeeps.clients name c' h
    rw [getClient, hframe.clients] at hc
    exact Or.inl ⟨c, hc, hid⟩
  | true =>
    obtain ⟨n, c, he, hnone, hid, heq⟩ := next_registers hregisters
    rw [heq] at h
    have h' : (s.setClient n c).getClient name = some c' := h
    rw [getClient_setClient] at h'
    by_cases hn : name = n
    · rw [if_pos hn] at h'
      cases h'
      subst hn
      exact Or.inr ⟨hnone, hid, rfl, he⟩
    · rw [if_neg hn] at h'
      exact Or.inl ⟨c', h', rfl⟩

theorem next_nextClient (s : State) (e : Event) :
    (next s e).nextClient = s.nextClient + (e.registers s).toNat := by
  cases hregisters : e.registers s with
  | false =>
    obtain ⟨t, hframe, hkeeps⟩ := next_keeps hregisters
    rw [hkeeps.nextClient, hframe.nextClient]
    rfl
  | true =>
    obtain ⟨n, c, _, _, _, heq⟩ := next_registers hregisters
    rw [heq]
    rfl

/-- The names for XTRA status updates are a set. -/
theorem next_nodup {s : State} (e : Event) (h : s.mClientsRegForXtraStatus.Nodup) :
    (next s e).mClientsRegForXtraStatus.Nodup := by
  have hsame : ∀ {s' : State}, s'.xtraPart.1 = s.mClientsRegForXtraStatus →
      s'.mClientsRegForXtraStatus.Nodup := by
    intro s' heq
    rw [← heq] at h
    exact h
  have hother : e.aboutXtra = false → (next s e).mClientsRegForXtraStatus.Nodup := by
    intro habout
    cases hregisters : e.registers s with
    | false =>
      obtain ⟨t, hframe, hkeeps⟩ := next_keeps hregisters
      exact hsame (congrArg Prod.fst (hkeeps.xtra.trans (hframe.xtra habout)))
    | true =>
      obtain ⟨n, c, _, _, _, heq⟩ := next_registers hregisters
      rw [heq]
      exact h
  cases e with
  | registerXtraStatusUpdate clientName sessionId rc =>
    obtain ⟨_, _, _, hkeeps, _⟩ := registerXtraStatusUpdate_keeps s clientName sessionId rc
    have hset : (s.registerXtraStatusUpdate clientName sessionId rc).mClientsRegForXtraStatus =
        s.mClientsRegForXtraStatus.insert clientName := congrArg Prod.fst hkeeps.xtra
    rw [next, hset]
    exact h.insert
  | deregisterXtraStatusUpdate clientName sessionId rc =>
    obtain ⟨_, _, _, hkeeps, _⟩ := deregisterXtraStatusUpdate_keeps s clientName sessionId rc
    have hset : (s.deregisterXtraStatusUpdate clientName sessionId rc).mClientsRegForXtraStatus =
        s.mClientsRegForXtraStatus.erase clientName := congrArg Prod.fst hkeeps.xtra
    rw [next, hset]
    exact h.erase clientName
  | gnssConfig sessionId config rc rc' rcs =>
    obtain ⟨_, _, _, _, hkeeps⟩ := onGnssConfigCallback_keeps s sessionId config rc rc' rcs
    exact hsame (congrArg Prod.fst hkeeps.xtra)
  | _ => exact hother rfl

/-! ## Numbers -/

/-- The clients have numbers that were given, no two the same, and none of those that were
freed. -/
structure Numbered (s : State) : Prop where
  lt : ∀ {name c}, s.getClient name = some c → c.id < s.nextClient
  distinct : ∀ {name name' c c'}, s.getClient name = some c → s.getClient name' = some c' →
    c.id = c'.id → name = name'
  alive : ∀ {name c}, s.getClient name = some c → c.id ∉ s.freed
  freed_lt : ∀ {id}, id ∈ s.freed → id < s.nextClient

theorem Numbered.init (gnssInterface : Bool) : Numbered (State.init gnssInterface) :=
  ⟨nofun, nofun, nofun, nofun⟩

theorem Numbered.of_eq {s s' : State} (h : Numbered s) (hclients : s'.mClients = s.mClients)
    (hnext : s'.nextClient = s.nextClient) (hfreed : s'.freed = s.freed) : Numbered s' := by
  have hget : ∀ name, s'.getClient name = s.getClient name := by
    intro name
    rw [getClient, hclients]
    rfl
  refine ⟨?_, ?_, ?_, ?_⟩
  · rw [hnext]
    exact fun hc => h.lt (hget _ ▸ hc)
  · exact fun hc hc' => h.distinct (hget _ ▸ hc) (hget _ ▸ hc')
  · rw [hfreed]
    exact fun hc => h.alive (hget _ ▸ hc)
  · rw [hnext, hfreed]
    exact h.freed_lt

/-- Losing clients keeps the numbers. -/
theorem Numbered.keeps {s s' : State} (h : Numbered s) (hkeeps : Keeps s s') : Numbered s' := by
  constructor
  · intro name c' hc'
    obtain ⟨c, hc, hid⟩ := hkeeps.clients name c' hc'
    rw [hid, hkeeps.nextClient]
    exact h.lt hc
  · intro name name' c' d' hc' hd' heq
    obtain ⟨c, hc, hid⟩ := hkeeps.clients name c' hc'
    obtain ⟨d, hd, hid'⟩ := hkeeps.clients name' d' hd'
    exact h.distinct hc hd (hid.symm.trans (heq.trans hid'))
  · intro name c' hc' hfreed
    obtain ⟨c, hc, hid⟩ := hkeeps.clients name c' hc'
    obtain hold | ⟨name', d, hd, hid', hgone⟩ := hkeeps.freed c'.id hfreed
    · exact h.alive hc (hid ▸ hold)
    · obtain rfl := h.distinct hc hd (hid.symm.trans hid'.symm)
      rw [hgone] at hc'
      cases hc'
  · intro id hid
    rw [hkeeps.nextClient]
    obtain hold | ⟨name, d, hd, rfl, _⟩ := hkeeps.freed id hid
    · exact h.freed_lt hold
    · exact h.lt hd

theorem Numbered.quiet {s s' : State} (h : Numbered s) (hquiet : Quiet s s') : Numbered s' :=
  h.of_eq hquiet.mClients hquiet.nextClient hquiet.freed

/-- A new client gets a number that no other has. -/
theorem Numbered.register {s : State} (h : Numbered s) {name : String} {c : Client}
    (hid : c.id = s.nextClient) :
    Numbered { s.setClient name c with nextClient := s.nextClient + 1 } := by
  have hclients : ∀ {n d}, (s.setClient name c).getClient n = some d →
      n = name ∧ d = c ∨ s.getClient n = some d := by
    intro n d hd
    rw [getClient_setClient] at hd
    by_cases hn : n = name
    · rw [if_pos hn] at hd
      exact Or.inl ⟨hn, (Option.some.inj hd).symm⟩
    · rw [if_neg hn] at hd
      exact Or.inr hd
  constructor
  · intro n d hd
    show d.id < s.nextClient + 1
    obtain ⟨_, rfl⟩ | hold := hclients hd
    · omega
    · have := h.lt hold
      omega
  · intro n n' d d' hd hd' heq
    obtain ⟨hn, rfl⟩ | hold := hclients hd <;> obtain ⟨hn', rfl⟩ | hold' := hclients hd'
    · exact hn.trans hn'.symm
    · have := h.lt hold'
      omega
    · have := h.lt hold
      omega
    · exact h.distinct hold hold' heq
  · intro n d hd hfreed
    obtain ⟨_, rfl⟩ | hold := hclients hd
    · have := h.freed_lt hfreed
      omega
    · exact h.alive hold hfreed
  · intro id hid'
    show id < s.nextClient + 1
    have := h.freed_lt hid'
    omega

theorem Numbered.next {s : State} (h : Numbered s) (e : Event) : Numbered (next s e) := by
  cases hregisters : e.registers s with
  | false =>
    obtain ⟨t, hframe, hkeeps⟩ := next_keeps hregisters
    exact (h.of_eq hframe.clients hframe.nextClient hframe.freed).keeps hkeeps
  | true =>
    obtain ⟨n, c, _, _, hid, heq⟩ := next_registers hregisters
    rw [heq]
    exact h.register hid

end LocationStack.Service
