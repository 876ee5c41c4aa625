import LocationStack.Service.Steps

/-! # Clients that are deleted while in use

A handler whose message cannot be sent deletes its own client, in the middle of whatever it was
called from.  A loop over `mClients` has then lost the element that its iterator is at, and a
handler without a `LocationAPI` is freed before its method returns.  What a callback visits and
which faults it meets on the way is told by `Visits`; the callbacks that go wrong are the two
loops over `mClients` itself, and the one that sends two messages to one client
(`no_use_after_purge`).
-/
namespace LocationStack.Service

open Ipc State

/-! ## The property and the condition -/

/-- No erased iterator was advanced, no freed handler was used, and the last callback visited
nobody twice. -/
structure NoPurgedUse (s : State) : Prop where
  iterator : Fault.erasedIterator ∉ s.faults
  handler : Fault.freedHandler ∉ s.faults
  visited : s.visited.Nodup

/-- The messages of the two loops can be sent, and so can the response before a configuration
that goes to a client without a `LocationAPI`. -/
def PurgeSafe (s : State) (e : Event) : Prop :=
  s.faults = [] →
    match e with
    | .gnssSignalTypes _ rcs => ∀ client ∈ s.mClients.entries, rcs client.1 = true
    | .gnssEnergyConsumed _ rcs =>
      ∀ client ∈ s.mClients.entries, client.2.mEngineInfoRequestMask = true → rcs client.1 = true
    | .gnssConfig sessionId _ rc _ _ =>
      sessionId ≠ 0 → ∀ data, s.mConfigReqs.lookup sessionId = some data →
        ∀ c, s.getClient data.clientName = some c → c.mLocationApi = true ∨ rc = true
    | _ => True

/-! ## Visits -/

/-- The service visits these names, and comes to no harm on the way but for a `LocationAPI` that
is missing. -/
structure Visits (names : List String) (s s' : State) : Prop where
  faults : ∀ f ∈ s'.faults, f ∈ s.faults ∨ f = .nullLocationApi
  visited : s'.visited = s.visited ++ names

namespace Visits

variable {s s' s'' : State}

theorem of_eq (hfaults : s'.faults = s.faults) (hvisited : s'.visited = s.visited) :
    Visits [] s s' :=
  ⟨fun f hf => Or.inl (hfaults ▸ hf), by rw [hvisited, List.append_nil]⟩

theorem refl (s : State) : Visits [] s s := of_eq rfl rfl

theorem trans {names names' : List String} (h : Visits names s s') (h' : Visits names' s' s'') :
    Visits (names ++ names') s s'' := by
  refine ⟨fun f hf => (h'.faults f hf).elim (h.faults f) Or.inr, ?_⟩
  rw [h'.visited, h.visited, List.append_assoc]

/-- Steps that visit nobody compose to one. -/
theorem then_quiet (h : Visits [] s s') (h' : Visits [] s' s'') : Visits [] s s'' := h.trans h'

theorem noPurgedUse {names : List String} (h : Visits names s s') (hnames : names.Nodup)
    (hfaults : s.faults = []) (hvisited : s.visited = []) : NoPurgedUse s' := by
  refine ⟨fun hf => ?_, fun hf => ?_, ?_⟩
  · obtain hold | heq := h.faults _ hf
    · rw [hfaults] at hold
      cases hold
    · cases heq
  · obtain hold | heq := h.faults _ hf
    · rw [hfaults] at hold
      cases hold
    · cases heq
  · rw [h.visited, hvisited]
    exact hnames

end Visits

/-! ## Deleting and sending -/

section Handlers

variable {s : State}

theorem eraseSingleFix_visits (s : State) (name : String) : Visits [] s (s.eraseSingleFix name) :=
  .of_eq rfl rfl

theorem eraseConfigReq_visits (s : State) (sessionId : UInt32) :
    Visits [] s (s.eraseConfigReq sessionId) := .of_eq rfl rfl

theorem countReq_visits (s : State) : Visits [] s s.countReq := .of_eq rfl rfl

theorem clearTerrestrialFixes_visits (s : State) : Visits [] s s.clearTerrestrialFixes :=
  .of_eq rfl rfl

theorem stopNetworkLocation_visits (s : State) : Visits [] s s.stopNetworkLocation := by
  rw [stopNetworkLocation]
  split
  · exact .of_eq rfl rfl
  · exact ⟨fun f hf => by simpa [fault] using hf, (List.append_nil _).symm⟩

theorem startNetworkLocation_visits (s : State) : Visits [] s s.startNetworkLocation := by
  rw [startNetworkLocation]
  split
  · exact .of_eq rfl rfl
  · exact ⟨fun f hf => by simpa [fault] using hf, (List.append_nil _).symm⟩

theorem eraseTerrestrialFix_visits (s : State) (name : String) :
    Visits [] s (s.eraseTerrestrialFix name) := by
  rw [eraseTerrestrialFix]
  split
  · have herase : Visits [] s
        { s with mTerrestrialFixTimeoutMap := s.mTerrestrialFixTimeoutMap.erase name } :=
      .of_eq rfl rfl
    simp only []
    split
    · exact herase.then_quiet (stopNetworkLocation_visits _)
    · exact herase
  · exact .refl s

theorem stopTrackingSessionForSingleFixes_visits (s : State) :
    Visits [] s s.stopTrackingSessionForSingleFixes := by
  obtain ⟨_, _, heq⟩ := stopTrackingSessionForSingleFixes_eq s
  rw [heq]
  exact .of_eq rfl rfl

theorem deleteClientbyName_visits (s : State) (name : String) :
    Visits [] s (s.deleteClientbyName name) := by
  rw [deleteClientbyName]
  split
  · exact .refl s
  · have herase : Visits [] s { s with mClients := s.mClients.erase name } := .of_eq rfl rfl
    have hfixes := (herase.then_quiet (eraseTerrestrialFix_visits _ name)).then_quiet
      (eraseSingleFix_visits _ name)
    refine (hfixes.then_quiet (stopTrackingSessionForSingleFixes_visits _)).then_quiet ?_
    rw [cleanup]
    split
    · exact .refl _
    · exact .of_eq rfl rfl

theorem deliver_visits (s : State) (c : Client) (msg : Msg) (answers : Nat) (rc : Bool) :
    Visits [] s (s.deliver c msg answers rc) := by
  rw [deliver]
  split
  · exact .of_eq rfl rfl
  · exact .refl s

theorem sendOrPurge_visits (s : State) (name : String) (c : Client) (msg : Msg) (answers : Nat)
    (rc : Bool) : Visits [] s (s.sendOrPurge name c msg answers rc) := by
  rw [sendOrPurge]
  split
  · exact deliver_visits s c msg answers true
  · exact deleteClientbyName_visits s name

/-- A method of a handler that is there. -/
theorem method_visits {name : String} {c : Client} (halive : c.id ∉ s.freed) (msg : Option Msg)
    (answers : Nat) (rc : Bool) : Visits [] s (s.method name c msg answers rc) := by
  rw [method.eq_def, if_neg halive]
  split
  · exact .refl s
  · split
    · exact sendOrPurge_visits s name c _ answers rc
    · exact .refl s

theorem sendTerrestrialFix_visits {c : Client} (halive : c.id ∉ s.freed) (err : LocationError)
    (location : Location) (answers : Nat) (rc : Bool) :
    Visits [] s (s.sendTerrestrialFix c err location answers rc) := by
  rw [sendTerrestrialFix, if_neg halive]
  exact deliver_visits s c _ answers rc

theorem sendSingleFusedFix_visits {c : Client} (halive : c.id ∉ s.freed) (err : LocationError)
    (location : Location) (answers : Nat) (rc : Bool) :
    Visits [] s (s.sendSingleFusedFix c err location answers rc) := by
  rw [sendSingleFusedFix, if_neg halive]
  exact deliver_visits s c _ answers rc

theorem sendSingleFix_visits (hn : Numbered s) (clientName : String) (err : LocationError)
    (location : Location) (answers : Nat) (rc : Bool) :
    Visits [] s (s.sendSingleFix clientName err location answers rc) := by
  rw [sendSingleFix]
  split
  · exact sendSingleFusedFix_visits (hn.alive ‹_›) err location answers rc
  · exact .refl s

/-! ## Requests -/

theorem newClient_visits (hn : Numbered s) (clientname : String) (mClientType : ClientType)
    (ids : Int × Int) (rc : Bool) : Visits [] s (s.newClient clientname mClientType ids rc) := by
  rw [newClient]
  split
  · exact method_visits (hn.alive ‹_›) _ 0 rc
  · exact .of_eq rfl rfl

theorem onCapabilitiesCallback_visits (hn : Numbered s) {name : String} {c : Client}
    (hc : s.getClient name = some c) (mask : UInt64) (rc : Bool) :
    Visits [] s (s.onCapabilitiesCallback name c mask rc) := by
  rw [onCapabilitiesCallback]
  split
  · exact .refl s
  · have hset : Visits [] s (s.setClient name { c with mCapabilityMask := mask }) := .of_eq rfl rfl
    have halive : c.id ∉ (s.setClient name { c with mCapabilityMask := mask }).freed := hn.alive hc
    refine hset.then_quiet ?_
    exact method_visits (c := { c with mCapabilityMask := mask }) halive _ 0 rc

theorem addConfigRequestToMap_visits (hn : Numbered s) (sessionId : UInt32) (clientName : String)
    (msgId : ConfigMsgID) (rc : Bool) :
    Visits [] s (s.addConfigRequestToMap sessionId clientName msgId rc) := by
  rw [addConfigRequestToMap]
  split
  · exact .of_eq rfl rfl
  · split
    · exact method_visits (hn.alive ‹_›) _ 0 rc
    · exact .refl s

theorem configRequest_visits (hn : Numbered s) (clientName : String) (msgId : ConfigMsgID)
    (sessionId : UInt32) (rc : Bool) :
    Visits [] s (s.configRequest clientName msgId sessionId rc) := by
  have hadd := addConfigRequestToMap_visits hn sessionId clientName msgId rc
  have hsame := Visits.refl s
  cases msgId <;> simp only [configRequest] <;> (try split) <;> first | exact hadd | exact hsame

theorem registerXtraStatusUpdate_visits (hn : Numbered s) (clientName : String)
    (sessionId : UInt32) (rc : Bool) :
    Visits [] s (s.registerXtraStatusUpdate clientName sessionId rc) := by
  have hadd : ∀ update,
      Visits [] s ((s.addXtraClient clientName).gnssRegisterXtraStatusUpdate update) :=
    fun _ => .of_eq rfl rfl
  have hn' : Numbered ((s.addXtraClient clientName).gnssRegisterXtraStatusUpdate true) :=
    hn.of_eq rfl rfl rfl
  rw [registerXtraStatusUpdate]
  split
  · exact (hadd true).then_quiet (addConfigRequestToMap_visits hn' sessionId clientName _ rc)
  · exact hadd s.xtraStatusUpdate

theorem deregisterXtraStatusUpdate_visits (hn : Numbered s) (clientName : String)
    (sessionId : UInt32) (rc : Bool) :
    Visits [] s (s.deregisterXtraStatusUpdate clientName sessionId rc) := by
  have herase : ∀ update,
      Visits [] s ((s.eraseXtraClient clientName).gnssRegisterXtraStatusUpdate update) :=
    fun _ => .of_eq rfl rfl
  have hn' : ∀ update,
      Numbered ((s.eraseXtraClient clientName).gnssRegisterXtraStatusUpdate update) :=
    fun _ => hn.of_eq rfl rfl rfl
  rw [deregisterXtraStatusUpdate]
  split
  · split
    · exact (herase false).then_quiet
        (addConfigRequestToMap_visits (hn' false) sessionId clientName _ rc)
    · exact herase s.xtraStatusUpdate
  · split
    · rename_i c hc
      exact (herase s.xtraStatusUpdate).then_quiet
        (method_visits ((hn' s.xtraStatusUpdate).alive hc) _ 0 rc)
    · exact herase s.xtraStatusUpdate

theorem registerGnssSignalTypesUpdate_visits (hn : Numbered s) (clientName : String) (rc : Bool) :
    Visits [] s (s.registerGnssSignalTypesUpdate clientName rc) := by
  rw [registerGnssSignalTypesUpdate]
  split
  · exact method_visits (hn.alive ‹_›) _ 0 rc
  · exact .refl s

theorem configUserConsentTerrestrialPositioning_visits (hn : Numbered s) (clientName : String)
    (userConsent : Int) (created : Bool) (sessionId : UInt32) (rc : Bool) :
    Visits [] s
      (s.configUserConsentTerrestrialPositioning clientName userConsent created sessionId rc) := by
  have hset : Visits [] s (s.setOptIn userConsent created) := .of_eq rfl rfl
  have hn' : Numbered (s.setOptIn userConsent created) := hn.of_eq rfl rfl rfl
  exact hset.then_quiet (addConfigRequestToMap_visits hn' sessionId clientName _ rc)

theorem getGnssEnergyConsumed_visits (s : State) (clientName : String) :
    Visits [] s (s.getGnssEnergyConsumed clientName) := by
  rw [getGnssEnergyConsumed]
  split
  · split
    · exact .of_eq rfl rfl
    · exact .refl s
  · exact .refl s

theorem deleteEapClientByIds_visits (s : State) (serviceId instanceId : Int) :
    Visits [] s (s.deleteEapClientByIds serviceId instanceId) := by
  rw [deleteEapClientByIds]
  split
  · exact deleteClientbyName_visits s _
  · exact .refl s

/-! ## Control responses -/

theorem onControlResponseCallback_visits (hn : Numbered s) (err : LocationError)
    (sessionId : UInt32) (rc : Bool) :
    Visits [] s (s.onControlResponseCallback err sessionId rc) := by
  rw [onControlResponseCallback]
  split
  · exact .refl s
  · split
    · exact (method_visits (hn.alive ‹_›) _ _ rc).then_quiet
        (eraseConfigReq_visits _ sessionId)
    · exact .of_eq rfl rfl

theorem onControlCollectiveResponseCallback_visits (hn : Numbered s)
    (resp : List (LocationError × UInt32)) (rc : Bool) :
    Visits [] s (s.onControlCollectiveResponseCallback resp rc) := by
  rw [onControlCollectiveResponseCallback.eq_def]
  split
  · exact onControlResponseCallback_visits hn _ _ rc
  · exact .refl s

/-! ## Fixes -/

theorem getSingleTerrestrialPos_visits (hn : Numbered s) (clientName : String) (rc : Bool) :
    Visits [] s (s.getSingleTerrestrialPos clientName rc) := by
  have hadd : Visits [] s (s.addTerrestrialFix clientName).countReq := .of_eq rfl rfl
  rw [getSingleTerrestrialPos]
  split
  · split
    · exact (sendTerrestrialFix_visits (hn.alive ‹_›) _ _ _ rc).then_quiet
        (countReq_visits _)
    · exact .of_eq rfl rfl
  · split
    · exact hadd
    · exact hadd.then_quiet (startNetworkLocation_visits _)

theorem gtpFixRequestTimeout_visits (hn : Numbered s) (clientName : String) (fired : Nat)
    (rc : Bool) : Visits [] s (s.gtpFixRequestTimeout clientName fired rc) := by
  rw [gtpFixRequestTimeout]
  split
  · exact .refl s
  · rename_i timer _
    have hnote : Visits [] s (s.noteTimeout fired timer.req) := .of_eq rfl rfl
    have hn' : Numbered (s.noteTimeout fired timer.req) := hn.of_eq rfl rfl rfl
    simp only []
    split
    · rename_i c hc
      exact (hnote.then_quiet (sendTerrestrialFix_visits (hn'.alive hc) _ _ _ rc)).then_quiet
        (eraseTerrestrialFix_visits _ clientName)
    · exact hnote.then_quiet (eraseTerrestrialFix_visits _ clientName)

theorem terrestrialFixes_visits (location : Location) (rcs : String → Bool)
    (fixes : List (Sigma fun _ : String => SingleFixTimer)) {s : State} (hn : Numbered s) :
    Visits [] s (terrestrialFixes location rcs fixes s) := by
  induction fixes generalizing s with
  | nil => exact .refl s
  | cons fix rest ih =>
    obtain ⟨name, timer⟩ := fix
    rw [terrestrialFixes]
    split
    · rename_i c hc
      have hquiet := sendTerrestrialFix_quiet s c .success location timer.req (rcs name)
      exact (sendTerrestrialFix_visits (hn.alive hc) _ _ _ _).then_quiet
        (ih (hn.quiet hquiet))
    · exact ih hn

theorem onGtpWwanTrackingCallback_visits (hn : Numbered s) (location : Location)
    (rcs : String → Bool) : Visits [] s (s.onGtpWwanTrackingCallback location rcs) := by
  rw [onGtpWwanTrackingCallback]
  split
  · exact ((terrestrialFixes_visits location rcs _ hn).then_quiet
      (clearTerrestrialFixes_visits _)).then_quiet
        (stopNetworkLocation_visits _)
  · exact .refl s

theorem getSinglePos_visits (s : State) (clientName : String) (horQoS : CFloat)
    (timeoutMsec : UInt32) (created : Bool) (trackingId : UInt32) :
    Visits [] s (s.getSinglePos clientName horQoS timeoutMsec created trackingId) := by
  have hapi : Visits [] s ({ s with mSingleFixLocationApi := true }.eraseSingleFix clientName) :=
    .of_eq rfl rfl
  rw [getSinglePos]
  split
  · exact .refl s
  · refine hapi.then_quiet ?_
    simp only []
    split
    · exact .of_eq rfl rfl
    · exact stopTrackingSessionForSingleFixes_visits _

theorem singleFixRequestTimeout_visits (hn : Numbered s) (clientName : String) (fired : Nat)
    (rc : Bool) : Visits [] s (s.singleFixRequestTimeout clientName fired rc) := by
  rw [singleFixRequestTimeout]
  split
  · exact .refl s
  · rename_i info _
    have hnote : Visits [] s (s.noteTimeout fired info.timeoutTimer.req) := .of_eq rfl rfl
    have hn' : Numbered (s.noteTimeout fired info.timeoutTimer.req) := hn.of_eq rfl rfl rfl
    exact ((hnote.then_quiet (sendSingleFix_visits hn' clientName _ _ _ rc)).then_quiet
      (eraseSingleFix_visits _ clientName)).then_quiet
        (stopTrackingSessionForSingleFixes_visits _)

theorem singleFixes_visits (location : Location) (rcs : String → Bool)
    (fixes : List (Sigma fun _ : String => SingleFixReqInfo)) {s : State} (hn : Numbered s) :
    Visits [] s (singleFixes location rcs fixes s) := by
  induction fixes generalizing s with
  | nil => exact .refl s
  | cons fix rest ih =>
    obtain ⟨name, info⟩ := fix
    rw [singleFixes]
    split
    · have hquiet := (sendSingleFix_quiet s name .success location info.timeoutTimer.req
        (rcs name)).trans (eraseSingleFix_quiet _ name)
      exact ((sendSingleFix_visits hn name _ _ _ _).then_quiet
        (eraseSingleFix_visits _ name)).then_quiet (ih (hn.quiet hquiet))
    · exact ih hn

theorem onGnssLocationInfoCb_visits (hn : Numbered s) (location : Location)
    (rcs : String → Bool) : Visits [] s (s.onGnssLocationInfoCb location rcs) := by
  have hlast : Visits [] s { s with mSingleFixLastLocation := location } := .of_eq rfl rfl
  have hn' : Numbered { s with mSingleFixLastLocation := location } := hn.of_eq rfl rfl rfl
  rw [onGnssLocationInfoCb]
  refine Visits.then_quiet ?_ (stopTrackingSessionForSingleFixes_visits _)
  split
  · exact hlast.then_quiet (singleFixes_visits location rcs _ hn')
  · exact hlast

theorem timeOutCallback_visits (s : State) (clientName : String)
    (timerType : SingleShotTimerType) :
    Visits [] s (s.timeOutCallback clientName timerType) := by
  rw [timeOutCallback.eq_def]
  split
  · split
    · exact .of_eq rfl rfl
    · exact .refl s
  · split
    · exact .of_eq rfl rfl
    · exact .refl s

theorem procMsg_visits (hn : Numbered s) (rc : Bool) : Visits [] s (s.procMsg rc) := by
  rw [procMsg]
  split
  · exact .refl s
  · rename_i msg rest _
    have hrest : Visits [] s { s with mMsgTask := rest } := .of_eq rfl rfl
    have hn' : Numbered { s with mMsgTask := rest } := hn.of_eq rfl rfl rfl
    split
    · exact hrest.then_quiet (gtpFixRequestTimeout_visits hn' msg.mClientName msg.req rc)
    · exact hrest.then_quiet (singleFixRequestTimeout_visits hn' msg.mClientName msg.req rc)

/-! ## Loops over copies -/

theorem xtraStatusUpdates_visits (status : XtraStatus) (rcs : String → Bool)
    (names : List String) {s : State} (hn : Numbered s) :
    Visits names s (xtraStatusUpdates status rcs names s) := by
  induction names generalizing s with
  | nil => exact .refl s
  | cons name rest ih =>
    have hvisit : Visits [name] s { s with visited := s.visited ++ [name] } :=
      ⟨fun _ hf => Or.inl hf, rfl⟩
    rw [xtraStatusUpdates]
    split
    · rename_i c hc
      obtain ⟨noted, hnoted⟩ := noteXtra_eq { s with visited := s.visited ++ [name] } c
      have hnote : Visits [] { s with visited := s.visited ++ [name] }
          { s with visited := s.visited ++ [name], unaskedXtra := noted } := .of_eq rfl rfl
      have hn' : Numbered { s with visited := s.visited ++ [name], unaskedXtra := noted } :=
        hn.of_eq rfl rfl rfl
      rw [hnoted]
      exact (hvisit.trans (hnote.then_quiet (method_visits (hn'.alive hc) _ 0 (rcs name)))).trans
        (ih (hn'.keeps (onXtraStatusUpdateCb_keeps _ name c status (rcs name))))
    · exact hvisit.trans (ih (hn.of_eq rfl rfl rfl))

theorem pings_visits (socketDir : String) (rcs : String → Bool)
    (clients : List (Sigma fun _ : String => Client)) (s : State) :
    Visits (clients.map Sigma.fst) s (pings socketDir rcs clients s) := by
  induction clients generalizing s with
  | nil => exact .refl s
  | cons client rest ih =>
    obtain ⟨name, c⟩ := client
    have hvisit : Visits [name] s { s with visited := s.visited ++ [name] } :=
      ⟨fun _ hf => Or.inl hf, rfl⟩
    rw [pings]
    split
    · have hping : Visits [] { s with visited := s.visited ++ [name] }
          (if rcs name then
            State.deliver { s with visited := s.visited ++ [name] } c .pingTest 0 true
          else State.deleteClientbyName { s with visited := s.visited ++ [name] } name) := by
        split
        · exact deliver_visits _ c _ 0 true
        · exact deleteClientbyName_visits _ name
      exact hvisit.trans (hping.trans (ih _))
    · exact hvisit.trans (ih _)

theorem performMaintenance_visits (s : State) (socketDir : String) (rcs : String → Bool) :
    ∃ names, names.Nodup ∧ Visits names s (s.performMaintenance socketDir rcs) := by
  refine ⟨_, ?_, pings_visits socketDir rcs _ s⟩
  exact s.mClients.keys_nodup.sublist (List.filter_sublist.map Sigma.fst)

/-! ## Loops over the clients -/

/-- A visit that its client survives. -/
structure Stays (name : String) (s s' : State) : Prop where
  visits : Visits [] s s'
  numbered : Numbered s'
  client : (s'.getClient name).isSome = true
  others : ∀ n, n ≠ name → s'.getClient n = s.getClient n

/-- The visits of a broadcast: a bad one deletes its client. -/
structure Deletes (visit : String → Client → State → State) (bad : String → Client → Bool) :
    Prop where
  good : ∀ {name c s}, Numbered s → s.getClient name = some c → bad name c = false →
    Stays name s (visit name c s)
  gone : ∀ {name c s}, Numbered s → s.getClient name = some c → bad name c = true →
    (visit name c s).getClient name = none

/-- The state before a visit. -/
theorem Deletes.good_visited {visit : String → Client → State → State}
    {bad : String → Client → Bool} (h : Deletes visit bad) (hn : Numbered s) {name : String}
    {c : Client} (hc : s.getClient name = some c) (hgood : bad name c = false) :
    Visits [name] s (visit name c { s with visited := s.visited ++ [name] }) ∧
      Stays name { s with visited := s.visited ++ [name] }
        (visit name c { s with visited := s.visited ++ [name] }) := by
  have hn' : Numbered { s with visited := s.visited ++ [name] } := hn.of_eq rfl rfl rfl
  have hstays := h.good (s := { s with visited := s.visited ++ [name] }) hn' hc hgood
  have hvisit : Visits [name] s { s with visited := s.visited ++ [name] } :=
    ⟨fun _ hf => Or.inl hf, rfl⟩
  exact ⟨hvisit.trans hstays.visits, hstays⟩

/-- A broadcast without a bad visit visits everybody. -/
theorem Deletes.visits {visit : String → Client → State → State} {bad : String → Client → Bool}
    (h : Deletes visit bad) {names : List String} (hnodup : names.Nodup) (hn : Numbered s)
    (hgood : ∀ name ∈ names, ∃ c, s.getClient name = some c ∧ bad name c = false) :
    Visits names s (broadcast visit names s) := by
  induction names generalizing s with
  | nil => exact .refl s
  | cons name rest ih =>
    obtain ⟨c, hc, hbad⟩ := hgood name List.mem_cons_self
    obtain ⟨hvisit, hstays⟩ := h.good_visited hn hc hbad
    obtain ⟨hnew, hrest⟩ := List.nodup_cons.mp hnodup
    rw [broadcast, hc]
    simp only []
    rw [if_pos (AList.lookup_isSome.mp hstays.client)]
    refine hvisit.trans (ih hrest hstays.numbered ?_)
    intro n hmem
    have hne : n ≠ name := fun heq => hnew (heq ▸ hmem)
    rw [hstays.others n hne]
    exact hgood n (List.mem_cons_of_mem _ hmem)

/-- A bad visit leaves the iterator at an erased element. -/
theorem Deletes.erased {visit : String → Client → State → State} {bad : String → Client → Bool}
    (h : Deletes visit bad) {names : List String} (hnodup : names.Nodup) (hn : Numbered s)
    (hthere : ∀ name ∈ names, (s.getClient name).isSome = true)
    (hbad : ∃ name ∈ names, ∃ c, s.getClient name = some c ∧ bad name c = true) :
    Fault.erasedIterator ∈ (broadcast visit names s).faults := by
  induction names generalizing s with
  | nil =>
    obtain ⟨_, hmem, _⟩ := hbad
    cases hmem
  | cons name rest ih =>
    obtain ⟨c, hc⟩ := Option.isSome_iff_exists.mp (hthere name List.mem_cons_self)
    obtain ⟨hnew, hrest⟩ := List.nodup_cons.mp hnodup
    rw [broadcast, hc]
    simp only []
    cases hfirst : bad name c with
    | true =>
      have hn' : Numbered { s with visited := s.visited ++ [name] } := hn.of_eq rfl rfl rfl
      have hgone := h.gone (s := { s with visited := s.visited ++ [name] }) hn' hc hfirst
      rw [if_neg (AList.lookup_eq_none.mp hgone), fault]
      exact List.mem_append_right _ (List.mem_singleton.mpr rfl)
    | false =>
      obtain ⟨_, hstays⟩ := h.good_visited hn hc hfirst
      rw [if_pos (AList.lookup_isSome.mp hstays.client)]
      have hothers : ∀ n ∈ rest,
          (visit name c { s with visited := s.visited ++ [name] }).getClient n =
            s.getClient n :=
        fun n hmem => hstays.others n fun heq => hnew (heq ▸ hmem)
      refine ih hrest hstays.numbered ?_ ?_
      · intro n hmem
        rw [hothers n hmem]
        exact hthere n (List.mem_cons_of_mem _ hmem)
      · obtain ⟨n, hmem, d, hd, hbad⟩ := hbad
        obtain rfl | hmem := List.mem_cons.mp hmem
        · obtain rfl : c = d := Option.some.inj (hc.symm.trans hd)
          rw [hfirst] at hbad
          cases hbad
        · exact ⟨n, hmem, d, (hothers n hmem).trans hd, hbad⟩

/-- **A broadcast is safe exactly if none of its visits is bad.** -/
theorem Deletes.noPurgedUse_iff {visit : String → Client → State → State}
    {bad : String → Client → Bool} (h : Deletes visit bad) (hn : Numbered s)
    (hfaults : s.faults = []) (hvisited : s.visited = []) :
    NoPurgedUse (broadcast visit s.mClients.keys s) ↔
      ∀ client ∈ s.mClients.entries, bad client.1 client.2 = false := by
  have hentry : ∀ {name c}, s.getClient name = some c ↔
      (⟨name, c⟩ : Sigma fun _ : String => Client) ∈ s.mClients.entries :=
    fun {name c} => AList.mem_lookup_iff
  constructor
  · intro hsafe client hclient
    by_contra hbad
    refine hsafe.iterator (h.erased s.mClients.keys_nodup hn ?_
      ⟨client.1, List.mem_map.mpr ⟨client, hclient, rfl⟩, client.2, hentry.mpr hclient,
        by simpa using hbad⟩)
    intro name hname
    exact AList.lookup_isSome.mpr hname
  · intro hgood
    refine (h.visits s.mClients.keys_nodup hn ?_).noPurgedUse s.mClients.keys_nodup hfaults
      hvisited
    intro name hname
    obtain ⟨c, hc⟩ := Option.isSome_iff_exists.mp (AList.lookup_isSome.mpr hname)
    exact ⟨c, hc, hgood ⟨name, c⟩ (hentry.mp hc)⟩

/-- GNSS signal types: every client is sent a message. -/
theorem onGnssSignalTypesCb_deletes (signalType : UInt32) (rcs : String → Bool) :
    Deletes (fun name each s => s.onGnssSignalTypesCb signalType (rcs name) name each)
      (fun name _ => !rcs name) := by
  have hsend : ∀ {name c s}, Numbered s → s.getClient name = some c →
      s.onGnssSignalTypesCb signalType (rcs name) name c =
        s.sendOrPurge name c (.gnssSignalTypes signalType) 0 (rcs name) :=
    fun hn hc => method_client hc (hn.alive hc) _ 0 _
  constructor
  · intro name c s hn hc hgood
    rw [hsend hn hc, sendOrPurge, if_pos (by simpa using hgood)]
    have hkeeps :=
      deliver_keeps s c true (Sent.response_zero c.id (.gnssSignalTypes signalType)) rfl
    exact ⟨deliver_visits s c _ 0 true, hn.keeps hkeeps, Option.isSome_iff_exists.mpr ⟨c, hc⟩,
      fun _ _ => rfl⟩
  · intro name c s hn hc hbad
    rw [hsend hn hc, sendOrPurge, if_neg (by simpa using hbad), getClient_deleteClientbyName,
      if_pos rfl]

/-- GNSS energy: only who asked is sent a message. -/
theorem onGnssEnergyConsumedInfoAvailable_deletes (total : UInt64) (rcs : String → Bool) :
    Deletes (fun name each s =>
        s.onGnssEnergyConsumedInfoAvailable total (rcs name) name each)
      (fun name each => each.mEngineInfoRequestMask && !rcs name) := by
  have hsend : ∀ {name c s}, Numbered s → s.getClient name = some c →
      c.mEngineInfoRequestMask = true →
      s.onGnssEnergyConsumedInfoAvailable total (rcs name) name c =
        (s.setClient name { c with mEngineInfoRequestMask := false }).sendOrPurge name c
          (.gnssEnergyConsumed total) 0 (rcs name) := by
    intro name c s hn hc hasked
    rw [onGnssEnergyConsumedInfoAvailable, if_neg (hn.alive hc)]
    exact if_pos (by simp [hasSender, hc, hasked])
  constructor
  · intro name c s hn hc hgood
    cases hasked : c.mEngineInfoRequestMask with
    | false =>
      rw [onGnssEnergyConsumedInfoAvailable, if_neg (hn.alive hc), if_neg (by simp [hasked])]
      exact ⟨.refl s, hn, Option.isSome_iff_exists.mpr ⟨c, hc⟩, fun _ _ => rfl⟩
    | true =>
      have hset := setClient_keeps { c with mEngineInfoRequestMask := false } hc rfl
      rw [hsend hn hc hasked, sendOrPurge, if_pos (by simpa [hasked] using hgood)]
      refine ⟨(.of_eq rfl rfl : Visits [] s (s.setClient name _)).then_quiet
        (deliver_visits _ c _ 0 true), (hn.keeps hset).keeps
        (deliver_keeps _ c true (Sent.response_zero c.id (.gnssEnergyConsumed total)) rfl), ?_, ?_⟩
      · rw [Option.isSome_iff_exists]
        exact ⟨_, (getClient_setClient s name name _).trans (if_pos rfl)⟩
      · intro n hne
        exact (getClient_setClient s name n _).trans (if_neg hne)
  · intro name c s hn hc hbad
    obtain ⟨hasked, hrc⟩ := Bool.and_eq_true_iff.mp hbad
    rw [hsend hn hc hasked, sendOrPurge, if_neg (by simpa using hrc),
      getClient_deleteClientbyName, if_pos rfl]

/-! ## Two messages to one client -/

/-- The configuration follows the response, also when that has deleted its client. -/
theorem onGnssConfigCallback_noPurgedUse_iff (hn : Numbered s) (hfaults : s.faults = [])
    (hvisited : s.visited = []) {sessionId : UInt32} (hsid : sessionId ≠ 0)
    (config : GnssConfig) (rc rc' : Bool) (rcs : String → Bool) :
    NoPurgedUse (s.onGnssConfigCallback sessionId config rc rc' rcs) ↔
      ∀ data, s.mConfigReqs.lookup sessionId = some data →
        ∀ c, s.getClient data.clientName = some c → c.mLocationApi = true ∨ rc = true := by
  have hsafe : ∀ {s'}, Visits [] s s' → NoPurgedUse s' :=
    fun h => h.noPurgedUse List.nodup_nil hfaults hvisited
  rw [onGnssConfigCallback, if_neg hsid]
  split
  · rename_i hnone
    refine ⟨fun _ data hdata => ?_, fun _ => hsafe (.refl s)⟩
    rw [hnone] at hdata
    cases hdata
  · rename_i data hdata
    split
    · rename_i c hc
      have hresponse : s.onControlResponseCb data.clientName c .success data.configMsgId
          sessionId.toNat rc = s.sendOrPurge data.clientName c
            (.genericResp data.configMsgId .success) sessionId.toNat rc :=
        method_client hc (hn.alive hc) _ _ rc
      have hfirst := sendOrPurge_visits s data.clientName c
        (.genericResp data.configMsgId .success) sessionId.toNat rc
      have hcond : (∀ data', s.mConfigReqs.lookup sessionId = some data' →
          ∀ c', s.getClient data'.clientName = some c' → c'.mLocationApi = true ∨ rc = true) ↔
            c.mLocationApi = true ∨ rc = true := by
        refine ⟨fun h => h data hdata c hc, fun h data' hdata' c' hc' => ?_⟩
        obtain rfl : data = data' := Option.some.inj (hdata.symm.trans hdata')
        obtain rfl : c = c' := Option.some.inj (hc.symm.trans hc')
        exact h
      rw [hcond, hresponse]
      -- the handler is freed exactly if the response fails and it has no `LocationAPI`
      have hfreed : c.id ∈ (s.sendOrPurge data.clientName c
          (.genericResp data.configMsgId .success) sessionId.toNat rc).freed ↔
            ¬ (c.mLocationApi = true ∨ rc = true) := by
        have halive := hn.alive hc
        obtain ⟨_, _, _, _, _, heq⟩ := deleteClientbyName_eq hc
        cases rc <;> cases hapi : c.mLocationApi <;>
          simp [sendOrPurge, deliver, heq, hapi, halive]
      constructor
      · intro h
        by_contra hnot
        refine h.handler ?_
        rw [onGnssConfigCb, method.eq_def, if_pos (hfreed.mpr hnot)]
        exact List.mem_append_right _ (List.mem_singleton.mpr rfl)
      · intro h
        refine hsafe ((hfirst.then_quiet ?_).then_quiet (eraseConfigReq_visits _ sessionId))
        exact method_visits (fun hmem => hfreed.mp hmem h) _ 0 rc'
    · rename_i hnone
      refine ⟨fun _ data' hdata' c hc => ?_,
        fun _ => hsafe (eraseConfigReq_visits s sessionId)⟩
      obtain rfl : data = data' := Option.some.inj (hdata.symm.trans hdata')
      rw [hnone] at hc
      cases hc

end Handlers

/-! ## All events -/

/-- **What one event does**: exactly the three callbacks of the condition may use a client that
is purged. -/
theorem next_noPurgedUse_iff {s : State} (e : Event) (hn : Numbered s)
    (hset : s.mClientsRegForXtraStatus.Nodup) (hfaults : s.faults = [])
    (hvisited : s.visited = []) :
    NoPurgedUse (next s e) ↔ PurgeSafe s e := by
  have hsafe : ∀ {names s'}, Visits names s s' → names.Nodup → NoPurgedUse s' :=
    fun h hnames => h.noPurgedUse hnames hfaults hvisited
  have hquiet : ∀ {s' : State} {C : Prop}, C → Visits [] s s' → (NoPurgedUse s' ↔ C) :=
    fun hC h => ⟨fun _ => hC, fun _ => hsafe h List.nodup_nil⟩
  cases e with
  | newClient clientName mClientType ids rc =>
    exact hquiet (fun _ => trivial) (newClient_visits hn clientName mClientType ids rc)
  | deleteClient clientName =>
    exact hquiet (fun _ => trivial) (deleteClientbyName_visits s clientName)
  | deleteEapClientByIds serviceId instanceId =>
    exact hquiet (fun _ => trivial) (deleteEapClientByIds_visits s serviceId instanceId)
  | capabilitiesCb clientName mask rc =>
    refine hquiet (fun _ => trivial) ?_
    rw [next]
    split
    · exact onCapabilitiesCallback_visits hn ‹_› mask rc
    · exact .refl s
  | purge clientName =>
    exact hquiet (fun _ => trivial) (deleteClientbyName_visits s clientName)
  | configRequest clientName msgId sessionId rc =>
    exact hquiet (fun _ => trivial) (configRequest_visits hn clientName msgId sessionId rc)
  | registerXtraStatusUpdate clientName sessionId rc =>
    exact hquiet (fun _ => trivial) (registerXtraStatusUpdate_visits hn clientName sessionId rc)
  | deregisterXtraStatusUpdate clientName sessionId rc =>
    exact hquiet (fun _ => trivial) (deregisterXtraStatusUpdate_visits hn clientName sessionId rc)
  | registerGnssSignalTypesUpdate clientName rc =>
    exact hquiet (fun _ => trivial) (registerGnssSignalTypesUpdate_visits hn clientName rc)
  | configUserConsent clientName userConsent created sessionId rc =>
    exact hquiet (fun _ => trivial) (configUserConsentTerrestrialPositioning_visits hn clientName
      userConsent created sessionId rc)
  | getGnssEnergyConsumed clientName =>
    exact hquiet (fun _ => trivial) (getGnssEnergyConsumed_visits s clientName)
  | controlResponse err sessionId rc =>
    exact hquiet (fun _ => trivial) (onControlResponseCallback_visits hn err sessionId rc)
  | controlCollectiveResponse resp rc =>
    exact hquiet (fun _ => trivial) (onControlCollectiveResponseCallback_visits hn resp rc)
  | gnssConfig sessionId config rc rc' rcs =>
    rw [next]
    by_cases hsid : sessionId = 0
    · refine ⟨fun _ _ hne => absurd hsid hne, fun _ => ?_⟩
      rw [onGnssConfigCallback, if_pos hsid]
      split
      · exact hsafe (xtraStatusUpdates_visits _ rcs _ hn) hset
      · exact hsafe (.refl s) List.nodup_nil
    · rw [onGnssConfigCallback_noPurgedUse_iff hn hfaults hvisited hsid]
      exact ⟨fun h _ _ => h, fun h => h hfaults hsid⟩
  | gnssSignalTypes signalType rcs =>
    have hiff := (onGnssSignalTypesCb_deletes signalType rcs).noPurgedUse_iff hn hfaults hvisited
    rw [next, onGnssSignalTypes, hiff]
    simp [PurgeSafe, hfaults]
  | gnssEnergyConsumed total rcs =>
    have hiff := (onGnssEnergyConsumedInfoAvailable_deletes total rcs).noPurgedUse_iff hn hfaults
      hvisited
    rw [next, onGnssEnergyConsumedCb, hiff]
    simp [PurgeSafe, hfaults]
  | performMaintenance socketDir rcs =>
    obtain ⟨names, hnames, hvisits⟩ := performMaintenance_visits s socketDir rcs
    exact ⟨fun _ _ => trivial, fun _ => hsafe hvisits hnames⟩
  | getSingleTerrestrialPos clientName rc =>
    exact hquiet (fun _ => trivial) (getSingleTerrestrialPos_visits hn clientName rc)
  | getSinglePos clientName horQoS timeoutMsec created trackingId =>
    exact hquiet (fun _ => trivial)
      (getSinglePos_visits s clientName horQoS timeoutMsec created trackingId)
  | gtpWwanTracking location rcs =>
    exact hquiet (fun _ => trivial) (onGtpWwanTrackingCallback_visits hn location rcs)
  | gnssLocationInfo location rcs =>
    exact hquiet (fun _ => trivial) (onGnssLocationInfoCb_visits hn location rcs)
  | timeOut clientName timerType =>
    exact hquiet (fun _ => trivial) (timeOutCallback_visits s clientName timerType)
  | procMsg rc => exact hquiet (fun _ => trivial) (procMsg_visits hn rc)

/-- What holds of every state: the numbers of the clients, and the names are a set. -/
def Registered (s : State) : Prop := Numbered s ∧ s.mClientsRegForXtraStatus.Nodup

theorem Registered.step {s : State} (h : Registered s) (e : Event) : Registered (step s e) := by
  rw [Service.step]
  split
  · have hn : Numbered (s.noteReports e.reports) := h.1.of_eq rfl rfl rfl
    exact ⟨hn.next e, next_nodup e h.2⟩
  · exact h

/-- **No use after purge**, in a run from the beginning, exactly if in each of its steps the
messages of the two loops over the clients can be sent, and so can the response that is
followed by a configuration for a client without a `LocationAPI`. -/
theorem no_use_after_purge (gnssInterface : Bool) (es : List Event) :
    EventRun.Throughout step NoPurgedUse (State.init gnssInterface) es ↔
      EventRun.Meets step PurgeSafe (State.init gnssInterface) es := by
  refine EventRun.throughout_iff_meets (J := Registered) (fun s e h => h.step e) ?_
    ⟨Numbered.init gnssInterface, List.nodup_nil⟩
    ⟨List.not_mem_nil, List.not_mem_nil, List.nodup_nil⟩
  intro s e hregistered hsafe
  by_cases hfaults : s.faults = []
  · have hn : Numbered (s.noteReports e.reports) := hregistered.1.of_eq rfl rfl rfl
    rw [step, if_pos hfaults, next_noPurgedUse_iff e hn hregistered.2 hfaults rfl]
    cases e <;> rfl
  · rw [step, if_neg hfaults]
    exact ⟨fun _ hnone => absurd hnone hfaults, fun _ => hsafe⟩

/-- A client that cannot be told the signal types is deleted under the iterator, and one that
cannot be told the response is used once more. -/
theorem use_after_purge :
    ¬ EventRun.Throughout step NoPurgedUse (State.init true)
      [.newClient "a" .locationIntegrationApi (0, 0) true, .gnssSignalTypes 1 fun _ => false] ∧
    ¬ EventRun.Throughout step NoPurgedUse (State.init true)
      [.newClient "a" .locationIntegrationApi (0, 0) true,
        .configRequest "a" .getMinGpsWeekReq 1 true,
        .gnssConfig 1 ⟨none, some 2000, none, none, none⟩ false true fun _ => true] := by
  constructor
  · exact fun h => h.last.iterator (by decide)
  · exact fun h => h.last.handler (by decide)

end LocationStack.Service
