import LocationStack.Service.Steps

/-! # Requests for the energy that GNSS consumed

A client that asks for the consumed energy gets the bit of the request, and only the first
that has one makes the service ask the GNSS interface.  The report of the interface is a
broadcast: it is sent to the clients with the bit, which lose it.  So one report answers all
who wait, and clients come and go meanwhile.  That nobody waits in vain, and nobody is told
more often than they asked, holds over all clients and all orders of events; it rests on the
interface, which reports at most once for each call.
-/
namespace LocationStack.Service

open Ipc

/-- The message tells the energy. -/
def Msg.energy : Msg → Bool
  | .gnssEnergyConsumed _ => true
  | _ => false

namespace State

variable {s s' s'' : State}

/-! ## Who waits, and who was told -/

/-- `hasPendingEngineInfoRequest` of one of the clients. -/
def requestAlreadyPending (s : State) : Bool :=
  s.mClients.entries.any fun each => each.2.mEngineInfoRequestMask

/-- The client with this number has the bit of the request. -/
def waits (s : State) (id : Nat) : Bool :=
  s.mClients.entries.any fun each => each.2.id == id && each.2.mEngineInfoRequestMask

/-- The message tells this client the energy. -/
def tells (id : Nat) (m : Sent) : Bool := m.client == id && m.msg.energy

/-- How often the client with this number was told. -/
def told (s : State) (id : Nat) : Nat := s.sent.countP (tells id)

theorem requestAlreadyPending_iff :
    s.requestAlreadyPending = true ↔
      ∃ name c, s.getClient name = some c ∧ c.mEngineInfoRequestMask = true := by
  rw [requestAlreadyPending, List.any_eq_true]
  constructor
  · rintro ⟨⟨name, c⟩, hmem, hmask⟩
    exact ⟨name, c, AList.mem_lookup_iff.mpr hmem, hmask⟩
  · rintro ⟨name, c, hc, hmask⟩
    exact ⟨⟨name, c⟩, AList.mem_lookup_iff.mp hc, hmask⟩

theorem waits_iff {id : Nat} :
    s.waits id = true ↔
      ∃ name c, s.getClient name = some c ∧ c.id = id ∧ c.mEngineInfoRequestMask = true := by
  rw [waits, List.any_eq_true]
  constructor
  · rintro ⟨⟨name, c⟩, hmem, hmask⟩
    rw [Bool.and_eq_true, beq_iff_eq] at hmask
    exact ⟨name, c, AList.mem_lookup_iff.mpr hmem, hmask.1, hmask.2⟩
  · rintro ⟨name, c, hc, hid, hmask⟩
    exact ⟨⟨name, c⟩, AList.mem_lookup_iff.mp hc, by simp [hid, hmask]⟩

/-- Somebody waits exactly if a request is pending. -/
theorem requestAlreadyPending_iff_waits :
    s.requestAlreadyPending = true ↔ ∃ id, s.waits id = true := by
  rw [requestAlreadyPending_iff]
  constructor
  · rintro ⟨name, c, hc, hmask⟩
    exact ⟨c.id, waits_iff.mpr ⟨name, c, hc, rfl, hmask⟩⟩
  · rintro ⟨id, hid⟩
    obtain ⟨name, c, hc, _, hmask⟩ := waits_iff.mp hid
    exact ⟨name, c, hc, hmask⟩

theorem told_append (s : State) (m : Sent) (id : Nat) :
    told { s with sent := s.sent ++ [m] } id = s.told id + (tells id m).toNat := by
  rw [told, told, List.countP_append, List.countP_singleton]
  cases tells id m <;> rfl

/-! ## What has nothing to do with energy -/

/-- Nobody begins to wait, and nobody is told; clients may be lost. -/
structure Still (s s' : State) : Prop where
  clients : ∀ name c', s'.getClient name = some c' → c'.mEngineInfoRequestMask = true →
    ∃ c, s.getClient name = some c ∧ c'.id = c.id ∧ c.mEngineInfoRequestMask = true
  told : ∀ id, s'.told id = s.told id

theorem Still.refl (s : State) : Still s s :=
  ⟨fun _ c' h hmask => ⟨c', h, rfl, hmask⟩, fun _ => rfl⟩

theorem Still.trans (h : Still s s') (h' : Still s' s'') : Still s s'' := by
  refine ⟨?_, fun id => (h'.told id).trans (h.told id)⟩
  intro name c'' hc'' hmask''
  obtain ⟨c', hc', hid', hmask'⟩ := h'.clients name c'' hc'' hmask''
  obtain ⟨c, hc, hid, hmask⟩ := h.clients name c' hc' hmask'
  exact ⟨c, hc, hid'.trans hid, hmask⟩

theorem Still.of_eq (hclients : s'.mClients = s.mClients) (hsent : s'.sent = s.sent) :
    Still s s' := by
  refine ⟨fun name c' h hmask => ⟨c', ?_, rfl, hmask⟩, fun id => ?_⟩
  · rwa [getClient, hclients] at h
  · rw [State.told, hsent, State.told]

theorem Still.waits (h : Still s s') {id : Nat} (hwaits : s'.waits id = true) :
    s.waits id = true := by
  obtain ⟨name, c', hc', hid', hmask'⟩ := waits_iff.mp hwaits
  obtain ⟨c, hc, hid, hmask⟩ := h.clients name c' hc' hmask'
  exact waits_iff.mpr ⟨name, c, hc, hid.symm.trans hid', hmask⟩

theorem fault_still (s : State) (f : Fault) : Still s (s.fault f) := .of_eq rfl rfl

theorem visited_still (s : State) (visited : List String) :
    Still s { s with visited := visited } := .of_eq rfl rfl

theorem deliver_still (s : State) (c : Client) {msg : Msg} (answers : Nat) (rc : Bool)
    (h : msg.energy = false) : Still s (s.deliver c msg answers rc) := by
  rw [deliver]
  split
  · refine ⟨fun name c' hc' hmask => ⟨c', hc', rfl, hmask⟩, fun id => ?_⟩
    rw [told_append, tells, h, Bool.and_false]
    rfl
  · exact .refl s

theorem deleteClientbyName_still (s : State) (name : String) :
    Still s (s.deleteClientbyName name) := by
  cases h : s.getClient name with
  | none =>
    rw [deleteClientbyName_none h]
    exact .refl s
  | some c =>
    refine ⟨fun n c' hc' hmask => ?_, fun id => ?_⟩
    · rw [getClient_deleteClientbyName] at hc'
      split at hc'
      · cases hc'
      · exact ⟨c', hc', rfl, hmask⟩
    · obtain ⟨_, _, _, _, _, heq⟩ := deleteClientbyName_eq h
      rw [heq]
      rfl

theorem sendOrPurge_still (s : State) (name : String) (c : Client) {msg : Msg} (answers : Nat)
    (rc : Bool) (h : msg.energy = false) : Still s (s.sendOrPurge name c msg answers rc) := by
  rw [sendOrPurge]
  split
  · exact deliver_still s c answers true h
  · exact deleteClientbyName_still s name

theorem method_still (s : State) (name : String) (c : Client) {msg : Option Msg} (answers : Nat)
    (rc : Bool) (h : ∀ m, msg = some m → m.energy = false) :
    Still s (s.method name c msg answers rc) := by
  rcases method_cases s name c msg answers rc with heq | heq | ⟨m, hm, heq⟩
  · rw [heq]
    exact .refl s
  · rw [heq]
    exact fault_still s _
  · rw [heq]
    exact sendOrPurge_still s name c answers rc (h m hm)

theorem Msg.energy_some {msg : Msg} (h : msg.energy = false) (m : Msg) (hm : some msg = some m) :
    m.energy = false := by
  cases hm
  exact h

theorem onControlResponseCb_still (s : State) (name : String) (c : Client) (err : LocationError)
    (msgId : ConfigMsgID) (answers : Nat) (rc : Bool) :
    Still s (s.onControlResponseCb name c err msgId answers rc) :=
  method_still s name c answers rc (Msg.energy_some rfl)

theorem onGnssConfigCb_still (s : State) (name : String) (c : Client) (configMsgId : ConfigMsgID)
    (gnssConfig : GnssConfig) (rc : Bool) :
    Still s (s.onGnssConfigCb name c configMsgId gnssConfig rc) := by
  refine method_still s name c 0 rc fun m hm => ?_
  cases configMsgId <;> simp only [configMsg, Option.map_eq_some_iff, reduceCtorEq] at hm <;>
    obtain ⟨_, _, rfl⟩ := hm <;> rfl

theorem sendCapabilitiesMsg_still (s : State) (name : String) (c : Client) (rc : Bool) :
    Still s (s.sendCapabilitiesMsg name c rc) := by
  refine method_still s name c 0 rc fun m hm => ?_
  split at hm
  · cases hm
  · exact Msg.energy_some rfl m hm

/-- Writing a client back with the bit as it was. -/
theorem setClient_still {name : String} {c : Client} (c' : Client)
    (h : s.getClient name = some c) (hid : c'.id = c.id)
    (hmask : c'.mEngineInfoRequestMask = c.mEngineInfoRequestMask) :
    Still s (s.setClient name c') := by
  refine ⟨fun n d hd hmask' => ?_, fun _ => rfl⟩
  rw [getClient_setClient] at hd
  split at hd
  · rename_i hn
    subst hn
    cases hd
    exact ⟨c, h, hid, hmask.symm.trans hmask'⟩
  · exact ⟨d, hd, rfl, hmask'⟩

/-- A new client does not wait. -/
theorem newClient_still (s : State) (clientname : String) (mClientType : ClientType)
    (ids : Int × Int) (rc : Bool) : Still s (s.newClient clientname mClientType ids rc) := by
  rw [newClient]
  split
  · exact sendCapabilitiesMsg_still s clientname _ rc
  · refine ⟨fun n d hd hmask => ?_, fun _ => rfl⟩
    have hd' := (IdMap.lookup_insert_eq s.mClients n clientname _).symm.trans hd
    split at hd'
    · cases hd'
      cases hmask
    · exact ⟨d, hd', rfl, hmask⟩

theorem onCapabilitiesCallback_still {name : String} {c : Client} (mask : UInt64) (rc : Bool)
    (h : s.getClient name = some c) : Still s (s.onCapabilitiesCallback name c mask rc) := by
  rw [onCapabilitiesCallback]
  split
  · exact .refl s
  · exact (setClient_still { c with mCapabilityMask := mask } h rfl rfl).trans
      (sendCapabilitiesMsg_still _ name _ rc)

theorem addConfigRequestToMap_still (s : State) (sessionId : UInt32) (clientName : String)
    (msgId : ConfigMsgID) (rc : Bool) :
    Still s (s.addConfigRequestToMap sessionId clientName msgId rc) := by
  rw [addConfigRequestToMap]
  split
  · exact .of_eq rfl rfl
  · split
    · exact onControlResponseCb_still s clientName _ _ _ 0 rc
    · exact .refl s

theorem configRequest_still (s : State) (clientName : String) (msgId : ConfigMsgID)
    (sessionId : UInt32) (rc : Bool) :
    Still s (s.configRequest clientName msgId sessionId rc) := by
  have hadd := addConfigRequestToMap_still s sessionId clientName msgId rc
  have hsame := Still.refl s
  cases msgId <;> simp only [configRequest] <;> (try split) <;> first | exact hadd | exact hsame

theorem registerXtraStatusUpdate_still (s : State) (clientName : String) (sessionId : UInt32)
    (rc : Bool) : Still s (s.registerXtraStatusUpdate clientName sessionId rc) := by
  rw [registerXtraStatusUpdate]
  split
  · have hadd : Still s ((s.addXtraClient clientName).gnssRegisterXtraStatusUpdate true) :=
      .of_eq rfl rfl
    exact hadd.trans (addConfigRequestToMap_still _ _ _ _ rc)
  · exact .of_eq rfl rfl

theorem deregisterXtraStatusUpdate_still (s : State) (clientName : String) (sessionId : UInt32)
    (rc : Bool) : Still s (s.deregisterXtraStatusUpdate clientName sessionId rc) := by
  have herase : Still s (s.eraseXtraClient clientName) := .of_eq rfl rfl
  rw [deregisterXtraStatusUpdate]
  split
  · split
    · have hupdate : Still s
          ((s.eraseXtraClient clientName).gnssRegisterXtraStatusUpdate false) := .of_eq rfl rfl
      exact hupdate.trans (addConfigRequestToMap_still _ _ _ _ rc)
    · exact herase
  · split
    · exact herase.trans (onControlResponseCb_still _ clientName _ _ _ 0 rc)
    · exact herase

theorem registerGnssSignalTypesUpdate_still (s : State) (clientName : String) (rc : Bool) :
    Still s (s.registerGnssSignalTypesUpdate clientName rc) := by
  rw [registerGnssSignalTypesUpdate]
  split
  · exact onControlResponseCb_still s clientName _ _ _ 0 rc
  · exact .refl s

theorem deleteEapClientByIds_still (s : State) (serviceId instanceId : Int) :
    Still s (s.deleteEapClientByIds serviceId instanceId) := by
  rw [deleteEapClientByIds]
  split
  · exact deleteClientbyName_still s _
  · exact .refl s

theorem onControlResponseCallback_still (s : State) (err : LocationError) (sessionId : UInt32)
    (rc : Bool) : Still s (s.onControlResponseCallback err sessionId rc) := by
  rw [onControlResponseCallback]
  split
  · exact .refl s
  · split
    · exact (onControlResponseCb_still s _ _ _ _ _ rc).trans (.of_eq rfl rfl)
    · exact .of_eq rfl rfl

theorem onControlCollectiveResponseCallback_still (s : State)
    (resp : List (LocationError × UInt32)) (rc : Bool) :
    Still s (s.onControlCollectiveResponseCallback resp rc) := by
  rw [onControlCollectiveResponseCallback.eq_def]
  split
  · exact onControlResponseCallback_still s _ _ rc
  · exact .refl s

theorem xtraStatusUpdates_still (status : XtraStatus) (rcs : String → Bool)
    (names : List String) (s : State) : Still s (xtraStatusUpdates status rcs names s) := by
  induction names generalizing s with
  | nil => exact .refl s
  | cons name rest ih =>
    rw [xtraStatusUpdates]
    have hvisited := visited_still s (s.visited ++ [name])
    split
    · rename_i c _
      have hnote : ∀ s : State, Still s (s.noteXtra c) := by
        intro s
        rw [noteXtra]
        split
        · exact .refl s
        · exact .of_eq rfl rfl
      exact ((hvisited.trans (hnote _)).trans
        (method_still _ name c 0 (rcs name) (Msg.energy_some rfl))).trans (ih _)
    · exact hvisited.trans (ih _)

theorem onGnssConfigCallback_still (s : State) (sessionId : UInt32) (config : GnssConfig)
    (rc rc' : Bool) (rcs : String → Bool) :
    Still s (s.onGnssConfigCallback sessionId config rc rc' rcs) := by
  rw [onGnssConfigCallback]
  split
  · split
    · exact xtraStatusUpdates_still _ rcs _ s
    · exact .refl s
  · split
    · exact .refl s
    · split
      · exact ((onControlResponseCb_still s _ _ _ _ _ rc).trans
          (onGnssConfigCb_still _ _ _ _ config rc')).trans (.of_eq rfl rfl)
      · exact .of_eq rfl rfl

theorem broadcast_still {visit : String → Client → State → State}
    (hvisit : ∀ name c s, s.getClient name = some c → Still s (visit name c s))
    (names : List String) (s : State) : Still s (broadcast visit names s) :=
  broadcast_induction Still.refl Still.trans visited_still fault_still hvisit names s

theorem pings_still (socketDir : String) (rcs : String → Bool)
    (clients : List (Sigma fun _ : String => Client)) (s : State) :
    Still s (pings socketDir rcs clients s) := by
  induction clients generalizing s with
  | nil => exact .refl s
  | cons client rest ih =>
    obtain ⟨name, c⟩ := client
    rw [pings]
    have hvisited := visited_still s (s.visited ++ [name])
    split
    · refine hvisited.trans (Still.trans ?_ (ih _))
      split
      · exact deliver_still _ c 0 true rfl
      · exact deleteClientbyName_still _ name
    · exact hvisited.trans (ih _)

/-! ## Fixes -/

theorem eraseSingleFix_still (s : State) (name : String) : Still s (s.eraseSingleFix name) :=
  .of_eq rfl rfl

theorem clearTerrestrialFixes_still (s : State) : Still s s.clearTerrestrialFixes :=
  .of_eq rfl rfl

theorem noteTimeout_still (s : State) (fired ended : Nat) :
    Still s (s.noteTimeout fired ended) := .of_eq rfl rfl

theorem eraseTerrestrialFix_still (s : State) (name : String) :
    Still s (s.eraseTerrestrialFix name) := by
  obtain ⟨_, _, _, heq⟩ := eraseTerrestrialFix_eq s name
  rw [heq]
  exact .of_eq rfl rfl

theorem stopTrackingSessionForSingleFixes_still (s : State) :
    Still s s.stopTrackingSessionForSingleFixes := by
  obtain ⟨_, _, heq⟩ := stopTrackingSessionForSingleFixes_eq s
  rw [heq]
  exact .of_eq rfl rfl

theorem startNetworkLocation_still (s : State) : Still s s.startNetworkLocation := by
  rw [startNetworkLocation]
  split
  · exact .of_eq rfl rfl
  · exact fault_still s _

theorem stopNetworkLocation_still (s : State) : Still s s.stopNetworkLocation := by
  rw [stopNetworkLocation]
  split
  · exact .of_eq rfl rfl
  · exact fault_still s _

theorem sendTerrestrialFix_still (s : State) (c : Client) (err : LocationError)
    (location : Location) (answers : Nat) (rc : Bool) :
    Still s (s.sendTerrestrialFix c err location answers rc) := by
  rw [sendTerrestrialFix]
  split
  · exact fault_still s _
  · exact deliver_still s c answers rc rfl

theorem sendSingleFix_still (s : State) (clientName : String) (err : LocationError)
    (location : Location) (answers : Nat) (rc : Bool) :
    Still s (s.sendSingleFix clientName err location answers rc) := by
  rw [sendSingleFix]
  split
  · rw [sendSingleFusedFix]
    split
    · exact fault_still s _
    · exact deliver_still s _ answers rc rfl
  · exact .refl s

theorem terrestrialFixes_still (location : Location) (rcs : String → Bool)
    (fixes : List (Sigma fun _ : String => SingleFixTimer)) (s : State) :
    Still s (terrestrialFixes location rcs fixes s) := by
  induction fixes generalizing s with
  | nil => exact .refl s
  | cons fix rest ih =>
    obtain ⟨name, timer⟩ := fix
    rw [terrestrialFixes]
    split
    · exact (sendTerrestrialFix_still s _ _ _ _ _).trans (ih _)
    · exact ih s

theorem singleFixes_still (location : Location) (rcs : String → Bool)
    (fixes : List (Sigma fun _ : String => SingleFixReqInfo)) (s : State) :
    Still s (singleFixes location rcs fixes s) := by
  induction fixes generalizing s with
  | nil => exact .refl s
  | cons fix rest ih =>
    obtain ⟨name, info⟩ := fix
    rw [singleFixes]
    split
    · exact ((sendSingleFix_still s name _ _ _ _).trans
        (eraseSingleFix_still _ name)).trans (ih _)
    · exact ih s

theorem getSingleTerrestrialPos_still (s : State) (clientName : String) (rc : Bool) :
    Still s (s.getSingleTerrestrialPos clientName rc) := by
  have hadd : Still s (s.addTerrestrialFix clientName).countReq := .of_eq rfl rfl
  rw [getSingleTerrestrialPos]
  split
  · split
    · exact (sendTerrestrialFix_still s _ _ _ _ rc).trans (.of_eq rfl rfl)
    · exact .of_eq rfl rfl
  · split
    · exact hadd
    · exact hadd.trans (startNetworkLocation_still _)

theorem getSinglePos_still (s : State) (clientName : String) (horQoS : CFloat)
    (timeoutMsec : UInt32) (created : Bool) (trackingId : UInt32) :
    Still s (s.getSinglePos clientName horQoS timeoutMsec created trackingId) := by
  have hapi : Still s ({ s with mSingleFixLocationApi := true }.eraseSingleFix clientName) :=
    .of_eq rfl rfl
  rw [getSinglePos]
  split
  · exact .refl s
  · refine hapi.trans ?_
    simp only []
    split
    · exact .of_eq rfl rfl
    · exact stopTrackingSessionForSingleFixes_still _

theorem onGtpWwanTrackingCallback_still (s : State) (location : Location)
    (rcs : String → Bool) : Still s (s.onGtpWwanTrackingCallback location rcs) := by
  rw [onGtpWwanTrackingCallback]
  split
  · exact ((terrestrialFixes_still location rcs _ s).trans
      (clearTerrestrialFixes_still _)).trans (stopNetworkLocation_still _)
  · exact .refl s

theorem onGnssLocationInfoCb_still (s : State) (location : Location) (rcs : String → Bool) :
    Still s (s.onGnssLocationInfoCb location rcs) := by
  have hlast : Still s { s with mSingleFixLastLocation := location } := .of_eq rfl rfl
  rw [onGnssLocationInfoCb]
  refine Still.trans ?_ (stopTrackingSessionForSingleFixes_still _)
  split
  · exact hlast.trans (singleFixes_still location rcs _ _)
  · exact hlast

theorem gtpFixRequestTimeout_still (s : State) (clientName : String) (fired : Nat) (rc : Bool) :
    Still s (s.gtpFixRequestTimeout clientName fired rc) := by
  rw [gtpFixRequestTimeout]
  split
  · exact .refl s
  · rename_i timer _
    refine (noteTimeout_still s fired timer.req).trans ?_
    simp only []
    split
    · exact (sendTerrestrialFix_still _ _ _ _ _ rc).trans (eraseTerrestrialFix_still _ clientName)
    · exact eraseTerrestrialFix_still _ clientName

theorem singleFixRequestTimeout_still (s : State) (clientName : String) (fired : Nat)
    (rc : Bool) : Still s (s.singleFixRequestTimeout clientName fired rc) := by
  rw [singleFixRequestTimeout]
  split
  · exact .refl s
  · rename_i info _
    exact (((noteTimeout_still s fired info.timeoutTimer.req).trans
      (sendSingleFix_still _ clientName _ _ _ rc)).trans (eraseSingleFix_still _ clientName)).trans
        (stopTrackingSessionForSingleFixes_still _)

theorem timeOutCallback_still (s : State) (clientName : String)
    (timerType : SingleShotTimerType) : Still s (s.timeOutCallback clientName timerType) := by
  rw [timeOutCallback.eq_def]
  split <;> split
  · exact .of_eq rfl rfl
  · exact .refl s
  · exact .of_eq rfl rfl
  · exact .refl s

theorem procMsg_still (s : State) (rc : Bool) : Still s (s.procMsg rc) := by
  rw [procMsg]
  split
  · exact .refl s
  · rename_i msg rest _
    have hrest : Still s { s with mMsgTask := rest } := .of_eq rfl rfl
    simp only []
    split
    · exact hrest.trans (gtpFixRequestTimeout_still _ msg.mClientName msg.req rc)
    · exact hrest.trans (singleFixRequestTimeout_still _ msg.mClientName msg.req rc)

end State

/-! ## The events about energy -/

open State

/-- The event is a request for the consumed energy, or the report of it. -/
def Event.aboutEnergy : Event → Bool
  | .getGnssEnergyConsumed _ | .gnssEnergyConsumed .. => true
  | _ => false

/-- Nobody begins to wait, and nobody is told, by the other events. -/
theorem next_still {s : State} {e : Event} (h : e.aboutEnergy = false) : Still s (next s e) := by
  cases e with
  | newClient clientName mClientType ids rc => exact newClient_still s clientName mClientType ids rc
  | deleteClient clientName => exact deleteClientbyName_still s clientName
  | deleteEapClientByIds serviceId instanceId =>
    exact deleteEapClientByIds_still s serviceId instanceId
  | capabilitiesCb clientName mask rc =>
    rw [next]
    split
    · exact onCapabilitiesCallback_still mask rc ‹_›
    · exact .refl s
  | purge clientName => exact deleteClientbyName_still s clientName
  | configRequest clientName msgId sessionId rc =>
    exact configRequest_still s clientName msgId sessionId rc
  | registerXtraStatusUpdate clientName sessionId rc =>
    exact registerXtraStatusUpdate_still s clientName sessionId rc
  | deregisterXtraStatusUpdate clientName sessionId rc =>
    exact deregisterXtraStatusUpdate_still s clientName sessionId rc
  | registerGnssSignalTypesUpdate clientName rc =>
    exact registerGnssSignalTypesUpdate_still s clientName rc
  | configUserConsent clientName userConsent created sessionId rc =>
    have hoptIn : Still s (s.setOptIn userConsent created) := .of_eq rfl rfl
    exact hoptIn.trans (addConfigRequestToMap_still _ _ _ _ rc)
  | getGnssEnergyConsumed clientName => cases h
  | controlResponse err sessionId rc => exact onControlResponseCallback_still s err sessionId rc
  | controlCollectiveResponse resp rc =>
    exact onControlCollectiveResponseCallback_still s resp rc
  | gnssConfig sessionId config rc rc' rcs =>
    exact onGnssConfigCallback_still s sessionId config rc rc' rcs
  | gnssSignalTypes signalType rcs =>
    exact broadcast_still (fun name c s' _ =>
      method_still s' name c 0 (rcs name) (Msg.energy_some rfl)) _ s
  | gnssEnergyConsumed total rcs => cases h
  | performMaintenance socketDir rcs => exact pings_still socketDir rcs _ s
  | getSingleTerrestrialPos clientName rc => exact getSingleTerrestrialPos_still s clientName rc
  | getSinglePos clientName horQoS timeoutMsec created trackingId =>
    exact getSinglePos_still s clientName horQoS timeoutMsec created trackingId
  | gtpWwanTracking location rcs => exact onGtpWwanTrackingCallback_still s location rcs
  | gnssLocationInfo location rcs => exact onGnssLocationInfoCb_still s location rcs
  | timeOut clientName timerType => exact timeOutCallback_still s clientName timerType
  | procMsg rc => exact procMsg_still s rc

namespace State

variable {s : State}

/-- A request sets the bit of its client. -/
theorem getGnssEnergyConsumed_waits (s : State) (clientName : String) (id : Nat) :
    (s.getGnssEnergyConsumed clientName).waits id = true →
      s.waits id = true ∨ s.gnssInterface = true ∧
        ∃ c, s.getClient clientName = some c ∧ c.id = id := by
  rw [getGnssEnergyConsumed]
  split
  · rename_i hgnss
    split
    · rename_i c hc
      intro hwaits
      obtain ⟨n, d, hd, hid, hmask⟩ := waits_iff.mp hwaits
      rw [getClient_setClient] at hd
      split at hd
      · cases hd
        exact Or.inr ⟨hgnss, c, hc, hid⟩
      · exact Or.inl (waits_iff.mpr ⟨n, d, hd, hid, hmask⟩)
    · exact Or.inl
  · exact Or.inl

theorem waits_getGnssEnergyConsumed {clientName : String} {c : Client}
    (hgnss : s.gnssInterface = true) (hc : s.getClient clientName = some c) :
    (s.getGnssEnergyConsumed clientName).waits c.id = true := by
  simp only [getGnssEnergyConsumed, hgnss, hc, if_true]
  exact waits_iff.mpr
    ⟨clientName, _, (getClient_setClient s clientName clientName _).trans (if_pos rfl), rfl, rfl⟩

theorem getGnssEnergyConsumed_told (s : State) (clientName : String) (id : Nat) :
    (s.getGnssEnergyConsumed clientName).told id = s.told id := by
  rw [getGnssEnergyConsumed]
  split
  · split <;> rfl
  · rfl

theorem getGnssEnergyConsumed_noteReports (s : State) (clientName : String)
    (ids : List UInt32) :
    (s.noteReports ids).getGnssEnergyConsumed clientName =
      (s.getGnssEnergyConsumed clientName).noteReports ids := by
  have hget : (s.noteReports ids).getClient clientName = s.getClient clientName := rfl
  have hgnss : (s.noteReports ids).gnssInterface = s.gnssInterface := rfl
  rw [getGnssEnergyConsumed, getGnssEnergyConsumed, hget, hgnss]
  cases s.gnssInterface <;> cases s.getClient clientName <;> rfl

/-- The client of this name has this number and waits. -/
def waitsAs (s : State) (id : Nat) (name : String) : Bool :=
  (s.getClient name).any fun c => c.id == id && c.mEngineInfoRequestMask

theorem waitsAs_iff {id : Nat} {name : String} :
    s.waitsAs id name = true ↔
      ∃ c, s.getClient name = some c ∧ c.id = id ∧ c.mEngineInfoRequestMask = true := by
  simp only [waitsAs, Option.any_eq_true, Bool.and_eq_true, beq_iff_eq]

/-- **One visit** of the report, if it does not lose its client: who waits is told. -/
theorem onGnssEnergyConsumedInfoAvailable_spec (hn : Numbered s) {name : String} {c : Client}
    (hc : s.getClient name = some c) (total : UInt64) (rc : Bool)
    (hstays : name ∈ (s.onGnssEnergyConsumedInfoAvailable total rc name c).mClients) :
    (∀ id, (s.onGnssEnergyConsumedInfoAvailable total rc name c).told id =
      s.told id + (s.waitsAs id name).toNat) ∧
    ∀ n, (s.onGnssEnergyConsumedInfoAvailable total rc name c).getClient n =
      if n = name then some { c with mEngineInfoRequestMask := false } else s.getClient n := by
  have hsender : s.hasSender name c = true := by simp [hasSender, hc]
  have hwaits : ∀ id, s.waitsAs id name = (c.id == id && c.mEngineInfoRequestMask) := by
    intro id
    rw [waitsAs, hc, Option.any_some]
  simp only [onGnssEnergyConsumedInfoAvailable, if_neg (hn.alive hc), hsender, Bool.true_and,
    hwaits] at hstays ⊢
  cases hmask : c.mEngineInfoRequestMask with
  | false =>
    refine ⟨fun id => ?_, fun n => ?_⟩
    · rw [Bool.and_false]
      rfl
    · have hsame : { c with mEngineInfoRequestMask := false } = c := by rw [← hmask]
      rw [if_neg (by simp), hsame]
      split
      · rename_i hname
        rw [hname, hc]
      · rfl
  | true =>
    rw [hmask, if_pos rfl, sendOrPurge] at hstays
    rw [if_pos rfl, sendOrPurge]
    cases rc with
    | true =>
      refine ⟨fun id => ?_, fun n => getClient_setClient s name n _⟩
      rw [if_pos rfl, deliver, if_pos rfl, told_append, tells, Bool.and_true]
      exact congrArg (s.told id + ·) (congrArg Bool.toNat (Bool.and_true _))
    | false =>
      -- the purge has deleted the client
      rw [if_neg (by simp), ← AList.lookup_isSome] at hstays
      have hgone := getClient_deleteClientbyName
        (s.setClient name { c with mEngineInfoRequestMask := false }) name name
      rw [if_pos rfl, getClient] at hgone
      rw [hgone] at hstays
      cases hstays

/-- The loop of `onGnssEnergyConsumedCb`, at the element with the first of the names. -/
def reportEnergy (total : UInt64) (rcs : String → Bool) (names : List String) (s : State) :
    State :=
  broadcast (fun name each s => s.onGnssEnergyConsumedInfoAvailable total (rcs name) name each)
    names s

/-- **One round** of the loop, if nothing goes wrong in the rest. -/
theorem reportEnergy_cons (hn : Numbered s) {total : UInt64} {rcs : String → Bool}
    {name : String} {rest : List String}
    (hfaults : (reportEnergy total rcs (name :: rest) s).faults = []) :
    ∃ c t, s.getClient name = some c ∧ Numbered t ∧
      reportEnergy total rcs (name :: rest) s = reportEnergy total rcs rest t ∧
      (∀ id, t.told id = s.told id + (s.waitsAs id name).toNat) ∧
      ∀ n, t.getClient n =
        if n = name then some { c with mEngineInfoRequestMask := false } else s.getClient n := by
  rw [reportEnergy, broadcast] at hfaults
  cases hc : s.getClient name with
  | none =>
    rw [hc] at hfaults
    exact absurd hfaults (by simp [fault])
  | some c =>
    have hn' : Numbered { s with visited := s.visited ++ [name] } := hn.of_eq rfl rfl rfl
    have hvisit := onGnssEnergyConsumedInfoAvailable_keeps
      (s := { s with visited := s.visited ++ [name] }) total (rcs name) hc
    rw [hc] at hfaults
    simp only [] at hfaults
    split at hfaults
    · rename_i hstays
      obtain ⟨htold, hget⟩ := onGnssEnergyConsumedInfoAvailable_spec hn' hc total (rcs name) hstays
      refine ⟨c, _, rfl, hn'.keeps hvisit, ?_, htold, hget⟩
      rw [reportEnergy, broadcast, hc]
      exact if_pos hstays
    · exact absurd hfaults (by simp [fault])

/-- **The whole loop**: who waits under one of the names is told, and waits no more. -/
theorem reportEnergy_spec {total : UInt64} {rcs : String → Bool} {names : List String}
    (hnodup : names.Nodup) {s : State} (hn : Numbered s)
    (hfaults : (reportEnergy total rcs names s).faults = []) :
    (∀ id, (reportEnergy total rcs names s).told id =
      s.told id + names.countP (s.waitsAs id)) ∧
    ∀ n, (reportEnergy total rcs names s).getClient n =
      if n ∈ names then (s.getClient n).map fun c => { c with mEngineInfoRequestMask := false }
      else s.getClient n := by
  induction names generalizing s with
  | nil => exact ⟨fun _ => rfl, fun n => (if_neg List.not_mem_nil).symm⟩
  | cons name rest ih =>
    obtain ⟨hnew, hrest⟩ := List.nodup_cons.mp hnodup
    obtain ⟨c, t, hc, hnumbered, heq, htold, hget⟩ := reportEnergy_cons hn hfaults
    rw [heq] at hfaults ⊢
    obtain ⟨htold', hget'⟩ := ih hrest hnumbered hfaults
    refine ⟨fun id => ?_, fun n => ?_⟩
    · -- the round touched none of the names that are left
      have hothers : rest.countP (t.waitsAs id) = rest.countP (s.waitsAs id) := by
        refine List.countP_congr fun n hmem => ?_
        rw [waitsAs, hget, if_neg fun (heq : n = name) => hnew (heq ▸ hmem), waitsAs]
      rw [htold', htold, hothers, List.countP_cons]
      cases s.waitsAs id name <;> simp +arith
    · rw [hget' n]
      by_cases hname : n = name
      · subst hname
        rw [if_neg hnew, hget, if_pos rfl, if_pos List.mem_cons_self, hc]
        rfl
      · rw [hget, if_neg hname]
        simp only [List.mem_cons, hname, false_or]

/-- At most one name can be that of the client with this number. -/
theorem countP_waitsAs (hn : Numbered s) (id : Nat) :
    s.mClients.keys.countP (s.waitsAs id) = (s.waits id).toNat := by
  cases hwaits : s.waits id with
  | false =>
    rw [Bool.toNat_false, List.countP_eq_zero]
    intro name _ hname
    obtain ⟨c, hc, hid, hmask⟩ := waitsAs_iff.mp hname
    rw [waits_iff.mpr ⟨name, c, hc, hid, hmask⟩] at hwaits
    cases hwaits
  | true =>
    obtain ⟨name, c, hc, hid, hmask⟩ := waits_iff.mp hwaits
    have honly : ∀ n ∈ s.mClients.keys, s.waitsAs id n = true ↔ (n == name) = true := by
      intro n _
      rw [waitsAs_iff, beq_iff_eq]
      constructor
      · rintro ⟨d, hd, hid', _⟩
        exact hn.distinct hd hc (hid'.trans hid.symm)
      · rintro rfl
        exact ⟨c, hc, hid, hmask⟩
    rw [List.countP_congr honly]
    exact List.count_eq_one_of_mem s.mClients.keys_nodup (AList.lookup_isSome.mp (by
      rw [show s.mClients.lookup name = some c from hc]
      rfl))

/-- **The report** is told exactly to those who wait, if none of them is lost on the way. -/
theorem onGnssEnergyConsumedCb_spec (hn : Numbered s) {total : UInt64} {rcs : String → Bool}
    (hfaults : (s.onGnssEnergyConsumedCb total rcs).faults = []) (id : Nat) :
    (s.onGnssEnergyConsumedCb total rcs).told id = s.told id + (s.waits id).toNat ∧
      (s.onGnssEnergyConsumedCb total rcs).waits id = false := by
  obtain ⟨htold, hget⟩ := reportEnergy_spec s.mClients.keys_nodup hn hfaults
  refine ⟨(htold id).trans (by rw [countP_waitsAs hn]), ?_⟩
  rw [← Bool.not_eq_true, waits_iff]
  rintro ⟨name, c', hc', _, hmask⟩
  have hc'' := (hget name).symm.trans hc'
  split at hc''
  · obtain ⟨c, _, rfl⟩ := Option.map_eq_some_iff.mp hc''
    cases hmask
  · rename_i hnone
    rw [getClient, AList.lookup_eq_none.mpr hnone] at hc''
    cases hc''

end State

/-! ## Runs -/

/-- The service, the calls of `getGnssEnergyConsumed` of the GNSS interface, the reports it
made, and the number of each client that asked, once for each time. -/
structure EnergyState where
  service : State
  issued : Nat
  reported : Nat
  asked : List Nat

def EnergyState.init (gnssInterface : Bool) : EnergyState := ⟨State.init gnssInterface, 0, 0, []⟩

/-- Only the first client that asks makes the service ask. -/
def State.issuesRequest (s : State) (clientName : String) : Bool :=
  s.gnssInterface && (s.getClient clientName).isSome && !s.requestAlreadyPending

def energyStep (w : EnergyState) (e : Event) : EnergyState :=
  if w.service.faults = [] then
    match e with
    | .getGnssEnergyConsumed clientName =>
      { w with
        service := step w.service e
        issued := w.issued + (w.service.issuesRequest clientName).toNat
        asked := ((w.service.getClient clientName).map Client.id).toList ++ w.asked }
    | .gnssEnergyConsumed .. =>
      { w with service := step w.service e, reported := w.reported + 1 }
    | _ => { w with service := step w.service e }
  else w

/-- The GNSS interface reports at most once for each call. -/
def ReportsOnce (w : EnergyState) (e : Event) : Prop :=
  match e with
  | .gnssEnergyConsumed .. => w.reported < w.issued
  | _ => True

instance (w : EnergyState) : ∀ e : Event, Decidable (ReportsOnce w e)
  | .gnssEnergyConsumed .. => inferInstanceAs (Decidable (_ < _))
  | .registerXtraStatusUpdate .. | .deregisterXtraStatusUpdate .. | .newClient ..
  | .deleteClient _ | .deleteEapClientByIds .. | .capabilitiesCb .. | .purge _
  | .configRequest .. | .registerGnssSignalTypesUpdate .. | .configUserConsent ..
  | .getGnssEnergyConsumed _ | .controlResponse .. | .controlCollectiveResponse ..
  | .gnssConfig .. | .gnssSignalTypes .. | .performMaintenance .. | .getSingleTerrestrialPos ..
  | .getSinglePos .. | .gtpWwanTracking .. | .gnssLocationInfo .. | .timeOut .. | .procMsg _ =>
    inferInstanceAs (Decidable True)

/-- What holds as long as nothing undefined happened. -/
structure EnergyInv (w : EnergyState) : Prop where
  numbered : Numbered w.service
  reported : w.service.faults = [] → w.reported ≤ w.issued
  outstanding : w.service.faults = [] → ∀ id, w.service.waits id = true → w.reported < w.issued
  asked : w.service.faults = [] → ∀ id,
    w.service.told id + (w.service.waits id).toNat ≤ w.asked.count id

theorem EnergyInv.init (gnssInterface : Bool) : EnergyInv (.init gnssInterface) :=
  ⟨Numbered.init gnssInterface, fun _ => Nat.le_refl 0, by rintro _ id ⟨⟩,
    fun _ _ => Nat.le_refl 0⟩

/-- An event that has nothing to do with energy. -/
theorem EnergyInv.still {w : EnergyState} {s' : State} (h : EnergyInv w)
    (hnumbered : Numbered s') (hstill : Still w.service s') (hsound : w.service.faults = []) :
    EnergyInv { w with service := s' } := by
  refine ⟨hnumbered, fun _ => h.reported hsound,
    fun _ id hwaits => h.outstanding hsound id (hstill.waits hwaits), fun _ id => ?_⟩
  show s'.told id + (s'.waits id).toNat ≤ w.asked.count id
  have hmono : (s'.waits id).toNat ≤ (w.service.waits id).toNat := by
    cases hwaits : s'.waits id with
    | false => exact Nat.zero_le _
    | true => rw [hstill.waits hwaits]
  have hasked := h.asked hsound id
  rw [hstill.told id]
  omega

/-- A client asks: if nobody waited before, the service asks too. -/
theorem EnergyInv.request {w : EnergyState} (h : EnergyInv w) (hsound : w.service.faults = [])
    (clientName : String) {s' : State} {ids : List UInt32} (hnumbered : Numbered s')
    (heq : s' = (w.service.getGnssEnergyConsumed clientName).noteReports ids) :
    EnergyInv
      { service := s'
        issued := w.issued + (w.service.issuesRequest clientName).toNat
        reported := w.reported
        asked := ((w.service.getClient clientName).map Client.id).toList ++ w.asked } := by
  have hreported := h.reported hsound
  subst heq
  refine ⟨hnumbered, fun _ => ?_, fun _ id hwaits => ?_, fun _ id => ?_⟩
  · show w.reported ≤ w.issued + (w.service.issuesRequest clientName).toNat
    omega
  · show w.reported < w.issued + (w.service.issuesRequest clientName).toNat
    rcases getGnssEnergyConsumed_waits w.service clientName id hwaits with
      hold | ⟨hgnss, c, hc, _⟩
    · have := h.outstanding hsound id hold
      omega
    · cases hpending : w.service.requestAlreadyPending with
      | true =>
        -- the call for whoever waits already is not answered yet
        obtain ⟨other, hother⟩ := requestAlreadyPending_iff_waits.mp hpending
        have := h.outstanding hsound other hother
        omega
      | false =>
        have hissues : w.service.issuesRequest clientName = true := by
          rw [issuesRequest, hgnss, hc, hpending]
          rfl
        rw [hissues, Bool.toNat_true]
        omega
  · show (w.service.getGnssEnergyConsumed clientName).told id +
        ((w.service.getGnssEnergyConsumed clientName).waits id).toNat ≤
      (((w.service.getClient clientName).map Client.id).toList ++ w.asked).count id
    have hasked := h.asked hsound id
    rw [getGnssEnergyConsumed_told, List.count_append]
    cases hwaits : (w.service.getGnssEnergyConsumed clientName).waits id with
    | false =>
      rw [Bool.toNat_false]
      omega
    | true =>
      rw [Bool.toNat_true]
      rcases getGnssEnergyConsumed_waits w.service clientName id hwaits with
        hold | ⟨_, c, hc, rfl⟩
      · rw [hold, Bool.toNat_true] at hasked
        omega
      · rw [hc, Option.map_some, Option.toList_some, List.count_singleton_self]
        omega

/-- The interface reports: everybody who waited was told. -/
theorem EnergyInv.report {w : EnergyState} (h : EnergyInv w) (hsound : w.service.faults = [])
    (honce : w.reported < w.issued) {s s' : State} (hs : Numbered s)
    (htold : ∀ id, s.told id = w.service.told id) (hwaits : ∀ id, s.waits id = w.service.waits id)
    {total : UInt64} {rcs : String → Bool} (hnumbered : Numbered s')
    (heq : s' = s.onGnssEnergyConsumedCb total rcs) :
    EnergyInv { w with service := s', reported := w.reported + 1 } := by
  subst heq
  refine ⟨hnumbered, fun _ => honce, fun hfaults id hwaits' => ?_, fun hfaults id => ?_⟩
  · rw [(onGnssEnergyConsumedCb_spec hs hfaults id).2] at hwaits'
    cases hwaits'
  · obtain ⟨htold', hwaits'⟩ := onGnssEnergyConsumedCb_spec hs hfaults id
    show (s.onGnssEnergyConsumedCb total rcs).told id +
      ((s.onGnssEnergyConsumedCb total rcs).waits id).toNat ≤ w.asked.count id
    rw [htold', hwaits', htold, hwaits]
    exact h.asked hsound id

theorem EnergyInv.step {w : EnergyState} {e : Event} (h : EnergyInv w) (honce : ReportsOnce w e) :
    EnergyInv (energyStep w e) := by
  rw [energyStep.eq_def]
  split
  · rename_i hsound
    have hs : Numbered (w.service.noteReports e.reports) := h.numbered.of_eq rfl rfl rfl
    have hstep : Service.step w.service e = next (w.service.noteReports e.reports) e :=
      if_pos hsound
    have hnumbered : Numbered (Service.step w.service e) := by
      rw [hstep]
      exact hs.next e
    have hother : e.aboutEnergy = false →
        EnergyInv { w with service := Service.step w.service e } := by
      intro habout
      have hnote : Still w.service (w.service.noteReports e.reports) := .of_eq rfl rfl
      refine h.still hnumbered ?_ hsound
      rw [hstep]
      exact hnote.trans (next_still habout)
    cases e with
    | getGnssEnergyConsumed clientName =>
      exact h.request hsound clientName hnumbered
        (hstep.trans (getGnssEnergyConsumed_noteReports w.service clientName _))
    | gnssEnergyConsumed total rcs =>
      exact h.report hsound honce hs (fun _ => rfl) (fun _ => rfl) hnumbered hstep
    | _ => exact hother rfl
  · exact h

/-- **Requests for the consumed energy**, in every run in which the GNSS interface reports at
most once for each call, and before anything undefined happens.  Whoever waits has an
unanswered call of the interface to wait for, also if the client that caused it is gone;
nobody was told more often than they asked; whoever asks waits; and the next report is told
once to each client that waits and to nobody else, and none of them waits any more. -/
theorem energy_requests {gnssInterface : Bool} {es : List Event}
    (honce : EventRun.Meets energyStep ReportsOnce (.init gnssInterface) es)
    (hsound : (EventRun.run energyStep (.init gnssInterface) es).service.faults = []) :
    let w := EventRun.run energyStep (.init gnssInterface) es
    (∀ id, w.service.waits id = true → w.reported < w.issued) ∧
    (∀ id, w.service.told id + (w.service.waits id).toNat ≤ w.asked.count id) ∧
    (∀ clientName c, w.service.gnssInterface = true → w.service.getClient clientName = some c →
      (energyStep w (.getGnssEnergyConsumed clientName)).service.waits c.id = true) ∧
    ∀ total rcs, (energyStep w (.gnssEnergyConsumed total rcs)).service.faults = [] → ∀ id,
      (energyStep w (.gnssEnergyConsumed total rcs)).service.told id =
        w.service.told id + (w.service.waits id).toNat ∧
      (energyStep w (.gnssEnergyConsumed total rcs)).service.waits id = false := by
  intro w
  have hinv : EnergyInv w :=
    (EventRun.throughout_of_meets (fun _ _ => EnergyInv.step) (EnergyInv.init gnssInterface)
      honce).last
  refine ⟨hinv.outstanding hsound, hinv.asked hsound, fun clientName c hgnss hc => ?_,
    fun total rcs hfaults id => ?_⟩
  · rw [energyStep, if_pos hsound, step, if_pos hsound, next, getGnssEnergyConsumed_noteReports]
    exact waits_getGnssEnergyConsumed hgnss hc
  · rw [energyStep, if_pos hsound, step, if_pos hsound] at hfaults ⊢
    have hs : Numbered (w.service.noteReports []) := hinv.numbered.of_eq rfl rfl rfl
    exact onGnssEnergyConsumedCb_spec hs hfaults id

/-- Two clients ask, the first goes before the report; the second is told. -/
theorem energy_requests_sample :
    let es : List Event :=
      [.newClient "a" .locationClientApi (0, 0) true, .newClient "b" .locationClientApi (0, 0) true,
        .getGnssEnergyConsumed "a", .getGnssEnergyConsumed "b", .deleteClient "a"]
    let w := EventRun.run energyStep (.init true) es
    w.service.waits 1 = true ∧ w.reported < w.issued ∧ w.issued = 1 ∧
      (energyStep w (.gnssEnergyConsumed 5 fun _ => true)).service.told 1 = 1 := by
  intro es w
  have h := @energy_requests true es (by decide) (by decide)
  refine ⟨by decide, h.1 1 (by decide), by decide, ?_⟩
  exact (h.2.2.2 5 (fun _ => true) (by decide) 1).1.trans (by decide)

end LocationStack.Service
