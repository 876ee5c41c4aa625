import LocationStack.Service.System

/-! # Who is registered

A client is registered until it is deleted, by its own request, because its processor is
gone, or by whatever fails to send it a message.  Two relations say what the service does to
its clients on the way: it keeps the rest of its state and may lose clients (`Keeps`), but a
client that every message can be sent to stays (`Survives`).  Both compose, so that a loop
does what each of its rounds does.
-/
namespace LocationStack.Service

open Ipc

/-- The message is the response to a configuration request. -/
def Sent.response (m : Sent) : Bool :=
  match m.msg with
  | .genericResp .. => m.answers != 0
  | _ => false

/-- The message is a fix, or tells that there is none. -/
def Msg.fix : Msg → Bool
  | .singlePos .. | .singleTerrestrialPos .. => true
  | _ => false

def Sent.fix (m : Sent) : Bool := m.msg.fix

/-- What answers no request is not a response to one. -/
theorem Sent.response_zero (client : Nat) (msg : Msg) : Sent.response ⟨client, msg, 0⟩ = false := by
  cases msg <;> rfl

namespace State

variable {s s' s'' : State}

/-! ## The parts of the state -/

/-- What the registrations for XTRA status updates are about. -/
def xtraPart (s : State) : List String × Bool × List Nat × List Nat × Bool :=
  (s.mClientsRegForXtraStatus, s.xtraStatusUpdate, s.xtraClients, s.unaskedXtra, s.gnssInterface)

/-- The responses to configuration requests that were sent. -/
def responses (s : State) : List Sent := s.sent.filter Sent.response

/-- The configuration requests. -/
def configPart (s : State) :
    IdMap.Map UInt32 ConfigReqClientData × List ConfigRequest × List UInt32 × List Sent :=
  (s.mConfigReqs, s.configRequests, s.reported, s.responses)

/-- The fixes that were sent. -/
def fixes (s : State) : List Sent := s.sent.filter Sent.fix

/-- The requests for a fix, and the sessions that serve them. -/
def fixPart (s : State) : Int × Bool × IdMap.Map String SingleFixTimer × Bool × UInt32 ×
    IdMap.Map String SingleFixReqInfo × Bool × Nat × List Sent :=
  (s.mOptInTerrestrialService, s.mGtpWwanSsLocationApi, s.mTerrestrialFixTimeoutMap,
    s.mSingleFixLocationApi, s.mSingleFixTrackingSessionId, s.mSingleFixReqMap,
    s.networkLocation, s.nextReq, s.fixes)

/-- The timeouts. -/
def timeoutPart (s : State) : List SingleFixTimeoutReq × List Nat × List (Nat × Nat) :=
  (s.mMsgTask, s.fired, s.timedOut)

/-- The service does nothing about fixes, but for the clients that it deletes. -/
inductive Idle : State → State → Prop
  | same {s s' : State} (hfix : s'.fixPart = s.fixPart)
      (hfaults : ∀ f ∈ s.faults, f ∈ s'.faults) : Idle s s'
  | delete (s : State) (name : String) : Idle s (s.deleteClientbyName name)
  | trans {s s' s'' : State} (h : Idle s s') (h' : Idle s' s'') : Idle s s''

/-- The service keeps its state, but for clients that it may lose and what they asked for. -/
structure Keeps (s s' : State) : Prop where
  clients : ∀ name c', s'.getClient name = some c' → ∃ c, s.getClient name = some c ∧ c'.id = c.id
  nextClient : s'.nextClient = s.nextClient
  xtra : s'.xtraPart = s.xtraPart
  config : s'.configPart = s.configPart
  timeouts : s'.timeoutPart = s.timeoutPart
  idle : Idle s s'
  freed : ∀ id ∈ s'.freed, id ∈ s.freed ∨
    ∃ name c, s.getClient name = some c ∧ c.id = id ∧ s'.getClient name = none

theorem Keeps.refl (s : State) : Keeps s s :=
  ⟨fun _ c' h => ⟨c', h, rfl⟩, rfl, rfl, rfl, rfl, .same rfl fun _ h => h, fun _ h => Or.inl h⟩

theorem Keeps.trans (h : Keeps s s') (h' : Keeps s' s'') : Keeps s s'' := by
  refine ⟨?_, h'.nextClient.trans h.nextClient, h'.xtra.trans h.xtra, h'.config.trans h.config,
    h'.timeouts.trans h.timeouts, h.idle.trans h'.idle, ?_⟩
  · intro name c'' hc''
    obtain ⟨c', hc', hid'⟩ := h'.clients name c'' hc''
    obtain ⟨c, hc, hid⟩ := h.clients name c' hc'
    exact ⟨c, hc, hid'.trans hid⟩
  · intro id hid''
    obtain hid' | ⟨name, c', hc', rfl, hgone⟩ := h'.freed id hid''
    · obtain hid | ⟨name, c, hc, hid, hgone⟩ := h.freed id hid'
      · exact Or.inl hid
      · refine Or.inr ⟨name, c, hc, hid, ?_⟩
        -- who is gone does not come back
        cases hc'' : s''.getClient name with
        | none => rfl
        | some c'' =>
          obtain ⟨c', hc', _⟩ := h'.clients name c'' hc''
          rw [hgone] at hc'
          cases hc'
    · obtain ⟨c, hc, hid⟩ := h.clients name c' hc'
      exact Or.inr ⟨name, c, hc, hid.symm, hgone⟩

/-- The client with this name is still the same one. -/
def Survives (name : String) (s s' : State) : Prop :=
  ∀ c, s.getClient name = some c → ∃ c', s'.getClient name = some c' ∧ c'.id = c.id

theorem Survives.refl (name : String) (s : State) : Survives name s s := fun c h => ⟨c, h, rfl⟩

theorem Survives.trans {name : String} (h : Survives name s s') (h' : Survives name s' s'') :
    Survives name s s'' := by
  intro c hc
  obtain ⟨c', hc', hid⟩ := h c hc
  obtain ⟨c'', hc'', hid'⟩ := h' c' hc'
  exact ⟨c'', hc'', hid'.trans hid⟩

/-- A step that touches neither the clients nor the parts. -/
theorem Keeps.of_eq (hclients : s'.mClients = s.mClients) (hnext : s'.nextClient = s.nextClient)
    (hxtra : s'.xtraPart = s.xtraPart) (hconfig : s'.configPart = s.configPart)
    (htimeouts : s'.timeoutPart = s.timeoutPart) (hfix : s'.fixPart = s.fixPart)
    (hfaults : ∀ f ∈ s.faults, f ∈ s'.faults) (hfreed : s'.freed = s.freed) : Keeps s s' := by
  refine ⟨fun name c' h => ⟨c', ?_, rfl⟩, hnext, hxtra, hconfig, htimeouts, .same hfix hfaults,
    fun id hid => Or.inl (hfreed ▸ hid)⟩
  rwa [getClient, hclients] at h

theorem Survives.of_eq {name : String} (h : s'.mClients = s.mClients) : Survives name s s' := by
  intro c hc
  refine ⟨c, ?_, rfl⟩
  rwa [getClient, h]

/-! ## Deleting a client -/

theorem eraseTerrestrialFix_eq (s : State) (name : String) :
    ∃ fixes network faults, s.eraseTerrestrialFix name =
      { s with
        mTerrestrialFixTimeoutMap := fixes, networkLocation := network, faults := faults } := by
  rw [eraseTerrestrialFix]
  split
  · simp only [stopNetworkLocation, fault]
    split
    · split <;> exact ⟨_, _, _, rfl⟩
    · exact ⟨_, _, _, rfl⟩
  · exact ⟨_, _, _, rfl⟩

theorem stopTrackingSessionForSingleFixes_eq (s : State) :
    ∃ location id, s.stopTrackingSessionForSingleFixes =
      { s with mSingleFixLastLocation := location, mSingleFixTrackingSessionId := id } := by
  rw [stopTrackingSessionForSingleFixes]
  split <;> exact ⟨_, _, rfl⟩

/-- What deleting a client does: it erases the client and its fixes, and frees its handler if
that has no `LocationAPI`. -/
theorem deleteClientbyName_eq {name : String} {c : Client} (h : s.getClient name = some c) :
    ∃ fixes network faults location id, s.deleteClientbyName name =
      { s with
        mClients := s.mClients.erase name
        mTerrestrialFixTimeoutMap := fixes
        networkLocation := network
        faults := faults
        mSingleFixReqMap := s.mSingleFixReqMap.erase name
        mSingleFixLastLocation := location
        mSingleFixTrackingSessionId := id
        freed := if c.mLocationApi then s.freed else c.id :: s.freed } := by
  obtain ⟨fixes, network, faults, heq⟩ :=
    eraseTerrestrialFix_eq { s with mClients := s.mClients.erase name } name
  rw [deleteClientbyName, h]
  simp only [heq, eraseSingleFix]
  obtain ⟨location, id, heq'⟩ := stopTrackingSessionForSingleFixes_eq
    { s with
      mClients := s.mClients.erase name
      mTerrestrialFixTimeoutMap := fixes
      networkLocation := network
      faults := faults
      mSingleFixReqMap := s.mSingleFixReqMap.erase name }
  rw [heq', cleanup]
  by_cases hapi : c.mLocationApi = true
  · exact ⟨fixes, network, faults, location, id, by simp [hapi]⟩
  · exact ⟨fixes, network, faults, location, id, by simp [hapi]⟩

theorem deleteClientbyName_none {name : String} (h : s.getClient name = none) :
    s.deleteClientbyName name = s := by
  rw [deleteClientbyName, h]

theorem getClient_deleteClientbyName (s : State) (name n : String) :
    (s.deleteClientbyName name).getClient n = if n = name then none else s.getClient n := by
  cases h : s.getClient name with
  | none =>
    rw [deleteClientbyName_none h]
    by_cases hn : n = name
    · rw [if_pos hn, hn, h]
    · rw [if_neg hn]
  | some c =>
    obtain ⟨_, _, _, _, _, heq⟩ := deleteClientbyName_eq h
    rw [heq]
    exact IdMap.lookup_erase_eq _ _ _

theorem deleteClientbyName_keeps (s : State) (name : String) :
    Keeps s (s.deleteClientbyName name) := by
  have hclients : ∀ n c', (s.deleteClientbyName name).getClient n = some c' →
      s.getClient n = some c' := by
    intro n c' h
    rw [getClient_deleteClientbyName] at h
    split at h
    · cases h
    · exact h
  cases h : s.getClient name with
  | none =>
    rw [deleteClientbyName_none h]
    exact Keeps.refl s
  | some c =>
    obtain ⟨_, _, _, _, _, heq⟩ := deleteClientbyName_eq h
    refine ⟨fun n c' hc' => ⟨c', hclients n c' hc', rfl⟩, by rw [heq], by rw [heq]; rfl,
      by rw [heq]; rfl, by rw [heq]; rfl, .delete s name, ?_⟩
    intro id hid
    have hgone : (s.deleteClientbyName name).getClient name = none := by
      rw [getClient_deleteClientbyName, if_pos rfl]
    rw [heq] at hid
    simp only [] at hid
    split at hid
    · exact Or.inl hid
    · obtain rfl | hold := List.mem_cons.mp hid
      · exact Or.inr ⟨name, c, h, rfl, hgone⟩
      · exact Or.inl hold

theorem deleteClientbyName_survives {name n : String} (h : n ≠ name) :
    Survives n s (s.deleteClientbyName name) := by
  intro c hc
  exact ⟨c, by rw [getClient_deleteClientbyName, if_neg h, hc], rfl⟩

/-! ## Sending -/

theorem responses_append (s : State) (m : Sent) :
    responses { s with sent := s.sent ++ [m] } =
      s.responses ++ if m.response then [m] else [] := by
  rw [responses, responses, List.filter_append, List.filter_singleton]
  cases m.response <;> rfl

/-- Messages that answer no configuration request leave the responses to those. -/
theorem responses_append_of_not (s : State) {m : Sent} (h : m.response = false) :
    responses { s with sent := s.sent ++ [m] } = s.responses := by
  simp [responses_append, h]

theorem fixes_append (s : State) (m : Sent) :
    fixes { s with sent := s.sent ++ [m] } = s.fixes ++ if m.fix then [m] else [] := by
  rw [fixes, fixes, List.filter_append, List.filter_singleton]
  cases m.fix <;> rfl

/-- Other messages leave the fixes. -/
theorem fixes_append_of_not (s : State) {m : Sent} (h : m.fix = false) :
    fixes { s with sent := s.sent ++ [m] } = s.fixes := by
  simp [fixes_append, h]

theorem deliver_keeps (s : State) (c : Client) {msg : Msg} {answers : Nat} (rc : Bool)
    (h : Sent.response ⟨c.id, msg, answers⟩ = false) (hfix : msg.fix = false) :
    Keeps s (s.deliver c msg answers rc) := by
  rw [deliver]
  split
  · refine Keeps.of_eq rfl rfl rfl ?_ rfl ?_ (fun _ h => h) rfl
    · simp only [configPart, responses_append_of_not s h]
    · simp only [fixPart, fixes_append_of_not s (m := ⟨c.id, msg, answers⟩) hfix]
  · exact Keeps.refl s

theorem fault_keeps (s : State) (f : Fault) : Keeps s (s.fault f) :=
  Keeps.of_eq rfl rfl rfl rfl rfl rfl (fun _ h => List.mem_append_left _ h) rfl

theorem sendOrPurge_keeps (s : State) (name : String) (c : Client) {msg : Msg} (rc : Bool)
    (hfix : msg.fix = false) : Keeps s (s.sendOrPurge name c msg 0 rc) := by
  rw [sendOrPurge]
  split
  · exact deliver_keeps s c true (Sent.response_zero c.id msg) hfix
  · exact deleteClientbyName_keeps s name

theorem sendOrPurge_survives {name n : String} (c : Client) (msg : Msg) (answers : Nat)
    {rc : Bool} (h : n = name → rc = true) :
    Survives n s (s.sendOrPurge name c msg answers rc) := by
  rw [sendOrPurge]
  split
  · exact Survives.of_eq rfl
  · rename_i hrc
    exact deleteClientbyName_survives fun hn => hrc (h hn)

/-- What a method with a message does. -/
theorem method_cases (s : State) (name : String) (c : Client) (msg : Option Msg) (answers : Nat)
    (rc : Bool) :
    s.method name c msg answers rc = s ∨
      s.method name c msg answers rc = s.fault .freedHandler ∨
      ∃ m, msg = some m ∧
        s.method name c msg answers rc = s.sendOrPurge name c m answers rc := by
  simp only [method]
  split
  · exact Or.inr (Or.inl rfl)
  · cases msg with
    | none => exact Or.inl rfl
    | some m =>
      by_cases hsender : s.hasSender name c = true
      · exact Or.inr (Or.inr ⟨m, rfl, if_pos hsender⟩)
      · exact Or.inl (if_neg hsender)

theorem Msg.fix_some {msg : Msg} (h : msg.fix = false) (m : Msg) (hm : some msg = some m) :
    m.fix = false := by
  cases hm
  exact h

theorem method_keeps (s : State) (name : String) (c : Client) {msg : Option Msg} (rc : Bool)
    (hfix : ∀ m, msg = some m → m.fix = false) : Keeps s (s.method name c msg 0 rc) := by
  rcases method_cases s name c msg 0 rc with h | h | ⟨m, hm, h⟩
  · rw [h]
    exact Keeps.refl s
  · rw [h]
    exact fault_keeps s _
  · rw [h]
    exact sendOrPurge_keeps s name c rc (hfix m hm)

theorem onControlResponseCb_keeps (s : State) (name : String) (c : Client) (err : LocationError)
    (msgId : ConfigMsgID) (rc : Bool) :
    Keeps s (s.onControlResponseCb name c err msgId 0 rc) :=
  method_keeps s name c rc (Msg.fix_some rfl)

theorem onGnssConfigCb_keeps (s : State) (name : String) (c : Client) (configMsgId : ConfigMsgID)
    (gnssConfig : GnssConfig) (rc : Bool) :
    Keeps s (s.onGnssConfigCb name c configMsgId gnssConfig rc) := by
  refine method_keeps s name c rc fun m hm => ?_
  cases configMsgId <;> simp only [configMsg, Option.map_eq_some_iff, reduceCtorEq] at hm <;>
    obtain ⟨_, _, rfl⟩ := hm <;> rfl

theorem onXtraStatusUpdateCb_keeps (s : State) (name : String) (c : Client) (status : XtraStatus)
    (rc : Bool) : Keeps s (s.onXtraStatusUpdateCb name c status rc) :=
  method_keeps s name c rc (Msg.fix_some rfl)

theorem onGnssSignalTypesCb_keeps (s : State) (signalType : UInt32) (rc : Bool) (name : String)
    (c : Client) : Keeps s (s.onGnssSignalTypesCb signalType rc name c) :=
  method_keeps s name c rc (Msg.fix_some rfl)

theorem sendCapabilitiesMsg_keeps (s : State) (name : String) (c : Client) (rc : Bool) :
    Keeps s (s.sendCapabilitiesMsg name c rc) := by
  refine method_keeps s name c rc fun m hm => ?_
  split at hm
  · cases hm
  · exact Msg.fix_some rfl m hm

/-- A client that is there has a sender. -/
theorem method_client {name : String} {c : Client} (h : s.getClient name = some c)
    (halive : c.id ∉ s.freed) (msg : Msg) (answers : Nat) (rc : Bool) :
    s.method name c (some msg) answers rc = s.sendOrPurge name c msg answers rc := by
  rw [method, if_neg halive]
  exact if_pos (by simp [hasSender, h])

theorem method_survives {name n : String} (c : Client) (msg : Option Msg) (answers : Nat)
    {rc : Bool} (h : n = name → rc = true) : Survives n s (s.method name c msg answers rc) := by
  rcases method_cases s name c msg answers rc with heq | heq | ⟨m, _, heq⟩
  · rw [heq]
    exact Survives.refl n s
  · rw [heq]
    exact Survives.of_eq rfl
  · rw [heq]
    exact sendOrPurge_survives c m answers h

/-- Writing a client back keeps who it is. -/
theorem getClient_setClient (s : State) (name n : String) (c : Client) :
    (s.setClient name c).getClient n = if n = name then some c else s.getClient n :=
  IdMap.lookup_insert_eq _ _ _ _

theorem setClient_keeps {name : String} {c : Client} (c' : Client)
    (h : s.getClient name = some c) (hid : c'.id = c.id) : Keeps s (s.setClient name c') := by
  refine ⟨?_, rfl, rfl, rfl, rfl, .same rfl fun _ hf => hf, fun _ hfreed => Or.inl hfreed⟩
  intro n d hd
  rw [getClient_setClient] at hd
  split at hd
  · rename_i hn
    subst hn
    cases hd
    exact ⟨c, h, hid⟩
  · exact ⟨d, hd, rfl⟩

theorem setClient_survives {name : String} {c : Client} (c' : Client)
    (h : s.getClient name = some c) (hid : c'.id = c.id) (n : String) :
    Survives n s (s.setClient name c') := by
  intro d hd
  rw [getClient_setClient]
  split
  · rename_i hn
    subst hn
    obtain rfl : c = d := Option.some.inj (h.symm.trans hd)
    exact ⟨c', rfl, hid⟩
  · exact ⟨d, hd, rfl⟩

/-! ## Loops -/

/-- A broadcast does what its visits do. -/
theorem broadcast_induction {R : State → State → Prop} (hrefl : ∀ s, R s s)
    (htrans : ∀ {s s' s''}, R s s' → R s' s'' → R s s'')
    (hvisited : ∀ s v, R s { s with visited := v }) (hfault : ∀ s f, R s (s.fault f))
    {visit : String → Client → State → State}
    (hvisit : ∀ name c s, s.getClient name = some c → R s (visit name c s))
    (names : List String) (s : State) : R s (broadcast visit names s) := by
  induction names generalizing s with
  | nil => exact hrefl s
  | cons name rest ih =>
    rw [broadcast]
    split
    · exact hfault s _
    · rename_i c hc
      have hstep := htrans (hvisited s (s.visited ++ [name]))
        (hvisit name c { s with visited := s.visited ++ [name] } hc)
      simp only []
      split
      · exact htrans hstep (ih _)
      · exact htrans hstep (hfault _ _)

/-- A name is put among those that were visited. -/
theorem visited_keeps (s : State) (visited : List String) :
    Keeps s { s with visited := visited } :=
  Keeps.of_eq rfl rfl rfl rfl rfl rfl (fun _ h => h) rfl

theorem broadcast_keeps {visit : String → Client → State → State}
    (hvisit : ∀ name c s, s.getClient name = some c → Keeps s (visit name c s))
    (names : List String) (s : State) : Keeps s (broadcast visit names s) :=
  broadcast_induction Keeps.refl Keeps.trans visited_keeps fault_keeps hvisit names s

theorem broadcast_survives {n : String} {visit : String → Client → State → State}
    (hvisit : ∀ name c s, s.getClient name = some c → Survives n s (visit name c s))
    (names : List String) (s : State) : Survives n s (broadcast visit names s) :=
  broadcast_induction (Survives.refl n) Survives.trans (fun _ _ => Survives.of_eq rfl)
    (fun _ _ => Survives.of_eq rfl) hvisit names s

theorem onGnssEnergyConsumedInfoAvailable_keeps (total : UInt64) (rc : Bool) {name : String}
    {c : Client} (h : s.getClient name = some c) :
    Keeps s (s.onGnssEnergyConsumedInfoAvailable total rc name c) := by
  rw [onGnssEnergyConsumedInfoAvailable]
  split
  · exact fault_keeps s _
  · split
    · refine Keeps.trans ?_ (sendOrPurge_keeps _ name c rc rfl)
      exact setClient_keeps _ h rfl
    · exact Keeps.refl s

theorem onGnssEnergyConsumedInfoAvailable_survives (total : UInt64) {rc : Bool}
    {name n : String} {c : Client} (h : s.getClient name = some c) (hrc : n = name → rc = true) :
    Survives n s (s.onGnssEnergyConsumedInfoAvailable total rc name c) := by
  rw [onGnssEnergyConsumedInfoAvailable]
  split
  · exact Survives.of_eq rfl
  · split
    · refine Survives.trans ?_ (sendOrPurge_survives c _ 0 hrc)
      exact setClient_survives { c with mEngineInfoRequestMask := false } h rfl n
    · exact Survives.refl n s

theorem pings_keeps (socketDir : String) (rcs : String → Bool)
    (clients : List (Sigma fun _ : String => Client)) (s : State) :
    Keeps s (pings socketDir rcs clients s) := by
  induction clients generalizing s with
  | nil => exact Keeps.refl s
  | cons client rest ih =>
    obtain ⟨name, c⟩ := client
    rw [pings]
    have hvisited := visited_keeps s (s.visited ++ [name])
    split
    · refine hvisited.trans (Keeps.trans ?_ (ih _))
      split
      · exact deliver_keeps _ c true rfl rfl
      · exact deleteClientbyName_keeps _ name
    · exact hvisited.trans (ih _)

theorem pings_survives (socketDir : String) {rcs : String → Bool} {n : String}
    (hrc : rcs n = true) (clients : List (Sigma fun _ : String => Client)) (s : State) :
    Survives n s (pings socketDir rcs clients s) := by
  induction clients generalizing s with
  | nil => exact Survives.refl n s
  | cons client rest ih =>
    obtain ⟨name, c⟩ := client
    rw [pings]
    have hvisited : Survives n s { s with visited := s.visited ++ [name] } := Survives.of_eq rfl
    split
    · refine hvisited.trans (Survives.trans ?_ (ih _))
      split
      · exact Survives.of_eq rfl
      · rename_i hname
        exact deleteClientbyName_survives fun hn => hname (hn ▸ hrc)
    · exact hvisited.trans (ih _)

theorem Keeps.withUnasked (h : Keeps s s') (unasked : List Nat) :
    Keeps { s with unaskedXtra := unasked } { s' with unaskedXtra := unasked } := by
  have hsame : ∀ s : State, Idle s { s with unaskedXtra := unasked } :=
    fun _ => .same rfl fun _ hf => hf
  have hback : Idle { s with unaskedXtra := unasked } s := .same rfl fun _ hf => hf
  refine ⟨h.clients, h.nextClient, ?_, h.config, h.timeouts,
    hback.trans (h.idle.trans (hsame s')), h.freed⟩
  have hxtra := h.xtra
  simp only [xtraPart, Prod.mk.injEq] at hxtra ⊢
  obtain ⟨hset, hupdate, hclients, _, hinterface⟩ := hxtra
  exact ⟨hset, hupdate, hclients, trivial, hinterface⟩

theorem noteXtra_eq (s : State) (c : Client) :
    ∃ unasked, s.noteXtra c = { s with unaskedXtra := unasked } := by
  rw [noteXtra]
  split <;> exact ⟨_, rfl⟩

/-- The loop over the names for XTRA status updates also notes the updates that nobody asked
for. -/
theorem xtraStatusUpdates_keeps (status : XtraStatus) (rcs : String → Bool)
    (names : List String) (s : State) :
    ∃ unasked, Keeps { s with unaskedXtra := unasked } (xtraStatusUpdates status rcs names s) := by
  induction names generalizing s with
  | nil => exact ⟨s.unaskedXtra, Keeps.refl s⟩
  | cons name rest ih =>
    rw [xtraStatusUpdates]
    split
    · rename_i c hc
      obtain ⟨noted, hnoted⟩ := noteXtra_eq { s with visited := s.visited ++ [name] } c
      rw [hnoted]
      obtain ⟨unasked, hrest⟩ := ih (State.onXtraStatusUpdateCb
        { s with visited := s.visited ++ [name], unaskedXtra := noted } name c status (rcs name))
      refine ⟨unasked, Keeps.trans ?_ hrest⟩
      have hsend := (onXtraStatusUpdateCb_keeps
        { s with visited := s.visited ++ [name], unaskedXtra := noted } name c status
        (rcs name)).withUnasked unasked
      refine Keeps.trans ?_ hsend
      exact Keeps.of_eq rfl rfl rfl rfl rfl rfl (fun _ h => h) rfl
    · obtain ⟨unasked, hrest⟩ := ih { s with visited := s.visited ++ [name] }
      refine ⟨unasked, Keeps.trans ?_ hrest⟩
      exact Keeps.of_eq rfl rfl rfl rfl rfl rfl (fun _ h => h) rfl

theorem xtraStatusUpdates_survives (status : XtraStatus) {rcs : String → Bool} {n : String}
    (hrc : rcs n = true) (names : List String) (s : State) :
    Survives n s (xtraStatusUpdates status rcs names s) := by
  induction names generalizing s with
  | nil => exact Survives.refl n s
  | cons name rest ih =>
    rw [xtraStatusUpdates]
    split
    · rename_i c hc
      obtain ⟨noted, hnoted⟩ := noteXtra_eq { s with visited := s.visited ++ [name] } c
      rw [hnoted]
      refine Survives.trans (Survives.trans (Survives.of_eq ?_)
        (method_survives c _ 0 fun hn => hn ▸ hrc)) (ih _)
      rfl
    · refine Survives.trans ?_ (ih _)
      exact Survives.of_eq rfl

/-! ## Fixes -/

/-- What is done about fixes keeps everything else. -/
structure Quiet (s s' : State) : Prop where
  mClients : s'.mClients = s.mClients
  nextClient : s'.nextClient = s.nextClient
  xtra : s'.xtraPart = s.xtraPart
  config : s'.configPart = s.configPart
  timeouts : s'.timeoutPart = s.timeoutPart
  freed : s'.freed = s.freed

theorem Quiet.refl (s : State) : Quiet s s := ⟨rfl, rfl, rfl, rfl, rfl, rfl⟩

theorem Quiet.trans (h : Quiet s s') (h' : Quiet s' s'') : Quiet s s'' :=
  ⟨h'.mClients.trans h.mClients, h'.nextClient.trans h.nextClient, h'.xtra.trans h.xtra,
    h'.config.trans h.config, h'.timeouts.trans h.timeouts, h'.freed.trans h.freed⟩

theorem Quiet.survives (h : Quiet s s') (n : String) : Survives n s s' := Survives.of_eq h.mClients

theorem fault_quiet (s : State) (f : Fault) : Quiet s (s.fault f) :=
  ⟨rfl, rfl, rfl, rfl, rfl, rfl⟩

theorem deliver_quiet (s : State) (c : Client) {msg : Msg} {answers : Nat} (rc : Bool)
    (h : Sent.response ⟨c.id, msg, answers⟩ = false) : Quiet s (s.deliver c msg answers rc) := by
  rw [deliver]
  split
  · refine ⟨rfl, rfl, rfl, ?_, rfl, rfl⟩
    simp only [configPart, responses_append_of_not s h]
  · exact Quiet.refl s

theorem sendTerrestrialFix_quiet (s : State) (c : Client) (err : LocationError)
    (location : Location) (answers : Nat) (rc : Bool) :
    Quiet s (s.sendTerrestrialFix c err location answers rc) := by
  rw [sendTerrestrialFix]
  split
  · exact fault_quiet s _
  · exact deliver_quiet s c rc rfl

theorem sendSingleFusedFix_quiet (s : State) (c : Client) (err : LocationError)
    (location : Location) (answers : Nat) (rc : Bool) :
    Quiet s (s.sendSingleFusedFix c err location answers rc) := by
  rw [sendSingleFusedFix]
  split
  · exact fault_quiet s _
  · exact deliver_quiet s c rc rfl

theorem sendSingleFix_quiet (s : State) (clientName : String) (err : LocationError)
    (location : Location) (answers : Nat) (rc : Bool) :
    Quiet s (s.sendSingleFix clientName err location answers rc) := by
  rw [sendSingleFix]
  split
  · exact sendSingleFusedFix_quiet s _ _ _ _ _
  · exact Quiet.refl s

theorem eraseTerrestrialFix_quiet (s : State) (name : String) :
    Quiet s (s.eraseTerrestrialFix name) := by
  obtain ⟨_, _, _, heq⟩ := eraseTerrestrialFix_eq s name
  rw [heq]
  exact ⟨rfl, rfl, rfl, rfl, rfl, rfl⟩

theorem eraseSingleFix_quiet (s : State) (name : String) : Quiet s (s.eraseSingleFix name) :=
  ⟨rfl, rfl, rfl, rfl, rfl, rfl⟩

theorem stopTrackingSessionForSingleFixes_quiet (s : State) :
    Quiet s s.stopTrackingSessionForSingleFixes := by
  obtain ⟨_, _, heq⟩ := stopTrackingSessionForSingleFixes_eq s
  rw [heq]
  exact ⟨rfl, rfl, rfl, rfl, rfl, rfl⟩

theorem startNetworkLocation_quiet (s : State) : Quiet s s.startNetworkLocation := by
  rw [startNetworkLocation]
  split
  · exact ⟨rfl, rfl, rfl, rfl, rfl, rfl⟩
  · exact fault_quiet s _

theorem stopNetworkLocation_quiet (s : State) : Quiet s s.stopNetworkLocation := by
  rw [stopNetworkLocation]
  split
  · exact ⟨rfl, rfl, rfl, rfl, rfl, rfl⟩
  · exact fault_quiet s _

theorem terrestrialFixes_quiet (location : Location) (rcs : String → Bool)
    (fixes : List (Sigma fun _ : String => SingleFixTimer)) (s : State) :
    Quiet s (terrestrialFixes location rcs fixes s) := by
  induction fixes generalizing s with
  | nil => exact Quiet.refl s
  | cons fix rest ih =>
    obtain ⟨name, timer⟩ := fix
    rw [terrestrialFixes]
    split
    · exact (sendTerrestrialFix_quiet s _ _ _ _ _).trans (ih _)
    · exact ih s

theorem singleFixes_quiet (location : Location) (rcs : String → Bool)
    (fixes : List (Sigma fun _ : String => SingleFixReqInfo)) (s : State) :
    Quiet s (singleFixes location rcs fixes s) := by
  induction fixes generalizing s with
  | nil => exact Quiet.refl s
  | cons fix rest ih =>
    obtain ⟨name, info⟩ := fix
    rw [singleFixes]
    split
    · exact ((sendSingleFix_quiet s name _ _ _ _).trans (eraseSingleFix_quiet _ name)).trans (ih _)
    · exact ih s

theorem countReq_quiet (s : State) : Quiet s s.countReq := ⟨rfl, rfl, rfl, rfl, rfl, rfl⟩

theorem addTerrestrialFix_quiet (s : State) (clientName : String) :
    Quiet s (s.addTerrestrialFix clientName) := ⟨rfl, rfl, rfl, rfl, rfl, rfl⟩

theorem addSingleFix_quiet (s : State) (clientName : String) (horQoS : CFloat)
    (trackingId : UInt32) : Quiet s (s.addSingleFix clientName horQoS trackingId) :=
  ⟨rfl, rfl, rfl, rfl, rfl, rfl⟩

theorem getSingleTerrestrialPos_quiet (s : State) (clientName : String) (rc : Bool) :
    Quiet s (s.getSingleTerrestrialPos clientName rc) := by
  have hadd := (addTerrestrialFix_quiet s clientName).trans (countReq_quiet _)
  rw [getSingleTerrestrialPos]
  split
  · split
    · exact (sendTerrestrialFix_quiet _ _ _ _ _ _).trans (countReq_quiet _)
    · exact countReq_quiet s
  · split
    · exact hadd
    · exact hadd.trans (startNetworkLocation_quiet _)

theorem getSinglePos_quiet (s : State) (clientName : String) (horQoS : CFloat)
    (timeoutMsec : UInt32) (created : Bool) (trackingId : UInt32) :
    Quiet s (s.getSinglePos clientName horQoS timeoutMsec created trackingId) := by
  have hapi : Quiet s ({ s with mSingleFixLocationApi := true }.eraseSingleFix clientName) :=
    ⟨rfl, rfl, rfl, rfl, rfl, rfl⟩
  rw [getSinglePos]
  split
  · exact Quiet.refl s
  · refine hapi.trans ?_
    simp only []
    split
    · exact (addSingleFix_quiet _ _ _ _).trans (countReq_quiet _)
    · exact stopTrackingSessionForSingleFixes_quiet _

theorem onGtpWwanTrackingCallback_quiet (s : State) (location : Location)
    (rcs : String → Bool) : Quiet s (s.onGtpWwanTrackingCallback location rcs) := by
  rw [onGtpWwanTrackingCallback]
  split
  · have hclear : ∀ s : State, Quiet s s.clearTerrestrialFixes :=
      fun s => ⟨rfl, rfl, rfl, rfl, rfl, rfl⟩
    exact ((terrestrialFixes_quiet location rcs _ s).trans (hclear _)).trans
      (stopNetworkLocation_quiet _)
  · exact Quiet.refl s

theorem onGnssLocationInfoCb_quiet (s : State) (location : Location) (rcs : String → Bool) :
    Quiet s (s.onGnssLocationInfoCb location rcs) := by
  rw [onGnssLocationInfoCb]
  refine Quiet.trans ?_ (stopTrackingSessionForSingleFixes_quiet _)
  have hlast : Quiet s { s with mSingleFixLastLocation := location } :=
    ⟨rfl, rfl, rfl, rfl, rfl, rfl⟩
  split
  · exact hlast.trans (singleFixes_quiet location rcs _ _)
  · exact hlast

end State
end LocationStack.Service
