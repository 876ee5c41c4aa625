import LocationStack.Service.Steps

/-! # Configuration requests and their responses

A client of the location integration API asks for a configuration, the GNSS interface returns
a session id, and `mConfigReqs` keeps the name of the client until a control response for that
id is reported.  The name is all it keeps, and deleting a client leaves it there: a client that
registers under the name meanwhile gets the response that another one asked for.

What the GNSS interface promises is `HalOk`.  Under it each request is answered once, and to
the client that made it, in every run in which no client registers under the name of a request
that is still under way (`config_responses_routed`).
-/
namespace LocationStack.Service

open Ipc State

/-! ## The GNSS interface -/

/-- The session id that the GNSS interface returns for the request of an event, 0 where there
is none. -/
def Event.asked : Event → UInt32
  | .configRequest _ _ sessionId _ | .registerXtraStatusUpdate _ sessionId _
  | .deregisterXtraStatusUpdate _ sessionId _ | .configUserConsent _ _ _ sessionId _ => sessionId
  | _ => 0

/-- It gives every accepted request a session id of its own, and reports one control response
for each. -/
structure HalOk (s : State) (e : Event) : Prop where
  fresh : e.asked ≠ 0 →
    e.asked ∉ s.configRequests.map ConfigRequest.sessionId ∧ e.asked ∉ s.reported
  once : ∀ sessionId ∈ e.reports, sessionId ∉ s.reported

instance (s : State) (e : Event) : Decidable (HalOk s e) :=
  have : Decidable (∀ sessionId ∈ e.reports, sessionId ∉ s.reported) := List.decidableBAll _ _
  decidable_of_iff
    ((e.asked ≠ 0 → e.asked ∉ s.configRequests.map ConfigRequest.sessionId ∧
      e.asked ∉ s.reported) ∧ ∀ sessionId ∈ e.reports, sessionId ∉ s.reported)
    ⟨fun h => ⟨h.1, h.2⟩, fun h => ⟨h.fresh, h.once⟩⟩

/-! ## Soundness -/

/-- A response goes to the client that made its request, with the message id of the request; a
client that is still there got exactly one for each request that was reported, and none for
the others. -/
structure ConfigSound (s : State) : Prop where
  routed : ∀ m ∈ s.responses, ∃ r ∈ s.configRequests, m.answers = r.sessionId.toNat ∧
    r.client = some m.client ∧ ∃ err, m.msg = .genericResp r.msgId err
  answered : ∀ r ∈ s.configRequests, ∀ c, s.getClient r.clientName = some c →
    r.client = some c.id →
    (s.responses.filter fun m => m.answers == r.sessionId.toNat).length =
      if r.sessionId ∈ s.reported then 1 else 0

/-- No client registers under the name of a request that is under way, and no collective
response is about such a request and another. -/
def ConfigKept (s : State) (e : Event) : Prop :=
  match e with
  | .newClient clientName _ _ _ =>
    s.getClient clientName = none → ∀ req ∈ s.mConfigReqs.entries, req.2.clientName ≠ clientName
  | .controlCollectiveResponse resp _ =>
    resp.length = 1 ∨ ∀ r ∈ resp, s.mConfigReqs.lookup r.2 = none
  | _ => True

instance (s : State) : ∀ e : Event, Decidable (ConfigKept s e)
  | .newClient .. => inferInstanceAs (Decidable (_ → ∀ req ∈ _, _))
  | .controlCollectiveResponse .. => inferInstanceAs (Decidable (_ ∨ ∀ r ∈ _, _))
  | .deleteClient _ | .deleteEapClientByIds .. | .capabilitiesCb .. | .purge _
  | .configRequest .. | .registerXtraStatusUpdate .. | .deregisterXtraStatusUpdate ..
  | .registerGnssSignalTypesUpdate .. | .configUserConsent .. | .getGnssEnergyConsumed _
  | .controlResponse .. | .gnssConfig .. | .gnssSignalTypes .. | .gnssEnergyConsumed ..
  | .performMaintenance .. | .getSingleTerrestrialPos .. | .getSinglePos ..
  | .gtpWwanTracking .. | .gnssLocationInfo .. | .timeOut .. | .procMsg _ =>
    inferInstanceAs (Decidable True)

/-! ## The invariant -/

/-- The requests under way are those that were accepted and not reported, and each was made by
whoever has its name. -/
structure ConfigInv (s : State) : Prop extends ConfigSound s where
  numbered : Numbered s
  made : ∀ r ∈ s.configRequests,
    r.sessionId ≠ 0 ∧ ∀ id, r.client = some id → id < s.nextClient
  distinct : (s.configRequests.map ConfigRequest.sessionId).Nodup
  mapped : ∀ sessionId data, s.mConfigReqs.lookup sessionId = some data →
    sessionId ∉ s.reported ∧ ∃ r ∈ s.configRequests, r.sessionId = sessionId ∧
      data = ⟨r.clientName, r.msgId⟩ ∧
      ∀ c, s.getClient r.clientName = some c → r.client = some c.id
  pending : ∀ r ∈ s.configRequests, r.sessionId ∉ s.reported →
    s.mConfigReqs.lookup r.sessionId = some ⟨r.clientName, r.msgId⟩
  unreported : ∀ m ∈ s.responses, ∃ sessionId ∈ s.reported, m.answers = sessionId.toNat

theorem ConfigInv.init (gnssInterface : Bool) : ConfigInv (State.init gnssInterface) :=
  { routed := fun _ hm => absurd hm List.not_mem_nil
    answered := fun _ hr => absurd hr List.not_mem_nil
    numbered := Numbered.init gnssInterface
    made := fun _ hr => absurd hr List.not_mem_nil
    distinct := List.nodup_nil
    mapped := nofun
    pending := fun _ hr => absurd hr List.not_mem_nil
    unreported := fun _ hm => absurd hm List.not_mem_nil }

/-- It survives whatever keeps the requests, loses clients, and registers none under the name
of a request that is under way. -/
theorem ConfigInv.frame {s s' : State} (h : ConfigInv s) (hnumbered : Numbered s')
    (hnext : s.nextClient ≤ s'.nextClient) (hconfig : s'.configPart = s.configPart)
    (hclients : ∀ name c', s'.getClient name = some c' →
      (∃ c, s.getClient name = some c ∧ c'.id = c.id) ∨
        c'.id = s.nextClient ∧
          ∀ sessionId data, s.mConfigReqs.lookup sessionId = some data →
            data.clientName ≠ name) : ConfigInv s' := by
  obtain ⟨hreqs, hasked, hreported, hresponses⟩ :
      _ ∧ _ ∧ _ ∧ _ := by simpa only [configPart, Prod.mk.injEq] using hconfig
  refine { routed := ?_, answered := ?_, numbered := hnumbered, made := ?_, distinct := ?_,
           mapped := ?_, pending := ?_, unreported := ?_ }
  · rw [hresponses, hasked]
    exact h.routed
  · rw [hasked, hresponses, hreported]
    intro r hr c' hc' hclient
    obtain ⟨c, hc, hid⟩ | ⟨hid, _⟩ := hclients _ c' hc'
    · exact h.answered r hr c hc (hid ▸ hclient)
    · -- a new client has made no request
      have := (h.made r hr).2 _ hclient
      omega
  · rw [hasked]
    intro r hr
    exact ⟨(h.made r hr).1, fun id hid => Nat.lt_of_lt_of_le ((h.made r hr).2 id hid) hnext⟩
  · rw [hasked]
    exact h.distinct
  · rw [hreqs, hreported, hasked]
    intro sessionId data hdata
    obtain ⟨hnew, r, hr, hid, rfl, hclient⟩ := h.mapped sessionId data hdata
    refine ⟨hnew, r, hr, hid, rfl, ?_⟩
    intro c' hc'
    obtain ⟨c, hc, hid⟩ | ⟨_, hname⟩ := hclients _ c' hc'
    · rw [hid]
      exact hclient c hc
    · exact absurd rfl (hname sessionId _ hdata)
  · rw [hreqs, hreported, hasked]
    exact h.pending
  · rw [hresponses, hreported]
    exact h.unreported

theorem ConfigInv.of_eq {s s' : State} (h : ConfigInv s) (hclients : s'.mClients = s.mClients)
    (hnext : s'.nextClient = s.nextClient) (hfreed : s'.freed = s.freed)
    (hconfig : s'.configPart = s.configPart) : ConfigInv s' := by
  refine h.frame (h.numbered.of_eq hclients hnext hfreed) (Nat.le_of_eq hnext.symm) hconfig ?_
  intro name c' hc'
  rw [getClient, hclients] at hc'
  exact Or.inl ⟨c', hc', rfl⟩

theorem ConfigInv.keeps {s s' : State} (h : ConfigInv s) (hkeeps : Keeps s s') :
    ConfigInv s' :=
  h.frame (h.numbered.keeps hkeeps) (Nat.le_of_eq hkeeps.nextClient.symm) hkeeps.config
    fun name c' hc' => Or.inl (hkeeps.clients name c' hc')

/-! ## Requests -/

/-- No response was sent yet for a session id that was not reported. -/
theorem ConfigInv.no_response {s : State} (h : ConfigInv s) {sessionId : UInt32}
    (hnew : sessionId ∉ s.reported) :
    s.responses.filter (fun m => m.answers == sessionId.toNat) = [] := by
  rw [List.filter_eq_nil_iff]
  intro m hm heq
  obtain ⟨id, hid, hanswers⟩ := h.unreported m hm
  have hsame : id = sessionId := UInt32.toNat_inj.mp (hanswers.symm.trans (beq_iff_eq.mp heq))
  exact hnew (hsame ▸ hid)

/-- A request is mapped under its session id, or refused at once. -/
theorem ConfigInv.addConfigRequestToMap {s : State} (h : ConfigInv s) {sessionId : UInt32}
    (hfresh : sessionId ≠ 0 →
      sessionId ∉ s.configRequests.map ConfigRequest.sessionId ∧ sessionId ∉ s.reported)
    (clientName : String) (msgId : ConfigMsgID) (rc : Bool) :
    ConfigInv (s.addConfigRequestToMap sessionId clientName msgId rc) := by
  rw [State.addConfigRequestToMap]
  split
  · rename_i hsid
    obtain ⟨hnew, hunreported⟩ := hfresh hsid
    have hfree : s.mConfigReqs.lookup sessionId = none := by
      cases hdata : s.mConfigReqs.lookup sessionId with
      | none => rfl
      | some data =>
        obtain ⟨_, r, hr, hid, _⟩ := h.mapped sessionId data hdata
        exact absurd (List.mem_map.mpr ⟨r, hr, hid⟩) hnew
    rw [if_neg (AList.lookup_eq_none.mp hfree)]
    refine { routed := ?_, answered := ?_, numbered := h.numbered.of_eq rfl rfl rfl, made := ?_,
             distinct := ?_, mapped := ?_, pending := ?_, unreported := h.unreported }
    · intro m hm
      obtain ⟨r, hr, hrouted⟩ := h.routed m hm
      exact ⟨r, List.mem_append_left _ hr, hrouted⟩
    · intro r hr c hc hclient
      obtain hold | hlast := List.mem_append.mp hr
      · exact h.answered r hold c hc hclient
      · obtain rfl := List.mem_singleton.mp hlast
        exact (congrArg List.length (h.no_response hunreported)).trans (if_neg hunreported).symm
    · intro r hr
      obtain hold | hlast := List.mem_append.mp hr
      · exact h.made r hold
      · obtain rfl := List.mem_singleton.mp hlast
        refine ⟨hsid, fun id hid => ?_⟩
        obtain ⟨c, hc, rfl⟩ := Option.map_eq_some_iff.mp hid
        exact h.numbered.lt hc
    · rw [List.map_append]
      refine List.nodup_append.mpr ⟨h.distinct, List.nodup_singleton _, ?_⟩
      intro id hid id' hid' heq
      rw [List.map_singleton, List.mem_singleton] at hid'
      have hsame : id = sessionId := heq.trans hid'
      exact hnew (hsame ▸ hid)
    · intro id data hdata
      rw [IdMap.lookup_insert_eq] at hdata
      split at hdata
      · rename_i heq
        subst heq
        cases hdata
        refine ⟨hunreported, _, List.mem_append_right _ (List.mem_singleton.mpr rfl), rfl, rfl, ?_⟩
        intro c hc
        exact congrArg (Option.map Client.id) hc
      · obtain ⟨hold, r, hr, hrest⟩ := h.mapped id data hdata
        exact ⟨hold, r, List.mem_append_left _ hr, hrest⟩
    · intro r hr hr'
      rw [IdMap.lookup_insert_eq]
      obtain hold | hlast := List.mem_append.mp hr
      · have hne : r.sessionId ≠ sessionId := fun heq =>
          hnew (heq ▸ List.mem_map.mpr ⟨r, hold, rfl⟩)
        rw [if_neg hne]
        exact h.pending r hold hr'
      · obtain rfl := List.mem_singleton.mp hlast
        rw [if_pos rfl]
  · split
    · exact h.keeps (onControlResponseCb_keeps s clientName _ _ _ rc)
    · exact h

/-! ## Reports -/

/-- The request with this session id was answered, and is not under way any more: its client
got the response, or is gone. -/
structure Answered (s : State) (sessionId : UInt32) (s' : State) : Prop where
  clients : ∀ name c', s'.getClient name = some c' → ∃ c, s.getClient name = some c ∧ c'.id = c.id
  nextClient : s'.nextClient = s.nextClient
  numbered : Numbered s → Numbered s'
  reqs : ∀ id, s'.mConfigReqs.lookup id =
    if id = sessionId then none else s.mConfigReqs.lookup id
  asked : s'.configRequests = s.configRequests
  reported : s'.reported = s.reported
  responses : s'.responses = s.responses ∧
      (∀ data, s.mConfigReqs.lookup sessionId = some data →
        s'.getClient data.clientName = none) ∨
    ∃ data c err, s.mConfigReqs.lookup sessionId = some data ∧
      s.getClient data.clientName = some c ∧
      s'.responses =
        s.responses ++ [⟨c.id, .genericResp data.configMsgId err, sessionId.toNat⟩]

/-- **A report** answers the request, once and to the client that made it. -/
theorem ConfigInv.report {s s' : State} {sessionId : UInt32} (h : ConfigInv s)
    (hnew : sessionId ∉ s.reported)
    (hanswered : Answered (s.noteReports [sessionId]) sessionId s') : ConfigInv s' := by
  have hclients : ∀ name c', s'.getClient name = some c' →
      ∃ c, s.getClient name = some c ∧ c'.id = c.id := hanswered.clients
  have hnext : s'.nextClient = s.nextClient := hanswered.nextClient
  have hlookup : ∀ id, s'.mConfigReqs.lookup id =
      if id = sessionId then none else s.mConfigReqs.lookup id := hanswered.reqs
  have hasked : s'.configRequests = s.configRequests := hanswered.asked
  have hreported : s'.reported = s.reported ++ [sessionId] := hanswered.reported
  have hresponses : s'.responses = s.responses ∧
        (∀ data, s.mConfigReqs.lookup sessionId = some data →
          s'.getClient data.clientName = none) ∨
      ∃ data c err, s.mConfigReqs.lookup sessionId = some data ∧
        s.getClient data.clientName = some c ∧
        s'.responses =
          s.responses ++ [⟨c.id, .genericResp data.configMsgId err, sessionId.toNat⟩] :=
    hanswered.responses
  have hmem : ∀ id, id ∈ s'.reported ↔ id ∈ s.reported ∨ id = sessionId := by
    intro id
    rw [hreported, List.mem_append, List.mem_singleton]
  refine { routed := ?_, answered := ?_, made := ?_, distinct := ?_, mapped := ?_,
           pending := ?_, unreported := ?_,
           numbered := hanswered.numbered (h.numbered.of_eq rfl rfl rfl) }
  · rw [hasked]
    intro m hm
    obtain ⟨hsame, _⟩ | ⟨data, c, err, hdata, hc, hsame⟩ := hresponses
    · exact h.routed m (hsame ▸ hm)
    · rw [hsame] at hm
      obtain hold | hlast := List.mem_append.mp hm
      · exact h.routed m hold
      · obtain rfl := List.mem_singleton.mp hlast
        obtain ⟨_, r, hr, hid, rfl, hclient⟩ := h.mapped sessionId data hdata
        exact ⟨r, hr, by rw [hid], hclient c hc, err, rfl⟩
  · rw [hasked]
    intro r hr c' hc' hclient
    obtain ⟨c, hc, hid⟩ := hclients _ c' hc'
    have hold := h.answered r hr c hc (hid ▸ hclient)
    by_cases heq : r.sessionId = sessionId
    · -- the request that is reported now
      have hpending := h.pending r hr (heq ▸ hnew)
      rw [if_pos ((hmem _).mpr (Or.inr heq))]
      obtain ⟨_, hgone⟩ | ⟨data, d, err, hdata, hd, hsame⟩ := hresponses
      · have hnone := hgone ⟨r.clientName, r.msgId⟩ (heq ▸ hpending)
        rw [hnone] at hc'
        cases hc'
      · rw [hsame, List.filter_append, heq, h.no_response hnew]
        simp
    · have hcount : (s'.responses.filter fun m => m.answers == r.sessionId.toNat).length =
          (s.responses.filter fun m => m.answers == r.sessionId.toNat).length := by
        obtain ⟨hsame, _⟩ | ⟨data, d, err, _, _, hsame⟩ := hresponses
        · rw [hsame]
        · have hne : ¬ sessionId.toNat = r.sessionId.toNat := fun hto =>
            heq (UInt32.toNat_inj.mp hto).symm
          rw [hsame, List.filter_append]
          simp [hne]
      rw [hcount, hold]
      exact if_congr ⟨fun hin => (hmem _).mpr (Or.inl hin),
        fun hin => ((hmem _).mp hin).resolve_right heq⟩ rfl rfl
  · rw [hasked, hnext]
    exact h.made
  · rw [hasked]
    exact h.distinct
  · rw [hasked]
    intro id data hdata
    rw [hlookup] at hdata
    split at hdata
    · cases hdata
    · rename_i hne
      obtain ⟨hold, r, hr, hid, rfl, hclient⟩ := h.mapped id data hdata
      refine ⟨fun hin => ((hmem id).mp hin).elim hold hne, r, hr, hid, rfl, ?_⟩
      intro c' hc'
      obtain ⟨c, hc, hsame⟩ := hclients _ c' hc'
      rw [hsame]
      exact hclient c hc
  · rw [hasked]
    intro r hr hr'
    have hnot : ¬ r.sessionId ∈ s.reported ∧ r.sessionId ≠ sessionId :=
      not_or.mp fun hin => hr' ((hmem _).mpr hin)
    rw [hlookup, if_neg hnot.2]
    exact h.pending r hr hnot.1
  · intro m hm
    obtain ⟨hsame, _⟩ | ⟨data, c, err, hdata, hc, hsame⟩ := hresponses
    · obtain ⟨id, hid, hanswers⟩ := h.unreported m (hsame ▸ hm)
      exact ⟨id, (hmem id).mpr (Or.inl hid), hanswers⟩
    · rw [hsame] at hm
      obtain hold | hlast := List.mem_append.mp hm
      · obtain ⟨id, hid, hanswers⟩ := h.unreported m hold
        exact ⟨id, (hmem id).mpr (Or.inl hid), hanswers⟩
      · obtain rfl := List.mem_singleton.mp hlast
        exact ⟨sessionId, (hmem _).mpr (Or.inr rfl), rfl⟩

/-- Ids that no request has may be reported as well. -/
theorem ConfigInv.ignore {s : State} (h : ConfigInv s) {sessionIds : List UInt32}
    (hnone : ∀ id ∈ sessionIds, s.mConfigReqs.lookup id = none) :
    ConfigInv (s.noteReports sessionIds) := by
  have hmem : ∀ id, id ∈ (s.noteReports sessionIds).reported ↔
      id ∈ s.reported ∨ id ∈ sessionIds := fun id => List.mem_append
  refine { routed := h.routed, answered := ?_, numbered := h.numbered.of_eq rfl rfl rfl,
           made := h.made, distinct := h.distinct, mapped := ?_, pending := ?_,
           unreported := ?_ }
  · intro r hr c hc hclient
    refine (h.answered r hr c hc hclient).trans (if_congr ?_ rfl rfl)
    rw [hmem]
    refine ⟨Or.inl, fun hin => hin.elim id fun hid => ?_⟩
    -- a request that was not reported before is mapped
    by_contra hnew
    exact absurd ((h.pending r hr hnew).symm.trans (hnone _ hid)) (by simp)
  · intro id data hdata
    obtain ⟨hold, hrest⟩ := h.mapped id data hdata
    refine ⟨fun hin => ((hmem id).mp hin).elim hold fun hid => ?_, hrest⟩
    exact absurd (hdata.symm.trans (hnone id hid)) (by simp)
  · intro r hr hr'
    exact h.pending r hr fun hin => hr' ((hmem _).mpr (Or.inl hin))
  · intro m hm
    obtain ⟨id, hid, hanswers⟩ := h.unreported m hm
    exact ⟨id, (hmem id).mpr (Or.inl hid), hanswers⟩

/-! ## The callbacks -/

/-- Nothing is under way under this session id. -/
theorem Answered.none {s : State} {sessionId : UInt32}
    (h : s.mConfigReqs.lookup sessionId = .none) : Answered s sessionId s := by
  refine ⟨fun _ c' hc' => ⟨c', hc', rfl⟩, rfl, id, ?_, rfl, rfl, Or.inl ⟨rfl, ?_⟩⟩
  · intro id
    split
    · rename_i heq
      rw [heq, h]
    · rfl
  · intro data hdata
    rw [h] at hdata
    cases hdata

/-- The client of the request is gone. -/
theorem Answered.gone {s : State} {sessionId : UInt32} {data : ConfigReqClientData}
    (hdata : s.mConfigReqs.lookup sessionId = some data)
    (h : s.getClient data.clientName = .none) :
    Answered s sessionId (s.eraseConfigReq sessionId) := by
  refine ⟨fun _ c' hc' => ⟨c', hc', rfl⟩, rfl, fun hnumbered => hnumbered.of_eq rfl rfl rfl,
    fun id => IdMap.lookup_erase_eq _ _ _, rfl, rfl, Or.inl ⟨rfl, ?_⟩⟩
  intro data' hdata'
  obtain rfl : data = data' := Option.some.inj (hdata.symm.trans hdata')
  exact h

/-- The client of the request is sent the response, and perhaps something else. -/
theorem Answered.response {s s' : State} {sessionId : UInt32} {data : ConfigReqClientData}
    {c : Client} (hdata : s.mConfigReqs.lookup sessionId = some data)
    (hc : s.getClient data.clientName = some c) (halive : c.id ∉ s.freed)
    (hsid : sessionId ≠ 0) (err : LocationError) (rc : Bool)
    (hkeeps : Keeps (s.onControlResponseCb data.clientName c err data.configMsgId
      sessionId.toNat rc) s') : Answered s sessionId (s'.eraseConfigReq sessionId) := by
  have hmethod : s.onControlResponseCb data.clientName c err data.configMsgId
      sessionId.toNat rc = s.sendOrPurge data.clientName c (.genericResp data.configMsgId err)
        sessionId.toNat rc := method_client hc halive _ _ rc
  rw [hmethod, sendOrPurge] at hkeeps
  cases rc with
  | true =>
    have hresponse : Sent.response
        ⟨c.id, .genericResp data.configMsgId err, sessionId.toNat⟩ = true := by
      have hne : sessionId.toNat ≠ 0 := fun hzero => hsid (UInt32.toNat_inj.mp hzero)
      simpa [Sent.response] using hne
    have hsent := responses_append s
      ⟨c.id, .genericResp data.configMsgId err, sessionId.toNat⟩
    rw [if_pos hresponse] at hsent
    rw [if_pos rfl, deliver, if_pos rfl] at hkeeps
    obtain ⟨hreqs, hasked, hreported, hresponses⟩ :
        _ ∧ _ ∧ _ ∧ _ := by simpa only [configPart, Prod.mk.injEq] using hkeeps.config
    refine ⟨hkeeps.clients, hkeeps.nextClient, ?_, ?_, hasked, hreported,
      Or.inr ⟨data, c, err, hdata, hc, hresponses.trans hsent⟩⟩
    · intro hnumbered
      have hdelivered : Numbered { s with sent := s.sent ++
          [⟨c.id, .genericResp data.configMsgId err, sessionId.toNat⟩] } :=
        hnumbered.of_eq rfl rfl rfl
      exact (hdelivered.keeps hkeeps).of_eq rfl rfl rfl
    · intro id
      rw [← hreqs]
      exact IdMap.lookup_erase_eq _ _ _
  | false =>
    have hpurge : Keeps s s' :=
      (deleteClientbyName_keeps s data.clientName).trans (by simpa using hkeeps)
    have hgone : s'.getClient data.clientName = .none := by
      cases hc' : s'.getClient data.clientName with
      | none => rfl
      | some c' =>
        obtain ⟨d, hd, _⟩ := hkeeps.clients _ c' hc'
        rw [if_neg (by simp), getClient_deleteClientbyName, if_pos rfl] at hd
        cases hd
    obtain ⟨hreqs, hasked, hreported, hresponses⟩ :
        _ ∧ _ ∧ _ ∧ _ := by simpa only [configPart, Prod.mk.injEq] using hpurge.config
    refine ⟨hpurge.clients, hpurge.nextClient, ?_, ?_, hasked, hreported,
      Or.inl ⟨hresponses, ?_⟩⟩
    · exact fun hnumbered => (hnumbered.keeps hpurge).of_eq rfl rfl rfl
    · intro id
      rw [← hreqs]
      exact IdMap.lookup_erase_eq _ _ _
    · intro data' hdata'
      obtain rfl : data = data' := Option.some.inj (hdata.symm.trans hdata')
      exact hgone

theorem onControlResponseCallback_answered {s : State} (hnumbered : Numbered s)
    (hzero : s.mConfigReqs.lookup 0 = none) (err : LocationError) (sessionId : UInt32)
    (rc : Bool) : Answered s sessionId (s.onControlResponseCallback err sessionId rc) := by
  rw [onControlResponseCallback]
  split
  · exact .none ‹_›
  · rename_i data hdata
    split
    · rename_i c hc
      have hsid : sessionId ≠ 0 := by
        rintro rfl
        rw [hzero] at hdata
        cases hdata
      exact .response hdata hc (hnumbered.alive hc) hsid err rc (Keeps.refl _)
    · exact .gone hdata ‹_›

theorem onGnssConfigCallback_answered {s : State} (hnumbered : Numbered s) {sessionId : UInt32}
    (hsid : sessionId ≠ 0) (config : GnssConfig) (rc rc' : Bool) (rcs : String → Bool) :
    Answered s sessionId (s.onGnssConfigCallback sessionId config rc rc' rcs) := by
  rw [onGnssConfigCallback, if_neg hsid]
  split
  · exact .none ‹_›
  · rename_i data hdata
    split
    · rename_i c hc
      exact .response hdata hc (hnumbered.alive hc) hsid .success rc
        (onGnssConfigCb_keeps _ data.clientName c data.configMsgId config rc')
    · exact .gone hdata ‹_›

/-! ## Steps -/

/-- The events that ask for a configuration either map the session id they get or leave the
requests alone. -/
theorem ConfigInv.configRequest {s : State} (h : ConfigInv s) {sessionId : UInt32}
    (hfresh : sessionId ≠ 0 →
      sessionId ∉ s.configRequests.map ConfigRequest.sessionId ∧ sessionId ∉ s.reported)
    (clientName : String) (msgId : ConfigMsgID) (rc : Bool) :
    ConfigInv (s.configRequest clientName msgId sessionId rc) := by
  have hadd := h.addConfigRequestToMap hfresh clientName msgId rc
  cases msgId <;> simp only [State.configRequest] <;> (try split) <;> first | exact hadd | exact h

theorem ConfigInv.registerXtraStatusUpdate {s : State} (h : ConfigInv s) {sessionId : UInt32}
    (hfresh : sessionId ≠ 0 →
      sessionId ∉ s.configRequests.map ConfigRequest.sessionId ∧ sessionId ∉ s.reported)
    (clientName : String) (rc : Bool) :
    ConfigInv (s.registerXtraStatusUpdate clientName sessionId rc) := by
  have hsame : ∀ update,
      ConfigInv ((s.addXtraClient clientName).gnssRegisterXtraStatusUpdate update) :=
    fun _ => h.of_eq rfl rfl rfl rfl
  rw [State.registerXtraStatusUpdate]
  split
  · exact (hsame true).addConfigRequestToMap hfresh clientName _ rc
  · exact hsame s.xtraStatusUpdate

theorem ConfigInv.deregisterXtraStatusUpdate {s : State} (h : ConfigInv s) {sessionId : UInt32}
    (hfresh : sessionId ≠ 0 →
      sessionId ∉ s.configRequests.map ConfigRequest.sessionId ∧ sessionId ∉ s.reported)
    (clientName : String) (rc : Bool) :
    ConfigInv (s.deregisterXtraStatusUpdate clientName sessionId rc) := by
  have hsame : ∀ update,
      ConfigInv ((s.eraseXtraClient clientName).gnssRegisterXtraStatusUpdate update) :=
    fun _ => h.of_eq rfl rfl rfl rfl
  rw [State.deregisterXtraStatusUpdate]
  split
  · split
    · exact (hsame false).addConfigRequestToMap hfresh clientName _ rc
    · exact hsame s.xtraStatusUpdate
  · split
    · exact (hsame s.xtraStatusUpdate).keeps
        (onControlResponseCb_keeps (s.eraseXtraClient clientName) clientName _ _ _ rc)
    · exact hsame s.xtraStatusUpdate

/-- Events that are not about the requests keep the invariant, unless a client registers under
the name of one. -/
theorem ConfigInv.other {s : State} {e : Event} (h : ConfigInv s) (habout : e.aboutConfig = false)
    (hkept : ConfigKept s e) : ConfigInv (next s e) := by
  have hconfig : (next s e).configPart = s.configPart := by
    cases hregisters : e.registers s with
    | false =>
      obtain ⟨t, hframe, hkeeps⟩ := next_keeps hregisters
      exact hkeeps.config.trans (hframe.config habout)
    | true =>
      obtain ⟨n, c, _, _, _, heq⟩ := next_registers hregisters
      rw [heq]
      rfl
  refine h.frame (h.numbered.next e) (by rw [next_nextClient]; omega) hconfig ?_
  intro name c' hc'
  obtain hold | ⟨hnone, hid, _, mClientType, ids, rc, rfl⟩ := next_clients hc'
  · exact Or.inl hold
  · refine Or.inr ⟨hid, fun sessionId data hdata => ?_⟩
    exact hkept hnone ⟨sessionId, data⟩ (AList.mem_lookup_iff.mp hdata)

theorem ConfigInv.lookup_zero {s : State} (h : ConfigInv s) : s.mConfigReqs.lookup 0 = none := by
  cases hdata : s.mConfigReqs.lookup 0 with
  | none => rfl
  | some data =>
    obtain ⟨_, r, hr, hid, _⟩ := h.mapped 0 data hdata
    exact absurd hid (h.made r hr).1

/-- **What one event preserves.** -/
theorem ConfigInv.step {s : State} {e : Event} (h : ConfigInv s) (hhal : HalOk s e)
    (hkept : ConfigKept s e) : ConfigInv (step s e) := by
  have hcontrol : ∀ err sessionId rc, sessionId ∉ s.reported → ConfigInv
      ((s.noteReports [sessionId]).onControlResponseCallback err sessionId rc) := by
    intro err sessionId rc hnew
    have hnumbered : Numbered (s.noteReports [sessionId]) := h.numbered.of_eq rfl rfl rfl
    exact h.report hnew
      (onControlResponseCallback_answered hnumbered h.lookup_zero err sessionId rc)
  have hbegin : e.reports = [] → ConfigInv (s.noteReports e.reports) := by
    intro hnil
    rw [hnil]
    exact h.ignore (by simp)
  have hfresh : e.reports = [] → e.asked ≠ 0 →
      e.asked ∉ (s.noteReports e.reports).configRequests.map ConfigRequest.sessionId ∧
        e.asked ∉ (s.noteReports e.reports).reported := by
    intro hnil
    rw [hnil, noteReports, List.append_nil]
    exact hhal.fresh
  rw [Service.step]
  split
  · cases e with
    | configRequest clientName msgId sessionId rc =>
      exact (hbegin rfl).configRequest (hfresh rfl) clientName msgId rc
    | registerXtraStatusUpdate clientName sessionId rc =>
      exact (hbegin rfl).registerXtraStatusUpdate (hfresh rfl) clientName rc
    | deregisterXtraStatusUpdate clientName sessionId rc =>
      exact (hbegin rfl).deregisterXtraStatusUpdate (hfresh rfl) clientName rc
    | configUserConsent clientName userConsent created sessionId rc =>
      have hoptIn : ConfigInv
          ((s.noteReports (Event.configUserConsent clientName userConsent created sessionId
            rc).reports).setOptIn userConsent created) :=
        (hbegin rfl).of_eq rfl rfl rfl rfl
      exact hoptIn.addConfigRequestToMap (hfresh rfl) clientName _ rc
    | controlResponse err sessionId rc =>
      exact hcontrol err sessionId rc (hhal.once _ (List.mem_singleton.mpr rfl))
    | controlCollectiveResponse resp rc =>
      rw [next, onControlCollectiveResponseCallback.eq_def]
      split
      · rename_i err sessionId
        exact hcontrol err sessionId rc (hhal.once _ (List.mem_singleton.mpr rfl))
      · rename_i hlength
        have hnone : ∀ r ∈ resp, s.mConfigReqs.lookup r.2 = none := by
          refine hkept.resolve_left fun hone => ?_
          obtain ⟨⟨err, sessionId⟩, rfl⟩ := List.length_eq_one_iff.mp hone
          exact hlength err sessionId rfl
        refine h.ignore ?_
        rintro _ hid
        obtain ⟨r, hr, rfl⟩ := List.mem_map.mp hid
        exact hnone r hr
    | gnssConfig sessionId config rc rc' rcs =>
      by_cases hsid : sessionId = 0
      · subst hsid
        have hzero := hbegin rfl
        rw [next, onGnssConfigCallback, if_pos rfl]
        split
        · obtain ⟨unasked, hkeeps⟩ := xtraStatusUpdates_keeps ‹_› rcs
            s.mClientsRegForXtraStatus (s.noteReports [])
          refine ConfigInv.keeps ?_ hkeeps
          exact hzero.of_eq rfl rfl rfl rfl
        · exact hzero
      · have hreports : (Event.gnssConfig sessionId config rc rc' rcs).reports = [sessionId] :=
          if_neg hsid
        rw [hreports]
        have hnumbered : Numbered (s.noteReports [sessionId]) := h.numbered.of_eq rfl rfl rfl
        exact h.report (hhal.once sessionId (by rw [hreports]; exact List.mem_singleton.mpr rfl))
          (onGnssConfigCallback_answered hnumbered hsid config rc rc' rcs)
    | _ =>
      exact (hbegin rfl).other rfl hkept
  · exact h

/-- **Responses are routed** to the clients that asked, in every run in which no client
registers under the name of a request that is under way. -/
theorem config_responses_routed {gnssInterface : Bool} {es : List Event}
    (hhal : EventRun.Meets step HalOk (State.init gnssInterface) es)
    (hkept : EventRun.Meets step ConfigKept (State.init gnssInterface) es) :
    EventRun.Throughout step ConfigSound (State.init gnssInterface) es :=
  (EventRun.throughout_of_meets (C := fun s e => HalOk s e ∧ ConfigKept s e)
    (fun _ _ h hC => h.step hC.1 hC.2) (ConfigInv.init gnssInterface)
    (hhal.and hkept)).imp fun _ h => h.toConfigSound

/-- A client registers, asks twice, gets one answer of each kind and deregisters; another client
of its name asks and is answered. -/
theorem config_responses_routed_sample :
    EventRun.Throughout step ConfigSound (State.init true)
      [.newClient "a" .locationIntegrationApi (0, 0) true,
        .configRequest "a" .configMinGpsWeek 1 true, .configRequest "a" .getMinGpsWeekReq 2 true,
        .controlResponse .success 1 true,
        .gnssConfig 2 ⟨none, some 2000, none, none, none⟩ true true fun _ => true,
        .deleteClient "a", .newClient "a" .locationIntegrationApi (0, 0) true,
        .configRequest "a" .configMinGpsWeek 3 true,
        .controlCollectiveResponse [(.success, 3)] true] :=
  config_responses_routed (by decide +kernel) (by decide +kernel)

/-- **The response reaches the wrong client.**  Client 0 asks and goes; client 1 registers under
its name and gets the response. -/
theorem config_responses_misrouted :
    EventRun.Meets step HalOk (State.init true)
      [.newClient "a" .locationIntegrationApi (0, 0) true,
        .configRequest "a" .configMinGpsWeek 1 true, .deleteClient "a",
        .newClient "a" .locationIntegrationApi (0, 0) true, .controlResponse .success 1 true] ∧
    (EventRun.run step (State.init true)
      [.newClient "a" .locationIntegrationApi (0, 0) true,
        .configRequest "a" .configMinGpsWeek 1 true, .deleteClient "a",
        .newClient "a" .locationIntegrationApi (0, 0) true,
        .controlResponse .success 1 true]).responses =
      [⟨1, .genericResp .configMinGpsWeek .success, 1⟩] ∧
    ¬ EventRun.Throughout step ConfigSound (State.init true)
      [.newClient "a" .locationIntegrationApi (0, 0) true,
        .configRequest "a" .configMinGpsWeek 1 true, .deleteClient "a",
        .newClient "a" .locationIntegrationApi (0, 0) true, .controlResponse .success 1 true] := by
  refine ⟨by decide +kernel, by decide +kernel, fun h => ?_⟩
  obtain ⟨r, hr, _, hclient, _⟩ := h.last.routed
    ⟨1, .genericResp .configMinGpsWeek .success, 1⟩ (by decide +kernel)
  have hrequests : r ∈ [(⟨1, "a", some 0, .configMinGpsWeek⟩ : ConfigRequest)] := hr
  obtain rfl := List.mem_singleton.mp hrequests
  exact absurd hclient (by decide)

end LocationStack.Service
