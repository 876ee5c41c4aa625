import LocationStack.Service.Steps
import LocationStack.Lib.Ledger

/-! # Requests for a fix

A client that asks for a fix waits under its name, in one map for the terrestrial fixes and in
another for the others.  Both are the same for whoever counts the requests: a key is the kind of
the fix and the name (`pending`), and the numbers of the requests that were answered are those
of the fixes that were sent (`answered`).  Each function of the service that is about fixes says
here what it does to these.
-/
namespace LocationStack.Service

open Ipc State

namespace State

/-- The request that waits for a fix of this kind under this name. -/
def pending (s : State) : SingleShotTimerType × String → Option Nat
  | (.terrestrial, name) => (s.mTerrestrialFixTimeoutMap.lookup name).map SingleFixTimer.req
  | (.fused, name) => (s.mSingleFixReqMap.lookup name).map fun info => info.timeoutTimer.req

/-- The requests that were answered, with a fix or without. -/
def answered (s : State) : List Nat := s.fixes.map Sent.answers

variable {s s' s'' : State}

/-! ## Erasing -/

theorem stopNetworkLocation_eq (s : State) :
    ∃ network faults, s.stopNetworkLocation =
      { s with networkLocation := network, faults := faults } := by
  rw [stopNetworkLocation]
  split <;> exact ⟨_, _, rfl⟩

theorem pending_erase_terrestrial (s : State) (name : String)
    (k : SingleShotTimerType × String) :
    pending { s with mTerrestrialFixTimeoutMap := s.mTerrestrialFixTimeoutMap.erase name } k =
      if k = (.terrestrial, name) then none else s.pending k := by
  obtain ⟨kind, n⟩ := k
  cases kind with
  | terrestrial =>
    simp only [pending, IdMap.lookup_erase_eq, Prod.mk.injEq, true_and]
    split <;> rfl
  | fused => simp [pending]

theorem pending_eraseTerrestrialFix (s : State) (name : String)
    (k : SingleShotTimerType × String) :
    (s.eraseTerrestrialFix name).pending k =
      if k = (.terrestrial, name) then none else s.pending k := by
  have hstop : ∀ s : State, s.stopNetworkLocation.pending = s.pending := by
    intro s
    obtain ⟨_, _, heq⟩ := stopNetworkLocation_eq s
    rw [heq]
    rfl
  rw [eraseTerrestrialFix]
  split
  · simp only []
    split
    · rw [hstop]
      exact pending_erase_terrestrial s name k
    · exact pending_erase_terrestrial s name k
  · rename_i hname
    by_cases hk : k = (.terrestrial, name)
    · subst hk
      rw [if_pos rfl, pending, AList.lookup_eq_none.mpr hname]
      rfl
    · rw [if_neg hk]

theorem pending_eraseSingleFix (s : State) (name : String) (k : SingleShotTimerType × String) :
    (s.eraseSingleFix name).pending k = if k = (.fused, name) then none else s.pending k := by
  obtain ⟨kind, n⟩ := k
  cases kind with
  | terrestrial => simp [pending, eraseSingleFix]
  | fused =>
    simp only [pending, eraseSingleFix, IdMap.lookup_erase_eq, Prod.mk.injEq, true_and]
    split <;> rfl

theorem pending_stopTrackingSessionForSingleFixes (s : State) :
    s.stopTrackingSessionForSingleFixes.pending = s.pending := by
  rw [stopTrackingSessionForSingleFixes]
  split <;> rfl

theorem fixes_eraseTerrestrialFix (s : State) (name : String) :
    (s.eraseTerrestrialFix name).fixes = s.fixes := by
  obtain ⟨_, _, _, heq⟩ := eraseTerrestrialFix_eq s name
  rw [heq]
  rfl

theorem fixes_stopTrackingSessionForSingleFixes (s : State) :
    s.stopTrackingSessionForSingleFixes.fixes = s.fixes := by
  obtain ⟨_, _, heq⟩ := stopTrackingSessionForSingleFixes_eq s
  rw [heq]
  rfl

theorem nextReq_eraseTerrestrialFix (s : State) (name : String) :
    (s.eraseTerrestrialFix name).nextReq = s.nextReq := by
  obtain ⟨_, _, _, heq⟩ := eraseTerrestrialFix_eq s name
  rw [heq]

theorem nextReq_stopTrackingSessionForSingleFixes (s : State) :
    s.stopTrackingSessionForSingleFixes.nextReq = s.nextReq := by
  obtain ⟨_, _, heq⟩ := stopTrackingSessionForSingleFixes_eq s
  rw [heq]

/-- A client that is deleted waits for nothing. -/
theorem pending_deleteClientbyName {name : String} {c : Client} (h : s.getClient name = some c)
    (k : SingleShotTimerType × String) :
    (s.deleteClientbyName name).pending k = if k.2 = name then none else s.pending k := by
  have hcleanup : ∀ s : State, (s.cleanup c).pending = s.pending := by
    intro s
    rw [cleanup]
    split <;> rfl
  rw [deleteClientbyName, h]
  simp only []
  rw [hcleanup, pending_stopTrackingSessionForSingleFixes, pending_eraseSingleFix,
    pending_eraseTerrestrialFix]
  obtain ⟨kind, n⟩ := k
  by_cases hn : n = name
  · cases kind <;> simp [hn]
  · simp only [Prod.mk.injEq, hn, and_false, if_false]
    rfl

theorem fixes_deleteClientbyName (s : State) (name : String) :
    (s.deleteClientbyName name).fixes = s.fixes := by
  cases h : s.getClient name with
  | none => rw [deleteClientbyName_none h]
  | some c =>
    obtain ⟨_, _, _, _, _, heq⟩ := deleteClientbyName_eq h
    rw [heq]
    rfl

/-- Requests are withdrawn, at most. -/
theorem Idle.pending (h : Idle s s') (k : SingleShotTimerType × String) (r : Nat)
    (hk : s'.pending k = some r) : s.pending k = some r := by
  induction h generalizing k r with
  | same hfix _ =>
    simp only [fixPart, Prod.mk.injEq] at hfix
    obtain ⟨_, _, hterrestrial, _, _, hfused, _⟩ := hfix
    obtain ⟨kind, n⟩ := k
    cases kind with
    | terrestrial => simpa only [State.pending, hterrestrial] using hk
    | fused => simpa only [State.pending, hfused] using hk
  | delete s name =>
    cases h : s.getClient name with
    | none =>
      rw [deleteClientbyName_none h] at hk
      exact hk
    | some c =>
      rw [pending_deleteClientbyName h] at hk
      split at hk
      · cases hk
      · exact hk
  | trans _ _ ih ih' => exact ih k r (ih' k r hk)

/-- No fix is sent. -/
theorem Idle.fixes (h : Idle s s') : s'.fixes = s.fixes := by
  induction h with
  | same hfix _ =>
    simp only [fixPart, Prod.mk.injEq] at hfix
    exact hfix.2.2.2.2.2.2.2.2
  | delete s name => exact fixes_deleteClientbyName s name
  | trans _ _ ih ih' => exact ih'.trans ih

theorem Idle.nextReq (h : Idle s s') : s'.nextReq = s.nextReq := by
  induction h with
  | same hfix _ =>
    simp only [fixPart, Prod.mk.injEq] at hfix
    exact hfix.2.2.2.2.2.2.2.1
  | delete s name =>
    cases h : s.getClient name with
    | none => rw [deleteClientbyName_none h]
    | some c =>
      obtain ⟨_, _, _, _, _, heq⟩ := deleteClientbyName_eq h
      rw [heq]
  | trans _ _ ih ih' => exact ih'.trans ih

/-! ## Sending -/

/-- The service sends these messages, and perhaps comes to harm. -/
def Delivers (new : List Sent) (s s' : State) : Prop :=
  ∃ faults, s' = { s with faults := s.faults ++ faults, sent := s.sent ++ new }

theorem Delivers.refl (s : State) : Delivers [] s s := ⟨[], by simp⟩

theorem Delivers.trans {new new' : List Sent} (h : Delivers new s s')
    (h' : Delivers new' s' s'') : Delivers (new ++ new') s s'' := by
  obtain ⟨faults, rfl⟩ := h
  obtain ⟨faults', rfl⟩ := h'
  exact ⟨faults ++ faults', by simp only [List.append_assoc]⟩

theorem Delivers.pending {new : List Sent} (h : Delivers new s s') : s'.pending = s.pending := by
  obtain ⟨_, rfl⟩ := h
  rfl

theorem Delivers.getClient {new : List Sent} (h : Delivers new s s') (name : String) :
    s'.getClient name = s.getClient name := by
  obtain ⟨_, rfl⟩ := h
  rfl

theorem Delivers.nextReq {new : List Sent} (h : Delivers new s s') : s'.nextReq = s.nextReq := by
  obtain ⟨_, rfl⟩ := h
  rfl

theorem Delivers.fixes {new : List Sent} (h : Delivers new s s')
    (hnew : ∀ m ∈ new, m.fix = true) : s'.fixes = s.fixes ++ new := by
  obtain ⟨_, rfl⟩ := h
  exact (List.filter_append ..).trans (congrArg _ (List.filter_eq_self.mpr hnew))

theorem deliver_delivers (s : State) (c : Client) (msg : Msg) (answers : Nat) (rc : Bool) :
    ∃ new, Delivers new s (s.deliver c msg answers rc) ∧
      (new = [] ∨ new = [⟨c.id, msg, answers⟩]) := by
  rw [deliver]
  split
  · exact ⟨_, ⟨[], by simp only [List.append_nil]⟩, Or.inr rfl⟩
  · exact ⟨[], .refl s, Or.inl rfl⟩

theorem fault_delivers (s : State) (f : Fault) : Delivers [] s (s.fault f) :=
  ⟨[f], by simp only [List.append_nil]; rfl⟩

theorem sendTerrestrialFix_delivers (s : State) (c : Client) (err : LocationError)
    (location : Location) (answers : Nat) (rc : Bool) :
    ∃ new, Delivers new s (s.sendTerrestrialFix c err location answers rc) ∧
      (new = [] ∨ new = [⟨c.id, .singleTerrestrialPos err location, answers⟩]) := by
  rw [sendTerrestrialFix]
  split
  · exact ⟨[], fault_delivers s _, Or.inl rfl⟩
  · exact deliver_delivers s c _ answers rc

theorem sendSingleFusedFix_delivers (s : State) (c : Client) (err : LocationError)
    (location : Location) (answers : Nat) (rc : Bool) :
    ∃ new, Delivers new s (s.sendSingleFusedFix c err location answers rc) ∧
      (new = [] ∨ new = [⟨c.id, .singlePos err location, answers⟩]) := by
  rw [sendSingleFusedFix]
  split
  · exact ⟨[], fault_delivers s _, Or.inl rfl⟩
  · exact deliver_delivers s c _ answers rc

theorem sendSingleFix_delivers (s : State) (clientName : String) (err : LocationError)
    (location : Location) (answers : Nat) (rc : Bool) :
    ∃ new, Delivers new s (s.sendSingleFix clientName err location answers rc) ∧
      (new = [] ∨ ∃ c, s.getClient clientName = some c ∧
        new = [⟨c.id, .singlePos err location, answers⟩]) := by
  rw [sendSingleFix]
  split
  · rename_i c hc
    obtain ⟨new, hsend, hnew⟩ := sendSingleFusedFix_delivers s c err location answers rc
    exact ⟨new, hsend, hnew.imp_right fun h => ⟨c, hc, h⟩⟩
  · exact ⟨[], .refl s, Or.inl rfl⟩

/-- The loop over the requests for a terrestrial fix sends at most one to each. -/
theorem terrestrialFixes_delivers (location : Location) (rcs : String → Bool)
    (requests : List (Sigma fun _ : String => SingleFixTimer)) (s : State) :
    ∃ new, Delivers new s (terrestrialFixes location rcs requests s) ∧
      (new.map Sent.answers).Sublist (requests.map fun r => r.2.req) ∧
      ∀ m ∈ new, m.msg = .singleTerrestrialPos .success location ∧
        ∃ r ∈ requests, m.answers = r.2.req ∧
          ∃ c, s.getClient r.1 = some c ∧ m.client = c.id := by
  induction requests generalizing s with
  | nil => exact ⟨[], .refl s, List.Sublist.refl _, fun _ hm => absurd hm List.not_mem_nil⟩
  | cons request rest ih =>
    obtain ⟨name, timer⟩ := request
    rw [terrestrialFixes]
    split
    · rename_i c hc
      obtain ⟨new, hsend, hnew⟩ := sendTerrestrialFix_delivers s c .success location timer.req
        (rcs name)
      obtain ⟨later, hrest, hsub, hmsg⟩ := ih (s.sendTerrestrialFix c .success location timer.req
        (rcs name))
      refine ⟨new ++ later, hsend.trans hrest, ?_, ?_⟩
      · obtain rfl | rfl := hnew
        · exact hsub.cons timer.req
        · exact hsub.cons_cons timer.req
      · intro m hm
        obtain hm | hm := List.mem_append.mp hm
        · obtain rfl | rfl := hnew
          · cases hm
          · obtain rfl := List.mem_singleton.mp hm
            exact ⟨rfl, ⟨name, timer⟩, List.mem_cons_self, rfl, c, hc, rfl⟩
        · obtain ⟨hfix, r, hr, hanswers, c', hc', hid⟩ := hmsg m hm
          rw [hsend.getClient] at hc'
          exact ⟨hfix, r, List.mem_cons_of_mem _ hr, hanswers, c', hc', hid⟩
    · obtain ⟨new, hrest, hsub, hmsg⟩ := ih s
      refine ⟨new, hrest, hsub.cons timer.req, fun m hm => ?_⟩
      obtain ⟨hfix, r, hr, hclient⟩ := hmsg m hm
      exact ⟨hfix, r, List.mem_cons_of_mem _ hr, hclient⟩

/-- The requests that a report is accurate enough for. -/
def served (location : Location) (requests : List (Sigma fun _ : String => SingleFixReqInfo)) :
    List (Sigma fun _ : String => SingleFixReqInfo) :=
  requests.filter fun r => CFloat.lt location.accuracy r.2.horQoS

/-- The loop over the requests for a single fix erases those that it serves, and sends at most
one fix to each. -/
theorem singleFixes_delivers (location : Location) (rcs : String → Bool)
    (requests : List (Sigma fun _ : String => SingleFixReqInfo)) (s : State) :
    ∃ new, Delivers new
        { s with
          mSingleFixReqMap :=
            IdMap.eraseAll s.mSingleFixReqMap ((served location requests).map Sigma.fst) }
        (singleFixes location rcs requests s) ∧
      (new.map Sent.answers).Sublist
        ((served location requests).map fun r => r.2.timeoutTimer.req) ∧
      ∀ m ∈ new, m.msg = .singlePos .success location ∧
        ∃ r ∈ served location requests, m.answers = r.2.timeoutTimer.req ∧
          ∃ c, s.getClient r.1 = some c ∧ m.client = c.id := by
  induction requests generalizing s with
  | nil => exact ⟨[], .refl s, List.Sublist.refl _, fun _ hm => absurd hm List.not_mem_nil⟩
  | cons request rest ih =>
    obtain ⟨name, info⟩ := request
    rw [singleFixes]
    split
    · rename_i hlt
      have hserved : served location (⟨name, info⟩ :: rest) =
          ⟨name, info⟩ :: served location rest := List.filter_cons_of_pos hlt
      rw [hserved]
      obtain ⟨new, ⟨faults, hsend⟩, hnew⟩ := sendSingleFix_delivers s name .success location
        info.timeoutTimer.req (rcs name)
      rw [hsend]
      obtain ⟨later, ⟨faults', hrest⟩, hsub, hmsg⟩ := ih (eraseSingleFix
        { s with faults := s.faults ++ faults, sent := s.sent ++ new } name)
      refine ⟨new ++ later, ⟨faults ++ faults', ?_⟩, ?_, ?_⟩
      · rw [hrest]
        simp only [eraseSingleFix, List.append_assoc, List.map_cons, IdMap.eraseAll_cons]
      · obtain rfl | ⟨c, _, rfl⟩ := hnew
        · exact hsub.cons info.timeoutTimer.req
        · exact hsub.cons_cons info.timeoutTimer.req
      · intro m hm
        obtain hm | hm := List.mem_append.mp hm
        · obtain rfl | ⟨c, hc, rfl⟩ := hnew
          · cases hm
          · obtain rfl := List.mem_singleton.mp hm
            exact ⟨rfl, ⟨name, info⟩, List.mem_cons_self, rfl, c, hc, rfl⟩
        · obtain ⟨hfix, r, hr, hanswers, hclient⟩ := hmsg m hm
          exact ⟨hfix, r, List.mem_cons_of_mem _ hr, hanswers, hclient⟩
    · rename_i hlt
      have hserved : served location (⟨name, info⟩ :: rest) = served location rest :=
        List.filter_cons_of_neg hlt
      rw [hserved]
      exact ih s

/-! ## Answers -/

/-- The service answers requests that wait, with these messages to those that wait, and may
withdraw others. -/
structure Answers (new : List Sent) (s s' : State) : Prop where
  fixes : s'.fixes = s.fixes ++ new
  nextReq : s'.nextReq = s.nextReq
  pending : ∀ k r, s'.pending k = some r → s.pending k = some r
  nodup : (new.map Sent.answers).Nodup
  gone : ∀ m ∈ new, ∃ k, s.pending k = some m.answers ∧ s'.pending k = none ∧
    ∃ c, s.getClient k.2 = some c ∧ m.client = c.id

/-- It answers nothing. -/
theorem Answers.nothing (hfixes : s'.fixes = s.fixes) (hnext : s'.nextReq = s.nextReq)
    (hpending : ∀ k r, s'.pending k = some r → s.pending k = some r) : Answers [] s s' :=
  ⟨by rw [hfixes, List.append_nil], hnext, hpending, List.nodup_nil,
    fun _ hm => absurd hm List.not_mem_nil⟩

theorem Answers.idle (h : Idle s s') : Answers [] s s' := .nothing h.fixes h.nextReq h.pending

theorem Answers.refl (s : State) : Answers [] s s := .nothing rfl rfl fun _ _ h => h

/-- It answers one request that waits, or just withdraws it. -/
theorem Answers.one {new : List Sent} {k : SingleShotTimerType × String} {r : Nat}
    (hwaits : s.pending k = some r) (hfixes : s'.fixes = s.fixes ++ new)
    (hnext : s'.nextReq = s.nextReq)
    (hpending : ∀ k', s'.pending k' = if k' = k then none else s.pending k')
    (hnew : new = [] ∨ ∃ c msg, s.getClient k.2 = some c ∧ new = [⟨c.id, msg, r⟩]) :
    Answers new s s' := by
  have hsub : ∀ k' r', s'.pending k' = some r' → s.pending k' = some r' := by
    intro k' r' h
    rw [hpending] at h
    split at h
    · cases h
    · exact h
  obtain rfl | ⟨c, _, hc, rfl⟩ := hnew
  · exact .nothing (by rw [hfixes, List.append_nil]) hnext hsub
  · refine ⟨hfixes, hnext, hsub, List.nodup_singleton _, fun m hm => ?_⟩
    obtain rfl := List.mem_singleton.mp hm
    exact ⟨k, hwaits, by rw [hpending, if_pos rfl], c, hc, rfl⟩

/-- The numbers of the requests and their answers fit together. -/
def Booked (s : State) : Prop := Ledger s.pending s.answered s.nextReq

theorem Booked.init (gnssInterface : Bool) : Booked (State.init gnssInterface) := by
  have hnone : (State.init gnssInterface).pending = fun _ => none := by
    funext ⟨kind, name⟩
    cases kind <;> rfl
  rw [Booked, hnone]
  exact Ledger.empty

theorem Booked.answers {new : List Sent} (h : Booked s) (ha : Answers new s s') : Booked s' := by
  have hbooked : Ledger s'.pending (s.answered ++ new.map Sent.answers) s.nextReq := by
    refine Ledger.answer h ha.nodup ha.pending fun r hr => ?_
    obtain ⟨m, hm, rfl⟩ := List.mem_map.mp hr
    obtain ⟨k, hk, hnone, _⟩ := ha.gone m hm
    exact ⟨k, hk, hnone⟩
  rw [Booked, ha.nextReq, answered, ha.fixes, List.map_append]
  exact hbooked

/-- The requests in the map for terrestrial fixes have numbers of their own. -/
theorem Booked.terrestrial_nodup (h : Booked s) :
    (s.mTerrestrialFixTimeoutMap.entries.map fun r => r.2.req).Nodup := by
  refine List.Nodup.map_on ?_ s.mTerrestrialFixTimeoutMap.nodupKeys.nodup
  rintro ⟨name, timer⟩ hr ⟨name', timer'⟩ hr' heq
  have hlookup := AList.mem_lookup_iff.mpr hr
  have hlookup' := AList.mem_lookup_iff.mpr hr'
  have hkey : s.pending (.terrestrial, name) = some timer.req := by rw [pending, hlookup]; rfl
  have hkey' : s.pending (.terrestrial, name') = some timer.req := by
    rw [pending, hlookup']
    exact congrArg some heq.symm
  obtain ⟨_, rfl⟩ := Prod.mk.inj (h.distinct hkey hkey')
  obtain rfl := Option.some.inj (hlookup.symm.trans hlookup')
  rfl

/-- And so have those in the map for the others. -/
theorem Booked.fused_nodup (h : Booked s) :
    (s.mSingleFixReqMap.entries.map fun r => r.2.timeoutTimer.req).Nodup := by
  refine List.Nodup.map_on ?_ s.mSingleFixReqMap.nodupKeys.nodup
  rintro ⟨name, info⟩ hr ⟨name', info'⟩ hr' heq
  have hlookup := AList.mem_lookup_iff.mpr hr
  have hlookup' := AList.mem_lookup_iff.mpr hr'
  have hkey : s.pending (.fused, name) = some info.timeoutTimer.req := by rw [pending, hlookup]; rfl
  have hkey' : s.pending (.fused, name') = some info.timeoutTimer.req := by
    rw [pending, hlookup']
    exact congrArg some heq.symm
  obtain ⟨_, rfl⟩ := Prod.mk.inj (h.distinct hkey hkey')
  obtain rfl := Option.some.inj (hlookup.symm.trans hlookup')
  rfl

/-! ## Timeouts -/

/-- A timeout answers the request under its name, if there is one. -/
theorem gtpFixRequestTimeout_answers (s : State) (clientName : String) (fired : Nat)
    (rc : Bool) :
    ∃ new, Answers new s (s.gtpFixRequestTimeout clientName fired rc) ∧
      ∀ m ∈ new, m.msg = .singleTerrestrialPos .timeout .zero := by
  rw [gtpFixRequestTimeout]
  split
  · exact ⟨[], .refl s, fun _ hm => absurd hm List.not_mem_nil⟩
  · rename_i timer htimer
    have hwaits : s.pending (.terrestrial, clientName) = some timer.req := by
      rw [pending, htimer]
      rfl
    simp only []
    split
    · rename_i c hc
      obtain ⟨new, hsend, hnew⟩ := sendTerrestrialFix_delivers (s.noteTimeout fired timer.req) c
        .timeout .zero timer.req rc
      have hmsg : ∀ m ∈ new, m.msg = .singleTerrestrialPos .timeout .zero := by
        intro m hm
        obtain rfl | rfl := hnew
        · cases hm
        · rw [List.mem_singleton.mp hm]
      refine ⟨new, .one hwaits ?_ ?_ ?_ (hnew.imp_right fun h => ⟨c, _, hc, h⟩), hmsg⟩
      · rw [fixes_eraseTerrestrialFix, hsend.fixes fun m hm => by rw [Sent.fix, hmsg m hm]; rfl]
        rfl
      · rw [nextReq_eraseTerrestrialFix, hsend.nextReq]
        rfl
      · intro k
        rw [pending_eraseTerrestrialFix, hsend.pending]
        rfl
    · refine ⟨[], .one hwaits ?_ ?_ ?_ (Or.inl rfl), fun _ hm => absurd hm List.not_mem_nil⟩
      · rw [fixes_eraseTerrestrialFix, List.append_nil]
        rfl
      · rw [nextReq_eraseTerrestrialFix]
        rfl
      · intro k
        rw [pending_eraseTerrestrialFix]
        rfl

theorem singleFixRequestTimeout_answers (s : State) (clientName : String) (fired : Nat)
    (rc : Bool) :
    ∃ new, Answers new s (s.singleFixRequestTimeout clientName fired rc) ∧
      ∀ m ∈ new, m.msg = .singlePos .timeout s.mSingleFixLastLocation := by
  rw [singleFixRequestTimeout]
  split
  · exact ⟨[], .refl s, fun _ hm => absurd hm List.not_mem_nil⟩
  · rename_i info hinfo
    have hwaits : s.pending (.fused, clientName) = some info.timeoutTimer.req := by
      rw [pending, hinfo]
      rfl
    obtain ⟨new, hsend, hnew⟩ := sendSingleFix_delivers
      (s.noteTimeout fired info.timeoutTimer.req) clientName .timeout s.mSingleFixLastLocation
      info.timeoutTimer.req rc
    have hmsg : ∀ m ∈ new, m.msg = .singlePos .timeout s.mSingleFixLastLocation := by
      intro m hm
      obtain rfl | ⟨c, _, rfl⟩ := hnew
      · cases hm
      · rw [List.mem_singleton.mp hm]
    refine ⟨new, .one hwaits ?_ ?_ ?_ (hnew.imp_right (Exists.imp fun _ h => ⟨_, h⟩)), hmsg⟩
    · rw [fixes_stopTrackingSessionForSingleFixes]
      exact hsend.fixes fun m hm => by rw [Sent.fix, hmsg m hm]; rfl
    · rw [nextReq_stopTrackingSessionForSingleFixes]
      exact hsend.nextReq
    · intro k
      rw [pending_stopTrackingSessionForSingleFixes, pending_eraseSingleFix, hsend.pending]
      rfl

theorem procMsg_answers (s : State) (rc : Bool) :
    ∃ new, Answers new s (s.procMsg rc) ∧ ∀ m ∈ new,
      m.msg = .singleTerrestrialPos .timeout .zero ∨
        m.msg = .singlePos .timeout s.mSingleFixLastLocation := by
  rw [procMsg]
  split
  · exact ⟨[], .refl s, fun _ hm => absurd hm List.not_mem_nil⟩
  · rename_i msg rest _
    split
    · obtain ⟨new, ha, hmsg⟩ := gtpFixRequestTimeout_answers { s with mMsgTask := rest }
        msg.mClientName msg.req rc
      exact ⟨new, ⟨ha.fixes, ha.nextReq, ha.pending, ha.nodup, ha.gone⟩,
        fun m hm => Or.inl (hmsg m hm)⟩
    · obtain ⟨new, ha, hmsg⟩ := singleFixRequestTimeout_answers { s with mMsgTask := rest }
        msg.mClientName msg.req rc
      exact ⟨new, ⟨ha.fixes, ha.nextReq, ha.pending, ha.nodup, ha.gone⟩,
        fun m hm => Or.inr (hmsg m hm)⟩

/-- The timer that fires stays with its request. -/
theorem pending_timeOutCallback (s : State) (clientName : String)
    (timerType : SingleShotTimerType) :
    (s.timeOutCallback clientName timerType).pending = s.pending := by
  funext ⟨kind, name⟩
  cases timerType with
  | terrestrial =>
    simp only [timeOutCallback]
    split
    · rename_i hlookup
      cases kind with
      | terrestrial =>
        simp only [pending, IdMap.lookup_insert_eq]
        split
        · rename_i hname
          rw [hname, hlookup]
          rfl
        · rfl
      | fused => rfl
    · rfl
  | fused =>
    simp only [timeOutCallback]
    split
    · rename_i hlookup
      cases kind with
      | terrestrial => rfl
      | fused =>
        simp only [pending, IdMap.lookup_insert_eq]
        split
        · rename_i hname
          rw [hname, hlookup]
          rfl
        · rfl
    · rfl

theorem timeOutCallback_answers (s : State) (clientName : String)
    (timerType : SingleShotTimerType) :
    Answers [] s (s.timeOutCallback clientName timerType) := by
  have hfixes : (s.timeOutCallback clientName timerType).fixes = s.fixes := by
    cases timerType <;> simp only [timeOutCallback] <;> split <;> rfl
  have hnext : (s.timeOutCallback clientName timerType).nextReq = s.nextReq := by
    cases timerType <;> simp only [timeOutCallback] <;> split <;> rfl
  exact .nothing hfixes hnext fun k r hk => by rwa [pending_timeOutCallback] at hk

/-! ## Reports -/

/-- A report for terrestrial fixes answers all the requests for one, or nothing. -/
theorem onGtpWwanTrackingCallback_answers (h : Booked s) (location : Location)
    (rcs : String → Bool) :
    ∃ new, Answers new s (s.onGtpWwanTrackingCallback location rcs) ∧
      ∀ m ∈ new, m.msg = .singleTerrestrialPos .success location ∧
        s.mOptInTerrestrialService = 1 := by
  rw [onGtpWwanTrackingCallback]
  split
  · rename_i hasked
    obtain ⟨new, hsend, hsub, hmsg⟩ :=
      terrestrialFixes_delivers location rcs s.mTerrestrialFixTimeoutMap.entries s
    obtain ⟨network, faults, hstop⟩ := stopNetworkLocation_eq (terrestrialFixes location rcs
      s.mTerrestrialFixTimeoutMap.entries s).clearTerrestrialFixes
    have hpending : ∀ k, (terrestrialFixes location rcs s.mTerrestrialFixTimeoutMap.entries
        s).clearTerrestrialFixes.stopNetworkLocation.pending k =
          if k.1 = .terrestrial then none else s.pending k := by
      obtain ⟨_, heq⟩ := hsend
      rintro ⟨kind, name⟩
      rw [hstop, heq]
      cases kind <;> rfl
    refine ⟨new, ⟨?_, ?_, ?_, hsub.nodup h.terrestrial_nodup, ?_⟩,
      fun m hm => ⟨(hmsg m hm).1, hasked.2.2⟩⟩
    · rw [hstop]
      exact hsend.fixes fun m hm => by rw [Sent.fix, (hmsg m hm).1]; rfl
    · rw [hstop]
      exact hsend.nextReq
    · intro k r hk
      rw [hpending] at hk
      split at hk
      · cases hk
      · exact hk
    · intro m hm
      obtain ⟨_, ⟨name, timer⟩, hr, hanswers, hclient⟩ := hmsg m hm
      refine ⟨(.terrestrial, name), ?_, by rw [hpending, if_pos rfl], hclient⟩
      rw [pending, AList.mem_lookup_iff.mpr hr, hanswers]
      rfl
  · exact ⟨[], .refl s, fun _ hm => absurd hm List.not_mem_nil⟩

/-- A report answers the requests that it is accurate enough for. -/
theorem onGnssLocationInfoCb_answers (h : Booked s) (location : Location)
    (rcs : String → Bool) :
    ∃ new, Answers new s (s.onGnssLocationInfoCb location rcs) ∧
      ∀ m ∈ new, m.msg = .singlePos .success location ∧
        ∃ name info c, s.mSingleFixReqMap.lookup name = some info ∧
          m.answers = info.timeoutTimer.req ∧ s.getClient name = some c ∧ m.client = c.id ∧
            CFloat.lt location.accuracy info.horQoS = true := by
  rw [onGnssLocationInfoCb]
  simp only []
  split
  · obtain ⟨new, hsend, hsub, hmsg⟩ := singleFixes_delivers location rcs
      s.mSingleFixReqMap.entries { s with mSingleFixLastLocation := location }
    have hserved : ∀ {r}, r ∈ served location s.mSingleFixReqMap.entries →
        s.mSingleFixReqMap.lookup r.1 = some r.2 ∧
          CFloat.lt location.accuracy r.2.horQoS = true := by
      intro r hr
      obtain ⟨hmem, hlt⟩ := List.mem_filter.mp hr
      exact ⟨AList.mem_lookup_iff.mpr hmem, hlt⟩
    have hpending : ∀ k, (singleFixes location rcs s.mSingleFixReqMap.entries
        { s with
          mSingleFixLastLocation := location }).stopTrackingSessionForSingleFixes.pending k =
            if k.1 = .fused ∧ k.2 ∈ (served location s.mSingleFixReqMap.entries).map Sigma.fst
            then none else s.pending k := by
      rintro ⟨kind, name⟩
      rw [pending_stopTrackingSessionForSingleFixes, hsend.pending]
      cases kind with
      | terrestrial => simp only [reduceCtorEq, false_and, if_false]; rfl
      | fused =>
        simp only [pending, IdMap.lookup_eraseAll, true_and]
        split <;> rfl
    refine ⟨new, ⟨?_, ?_, ?_, ?_, ?_⟩, ?_⟩
    · rw [fixes_stopTrackingSessionForSingleFixes]
      exact hsend.fixes fun m hm => by rw [Sent.fix, (hmsg m hm).1]; rfl
    · rw [nextReq_stopTrackingSessionForSingleFixes]
      exact hsend.nextReq
    · intro k r hk
      rw [hpending] at hk
      split at hk
      · cases hk
      · exact hk
    · exact (hsub.trans (List.filter_sublist.map _)).nodup h.fused_nodup
    · intro m hm
      obtain ⟨_, r, hr, hanswers, hclient⟩ := hmsg m hm
      refine ⟨(.fused, r.1), ?_, ?_, hclient⟩
      · rw [pending, (hserved hr).1, hanswers]
        rfl
      · rw [hpending, if_pos ⟨rfl, List.mem_map_of_mem hr⟩]
    · intro m hm
      obtain ⟨hfix, r, hr, hanswers, c, hc, hid⟩ := hmsg m hm
      exact ⟨hfix, r.1, r.2, c, (hserved hr).1, hanswers, hc, hid, (hserved hr).2⟩
  · refine ⟨[], .nothing ?_ ?_ ?_, fun _ hm => absurd hm List.not_mem_nil⟩
    · rw [fixes_stopTrackingSessionForSingleFixes]
      rfl
    · rw [nextReq_stopTrackingSessionForSingleFixes]
    · intro k r hk
      rwa [pending_stopTrackingSessionForSingleFixes] at hk

/-! ## New requests -/

/-- A new request waits, in the place of an older one. -/
structure Asks (k : SingleShotTimerType × String) (s s' : State) : Prop where
  fixes : s'.fixes = s.fixes
  nextReq : s'.nextReq = s.nextReq + 1
  pending : ∀ k', s'.pending k' = if k' = k then some s.nextReq else s.pending k'

/-- A new request does not wait; its client may be told. -/
structure Refuses (name : String) (new : List Sent) (s s' : State) : Prop where
  fixes : s'.fixes = s.fixes ++ new
  nextReq : s'.nextReq = s.nextReq + 1
  pending : s'.pending = s.pending
  told : new = [] ∨ ∃ c, s.getClient name = some c ∧
    new = [⟨c.id, .singleTerrestrialPos .notSupported .zero, s.nextReq⟩]

theorem Booked.asks {k : SingleShotTimerType × String} (h : Booked s) (ha : Asks k s s') :
    Booked s' := by
  rw [Booked, answered, ha.fixes, ha.nextReq]
  have hnew : s'.pending k = some s.nextReq := by rw [ha.pending, if_pos rfl]
  refine Ledger.issue h hnew fun k' hk' => ?_
  rw [ha.pending, if_neg hk']

theorem Booked.refuses {name : String} {new : List Sent} (h : Booked s)
    (hr : Refuses name new s s') : Booked s' := by
  rw [Booked, answered, hr.fixes, hr.nextReq, hr.pending]
  obtain rfl | ⟨c, _, rfl⟩ := hr.told
  · rw [List.append_nil]
    exact Ledger.skip h
  · rw [List.map_append]
    exact Ledger.refuse h

theorem getSingleTerrestrialPos_refuses (h : s.mOptInTerrestrialService ≠ 1)
    (clientName : String) (rc : Bool) :
    ∃ new, Refuses clientName new s (s.getSingleTerrestrialPos clientName rc) := by
  rw [getSingleTerrestrialPos, if_pos h]
  split
  · rename_i c hc
    obtain ⟨new, hsend, hnew⟩ :=
      sendTerrestrialFix_delivers s c .notSupported .zero s.nextReq rc
    refine ⟨new, ?_, ?_, hsend.pending, hnew.imp_right fun h => ⟨c, hc, h⟩⟩
    · refine hsend.fixes fun m hm => ?_
      obtain rfl | rfl := hnew
      · cases hm
      · rw [List.mem_singleton.mp hm]
        rfl
    · exact congrArg (· + 1) hsend.nextReq
  · exact ⟨[], (List.append_nil _).symm, rfl, rfl, Or.inl rfl⟩

theorem addTerrestrialFix_asks (s : State) (clientName : String) :
    Asks (.terrestrial, clientName) s (s.addTerrestrialFix clientName).countReq := by
  refine ⟨rfl, rfl, ?_⟩
  rintro ⟨kind, name⟩
  cases kind with
  | terrestrial =>
    simp only [pending, countReq, addTerrestrialFix, IdMap.lookup_insert_eq,
      IdMap.lookup_erase_eq, Prod.mk.injEq, true_and]
    by_cases hname : name = clientName
    · rw [if_pos hname, if_pos hname]
      rfl
    · rw [if_neg hname, if_neg hname, if_neg hname]
  | fused => rfl

theorem getSingleTerrestrialPos_asks (h : s.mOptInTerrestrialService = 1) (clientName : String)
    (rc : Bool) :
    Asks (.terrestrial, clientName) s (s.getSingleTerrestrialPos clientName rc) := by
  have hadd := addTerrestrialFix_asks s clientName
  rw [getSingleTerrestrialPos, if_neg (not_not_intro h)]
  split
  · exact hadd
  · rw [startNetworkLocation]
    split <;> exact ⟨hadd.fixes, hadd.nextReq, hadd.pending⟩

/-- A single fix is asked for, or it is cancelled. -/
theorem getSinglePos_asks {clientName : String} {horQoS : CFloat} {timeoutMsec : UInt32}
    {created : Bool} (h : (s.mSingleFixLocationApi || created) && (horQoS.nonzero &&
      timeoutMsec != 0)) (trackingId : UInt32) :
    Asks (.fused, clientName) s
      (s.getSinglePos clientName horQoS timeoutMsec created trackingId) := by
  simp only [Bool.and_eq_true, Bool.or_eq_true, bne_iff_ne] at h
  have hapi : ¬ (s.mSingleFixLocationApi = false ∧ created = false) := by
    rintro ⟨hno, hnot⟩
    simp [hno, hnot] at h
  rw [getSinglePos, if_neg hapi]
  simp only []
  rw [if_pos h.2]
  refine ⟨rfl, rfl, ?_⟩
  rintro ⟨kind, name⟩
  cases kind with
  | terrestrial => rfl
  | fused =>
    simp only [pending, countReq, addSingleFix, eraseSingleFix, IdMap.lookup_insert_eq,
      IdMap.lookup_erase_eq, Prod.mk.injEq, true_and]
    by_cases hname : name = clientName
    · rw [if_pos hname, if_pos hname]
      rfl
    · rw [if_neg hname, if_neg hname, if_neg hname]

theorem getSinglePos_answers {clientName : String} {horQoS : CFloat} {timeoutMsec : UInt32}
    {created : Bool} (h : ¬ ((s.mSingleFixLocationApi || created) && (horQoS.nonzero &&
      timeoutMsec != 0))) (trackingId : UInt32) :
    Answers [] s (s.getSinglePos clientName horQoS timeoutMsec created trackingId) := by
  rw [getSinglePos]
  split
  · exact .refl s
  · rename_i hapi
    have hasked : ¬ (horQoS.nonzero = true ∧ timeoutMsec ≠ 0) := by
      intro hasked
      refine h ?_
      have : s.mSingleFixLocationApi = true ∨ created = true := by
        cases hno : s.mSingleFixLocationApi <;> cases hnot : created <;> simp_all
      simp [hasked.1, hasked.2, this]
    simp only []
    rw [if_neg hasked]
    refine .nothing ?_ ?_ ?_
    · rw [fixes_stopTrackingSessionForSingleFixes]
      rfl
    · rw [nextReq_stopTrackingSessionForSingleFixes]
      rfl
    · intro k r hk
      rw [pending_stopTrackingSessionForSingleFixes, pending_eraseSingleFix] at hk
      split at hk
      · cases hk
      · exact hk

end State

/-- The request that an event makes. -/
def Event.asks (s : State) : Event → Option (SingleShotTimerType × String)
  | .getSingleTerrestrialPos clientName _ =>
    if s.mOptInTerrestrialService = 1 then some (.terrestrial, clientName) else none
  | .getSinglePos clientName horQoS timeoutMsec created _ =>
    if (s.mSingleFixLocationApi || created) && (horQoS.nonzero && timeoutMsec != 0) then
      some (.fused, clientName)
    else none
  | _ => none

/-- The message answers a request of the client that it is sent to, one that waits or the one
just made.  A single fix is a report that is accurate enough for that client; a terrestrial fix
has the consent of the user. -/
structure Event.Earned (e : Event) (s : State) (m : Sent) : Prop where
  addressed : ∃ name c, s.getClient name = some c ∧ m.client = c.id ∧
    ((∃ kind, s.pending (kind, name) = some m.answers) ∨
      (∃ rc, e = .getSingleTerrestrialPos name rc) ∧ m.answers = s.nextReq)
  single : ∀ location, m.msg = .singlePos .success location →
    (∃ rcs, e = .gnssLocationInfo location rcs) ∧
      ∃ name info c, s.mSingleFixReqMap.lookup name = some info ∧
        m.answers = info.timeoutTimer.req ∧ s.getClient name = some c ∧ m.client = c.id ∧
          CFloat.lt location.accuracy info.horQoS = true
  terrestrial : ∀ location, m.msg = .singleTerrestrialPos .success location →
    s.mOptInTerrestrialService = 1

theorem Event.Earned.nothing (e : Event) (s : State) : ∀ m ∈ ([] : List Sent), e.Earned s m :=
  fun _ hm => absurd hm List.not_mem_nil

/-- An answer with these contents is earned. -/
theorem Event.Earned.answers {e : Event} {s s' : State} {new : List Sent}
    (ha : State.Answers new s s') {m : Sent} (hm : m ∈ new)
    (hsingle : ∀ location, m.msg = .singlePos .success location →
      (∃ rcs, e = .gnssLocationInfo location rcs) ∧
        ∃ name info c, s.mSingleFixReqMap.lookup name = some info ∧
          m.answers = info.timeoutTimer.req ∧ s.getClient name = some c ∧ m.client = c.id ∧
            CFloat.lt location.accuracy info.horQoS = true)
    (hterrestrial : ∀ location, m.msg = .singleTerrestrialPos .success location →
      s.mOptInTerrestrialService = 1) : e.Earned s m := by
  obtain ⟨⟨kind, name⟩, hk, _, c, hc, hid⟩ := ha.gone m hm
  exact ⟨⟨name, c, hc, hid, Or.inl ⟨kind, hk⟩⟩, hsingle, hterrestrial⟩

theorem next_asks {s : State} {e : Event} {k : SingleShotTimerType × String}
    (h : e.asks s = some k) : State.Asks k s (next s e) := by
  cases e with
  | getSingleTerrestrialPos clientName rc =>
    simp only [Event.asks] at h
    split at h
    · cases h
      exact State.getSingleTerrestrialPos_asks ‹_› clientName rc
    · cases h
  | getSinglePos clientName horQoS timeoutMsec created trackingId =>
    simp only [Event.asks] at h
    split at h
    · cases h
      exact State.getSinglePos_asks ‹_› trackingId
    · cases h
  | _ => cases h

/-- **What the service answers.**  An event that makes no request answers requests that wait,
or is a request that is refused; what it sends is earned. -/
theorem next_answers {s : State} {e : Event} (hbooked : State.Booked s) (h : e.asks s = none) :
    ∃ new, (∀ m ∈ new, e.Earned s m) ∧
      (State.Answers new s (next s e) ∨ ∃ name, State.Refuses name new s (next s e)) := by
  have hidle : e.aboutFixes = false → ∃ new, (∀ m ∈ new, e.Earned s m) ∧
      (State.Answers new s (next s e) ∨ ∃ name, State.Refuses name new s (next s e)) :=
    fun habout => ⟨[], .nothing e s, Or.inl (.idle (next_idle habout))⟩
  cases e with
  | configUserConsent clientName userConsent created sessionId rc =>
    obtain ⟨reqs, asked, hkeeps⟩ := State.configUserConsentTerrestrialPositioning_keeps s clientName
      userConsent created sessionId rc
    have ha := State.Answers.idle hkeeps.idle
    refine ⟨[], .nothing _ s, Or.inl (.nothing ?_ ha.nextReq ha.pending)⟩
    exact ha.fixes.trans (List.append_nil _)
  | getSingleTerrestrialPos clientName rc =>
    simp only [Event.asks] at h
    split at h
    · cases h
    · obtain ⟨new, hrefuses⟩ := State.getSingleTerrestrialPos_refuses ‹_› clientName rc
      refine ⟨new, fun m hm => ?_, Or.inr ⟨clientName, hrefuses⟩⟩
      obtain hnil | ⟨c, hc, hnew⟩ := hrefuses.told
      · rw [hnil] at hm
        cases hm
      · rw [hnew, List.mem_singleton] at hm
        subst hm
        exact ⟨⟨clientName, c, hc, rfl, Or.inr ⟨⟨rc, rfl⟩, rfl⟩⟩, nofun, nofun⟩
  | getSinglePos clientName horQoS timeoutMsec created trackingId =>
    simp only [Event.asks] at h
    split at h
    · cases h
    · exact ⟨[], .nothing _ s, Or.inl (State.getSinglePos_answers ‹_› trackingId)⟩
  | gtpWwanTracking location rcs =>
    obtain ⟨new, ha, hmsg⟩ := State.onGtpWwanTrackingCallback_answers hbooked location rcs
    refine ⟨new, fun m hm => ?_, Or.inl ha⟩
    obtain ⟨hfix, hoptin⟩ := hmsg m hm
    exact .answers ha hm (fun _ h => by rw [hfix] at h; cases h) fun _ _ => hoptin
  | gnssLocationInfo location rcs =>
    obtain ⟨new, ha, hmsg⟩ := State.onGnssLocationInfoCb_answers hbooked location rcs
    refine ⟨new, fun m hm => ?_, Or.inl ha⟩
    obtain ⟨hfix, hserved⟩ := hmsg m hm
    refine .answers ha hm (fun _ h => ?_) fun _ h => by rw [hfix] at h; cases h
    rw [hfix] at h
    cases h
    exact ⟨⟨rcs, rfl⟩, hserved⟩
  | timeOut clientName timerType =>
    exact ⟨[], .nothing _ s, Or.inl (State.timeOutCallback_answers s clientName timerType)⟩
  | procMsg rc =>
    obtain ⟨new, ha, hmsg⟩ := State.procMsg_answers s rc
    refine ⟨new, fun m hm => ?_, Or.inl ha⟩
    -- a timeout is no success
    refine .answers ha hm (fun _ h => ?_) fun _ h => ?_ <;>
      rcases hmsg m hm with hfix | hfix <;> rw [hfix] at h <;> cases h
  | _ => exact hidle rfl

/-- **The numbers of the requests** and their answers fit together after every event. -/
theorem State.Booked.next {s : State} (h : State.Booked s) (e : Event) :
    State.Booked (next s e) := by
  cases hasks : e.asks s with
  | some k => exact h.asks (next_asks hasks)
  | none =>
    obtain ⟨new, _, ha | ⟨name, hrefuses⟩⟩ := next_answers h hasks
    · exact h.answers ha
    · exact h.refuses hrefuses

end LocationStack.Service
