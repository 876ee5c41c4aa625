import LocationStack.Service.Steps

/-! # Registrations for XTRA status updates

`mClientsRegForXtraStatus` names the clients that are to be told about XTRA, and the GNSS
interface reports as long as there is one.  Two requests keep both in step.  But nothing that
deletes a client looks at the set, and a registration does not ask whether its client is
there: a name stays in the set without a client, the interface goes on reporting, and whoever
registers under the name next is told.
-/
namespace LocationStack.Service

open Ipc State

/-! ## Soundness -/

/-- The registrations are those of clients that are there, the GNSS interface was told that
there are some exactly if there are, and no client got an update without having registered
for it. -/
structure XtraSound (s : State) : Prop where
  registered : ∀ name ∈ s.mClientsRegForXtraStatus, (s.getClient name).isSome = true
  interface : s.gnssInterface = true →
    (s.xtraStatusUpdate = true ↔ s.mClientsRegForXtraStatus ≠ [])
  unasked : s.unaskedXtra = []

instance (s : State) : Decidable (XtraSound s) :=
  decidable_of_iff
    ((∀ name ∈ s.mClientsRegForXtraStatus, (s.getClient name).isSome = true) ∧
      (s.gnssInterface = true → (s.xtraStatusUpdate = true ↔ s.mClientsRegForXtraStatus ≠ [])) ∧
      s.unaskedXtra = [])
    ⟨fun h => ⟨h.1, h.2.1, h.2.2⟩, fun h => ⟨h.registered, h.interface, h.unasked⟩⟩

/-- The event loses no client whose name is in the set after it, and a name is put there only
for a client that is there. -/
def XtraKept (s : State) (e : Event) : Prop :=
  match e with
  | .registerXtraStatusUpdate clientName _ _ =>
    (s.getClient clientName).isSome = true ∧
      ∀ name ∈ s.mClientsRegForXtraStatus.insert clientName, ¬ e.MayLose s name
  | .deregisterXtraStatusUpdate clientName _ _ =>
    ∀ name ∈ s.mClientsRegForXtraStatus.erase clientName, ¬ e.MayLose s name
  | _ => ∀ name ∈ s.mClientsRegForXtraStatus, ¬ e.MayLose s name

instance (s : State) : ∀ e : Event, Decidable (XtraKept s e)
  | .registerXtraStatusUpdate .. => inferInstanceAs (Decidable (_ ∧ ∀ name ∈ _, _))
  | .deregisterXtraStatusUpdate .. | .newClient .. | .deleteClient _ | .deleteEapClientByIds ..
  | .capabilitiesCb .. | .purge _ | .configRequest .. | .registerGnssSignalTypesUpdate ..
  | .configUserConsent .. | .getGnssEnergyConsumed _ | .controlResponse ..
  | .controlCollectiveResponse .. | .gnssConfig .. | .gnssSignalTypes ..
  | .gnssEnergyConsumed .. | .performMaintenance .. | .getSingleTerrestrialPos ..
  | .getSinglePos .. | .gtpWwanTracking .. | .gnssLocationInfo .. | .timeOut .. | .procMsg _ =>
    inferInstanceAs (Decidable (∀ name ∈ _, _))

/-! ## The invariant -/

/-- What makes the registrations sound: each is that of a client who asked for it. -/
structure XtraInv (s : State) : Prop where
  numbered : Numbered s
  nodup : s.mClientsRegForXtraStatus.Nodup
  asked : ∀ name ∈ s.mClientsRegForXtraStatus,
    ∃ c, s.getClient name = some c ∧ c.id ∈ s.xtraClients
  interface : s.gnssInterface = true →
    (s.xtraStatusUpdate = true ↔ s.mClientsRegForXtraStatus ≠ [])
  unasked : s.unaskedXtra = []

theorem XtraInv.sound {s : State} (h : XtraInv s) : XtraSound s := by
  refine ⟨?_, h.interface, h.unasked⟩
  intro name hname
  obtain ⟨c, hc, _⟩ := h.asked name hname
  rw [hc]
  rfl

theorem XtraInv.init (gnssInterface : Bool) : XtraInv (State.init gnssInterface) :=
  ⟨Numbered.init gnssInterface, List.nodup_nil, nofun, fun _ => by simp [State.init], rfl⟩

/-- It survives whatever leaves the registrations alone and loses none of their clients. -/
theorem XtraInv.frame {s s' : State} (h : XtraInv s) (hnumbered : Numbered s')
    (hxtra : s'.xtraPart = s.xtraPart)
    (hsurvives : ∀ name ∈ s.mClientsRegForXtraStatus, Survives name s s') : XtraInv s' := by
  simp only [xtraPart, Prod.mk.injEq] at hxtra
  obtain ⟨hset, hupdate, hclients, hunasked, hgnss⟩ := hxtra
  refine ⟨hnumbered, by rw [hset]; exact h.nodup, ?_, ?_, hunasked.trans h.unasked⟩
  · rw [hset]
    intro name hname
    obtain ⟨c, hc, hasked⟩ := h.asked name hname
    obtain ⟨c', hc', hid⟩ := hsurvives name hname c hc
    exact ⟨c', hc', by rw [hid, hclients]; exact hasked⟩
  · rw [hgnss, hupdate, hset]
    exact h.interface

/-! ## Updates -/

/-- An update that goes to clients who asked for it is noted nowhere. -/
theorem xtraStatusUpdates_asked (status : XtraStatus) (rcs : String → Bool)
    (names : List String) (s : State)
    (hasked : ∀ name ∈ names, ∀ c, s.getClient name = some c → c.id ∈ s.xtraClients) :
    (xtraStatusUpdates status rcs names s).xtraPart = s.xtraPart := by
  induction names generalizing s with
  | nil => rfl
  | cons name rest ih =>
    rw [xtraStatusUpdates]
    split
    · rename_i c hc
      have hmem : c.id ∈ s.xtraClients := hasked name List.mem_cons_self c hc
      have hnote : State.noteXtra { s with visited := s.visited ++ [name] } c =
          { s with visited := s.visited ++ [name] } := if_pos hmem
      have hkeeps := onXtraStatusUpdateCb_keeps { s with visited := s.visited ++ [name] } name c
        status (rcs name)
      rw [hnote, ih]
      · exact hkeeps.xtra
      · -- whoever is left was there before the send, and so has asked
        intro n hn d' hd'
        obtain ⟨d, hd, hid⟩ := hkeeps.clients n d' hd'
        have hxtra := hkeeps.xtra
        simp only [xtraPart, Prod.mk.injEq] at hxtra
        rw [hid, hxtra.2.2.1]
        exact hasked n (List.mem_cons_of_mem _ hn) d hd
    · refine (ih _ ?_).trans rfl
      intro n hn d hd
      exact hasked n (List.mem_cons_of_mem _ hn) d hd

theorem onGnssConfigCallback_asked (s : State) (sessionId : UInt32) (config : GnssConfig)
    (rc rc' : Bool) (rcs : String → Bool)
    (hasked : ∀ name ∈ s.mClientsRegForXtraStatus, ∀ c, s.getClient name = some c →
      c.id ∈ s.xtraClients) :
    (s.onGnssConfigCallback sessionId config rc rc' rcs).xtraPart = s.xtraPart := by
  rw [onGnssConfigCallback]
  split
  · split
    · exact xtraStatusUpdates_asked _ rcs _ s hasked
    · rfl
  · split
    · rfl
    · split
      · rename_i data _ _ c _
        obtain ⟨sent, _, hkeeps⟩ := onControlResponseCb_sent s data.clientName c .success
          data.configMsgId sessionId.toNat rc
        exact (hkeeps.trans (onGnssConfigCb_keeps _ data.clientName c data.configMsgId config
          rc')).xtra
      · rfl

/-! ## Steps -/

/-- A name is put into the set for a client that stays. -/
theorem XtraInv.registerXtraStatusUpdate {s : State} (h : XtraInv s) {clientName : String}
    {sessionId : UInt32} {rc : Bool} (hclient : (s.getClient clientName).isSome = true)
    (hsurvives : ∀ name ∈ s.mClientsRegForXtraStatus.insert clientName,
      Survives name s (s.registerXtraStatusUpdate clientName sessionId rc)) :
    XtraInv (s.registerXtraStatusUpdate clientName sessionId rc) := by
  obtain ⟨reqs, asked, update, hkeeps, hupdate⟩ :=
    registerXtraStatusUpdate_keeps s clientName sessionId rc
  have hnumbered : Numbered (s.registerXtraStatusUpdate clientName sessionId rc) :=
    h.numbered.next (.registerXtraStatusUpdate clientName sessionId rc)
  obtain ⟨hset, hvalue, hclients, hunasked, hgnss⟩ :
      _ ∧ _ ∧ _ ∧ _ ∧ _ := by simpa only [xtraPart, Prod.mk.injEq] using hkeeps.xtra
  obtain ⟨c₀, hc₀⟩ := Option.isSome_iff_exists.mp hclient
  refine ⟨hnumbered, ?_, ?_, ?_, hunasked.trans h.unasked⟩
  · rw [hset]
    exact h.nodup.insert
  · rw [hset]
    intro name hname
    have hmem : ∃ c, s.getClient name = some c ∧
        c.id ∈ ((s.getClient clientName).map Client.id).toList ++ s.xtraClients := by
      obtain rfl | hold := List.mem_insert_iff.mp hname
      · exact ⟨c₀, hc₀, by simp [hc₀]⟩
      · obtain ⟨c, hc, hasked⟩ := h.asked name hold
        exact ⟨c, hc, List.mem_append_right _ hasked⟩
    obtain ⟨c, hc, hasked⟩ := hmem
    obtain ⟨c', hc', hid⟩ := hsurvives name hname c hc
    exact ⟨c', hc', by rw [hid, hclients]; exact hasked⟩
  · rw [hgnss, hvalue, hset]
    intro hg
    have hne : s.mClientsRegForXtraStatus.insert clientName ≠ [] :=
      List.ne_nil_of_mem List.mem_insert_self
    exact ⟨fun _ => hne, fun _ => hupdate hg⟩

/-- A name is erased from the set, and the last one ends the reports. -/
theorem XtraInv.deregisterXtraStatusUpdate {s : State} (h : XtraInv s) {clientName : String}
    {sessionId : UInt32} {rc : Bool}
    (hsurvives : ∀ name ∈ s.mClientsRegForXtraStatus.erase clientName,
      Survives name s (s.deregisterXtraStatusUpdate clientName sessionId rc)) :
    XtraInv (s.deregisterXtraStatusUpdate clientName sessionId rc) := by
  obtain ⟨reqs, asked, update, hkeeps, hupdate⟩ :=
    deregisterXtraStatusUpdate_keeps s clientName sessionId rc
  have hnumbered : Numbered (s.deregisterXtraStatusUpdate clientName sessionId rc) :=
    h.numbered.next (.deregisterXtraStatusUpdate clientName sessionId rc)
  obtain ⟨hset, hvalue, hclients, hunasked, hgnss⟩ :
      _ ∧ _ ∧ _ ∧ _ ∧ _ := by simpa only [xtraPart, Prod.mk.injEq] using hkeeps.xtra
  refine ⟨hnumbered, ?_, ?_, ?_, hunasked.trans h.unasked⟩
  · rw [hset]
    exact h.nodup.erase clientName
  · rw [hset]
    intro name hname
    obtain ⟨hne, hold⟩ := (List.Nodup.mem_erase_iff h.nodup).mp hname
    obtain ⟨c, hc, hasked⟩ := h.asked name hold
    obtain ⟨c', hc', hid⟩ := hsurvives name hname c hc
    refine ⟨c', hc', ?_⟩
    rw [hid, hclients]
    refine List.mem_filter.mpr ⟨hasked, ?_⟩
    -- the client that deregisters has another number
    cases hd : s.getClient clientName with
    | none => rfl
    | some d => simpa using fun heq => hne (h.numbered.distinct hc hd heq.symm)
  · rw [hgnss, hvalue, hset]
    intro hg
    rw [hupdate hg]
    change (if s.mClientsRegForXtraStatus.erase clientName = [] then false
      else s.xtraStatusUpdate) = true ↔ s.mClientsRegForXtraStatus.erase clientName ≠ []
    by_cases hlast : s.mClientsRegForXtraStatus.erase clientName = []
    · simp [hlast]
    · have hold : s.mClientsRegForXtraStatus ≠ [] := by
        intro hnil
        exact hlast (by rw [hnil]; rfl)
      simp [hlast, (h.interface hg).mpr hold]

/-- **What one event preserves.** -/
theorem XtraInv.next {s : State} {e : Event} (h : XtraInv s) (hkept : XtraKept s e) :
    XtraInv (next s e) := by
  have hasked : ∀ name ∈ s.mClientsRegForXtraStatus, ∀ c, s.getClient name = some c →
      c.id ∈ s.xtraClients := by
    intro name hname c hc
    obtain ⟨d, hd, hmem⟩ := h.asked name hname
    obtain rfl : d = c := Option.some.inj (hd.symm.trans hc)
    exact hmem
  -- events that are not about the registrations keep them
  have hother : e.aboutXtra = false → (Service.next s e).xtraPart = s.xtraPart := by
    intro habout
    cases hregisters : e.registers s with
    | false =>
      obtain ⟨t, hframe, hkeeps⟩ := next_keeps hregisters
      exact hkeeps.xtra.trans (hframe.xtra habout)
    | true =>
      obtain ⟨n, c, _, _, _, heq⟩ := next_registers hregisters
      rw [heq]
      rfl
  cases e with
  | registerXtraStatusUpdate clientName sessionId rc =>
    exact h.registerXtraStatusUpdate hkept.1 fun name hname => next_survives (hkept.2 name hname)
  | deregisterXtraStatusUpdate clientName sessionId rc =>
    exact h.deregisterXtraStatusUpdate fun name hname => next_survives (hkept name hname)
  | gnssConfig sessionId config rc rc' rcs =>
    exact h.frame (h.numbered.next _)
      (onGnssConfigCallback_asked s sessionId config rc rc' rcs hasked)
      fun name hname => next_survives (hkept name hname)
  | _ =>
    exact h.frame (h.numbered.next _) (hother rfl)
      fun name hname => next_survives (hkept name hname)

theorem XtraInv.step {s : State} {e : Event} (h : XtraInv s) (hkept : XtraKept s e) :
    XtraInv (step s e) := by
  rw [Service.step]
  split
  · have hvisited : XtraInv (s.noteReports e.reports) :=
      h.frame (h.numbered.of_eq rfl rfl rfl) rfl fun name _ => Survives.of_eq rfl
    refine hvisited.next ?_
    cases e <;> exact hkept
  · exact h

/-- **XTRA registrations are sound** throughout a run that loses no client whose name is in
the set and registers only clients that are there. -/
theorem xtra_registrations_sound {gnssInterface : Bool} {es : List Event}
    (hkept : EventRun.Meets step XtraKept (State.init gnssInterface) es) :
    EventRun.Throughout step XtraSound (State.init gnssInterface) es :=
  (EventRun.throughout_of_meets (fun _ _ => XtraInv.step) (XtraInv.init gnssInterface)
    hkept).imp fun _ => XtraInv.sound

/-- A client registers, gets an update, deregisters and goes. -/
theorem xtra_registrations_sound_sample :
    EventRun.Throughout step XtraSound (State.init true)
      [.newClient "a" .locationIntegrationApi (0, 0) true, .registerXtraStatusUpdate "a" 1 true,
        .gnssConfig 0 ⟨none, none, none, none, some ⟨true, 1, 2, true⟩⟩ true true fun _ => true,
        .deregisterXtraStatusUpdate "a" 2 true, .deleteClient "a"] :=
  xtra_registrations_sound (by decide)

/-- **The registration outlives its client.**  The name stays in the set, the interface goes on
reporting, and the next client of that name is told. -/
theorem xtra_registrations_unsound :
    ¬ EventRun.Throughout step XtraSound (State.init true)
      [.newClient "a" .locationIntegrationApi (0, 0) true, .registerXtraStatusUpdate "a" 1 true,
        .deleteClient "a"] ∧
    (EventRun.run step (State.init true)
      [.newClient "a" .locationIntegrationApi (0, 0) true, .registerXtraStatusUpdate "a" 1 true,
        .deleteClient "a", .newClient "a" .locationIntegrationApi (0, 0) true,
        .gnssConfig 0 ⟨none, none, none, none, some ⟨true, 1, 2, true⟩⟩ true true
          fun _ => true]).unaskedXtra = [1] := by
  constructor
  · decide
  · decide

end LocationStack.Service
