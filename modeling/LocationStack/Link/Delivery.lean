import LocationStack.Link.Geofences
import Mathlib.Data.Set.Basic

/-! # The delivery of breaches

A breach is told under client ids that the daemon looks up, and `getMappedGeofence` throws for an
id that is not in the client's map.  Between the two a response may take a geofence out of the
map, and in between a geofence may be added or sent again.  So what is on its way to the client is
followed message by message (`Deliverable`), and what `LocationAPI` holds is bound to the end of it
(`Agreed.lasting`).
-/
namespace LocationStack.Link

open Ipc Client EventRun

/-! ## What is on its way to the client -/

/-- The messages can be processed in their order by a client whose map has `ids`: each takes out
only what it reports as failed to be added or as removed, and a breach is of what is there. -/
def Deliverable (ids : Set UInt32) : List IndMsg → Prop
  | [] => True
  | msg :: rest =>
    (∀ id ∈ erasedIds msg, id ∈ ids → id ∈ failedAdds msg ++ removals msg) ∧
      (∀ id ∈ breachIds msg, id ∈ ids) ∧ Deliverable {id ∈ ids | id ∉ erasedIds msg} rest

namespace Deliverable

variable {ids ids' : Set UInt32} {msgs msgs' : List IndMsg}

theorem append (h : Deliverable ids msgs)
    (h' : Deliverable {id ∈ ids | id ∉ msgs.flatMap erasedIds} msgs') :
    Deliverable ids (msgs ++ msgs') := by
  induction msgs generalizing ids with
  | nil => simpa using h'
  | cons msg msgs ih =>
    obtain ⟨herased, hbreach, hrest⟩ := h
    refine ⟨herased, hbreach, ih hrest ?_⟩
    simpa only [Set.mem_ofPred_eq, List.flatMap_cons, List.mem_append, not_or, and_assoc] using h'

/-- A map that grows by nothing that the messages take out. -/
theorem grow (h : Deliverable ids msgs) (hsub : ids ⊆ ids')
    (hnew : ∀ id ∈ ids', id ∈ msgs.flatMap erasedIds → id ∈ ids) : Deliverable ids' msgs := by
  induction msgs generalizing ids ids' with
  | nil => trivial
  | cons msg msgs ih =>
    obtain ⟨herased, hbreach, hrest⟩ := h
    refine ⟨fun id hid hmem => ?_, fun id hid => hsub (hbreach id hid), ih hrest ?_ ?_⟩
    · exact herased id hid (hnew id hmem (List.mem_append_left _ hid))
    · exact fun id hid => ⟨hsub hid.1, hid.2⟩
    · exact fun id hid hmem => ⟨hnew id hid.1 (List.mem_append_right _ hmem), hid.2⟩

/-- Messages that each could be processed first, and that take out none of which a breach is. -/
theorem of_forall (h : ∀ msg ∈ msgs,
    (∀ id ∈ erasedIds msg, id ∈ ids → id ∈ failedAdds msg ++ removals msg) ∧
      ∀ id ∈ breachIds msg, id ∈ ids ∧ id ∉ msgs.flatMap erasedIds) : Deliverable ids msgs := by
  induction msgs generalizing ids with
  | nil => trivial
  | cons msg msgs ih =>
    obtain ⟨herased, hbreach⟩ := h msg List.mem_cons_self
    refine ⟨herased, fun id hid => (hbreach id hid).1, ih fun msg' hmsg' => ?_⟩
    obtain ⟨herased', hbreach'⟩ := h msg' (List.mem_cons_of_mem _ hmsg')
    refine ⟨fun id hid hmem => herased' id hid hmem.1, fun id hid => ?_⟩
    obtain ⟨hmem, hnot⟩ := hbreach' id hid
    rw [List.flatMap_cons, List.mem_append, not_or] at hnot
    exact ⟨⟨hmem, hnot.1⟩, hnot.2⟩

end Deliverable

/-- What is reported as failed or removed is taken out of the map. -/
theorem ended_subset_erasedIds (msg : IndMsg) : failedAdds msg ++ removals msg ⊆ erasedIds msg := by
  intro id hid
  cases msg with
  | collectiveResp msgId resp =>
    rw [List.mem_append] at hid
    cases msgId <;> simp only [failedAdds, removals, List.not_mem_nil, or_false, false_or] at hid
    · obtain ⟨r, hr, rfl⟩ := List.mem_map.mp hid
      obtain ⟨hmem, hfailed⟩ := List.mem_filter.mp hr
      exact List.mem_map_of_mem (List.mem_filter.mpr ⟨hmem, by simp [hfailed]⟩)
    · obtain ⟨r, hr, rfl⟩ := List.mem_map.mp hid
      obtain ⟨hmem, -⟩ := List.mem_filter.mp hr
      exact List.mem_map_of_mem (List.mem_filter.mpr ⟨hmem, by simp⟩)
  | _ => exact absurd hid (by simp [failedAdds, removals])

/-! ## The invariant -/

namespace Geofenced

/-- Every geofence that `LocationAPI` holds or is still to be asked for is one that stays in the
client's map, what is on its way to the client can be processed by it, and every id there is was
sent in an add. -/
structure Agreed (s : Geofenced) : Prop where
  holding : Daemon.Holding s.sys.daemon
  library : ∀ msg ∈ s.sys.toDaemon, librarySends msg
  nonempty : ∀ geofences, .addGeofences geofences ∈ s.sys.toDaemon → geofences ≠ []
  distinct : (entrusted s.sys).Nodup
  lasting : ∀ id ∈ entrusted s.sys, Lasting s.sys id
  deliverable : Deliverable {id | id ∈ s.sys.client.mGeofenceMap} s.sys.toClient
  entries : ∀ id, id ∈ s.sys.client.mGeofenceMap ↔
    id ∈ s.added ∧ id ∉ s.failed ∧ id ∉ s.removed
  nonzero : 0 ∉ s.added
  knownRequests : ∀ msg ∈ s.sys.toDaemon, ∀ id ∈ Daemon.namedIds msg, id ∈ s.added
  knownHandler : ∀ h ∈ s.sys.daemon.client, ∀ id ∈ h.mGfIdsMap, id ∈ s.added
  knownResponses : ∀ id ∈ s.sys.toClient.flatMap erasedIds, id ∈ s.added ∨ id = 0
  knownEnds : ∀ id ∈ s.failed ++ s.removed, id ∈ s.added ∨ id = 0

theorem init_agreed (mClientId : { id : UInt32 // id ≠ 0 }) : Agreed (init mClientId) where
  holding := Daemon.init_holding
  library := fun _ hmsg => absurd hmsg List.not_mem_nil
  nonempty := fun _ hmsg => absurd hmsg List.not_mem_nil
  distinct := List.nodup_nil
  lasting := fun _ hid => absurd hid List.not_mem_nil
  deliverable := trivial
  entries := by simp [init, Sys.init, LocationClientApiImpl.new]
  nonzero := List.not_mem_nil
  knownRequests := fun _ hmsg => absurd hmsg List.not_mem_nil
  knownHandler := fun _ hh => absurd hh (by simp [init, Sys.init, Daemon.State.init])
  knownResponses := fun _ hid => absurd hid List.not_mem_nil
  knownEnds := fun _ hid => absurd hid List.not_mem_nil

/-! ## What the client sends -/

/-- The client after some work, and the messages of the work. -/
def sends (s : Geofenced) (c : LocationClientApiImpl) (msgs : List ReqMsg) : Geofenced :=
  { s with
    sys := { s.sys with client := c, toDaemon := s.sys.toDaemon ++ msgs }
    added := s.added ++ msgs.flatMap Daemon.addedIds }

/-- Work that enters what it asks for, which is new to everything but the map. -/
structure Sends (s : Geofenced) (c : LocationClientApiImpl) (msgs : List ReqMsg) : Prop where
  library : ∀ msg ∈ msgs, librarySends msg
  nonempty : ∀ geofences, .addGeofences geofences ∈ msgs → geofences ≠ []
  keys : ∀ id, id ∈ c.mGeofenceMap ↔
    id ∈ s.sys.client.mGeofenceMap ∨ id ∈ msgs.flatMap Daemon.addedIds
  named : ∀ msg ∈ msgs, ∀ id ∈ Daemon.namedIds msg,
    id ∈ s.sys.client.mGeofenceMap ∨ id ∈ msgs.flatMap Daemon.addedIds
  distinct : (msgs.flatMap Daemon.addedIds).Nodup
  fresh : ∀ id ∈ msgs.flatMap Daemon.addedIds, id ≠ 0 ∧ id ∉ entrusted s.sys ∧
    id ∉ s.sys.toClient.flatMap erasedIds ∧ id ∉ s.failed ++ s.removed

section Steps

variable {s : Geofenced}

/-- A geofence of the map was added. -/
theorem Agreed.mem_added (hs : Agreed s) {id : UInt32} (hid : id ∈ s.sys.client.mGeofenceMap) :
    id ∈ s.added := ((hs.entries id).mp hid).1

theorem Agreed.sends (hs : Agreed s) {c : LocationClientApiImpl} {msgs : List ReqMsg}
    (h : Sends s c msgs) : Agreed (s.sends c msgs) := by
  have hentrusted : entrusted (s.sends c msgs).sys =
      entrusted s.sys ++ msgs.flatMap Daemon.addedIds := by
    simp [entrusted, Geofenced.sends]
  exact
    { holding := hs.holding
      library := fun msg hmsg => (List.mem_append.mp hmsg).elim (hs.library msg) (h.library msg)
      nonempty := fun gs hmsg => (List.mem_append.mp hmsg).elim (hs.nonempty gs) (h.nonempty gs)
      distinct := by
        rw [hentrusted, List.nodup_append]
        refine ⟨hs.distinct, h.distinct, fun id hold id' hnew heq => ?_⟩
        exact (h.fresh id' hnew).2.1 (heq ▸ hold)
      lasting := by
        intro id hid
        rw [hentrusted, List.mem_append] at hid
        rcases hid with hid | hid
        · obtain ⟨hmap, herased⟩ := hs.lasting id hid
          exact ⟨(h.keys id).mpr (.inl hmap), herased⟩
        · exact ⟨(h.keys id).mpr (.inr hid), (h.fresh id hid).2.2.1⟩
      deliverable := by
        refine hs.deliverable.grow (fun id hid => (h.keys id).mpr (.inl hid)) ?_
        intro id hid herased
        rcases (h.keys id).mp hid with hmap | hnew
        · exact hmap
        · exact absurd herased (h.fresh id hnew).2.2.1
      entries := by
        intro id
        refine (h.keys id).trans ?_
        rw [hs.entries, Geofenced.sends, List.mem_append]
        constructor
        · rintro (⟨hadded, hends⟩ | hnew)
          · exact ⟨.inl hadded, hends⟩
          · have hends := (h.fresh id hnew).2.2.2
            rw [List.mem_append, not_or] at hends
            exact ⟨.inr hnew, hends⟩
        · rintro ⟨hadded | hnew, hends⟩
          · exact .inl ⟨hadded, hends⟩
          · exact .inr hnew
      nonzero := by
        rw [Geofenced.sends, List.mem_append, not_or]
        exact ⟨hs.nonzero, fun hzero => (h.fresh 0 hzero).1 rfl⟩
      knownRequests := by
        intro msg hmsg id hid
        rcases List.mem_append.mp hmsg with hmsg | hmsg
        · exact List.mem_append_left _ (hs.knownRequests msg hmsg id hid)
        · rcases h.named msg hmsg id hid with hmap | hnew
          · exact List.mem_append_left _ (hs.mem_added hmap)
          · exact List.mem_append_right _ hnew
      knownHandler := fun h' hh' id hid => List.mem_append_left _ (hs.knownHandler h' hh' id hid)
      knownResponses := fun id hid => (hs.knownResponses id hid).imp_left (List.mem_append_left _)
      knownEnds := fun id hid => (hs.knownEnds id hid).imp_left (List.mem_append_left _) }

/-- The work of a call or of a message, sent. -/
theorem Sends.of_works {ids : List UInt32} {r : Client.Result} (h : Works s.sys.client ids r)
    (hlib : AllSent (librarySends ·) r) (hdistinct : ids.Nodup)
    (hfresh : ∀ id ∈ ids, id ≠ 0 ∧ id ∉ entrusted s.sys ∧
      id ∉ s.sys.toClient.flatMap erasedIds ∧ id ∉ s.failed ++ s.removed) :
    Sends s r.1 (sentReqs r.2) where
  library := hlib
  nonempty := h.nonempty
  keys := by rw [h.added]; exact h.keys
  named := by rw [h.added]; exact h.named
  distinct := by rw [h.added]; exact hdistinct
  fresh := by rw [h.added]; exact hfresh

/-- Work of which nothing is sent, and which leaves the geofences of the map. -/
theorem Sends.of_keys {c : LocationClientApiImpl}
    (hkeys : ∀ id, id ∈ c.mGeofenceMap ↔ id ∈ s.sys.client.mGeofenceMap) : Sends s c [] where
  library := fun _ hmsg => absurd hmsg List.not_mem_nil
  nonempty := fun _ hmsg => absurd hmsg List.not_mem_nil
  keys := fun id => by rw [hkeys]; simp
  named := fun _ hmsg => absurd hmsg List.not_mem_nil
  distinct := List.nodup_nil
  fresh := fun _ hid => absurd hid List.not_mem_nil

/-- Geofences that were not added before are new to everything. -/
theorem Agreed.fresh (hs : Agreed s) {ids : List UInt32} (hnew : s.NewIds ids) :
    ∀ id ∈ ids, id ≠ 0 ∧ id ∉ entrusted s.sys ∧
      id ∉ s.sys.toClient.flatMap erasedIds ∧ id ∉ s.failed ++ s.removed := by
  obtain ⟨-, hzero, hadded⟩ := hnew
  intro id hid
  have hne : id ≠ 0 := fun h0 => hzero (h0 ▸ hid)
  have hnot : id ∉ s.added := of_decide_eq_true (List.all_eq_true.mp hadded id hid)
  have hunknown : ¬(id ∈ s.added ∨ id = 0) := not_or.mpr ⟨hnot, hne⟩
  exact ⟨hne, fun h => hnot (hs.mem_added (hs.lasting id h).1),
    fun h => hunknown (hs.knownResponses id h), fun h => hunknown (hs.knownEnds id h)⟩

/-- **A call.** -/
theorem Agreed.call (hs : Agreed s) (a : Call) {sent : Bool} (hkeeps : s.KeepsCall sent a) :
    Agreed (s.sends (a.work s.sys.client).1
      (if sent then sentReqs (a.work s.sys.client).2 else [])) := by
  have hlib := a.work_library s.sys.client
  apply hs.sends
  by_cases hadd : ∃ callbacks geofences, a = .addGeofences callbacks geofences
  · obtain ⟨callbacks, geofences, rfl⟩ := hadd
    obtain ⟨hpending, hreg, rfl, hne, hlen, hnew⟩ := hkeeps
    rw [if_pos rfl]
    exact .of_works (addGeofences_works s.sys.client callbacks hpending hreg hne hlen) hlib
      hnew.1 (hs.fresh hnew)
  · have hworks := work_works s.sys.client fun callbacks geofences heq =>
      hadd ⟨callbacks, geofences, heq⟩
    cases sent with
    | true =>
      rw [if_pos rfl]
      exact .of_works hworks hlib List.nodup_nil fun _ hid => absurd hid List.not_mem_nil
    | false => exact .of_keys fun id => (hworks.keys id).trans (by simp)

/-! ## What the client is told -/

/-- The system after the client processed its oldest message. -/
def received (s : Geofenced) (msg : IndMsg) (rest : List IndMsg) (c : LocationClientApiImpl) :
    Geofenced :=
  { sys := { s.sys with client := c, toClient := rest }
    added := s.added
    failed := s.failed ++ failedAdds msg
    removed := s.removed ++ removals msg }

theorem Agreed.received (hs : Agreed s) {msg : IndMsg} {rest : List IndMsg}
    (hq : s.sys.toClient = msg :: rest) {c : LocationClientApiImpl}
    (hkeys : ∀ id, id ∈ c.mGeofenceMap ↔ id ∈ s.sys.client.mGeofenceMap ∧ id ∉ erasedIds msg) :
    Agreed (s.received msg rest c) := by
  have hdeliverable := hs.deliverable
  have hknown := hs.knownResponses
  rw [hq] at hdeliverable hknown
  obtain ⟨herased, -, hrest⟩ := hdeliverable
  have hmap : {id | id ∈ c.mGeofenceMap} =
      {id ∈ {id | id ∈ s.sys.client.mGeofenceMap} | id ∉ erasedIds msg} := Set.ext hkeys
  exact
    { holding := hs.holding
      library := hs.library
      nonempty := hs.nonempty
      distinct := hs.distinct
      lasting := by
        intro id hid
        obtain ⟨hmem, hlast⟩ := hs.lasting id hid
        rw [hq, List.flatMap_cons, List.mem_append, not_or] at hlast
        exact ⟨(hkeys id).mpr ⟨hmem, hlast.1⟩, hlast.2⟩
      deliverable := by rw [← hmap] at hrest; exact hrest
      entries := by
        intro id
        have hended := @ended_subset_erasedIds msg id
        have hreported := herased id
        rw [List.mem_append] at hended hreported
        refine (hkeys id).trans ?_
        simp only [Geofenced.received, List.mem_append, not_or]
        constructor
        · rintro ⟨hmem, hnot⟩
          obtain ⟨hadded, hfailed, hremoved⟩ := (hs.entries id).mp hmem
          exact ⟨hadded, ⟨hfailed, fun h => hnot (hended (.inl h))⟩,
            hremoved, fun h => hnot (hended (.inr h))⟩
        · rintro ⟨hadded, ⟨hfailed, hfailed'⟩, hremoved, hremoved'⟩
          have hmem := (hs.entries id).mpr ⟨hadded, hfailed, hremoved⟩
          exact ⟨hmem, fun h => (hreported h hmem).elim hfailed' hremoved'⟩
      nonzero := hs.nonzero
      knownRequests := hs.knownRequests
      knownHandler := hs.knownHandler
      knownResponses := fun id hid => hknown id (List.mem_append_right _ hid)
      knownEnds := by
        intro id hid
        -- what the message reports is among what it takes out
        have hended : id ∈ failedAdds msg ++ removals msg → id ∈ s.added ∨ id = 0 := fun h =>
          hknown id (List.mem_append_left _ (ended_subset_erasedIds msg h))
        have hold := hs.knownEnds id
        simp only [Geofenced.received, List.mem_append] at hid hold hended ⊢
        tauto }

/-- A message other than the capabilities takes out of the map what it has to, unless there is
no `collectiveResponseCb`. -/
theorem onReceive_keys (c : LocationClientApiImpl) {msg : IndMsg}
    (hcap : ∀ mask, msg ≠ .capabilities mask)
    (herased : c.mLocationCbs.collectiveResponseCb = true ∨
      ∀ id ∈ erasedIds msg, id ∉ c.mGeofenceMap) (id : UInt32) :
    id ∈ (c.onReceive msg).1.mGeofenceMap ↔ id ∈ c.mGeofenceMap ∧ id ∉ erasedIds msg := by
  cases msg with
  | capabilities mask => exact absurd rfl (hcap mask)
  | halReady => simp [LocationClientApiImpl.onReceive, LocationClientApiImpl.onHalReady, erasedIds]
  | genericResp msgId err =>
    simp only [LocationClientApiImpl.onReceive, LocationClientApiImpl.onGenericResponse, erasedIds]
    split
    · rw [c.invokePositionSessionResponseCb_fst]
      simp
    · simp
  | collectiveResp msgId resp =>
    simp only [LocationClientApiImpl.onReceive, LocationClientApiImpl.onCollectiveResponse]
    split
    · have hclear : (if c.isGeofenceMapEmpty then c.clearGeofenceSubscriptions
          else c).mGeofenceMap = c.mGeofenceMap := by split <;> rfl
      simp only [LocationClientApiImpl.eraseGeofenceMap, hclear]
      exact IdMap.mem_eraseAll _ _ id
    · rename_i hno
      have hnone := herased.resolve_left hno
      exact ⟨fun hmem => ⟨hmem, fun h => hnone id h hmem⟩, And.left⟩
  | geofenceBreach ids =>
    simp only [LocationClientApiImpl.onReceive, LocationClientApiImpl.onGeofenceBreach, erasedIds]
    split
    · split <;> simp
    · simp

/-- A client that is told the capabilities sends its geofences again, if it was not registered. -/
theorem Agreed.capabilities (hs : Agreed s) {sent : Bool}
    (hresends : s.sys.client.mHalRegistered = false → sent = true → Resends s.sys) :
    Agreed (s.sends s.sys.client.capabilitesCallback.1
      (if sent then sentReqs s.sys.client.capabilitesCallback.2 else [])) := by
  apply hs.sends
  cases sent with
  | true =>
    rw [if_pos rfl]
    refine .of_works (capabilitesCallback_works s.sys.client fun hreg id hid =>
      ((hresends hreg rfl).2 id hid).1.1) s.sys.client.capabilitesCallback_library ?_ ?_
    · split
      · exact List.nodup_nil
      · rename_i hreg
        exact (hresends (Bool.eq_false_of_not_eq_true hreg) rfl).1
    · intro id hid
      split at hid
      · exact absurd hid List.not_mem_nil
      · rename_i hreg
        obtain ⟨⟨hmap, herased⟩, hnot⟩ :=
          (hresends (Bool.eq_false_of_not_eq_true hreg) rfl).2 id hid
        obtain ⟨hadded, hends⟩ := (hs.entries id).mp hmap
        refine ⟨fun h0 => hs.nonzero (h0 ▸ hadded), hnot, herased, ?_⟩
        rw [List.mem_append, not_or]
        exact hends
  | false => exact .of_keys fun id => by rw [s.sys.client.capabilitesCallback_map]

/-! ## What the daemon does -/

/-- The system after the daemon did something, and what it sent. -/
def serves (s : Geofenced) (requests : List ReqMsg) (daemon : Daemon.State)
    (msgs : List IndMsg) : Geofenced :=
  { s with
    sys := { s.sys with
      toDaemon := requests
      daemon := daemon
      toClient := s.sys.toClient ++ msgs } }

/-- A message that takes out none of the geofences that are `left` and only what it reports, and
that tells no breach of others than these. -/
structure Tells (s : Geofenced) (left : List UInt32) (msg : IndMsg) : Prop where
  erased : ∀ id ∈ erasedIds msg, Lasting s.sys id → id ∈ failedAdds msg ++ removals msg
  kept : ∀ id ∈ left, id ∉ erasedIds msg
  known : ∀ id ∈ erasedIds msg, id ∈ s.added ∨ id = 0
  breach : ∀ id ∈ breachIds msg, id ∈ left

theorem Tells.of_plain {left : List UInt32} {msg : IndMsg} (herased : erasedIds msg = [])
    (hbreach : breachIds msg = []) : Tells s left msg where
  erased := by simp [herased]
  kept := by simp [herased]
  known := by simp [herased]
  breach := by simp [hbreach]

/-- Work of the daemon that adds no geofence to those there are, and messages that suit what is
left of them. -/
structure Serves (s : Geofenced) (requests : List ReqMsg) (daemon : Daemon.State)
    (msgs : List IndMsg) : Prop where
  holding : Daemon.Holding daemon
  subset : requests ⊆ s.sys.toDaemon
  entrusted : (daemon.hal.held.map Prod.fst ++ requests.flatMap Daemon.addedIds).Sublist
    (entrusted s.sys)
  tells : ∀ msg ∈ msgs,
    Tells s (daemon.hal.held.map Prod.fst ++ requests.flatMap Daemon.addedIds) msg
  knownHandler : ∀ h ∈ daemon.client, ∀ id ∈ h.mGfIdsMap, id ∈ s.added

theorem Serves.kept {requests : List ReqMsg} {daemon : Daemon.State} {msgs : List IndMsg}
    (h : Serves s requests daemon msgs) {id : UInt32}
    (hid : id ∈ daemon.hal.held.map Prod.fst ++ requests.flatMap Daemon.addedIds) :
    id ∉ msgs.flatMap erasedIds := by
  intro hmem
  obtain ⟨msg, hmsg, herased⟩ := List.mem_flatMap.mp hmem
  exact (h.tells msg hmsg).kept id hid herased

theorem Agreed.serves (hs : Agreed s) {requests : List ReqMsg} {daemon : Daemon.State}
    {msgs : List IndMsg} (h : Serves s requests daemon msgs) :
    Agreed (s.serves requests daemon msgs) where
  holding := h.holding
  library := fun msg hmsg => hs.library msg (h.subset hmsg)
  nonempty := fun gs hmsg => hs.nonempty gs (h.subset hmsg)
  distinct := hs.distinct.sublist h.entrusted
  lasting := by
    intro id hid
    obtain ⟨hmap, herased⟩ := hs.lasting id (h.entrusted.subset hid)
    refine ⟨hmap, ?_⟩
    rw [Geofenced.serves, List.flatMap_append, List.mem_append, not_or]
    exact ⟨herased, h.kept hid⟩
  deliverable := by
    refine hs.deliverable.append (.of_forall fun msg hmsg => ⟨(h.tells msg hmsg).erased, ?_⟩)
    intro id hid
    have hleft := (h.tells msg hmsg).breach id hid
    exact ⟨hs.lasting id (h.entrusted.subset hleft), h.kept hleft⟩
  entries := hs.entries
  nonzero := hs.nonzero
  knownRequests := fun msg hmsg => hs.knownRequests msg (h.subset hmsg)
  knownHandler := h.knownHandler
  knownResponses := by
    intro id hid
    rw [Geofenced.serves, List.flatMap_append, List.mem_append] at hid
    rcases hid with hid | hid
    · exact hs.knownResponses id hid
    · obtain ⟨msg, hmsg, herased⟩ := List.mem_flatMap.mp hid
      exact (h.tells msg hmsg).known id herased
  knownEnds := hs.knownEnds

/-- **A request.** -/
theorem Agreed.request (hs : Agreed s) (mPositionMode : GnssSuplMode) {msg : ReqMsg}
    {rest : List ReqMsg} (hq : s.sys.toDaemon = msg :: rest) {ret : Daemon.HalReturns}
    (hret : s.sys.daemon.hal.MayAnswer ret msg) (mIpcSender rc : Bool) :
    Serves s rest
      (Daemon.stepActs mPositionMode s.sys.daemon (.request msg ret mIpcSender rc)).1
      (Daemon.sentMsgs
        (Daemon.stepActs mPositionMode s.sys.daemon (.request msg ret mIpcSender rc)).2) := by
  have hmem : msg ∈ s.sys.toDaemon := by rw [hq]; exact List.mem_cons_self
  have hentrusted : entrusted s.sys =
      s.sys.daemon.hal.held.map Prod.fst ++ Daemon.addedIds msg ++
        rest.flatMap Daemon.addedIds := by
    rw [entrusted, hq, List.flatMap_cons, List.append_assoc]
  have htype : ∀ clientType, msg = .clientRegister clientType →
      clientType = .locationClientApi := by
    rintro clientType rfl
    simpa [librarySends] using hs.library _ hmem
  have hnew : Daemon.AddsNew s.sys.daemon.hal msg := by
    rintro geofences rfl
    have hdistinct := hs.distinct
    rw [hentrusted] at hdistinct
    obtain ⟨-, hadded, happart⟩ := List.nodup_append.mp hdistinct.of_append_left
    exact ⟨hs.nonempty geofences hmem, hadded, fun g hg hin =>
      happart g.1 (List.mem_map_of_mem hg) g.1 hin rfl⟩
  exact
    { holding := hs.holding.request mPositionMode htype hnew ret mIpcSender rc
      subset := by rw [hq]; exact fun _ h => List.mem_cons_of_mem _ h
      entrusted := by
        rw [hentrusted, Daemon.stepActs_request mPositionMode hret]
        refine .append (.trans ?_ (Daemon.held_processClientMsg mPositionMode s.sys.daemon.client
          s.sys.daemon.hal hret mIpcSender rc)) (.refl _)
        exact (Daemon.State.settle_held _ _ _).map _
      tells := by
        intro m hm
        obtain ⟨mask, rfl⟩ := Daemon.sent_request mPositionMode s.sys.daemon msg ret mIpcSender
          rc m hm
        exact .of_plain rfl rfl
      knownHandler := by
        intro h' hh' id hid
        rw [Daemon.stepActs_request mPositionMode hret, Daemon.State.settle_client] at hh'
        cases hc : s.sys.daemon.client with
        | some h =>
          rw [hc] at hh'
          rcases (Daemon.processClientMsg_succeeds mPositionMode h msg ret mIpcSender rc h'
            hh').keys id hid with hold | hnamed
          · exact hs.knownHandler h hc id hold
          · exact hs.knownRequests msg hmem id hnamed
        | none =>
          rw [hc] at hh'
          by_cases hreg : ∃ clientType, msg = .clientRegister clientType
          · -- a new handler knows no geofence
            obtain ⟨clientType, rfl⟩ := hreg
            cases Option.some.inj hh'
            exact absurd hid (AList.notMem_empty id)
          · rw [Daemon.LocationApiService.processClientMsg_none mPositionMode
              fun t heq => hreg ⟨t, heq⟩] at hh'
            exact absurd hh' (by simp) }

/-- The ids that a response takes out of the client's map are those that the daemon answers. -/
theorem respondedIds_gfResponse (h : Daemon.LocHalDaemonClientHandler) (label : ELocMsgID)
    (resp : List (UInt32 × LocationError)) :
    LocationClientApiImpl.respondedIds label (h.gfResponse resp) = h.answeredIds label resp := by
  simp [LocationClientApiImpl.respondedIds, Daemon.LocHalDaemonClientHandler.answeredIds,
    Daemon.LocHalDaemonClientHandler.gfResponse, List.filter_map, Function.comp_def, Bool.or_comm]

/-- No failure is told of a geofence that is held and stays. -/
theorem KeepsAnswer.failsNoneHeld {sys : Sys} {errs : List LocationError}
    (hkeeps : KeepsAnswer sys errs) {h : Daemon.LocHalDaemonClientHandler}
    (hh : h ∈ sys.daemon.client) (hsender : h.mIpcSender = true)
    (ht : Daemon.Tracks h sys.daemon.hal) (hlasting : ∀ id ∈ entrusted sys, Lasting sys id)
    {call : ELocMsgID × List UInt32} (hcall : call ∈ sys.daemon.hal.collectiveCalls.head?)
    (hlen : errs.length = call.2.length) :
    Daemon.FailsNoneHeld sys.daemon.hal call.1 (call.2.zip errs) := by
  intro r hr hadd hfails hholds
  obtain ⟨g, hg, hsession⟩ := List.mem_map.mp ((sys.daemon.hal.holds_iff r.1).mp hholds)
  have hkey : IdMap.keyOf h.mGfIdsMap r.1 0 = g.1 := hsession ▸ ht.keyOf hg
  have hanswer := hkeeps h hh hsender call hcall hlen r hr
  rw [if_neg hfails, hkey] at hanswer
  exact hanswer hadd (hlasting g.1 (List.mem_append_left _ (List.mem_map_of_mem hg)))

/-- A response, if it is one that keeps the maps to it. -/
theorem Agreed.tells_response (hs : Agreed s) {h : Daemon.LocHalDaemonClientHandler}
    (hh : h ∈ s.sys.daemon.client) (hsender : h.mIpcSender = true) {label : ELocMsgID}
    {ids : List UInt32} {calls : List (ELocMsgID × List UInt32)}
    (hcalls : s.sys.daemon.hal.collectiveCalls = (label, ids) :: calls)
    {errs : List LocationError} (hlen : errs.length = ids.length)
    (hkeeps : KeepsAnswer s.sys errs) :
    Tells s
      ((s.sys.daemon.hal.heldAfter label (ids.zip errs)).map Prod.fst ++
        s.sys.toDaemon.flatMap Daemon.addedIds)
      (.collectiveResp label (h.gfResponse (ids.zip errs))) := by
  have ht := hs.holding.tracks h hh hsender
  have hcall : (label, ids) ∈ s.sys.daemon.hal.collectiveCalls.head? := by simp [hcalls]
  have hanswer := hkeeps h hh hsender (label, ids) hcall hlen
  dsimp only at hanswer
  have hfails := hkeeps.failsNoneHeld hh hsender ht hs.lasting hcall hlen
  have hnonzero : ∀ g ∈ s.sys.daemon.hal.held, g.1 ≠ 0 := by
    intro g hg h0
    have hlast := hs.lasting g.1 (List.mem_append_left _ (List.mem_map_of_mem hg))
    exact hs.nonzero (h0 ▸ hs.mem_added hlast.1)
  -- what the client is told of the pair of a session and its error
  have hgf : ∀ r ∈ ids.zip errs,
      GeofenceResponse.mk (IdMap.keyOf h.mGfIdsMap r.1 0) r.2 ∈ h.gfResponse (ids.zip errs) :=
    fun r hr => List.mem_map_of_mem hr
  have hremoved : ∀ r ∈ ids.zip errs, label = .removeGeofences → r.2 = .success →
      IdMap.keyOf h.mGfIdsMap r.1 0 ∈
        removals (.collectiveResp label (h.gfResponse (ids.zip errs))) := by
    rintro r hr rfl hok
    exact List.mem_map.mpr ⟨_, List.mem_filter.mpr ⟨hgf r hr, by simp [hok]⟩, rfl⟩
  have herased : ∀ id ∈ erasedIds (.collectiveResp label (h.gfResponse (ids.zip errs))),
      id ∈ h.answeredIds label (ids.zip errs) := by
    intro id hid
    rwa [erasedIds, respondedIds_gfResponse] at hid
  exact
    { erased := by
        intro id hid hlast
        obtain ⟨r, hr, rfl⟩ := List.mem_map.mp (herased id hid)
        obtain ⟨hmem, hwhy⟩ := List.mem_filter.mp hr
        have hr' := hanswer r hmem
        by_cases hok : r.2 = .success
        · have hremove : label = .removeGeofences := by simpa [hok] using hwhy
          exact List.mem_append_right _ (hremoved r hmem hremove hok)
        · rw [if_neg hok] at hr'
          by_cases hadd : label = .addGeofences
          · subst hadd
            exact List.mem_append_left _ (List.mem_map.mpr
              ⟨_, List.mem_filter.mpr ⟨hgf r hmem, by simp [hok]⟩, rfl⟩)
          · -- the geofence is removed by the same response
            obtain ⟨hremove, hmem'⟩ := hr' hadd hlast
            exact List.mem_append_right _ (hremoved (r.1, .success) hmem' hremove rfl)
      kept := by
        intro id hid hmem
        have hans := herased id hmem
        rcases List.mem_append.mp hid with hheld | hasked
        · obtain ⟨g, hg, rfl⟩ := List.mem_map.mp hheld
          obtain ⟨hg, hstays⟩ := List.mem_filter.mp hg
          rw [(ht.answered_iff hnonzero hfails hg).mp hans] at hstays
          exact absurd hstays (by simp)
        · have hlast := hs.lasting id (List.mem_append_right _ hasked)
          obtain ⟨r, hr, rfl⟩ := List.mem_map.mp hans
          obtain ⟨hmem, hwhy⟩ := List.mem_filter.mp hr
          have hr' := hanswer r hmem
          by_cases hok : r.2 = .success
          · rw [if_pos hok] at hr'
            exact hr' (by simpa [hok] using hwhy) hasked
          · rw [if_neg hok] at hr'
            by_cases hadd : label = .addGeofences
            · -- the session of an add is none that is still to be asked for
              rcases IdMap.keyOf_cases h.mGfIdsMap r.1 0 with ⟨h0, -⟩ | hkey
              · exact hs.nonzero (h0 ▸ hs.mem_added hlast.1)
              · rcases ht.entries _ _ hkey with hzero | hheld
                · have hmem' := (List.of_mem_zip (hmem : (r.1, r.2) ∈ ids.zip errs)).1
                  exact ht.adds (label, ids) (by rw [hcalls]; exact List.mem_cons_self) hadd
                    (hzero ▸ hmem')
                · exact (List.nodup_append.mp hs.distinct).2.2 _
                    (List.mem_map_of_mem hheld) _ hasked rfl
            · obtain ⟨hremove, hmem'⟩ := hr' hadd hlast
              have hr'' := hanswer (r.1, .success) hmem'
              rw [if_pos rfl] at hr''
              exact hr'' hremove hasked
      known := by
        intro id hid
        obtain ⟨r, -, rfl⟩ := List.mem_map.mp (herased id hid)
        rcases IdMap.keyOf_cases h.mGfIdsMap r.1 0 with ⟨h0, -⟩ | hkey
        · exact .inr h0
        · exact .inl (hs.knownHandler h hh _ ((Daemon.mem_map_iff _ _).mpr ⟨_, hkey⟩))
      breach := fun _ hid => absurd hid List.not_mem_nil }

/-- A breach of geofences that `LocationAPI` holds. -/
theorem Agreed.tells_breach (hs : Agreed s) {h : Daemon.LocHalDaemonClientHandler}
    (hh : h ∈ s.sys.daemon.client) (hsender : h.mIpcSender = true) {ids : List UInt32}
    (hids : ids.all s.sys.daemon.hal.holds) (asked : List UInt32) :
    Tells s (s.sys.daemon.hal.held.map Prod.fst ++ asked)
      (.geofenceBreach (ids.map fun session => IdMap.keyOf h.mGfIdsMap session 0)) where
  erased := fun _ hid => absurd hid List.not_mem_nil
  kept := fun _ _ => List.not_mem_nil
  known := fun _ hid => absurd hid List.not_mem_nil
  breach := by
    intro id hid
    obtain ⟨session, hsession, rfl⟩ := List.mem_map.mp hid
    have hholds := (s.sys.daemon.hal.holds_iff session).mp (List.all_eq_true.mp hids _ hsession)
    obtain ⟨g, hg, rfl⟩ := List.mem_map.mp hholds
    rw [(hs.holding.tracks h hh hsender).keyOf hg]
    exact List.mem_append_left _ (List.mem_map_of_mem hg)

/-- What a callback sends. -/
theorem Agreed.tells_callback (hs : Agreed s) (mPositionMode : GnssSuplMode) {d : Daemon.Event}
    (hd : Daemon.isCallback d)
    (hkeeps : ∀ errs, d = .collectiveResponseCb errs true → KeepsAnswer s.sys errs) :
    ∀ msg ∈ Daemon.sentMsgs (Daemon.stepActs mPositionMode s.sys.daemon d).2,
      Tells s ((Daemon.stepActs mPositionMode s.sys.daemon d).1.hal.held.map Prod.fst ++
        s.sys.toDaemon.flatMap Daemon.addedIds) msg := by
  intro msg hmsg
  cases hc : s.sys.daemon.client with
  | none =>
    rw [Daemon.callback_none mPositionMode hc hd] at hmsg
    exact absurd hmsg List.not_mem_nil
  | some h =>
    have hsub := (Daemon.held_callback mPositionMode s.sys.daemon hd).map Prod.fst
    -- whatever is left of the geofences, it is no more than there were
    have hless : ∀ {left : List UInt32}, Tells s
        (left ++ s.sys.toDaemon.flatMap Daemon.addedIds) msg → breachIds msg = [] →
        (Daemon.stepActs mPositionMode s.sys.daemon d).1.hal.held.map Prod.fst ⊆ left →
        Tells s ((Daemon.stepActs mPositionMode s.sys.daemon d).1.hal.held.map Prod.fst ++
          s.sys.toDaemon.flatMap Daemon.addedIds) msg := by
      intro left ht hbreach hleft
      refine ⟨ht.erased, fun id hid => ht.kept id ?_, ht.known, by simp [hbreach]⟩
      exact (List.mem_append.mp hid).elim (fun hmem => List.mem_append_left _ (hleft hmem))
        (List.mem_append_right _)
    cases d with
    | request msg ret mIpcSender rc => exact absurd hd (by simp [Daemon.isCallback])
    | autoStart tbf ret mIpcSender => exact absurd hd (by simp [Daemon.isCallback])
    | capabilitiesCb mask rc =>
      simp only [Daemon.stepActs, hc] at hmsg
      cases Daemon.sent_onCapabilitiesCallback h mask rc msg hmsg
      exact .of_plain rfl rfl
    | responseCb err rc =>
      simp only [Daemon.stepActs, hc] at hmsg
      split at hmsg
      · cases Daemon.sent_onResponseCb _ err rc msg hmsg
        exact .of_plain rfl rfl
      · exact absurd hmsg List.not_mem_nil
    | collectiveResponseCb errs rc =>
      simp only [Daemon.stepActs, hc] at hmsg hless ⊢
      cases hcalls : s.sys.daemon.hal.collectiveCalls with
      | nil =>
        simp only [hcalls] at hmsg
        exact absurd hmsg List.not_mem_nil
      | cons call calls =>
        obtain ⟨label, ids⟩ := call
        simp only [hcalls] at hmsg hless ⊢
        split at hmsg
        · rename_i hlen
          obtain ⟨rfl, hsender, rfl⟩ :=
            Daemon.sent_onCollectiveResponseCallback h (ids.zip errs) rc msg hmsg
          have hpend := (hs.holding.tracks h hc hsender).pending
          rw [hcalls, List.map_cons] at hpend
          rw [hpend, List.head?_cons, Option.getD_some] at hless ⊢
          have ht := hs.tells_response hc hsender hcalls hlen (hkeeps errs rfl)
          refine hless ht rfl ?_
          rw [if_pos hlen]
          exact ((Daemon.State.settle_held _ _ _).map _).subset
        · exact absurd hmsg List.not_mem_nil
    | geofenceBreachCb ids rc =>
      simp only [Daemon.stepActs, hc] at hmsg ⊢
      split at hmsg
      · rename_i hids
        rw [if_pos hids]
        obtain ⟨rfl, hsender, rfl⟩ := Daemon.sent_onGeofenceBreachCb h ids rc msg hmsg
        rw [h.onGeofenceBreachCb_true ids, Daemon.State.settle_hal]
        exact hs.tells_breach hc hsender hids _
      · exact absurd hmsg List.not_mem_nil

/-- **A callback.** -/
theorem Agreed.callback (hs : Agreed s) (mPositionMode : GnssSuplMode) {d : Daemon.Event}
    (hd : Daemon.isCallback d)
    (hkeeps : ∀ errs, d = .collectiveResponseCb errs true → KeepsAnswer s.sys errs) :
    Serves s s.sys.toDaemon (Daemon.stepActs mPositionMode s.sys.daemon d).1
      (Daemon.sentMsgs (Daemon.stepActs mPositionMode s.sys.daemon d).2) where
  holding := by
    refine hs.holding.callback mPositionMode hd (fun g hg h0 => ?_) ?_
    · have hlast := hs.lasting g.1 (List.mem_append_left _ (List.mem_map_of_mem hg))
      exact hs.nonzero (h0 ▸ hs.mem_added hlast.1)
    · intro errs heq h hh hsender call hcall hlen
      exact (hkeeps errs heq).failsNoneHeld hh hsender (hs.holding.tracks h hh hsender)
        hs.lasting hcall hlen
  subset := fun _ h => h
  entrusted := ((Daemon.held_callback mPositionMode s.sys.daemon hd).map _).append (.refl _)
  tells := hs.tells_callback mPositionMode hd hkeeps
  knownHandler := by
    intro h' hh' id hid
    cases hc : s.sys.daemon.client with
    | none =>
      rw [Daemon.callback_none mPositionMode hc hd, hc] at hh'
      exact absurd hh' (by simp)
    | some h =>
      rcases (Daemon.callback_succeeds mPositionMode hc hd h' hh').keys id hid with hold | hnone
      · exact hs.knownHandler h hc id hold
      · exact absurd hnone List.not_mem_nil

/-- **A restart** leaves no geofence. -/
theorem Serves.restart : Serves s [] .init [.halReady] where
  holding := Daemon.init_holding
  subset := fun _ h => absurd h List.not_mem_nil
  entrusted := List.nil_sublist _
  tells := fun _ hmsg => List.mem_singleton.mp hmsg ▸ .of_plain rfl rfl
  knownHandler := fun _ hh => absurd hh (by simp [Daemon.State.init])

end Steps

/-! ## Runs -/

/-- **One step** that keeps the maps to what was asked and answered. -/
theorem step_agreed (mPositionMode : GnssSuplMode) (s : Geofenced) (e : Event) (hs : Agreed s)
    (hkeeps : Keeps s e) : Agreed (step mPositionMode s e) := by
  cases e with
  | call a sent =>
    have hcall := hs.call a hkeeps
    simpa [step, Link.step, Sys.clientWork, clientSends, clientReceives, sends] using hcall
  | processClientMsg ret mIpcSender rc =>
    cases hq : s.sys.toDaemon with
    | nil => simpa [step, Link.step, hq, clientSends, clientReceives] using hs
    | cons msg rest =>
      by_cases hret : s.sys.daemon.hal.MayAnswer ret msg
      · have hserves := hs.serves (hs.request mPositionMode hq hret mIpcSender rc)
        simpa [step, Link.step, hq, hret, Sys.daemonWork, clientSends, clientReceives, serves]
          using hserves
      · simpa [step, Link.step, hq, hret, clientSends, clientReceives] using hs
  | callback d =>
    by_cases hd : Daemon.isCallback d
    · have hserves := hs.serves (hs.callback mPositionMode hd (by
        rintro errs rfl
        exact hkeeps rfl))
      simpa [step, Link.step, hd, Sys.daemonWork, clientSends, clientReceives, serves]
        using hserves
    · simpa [step, Link.step, hd, clientSends, clientReceives] using hs
  | onReceive sent =>
    cases hq : s.sys.toClient with
    | nil => simpa [step, Link.step, hq, clientSends, clientReceives] using hs
    | cons msg rest =>
      obtain ⟨hcallback, hresends⟩ := hkeeps msg (by rw [hq]; rfl)
      by_cases hcap : ∃ mask, msg = .capabilities mask
      · obtain ⟨mask, rfl⟩ := hcap
        have hpopped : Agreed (s.received (.capabilities mask) rest s.sys.client) :=
          hs.received hq fun id => by simp [erasedIds]
        have hsends : Agreed ((s.received (.capabilities mask) rest s.sys.client).sends _ _) :=
          @Agreed.capabilities _ hpopped sent fun hreg hsent => by
            obtain ⟨hnodup, hresent⟩ := hresends rfl hreg hsent
            refine ⟨hnodup, fun id hid => ?_⟩
            obtain ⟨⟨hmap, herased⟩, hnot⟩ := hresent id hid
            rw [hq, List.flatMap_cons, List.mem_append, not_or] at herased
            exact ⟨⟨hmap, herased.2⟩, hnot⟩
        simpa [step, Link.step, hq, Sys.clientWork, clientSends, clientReceives, received, sends,
          LocationClientApiImpl.onReceive] using hsends
      · have hnot : ∀ mask, msg ≠ .capabilities mask := fun mask heq => hcap ⟨mask, heq⟩
        have herased : s.sys.client.mLocationCbs.collectiveResponseCb = true ∨
            ∀ id ∈ erasedIds msg, id ∉ s.sys.client.mGeofenceMap := by
          refine hcallback.imp_right fun hall id hid hmem => ?_
          have hdeliverable := hs.deliverable
          rw [hq] at hdeliverable
          exact of_decide_eq_true (List.all_eq_true.mp hall id (hdeliverable.1 id hid hmem)) hmem
        have hreceived := hs.received hq (onReceive_keys s.sys.client hnot herased)
        simpa [step, Link.step, hq, Sys.clientWork, clientSends, clientReceives, received,
          s.sys.client.sent_onReceive hnot] using hreceived
  | restart =>
    have hserves := hs.serves .restart
    simpa [step, Link.step, clientSends, clientReceives, serves] using hserves

/-- A client whose map has the geofences of a breach tells the application of it. -/
theorem outOfRange_notMem (c : LocationClientApiImpl) {ids : List UInt32}
    (hids : ∀ id ∈ ids, id ∈ c.mGeofenceMap) (id : UInt32) :
    .outOfRange id ∉ (c.onReceive (.geofenceBreach ids)).2 := by
  have hfind : ids.find? (fun id => decide (id ∉ c.mGeofenceMap)) = none :=
    List.find?_eq_none.mpr fun id hid => by simpa using hids id hid
  rw [LocationClientApiImpl.onReceive, LocationClientApiImpl.onGeofenceBreach, hfind]
  split <;> simp

theorem Agreed.sound {s : Geofenced} (hs : Agreed s) (mPositionMode : GnssSuplMode) :
    Sound mPositionMode s where
  breach := by
    intro ids rc hids msg hmsg
    cases hc : s.sys.daemon.client with
    | none =>
      rw [Daemon.callback_none mPositionMode hc rfl] at hmsg
      exact absurd hmsg List.not_mem_nil
    | some h =>
      simp only [Daemon.stepActs, hc, if_pos hids] at hmsg
      obtain ⟨rfl, hsender, -⟩ := Daemon.sent_onGeofenceBreachCb h ids rc msg hmsg
      exact ⟨_, rfl, (hs.holding.tracks h hc hsender).translates hids⟩
  found := by
    intro ids rest hq
    have hdeliverable := hs.deliverable
    rw [hq] at hdeliverable
    have hids : ∀ id ∈ ids, id ∈ s.sys.client.mGeofenceMap := hdeliverable.2.1
    exact ⟨hids, outOfRange_notMem s.sys.client hids⟩
  entries := hs.entries

/-- **Breaches are delivered.**  In a run whose steps keep the maps to what was asked and
answered, every breach is told under the ids of its geofences, the client finds each of them, and
its map has exactly the geofences that were added and are not gone. -/
theorem breaches_delivered (mPositionMode : GnssSuplMode)
    (mClientId : { id : UInt32 // id ≠ 0 }) (es : List Event)
    (hkeeps : Meets (step mPositionMode) Keeps (init mClientId) es) :
    Throughout (step mPositionMode) (Sound mPositionMode) (init mClientId) es :=
  (throughout_of_meets (step_agreed mPositionMode) (init_agreed mClientId) hkeeps).imp
    fun _ hs => hs.sound mPositionMode

/-- The daemon processes a message; what is added gets the sessions `ids`. -/
def processes (ids : Option (List UInt32)) : Event := .processClientMsg ⟨0, 0, ids⟩ true true

/-- The client registers and is told the capabilities. -/
def registers : List Event :=
  [.call .clientRegister true, processes none, .callback (.capabilitiesCb 1 true),
    .onReceive true]

/-- The client adds geofences of the ids, which get the sessions `sessions`, and the add is
answered with `errs`. -/
def adds (ids sessions : List UInt32) (errs : List LocationError) : List Event :=
  [.call (.addGeofences
      { Client.LocationCallbacks.zero with collectiveResponseCb := true, geofenceBreachCb := true }
      (ids.map fun id => ⟨id, ⟨1, 0, 0⟩, ⟨0, 0, 0⟩⟩)) true,
    processes none, processes (some sessions), .callback (.collectiveResponseCb errs true),
    .onReceive true]

/-- Of three geofences one fails; another is paused, and changed while both are breached, and
removed. -/
theorem breaches_delivered_sample :
    Throughout (step .standalone) (Sound .standalone) (init ⟨1, by decide⟩)
      (registers ++ adds [10, 20, 30] [1, 2, 3] [.success, .success, .generalFailure] ++
        [.call (.pauseGeofences [20]) true, processes none,
          .callback (.collectiveResponseCb [.success] true), .onReceive true,
          .call (.modifyGeofences [(20, ⟨2, 0, 0⟩)]) true, processes none,
          .callback (.geofenceBreachCb [2, 1] true),
          .callback (.collectiveResponseCb [.success] true), .onReceive true, .onReceive true,
          .call (.removeGeofences [20]) true, processes none,
          .callback (.geofenceBreachCb [2] true),
          .callback (.collectiveResponseCb [.success] true), .onReceive true, .onReceive true]) :=
  breaches_delivered .standalone _ _ (by decide +kernel)

/-- A pause fails for a geofence that `LocationAPI` goes on to hold: the client takes it out of
its map. -/
theorem failed_pause_removes :
    ¬Throughout (step .standalone) (Sound .standalone) (init ⟨1, by decide⟩)
      (registers ++ adds [10] [1] [.success] ++
        [.call (.pauseGeofences [10]) true, processes none,
          .callback (.collectiveResponseCb [.timeout] true), .onReceive true]) := by
  intro hall
  exact absurd (hall.last.entries 10) (by decide +kernel)

end Geofenced

end LocationStack.Link
