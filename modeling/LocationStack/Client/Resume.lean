import LocationStack.Client.Calls

/-! # Sending the geofences again

A client that is registered again after the daemon restarted sends the geofences of
`mGeofenceMap` in one message.  Options and areas are taken from the map in the order of
its iteration, the client ids from `mLastAddedClientIds`, which the last add has left
behind, and the payload has room for `MAX_GEOFENCE_ENTRY` geofences.  This module says
exactly when what is sent is what the map holds.
-/
namespace LocationStack.Client

open Ipc EventRun

/-- The geofences of the map, each under its own client id. -/
def LocationClientApiImpl.mapped (c : LocationClientApiImpl) : List GeofencePayload :=
  c.mGeofenceMap.entries.map fun entry => { entry.2 with gfClientId := entry.1 }

/-- The geofences of the add messages among what was done. -/
def addedGeofences (outs : List Out) : List GeofencePayload :=
  (sentReqs outs).flatMap fun
    | .addGeofences geofences => geofences
    | _ => []

/-- The places of `mLastAddedClientIds` and of `gfPayload` that `addGeofences` reads and
writes for the geofences. -/
def indexed (geofences : List GeofencePayload) : List Nat := geofences.zipIdx.map Prod.snd

/-- A client that is registered again sends every geofence of the map once, as it is in
the map, and runs over the end of no array. -/
structure ResendsMap (c : LocationClientApiImpl) : Prop where
  sent : (addedGeofences c.onHalReady.capabilitesCallback.2).Perm c.mapped
  vector : ∀ i ∈ indexed c.mapped, i < c.mLastAddedClientIds.length
  payload : ∀ i ∈ indexed c.mapped, i < maxGeofenceEntry

/-- The geofence that iteration over the map comes to at place `i` has the option and the
area of the one under the `i`-th id of the last add. -/
def Paired (c : LocationClientApiImpl) (geofence : GeofencePayload × Nat) : Prop :=
  (c.mGeofenceMap.lookup (c.mLastAddedClientIds.getD geofence.2 0)).map
      (fun g => (g.gfOption, g.gfInfo)) = some (geofence.1.gfOption, geofence.1.gfInfo)

/-- What the map holds fits into a message, and the last add has left as many distinct
ids, in the order in which iteration comes to their geofences. -/
def Resendable (c : LocationClientApiImpl) : Prop :=
  c.mGeofenceMap.entries.length ≤ maxGeofenceEntry ∧
    c.mGeofenceMap.entries.length ≤ c.mLastAddedClientIds.length ∧
    (c.mLastAddedClientIds.take c.mGeofenceMap.entries.length).Nodup ∧
    ∀ geofence ∈ c.mapped.zipIdx, Paired c geofence

instance (c : LocationClientApiImpl) (geofence : GeofencePayload × Nat) :
    Decidable (Paired c geofence) := inferInstanceAs (Decidable (_ = _))

instance (c : LocationClientApiImpl) : Decidable (Resendable c) :=
  inferInstanceAs (Decidable (_ ∧ _ ∧ _ ∧ _))

/-! ## What is sent -/

theorem indexed_eq (geofences : List GeofencePayload) :
    indexed geofences = List.range geofences.length := by
  rw [indexed, List.zipIdx_map_snd, List.range_eq_range']

/-- Every place up to `n` is below `m` exactly when `n` is no more than `m`. -/
theorem forall_indexed_lt (geofences : List GeofencePayload) (m : Nat) :
    (∀ i ∈ indexed geofences, i < m) ↔ geofences.length ≤ m := by
  rw [indexed_eq]
  constructor
  · intro h
    by_contra hlt
    have := h m (List.mem_range.mpr (by omega))
    omega
  · intro h i hi
    exact Nat.lt_of_lt_of_le (List.mem_range.mp hi) h

/-- What `addGeofences` makes of the geofences of the map: each under the id that the last
add left at its place. -/
def LocationClientApiImpl.repaired (c : LocationClientApiImpl) : List GeofencePayload :=
  c.mapped.zipIdx.map fun g => { g.1 with gfClientId := c.mLastAddedClientIds.getD g.2 0 }

namespace LocationClientApiImpl

variable (c : LocationClientApiImpl)

/-- Sessions are resumed without a geofence and without a change to the geofences. -/
theorem resumeSession_geofences :
    addedGeofences c.resumeSession.2 = [] ∧
      c.resumeSession.1.mGeofenceMap = c.mGeofenceMap ∧
      c.resumeSession.1.mLastAddedClientIds = c.mLastAddedClientIds := by
  unfold resumeSession
  split
  · refine ⟨?_, by rw [startTrackingSync_fst], by rw [startTrackingSync_fst]⟩
    rw [addedGeofences, sent_startTrackingSync]
    repeat' split
    all_goals simp
    -- a session that was taken back is started, not updated
    exact absurd ‹isInTracking _ = true› (by simp)
  · split
    · refine ⟨?_, by rw [startBatchingSync_fst], by rw [startBatchingSync_fst]⟩
      rw [addedGeofences, sent_startBatchingSync]
      repeat' split
      all_goals simp
    · exact ⟨rfl, rfl, rfl⟩

/-- The geofences of the map are sent in one message. -/
theorem sent_geofenceMap (hreg : c.mHalRegistered) :
    sentReqs (c.sendGeofences (c.mGeofenceMap.entries.map Sigma.snd)).2 =
      [.addGeofences (c.repaired.take maxGeofenceEntry)] := by
  have hrepaired : c.repaired = (c.mGeofenceMap.entries.map Sigma.snd).zipIdx.map fun g =>
      { g.1 with gfClientId := c.mLastAddedClientIds.getD g.2 0 } := by
    simp [repaired, mapped, List.zipIdx_map, Function.comp_def]
  rw [sent_sendGeofences, if_pos hreg, hrepaired]

theorem entries_of_empty (h : c.isGeofenceMapEmpty = true) : c.mGeofenceMap.entries = [] := by
  simpa [isGeofenceMapEmpty, AList.keys, List.keys] using h

/-- A client that is told the capabilities has the geofences it had. -/
theorem capabilitesCallback_map : c.capabilitesCallback.1.mGeofenceMap = c.mGeofenceMap := by
  unfold capabilitesCallback
  dsimp only
  split
  · rfl
  · rw [Result.andThen_fst, resumeGeofenceMap_fst, Result.andThen_fst]
    exact (resumeSession_geofences _).2.1

theorem sent_resumeGeofenceMap (hreg : c.mHalRegistered = true) :
    sentReqs c.resumeGeofenceMap.2 =
      if c.isGeofenceMapEmpty then [] else [.addGeofences (c.repaired.take maxGeofenceEntry)] := by
  unfold resumeGeofenceMap
  cases c.isGeofenceMapEmpty with
  | true => rfl
  | false => exact c.sent_geofenceMap hreg

/-- What a client that is told the capabilities makes of itself, when it was not registered. -/
theorem capabilitesCallback_fst (hreg : c.mHalRegistered = false) :
    c.capabilitesCallback.1 =
      { c with
        mHalRegistered := true
        mSessionId := if c.isInTracking then c.mClientId else c.mSessionId
        mBatchingId :=
          if !c.isInTracking && c.isInBatching then c.mClientId else c.mBatchingId } := by
  unfold capabilitesCallback
  dsimp only
  rw [if_neg (by simp [hreg]), Result.andThen_fst, resumeGeofenceMap_fst, Result.andThen_fst,
    resumeSession_fst _ rfl]
  rfl

theorem sent_capabilitesCallback (hreg : c.mHalRegistered = false) :
    sentReqs c.capabilitesCallback.2 =
      (if c.mCallbacksMask ≠ 0 then [.updateCallbacks c.mCallbacksMask] else []) ++
        (sentReqs ({ c with mHalRegistered := true } : LocationClientApiImpl).resumeSession.2 ++
          if c.isGeofenceMapEmpty then []
          else [.addGeofences (c.repaired.take maxGeofenceEntry)]) := by
  unfold capabilitesCallback
  dsimp only
  rw [if_neg (by simp [hreg]), Result.andThen_snd, Result.andThen_snd, Result.andThen_fst,
    sentReqs_append, sentReqs_append, sent_resumeGeofenceMap _ (by rw [resumeSession_registered]),
    resumeSession_fst _ rfl, List.append_assoc]
  congr 1
  by_cases hmask : c.mCallbacksMask = 0
  · rw [if_neg (by simp [hmask]), if_neg (by simp [hmask])]
    rfl
  · rw [if_pos hmask, if_pos hmask]
    rfl
/-- **What is sent again.** -/
theorem capabilitesCallback_added :
    addedGeofences c.onHalReady.capabilitesCallback.2 = c.repaired.take maxGeofenceEntry := by
  rw [addedGeofences, c.onHalReady.sent_capabilitesCallback rfl, List.flatMap_append,
    List.flatMap_append]
  have hsession := (resumeSession_geofences { c.onHalReady with mHalRegistered := true }).1
  rw [addedGeofences] at hsession
  rw [hsession, List.nil_append]
  have hmask : (if c.onHalReady.mCallbacksMask ≠ 0 then
      [ReqMsg.updateCallbacks c.onHalReady.mCallbacksMask] else []).flatMap (fun
        | .addGeofences geofences => geofences
        | _ => []) = [] := by
    split <;> rfl
  rw [hmask, List.nil_append]
  cases hempty : c.onHalReady.isGeofenceMapEmpty with
  | true =>
    have hentries : c.mGeofenceMap.entries = [] := c.entries_of_empty hempty
    simp [repaired, mapped, hentries]
  | false => exact List.flatMap_singleton _ _

end LocationClientApiImpl

/-! ## When it is the map -/

variable {c : LocationClientApiImpl}

theorem mapped_ids : c.mapped.map GeofencePayload.gfClientId = c.mGeofenceMap.keys := by
  simp [LocationClientApiImpl.mapped, AList.keys, List.keys, Function.comp_def]

/-- A geofence is sent as it is in the map if the map has it under its id. -/
theorem mem_mapped_iff (g : GeofencePayload) :
    g ∈ c.mapped ↔
      (c.mGeofenceMap.lookup g.gfClientId).map (fun g => (g.gfOption, g.gfInfo)) =
        some (g.gfOption, g.gfInfo) := by
  rw [LocationClientApiImpl.mapped, List.mem_map]
  constructor
  · rintro ⟨⟨id, g⟩, hmem, rfl⟩
    dsimp only
    rw [AList.mem_lookup_iff.mpr hmem]
    rfl
  · intro hlookup
    obtain ⟨g', hg', heq⟩ := Option.map_eq_some_iff.mp hlookup
    refine ⟨⟨g.gfClientId, g'⟩, AList.mem_lookup_iff.mp hg', ?_⟩
    cases g
    cases g'
    simp_all

theorem repaired_ids (hlen : c.mapped.length ≤ c.mLastAddedClientIds.length) :
    c.repaired.map GeofencePayload.gfClientId =
      c.mLastAddedClientIds.take c.mapped.length := by
  apply List.ext_getElem
  · simp [LocationClientApiImpl.repaired, hlen]
  · intro i h₁ h₂
    have hi : i < c.mLastAddedClientIds.length := by
      simp only [List.length_take] at h₂
      omega
    simp [LocationClientApiImpl.repaired, List.getElem?_eq_getElem hi]

/-- The places at which what is sent is not as it is in the map. -/
theorem paired_iff_subset : (∀ g ∈ c.mapped.zipIdx, Paired c g) ↔ c.repaired ⊆ c.mapped := by
  rw [LocationClientApiImpl.repaired]
  constructor
  · intro h g hg
    obtain ⟨p, hp, rfl⟩ := List.mem_map.mp hg
    exact (mem_mapped_iff _).mpr (h p hp)
  · intro h p hp
    exact (mem_mapped_iff _).mp (h (List.mem_map_of_mem hp))

theorem mapped_length : c.mapped.length = c.mGeofenceMap.entries.length := by
  simp [LocationClientApiImpl.mapped]

theorem ResendsMap.resendable (h : ResendsMap c) : Resendable c := by
  obtain ⟨hsent, hvector, hpayload⟩ := h
  have hrlen : c.repaired.length = c.mapped.length := by simp [LocationClientApiImpl.repaired]
  rw [forall_indexed_lt] at hvector hpayload
  rw [c.capabilitesCallback_added, List.take_of_length_le (by omega)] at hsent
  rw [Resendable, paired_iff_subset, ← mapped_length]
  refine ⟨hpayload, hvector, ?_, hsent.subset⟩
  rw [← repaired_ids hvector, (hsent.map _).nodup_iff, mapped_ids]
  exact c.mGeofenceMap.keys_nodup

theorem Resendable.resendsMap (h : Resendable c) : ResendsMap c := by
  rw [Resendable, paired_iff_subset, ← mapped_length] at h
  obtain ⟨hpayload, hvector, hnodup, hsub⟩ := h
  have hrlen : c.repaired.length = c.mapped.length := by simp [LocationClientApiImpl.repaired]
  refine ⟨?_, (forall_indexed_lt _ _).mpr hvector, (forall_indexed_lt _ _).mpr hpayload⟩
  rw [c.capabilitesCallback_added, List.take_of_length_le (by omega)]
  rw [← repaired_ids hvector] at hnodup
  exact (List.subperm_of_subset (List.Nodup.of_map _ hnodup) hsub).perm_of_length_le (by omega)

/-- **Geofences survive a restart.**  A client that is registered again sends exactly what
its map holds, and runs over the end of no array, if and only if the map is
`Resendable`. -/
theorem geofences_resent (c : LocationClientApiImpl) : ResendsMap c ↔ Resendable c :=
  ⟨ResendsMap.resendable, Resendable.resendsMap⟩

/-- A registered client adds two geofences, one after the other. -/
def twoAdds : List Event :=
  let add := fun id : UInt32 =>
    Event.call (.addGeofences { LocationCallbacks.zero with collectiveResponseCb := true }
      [⟨id, ⟨1, 0, 0⟩, ⟨0, 0, 0⟩⟩])
  [.receive (.capabilities 1), add 10,
    .receive (.collectiveResp .addGeofences [⟨10, .success⟩]), add 20,
    .receive (.collectiveResp .addGeofences [⟨20, .success⟩])]

/-- The ids of the first add are gone: after a restart one geofence is sent without its
own id, read from behind the end of the vector. -/
theorem geofences_not_resent : ¬ResendsMap (run step (.new ⟨1, by decide⟩) twoAdds) := by
  intro h
  exact absurd h.resendable (by decide +kernel)

end LocationStack.Client
