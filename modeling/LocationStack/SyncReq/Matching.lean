import Mathlib.Data.Finset.Card
import Mathlib.Data.List.Forall2
import LocationStack.SyncReq.Success

/-! # Several calls waiting for the same indication

A group of calls with one client handle and one indication id compete for the
indications that come.  `loc_sync_process_ind` serves the first slot that wants the
indication, and a slot goes on wanting it after it was served while its owner waited:
`ind_has_arrived` is set only in a slot whose owner does not wait yet.  A second
indication that comes before that owner has freed its slot then overwrites the first,
and another call goes without.

In a run in which this does not happen (`Punctual`), each of the indications goes to one
call of the group, each call gets one, and keeps it (`one_each`).
-/
namespace LocationStack.SyncReq

open EventRun

variable {K : Type} [DecidableEq K]

/-- The indication is for `clientHandle` and `indId`. -/
def Indication.isFor (ind : Indication) (clientHandle : LocClientHandle) (indId : UInt32) : Bool :=
  (ind.clientHandle == clientHandle) && (ind.indId == indId)

theorem Indication.isFor_iff {ind : Indication} {clientHandle : LocClientHandle}
    {indId : UInt32} :
    ind.isFor clientHandle indId = true ↔
      ind.clientHandle = clientHandle ∧ ind.indId = indId := by
  simp [isFor]

/-- The indications processed so far for this handle and id, in order. -/
def State.processedFor (s : State K) (clientHandle : LocClientHandle) (indId : UInt32) :
    List Indication :=
  s.processed.filter (·.isFor clientHandle indId)

/-- The call has selected its indication, now or before. -/
def CallPhase.hasSelected : CallPhase → Bool
  | .idle | .selecting _ => false
  | _ => true

/-- The calls of `G` are those that wait for this handle and id. -/
def Waits (req : K → Request) (clientHandle : LocClientHandle) (indId : UInt32)
    (G : Finset K) : Prop :=
  ∀ k, k ∈ G ↔ (req k).clientHandle = clientHandle ∧ (req k).indId = indId

/-! ## The runs considered -/

section

variable (req : K → Request) (clientHandle : LocClientHandle) (indId : UInt32) (G : Finset K)

/-- An indication for the group comes only when all its calls have selected, and no more
of them come than there are calls. -/
def InOrder (s : State K) : Event K → Prop
  | .processInd ind => ind.isFor clientHandle indId = true →
      (∀ k ∈ G, (s.phase k).hasSelected = true) ∧
        (s.processedFor clientHandle indId).length < G.card
  | _ => True

/-- The calls of the group find a slot, send their request, and wake up because they were
signalled; an indication for them carries a payload, and the first slot that wants it is
that of a call which asked for the payload and has not been signalled already. -/
def Punctual (s : State K) : Event K → Prop
  | .alloc k => k ∈ G → s.phase k = .idle → ∃ i, s.arr.slotInUse i = false
  | .send k status => k ∈ G → ∀ i, s.phase k = .sending i → status = .success
  | .wake k timedOut =>
      k ∈ G → ∀ i, s.phase k = .waiting i → timedOut = false ∧ s.signalled k = true
  | .processInd ind => ind.isFor clientHandle indId = true →
      ind.HasPayload ∧ ∀ i, s.arr.firstWanting ind = some i →
        ∃ k ∈ G, (s.phase k).selected = some i ∧ (req k).hasPayloadPtr = true ∧
          s.signalled k = false
  | _ => True

instance (s : State K) : ∀ e, Decidable (InOrder clientHandle indId G s e)
  | .processInd _ => by unfold InOrder; infer_instance
  | .alloc _ | .select _ | .send _ _ | .enterWait _ | .wake _ _ | .free _ => isTrue trivial

instance (s : State K) : ∀ e, Decidable (Punctual req clientHandle indId G s e)
  | .alloc _ | .send _ _ | .wake _ _ | .processInd _ => by unfold Punctual; infer_instance
  | .select _ | .enterWait _ | .free _ => isTrue trivial

/-- The indications for the group, in the order in which they came, went to the calls
`order`, one to each. -/
structure Assigned (s : State K) (order : List K) : Prop where
  nodup : order.Nodup
  mem : ∀ k ∈ order, k ∈ G
  gets : List.Forall₂ (fun k ind => s.received k = [ind]) order
    (s.processedFor clientHandle indId)
  rest : ∀ k ∈ G, k ∉ order → s.received k = []

/-- **One indication each.**  The indications for the group went to distinct calls, one to
each; a call's buffer holds the one it got; a call that has returned has got one, and
returned success; and when as many have come as there are calls, each call has got one. -/
structure OneEach (s : State K) : Prop where
  assigned : ∃ order, Assigned clientHandle indId G s order
  buffer : ∀ k ∈ G, ∀ ind, s.received k = [ind] → (req k).hasPayloadPtr = true →
    (s.mem k).take ind.bytes.length = ind.bytes
  returned : ∀ k ∈ G, ∀ status, s.phase k = .returned status →
    status = .success ∧ ∃ ind, s.received k = [ind]
  complete : (s.processedFor clientHandle indId).length = G.card →
    ∀ k ∈ G, ∃ ind, s.received k = [ind]

end

/-! ## A call of the group -/

/-- Beyond its progress, a call of the group does not fail, and once it has received an
indication its slot is marked as arrived or the call was signalled: while it waits, the
second. -/
def Live (s : State K) (k : K) : CallPhase → Prop
  | .sending i | .entering i =>
      s.received k ≠ [] → (s.arr.slots i).indHasArrived = true
  | .waiting i =>
      (s.arr.slots i).indHasArrived = false ∧ (s.received k ≠ [] → s.signalled k = true)
  | .leaving i ret =>
      ret = 0 ∧ (s.received k ≠ [] →
        (s.arr.slots i).indHasArrived = true ∨ s.signalled k = true)
  | .abandoning _ _ => False
  | .returned status => status = .success
  | .idle | .selecting _ => True

omit [DecidableEq K] in
theorem Live.of_eq {s s' : State K} {k : K} {p : CallPhase} (h : Live s k p)
    (hreceived : s'.received k = s.received k) (hsignalled : s'.signalled k = s.signalled k)
    (harrived : ∀ i, p.selected = some i →
      (s'.arr.slots i).indHasArrived = (s.arr.slots i).indHasArrived) : Live s' k p := by
  cases p with
  | idle | selecting | abandoning | returned => exact h
  | sending i | entering i | waiting i | leaving i ret =>
    simp only [Live, hreceived, hsignalled, harrived i rfl]
    exact h

omit [DecidableEq K] in
/-- A call whose slot still wants its indication, and which was not signalled, has
received nothing. -/
theorem Live.unserved {s : State K} {k : K} (h : Live s k (s.phase k)) {i : SelectId}
    (hsel : (s.phase k).selected = some i) (harrived : (s.arr.slots i).indHasArrived = false)
    (hsignalled : s.signalled k = false) : s.received k = [] := by
  by_contra hne
  cases hphase : s.phase k with
  | idle | selecting | returned => simp [hphase, CallPhase.selected] at hsel
  | sending j | entering j =>
    rw [hphase] at h hsel
    cases hsel
    rw [h hne] at harrived
    cases harrived
  | waiting j =>
    rw [hphase] at h
    rw [h.2 hne] at hsignalled
    cases hsignalled
  | leaving j ret =>
    rw [hphase] at h hsel
    cases hsel
    rcases h.2 hne with h' | h'
    · rw [h'] at harrived
      cases harrived
    · rw [h'] at hsignalled
      cases hsignalled
  | abandoning j status =>
    rw [hphase] at h
    exact h

variable {req : K → Request} {clientHandle : LocClientHandle} {indId : UInt32} {G : Finset K}

omit [DecidableEq K] in
theorem Punctual.steady {k : K} (hk : k ∈ G) {s : State K} {e : Event K}
    (h : Punctual req clientHandle indId G s e) : Steady k s e := by
  cases e with
  | alloc k' =>
    rintro rfl
    exact h hk
  | wake k' timedOut =>
    rintro rfl i hi
    exact Or.inr (h hk i hi).2
  | select | send | enterWait | free | processInd => trivial

/-- An indication processed into the slot of a call marks it as arrived, or signals the
call if it waits. -/
theorem Live.processInd {k : K} {s : State K} (howned : Owned req s)
    (h : Live s k (s.phase k)) (ind : Indication) :
    Live (step req s (.processInd ind)) k (s.phase k) := by
  have hp := locSyncProcessInd_processed ind s.arr s.mem
  have harrived : ∀ i, ((step req s (.processInd ind)).arr.slots i).indHasArrived = true ↔
      (s.arr.slots i).indHasArrived = true ∨
        (i ∈ (locSyncProcessInd ind s.arr s.mem).delivered ∧
          (s.arr.slots i).indIsWaiting = false) := hp.arrived
  by_cases hdel : ∃ i, (s.phase k).selected = some i ∧
      i ∈ (locSyncProcessInd ind s.arr s.mem).delivered
  · obtain ⟨i, hsel, hi⟩ := hdel
    have hwaiting := (howned.selected k i hsel).waiting
    have hmarked : (∀ j, s.phase k ≠ .waiting j) →
        ((step req s (.processInd ind)).arr.slots i).indHasArrived = true := by
      intro hnot
      refine (harrived i).mpr (Or.inr ⟨hi, ?_⟩)
      cases hw : (s.arr.slots i).indIsWaiting with
      | false => rfl
      | true => exact absurd (hwaiting.mp hw) (hnot i)
    cases hphase : s.phase k with
    | idle | selecting | returned => simp [hphase, CallPhase.selected] at hsel
    | sending j | entering j =>
      rw [hphase] at hsel
      cases hsel
      exact fun _ => hmarked (by simp [hphase])
    | waiting j =>
      rw [hphase] at h hsel
      cases hsel
      have hw := hwaiting.mpr hphase
      refine ⟨?_, fun _ => ?_⟩
      · rw [Bool.eq_false_iff]
        intro harr
        rcases (harrived i).mp harr with harr | ⟨_, hnot⟩
        · rw [h.1] at harr
          cases harr
        · rw [hw] at hnot
          cases hnot
      · have hsig := (hp.signalled i).mpr ⟨hi, hw⟩
        simp [step, hphase, CallPhase.slot, hsig]
    | leaving j ret =>
      rw [hphase] at h hsel
      cases hsel
      exact ⟨h.1, fun _ => Or.inl (hmarked (by simp [hphase]))⟩
    | abandoning j status =>
      rw [hphase] at h
      exact h
  · have hnot : ∀ i, (s.phase k).selected = some i →
        i ∉ (locSyncProcessInd ind s.arr s.mem).delivered := fun i hsel hi => hdel ⟨i, hsel, hi⟩
    cases hsel : (s.phase k).selected with
    | none =>
      cases hphase : s.phase k with
      | idle | selecting => trivial
      | returned status =>
        rw [hphase] at h
        exact h
      | sending | entering | waiting | leaving | abandoning =>
        simp [hphase, CallPhase.selected] at hsel
    | some i =>
      have hnotsig : i ∉ (locSyncProcessInd ind s.arr s.mem).signalled :=
        fun hi => hnot i hsel ((hp.signalled i).mp hi).1
      refine h.of_eq ?_ ?_ fun j hj => ?_
      · simp [step, hsel, hnot i hsel]
      · simp [step, CallPhase.slot_of_selected hsel, hnotsig]
      · rw [Bool.eq_iff_iff, harrived j]
        simp [hnot j hj]

theorem live_step {k : K} (hk : k ∈ G) {s : State K} (hprogress : Progress req k s)
    (h : Live s k (s.phase k)) (e : Event K) (hC : Punctual req clientHandle indId G s e) :
    Live (step req s e) k ((step req s e).phase k) := by
  have howned := hprogress.owned
  have hstage := hprogress.stage
  have heff := step_effect req s e
  generalize step req s e = s' at heff
  -- the slot of another call is not the one `k` has selected
  have apart : ∀ {k' i j}, k ≠ k' → (s.phase k').slot = some i →
      (s.phase k).selected = some j → j ≠ i := by
    rintro k' i j hne hi hj rfl
    exact hne (howned.unique k k' j (CallPhase.slot_of_selected hj) hi)
  cases heff with
  | stutter => exact h
  | full k' hphase hfull =>
    by_cases hkk : k = k'
    · subst hkk
      obtain ⟨i, hi⟩ := hC hk hphase
      rw [hfull i] at hi
      cases hi
    · rw [State.goto_phase_of_ne _ hkk]
      exact h.of_eq rfl rfl fun _ _ => rfl
  | alloc k' i hphase _ =>
    by_cases hkk : k = k'
    · subst hkk
      rw [State.goto_phase_self]
      trivial
    · rw [State.goto_phase_of_ne _ hkk]
      exact h.of_eq rfl rfl fun _ _ => rfl
  | select k' i hphase =>
    by_cases hkk : k = k'
    · subst hkk
      rw [hphase] at hstage
      rw [State.goto_phase_self]
      exact fun hne => absurd hstage hne
    · rw [State.goto_phase_of_ne _ hkk]
      refine h.of_eq rfl rfl fun j hj => ?_
      have hji := apart hkk (by rw [hphase]; rfl) hj
      simp [State.goto, locSyncSelectInd, s.arr.setSlot_slots_of_ne hji]
  | sendFails k' i status hphase hstatus =>
    by_cases hkk : k = k'
    · subst hkk
      exact absurd (hC hk i hphase) hstatus
    · rw [State.goto_phase_of_ne _ hkk]
      exact h.of_eq rfl rfl fun _ _ => rfl
  | send k' i hphase =>
    by_cases hkk : k = k'
    · subst hkk
      rw [hphase] at h
      rw [State.goto_phase_self]
      exact h
    · rw [State.goto_phase_of_ne _ hkk]
      exact h.of_eq rfl rfl fun _ _ => rfl
  | invalid k' i hphase hfree =>
    rw [howned.inUse k' i (by rw [hphase]; rfl)] at hfree
    cases hfree
  | arrived k' i hphase harrived =>
    by_cases hkk : k = k'
    · subst hkk
      rw [State.goto_phase_self]
      exact ⟨rfl, fun _ => Or.inl harrived⟩
    · rw [State.goto_phase_of_ne _ hkk]
      exact h.of_eq rfl rfl fun _ _ => rfl
  | busy k' i hphase hwaiting =>
    have := (howned.selected k' i (by rw [hphase]; rfl)).waiting.mp hwaiting
    rw [hphase] at this
    cases this
  | wait k' i hphase harrived =>
    by_cases hkk : k = k'
    · subst hkk
      rw [hphase] at h
      rw [State.goto_phase_self]
      refine ⟨by simpa [State.goto, LocSyncReqArray.setSlot_slots] using harrived, fun hne => ?_⟩
      rw [h hne] at harrived
      cases harrived
    · rw [State.goto_phase_of_ne _ hkk]
      refine h.of_eq rfl (Function.update_of_ne hkk _ _) fun j hj => ?_
      have hji := apart hkk (by rw [hphase]; rfl) hj
      simp [State.goto, s.arr.setSlot_slots_of_ne hji]
  | wake k' i timedOut hphase =>
    by_cases hkk : k = k'
    · subst hkk
      obtain ⟨htimedOut, hsignalled⟩ := hC hk i hphase
      rw [State.goto_phase_self]
      exact ⟨by simp [htimedOut], fun _ => Or.inr hsignalled⟩
    · rw [State.goto_phase_of_ne _ hkk]
      refine h.of_eq rfl rfl fun j hj => ?_
      have hji := apart hkk (by rw [hphase]; rfl) hj
      simp [State.goto, s.arr.setSlot_slots_of_ne hji]
  | leave k' i ret hphase =>
    by_cases hkk : k = k'
    · subst hkk
      rw [hphase] at h
      rw [State.goto_phase_self]
      simp [Live, h.1, statusOfWait]
    · rw [State.goto_phase_of_ne _ hkk]
      refine h.of_eq rfl rfl fun j hj => ?_
      have hji := apart hkk (by rw [hphase]; rfl) hj
      simp [State.goto, locFreeSlot_slots, hji]
  | abandon k' i status hphase =>
    by_cases hkk : k = k'
    · subst hkk
      rw [hphase] at h
      exact absurd h id
    · rw [State.goto_phase_of_ne _ hkk]
      refine h.of_eq rfl rfl fun j hj => ?_
      have hji := apart hkk (by rw [hphase]; rfl) hj
      simp [State.goto, locFreeSlot_slots, hji]
  | processInd ind => exact h.processInd howned ind

omit [DecidableEq K] in
/-- A call of the group that has selected and received nothing wants the indication. -/
theorem wants_of_unserved (hG : Waits req clientHandle indId G) {k : K} (hk : k ∈ G)
    {s : State K} (hprogress : Progress req k s) (hlive : Live s k (s.phase k))
    (hselected : (s.phase k).hasSelected = true) (hnil : s.received k = []) {ind : Indication}
    (hind : ind.isFor clientHandle indId = true) :
    ∃ i, (s.phase k).selected = some i ∧ s.arr.wants ind i = true := by
  have hstage := hprogress.stage
  obtain ⟨i, hsel, harrived⟩ : ∃ i, (s.phase k).selected = some i ∧
      (s.arr.slots i).indHasArrived = false := by
    cases hphase : s.phase k with
    | idle | selecting => simp [hphase, CallPhase.hasSelected] at hselected
    | sending i =>
      rw [hphase] at hstage
      exact ⟨i, rfl, by simpa using fun h => hstage.2 h hnil⟩
    | entering i =>
      rw [hphase] at hstage
      exact ⟨i, rfl, by simpa using fun h => hstage.2.2 h hnil⟩
    | waiting i =>
      rw [hphase] at hlive
      exact ⟨i, rfl, hlive.1⟩
    | leaving i ret =>
      rw [hphase] at hstage hlive
      exact absurd hnil (hstage.2.2 (le_of_eq hlive.1.symm))
    | abandoning i status =>
      rw [hphase] at hlive
      exact absurd hlive id
    | returned status =>
      rw [hphase] at hstage hlive
      exact absurd hnil (hstage hlive).2.2
  have hslot := hprogress.owned.selected k i hsel
  obtain ⟨hhandle, hid⟩ := (hG k).mp hk
  obtain ⟨hindh, hindi⟩ := Indication.isFor_iff.mp hind
  refine ⟨i, hsel, LocSyncReqArray.wants_iff.mpr
    ⟨hprogress.owned.inUse k i (CallPhase.slot_of_selected hsel), ?_, ?_, harrived⟩⟩
  · rw [hslot.clientHandle, hhandle, hindh]
  · rw [hslot.indId, hid, hindi]

/-! ## The group -/

variable (req clientHandle indId G)

/-- The invariant of the group. -/
structure GroupInv (s : State K) : Prop where
  table : TableInv req s
  progress : ∀ k ∈ G, Progress req k s
  live : ∀ k ∈ G, Live s k (s.phase k)
  assigned : ∃ order, Assigned clientHandle indId G s order

variable {req clientHandle indId G}

theorem received_of_not_processInd {s s' : State K} {e : Event K} (h : Effect req s e s')
    (he : ∀ ind, e ≠ .processInd ind) : s'.received = s.received ∧ s'.processed = s.processed := by
  cases h with
  | processInd ind => exact absurd rfl (he ind)
  | stutter | full | alloc | select | sendFails | send | invalid | arrived | busy | wait | wake
  | leave | abandon => exact ⟨rfl, rfl⟩

omit [DecidableEq K] in
theorem Assigned.length_eq {s : State K} {order : List K}
    (h : Assigned clientHandle indId G s order) :
    order.length = (s.processedFor clientHandle indId).length :=
  h.gets.length_eq

/-- While fewer indications have come than there are calls, a call has received none. -/
theorem Assigned.exists_unserved {s : State K} {order : List K}
    (h : Assigned clientHandle indId G s order)
    (hlt : (s.processedFor clientHandle indId).length < G.card) :
    ∃ k ∈ G, s.received k = [] := by
  have hcard : order.toFinset.card < G.card := by
    rw [List.toFinset_card_of_nodup h.nodup, h.length_eq]
    exact hlt
  obtain ⟨k, hk, hnot⟩ := Finset.exists_mem_notMem_of_card_lt_card hcard
  exact ⟨k, hk, h.rest k hk (by simpa using hnot)⟩

/-- When as many indications have come as there are calls, each call has received one. -/
theorem Assigned.all_served {s : State K} {order : List K}
    (h : Assigned clientHandle indId G s order)
    (heq : (s.processedFor clientHandle indId).length = G.card) {k : K} (hk : k ∈ G) :
    k ∈ order := by
  have hsub : order.toFinset ⊆ G := fun k' hk' => h.mem k' (List.mem_toFinset.mp hk')
  have hall : order.toFinset = G := by
    refine Finset.eq_of_subset_of_card_le hsub ?_
    rw [List.toFinset_card_of_nodup h.nodup, h.length_eq, heq]
  rw [← hall] at hk
  exact List.mem_toFinset.mp hk

omit [DecidableEq K] in
theorem Assigned.served {s : State K} {order : List K}
    (h : Assigned clientHandle indId G s order) {k : K} (hk : k ∈ order) :
    ∃ ind, s.received k = [ind] := by
  obtain ⟨i, hi, rfl⟩ := List.getElem_of_mem hk
  have hi' : i < (s.processedFor clientHandle indId).length := by
    rw [← h.length_eq]
    exact hi
  exact ⟨_, List.Forall₂.get h.gets hi hi'⟩

omit [DecidableEq K] in
theorem Assigned.of_eq {s s' : State K} {order : List K}
    (h : Assigned clientHandle indId G s order)
    (hreceived : ∀ k ∈ G, s'.received k = s.received k)
    (hprocessed : s'.processedFor clientHandle indId = s.processedFor clientHandle indId) :
    Assigned clientHandle indId G s' order := by
  refine ⟨h.nodup, h.mem, ?_, fun k hk hnot => by rw [hreceived k hk]; exact h.rest k hk hnot⟩
  rw [hprocessed]
  refine List.forall₂_iff_get.mpr ⟨h.length_eq, fun i hi hi' => ?_⟩
  rw [hreceived _ (h.mem _ (List.get_mem _ _))]
  exact h.gets.get hi hi'

omit [DecidableEq K] in
/-- An indication given to a call that had none extends the assignment. -/
theorem Assigned.extend {s s' : State K} {order : List K}
    (h : Assigned clientHandle indId G s order) {k : K} (hk : k ∈ G) {ind : Indication}
    (hnil : s.received k = []) (hgets : s'.received k = [ind])
    (hothers : ∀ k' ∈ G, k' ≠ k → s'.received k' = s.received k')
    (hprocessed : s'.processedFor clientHandle indId =
      s.processedFor clientHandle indId ++ [ind]) :
    Assigned clientHandle indId G s' (order ++ [k]) := by
  have hnot : k ∉ order := by
    intro hmem
    obtain ⟨ind', hind'⟩ := h.served hmem
    rw [hnil] at hind'
    cases hind'
  refine ⟨?_, ?_, ?_, ?_⟩
  · rw [List.nodup_append]
    exact ⟨h.nodup, by simp, fun a ha b hb => by
      rw [List.mem_singleton.mp hb]; exact fun he => hnot (he ▸ ha)⟩
  · intro k' hk'
    rcases List.mem_append.mp hk' with hk' | hk'
    · exact h.mem k' hk'
    · rw [List.mem_singleton.mp hk']; exact hk
  · rw [hprocessed]
    refine List.rel_append ?_ (.cons hgets .nil)
    refine (List.forall₂_iff_get.mpr ⟨h.length_eq, fun i hi hi' => ?_⟩)
    have hmem : order.get ⟨i, hi⟩ ∈ order := List.get_mem _ _
    have hne : order.get ⟨i, hi⟩ ≠ k := fun he => hnot (he ▸ hmem)
    rw [hothers _ (h.mem _ hmem) hne]
    exact h.gets.get hi hi'
  · intro k' hk' hmem
    have hne : k' ≠ k := fun he => hmem (by simp [he])
    rw [hothers k' hk' hne]
    exact h.rest k' hk' fun hin => hmem (by simp [hin])

/-- An indication for the group goes to one call, which had received none. -/
theorem GroupInv.serves (hG : Waits req clientHandle indId G) {s : State K}
    (h : GroupInv req clientHandle indId G s) {ind : Indication}
    (hind : ind.isFor clientHandle indId = true)
    (horder : InOrder clientHandle indId G s (.processInd ind))
    (hpunctual : Punctual req clientHandle indId G s (.processInd ind)) :
    ∃ k ∈ G, s.received k = [] ∧ (step req s (.processInd ind)).received k = [ind] ∧
      ∀ k' ∈ G, k' ≠ k → (step req s (.processInd ind)).received k' = s.received k' := by
  obtain ⟨hselected, hlt⟩ := horder hind
  obtain ⟨hpay, hfirst⟩ := hpunctual hind
  obtain ⟨order, hassigned⟩ := h.assigned
  obtain ⟨k₀, hk₀, hnil₀⟩ := hassigned.exists_unserved hlt
  obtain ⟨i₀, _, hwants₀⟩ := wants_of_unserved hG hk₀ (h.progress k₀ hk₀) (h.live k₀ hk₀)
    (hselected k₀ hk₀) hnil₀ hind
  obtain ⟨i, hi⟩ := Option.isSome_iff_exists.mp (LocSyncReqArray.firstWanting_isSome hwants₀)
  obtain ⟨k, hk, hsel, hhas, hnotsig⟩ := hfirst i hi
  have hwants : s.arr.wants ind i = true := List.find?_some hi
  have hnil : s.received k = [] :=
    (h.live k hk).unserved hsel (LocSyncReqArray.wants_iff.mp hwants).2.2.2 hnotsig
  have hin : s.arr.inUse = true :=
    h.table.inUse.mpr ⟨i, h.table.owned.inUse k i (CallPhase.slot_of_selected hsel)⟩
  have hdel : (locSyncProcessInd ind s.arr s.mem).delivered = [i] := by
    rw [locSyncProcessInd_delivered hpay hin, hi]
    · rfl
    · intro j hj
      rw [hi] at hj
      cases hj
      rw [(h.table.owned.selected k i hsel).payloadPtr, if_pos hhas]
      rfl
  refine ⟨k, hk, hnil, ?_, fun k' hk' hne => ?_⟩
  · simp [step, hsel, hdel, hnil]
  · have hother : (s.phase k').selected ≠ some i := fun h' =>
      hne (h.table.owned.unique k' k i (CallPhase.slot_of_selected h')
        (CallPhase.slot_of_selected hsel))
    cases hsel' : (s.phase k').selected with
    | none => simp [step, hsel']
    | some j =>
      have hji : j ≠ i := fun he => hother (by rw [hsel', he])
      simp [step, hsel', hdel, hji]

/-- An indication for others reaches no call of the group. -/
theorem GroupInv.passes (hG : Waits req clientHandle indId G) {s : State K}
    (h : GroupInv req clientHandle indId G s) {ind : Indication}
    (hind : ind.isFor clientHandle indId = false) {k : K} (hk : k ∈ G) :
    (step req s (.processInd ind)).received k = s.received k := by
  cases hsel : (s.phase k).selected with
  | none => simp [step, hsel]
  | some i =>
    have hnot : i ∉ (locSyncProcessInd ind s.arr s.mem).delivered := by
      intro hmem
      obtain ⟨hans, _⟩ := (h.progress k hk).delivered hsel hmem
      obtain ⟨hhandle, hid⟩ := (hG k).mp hk
      have : ind.isFor clientHandle indId = true :=
        Indication.isFor_iff.mpr ⟨hans.1.trans hhandle, hans.2.trans hid⟩
      rw [hind] at this
      cases this
    simp [step, hsel, hnot]

/-- **A punctual step keeps the group's invariant.** -/
theorem groupInv_step (hG : Waits req clientHandle indId G) {s : State K}
    (h : GroupInv req clientHandle indId G s) (e : Event K)
    (horder : InOrder clientHandle indId G s e)
    (hpunctual : Punctual req clientHandle indId G s e) :
    GroupInv req clientHandle indId G (step req s e) := by
  refine ⟨tableInv_step h.table e,
    fun k hk => progress_step (h.progress k hk) e (hpunctual.steady hk),
    fun k hk => live_step hk (h.progress k hk) (h.live k hk) e hpunctual, ?_⟩
  obtain ⟨order, hassigned⟩ := h.assigned
  have heff := step_effect req s e
  cases e with
  | processInd ind =>
    cases hind : ind.isFor clientHandle indId with
    | true =>
      obtain ⟨k, hk, hnil, hgets, hothers⟩ := h.serves hG hind horder hpunctual
      refine ⟨order ++ [k], hassigned.extend hk hnil hgets hothers ?_⟩
      simp [State.processedFor, step, hind]
    | false =>
      refine ⟨order, hassigned.of_eq (fun k hk => h.passes hG hind hk) ?_⟩
      simp [State.processedFor, step, hind]
  | alloc | select | send | enterWait | wake | free =>
    obtain ⟨hreceived, hprocessed⟩ := received_of_not_processInd heff (by simp)
    refine ⟨order, hassigned.of_eq (fun k _ => by rw [hreceived]) ?_⟩
    rw [State.processedFor, hprocessed]
    rfl

theorem GroupInv.oneEach {s : State K} (h : GroupInv req clientHandle indId G s) :
    OneEach req clientHandle indId G s := by
  obtain ⟨order, hassigned⟩ := h.assigned
  refine ⟨⟨order, hassigned⟩, ?_, ?_, ?_⟩
  · intro k hk ind hgot hhas
    have hstage := (h.progress k hk).stage
    have hlive := h.live k hk
    have hheard : Heard req s k := by
      cases hphase : s.phase k with
      | idle | selecting =>
        rw [hphase] at hstage
        rw [show s.received k = [] from hstage] at hgot
        cases hgot
      | sending i => rw [hphase] at hstage; exact hstage.1
      | entering i | waiting i | leaving i ret => rw [hphase] at hstage; exact hstage.2.1
      | abandoning i status => rw [hphase] at hlive; exact absurd hlive id
      | returned status =>
        rw [hphase] at hstage hlive
        exact (hstage hlive).2.1
    exact hheard.copied hhas ind (by rw [hgot]; rfl)
  · intro k hk status hphase
    have hstage := (h.progress k hk).stage
    have hlive := h.live k hk
    rw [hphase] at hstage hlive
    obtain ⟨_, _, hne⟩ := hstage hlive
    have hmem : k ∈ order := by
      by_contra hnot
      exact hne (hassigned.rest k hk hnot)
    exact ⟨hlive, hassigned.served hmem⟩
  · intro heq k hk
    exact hassigned.served (hassigned.all_served heq hk)

/-- **Each call of the group gets one indication of its own**, in every punctual run from
the initialised table in which the indications come when all calls have selected. -/
theorem one_each (req : K → Request) (clientHandle : LocClientHandle) (indId : UInt32)
    (G : Finset K) (hG : Waits req clientHandle indId G) (mem : K → List UInt8)
    (es : List (Event K))
    (horder : Meets (step req) (InOrder clientHandle indId G) (State.start .init mem) es)
    (hpunctual : Meets (step req) (Punctual req clientHandle indId G)
      (State.start .init mem) es) :
    Throughout (step req) (OneEach req clientHandle indId G) (State.start .init mem) es := by
  have hstart : GroupInv req clientHandle indId G (State.start .init mem) := by
    refine ⟨tableInv_start mem, fun k _ => ⟨owned_start _ _, fun i hi => ?_, rfl⟩,
      fun _ _ => trivial, [], List.nodup_nil, by simp, ?_, fun _ _ _ => rfl⟩
    · cases hi
    · exact .nil
  have hall : Throughout (step req) (GroupInv req clientHandle indId G)
      (State.start .init mem) es :=
    throughout_of_meets (fun _ e h hC => groupInv_step hG h e hC.1 hC.2) hstart
      (horder.and hpunctual)
  exact hall.imp fun _ h => h.oneEach

/-- Two calls that both wait for the same indication when the first one comes. -/
def bothWaiting : List (Event Bool) :=
  [.alloc false, .select false, .send false .success, .alloc true, .select true,
    .send true .success, .enterWait false, .enterWait true]

/-- The first call runs and frees its slot before the second indication comes. -/
theorem one_each_sample :
    Throughout (step fun _ => sampleRequest)
      (OneEach (fun _ => sampleRequest) 1 7 {false, true}) (State.start .init fun _ => [])
      (bothWaiting ++ [.processInd ⟨1, 7, some [3]⟩, .wake false false, .free false,
        .processInd ⟨1, 7, some [4]⟩, .wake true false, .free true]) :=
  one_each (fun _ => sampleRequest) 1 7 {false, true}
    (fun k => by cases k <;> simp [sampleRequest]) (fun _ => []) _ (by decide) (by decide)

/-- Two indications before the first waiter runs: the second overwrites the first, and
the other call gets none. -/
theorem one_each_fails :
    ¬ OneEach (fun _ => sampleRequest) 1 7 {false, true} (run (step fun _ => sampleRequest)
      (State.start .init fun _ => [])
      (bothWaiting ++ [.processInd ⟨1, 7, some [3]⟩, .processInd ⟨1, 7, some [4]⟩])) := by
  intro h
  obtain ⟨ind, hind⟩ := h.complete (by decide) true (by decide)
  cases hind

end LocationStack.SyncReq
