import LocationStack.SyncReq.Calls

/-! # The invariant of the slot table

Two invariants, by what they assume of the table the calls start from.  `Owned` holds
from any table: the slots the calls hold are marked in use, no slot is held twice, and
a selected slot records what its holder waits for.  `TableInv` adds what holds from
`loc_sync_req_init` on: the table's own flag, the reset of free slots, and that every
slot in use has a holder.
-/
namespace LocationStack.SyncReq

open EventRun

variable {K : Type} [DecidableEq K] (req : K → Request)

/-- Slot `i` records what call `k` waits for, and whether it is waiting. -/
structure SelectedBy (s : State K) (k : K) (i : SelectId) : Prop where
  clientHandle : (s.arr.slots i).clientHandle = (req k).clientHandle
  indId : (s.arr.slots i).recvIndId = (req k).indId
  payloadPtr : (s.arr.slots i).recvIndPayloadPtr = if (req k).hasPayloadPtr then some k else none
  waiting : (s.arr.slots i).indIsWaiting = true ↔ s.phase k = .waiting i

/-- The slots held by the calls. -/
structure Owned (s : State K) : Prop where
  inUse : ∀ k i, (s.phase k).slot = some i → s.arr.slotInUse i = true
  unique : ∀ k k' i, (s.phase k).slot = some i → (s.phase k').slot = some i → k = k'
  selected : ∀ k i, (s.phase k).selected = some i → SelectedBy req s k i

variable {req}

@[simp] theorem State.goto_phase_self (s : State K) (k : K) (p : CallPhase) :
    (s.goto k p).phase k = p := by
  simp [State.goto]

theorem State.goto_phase_of_ne (s : State K) {k k' : K} (h : k' ≠ k) (p : CallPhase) :
    (s.goto k p).phase k' = s.phase k' := by
  simp [State.goto, Function.update_of_ne h]

theorem State.goto_slot {s : State K} {k : K} {p : CallPhase}
    (h : p.slot = (s.phase k).slot) (k' : K) :
    ((s.goto k p).phase k').slot = (s.phase k').slot := by
  by_cases hk : k' = k
  · subst hk
    rw [State.goto_phase_self, h]
  · rw [State.goto_phase_of_ne s hk]

omit [DecidableEq K] in
theorem owned_start (arr : LocSyncReqArray K) (mem : K → List UInt8) :
    Owned req (State.start arr mem) where
  inUse := fun k i h => by cases h
  unique := fun k k' i h => by cases h
  selected := fun k i h => by cases h

/-- A step of call `k` that touches no slot but `i`, which nobody else holds, keeps the
others' slots; `k`'s own is checked separately. -/
theorem Owned.of_move {s s' : State K} (h : Owned req s) (k : K) (i : SelectId)
    (hi : ∀ k', (s.phase k').slot = some i → k' = k)
    (hphase : ∀ k', k' ≠ k → s'.phase k' = s.phase k')
    (huse : ∀ j, j ≠ i → s'.arr.slotInUse j = s.arr.slotInUse j)
    (hslots : ∀ j, j ≠ i → s'.arr.slots j = s.arr.slots j)
    (hslot : ∀ j, (s'.phase k).slot = some j → j = i ∧ s'.arr.slotInUse j = true)
    (hselected : ∀ j, (s'.phase k).selected = some j → SelectedBy req s' k j) :
    Owned req s' := by
  have apart : ∀ k' j, k' ≠ k → (s'.phase k').slot = some j → j ≠ i := by
    rintro k' j hk hj rfl
    rw [hphase k' hk] at hj
    exact hk (hi k' hj)
  refine ⟨?_, ?_, ?_⟩
  · intro k' j hj
    by_cases hk : k' = k
    · subst hk
      exact (hslot j hj).2
    · rw [huse j (apart k' j hk hj)]
      rw [hphase k' hk] at hj
      exact h.inUse k' j hj
  · intro k₁ k₂ j h₁ h₂
    by_cases hk₁ : k₁ = k <;> by_cases hk₂ : k₂ = k
    · rw [hk₁, hk₂]
    · subst hk₁
      exact absurd (hslot j h₁).1 (apart k₂ j hk₂ h₂)
    · subst hk₂
      exact absurd (hslot j h₂).1 (apart k₁ j hk₁ h₁)
    · rw [hphase k₁ hk₁] at h₁
      rw [hphase k₂ hk₂] at h₂
      exact h.unique k₁ k₂ j h₁ h₂
  · intro k' j hj
    by_cases hk : k' = k
    · subst hk
      exact hselected j hj
    · have hji := apart k' j hk (CallPhase.slot_of_selected hj)
      rw [hphase k' hk] at hj
      obtain ⟨h1, h2, h3, h4⟩ := h.selected k' j hj
      constructor <;> rw [hslots j hji]
      · exact h1
      · exact h2
      · exact h3
      · rw [hphase k' hk]; exact h4

/-- A step that only moves call `k`, keeping or dropping its slot. -/
theorem Owned.of_goto {s : State K} (h : Owned req s) (k : K) (p : CallPhase)
    (hslot : ∀ j, p.slot = some j → (s.phase k).slot = some j)
    (hselected : ∀ j, p.selected = some j → (s.phase k).selected = some j)
    (hwaiting : ∀ j, p ≠ .waiting j) (hwas : ∀ j, s.phase k ≠ .waiting j) :
    Owned req (s.goto k p) := by
  have phase : ∀ k' j, ((s.goto k p).phase k').slot = some j → (s.phase k').slot = some j := by
    intro k' j hj
    by_cases hk : k' = k
    · subst hk
      rw [State.goto_phase_self] at hj
      exact hslot j hj
    · rwa [State.goto_phase_of_ne s hk] at hj
  refine ⟨fun k' j hj => h.inUse k' j (phase k' j hj),
    fun k₁ k₂ j h₁ h₂ => h.unique k₁ k₂ j (phase k₁ j h₁) (phase k₂ j h₂), ?_⟩
  intro k' j hj
  by_cases hk : k' = k
  · subst hk
    rw [State.goto_phase_self] at hj
    obtain ⟨h1, h2, h3, h4⟩ := h.selected k' j (hselected j hj)
    refine ⟨h1, h2, h3, ?_⟩
    rw [State.goto_phase_self]
    exact ⟨fun hw => absurd (h4.mp hw) (hwas j), fun hw => absurd hw (hwaiting j)⟩
  · rw [State.goto_phase_of_ne s hk] at hj
    obtain ⟨h1, h2, h3, h4⟩ := h.selected k' j hj
    exact ⟨h1, h2, h3, by rw [State.goto_phase_of_ne s hk]; exact h4⟩

/-- Processing an indication moves no call and keeps what the slots record. -/
theorem Owned.processInd {s : State K} (h : Owned req s) (ind : Indication) :
    Owned req (step req s (.processInd ind)) := by
  have hp := locSyncProcessInd_processed ind s.arr s.mem
  refine ⟨fun k i hi => ?_, h.unique, fun k i hi => ?_⟩
  · show (locSyncProcessInd ind s.arr s.mem).arr.slotInUse i = true
    rw [hp.slotInUse]
    exact h.inUse k i hi
  · obtain ⟨h1, h2, h3, h4⟩ := h.selected k i hi
    constructor <;>
      simp only [show (step req s (.processInd ind)).arr.slots i =
        (locSyncProcessInd ind s.arr s.mem).arr.slots i from rfl] <;> rw [hp.slot i]
    · exact h1
    · exact h2
    · exact h3
    · exact h4

/-- **Every critical section keeps the slots owned.** -/
theorem owned_step {s : State K} (h : Owned req s) (e : Event K) : Owned req (step req s e) := by
  have heff := step_effect req s e
  generalize step req s e = s' at heff
  cases heff with
  | stutter => exact h
  | full k hphase _ =>
    exact h.of_goto k _ (by simp [CallPhase.slot]) (by simp [CallPhase.selected])
      (by simp) (by simp [hphase])
  | alloc k i hphase hfree =>
    refine h.of_move k i ?_ (fun k' hk => State.goto_phase_of_ne _ hk _) ?_ (fun _ _ => rfl) ?_ ?_
    · intro k' hk'
      rw [h.inUse k' i hk'] at hfree
      cases hfree
    · intro j hj
      simp [State.goto, Function.update_of_ne hj]
    · intro j hj
      simp only [State.goto_phase_self, CallPhase.slot, Option.some.injEq] at hj
      subst hj
      simp [State.goto]
    · intro j hj
      simp [CallPhase.selected] at hj
  | select k i hphase =>
    have hi : (s.phase k).slot = some i := by rw [hphase]; rfl
    refine h.of_move k i (fun k' hk' => h.unique k' k i hk' hi)
      (fun k' hk => State.goto_phase_of_ne _ hk _) (fun _ _ => rfl) ?_ ?_ ?_
    · intro j hj
      simp [State.goto, locSyncSelectInd, LocSyncReqArray.setSlot_slots, hj]
    · intro j hj
      simp only [State.goto_phase_self, CallPhase.slot, Option.some.injEq] at hj
      subst hj
      exact ⟨rfl, h.inUse k i hi⟩
    · intro j hj
      simp only [State.goto_phase_self, CallPhase.selected, Option.some.injEq] at hj
      subst hj
      constructor <;> simp [State.goto, locSyncSelectInd, LocSyncReqArray.setSlot_slots]
  | sendFails k i status hphase _ | arrived k i hphase _ | busy k i hphase _ =>
    exact h.of_goto k _ (by simp [hphase, CallPhase.slot]) (by simp [hphase, CallPhase.selected])
      (by simp) (by simp [hphase])
  | send k i hphase =>
    have hgoto : Owned req (s.goto k (.entering i)) :=
      h.of_goto k _ (by simp [hphase, CallPhase.slot]) (by simp [hphase, CallPhase.selected])
        (by simp) (by simp [hphase])
    exact ⟨hgoto.inUse, hgoto.unique, fun k' j hj =>
      have hs := hgoto.selected k' j hj
      ⟨hs.clientHandle, hs.indId, hs.payloadPtr, hs.waiting⟩⟩
  | invalid k i hphase hfree =>
    exact h.of_goto k _ (by simp [CallPhase.slot]) (by simp [CallPhase.selected])
      (by simp) (by simp [hphase])
  | wait k i hphase _ =>
    have hi : (s.phase k).slot = some i := by rw [hphase]; rfl
    obtain ⟨h1, h2, h3, _⟩ := h.selected k i (by rw [hphase]; rfl)
    refine h.of_move k i (fun k' hk' => h.unique k' k i hk' hi)
      (fun k' hk => State.goto_phase_of_ne _ hk _) (fun _ _ => rfl) ?_ ?_ ?_
    · intro j hj
      simp [State.goto, LocSyncReqArray.setSlot_slots, hj]
    · intro j hj
      simp only [State.goto_phase_self, CallPhase.slot, Option.some.injEq] at hj
      subst hj
      exact ⟨rfl, h.inUse k i hi⟩
    · intro j hj
      simp only [State.goto_phase_self, CallPhase.selected, Option.some.injEq] at hj
      subst hj
      constructor <;> simp [State.goto, LocSyncReqArray.setSlot_slots, h1, h2, h3]
  | wake k i timedOut hphase =>
    have hi : (s.phase k).slot = some i := by rw [hphase]; rfl
    obtain ⟨h1, h2, h3, _⟩ := h.selected k i (by rw [hphase]; rfl)
    refine h.of_move k i (fun k' hk' => h.unique k' k i hk' hi)
      (fun k' hk => State.goto_phase_of_ne _ hk _) (fun _ _ => rfl) ?_ ?_ ?_
    · intro j hj
      simp [State.goto, LocSyncReqArray.setSlot_slots, hj]
    · intro j hj
      simp only [State.goto_phase_self, CallPhase.slot, Option.some.injEq] at hj
      subst hj
      exact ⟨rfl, h.inUse k i hi⟩
    · intro j hj
      simp only [State.goto_phase_self, CallPhase.selected, Option.some.injEq] at hj
      subst hj
      constructor <;> simp [State.goto, LocSyncReqArray.setSlot_slots, h1, h2, h3]
  | leave k i _ hphase | abandon k i _ hphase =>
    have hi : (s.phase k).slot = some i := by rw [hphase]; rfl
    refine h.of_move k i (fun k' hk' => h.unique k' k i hk' hi)
      (fun k' hk => State.goto_phase_of_ne _ hk _) ?_ ?_ ?_ ?_
    · intro j hj
      simp [State.goto, locFreeSlot_slotInUse, hj]
    · intro j hj
      simp [State.goto, locFreeSlot_slots, hj]
    · intro j hj
      simp [CallPhase.slot] at hj
    · intro j hj
      simp [CallPhase.selected] at hj
  | processInd ind => exact h.processInd ind

/-! ## From `loc_sync_req_init` on -/

/-- The invariant of a table that was initialised. -/
structure TableInv (req : K → Request) (s : State K) : Prop where
  owned : Owned req s
  inUse : s.arr.inUse = true ↔ ∃ i, s.arr.slotInUse i = true
  reset : ∀ i, s.arr.slotInUse i = false → s.arr.slots i = .reset
  held : ∀ i, s.arr.slotInUse i = true → ∃ k, (s.phase k).slot = some i

omit [DecidableEq K] in
theorem tableInv_start (mem : K → List UInt8) : TableInv req (State.start .init mem) where
  owned := owned_start _ _
  inUse := by simp [State.start, LocSyncReqArray.init]
  reset := fun _ _ => rfl
  held := fun i h => by cases h

omit [DecidableEq K] in
/-- A step that takes and frees no slot, and writes only to slots in use. -/
theorem TableInv.of_frame {s s' : State K} (h : TableInv req s) (howned : Owned req s')
    (hin : s'.arr.inUse = s.arr.inUse) (huse : s'.arr.slotInUse = s.arr.slotInUse)
    (hslots : ∀ i, s.arr.slotInUse i = false → s'.arr.slots i = s.arr.slots i)
    (hphase : ∀ k, (s'.phase k).slot = (s.phase k).slot) : TableInv req s' := by
  refine ⟨howned, ?_, ?_, ?_⟩
  · rw [hin, huse]
    exact h.inUse
  · intro i hi
    rw [huse] at hi
    rw [hslots i hi]
    exact h.reset i hi
  · intro i hi
    rw [huse] at hi
    obtain ⟨k, hk⟩ := h.held i hi
    exact ⟨k, by rw [hphase k]; exact hk⟩

omit [DecidableEq K] in
/-- Writing to the slot a call holds writes to no free slot. -/
theorem TableInv.setSlot_free {s : State K} (h : TableInv req s) {k : K} {i : SelectId}
    (hi : (s.phase k).slot = some i) (d : LocSyncReqData K) (j : SelectId)
    (hj : s.arr.slotInUse j = false) : (s.arr.setSlot i d).slots j = s.arr.slots j := by
  rw [LocSyncReqArray.setSlot_slots, if_neg]
  rintro rfl
  rw [h.owned.inUse k j hi] at hj
  cases hj

omit [DecidableEq K] in
/-- Giving back the slot `i` that call `k` holds. -/
theorem TableInv.free {s s' : State K} (h : TableInv req s) (howned : Owned req s') {k : K}
    {i : SelectId} (hi : (s.phase k).slot = some i) (harr : s'.arr = locFreeSlot s.arr i)
    (hphase : ∀ k', k' ≠ k → s'.phase k' = s.phase k') : TableInv req s' := by
  refine ⟨howned, ?_, ?_, ?_⟩
  · rw [harr, locFreeSlot_inUse]
    constructor
    · exact fun hin => hin.2
    · rintro ⟨j, hj⟩
      refine ⟨h.inUse.mpr ⟨j, ?_⟩, j, hj⟩
      rw [locFreeSlot_slotInUse] at hj
      split at hj
      · cases hj
      · exact hj
  · intro j hj
    rw [harr, locFreeSlot_slotInUse] at hj
    rw [harr, locFreeSlot_slots]
    split at hj
    · rename_i hji
      rw [if_pos hji]
    · rename_i hji
      rw [if_neg hji]
      exact h.reset j hj
  · intro j hj
    rw [harr, locFreeSlot_slotInUse] at hj
    split at hj
    · cases hj
    · rename_i hji
      obtain ⟨k', hk'⟩ := h.held j hj
      have hne : k' ≠ k := by
        rintro rfl
        rw [hi] at hk'
        exact hji (Option.some.inj hk').symm
      exact ⟨k', by rw [hphase k' hne]; exact hk'⟩

/-- **Every critical section keeps the table's invariant.** -/
theorem tableInv_step {s : State K} (h : TableInv req s) (e : Event K) :
    TableInv req (step req s e) := by
  have howned := owned_step h.owned e
  have heff := step_effect req s e
  generalize step req s e = s' at heff howned
  cases heff with
  | stutter => exact h
  | full k hphase _ =>
    exact h.of_frame howned rfl rfl (fun _ _ => rfl)
      (State.goto_slot (by rw [hphase]; rfl))
  | alloc k i hphase hfree =>
    refine ⟨howned, ⟨fun _ => ⟨i, ?_⟩, fun _ => rfl⟩, ?_, ?_⟩
    · simp [State.goto]
    · intro j hj
      by_cases hji : j = i
      · simp [State.goto, hji] at hj
      · simp only [State.goto, Function.update_of_ne hji] at hj
        exact h.reset j hj
    · intro j hj
      by_cases hji : j = i
      · exact ⟨k, by rw [hji, State.goto_phase_self]; rfl⟩
      · simp only [State.goto, Function.update_of_ne hji] at hj
        obtain ⟨k', hk'⟩ := h.held j hj
        have hne : k' ≠ k := by
          rintro rfl
          rw [hphase] at hk'
          cases hk'
        exact ⟨k', by rw [State.goto_phase_of_ne _ hne]; exact hk'⟩
  | select k i hphase =>
    exact h.of_frame howned rfl rfl (h.setSlot_free (by rw [hphase]; rfl) _)
      (State.goto_slot (by simp only [hphase]; rfl))
  | sendFails k i status hphase _ | arrived k i hphase _ | busy k i hphase _ =>
    exact h.of_frame howned rfl rfl (fun _ _ => rfl)
      (State.goto_slot (by rw [hphase]; rfl))
  | send k i hphase =>
    exact h.of_frame howned rfl rfl (fun _ _ => rfl)
      (State.goto_slot (by simp only [hphase]; rfl))
  | invalid k i hphase hfree =>
    rw [h.owned.inUse k i (by rw [hphase]; rfl)] at hfree
    cases hfree
  | wait k i hphase _ | wake k i _ hphase =>
    exact h.of_frame howned rfl rfl (h.setSlot_free (by rw [hphase]; rfl) _)
      (State.goto_slot (by simp only [hphase]; rfl))
  | leave k i _ hphase | abandon k i _ hphase =>
    exact h.free howned (by rw [hphase]; rfl) rfl (fun k' hk => State.goto_phase_of_ne _ hk _)
  | processInd ind =>
    have hp := locSyncProcessInd_processed ind s.arr s.mem
    refine h.of_frame howned (locSyncProcessInd_inUse h.inUse ind s.mem) hp.slotInUse ?_
      (fun _ => rfl)
    intro i hi
    have hnot : i ∉ (locSyncProcessInd ind s.arr s.mem).delivered := by
      intro hmem
      have := (LocSyncReqArray.wants_iff.mp (hp.wanted i hmem)).1
      rw [hi] at this
      cases this
    have hsame := hp.slot i
    have harr := hp.arrived i
    have hkeep : ((locSyncProcessInd ind s.arr s.mem).arr.slots i).indHasArrived =
        (s.arr.slots i).indHasArrived := by
      rw [Bool.eq_iff_iff, harr]
      simp [hnot]
    rw [hkeep] at hsame
    exact hsame

/-- What the table guarantees in a state: its `in_use` flag says whether a slot is in
use, a slot not in use is in the reset state, a slot in use belongs to exactly one call
and a call's slot is in use, and the early return of `loc_sync_process_ind` drops no
indication that a selected slot waits for. -/
structure SoundTable (s : State K) : Prop where
  inUse_iff : s.arr.inUse = true ↔ ∃ i, s.arr.slotInUse i = true
  reset_of_free : ∀ i, s.arr.slotInUse i = false → s.arr.slots i = .reset
  owner_inUse : ∀ k i, (s.phase k).slot = some i → s.arr.slotInUse i = true
  owner_unique : ∀ i, s.arr.slotInUse i = true → ∃! k, (s.phase k).slot = some i
  no_drop : s.arr.inUse = false →
    (∀ k, (s.phase k).selected = none) ∧ ∀ ind i, s.arr.wants ind i = false

omit [DecidableEq K] in
theorem TableInv.sound {s : State K} (h : TableInv req s) : SoundTable s where
  inUse_iff := h.inUse
  reset_of_free := h.reset
  owner_inUse := h.owned.inUse
  owner_unique := by
    intro i hi
    obtain ⟨k, hk⟩ := h.held i hi
    exact ⟨k, hk, fun k' hk' => h.owned.unique k' k i hk' hk⟩
  no_drop := by
    intro hin
    have hfree : ∀ i, s.arr.slotInUse i ≠ true := by
      intro i hi
      rw [h.inUse.mpr ⟨i, hi⟩] at hin
      cases hin
    constructor
    · intro k
      cases hsel : (s.phase k).selected with
      | none => rfl
      | some i => exact absurd (h.owned.inUse k i (CallPhase.slot_of_selected hsel)) (hfree i)
    · intro ind i
      cases hw : s.arr.wants ind i with
      | false => rfl
      | true => exact absurd (LocSyncReqArray.wants_iff.mp hw).1 (hfree i)

/-- **The slot table is sound in every reachable state**: whatever the calls, however
many, and in whatever order their critical sections and the indications come. -/
theorem slot_table_sound (req : K → Request) (mem : K → List UInt8) (es : List (Event K)) :
    Throughout (step req) SoundTable (State.start .init mem) es := by
  have hinv : Throughout (step req) (TableInv req) (State.start .init mem) es :=
    throughout_of_invariant (fun _ e h => tableInv_step h e) (tableInv_start mem)
  exact hinv.imp fun _ h => h.sound

end LocationStack.SyncReq
