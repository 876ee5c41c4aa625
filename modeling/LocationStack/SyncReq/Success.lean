import LocationStack.SyncReq.Invariant

/-! # What `loc_sync_send_req` reports as success

A caller reads its payload buffer when `loc_sync_send_req` returns
`eLOC_CLIENT_SUCCESS`.  Two paths return it although no indication came: a table with no
free slot, where `status` keeps its initial value, and a return of
`pthread_cond_timedwait` that is neither a signal nor a timeout.  In a run in which call
`k` takes neither, its success means what it should (`success_sound`), from any state of
the table.
-/
namespace LocationStack.SyncReq

open EventRun

variable {K : Type} [DecidableEq K]

/-- An indication that a call with these arguments waits for. -/
def Indication.Answers (ind : Indication) (r : Request) : Prop :=
  ind.clientHandle = r.clientHandle ∧ ind.indId = r.indId

instance (ind : Indication) (r : Request) : Decidable (ind.Answers r) :=
  inferInstanceAs (Decidable (_ ∧ _))

/-- If call `k` has returned success, its request was sent and, since it selected its
slot, an indication with its handle and id was processed into that slot; the last one is
what its buffer holds. -/
def SuccessSound (req : K → Request) (k : K) (s : State K) : Prop :=
  s.phase k = .returned .success →
    s.sent k = true ∧
      ∃ ind, (s.received k).getLast? = some ind ∧ ind.Answers (req k) ∧
        ((req k).hasPayloadPtr = true → (s.mem k).take ind.bytes.length = ind.bytes)

/-- The step is none of the two that make call `k` succeed for nothing: a free slot is
there when `k` asks for one, and `k` wakes up signalled or by timeout. -/
def Steady (k : K) (s : State K) : Event K → Prop
  | .alloc k' => k' = k → s.phase k = .idle → ∃ i, s.arr.slotInUse i = false
  | .wake k' timedOut =>
      k' = k → ∀ i, s.phase k = .waiting i → timedOut = true ∨ s.signalled k = true
  | _ => True

instance (k : K) (s : State K) : ∀ e, Decidable (Steady k s e)
  | .alloc _ | .wake _ _ => by unfold Steady; infer_instance
  | .select _ | .send _ _ | .enterWait _ | .free _ | .processInd _ => isTrue trivial

/-! ## The progress of one call -/

variable (req : K → Request)

/-- What was processed into call `k`'s slot answers its request, and the last of it is in
its buffer. -/
structure Heard (s : State K) (k : K) : Prop where
  answers : ∀ ind ∈ s.received k, ind.Answers (req k)
  copied : (req k).hasPayloadPtr = true → ∀ ind, (s.received k).getLast? = some ind →
    (s.mem k).take ind.bytes.length = ind.bytes

/-- What call `k` relies on, phase by phase. -/
def Stage (s : State K) (k : K) : CallPhase → Prop
  | .idle | .selecting _ => s.received k = []
  | .sending i => Heard req s k ∧ ((s.arr.slots i).indHasArrived = true → s.received k ≠ [])
  | .entering i =>
      s.sent k = true ∧ Heard req s k ∧
        ((s.arr.slots i).indHasArrived = true → s.received k ≠ [])
  | .waiting _ => s.sent k = true ∧ Heard req s k ∧ (s.signalled k = true → s.received k ≠ [])
  | .leaving _ ret => s.sent k = true ∧ Heard req s k ∧ (0 ≤ ret → s.received k ≠ [])
  | .abandoning _ status => status ≠ .success
  | .returned status =>
      status = .success → s.sent k = true ∧ Heard req s k ∧ s.received k ≠ []

/-- Call `k` is where it should be, and only its own slot points to its buffer. -/
structure Progress (k : K) (s : State K) : Prop where
  owned : Owned req s
  pointer : ∀ i, (s.arr.slots i).recvIndPayloadPtr = some k → (s.phase k).selected = some i
  stage : Stage req s k (s.phase k)

variable {req}

omit [DecidableEq K] in
theorem Heard.of_eq {s s' : State K} {k : K} (h : Heard req s k)
    (hreceived : s'.received k = s.received k) (hmem : s'.mem k = s.mem k) : Heard req s' k := by
  constructor
  · rw [hreceived]
    exact h.answers
  · rw [hreceived, hmem]
    exact h.copied

omit [DecidableEq K] in
/-- A phase's reliance survives whatever leaves the call's records, its buffer and its
slot's arrival flag alone. -/
theorem Stage.of_eq {s s' : State K} {k : K} {p : CallPhase} (h : Stage req s k p)
    (hsent : s'.sent k = s.sent k) (hsignalled : s'.signalled k = s.signalled k)
    (hreceived : s'.received k = s.received k) (hmem : s'.mem k = s.mem k)
    (harrived : ∀ i, p.selected = some i →
      (s'.arr.slots i).indHasArrived = (s.arr.slots i).indHasArrived) :
    Stage req s' k p := by
  cases p with
  | idle | selecting =>
    show s'.received k = []
    rw [hreceived]
    exact h
  | sending i =>
    refine ⟨h.1.of_eq hreceived hmem, ?_⟩
    rw [harrived i rfl, hreceived]
    exact h.2
  | entering i =>
    refine ⟨by rw [hsent]; exact h.1, h.2.1.of_eq hreceived hmem, ?_⟩
    rw [harrived i rfl, hreceived]
    exact h.2.2
  | waiting i =>
    refine ⟨by rw [hsent]; exact h.1, h.2.1.of_eq hreceived hmem, ?_⟩
    rw [hsignalled, hreceived]
    exact h.2.2
  | leaving i ret =>
    refine ⟨by rw [hsent]; exact h.1, h.2.1.of_eq hreceived hmem, ?_⟩
    rw [hreceived]
    exact h.2.2
  | abandoning i status => exact h
  | returned status =>
    intro hstatus
    obtain ⟨h1, h2, h3⟩ := h hstatus
    exact ⟨by rw [hsent]; exact h1, h2.of_eq hreceived hmem, by rw [hreceived]; exact h3⟩

omit [DecidableEq K] in
/-- The slot another call has selected does not point to `k`'s buffer. -/
theorem SelectedBy.pointer_ne {s : State K} {k k' : K} {i : SelectId} (h : SelectedBy req s k' i)
    (hk : k ≠ k') : (s.arr.slots i).recvIndPayloadPtr ≠ some k := by
  rw [h.payloadPtr]
  split
  · exact fun he => hk (Option.some.inj he).symm
  · simp

omit [DecidableEq K] in
/-- A step of another call, on its own slot `i`, is not noticed by `k`. -/
theorem Progress.of_other {s s' : State K} {k k' : K} (h : Progress req k s)
    (hk : k ≠ k') (howned : Owned req s') (hphase : s'.phase k = s.phase k)
    (hsent : s'.sent k = s.sent k) (hsignalled : s'.signalled k = s.signalled k)
    (hreceived : s'.received k = s.received k) (hmem : s'.mem k = s.mem k)
    {i : SelectId} (hi : (s.phase k').slot = some i)
    (hslots : ∀ j, j ≠ i → s'.arr.slots j = s.arr.slots j)
    (hptr : (s'.arr.slots i).recvIndPayloadPtr ≠ some k) : Progress req k s' := by
  have apart : ∀ j, (s.phase k).selected = some j → j ≠ i := by
    rintro j hj rfl
    exact hk (h.owned.unique k k' j (CallPhase.slot_of_selected hj) hi)
  refine ⟨howned, ?_, ?_⟩
  · intro j hj
    rw [hphase]
    by_cases hji : j = i
    · subst hji
      exact absurd hj hptr
    · rw [hslots j hji] at hj
      exact h.pointer j hj
  · rw [hphase]
    refine h.stage.of_eq hsent hsignalled hreceived hmem fun j hj => ?_
    rw [hslots j (apart j hj)]

omit [DecidableEq K] in
/-- A step of another call that touches no slot is not noticed by `k`. -/
theorem Progress.of_arr_eq {s s' : State K} {k : K} (h : Progress req k s)
    (howned : Owned req s') (hphase : s'.phase k = s.phase k)
    (hsent : s'.sent k = s.sent k) (hsignalled : s'.signalled k = s.signalled k)
    (hreceived : s'.received k = s.received k) (hmem : s'.mem k = s.mem k)
    (hslots : s'.arr.slots = s.arr.slots) : Progress req k s' := by
  refine ⟨howned, ?_, ?_⟩
  · rw [hphase, hslots]
    exact h.pointer
  · rw [hphase]
    refine h.stage.of_eq hsent hsignalled hreceived hmem fun j _ => ?_
    rw [hslots]

/-- An indication processed into a slot that call `k` has selected answers `k`, and is in
its buffer if it asked for the payload. -/
theorem Progress.delivered {k : K} {s : State K} (h : Progress req k s) {ind : Indication}
    {i : SelectId} (hsel : (s.phase k).selected = some i)
    (hi : i ∈ (locSyncProcessInd ind s.arr s.mem).delivered) :
    ind.Answers (req k) ∧ ((req k).hasPayloadPtr = true →
      ((locSyncProcessInd ind s.arr s.mem).mem k).take ind.bytes.length = ind.bytes) := by
  have hp := locSyncProcessInd_processed ind s.arr s.mem
  obtain ⟨hhandle, hid, hptr, _⟩ := h.owned.selected k i hsel
  obtain ⟨_, hw1, hw2, _⟩ := LocSyncReqArray.wants_iff.mp (hp.wanted i hi)
  refine ⟨⟨?_, ?_⟩, fun hhas => hp.copied i hi k ?_⟩
  · rw [← hw1, hhandle]
  · rw [← hw2, hid]
  · rw [hptr, if_pos hhas]

theorem Progress.processInd {k : K} {s : State K} (h : Progress req k s) (ind : Indication) :
    Progress req k (step req s (.processInd ind)) := by
  have hp := locSyncProcessInd_processed ind s.arr s.mem
  have hpointer : ∀ i, ((step req s (.processInd ind)).arr.slots i).recvIndPayloadPtr = some k →
      (s.phase k).selected = some i := by
    intro i hi
    refine h.pointer i ?_
    rw [← hi]
    exact (congrArg LocSyncReqData.recvIndPayloadPtr (hp.slot i)).symm
  refine ⟨h.owned.processInd ind, hpointer, ?_⟩
  show Stage req (step req s (.processInd ind)) k (s.phase k)
  by_cases hdel : ∃ i, (s.phase k).selected = some i ∧
      i ∈ (locSyncProcessInd ind s.arr s.mem).delivered
  · obtain ⟨i, hsel, hi⟩ := hdel
    obtain ⟨hans, hcopied⟩ := h.delivered hsel hi
    have hreceived : (step req s (.processInd ind)).received k = s.received k ++ [ind] := by
      simp [step, hsel, hi]
    have hheard : Heard req s k → Heard req (step req s (.processInd ind)) k := by
      intro hh
      constructor
      · intro ind' hmem
        rw [hreceived] at hmem
        rcases List.mem_append.mp hmem with hmem | hmem
        · exact hh.answers ind' hmem
        · rw [List.mem_singleton.mp hmem]
          exact hans
      · intro hhas ind' hlast
        rw [hreceived, List.getLast?_append_of_ne_nil _ (by simp)] at hlast
        cases hlast
        exact hcopied hhas
    have hne : (step req s (.processInd ind)).received k ≠ [] := by simp [hreceived]
    have hstage := h.stage
    cases hphase : s.phase k with
    | idle | selecting | returned => simp [hphase, CallPhase.selected] at hsel
    | sending j =>
      rw [hphase] at hstage
      exact ⟨hheard hstage.1, fun _ => hne⟩
    | entering j | waiting j | leaving j ret =>
      rw [hphase] at hstage
      exact ⟨hstage.1, hheard hstage.2.1, fun _ => hne⟩
    | abandoning j status =>
      rw [hphase] at hstage
      exact hstage
  · cases hsel : (s.phase k).selected with
    | none =>
      have hstage := h.stage
      have hreceived : (step req s (.processInd ind)).received k = s.received k := by
        simp [step, hsel]
      cases hphase : s.phase k with
      | idle | selecting =>
        rw [hphase] at hstage
        exact hreceived.trans hstage
      | returned status =>
        rw [hphase] at hstage
        intro hstatus
        obtain ⟨h1, h2, h3⟩ := hstage hstatus
        have hmem : (step req s (.processInd ind)).mem k = s.mem k := by
          refine hp.kept k fun j hj hptr => ?_
          have := h.pointer j hptr
          rw [hsel] at this
          cases this
        exact ⟨h1, h2.of_eq hreceived hmem, by rw [hreceived]; exact h3⟩
      | sending | entering | waiting | leaving | abandoning =>
        simp [hphase, CallPhase.selected] at hsel
    | some i =>
      have hnot : i ∉ (locSyncProcessInd ind s.arr s.mem).delivered :=
        fun hi => hdel ⟨i, hsel, hi⟩
      have hnotsig : i ∉ (locSyncProcessInd ind s.arr s.mem).signalled :=
        fun hi => hnot ((hp.signalled i).mp hi).1
      refine h.stage.of_eq rfl ?_ ?_ ?_ ?_
      · simp [step, CallPhase.slot_of_selected hsel, hnotsig]
      · simp [step, hsel, hnot]
      · refine hp.kept k fun j hj hptr => ?_
        have := h.pointer j hptr
        rw [hsel] at this
        cases this
        exact hnot hj
      · intro j hj
        rw [hsel] at hj
        cases hj
        have harr := hp.arrived i
        rw [Bool.eq_iff_iff]
        show ((locSyncProcessInd ind s.arr s.mem).arr.slots i).indHasArrived = true ↔ _
        rw [harr]
        simp [hnot]

omit [DecidableEq K] in
/-- A step of call `k` itself, on the slot `i` it holds. -/
theorem Progress.of_own {s s' : State K} {k : K} {i : SelectId} (h : Progress req k s)
    (howned : Owned req s') (hi : (s.phase k).slot = some i)
    (hslots : ∀ j, j ≠ i → s'.arr.slots j = s.arr.slots j)
    (hptr : (s'.arr.slots i).recvIndPayloadPtr = some k → (s'.phase k).selected = some i)
    (hstage : Stage req s' k (s'.phase k)) : Progress req k s' := by
  refine ⟨howned, ?_, hstage⟩
  intro j hj
  by_cases hji : j = i
  · subst hji
    exact hptr hj
  · rw [hslots j hji] at hj
    have hsel := CallPhase.slot_of_selected (h.pointer j hj)
    rw [hi] at hsel
    exact absurd (Option.some.inj hsel).symm hji

omit [DecidableEq K] in
/-- Call `k` returns and gives back its slot. -/
theorem Progress.free {s s' : State K} {k : K} {i : SelectId} {status : LocClientStatus}
    (h : Progress req k s) (howned : Owned req s') (hi : (s.phase k).slot = some i)
    (harr : s'.arr = locFreeSlot s.arr i) (hphase : s'.phase k = .returned status)
    (hstage : Stage req s' k (.returned status)) : Progress req k s' := by
  refine h.of_own howned hi (fun j hj => ?_) (fun hp => ?_) (by rw [hphase]; exact hstage)
  · rw [harr, locFreeSlot_slots, if_neg hj]
  · rw [harr, locFreeSlot_slots, if_pos rfl] at hp
    cases hp

/-- Another call returns and gives back its slot. -/
theorem Progress.free_other {s : State K} {k k' : K} {i : SelectId} {p : CallPhase}
    (h : Progress req k s) (hk : k ≠ k')
    (howned : Owned req ({ s with arr := locFreeSlot s.arr i }.goto k' p))
    (hi : (s.phase k').slot = some i) :
    Progress req k ({ s with arr := locFreeSlot s.arr i }.goto k' p) := by
  refine h.of_other hk howned (State.goto_phase_of_ne _ hk _) rfl rfl rfl rfl hi
    (fun j hj => ?_) ?_
  · simp [State.goto, locFreeSlot_slots, hj]
  · simp [State.goto, locFreeSlot_slots, LocSyncReqData.reset]

/-- **Every steady step keeps the progress of a call.** -/
theorem progress_step {k : K} {s : State K} (h : Progress req k s) (e : Event K)
    (hsteady : Steady k s e) : Progress req k (step req s e) := by
  have howned := owned_step h.owned e
  have heff := step_effect req s e
  generalize step req s e = s' at heff howned
  have hstage := h.stage
  cases heff with
  | stutter => exact h
  | full k' hphase hfull =>
    by_cases hk : k = k'
    · subst hk
      obtain ⟨i, hi⟩ := hsteady rfl hphase
      rw [hfull i] at hi
      cases hi
    · exact h.of_arr_eq howned (State.goto_phase_of_ne s hk _) rfl rfl rfl rfl rfl
  | alloc k' i hphase _ =>
    by_cases hk : k = k'
    · subst hk
      refine ⟨howned, fun j hj => ?_, ?_⟩
      · have := h.pointer j hj
        rw [hphase] at this
        cases this
      · rw [hphase] at hstage
        rw [State.goto_phase_self]
        exact hstage
    · exact h.of_arr_eq howned (State.goto_phase_of_ne _ hk _) rfl rfl rfl rfl rfl
  | select k' i hphase =>
    have hi : (s.phase k').slot = some i := by rw [hphase]; rfl
    by_cases hk : k = k'
    · subst hk
      rw [hphase] at hstage
      refine h.of_own howned hi (fun j hj => s.arr.setSlot_slots_of_ne hj _) (fun _ => ?_) ?_
      · rw [State.goto_phase_self]
        rfl
      · have hnil : s.received k = [] := hstage
        rw [State.goto_phase_self]
        refine ⟨⟨?_, ?_⟩, ?_⟩
        · simp [State.goto, hnil]
        · simp [State.goto, hnil]
        · simp [State.goto, locSyncSelectInd, LocSyncReqArray.setSlot_slots]
    · refine h.of_other hk howned (State.goto_phase_of_ne _ hk _) rfl rfl rfl rfl hi
        (fun j hj => s.arr.setSlot_slots_of_ne hj _) ?_
      · simp only [State.goto, locSyncSelectInd, LocSyncReqArray.setSlot_slots, if_true]
        split
        · exact fun he => hk (Option.some.inj he).symm
        · simp
  | sendFails k' i status hphase hstatus =>
    have hi : (s.phase k').slot = some i := by rw [hphase]; rfl
    by_cases hk : k = k'
    · subst hk
      refine h.of_own howned hi (fun _ _ => rfl) (fun _ => ?_) ?_
      · rw [State.goto_phase_self]
        rfl
      · rw [State.goto_phase_self]
        exact hstatus
    · exact h.of_arr_eq howned (State.goto_phase_of_ne s hk _) rfl rfl rfl rfl rfl
  | send k' i hphase =>
    have hi : (s.phase k').slot = some i := by rw [hphase]; rfl
    by_cases hk : k = k'
    · subst hk
      rw [hphase] at hstage
      refine h.of_own howned hi (fun _ _ => rfl) (fun _ => ?_) ?_
      · rw [State.goto_phase_self]
        rfl
      · rw [State.goto_phase_self]
        exact ⟨by simp [State.goto], hstage.1.of_eq rfl rfl, hstage.2⟩
    · exact h.of_arr_eq howned (State.goto_phase_of_ne _ hk _)
        (Function.update_of_ne hk _ _) rfl rfl rfl rfl
  | invalid k' i hphase hfree =>
    rw [h.owned.inUse k' i (by rw [hphase]; rfl)] at hfree
    cases hfree
  | arrived k' i hphase harrived =>
    have hi : (s.phase k').slot = some i := by rw [hphase]; rfl
    by_cases hk : k = k'
    · subst hk
      rw [hphase] at hstage
      refine h.of_own howned hi (fun _ _ => rfl) (fun _ => ?_) ?_
      · rw [State.goto_phase_self]
        rfl
      · rw [State.goto_phase_self]
        exact ⟨hstage.1, hstage.2.1.of_eq rfl rfl, fun _ => hstage.2.2 harrived⟩
    · exact h.of_arr_eq howned (State.goto_phase_of_ne s hk _) rfl rfl rfl rfl rfl
  | busy k' i hphase hwaiting =>
    -- nobody else waits in a slot that `k'` has selected
    have := (h.owned.selected k' i (by rw [hphase]; rfl)).waiting.mp hwaiting
    rw [hphase] at this
    cases this
  | wait k' i hphase harrived =>
    have hi : (s.phase k').slot = some i := by rw [hphase]; rfl
    by_cases hk : k = k'
    · subst hk
      rw [hphase] at hstage
      refine h.of_own howned hi (fun j hj => s.arr.setSlot_slots_of_ne hj _) (fun _ => ?_) ?_
      · rw [State.goto_phase_self]
        rfl
      · rw [State.goto_phase_self]
        exact ⟨hstage.1, hstage.2.1.of_eq rfl rfl, by simp [State.goto]⟩
    · refine h.of_other hk howned (State.goto_phase_of_ne _ hk _) rfl
        (Function.update_of_ne hk _ _) rfl rfl hi (fun j hj => s.arr.setSlot_slots_of_ne hj _) ?_
      simp only [State.goto, LocSyncReqArray.setSlot_slots, if_true]
      exact (h.owned.selected k' i (by rw [hphase]; rfl)).pointer_ne hk
  | wake k' i timedOut hphase =>
    have hi : (s.phase k').slot = some i := by rw [hphase]; rfl
    by_cases hk : k = k'
    · subst hk
      rw [hphase] at hstage
      refine h.of_own howned hi (fun j hj => s.arr.setSlot_slots_of_ne hj _) (fun _ => ?_) ?_
      · rw [State.goto_phase_self]
        rfl
      · rw [State.goto_phase_self]
        refine ⟨hstage.1, hstage.2.1.of_eq rfl rfl, fun hret => hstage.2.2 ?_⟩
        rcases hsteady rfl i hphase with htimeout | hsignalled
        · simp [htimeout, ETIMEDOUT] at hret
        · exact hsignalled
    · refine h.of_other hk howned (State.goto_phase_of_ne _ hk _) rfl rfl rfl rfl hi
        (fun j hj => s.arr.setSlot_slots_of_ne hj _) ?_
      simp only [State.goto, LocSyncReqArray.setSlot_slots, if_true]
      exact (h.owned.selected k' i (by rw [hphase]; rfl)).pointer_ne hk
  | leave k' i ret hphase =>
    by_cases hk : k = k'
    · subst hk
      rw [hphase] at hstage
      refine h.free howned (by rw [hphase]; rfl) rfl (State.goto_phase_self _ _ _) fun hstatus =>
        ⟨hstage.1, hstage.2.1.of_eq rfl rfl, hstage.2.2 ?_⟩
      by_contra hneg
      simp only [statusOfWait, if_pos (not_le.mp hneg)] at hstatus
      split at hstatus <;> cases hstatus
    · exact h.free_other hk howned (by rw [hphase]; rfl)
  | abandon k' i status hphase =>
    by_cases hk : k = k'
    · subst hk
      rw [hphase] at hstage
      exact h.free howned (by rw [hphase]; rfl) rfl (State.goto_phase_self _ _ _)
        fun hstatus => absurd hstatus hstage
    · exact h.free_other hk howned (by rw [hphase]; rfl)
  | processInd ind => exact h.processInd ind

omit [DecidableEq K] in
theorem Progress.sound {k : K} {s : State K} (h : Progress req k s) : SuccessSound req k s := by
  intro hphase
  have hstage := h.stage
  rw [hphase] at hstage
  obtain ⟨hsent, hheard, hne⟩ := hstage rfl
  have hlast := List.getLast?_eq_some_getLast hne
  exact ⟨hsent, _, hlast, hheard.answers _ (List.getLast_mem hne),
    fun hhas => hheard.copied hhas _ hlast⟩

/-- **Success means a matching indication**, in every run in which call `k` finds a free
slot and is not woken spuriously.  The table may start in any state in which no slot
points to `k`'s buffer. -/
theorem success_sound (req : K → Request) (k : K) (arr : LocSyncReqArray K)
    (mem : K → List UInt8) (es : List (Event K))
    (hbuffer : ∀ i, (arr.slots i).recvIndPayloadPtr ≠ some k)
    (hsteady : Meets (step req) (Steady k) (State.start arr mem) es) :
    Throughout (step req) (SuccessSound req k) (State.start arr mem) es := by
  have hstart : Progress req k (State.start arr mem) :=
    ⟨owned_start arr mem, fun i hi => absurd hi (hbuffer i), rfl⟩
  have hall : Throughout (step req) (Progress req k) (State.start arr mem) es :=
    throughout_of_meets (fun _ e h hC => progress_step h e hC) hstart hsteady
  exact hall.imp fun _ h => h.sound

/-- A request for indication 7 of client 1, with a payload buffer. -/
def sampleRequest : Request :=
  { clientHandle := 1, reqId := 7, indId := 7, hasPayloadPtr := true }

/-- One call, whose indication arrives while it waits. -/
def sampleRun : List (Event Unit) :=
  [.alloc (), .select (), .send () .success, .enterWait (), .processInd ⟨1, 7, some [3, 4]⟩,
    .wake () false, .free ()]

theorem success_sound_sample :
    Throughout (step fun _ => sampleRequest) (SuccessSound (fun _ => sampleRequest) ())
      (State.start .init fun _ => []) sampleRun :=
  success_sound (fun _ => sampleRequest) () .init (fun _ => []) sampleRun
    (fun _ h => by cases h) (by decide)

/-- A wakeup out of nowhere, and a table with no free slot, are both reported as success
with no indication received; in the second case nothing was sent either. -/
theorem success_unsound :
    (¬ SuccessSound (fun _ => sampleRequest) () (run (step fun _ => sampleRequest)
      (State.start .init fun _ => [])
      [.alloc (), .select (), .send () .success, .enterWait (), .wake () false, .free ()])) ∧
    ¬ SuccessSound (fun _ => sampleRequest) () (run (step fun _ => sampleRequest)
      (State.start { inUse := true, slotInUse := fun _ => true, slots := fun _ => .reset }
        fun _ => [])
      [.alloc ()]) := by
  constructor
  · intro h
    obtain ⟨_, ind, hlast, _⟩ := h (by decide)
    cases hlast
  · intro h
    obtain ⟨_, ind, hlast, _⟩ := h (by decide)
    cases hlast

end LocationStack.SyncReq
