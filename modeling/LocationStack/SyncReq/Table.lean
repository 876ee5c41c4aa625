import Mathlib.Data.Fin.Basic
import Mathlib.Data.List.FinRange
import Mathlib.Logic.Function.Basic

/-! # The slot table of the synchronous request module

`loc_api_sync_req.cpp` turns an asynchronous request into a blocking call: the
caller takes one of eight slots, records in it which indication it waits for,
sends its request, and sleeps until `loc_sync_process_ind` finds its slot.  This
module has the table and the critical sections that read and write it, one
definition for each; who runs them, and in which order, is `SyncReq.Calls`.

A caller's payload buffer is named by the call that owns it, so a stored
`ind_payload_ptr` is the name of a call, and `none` is the null pointer.
-/
namespace LocationStack.SyncReq

/-- `LOC_SYNC_REQ_BUFFER_SIZE`. -/
abbrev locSyncReqBufferSize : Nat := 8

/-- An index into the table, what `loc_alloc_slot` calls a select id. -/
abbrev SelectId := Fin locSyncReqBufferSize

/-- `locClientHandleType`, the address of a client; the null pointer is 0. -/
abbrev LocClientHandle := Nat

/-- `LOC_CLIENT_INVALID_HANDLE_VALUE`. -/
def locClientInvalidHandleValue : LocClientHandle := 0

/-- What `loc_sync_process_ind` is given: the client handle, the indication id and
the payload with its size, `none` for a null pointer. -/
structure Indication where
  clientHandle : LocClientHandle
  indId : UInt32
  payload : Option (List UInt8)
  deriving DecidableEq, Repr

/-- The bytes an indication carries. -/
def Indication.bytes (ind : Indication) : List UInt8 := ind.payload.getD []

variable {K : Type} [DecidableEq K]

/-- `loc_sync_req_data_s_type`, less its lock and its condition variable. -/
structure LocSyncReqData (K : Type) where
  clientHandle : LocClientHandle
  indIsSelected : Bool
  indIsWaiting : Bool
  indHasArrived : Bool
  reqId : UInt32
  recvIndPayloadPtr : Option K
  recvIndId : UInt32
  deriving DecidableEq

/-- The fields of a slot after `loc_sync_req_init` and after `loc_free_slot`. -/
def LocSyncReqData.reset : LocSyncReqData K :=
  { clientHandle := locClientInvalidHandleValue
    indIsSelected := false
    indIsWaiting := false
    indHasArrived := false
    reqId := 0
    recvIndPayloadPtr := none
    recvIndId := 0 }

/-- `loc_sync_req_array_s_type`. -/
structure LocSyncReqArray (K : Type) where
  inUse : Bool
  slotInUse : SelectId → Bool
  slots : SelectId → LocSyncReqData K

namespace LocSyncReqArray

/-- `loc_sync_req_init`. -/
def init : LocSyncReqArray K :=
  { inUse := false, slotInUse := fun _ => false, slots := fun _ => .reset }

/-- Slot `i` becomes `d`. -/
def setSlot (arr : LocSyncReqArray K) (i : SelectId) (d : LocSyncReqData K) :
    LocSyncReqArray K :=
  { arr with slots := Function.update arr.slots i d }

omit [DecidableEq K] in
@[simp] theorem setSlot_inUse (arr : LocSyncReqArray K) (i : SelectId) (d : LocSyncReqData K) :
    (arr.setSlot i d).inUse = arr.inUse := rfl

omit [DecidableEq K] in
@[simp] theorem setSlot_slotInUse (arr : LocSyncReqArray K) (i : SelectId)
    (d : LocSyncReqData K) : (arr.setSlot i d).slotInUse = arr.slotInUse := rfl

omit [DecidableEq K] in
theorem setSlot_slots (arr : LocSyncReqArray K) (i j : SelectId) (d : LocSyncReqData K) :
    (arr.setSlot i d).slots j = if j = i then d else arr.slots j := by
  simp [setSlot, Function.update_apply]

omit [DecidableEq K] in
theorem setSlot_slots_of_ne (arr : LocSyncReqArray K) {i j : SelectId} (h : j ≠ i)
    (d : LocSyncReqData K) : (arr.setSlot i d).slots j = arr.slots j := by
  rw [setSlot_slots, if_neg h]

end LocSyncReqArray

/-! ## Taking and giving back a slot -/

/-- `loc_alloc_slot`: the first slot not in use, marked in use; `none` where the
source returns -1. -/
def locAllocSlot (arr : LocSyncReqArray K) : Option SelectId × LocSyncReqArray K :=
  match (List.finRange locSyncReqBufferSize).find? (fun i => !arr.slotInUse i) with
  | none => (none, arr)
  | some i =>
      (some i, { arr with slotInUse := Function.update arr.slotInUse i true, inUse := true })

omit [DecidableEq K] in
/-- What `loc_alloc_slot` does: it fails when every slot is in use, and otherwise marks
a free slot and changes nothing else. -/
theorem locAllocSlot_cases (arr : LocSyncReqArray K) :
    ((∀ i, arr.slotInUse i = true) ∧ locAllocSlot arr = (none, arr)) ∨
    ∃ i, arr.slotInUse i = false ∧
      locAllocSlot arr = (some i,
        { arr with slotInUse := Function.update arr.slotInUse i true, inUse := true }) := by
  unfold locAllocSlot
  split
  · rename_i hnone
    refine Or.inl ⟨fun i => ?_, rfl⟩
    have := List.find?_eq_none.mp hnone i (List.mem_finRange i)
    simpa using this
  · rename_i i hi
    refine Or.inr ⟨i, ?_, rfl⟩
    simpa using List.find?_some hi

/-- `loc_free_slot`: the slot is reset and marked free, and the table is marked unused
when no slot is left in use. -/
def locFreeSlot (arr : LocSyncReqArray K) (selectId : SelectId) : LocSyncReqArray K :=
  let slotInUse := Function.update arr.slotInUse selectId false
  { slotInUse := slotInUse
    slots := Function.update arr.slots selectId .reset
    inUse :=
      if (List.finRange locSyncReqBufferSize).any slotInUse then arr.inUse else false }

omit [DecidableEq K] in
theorem locFreeSlot_slotInUse (arr : LocSyncReqArray K) (i j : SelectId) :
    (locFreeSlot arr i).slotInUse j = if j = i then false else arr.slotInUse j := by
  simp [locFreeSlot, Function.update_apply]

omit [DecidableEq K] in
theorem locFreeSlot_slots (arr : LocSyncReqArray K) (i j : SelectId) :
    (locFreeSlot arr i).slots j = if j = i then .reset else arr.slots j := by
  simp [locFreeSlot, Function.update_apply]

omit [DecidableEq K] in
/-- After `loc_free_slot` the table is in use exactly when it was and some slot still is. -/
theorem locFreeSlot_inUse (arr : LocSyncReqArray K) (i : SelectId) :
    (locFreeSlot arr i).inUse = true ↔
      arr.inUse = true ∧ ∃ j, (locFreeSlot arr i).slotInUse j = true := by
  have hany : (List.finRange locSyncReqBufferSize).any (locFreeSlot arr i).slotInUse = true ↔
      ∃ j, (locFreeSlot arr i).slotInUse j = true := by
    simp [List.any_eq_true]
  rw [← hany]
  show (if (List.finRange locSyncReqBufferSize).any (locFreeSlot arr i).slotInUse
    then arr.inUse else false) = true ↔ _
  split <;> simp_all

/-- The slot section of `loc_sync_select_ind`: the caller's handle, indication and
payload pointer are stored and the flags are cleared. -/
def locSyncSelectInd (arr : LocSyncReqArray K) (selectId : SelectId)
    (clientHandle : LocClientHandle) (indId reqId : UInt32) (indPayloadPtr : Option K) :
    LocSyncReqArray K :=
  arr.setSlot selectId
    { clientHandle := clientHandle
      indIsSelected := true
      indIsWaiting := false
      indHasArrived := false
      recvIndId := indId
      reqId := reqId
      recvIndPayloadPtr := indPayloadPtr }

/-! ## Processing an indication -/

/-- The test of `loc_sync_process_ind` on one slot: in use, waiting for this handle and
this indication, and not yet marked as arrived. -/
def LocSyncReqArray.wants (arr : LocSyncReqArray K) (ind : Indication) (i : SelectId) : Bool :=
  arr.slotInUse i && ((arr.slots i).clientHandle == ind.clientHandle) &&
    (ind.indId == (arr.slots i).recvIndId) && !(arr.slots i).indHasArrived

omit [DecidableEq K] in
theorem LocSyncReqArray.wants_iff {arr : LocSyncReqArray K} {ind : Indication} {i : SelectId} :
    arr.wants ind i = true ↔ arr.slotInUse i = true ∧
      (arr.slots i).clientHandle = ind.clientHandle ∧ (arr.slots i).recvIndId = ind.indId ∧
      (arr.slots i).indHasArrived = false := by
  simp only [wants, Bool.and_eq_true, beq_iff_eq, Bool.not_eq_true', and_assoc]
  constructor
  · rintro ⟨h1, h2, h3, h4⟩
    exact ⟨h1, h2, h3.symm, h4⟩
  · rintro ⟨h1, h2, h3, h4⟩
    exact ⟨h1, h2, h3.symm, h4⟩

/-- `memcpy` of `src` to the start of `dst`. -/
def memcpy (dst src : List UInt8) : List UInt8 := src ++ dst.drop src.length

theorem take_memcpy (dst src : List UInt8) : (memcpy dst src).take src.length = src := by
  simp [memcpy]

/-- The variables of the loop of `loc_sync_process_ind`: the table and the callers'
buffers, the two flags, and, for the record, the slots the indication was processed
into and those among them that were signalled. -/
structure ProcessState (K : Type) where
  arr : LocSyncReqArray K
  mem : K → List UInt8
  inUse : Bool
  consumed : Bool
  delivered : List SelectId
  signalled : List SelectId

/-- The body of the loop for slot `i`. -/
def processSlot (ind : Indication) (i : SelectId) (st : ProcessState K) : ProcessState K :=
  let st := { st with inUse := st.inUse || st.arr.slotInUse i }
  if st.arr.wants ind i then
    let slot := st.arr.slots i
    let st := { st with delivered := st.delivered ++ [i] }
    let st :=
      match slot.recvIndPayloadPtr, ind.payload with
      | some p, some payload =>
          if payload.length > 0 then
            { st with mem := Function.update st.mem p (memcpy (st.mem p) payload)
                      consumed := true }
          else st
      | _, _ => st
    if slot.indIsWaiting then
      -- pthread_cond_signal; `ind_has_arrived` stays false here
      { st with signalled := st.signalled ++ [i] }
    else
      { st with arr := st.arr.setSlot i { slot with indHasArrived := true } }
  else st

/-- The loop: the slots in order, until one has consumed the indication. -/
def processLoop (ind : Indication) : List SelectId → ProcessState K → ProcessState K
  | [], st => st
  | i :: is, st => if st.consumed then st else processLoop ind is (processSlot ind i st)

/-- `loc_sync_process_ind`. -/
def locSyncProcessInd (ind : Indication) (arr : LocSyncReqArray K) (mem : K → List UInt8) :
    ProcessState K :=
  let st : ProcessState K := ⟨arr, mem, false, false, [], []⟩
  if !arr.inUse then st
  else
    let st := processLoop ind (List.finRange locSyncReqBufferSize) st
    if !st.inUse then { st with arr := { st.arr with inUse := false } } else st

/-! ### What processing an indication does -/

/-- The indication carries data: its payload pointer is not null and its size is positive,
so that it is copied out wherever it is processed into a slot with a payload pointer. -/
def Indication.HasPayload (ind : Indication) : Prop := ind.bytes ≠ []

instance (ind : Indication) : Decidable ind.HasPayload :=
  inferInstanceAs (Decidable (ind.bytes ≠ []))

/-- The buffers after the `memcpy` of an iteration that takes the indication. -/
def copyOut (ind : Indication) (ptr : Option K) (mem : K → List UInt8) : K → List UInt8 :=
  match ptr with
  | some p => Function.update mem p (memcpy (mem p) ind.bytes)
  | none => mem

theorem copyOut_of_bytes_nil {ind : Indication} (h : ind.bytes = []) (ptr : Option K)
    (mem : K → List UInt8) : copyOut ind ptr mem = mem := by
  cases ptr with
  | none => rfl
  | some p => simp [copyOut, h, memcpy]

theorem processSlot_of_not_wants {ind : Indication} {i : SelectId} {st : ProcessState K}
    (h : st.arr.wants ind i = false) :
    processSlot ind i st = { st with inUse := st.inUse || st.arr.slotInUse i } := by
  simp [processSlot, h]

theorem processSlot_of_wants {ind : Indication} {i : SelectId} {st : ProcessState K}
    (h : st.arr.wants ind i = true) :
    processSlot ind i st =
        { arr := if (st.arr.slots i).indIsWaiting then st.arr
            else st.arr.setSlot i { st.arr.slots i with indHasArrived := true }
          mem := copyOut ind (st.arr.slots i).recvIndPayloadPtr st.mem
          inUse := true
          consumed := st.consumed ||
            ((st.arr.slots i).recvIndPayloadPtr.isSome && !ind.bytes.isEmpty)
          delivered := st.delivered ++ [i]
          signalled := if (st.arr.slots i).indIsWaiting then st.signalled ++ [i]
            else st.signalled } := by
  have huse : st.arr.slotInUse i = true := (LocSyncReqArray.wants_iff.mp h).1
  simp only [processSlot, h, if_true, huse, Bool.or_true]
  rcases hp : (st.arr.slots i).recvIndPayloadPtr with _ | p
  · cases (st.arr.slots i).indIsWaiting <;> simp [copyOut]
  · rcases hpay : ind.payload with _ | payload
    · have hb : ind.bytes = [] := by simp [Indication.bytes, hpay]
      cases (st.arr.slots i).indIsWaiting <;> simp [hb, copyOut_of_bytes_nil hb]
    · have hb : ind.bytes = payload := by simp [Indication.bytes, hpay]
      rcases payload with _ | ⟨b, bs⟩
      · cases (st.arr.slots i).indIsWaiting <;> simp [hb, copyOut_of_bytes_nil hb]
      · cases (st.arr.slots i).indIsWaiting <;> simp [hb, copyOut]

/-- What every iteration preserves is preserved by the loop. -/
theorem processLoop_induction {ind : Indication} {P : ProcessState K → Prop}
    (hstep : ∀ i st, st.consumed = false → P st → P (processSlot ind i st)) :
    ∀ (is : List SelectId) (st : ProcessState K), P st → P (processLoop ind is st)
  | [], _, h => h
  | i :: is, st, h => by
      unfold processLoop
      split
      · exact h
      · rename_i hc
        exact processLoop_induction hstep is _ (hstep i st (by simpa using hc) h)

/-- **What processing `ind` leaves behind**, compared with the table `arr` and the
buffers `mem` before it: slots change only in `ind_has_arrived`, only those the
indication was processed into receive it, and a buffer is written only through the
pointer of such a slot, with the payload. -/
structure Processed (ind : Indication) (arr : LocSyncReqArray K) (mem : K → List UInt8)
    (st : ProcessState K) : Prop where
  slotInUse : st.arr.slotInUse = arr.slotInUse
  slot : ∀ i, st.arr.slots i =
    { arr.slots i with indHasArrived := (st.arr.slots i).indHasArrived }
  arrived : ∀ i, (st.arr.slots i).indHasArrived = true ↔
    (arr.slots i).indHasArrived = true ∨ (i ∈ st.delivered ∧ (arr.slots i).indIsWaiting = false)
  wanted : ∀ i ∈ st.delivered, arr.wants ind i = true
  signalled : ∀ i, i ∈ st.signalled ↔ i ∈ st.delivered ∧ (arr.slots i).indIsWaiting = true
  copied : ∀ i ∈ st.delivered, ∀ p, (arr.slots i).recvIndPayloadPtr = some p →
    (st.mem p).take ind.bytes.length = ind.bytes
  kept : ∀ p, (∀ i ∈ st.delivered, (arr.slots i).recvIndPayloadPtr ≠ some p) → st.mem p = mem p


/-- One iteration keeps what the loop has established. -/
theorem processSlot_processed {ind : Indication} {arr : LocSyncReqArray K}
    {mem : K → List UInt8} (i : SelectId) {st : ProcessState K}
    (h : Processed ind arr mem st) : Processed ind arr mem (processSlot ind i st) := by
  cases hw : st.arr.wants ind i with
  | false =>
    rw [processSlot_of_not_wants hw]
    exact ⟨h.slotInUse, h.slot, h.arrived, h.wanted, h.signalled, h.copied, h.kept⟩
  | true =>
    obtain ⟨huse, hhandle, hid, harr⟩ := LocSyncReqArray.wants_iff.mp hw
    have hslot := h.slot i
    have hptr : (st.arr.slots i).recvIndPayloadPtr = (arr.slots i).recvIndPayloadPtr := by
      rw [hslot]
    have hwait : (st.arr.slots i).indIsWaiting = (arr.slots i).indIsWaiting := by rw [hslot]
    have hwanted : arr.wants ind i = true := by
      refine LocSyncReqArray.wants_iff.mpr ⟨?_, ?_, ?_, ?_⟩
      · rw [← h.slotInUse]; exact huse
      · rw [hslot] at hhandle; exact hhandle
      · rw [hslot] at hid; exact hid
      · by_contra hne
        have := (h.arrived i).mpr (Or.inl (by simpa using hne))
        rw [harr] at this
        cases this
    rw [processSlot_of_wants hw, hptr, hwait]
    constructor
    · split <;> exact h.slotInUse
    · intro j
      split
      · exact h.slot j
      · simp only [LocSyncReqArray.setSlot_slots]
        split
        · rename_i hji
          subst hji
          rw [h.slot j]
        · exact h.slot j
    · intro j
      simp only [List.mem_append, List.mem_singleton]
      split
      · rename_i hwt
        rw [h.arrived j]
        constructor
        · rintro (h' | h')
          · exact Or.inl h'
          · exact Or.inr ⟨Or.inl h'.1, h'.2⟩
        · rintro (h' | ⟨h' | rfl, hn⟩)
          · exact Or.inl h'
          · exact Or.inr ⟨h', hn⟩
          · rw [hwt] at hn; cases hn
      · rename_i hwt
        simp only [LocSyncReqArray.setSlot_slots]
        split
        · rename_i hji
          subst hji
          exact ⟨fun _ => Or.inr ⟨Or.inr rfl, by simpa using hwt⟩, fun _ => rfl⟩
        · rename_i hji
          rw [h.arrived j]
          simp [hji]
    · intro j hj
      rcases List.mem_append.mp hj with hj | hj
      · exact h.wanted j hj
      · rw [List.mem_singleton.mp hj]; exact hwanted
    · intro j
      split
      · rename_i hwt
        simp only [List.mem_append, List.mem_singleton, h.signalled j]
        constructor
        · rintro (⟨h1, h2⟩ | rfl)
          · exact ⟨Or.inl h1, h2⟩
          · exact ⟨Or.inr rfl, hwt⟩
        · rintro ⟨h1 | h1, h2⟩
          · exact Or.inl ⟨h1, h2⟩
          · exact Or.inr h1
      · rename_i hwt
        simp only [List.mem_append, List.mem_singleton, h.signalled j]
        constructor
        · rintro ⟨h1, h2⟩
          exact ⟨Or.inl h1, h2⟩
        · rintro ⟨h1 | rfl, h2⟩
          · exact ⟨h1, h2⟩
          · exact absurd h2 hwt
    · intro j hj p hjp
      by_cases hpi : (arr.slots i).recvIndPayloadPtr = some p
      · simp [copyOut, hpi, take_memcpy]
      · have hj' : j ∈ st.delivered := by
          rcases List.mem_append.mp hj with hj | hj
          · exact hj
          · rw [List.mem_singleton.mp hj] at hjp
            exact absurd hjp hpi
        have := h.copied j hj' p hjp
        cases hq : (arr.slots i).recvIndPayloadPtr with
        | none => simpa [copyOut] using this
        | some q =>
          have hqp : p ≠ q := fun he => hpi (by rw [hq, he])
          simpa [copyOut, Function.update_of_ne hqp] using this
    · intro p hp
      have hold := h.kept p (fun j hj => hp j (List.mem_append_left _ hj))
      have hne := hp i (by simp)
      cases hq : (arr.slots i).recvIndPayloadPtr with
      | none => simpa [copyOut] using hold
      | some q =>
        have hqp : p ≠ q := fun he => hne (by rw [hq, he])
        simpa [copyOut, Function.update_of_ne hqp] using hold

omit [DecidableEq K] in
theorem processed_refl (ind : Indication) (arr : LocSyncReqArray K) (mem : K → List UInt8)
    (inUse : Bool) : Processed ind arr mem ⟨arr, mem, inUse, false, [], []⟩ where
  slotInUse := rfl
  slot := fun _ => rfl
  arrived := fun i => by simp
  wanted := fun i hi => by cases hi
  signalled := fun i => by simp
  copied := fun i hi => by cases hi
  kept := fun _ _ => rfl

/-- The spec of `loc_sync_process_ind`. -/
theorem locSyncProcessInd_processed (ind : Indication) (arr : LocSyncReqArray K)
    (mem : K → List UInt8) : Processed ind arr mem (locSyncProcessInd ind arr mem) := by
  have hloop : Processed ind arr mem (processLoop ind (List.finRange locSyncReqBufferSize)
      ⟨arr, mem, false, false, [], []⟩) :=
    processLoop_induction (fun i st _ h => processSlot_processed i h) _ _
      (processed_refl ind arr mem false)
  unfold locSyncProcessInd
  simp only []
  split
  · exact processed_refl ind arr mem false
  · split
    · exact ⟨hloop.slotInUse, hloop.slot, hloop.arrived, hloop.wanted, hloop.signalled,
        hloop.copied, hloop.kept⟩
    · exact hloop

/-- The loop never touches the table's own `in_use` flag. -/
theorem processLoop_arr_inUse (ind : Indication) (is : List SelectId) (st : ProcessState K) :
    (processLoop ind is st).arr.inUse = st.arr.inUse := by
  refine processLoop_induction (P := fun st' => st'.arr.inUse = st.arr.inUse) ?_ is st rfl
  intro i st' _ h
  cases hw : st'.arr.wants ind i with
  | false => rw [processSlot_of_not_wants hw]; exact h
  | true =>
    rw [processSlot_of_wants hw]
    simp only []
    split <;> exact h

/-- A loop that finds a slot in use, or has found one, ends with its `in_use` set. -/
theorem processLoop_inUse {ind : Indication} {arr : LocSyncReqArray K} :
    ∀ (is : List SelectId) (st : ProcessState K), st.arr.slotInUse = arr.slotInUse →
      (st.consumed = true → st.inUse = true) →
      (st.inUse = true ∨ ∃ i ∈ is, arr.slotInUse i = true) →
      (processLoop ind is st).inUse = true
  | [], st, _, _, h => by
      rcases h with h | ⟨i, hi, _⟩
      · exact h
      · cases hi
  | i :: is, st, harr, hcons, h => by
      unfold processLoop
      split
      · rename_i hc
        exact hcons hc
      · rename_i hc
        cases hw : st.arr.wants ind i with
        | false =>
          rw [processSlot_of_not_wants hw]
          refine processLoop_inUse is _ harr (fun hc' => absurd hc' hc) ?_
          rcases h with h | ⟨j, hj, huse⟩
          · exact Or.inl (by simp [h])
          · rcases List.mem_cons.mp hj with rfl | hj
            · exact Or.inl (by simp [harr, huse])
            · exact Or.inr ⟨j, hj, huse⟩
        | true =>
          rw [processSlot_of_wants hw]
          refine processLoop_inUse is _ (Eq.trans ?_ harr) (fun _ => rfl) (Or.inl rfl)
          simp only []
          split <;> rfl

/-- Processing an indication leaves the table's `in_use` flag as it is, provided the flag
says whether a slot is in use: the loop then always meets a slot in use. -/
theorem locSyncProcessInd_inUse {arr : LocSyncReqArray K}
    (h : arr.inUse = true ↔ ∃ i, arr.slotInUse i = true) (ind : Indication)
    (mem : K → List UInt8) : (locSyncProcessInd ind arr mem).arr.inUse = arr.inUse := by
  unfold locSyncProcessInd
  simp only []
  split
  · rfl
  · rename_i hin
    obtain ⟨i, hi⟩ := h.mp (by simpa using hin)
    have huse : (processLoop ind (List.finRange locSyncReqBufferSize)
        ⟨arr, mem, false, false, [], []⟩).inUse = true :=
      processLoop_inUse _ _ rfl (by simp) (Or.inr ⟨i, List.mem_finRange i, hi⟩)
    rw [huse]
    exact processLoop_arr_inUse _ _ _

/-- A loop whose indication is copied out by the first slot that wants it processes it
into that slot, and no other. -/
theorem processLoop_delivered {ind : Indication} {arr : LocSyncReqArray K}
    (hpay : ind.HasPayload) :
    ∀ (is : List SelectId) (st : ProcessState K), st.arr = arr → st.consumed = false →
      (∀ i, is.find? (arr.wants ind) = some i →
        (arr.slots i).recvIndPayloadPtr.isSome = true) →
      (processLoop ind is st).delivered = st.delivered ++ (is.find? (arr.wants ind)).toList
  | [], st, _, _, _ => by simp [processLoop]
  | i :: is, st, harr, hc, hptr => by
      unfold processLoop
      rw [if_neg (by simp [hc])]
      cases hw : arr.wants ind i with
      | false =>
        rw [processSlot_of_not_wants (by rw [harr]; exact hw), List.find?_cons, hw]
        rw [List.find?_cons, hw] at hptr
        exact processLoop_delivered hpay is _ harr hc hptr
      | true =>
        have hw' : st.arr.wants ind i = true := by rw [harr]; exact hw
        have hptri := hptr i (by rw [List.find?_cons, hw])
        have hcons : (processSlot ind i st).consumed = true := by
          rw [processSlot_of_wants hw', harr]
          simp only [hptri, hc, Bool.false_or, Bool.true_and, Bool.not_eq_true',
            List.isEmpty_eq_false_iff]
          exact hpay
        have hstop : processLoop ind is (processSlot ind i st) = processSlot ind i st := by
          cases is with
          | nil => rfl
          | cons j js => simp [processLoop, hcons]
        rw [hstop, processSlot_of_wants hw', List.find?_cons, hw]
        rfl

/-- The first slot, in the order of the loop, that wants the indication. -/
def LocSyncReqArray.firstWanting (arr : LocSyncReqArray K) (ind : Indication) :
    Option SelectId :=
  (List.finRange locSyncReqBufferSize).find? (arr.wants ind)

omit [DecidableEq K] in
theorem LocSyncReqArray.firstWanting_isSome {arr : LocSyncReqArray K} {ind : Indication}
    {i : SelectId} (h : arr.wants ind i = true) : (arr.firstWanting ind).isSome = true := by
  rw [firstWanting, List.find?_isSome]
  exact ⟨i, List.mem_finRange i, h⟩

/-- Where the first slot that wants the indication has a payload pointer, an indication
with a payload is processed into that slot, and into no other. -/
theorem locSyncProcessInd_delivered {ind : Indication} {arr : LocSyncReqArray K}
    (hpay : ind.HasPayload) (hin : arr.inUse = true)
    (hptr : ∀ i, arr.firstWanting ind = some i →
      (arr.slots i).recvIndPayloadPtr.isSome = true)
    (mem : K → List UInt8) :
    (locSyncProcessInd ind arr mem).delivered = (arr.firstWanting ind).toList := by
  have h := processLoop_delivered hpay (List.finRange locSyncReqBufferSize)
    (⟨arr, mem, false, false, [], []⟩ : ProcessState K) rfl rfl hptr
  unfold locSyncProcessInd
  simp only [hin, Bool.not_true, Bool.false_eq_true, if_false]
  split <;> exact h

end LocationStack.SyncReq
