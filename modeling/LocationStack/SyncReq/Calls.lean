import LocationStack.Lib.EventRun
import LocationStack.SyncReq.Table

/-! # Concurrent synchronous calls

Any number of threads run `loc_sync_send_req` while indications arrive.  Each call is
cut at its critical sections, and an event is one of them, by one caller or by the
indication thread:

* `alloc k`, `select k`: `loc_alloc_slot`, then the slot section of
  `loc_sync_select_ind`;
* `send k status`: `locClientSendReq` returns `status`;
* `enterWait k`, `wake k timedOut`: the two halves of `loc_sync_wait_for_ind`, before
  and after `pthread_cond_timedwait` releases and retakes the lock.  A wakeup may come
  at any time: after a signal, by timeout, or spuriously;
* `free k`: `loc_free_slot`;
* `processInd ind`: `loc_sync_process_ind`.

An event whose caller is not at that point of the function does nothing.
`loc_sync_process_ind` is one event although it takes the slots' locks one after
another: it holds the table's lock throughout, so no slot is taken or freed meanwhile,
and what a caller does under the lock of one slot can be moved before or after the
whole loop, according to whether the loop has still to reach that slot.
-/
namespace LocationStack.SyncReq

/-- `locClientStatusEnumType`. -/
inductive LocClientStatus
  | success
  | failureGeneral
  | failureUnsupported
  | failureInvalidParameter
  | failureEngineBusy
  | failurePhoneOffline
  | failureTimeout
  | failureServiceNotPresent
  | failureServiceVersionUnsupported
  | failureClientVersionUnsupported
  | failureInvalidHandle
  | failureInternal
  | failureNotInitialized
  | failureNotEnoughMemory
  | failureInvalidMessageId
  deriving DecidableEq, Repr

/-- `EBUSY` of `errno.h`. -/
def EBUSY : Int := 16
/-- `ETIMEDOUT` of `errno.h`. -/
def ETIMEDOUT : Int := 110

/-- The arguments of one `loc_sync_send_req` that the table sees; `hasPayloadPtr` is
false when the caller passes a null payload pointer. -/
structure Request where
  clientHandle : LocClientHandle
  reqId : UInt32
  indId : UInt32
  hasPayloadPtr : Bool
  deriving DecidableEq, Repr

/-- Where a call stands; the slot it holds goes with it. -/
inductive CallPhase
  /-- Not called yet. -/
  | idle
  /-- Between `loc_alloc_slot` and the slot section of `loc_sync_select_ind`. -/
  | selecting (i : SelectId)
  /-- Selected, in `locClientSendReq`. -/
  | sending (i : SelectId)
  /-- The request is sent, `loc_sync_wait_for_ind` is about to take the slot's lock. -/
  | entering (i : SelectId)
  /-- In `pthread_cond_timedwait`. -/
  | waiting (i : SelectId)
  /-- `loc_sync_wait_for_ind` has its `ret_val` and is about to free the slot. -/
  | leaving (i : SelectId) (ret : Int)
  /-- The request could not be sent, the slot is about to be freed. -/
  | abandoning (i : SelectId) (status : LocClientStatus)
  /-- `loc_sync_send_req` has returned. -/
  | returned (status : LocClientStatus)
  deriving DecidableEq, Repr

/-- The slot a call holds, from its `loc_alloc_slot` to its `loc_free_slot`. -/
def CallPhase.slot : CallPhase → Option SelectId
  | .idle | .returned _ => none
  | .selecting i | .sending i | .entering i | .waiting i | .leaving i _ | .abandoning i _ =>
      some i

/-- The slot a call has selected its indication in. -/
def CallPhase.selected : CallPhase → Option SelectId
  | .idle | .selecting _ | .returned _ => none
  | .sending i | .entering i | .waiting i | .leaving i _ | .abandoning i _ => some i

theorem CallPhase.slot_of_selected {p : CallPhase} {i : SelectId} (h : p.selected = some i) :
    p.slot = some i := by
  cases p <;> simp_all [selected, slot]

/-- The table, the callers' buffers and where each call stands.  The last four fields are
a record of the run that the code does not keep: whether the request was sent, whether
the caller was signalled since it began to wait, the indications processed into its slot
since it selected, and all the indications processed. -/
structure State (K : Type) where
  arr : LocSyncReqArray K
  mem : K → List UInt8
  phase : K → CallPhase
  sent : K → Bool
  signalled : K → Bool
  received : K → List Indication
  processed : List Indication

inductive Event (K : Type)
  | alloc (k : K)
  | select (k : K)
  | send (k : K) (status : LocClientStatus)
  | enterWait (k : K)
  | wake (k : K) (timedOut : Bool)
  | free (k : K)
  | processInd (ind : Indication)
  deriving DecidableEq, Repr

variable {K : Type} [DecidableEq K]

/-- No call has been made yet; the table may be in any state. -/
def State.start (arr : LocSyncReqArray K) (mem : K → List UInt8) : State K :=
  { arr := arr
    mem := mem
    phase := fun _ => .idle
    sent := fun _ => false
    signalled := fun _ => false
    received := fun _ => []
    processed := [] }

/-- Call `k` moves to phase `p`. -/
def State.goto (s : State K) (k : K) (p : CallPhase) : State K :=
  { s with phase := Function.update s.phase k p }

/-- The status `loc_sync_send_req` makes of the result of `loc_sync_wait_for_ind`. -/
def statusOfWait (rc : Int) : LocClientStatus :=
  if rc < 0 then
    if rc = -ETIMEDOUT then .failureTimeout else .failureInternal
  else .success

/-- One event; `req k` is what call `k` was called with. -/
def step (req : K → Request) (s : State K) : Event K → State K
  | .alloc k =>
      match s.phase k with
      | .idle =>
          match locAllocSlot s.arr with
          -- loc_sync_select_ind fails, and `status` is still eLOC_CLIENT_SUCCESS
          | (none, arr) => { s with arr := arr }.goto k (.returned .success)
          | (some i, arr) => { s with arr := arr }.goto k (.selecting i)
      | _ => s
  | .select k =>
      match s.phase k with
      | .selecting i =>
          { s with
            arr := locSyncSelectInd s.arr i (req k).clientHandle (req k).indId (req k).reqId
              (if (req k).hasPayloadPtr then some k else none) }.goto k (.sending i)
      | _ => s
  | .send k status =>
      match s.phase k with
      | .sending i =>
          if status ≠ .success then s.goto k (.abandoning i status)
          else { s with sent := Function.update s.sent k true }.goto k (.entering i)
      | _ => s
  | .enterWait k =>
      match s.phase k with
      | .entering i =>
          if !s.arr.slotInUse i then s.goto k (.returned .failureInternal)
          else if (s.arr.slots i).indHasArrived then s.goto k (.leaving i 0)
          else if (s.arr.slots i).indIsWaiting then s.goto k (.leaving i (-EBUSY))
          else
            { s with
              arr := s.arr.setSlot i { s.arr.slots i with indIsWaiting := true }
              signalled := Function.update s.signalled k false }.goto k (.waiting i)
      | _ => s
  | .wake k timedOut =>
      match s.phase k with
      | .waiting i =>
          { s with
            arr := s.arr.setSlot i { s.arr.slots i with indIsWaiting := false } }.goto k
              (.leaving i (if timedOut then -ETIMEDOUT else 0))
      | _ => s
  | .free k =>
      match s.phase k with
      | .leaving i ret =>
          { s with arr := locFreeSlot s.arr i }.goto k (.returned (statusOfWait ret))
      | .abandoning i status =>
          { s with arr := locFreeSlot s.arr i }.goto k (.returned status)
      | _ => s
  | .processInd ind =>
      let r := locSyncProcessInd ind s.arr s.mem
      { s with
        arr := r.arr
        mem := r.mem
        signalled := fun k => s.signalled k || (s.phase k).slot.any (r.signalled.contains ·)
        received := fun k =>
          if (s.phase k).selected.any (r.delivered.contains ·) then s.received k ++ [ind]
          else s.received k
        processed := s.processed ++ [ind] }

/-! ## What an event can do -/

/-- The effect of an event, one constructor for each way through the code: what it
requires of the state before and what it makes of it. -/
inductive Effect (req : K → Request) (s : State K) : Event K → State K → Prop
  | stutter (e : Event K) : Effect req s e s
  | full (k : K) (hphase : s.phase k = .idle) (hfull : ∀ i, s.arr.slotInUse i = true) :
      Effect req s (.alloc k) (s.goto k (.returned .success))
  | alloc (k : K) (i : SelectId) (hphase : s.phase k = .idle)
      (hfree : s.arr.slotInUse i = false) :
      Effect req s (.alloc k)
        ({ s with arr := { s.arr with
            slotInUse := Function.update s.arr.slotInUse i true, inUse := true } }.goto k
          (.selecting i))
  | select (k : K) (i : SelectId) (hphase : s.phase k = .selecting i) :
      Effect req s (.select k)
        ({ s with
            arr := locSyncSelectInd s.arr i (req k).clientHandle (req k).indId (req k).reqId
              (if (req k).hasPayloadPtr then some k else none) }.goto k (.sending i))
  | sendFails (k : K) (i : SelectId) (status : LocClientStatus)
      (hphase : s.phase k = .sending i) (hstatus : status ≠ .success) :
      Effect req s (.send k status) (s.goto k (.abandoning i status))
  | send (k : K) (i : SelectId) (hphase : s.phase k = .sending i) :
      Effect req s (.send k .success)
        ({ s with sent := Function.update s.sent k true }.goto k (.entering i))
  | invalid (k : K) (i : SelectId) (hphase : s.phase k = .entering i)
      (hfree : s.arr.slotInUse i = false) :
      Effect req s (.enterWait k) (s.goto k (.returned .failureInternal))
  | arrived (k : K) (i : SelectId) (hphase : s.phase k = .entering i)
      (harrived : (s.arr.slots i).indHasArrived = true) :
      Effect req s (.enterWait k) (s.goto k (.leaving i 0))
  | busy (k : K) (i : SelectId) (hphase : s.phase k = .entering i)
      (hwaiting : (s.arr.slots i).indIsWaiting = true) :
      Effect req s (.enterWait k) (s.goto k (.leaving i (-EBUSY)))
  | wait (k : K) (i : SelectId) (hphase : s.phase k = .entering i)
      (harrived : (s.arr.slots i).indHasArrived = false) :
      Effect req s (.enterWait k)
        ({ s with
            arr := s.arr.setSlot i { s.arr.slots i with indIsWaiting := true }
            signalled := Function.update s.signalled k false }.goto k (.waiting i))
  | wake (k : K) (i : SelectId) (timedOut : Bool) (hphase : s.phase k = .waiting i) :
      Effect req s (.wake k timedOut)
        ({ s with
            arr := s.arr.setSlot i { s.arr.slots i with indIsWaiting := false } }.goto k
          (.leaving i (if timedOut then -ETIMEDOUT else 0)))
  | leave (k : K) (i : SelectId) (ret : Int) (hphase : s.phase k = .leaving i ret) :
      Effect req s (.free k)
        ({ s with arr := locFreeSlot s.arr i }.goto k (.returned (statusOfWait ret)))
  | abandon (k : K) (i : SelectId) (status : LocClientStatus)
      (hphase : s.phase k = .abandoning i status) :
      Effect req s (.free k)
        ({ s with arr := locFreeSlot s.arr i }.goto k (.returned status))
  | processInd (ind : Indication) :
      Effect req s (.processInd ind) (step req s (.processInd ind))

/-- The spec of `step`: every event has one of the effects above. -/
theorem step_effect (req : K → Request) (s : State K) (e : Event K) :
    Effect req s e (step req s e) := by
  cases e with
  | alloc k =>
    simp only [step]
    split
    · rename_i hphase
      rcases locAllocSlot_cases s.arr with ⟨hfull, hres⟩ | ⟨i, hfree, hres⟩
      · rw [hres]
        exact .full k hphase hfull
      · rw [hres]
        exact .alloc k i hphase hfree
    · exact .stutter _
  | select k =>
    simp only [step]
    split
    · exact .select k _ ‹_›
    · exact .stutter _
  | send k status =>
    simp only [step]
    split
    · split
      · exact .sendFails k _ status ‹_› ‹_›
      · rename_i hstatus
        rw [not_ne_iff.mp hstatus]
        exact .send k _ ‹_›
    · exact .stutter _
  | enterWait k =>
    simp only [step]
    split
    · rename_i i hphase
      split
      · rename_i hfree
        exact .invalid k i hphase (by simpa using hfree)
      · split
        · exact .arrived k i hphase ‹_›
        · rename_i harrived
          split
          · exact .busy k i hphase ‹_›
          · exact .wait k i hphase (by simpa using harrived)
    · exact .stutter _
  | wake k timedOut =>
    simp only [step]
    split
    · exact .wake k _ timedOut ‹_›
    · exact .stutter _
  | free k =>
    simp only [step]
    split
    · exact .leave k _ _ ‹_›
    · exact .abandon k _ _ ‹_›
    · exact .stutter _
  | processInd ind => exact .processInd ind

end LocationStack.SyncReq
