import LocationStack.BaseUtil.TimeRoutines

/-! # The mutex of a waitable

One thread calls `push`, `close` and `pop` of a `BlockingQueueImpl`.  Each of them locks the
mutex of the `WaitableBase` below it, and `pop` does so through `lock_and_wait`, which returns 0
with the mutex locked.  What the primitives do, and what the thread finds in the queue while it
has the mutex, is given with each call (`Outcomes`); the rounds of a wait are given as a list,
and a call for which they do not suffice has not returned.

The mutex is of the error checking kind: a thread that has it cannot lock it, and one that does
not have it cannot unlock it.  A wait on the condition gives the mutex up and takes it again; if
it fails, the thread has it all the time.
-/
namespace LocationStack
namespace WaitableMutex

open EventRun

/-- What `pthread_cond_wait` or `pthread_cond_timedwait` returns: 0, `ETIMEDOUT` or an error. -/
inductive WaitRc
  | zero
  | timedOut
  | failed
  deriving DecidableEq, Repr

/-- A round of the loop of `lock_and_wait`: whether `ZeroIfShouldWaitAgain_locked` returns 0,
what `clock_gettime` reads if it succeeds, and what a wait until a time returns, or one for
ever. -/
structure Round where
  shouldWait : Bool
  now : Option Timespec
  wait : Option Timespec → WaitRc

/-- How the primitives turn out in a call: whether the lock, the unlock and the signal succeed,
and the rounds of the wait. -/
structure Outcomes where
  lock : Bool
  unlock : Bool
  signal : Bool
  rounds : List Round

/-- The thread and the mutex: whether it has it, and how often it has locked and unlocked it. -/
structure Holder where
  held : Bool
  locked : Nat
  unlocked : Nat
  deriving DecidableEq, Repr

namespace Holder

variable (h : Holder)

/-- `MutexImpl::lock`. -/
def mutexLock (ok : Bool) : Holder × Int :=
  if ok && !h.held then ({ h with held := true, locked := h.locked + 1 }, 0) else (h, 1)

/-- `MutexImpl::unlock`. -/
def mutexUnlock (ok : Bool) : Holder × Int :=
  if ok && h.held then ({ h with held := false, unlocked := h.unlocked + 1 }, 0) else (h, 1)

/-! ## `WaitableBase` -/

def lock (ok : Bool) : Holder × Int :=
  let (h, rc) := h.mutexLock ok
  (h, if rc ≠ 0 then 3 else 0)

def unlock (ok : Bool) : Holder × Int :=
  let (h, rc) := h.mutexUnlock ok
  (h, if rc ≠ 0 then 3 else 0)

/-- `signal_one_and_then_unlock`, or `signal_all_and_then_unlock`. -/
def signal_and_then_unlock (signal unlock : Bool) : Holder × Int :=
  let result := if signal then 100 else 101
  let (h, rc) := h.unlock unlock
  (h, if rc ≠ 0 then 4 else if result ≠ 100 then result else 0)

end Holder

/-- `CLOCK_REALTIME`. -/
def clockRealtime : Int := 0

/-- Until when a round waits. -/
inductive Deadline
  | forever
  | at (t : Timespec)
  | invalid
  | exits
  deriving DecidableEq, Repr

variable (totalSecPositive : TimeDiff → Bool)

/-- The deadline of a round; `totalSecPositive` is `get_total_sec() > 0`, of a `float`. -/
def deadline (timeout_diff : TimeDiff) (now : Option Timespec) : Deadline :=
  if !timeout_diff.m_is_valid then .forever
  else
    let now_realtime := Timestamp.reset_to_clock_id clockRealtime now
    match now_realtime.plusDiff timeout_diff with
    | none => .exits
    | some timeout_realtime =>
      if !timeout_realtime.m_is_valid then .invalid
      else if totalSecPositive timeout_diff then .at timeout_realtime.m_timestamp
      else .at now_realtime.m_timestamp

/-- The loop of `lock_and_wait`, and what it makes of `result`; `none` when it has not come to
an end, or the process has. -/
def waitLoop (timeout_diff : TimeDiff) : List Round → Option Int
  | [] => none
  | r :: rounds =>
    if !r.shouldWait then some 0
    else
      let wait (until_ : Option Timespec) :=
        match r.wait until_ with
        | .zero => waitLoop timeout_diff rounds
        | .timedOut => some 0
        | .failed => some 15
      match deadline totalSecPositive timeout_diff r.now with
      | .forever => wait none
      | .at t => wait (some t)
      | .invalid => some 12
      | .exits => none

def lock_and_wait (h : Holder) (timeout_diff : TimeDiff) (o : Outcomes) :
    Option (Holder × Int) :=
  let (h, rc) := h.mutexLock o.lock
  if rc ≠ 0 then some (h, 2)
  else (waitLoop totalSecPositive timeout_diff o.rounds).map fun result => (h, result)

/-! ## `BlockingQueueImpl` -/

/-- `isClosed` is `m_isClosed`, `pushed` whether `m_queue.push` succeeds. -/
def push (h : Holder) (isClosed pushed : Bool) (o : Outcomes) : Holder × Int :=
  let (h, rc) := h.lock o.lock
  if rc ≠ 0 then (h, 2)
  else
    let result := if isClosed then 3 else if pushed then 100 else 101
    let (h, rc) := h.signal_and_then_unlock o.signal o.unlock
    (h, if rc ≠ 0 then 4 else if result ≠ 100 then result else 0)

def close (h : Holder) (o : Outcomes) : Holder × Int :=
  let (h, rc) := h.lock o.lock
  if rc ≠ 0 then (h, 2)
  else
    let (h, rc) := h.signal_and_then_unlock o.signal o.unlock
    (h, if rc ≠ 0 then 3 else 0)

/-- `pop` with a `TimeDiff`; `pptr` tells whether there is a place for the element.  A failure
of `m_queue.pop` is lost. -/
def pop (h : Holder) (pptr : Bool) (timeout : TimeDiff) (o : Outcomes) : Option (Holder × Int) :=
  if !pptr then some (h, 2)
  else
    match lock_and_wait totalSecPositive h timeout o with
    | none => none
    | some (h, rc) =>
      if rc ≠ 0 then some (h, 4)
      else
        let (h, rc) := h.unlock o.unlock
        some (h, if rc ≠ 0 then 5 else 0)

/-- The timeout of a `pop` until a time. -/
def timeoutDiff (timeout_abs_realtime : Option Timespec) (now : Option Timespec) :
    Option TimeDiff :=
  match timeout_abs_realtime with
  | none => some (.reset false)
  | some t =>
    let now_wallclock := Timestamp.reset_to_clock_id clockRealtime now
    let timeout_wallclock : Timestamp := ⟨true, clockRealtime, t⟩
    match timeout_wallclock.ge now_wallclock with
    | none => none
    | some true => timeout_wallclock.minus now_wallclock
    | some false => some (.reset true)

/-- The deprecated `pop` with a `timespec`. -/
def popUntil (h : Holder) (pptr : Bool) (timeout_abs_realtime now : Option Timespec)
    (o : Outcomes) : Option (Holder × Int) :=
  if !pptr then some (h, 2)
  else
    match timeoutDiff timeout_abs_realtime now with
    | none => none
    | some timeout_diff =>
      (pop totalSecPositive h pptr timeout_diff o).map fun r => (r.1, if r.2 ≠ 0 then 10 else 0)

/-! ## The calls of a thread -/

inductive Call
  | push (isClosed pushed : Bool) (o : Outcomes)
  | close (o : Outcomes)
  | pop (pptr : Bool) (timeout : TimeDiff) (o : Outcomes)
  | popUntil (pptr : Bool) (timeout_abs_realtime now : Option Timespec) (o : Outcomes)

/-- What a call does to the mutex; one that does not return leaves nothing to tell. -/
def step (h : Holder) : Call → Holder
  | .push isClosed pushed o => (push h isClosed pushed o).1
  | .close o => (close h o).1
  | .pop pptr timeout o => ((pop totalSecPositive h pptr timeout o).map Prod.fst).getD h
  | .popUntil pptr timeout_abs_realtime now o =>
      ((popUntil totalSecPositive h pptr timeout_abs_realtime now o).map Prod.fst).getD h

def init : Holder := ⟨false, 0, 0⟩

/-- The thread does not have the mutex, and has unlocked it as often as locked it. -/
structure Released (h : Holder) : Prop where
  free : h.held = false
  balanced : h.unlocked = h.locked

/-- What the wait of a round returns; the process may end before it. -/
def Round.rc (timeout_diff : TimeDiff) (r : Round) : Option WaitRc :=
  match deadline totalSecPositive timeout_diff r.now with
  | .forever => some (r.wait none)
  | .at t => some (r.wait (some t))
  | _ => none

/-- The round comes after some that waited and were woken up. -/
def Reached (timeout_diff : TimeDiff) (rounds : List Round) (r : Round) : Prop :=
  ∃ before after, rounds = before ++ r :: after ∧
    ∀ q ∈ before, q.shouldWait = true ∧ q.rc totalSecPositive timeout_diff = some .zero

/-- No wait fails. -/
def WaitsSucceed (timeout_diff : TimeDiff) (rounds : List Round) : Prop :=
  ∀ r, Reached totalSecPositive timeout_diff rounds r → r.shouldWait = true →
    r.rc totalSecPositive timeout_diff ≠ some .failed

/-- The wait ends, with nothing more to wait for or when its time is over. -/
def WaitEnds (timeout_diff : TimeDiff) (rounds : List Round) : Prop :=
  ∃ r, Reached totalSecPositive timeout_diff rounds r ∧
    (r.shouldWait = false ∨ r.rc totalSecPositive timeout_diff = some .timedOut)

/-- A `pop` that gets the mutex: no wait fails, and the unlock after the wait succeeds. -/
def PopFits (timeout : TimeDiff) (o : Outcomes) : Prop :=
  o.lock = true → WaitsSucceed totalSecPositive timeout o.rounds ∧
    (WaitEnds totalSecPositive timeout o.rounds → o.unlock = true)

/-- The condition on it. -/
def Fits : Call → Prop
  | .push _ _ o | .close o => o.lock = true → o.unlock = true
  | .pop pptr timeout o => pptr = true → PopFits totalSecPositive timeout o
  | .popUntil pptr timeout_abs_realtime now o =>
      pptr = true → ∀ timeout ∈ timeoutDiff timeout_abs_realtime now,
        PopFits totalSecPositive timeout o

/-! ## The loop -/

variable {totalSecPositive} {timeout_diff : TimeDiff} {rounds : List Round} {r : Round}

variable (totalSecPositive) (timeout_diff) in
/-- A sum that there is is valid. -/
theorem deadline_ne_invalid (now : Option Timespec) :
    deadline totalSecPositive timeout_diff now ≠ .invalid := by
  unfold deadline
  dsimp only
  split
  · nofun
  · rename_i hvalid
    cases now with
    | none => nofun
    | some t =>
      obtain ⟨sum, hsum⟩ : ∃ sum, (Timestamp.reset_to_clock_id clockRealtime (some t)).plusDiff
          timeout_diff = some ⟨true, clockRealtime, sum⟩ :=
        Timestamp.plusDiff_some rfl (by simpa using hvalid)
      rw [hsum]
      dsimp only
      rw [if_neg (by simp)]
      split <;> nofun

/-- One round. -/
theorem waitLoop_cons :
    waitLoop totalSecPositive timeout_diff (r :: rounds) =
      if r.shouldWait then
        match r.rc totalSecPositive timeout_diff with
        | some .zero => waitLoop totalSecPositive timeout_diff rounds
        | some .timedOut => some 0
        | some .failed => some 15
        | none => none
      else some 0 := by
  have hvalid := deadline_ne_invalid totalSecPositive timeout_diff r.now
  rw [waitLoop, Round.rc]
  cases r.shouldWait with
  | false => rfl
  | true =>
    cases hd : deadline totalSecPositive timeout_diff r.now with
    | forever =>
      cases hw : r.wait none <;> simp [hw]
    | «at» t =>
      cases hw : r.wait (some t) <;> simp [hw]
    | invalid => exact absurd hd hvalid
    | exits => rfl

theorem reached_cons {x : Round} :
    Reached totalSecPositive timeout_diff (r :: rounds) x ↔
      x = r ∨ r.shouldWait = true ∧ r.rc totalSecPositive timeout_diff = some .zero ∧
        Reached totalSecPositive timeout_diff rounds x := by
  constructor
  · rintro ⟨before, after, heq, hbefore⟩
    cases before with
    | nil => exact .inl (List.cons.inj heq).1.symm
    | cons q before =>
      obtain ⟨rfl, hrest⟩ := List.cons.inj heq
      obtain ⟨hwait, hrc⟩ := hbefore r List.mem_cons_self
      exact .inr ⟨hwait, hrc, before, after, hrest,
        fun q hq => hbefore q (List.mem_cons_of_mem _ hq)⟩
  · rintro (rfl | ⟨hwait, hrc, before, after, rfl, hbefore⟩)
    · exact ⟨[], rounds, rfl, nofun⟩
    · refine ⟨r :: before, after, rfl, ?_⟩
      intro q hq
      rcases List.mem_cons.mp hq with rfl | hq
      · exact ⟨hwait, hrc⟩
      · exact hbefore q hq

theorem not_reached_nil {x : Round} : ¬ Reached totalSecPositive timeout_diff [] x := by
  rintro ⟨before, after, heq, -⟩
  cases before <;> cases heq

theorem waitsSucceed_cons :
    WaitsSucceed totalSecPositive timeout_diff (r :: rounds) ↔
      (r.shouldWait = true → r.rc totalSecPositive timeout_diff ≠ some .failed) ∧
        (r.shouldWait = true → r.rc totalSecPositive timeout_diff = some .zero →
          WaitsSucceed totalSecPositive timeout_diff rounds) := by
  constructor
  · intro h
    refine ⟨h r (reached_cons.mpr (.inl rfl)), ?_⟩
    intro hwait hrc x hx
    exact h x (reached_cons.mpr (.inr ⟨hwait, hrc, hx⟩))
  · rintro ⟨hhead, htail⟩ x hx
    rcases reached_cons.mp hx with rfl | ⟨hwait, hrc, hx⟩
    · exact hhead
    · exact htail hwait hrc x hx

theorem waitEnds_cons :
    WaitEnds totalSecPositive timeout_diff (r :: rounds) ↔
      (r.shouldWait = false ∨ r.rc totalSecPositive timeout_diff = some .timedOut) ∨
        r.shouldWait = true ∧ r.rc totalSecPositive timeout_diff = some .zero ∧
          WaitEnds totalSecPositive timeout_diff rounds := by
  constructor
  · rintro ⟨x, hx, hends⟩
    rcases reached_cons.mp hx with rfl | ⟨hwait, hrc, hx⟩
    · exact .inl hends
    · exact .inr ⟨hwait, hrc, x, hx, hends⟩
  · rintro (hends | ⟨hwait, hrc, x, hx, hends⟩)
    · exact ⟨r, reached_cons.mpr (.inl rfl), hends⟩
    · exact ⟨x, reached_cons.mpr (.inr ⟨hwait, hrc, hx⟩), hends⟩

variable (totalSecPositive) (timeout_diff) in
/-- **How the loop ends**: with an error exactly after a wait that failed, and well exactly
when there is nothing more to wait for or the time is over. -/
theorem waitLoop_spec (rounds : List Round) :
    (waitLoop totalSecPositive timeout_diff rounds = some 15 ↔
      ¬ WaitsSucceed totalSecPositive timeout_diff rounds) ∧
    (waitLoop totalSecPositive timeout_diff rounds = some 0 ↔
      WaitEnds totalSecPositive timeout_diff rounds) ∧
    (waitLoop totalSecPositive timeout_diff rounds = none ∨
      waitLoop totalSecPositive timeout_diff rounds = some 0 ∨
      waitLoop totalSecPositive timeout_diff rounds = some 15) := by
  induction rounds with
  | nil =>
    refine ⟨iff_of_false nofun ?_, iff_of_false nofun ?_, .inl rfl⟩
    · exact not_not.mpr fun x hx => absurd hx not_reached_nil
    · rintro ⟨x, hx, -⟩
      exact not_reached_nil hx
  | cons r rounds ih =>
    rw [waitLoop_cons, waitsSucceed_cons, waitEnds_cons]
    cases hwait : r.shouldWait with
    | false => simp
    | true =>
      cases hrc : r.rc totalSecPositive timeout_diff with
      | none => simp
      | some rc =>
        cases rc with
        | zero => simpa using ih
        | timedOut => simp
        | failed => simp

/-! ## The calls -/

variable {h : Holder}

/-- The thread has locked the mutex. -/
def Holder.taken (h : Holder) : Holder := { h with held := true, locked := h.locked + 1 }

theorem mutexLock_true (hfree : h.held = false) : h.mutexLock true = (h.taken, 0) := by
  simp [Holder.mutexLock, Holder.taken, hfree]

/-- An unlock after a lock. -/
theorem unlock_taken_true :
    h.taken.unlock true = (⟨false, h.locked + 1, h.unlocked + 1⟩, 0) := by
  simp [Holder.unlock, Holder.mutexUnlock, Holder.taken]

theorem not_released_taken : ¬ Released h.taken := fun hr => nomatch hr.free

theorem released_unlocked (hr : Released h) :
    Released ⟨false, h.locked + 1, h.unlocked + 1⟩ :=
  ⟨rfl, congrArg Nat.succ hr.balanced⟩

/-- After a lock the signal and the unlock leave the thread without the mutex if the unlock
succeeds. -/
theorem released_signal_iff (hr : Released h) (signal unlock : Bool) :
    Released (h.taken.signal_and_then_unlock signal unlock).1 ↔ unlock = true := by
  cases unlock with
  | false => exact iff_of_false not_released_taken nofun
  | true =>
    refine iff_of_true ?_ rfl
    simp only [Holder.signal_and_then_unlock, unlock_taken_true]
    exact released_unlocked hr

theorem push_released_iff (hr : Released h) (isClosed pushed : Bool) (o : Outcomes) :
    Released (push h isClosed pushed o).1 ↔ (o.lock = true → o.unlock = true) := by
  unfold push Holder.lock
  cases o.lock with
  | false => exact iff_of_true hr nofun
  | true =>
    rw [mutexLock_true hr.free]
    exact (released_signal_iff hr o.signal o.unlock).trans (by simp)

theorem close_released_iff (hr : Released h) (o : Outcomes) :
    Released (close h o).1 ↔ (o.lock = true → o.unlock = true) := by
  unfold close Holder.lock
  cases o.lock with
  | false => exact iff_of_true hr nofun
  | true =>
    rw [mutexLock_true hr.free]
    exact (released_signal_iff hr o.signal o.unlock).trans (by simp)

/-- What `lock_and_wait` owes its caller: the mutex with a 0, and nothing with an error. -/
structure HandsOver (h : Holder) (r : Holder × Int) : Prop where
  taken : r.2 = 0 → r.1 = h.taken
  kept : r.2 ≠ 0 → r.1 = h

theorem lock_and_wait_handsOver_iff (hfree : h.held = false) (timeout_diff : TimeDiff)
    (o : Outcomes) :
    (∀ r, lock_and_wait totalSecPositive h timeout_diff o = some r → HandsOver h r) ↔
      (o.lock = true → WaitsSucceed totalSecPositive timeout_diff o.rounds) := by
  unfold lock_and_wait
  cases o.lock with
  | false =>
    refine iff_of_true ?_ nofun
    rintro r hret
    obtain rfl : (h, 2) = r := Option.some_inj.mp hret
    exact ⟨nofun, fun _ => rfl⟩
  | true =>
    obtain ⟨hfailed, -, hcases⟩ :=
      waitLoop_spec totalSecPositive timeout_diff o.rounds
    rw [mutexLock_true hfree]
    dsimp only
    rw [if_neg (by simp)]
    rcases hcases with hloop | hloop | hloop
    · rw [hloop] at hfailed ⊢
      refine iff_of_true nofun fun _ => ?_
      exact not_not.mp fun hno => nomatch hfailed.mpr hno
    · rw [hloop] at hfailed ⊢
      refine iff_of_true ?_ fun _ => not_not.mp fun hno => nomatch hfailed.mpr hno
      rintro r hret
      obtain rfl : (h.taken, 0) = r := Option.some_inj.mp hret
      exact ⟨fun _ => rfl, fun hne => absurd rfl hne⟩
    · rw [hloop] at hfailed ⊢
      refine iff_of_false ?_ fun hsucceed => hfailed.mp rfl (hsucceed rfl)
      intro hhands
      have hkept : h.taken = h := (hhands (h.taken, 15) rfl).kept (show (15 : Int) ≠ 0 by decide)
      have hheld : h.taken.held = false := hkept ▸ hfree
      cases hheld

/-- What a `pop` that returns leaves. -/
def left (h : Holder) (returned : Option (Holder × Int)) : Holder :=
  (returned.map Prod.fst).getD h

theorem pop_released_iff (hr : Released h) (pptr : Bool) (timeout : TimeDiff) (o : Outcomes) :
    Released (left h (pop totalSecPositive h pptr timeout o)) ↔
      (pptr = true → PopFits totalSecPositive timeout o) := by
  unfold pop
  cases pptr with
  | false => exact iff_of_true hr nofun
  | true =>
    rw [if_neg (by simp)]
    unfold PopFits lock_and_wait
    cases o.lock with
    | false => exact iff_of_true hr fun _ => nofun
    | true =>
      obtain ⟨hfailed, hdone, hcases⟩ := waitLoop_spec totalSecPositive timeout o.rounds
      rw [mutexLock_true hr.free]
      dsimp only
      rw [if_neg (by simp)]
      rcases hcases with hloop | hloop | hloop
      · -- the call does not return
        rw [hloop] at hfailed hdone ⊢
        refine iff_of_true hr fun _ _ => ⟨?_, fun hends => nomatch hdone.mpr hends⟩
        exact not_not.mp fun hno => nomatch hfailed.mpr hno
      · -- the wait hands the mutex over
        rw [hloop] at hfailed hdone ⊢
        have hsucceed : WaitsSucceed totalSecPositive timeout o.rounds :=
          not_not.mp fun hno => nomatch hfailed.mpr hno
        dsimp only [Option.map_some]
        rw [if_neg (by simp)]
        cases o.unlock with
        | false =>
          refine iff_of_false not_released_taken fun hfits => ?_
          exact nomatch (hfits rfl rfl).2 (hdone.mp rfl)
        | true =>
          rw [unlock_taken_true]
          exact iff_of_true (released_unlocked hr) fun _ _ => ⟨hsucceed, fun _ => rfl⟩
      · -- the wait failed, and `pop` returns what `lock_and_wait` left
        rw [hloop] at hfailed ⊢
        dsimp only [Option.map_some]
        rw [if_pos (by simp)]
        exact iff_of_false not_released_taken fun hfits => hfailed.mp rfl (hfits rfl rfl).1

theorem popUntil_released_iff (hr : Released h) (pptr : Bool)
    (timeout_abs_realtime now : Option Timespec) (o : Outcomes) :
    Released (left h (popUntil totalSecPositive h pptr timeout_abs_realtime now o)) ↔
      (pptr = true → ∀ timeout ∈ timeoutDiff timeout_abs_realtime now,
        PopFits totalSecPositive timeout o) := by
  unfold popUntil
  cases pptr with
  | false => exact iff_of_true hr nofun
  | true =>
    rw [if_neg (by simp)]
    cases timeoutDiff timeout_abs_realtime now with
    | none => exact iff_of_true hr fun _ _ => nofun
    | some timeout =>
      have hpop : Released (left h (pop totalSecPositive h true timeout o)) ↔ _ :=
        pop_released_iff hr true timeout o
      have hsame : left h ((pop totalSecPositive h true timeout o).map
          fun r => (r.1, if r.2 ≠ 0 then 10 else 0)) =
          left h (pop totalSecPositive h true timeout o) := by
        cases pop totalSecPositive h true timeout o <;> rfl
      rw [hsame, hpop]
      simp

/-! ## Runs -/

/-- **One call.** -/
theorem step_released_iff (h : Holder) (c : Call) (hr : Released h) :
    Released (step totalSecPositive h c) ↔ Fits totalSecPositive c := by
  cases c with
  | push isClosed pushed o => exact push_released_iff hr isClosed pushed o
  | close o => exact close_released_iff hr o
  | pop pptr timeout o => exact pop_released_iff hr pptr timeout o
  | popUntil pptr timeout_abs_realtime now o =>
    exact popUntil_released_iff hr pptr timeout_abs_realtime now o

/-- **The mutex of the waitable.**  However the primitives turn out, every call of a thread
leaves the mutex free and as often unlocked as locked if and only if no wait fails and every
unlock succeeds; and `lock_and_wait` keeps the mutex exactly when it returns 0 if and only if no
wait of it fails. -/
theorem mutex_released_iff (totalSecPositive : TimeDiff → Bool) :
    (∀ cs : List Call, Throughout (step totalSecPositive) Released init cs ↔
      Meets (step totalSecPositive) (fun _ => Fits totalSecPositive) init cs) ∧
    ∀ (locked unlocked : Nat) (timeout_diff : TimeDiff) (o : Outcomes),
      (∀ r, lock_and_wait totalSecPositive ⟨false, locked, unlocked⟩ timeout_diff o = some r →
        HandsOver ⟨false, locked, unlocked⟩ r) ↔
      (o.lock = true → WaitsSucceed totalSecPositive timeout_diff o.rounds) :=
  ⟨fun _ => throughout_iff_meets (J := fun _ => True) (fun _ _ _ => trivial)
      (fun h c _ hr => step_released_iff h c hr) trivial ⟨rfl, rfl⟩,
    fun _ _ timeout_diff o => lock_and_wait_handsOver_iff rfl timeout_diff o⟩

/-- `pthread_cond_timedwait` refuses a time whose nanoseconds are not those of a second, and
else waits until its time is over. -/
def timedWait : Option Timespec → WaitRc
  | some t => if 0 ≤ t.tv_nsec ∧ t.tv_nsec < nanoPerSec then .timedOut else .failed
  | none => .timedOut

/-- Half a second, made of a second less half of one, from an empty queue, a tenth of a second
after a full one. -/
def popHalfSecond : Call :=
  .pop true ⟨true, ⟨1, -500000000⟩⟩
    ⟨true, true, true, [⟨true, some ⟨100, 100000000⟩, timedWait⟩]⟩

/-- Its deadline is a time that is not normalised. -/
theorem deadline_popHalfSecond :
    deadline (fun d => decide (0 < d.m_timediff.nanos)) ⟨true, ⟨1, -500000000⟩⟩
      (some ⟨100, 100000000⟩) = .at ⟨101, -400000000⟩ := by
  have hcarry : Timespec.carry ⟨101, -400000000⟩ = ⟨101, -400000000⟩ :=
    Timespec.carry_of_neg (by decide)
  have hsec : toLong (100 + 1) = 101 := by decide
  have hnsec : toLong (100000000 + -500000000) = -400000000 := by decide
  unfold deadline Timestamp.plusDiff Timestamp.reset_to_clock_id
  dsimp only
  rw [hsec, hnsec, hcarry]
  rfl

/-- **The defect.**  The thread leaves `pop` with the mutex. -/
theorem pop_leaks_mutex :
    ¬ Throughout (step fun d => decide (0 < d.m_timediff.nanos)) Released init
      [popHalfSecond] := by
  intro h
  have hfits := (step_released_iff init popHalfSecond ⟨rfl, rfl⟩).mp h.last
  obtain ⟨hsucceed, -⟩ := hfits rfl rfl
  refine hsucceed _ (reached_cons.mpr (.inl rfl)) rfl ?_
  unfold Round.rc
  rw [deadline_popHalfSecond]
  rfl

end WaitableMutex
end LocationStack
