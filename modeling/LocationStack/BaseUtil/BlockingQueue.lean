import LocationStack.BaseUtil.Queue
import LocationStack.Lib.EventRun

/-! # `BlockingQueue`

Threads push and pop under one mutex.  A thread that pops from an empty queue sleeps on the
condition, which gives up the mutex; a push signals one thread that sleeps, at least, and `close`
signals them all.  A thread may also wake up for no reason, or because its time is over; it goes
on when it gets the mutex again, and unless its time is over it looks whether it has to wait
once more.  Between two such moments nothing happens to the queue, and an event is what happens
in one of them.

A wait that fails at once, for a time that is no time, leaves `lock_and_wait` with the mutex
locked, and no thread enters any more.
-/
namespace LocationStack
namespace BlockingQueue

/-- What a `pop` that returns 0 has written to `*pptr` and to `*p_is_queue_closed`. -/
structure PopResult (α : Type) where
  element : Option α
  isQueueClosed : Bool
  deriving DecidableEq

structure State (α : Type) where
  m_queue : Queue α
  m_isClosed : Bool
  /-- The threads that sleep on the condition and were not signalled. -/
  sleeping : List Nat
  /-- Those on their way from it to the next `ZeroIfShouldWaitAgain_locked`. -/
  awake : List Nat
  /-- Those on their way from it whose time is over. -/
  timedOut : List Nat
  /-- A thread has left with the mutex. -/
  leaked : Bool
  /-- The elements whose `push` returned 0, and the results of the `pop`s that did. -/
  pushed : List α
  popped : List (PopResult α)

namespace State

variable {α : Type}

def init : State α := ⟨Queue.empty, false, [], [], [], false, [], []⟩

variable (s : State α)

/-- The size is a `size_t`, the result an `int`. -/
def ZeroIfShouldWaitAgain_locked : Int :=
  if s.m_isClosed then -1 else (BitVec.ofNat 32 s.m_queue.getSize).toInt

/-- `pthread_cond_signal`: those of the sleeping threads that are chosen wake up, or one if none
is. -/
def signal_one (chosen : Nat → Bool) : State α :=
  let woken := s.sleeping.filter chosen
  let woken := if woken = [] then s.sleeping.take 1 else woken
  { s with sleeping := s.sleeping.filter fun t => t ∉ woken, awake := s.awake ++ woken }

/-- `pthread_cond_broadcast`. -/
def signal_all : State α := { s with sleeping := [], awake := s.awake ++ s.sleeping }

def push (ptr : α) (chosen : Nat → Bool) : State α :=
  if s.m_isClosed then s.signal_one chosen
  else { s with m_queue := s.m_queue.push ptr, pushed := s.pushed ++ [ptr] }.signal_one chosen

def close : State α := { s with m_isClosed := true }.signal_all

/-- `pop` after `lock_and_wait`. -/
def take : State α :=
  if s.m_queue.getSize > 0 then
    { s with
      m_queue := s.m_queue.pop.2
      popped := s.popped ++ [⟨s.m_queue.pop.1, s.m_isClosed⟩] }
  else { s with popped := s.popped ++ [⟨none, s.m_isClosed⟩] }

/-- A round of the loop of `lock_and_wait`; `fails` tells whether the wait does. -/
def waitOrTake (thread : Nat) (fails : Bool) : State α :=
  if s.ZeroIfShouldWaitAgain_locked = 0 then
    if fails then { s with leaked := true } else { s with sleeping := s.sleeping ++ [thread] }
  else s.take

/-- The thread is inside a `pop`. -/
def inPop (thread : Nat) : Bool :=
  thread ∈ s.sleeping || thread ∈ s.awake || thread ∈ s.timedOut

/-- A thread that sleeps wakes up although it was not signalled. -/
def wake (thread : Nat) : State α :=
  if thread ∈ s.sleeping then
    { s with sleeping := s.sleeping.erase thread, awake := s.awake ++ [thread] }
  else s

/-- Its time is over: `ETIMEDOUT`. -/
def timeOut (thread : Nat) : State α :=
  if thread ∈ s.sleeping then
    { s with sleeping := s.sleeping.erase thread, timedOut := s.timedOut ++ [thread] }
  else s

/-- A thread that woke up gets the mutex. -/
def resume (thread : Nat) (fails : Bool) : State α :=
  if thread ∈ s.awake then { s with awake := s.awake.erase thread }.waitOrTake thread fails
  else if thread ∈ s.timedOut then { s with timedOut := s.timedOut.erase thread }.take
  else s

end State

inductive Event (α : Type)
  | push (ptr : α) (chosen : Nat → Bool)
  | close
  | pop (thread : Nat) (fails : Bool)
  | wake (thread : Nat)
  | timeOut (thread : Nat)
  | resume (thread : Nat) (fails : Bool)

variable {α : Type}

/-- What needs the mutex does not happen while a thread has left with it. -/
def step (s : State α) : Event α → State α
  | .push ptr chosen => if s.leaked then s else s.push ptr chosen
  | .close => if s.leaked then s else s.close
  | .pop thread fails => if s.leaked || s.inPop thread then s else s.waitOrTake thread fails
  | .wake thread => s.wake thread
  | .timeOut thread => s.timeOut thread
  | .resume thread fails => if s.leaked then s else s.resume thread fails

/-! ## What an event does to the queue -/

/-- The elements that were delivered, in their order. -/
def State.delivered (s : State α) : List α := s.popped.filterMap PopResult.element

/-- The queue, its history and whether it is closed are the same. -/
structure Same (s s' : State α) : Prop where
  m_queue : s'.m_queue = s.m_queue
  m_isClosed : s'.m_isClosed = s.m_isClosed
  pushed : s'.pushed = s.pushed
  popped : s'.popped = s.popped

theorem Same.refl (s : State α) : Same s s := ⟨rfl, rfl, rfl, rfl⟩

/-- What an event may do to the queue. -/
inductive Change (s s' : State α) : Prop
  | same (h : Same s s')
  /-- An element is added to a queue that is not closed. -/
  | added (ptr : α) (hopen : s.m_isClosed = false) (hclosed : s'.m_isClosed = false)
      (hqueue : s'.m_queue = s.m_queue.push ptr) (hpushed : s'.pushed = s.pushed ++ [ptr])
      (hpopped : s'.popped = s.popped)
  | closed (hclosed : s'.m_isClosed = true) (hqueue : s'.m_queue = s.m_queue)
      (hpushed : s'.pushed = s.pushed) (hpopped : s'.popped = s.popped)
  /-- A `pop` returns, with an element if there is one. -/
  | taken (element : Option α)
      (hpopped : s'.popped = s.popped ++ [⟨element, s.m_isClosed⟩])
      (hqueue : s.m_queue.getSize > 0 ∧ element = s.m_queue.pop.1 ∧ s'.m_queue = s.m_queue.pop.2 ∨
        s.m_queue.getSize = 0 ∧ element = none ∧ s'.m_queue = s.m_queue)
      (hclosed : s'.m_isClosed = s.m_isClosed) (hpushed : s'.pushed = s.pushed)

theorem take_change (s : State α) : Change s s.take := by
  rw [State.take]
  split
  · rename_i hsize
    exact .taken s.m_queue.pop.1 rfl (Or.inl ⟨hsize, rfl, rfl⟩) rfl rfl
  · rename_i hsize
    exact .taken none rfl (Or.inr ⟨Nat.eq_zero_of_not_pos hsize, rfl, rfl⟩) rfl rfl

/-- Threads come and go without a change to the queue. -/
theorem Change.of_same {s t s' : State α} (hc : Change t s') (h : Same s t) : Change s s' := by
  obtain ⟨hq, hi, hp, hr⟩ := h
  cases hc with
  | same h' => exact .same ⟨h'.m_queue.trans hq, h'.m_isClosed.trans hi, h'.pushed.trans hp,
      h'.popped.trans hr⟩
  | added ptr hopen hclosed hqueue hpushed hpopped =>
    exact .added ptr (hi ▸ hopen) hclosed (hq ▸ hqueue) (hp ▸ hpushed) (hpopped.trans hr)
  | closed hclosed hqueue hpushed hpopped =>
    exact .closed hclosed (hqueue.trans hq) (hpushed.trans hp) (hpopped.trans hr)
  | taken element hpopped hqueue hclosed hpushed =>
    rw [hq] at hqueue
    rw [hi, hr] at hpopped
    exact .taken element hpopped hqueue (hclosed.trans hi) (hpushed.trans hp)

theorem waitOrTake_change (s : State α) (thread : Nat) (fails : Bool) :
    Change s (s.waitOrTake thread fails) := by
  rw [State.waitOrTake]
  split
  · split
    · exact .same ⟨rfl, rfl, rfl, rfl⟩
    · exact .same ⟨rfl, rfl, rfl, rfl⟩
  · exact take_change s

/-- **What an event does to the queue**: nothing, or an element is added, or the queue is
closed, or a `pop` returns. -/
theorem step_change (s : State α) (e : Event α) : Change s (step s e) := by
  cases e with
  | push ptr chosen =>
    rw [step]
    split
    · exact .same (.refl s)
    · rw [State.push]
      split
      · exact .same ⟨rfl, rfl, rfl, rfl⟩
      · rename_i hopen
        have hopen : s.m_isClosed = false := Bool.eq_false_iff.mpr hopen
        exact .added ptr hopen hopen rfl rfl rfl
  | close =>
    rw [step]
    split
    · exact .same (.refl s)
    · exact .closed rfl rfl rfl rfl
  | pop thread fails =>
    rw [step]
    split
    · exact .same (.refl s)
    · exact waitOrTake_change s thread fails
  | wake thread =>
    rw [step, State.wake]
    split <;> exact .same ⟨rfl, rfl, rfl, rfl⟩
  | timeOut thread =>
    rw [step, State.timeOut]
    split <;> exact .same ⟨rfl, rfl, rfl, rfl⟩
  | resume thread fails =>
    rw [step]
    split
    · exact .same (.refl s)
    · rw [State.resume]
      split
      · have hawake := waitOrTake_change { s with awake := s.awake.erase thread } thread fails
        exact hawake.of_same ⟨rfl, rfl, rfl, rfl⟩
      · split
        · have htimedOut := take_change { s with timedOut := s.timedOut.erase thread }
          exact htimedOut.of_same ⟨rfl, rfl, rfl, rfl⟩
        · exact .same (.refl s)

/-! ## First in, first out -/

/-- What was delivered and what is still there is what was pushed, in that order. -/
structure Fifo (s : State α) : Prop where
  wf : s.m_queue.Wf
  order : s.delivered ++ s.m_queue.contents = s.pushed

theorem Fifo.init : Fifo (State.init : State α) := ⟨Queue.Wf.empty, rfl⟩

theorem Fifo.change {s s' : State α} (h : Fifo s) (hc : Change s s') : Fifo s' := by
  cases hc with
  | same hsame =>
    obtain ⟨hqueue, _, hpushed, hpopped⟩ := hsame
    refine ⟨hqueue ▸ h.wf, ?_⟩
    rw [State.delivered, hpopped, hqueue, hpushed]
    exact h.order
  | added ptr hopen hclosed hqueue hpushed hpopped =>
    obtain ⟨hwf, hcontents⟩ := h.wf.push ptr
    refine ⟨hqueue ▸ hwf, ?_⟩
    rw [State.delivered, hpopped, hqueue, hcontents, hpushed, ← List.append_assoc]
    exact congrArg (· ++ [ptr]) h.order
  | closed hclosed hqueue hpushed hpopped =>
    refine ⟨hqueue ▸ h.wf, ?_⟩
    rw [State.delivered, hpopped, hqueue, hpushed]
    exact h.order
  | taken element hpopped hqueue hclosed hpushed =>
    have hdelivered : s'.delivered = s.delivered ++ element.toList := by
      rw [State.delivered, hpopped, List.filterMap_append]
      cases element <;> rfl
    obtain ⟨_, rfl, hqueue⟩ | ⟨_, rfl, hqueue⟩ := hqueue
    · obtain ⟨hwf, hcontents⟩ := h.wf.pop
      refine ⟨hqueue ▸ hwf, ?_⟩
      rw [hdelivered, hqueue, hpushed, List.append_assoc, ← hcontents]
      exact h.order
    · refine ⟨hqueue ▸ h.wf, ?_⟩
      rw [hdelivered, hqueue, hpushed, Option.toList_none, List.append_nil]
      exact h.order

/-- A closed queue takes no element, and a `pop` that returns none from it returns none because
every element was delivered. -/
structure ClosedLast (s : State α) (e : Event α) : Prop where
  refused : s.m_isClosed = true → (step s e).pushed = s.pushed ∧
    ∃ taken, s.m_queue.contents = taken ++ (step s e).m_queue.contents
  drained : ∀ r ∈ (step s e).popped.drop s.popped.length,
    r.isQueueClosed = true → r.element = none → (step s e).delivered = (step s e).pushed

theorem Fifo.closedLast {s : State α} (h : Fifo s) (e : Event α) : ClosedLast s e := by
  have hnext := h.change (step_change s e)
  have hnone : ∀ {s' : State α}, s'.popped = s.popped → s'.popped.drop s.popped.length = [] := by
    intro s' hpopped
    rw [hpopped, List.drop_length]
  cases step_change s e with
  | same hsame =>
    refine ⟨fun _ => ⟨hsame.pushed, [], by rw [hsame.m_queue]; rfl⟩, fun r hr => ?_⟩
    rw [hnone hsame.popped] at hr
    cases hr
  | added ptr hopen hclosed hqueue hpushed hpopped =>
    refine ⟨fun hclosed => ?_, fun r hr => ?_⟩
    · rw [hopen] at hclosed
      cases hclosed
    · rw [hnone hpopped] at hr
      cases hr
  | closed hclosed hqueue hpushed hpopped =>
    refine ⟨fun _ => ⟨hpushed, [], by rw [hqueue]; rfl⟩, fun r hr => ?_⟩
    rw [hnone hpopped] at hr
    cases hr
  | taken element hpopped hqueue hclosed hpushed =>
    refine ⟨fun _ => ⟨hpushed, element.toList, ?_⟩, fun r hr _ helement => ?_⟩
    · obtain ⟨_, rfl, hqueue⟩ | ⟨_, rfl, hqueue⟩ := hqueue
      · rw [hqueue]
        exact h.wf.pop.2
      · rw [hqueue]
        rfl
    · rw [hpopped, List.drop_left] at hr
      obtain rfl := List.mem_singleton.mp hr
      obtain rfl : element = none := helement
      -- a queue that has elements would have given one
      have hempty : (step s e).m_queue.contents = [] := by
        obtain ⟨hsize, hpop, _⟩ | ⟨hsize, _, hqueue⟩ := hqueue
        · have hsome := h.wf.pop_isSome
          rw [← hpop, decide_eq_true (show 0 < s.m_queue.m_size from hsize)] at hsome
          cases hsome
        · rw [hqueue]
          exact List.length_eq_zero_iff.mp (h.wf.size_eq.symm.trans hsize)
      have horder := hnext.order
      rwa [hempty, List.append_nil] at horder

/-- **First in, first out.**  In every run the elements that were delivered and those that are
still queued are those that were pushed, in that order; a closed queue takes no element, and
reports that it is closed without an element only after the last was delivered. -/
theorem blocking_queue_fifo (es : List (Event α)) :
    EventRun.Throughout step Fifo (State.init : State α) es ∧
      EventRun.Meets step ClosedLast (State.init : State α) es := by
  have hfifo : EventRun.Throughout step Fifo (State.init : State α) es :=
    EventRun.throughout_of_invariant (fun s e h => h.change (step_change s e)) Fifo.init
  exact ⟨hfifo, hfifo.meets fun _ e h => h.closedLast e⟩

/-- **The queue reports that it is closed with every element** that it delivers from then on,
the first of two here. -/
theorem closed_reported_early :
    ¬ EventRun.Meets step
      (fun s e => ∀ r ∈ (step s e).popped.drop s.popped.length,
        r.isQueueClosed = true → (step s e).delivered = (step s e).pushed)
      (State.init : State Nat)
      [.push 1 fun _ => true, .push 2 fun _ => true, .close, .pop 0 false] := by
  intro h
  exact absurd (h.2.2.2.1 ⟨some 1, true⟩ (by decide) rfl) (by decide)

end BlockingQueue
end LocationStack
