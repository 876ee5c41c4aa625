import LocationStack.BaseUtil.BlockingQueue
import Mathlib.Algebra.Group.Nat.Defs

/-! # Nobody sleeps on an element

As long as a thread sleeps that was not signalled, there are at least as many threads on their
way to look at the queue as there are elements in it: a push adds one of each, and a thread that
looks takes an element away, or finds none.  A thread whose time is over takes an element
without having been counted.

The argument needs that a thread that looks at a queue with elements sees that there are some.
The size is returned as an `int`, and 2^32 elements look like none.
-/
namespace LocationStack
namespace BlockingQueue

variable {α : Type}

/-- No thread sleeps unsignalled while there are more elements than threads on their way to look
at them, or after the queue was closed. -/
def NoLostWakeup (s : State α) : Prop :=
  s.sleeping ≠ [] → s.m_queue.contents.length ≤ s.awake.length ∧ s.m_isClosed = false

/-- A thread that looks at the queue does not see a multiple of 2^32 elements. -/
def Unwrapped (s : State α) (e : Event α) : Prop :=
  match e with
  | .pop _ _ | .resume _ _ =>
    s.m_queue.contents.length % 2 ^ 32 = 0 → s.m_queue.contents.length = 0
  | _ => True

instance (s : State α) : ∀ e : Event α, Decidable (Unwrapped s e)
  | .pop .. | .resume .. => inferInstanceAs (Decidable (_ % 2 ^ 32 = 0 → _ = 0))
  | .push .. | .close | .wake _ | .timeOut _ => inferInstanceAs (Decidable True)

/-- What the property needs of the queue. -/
structure WakeupInv (s : State α) : Prop where
  wf : s.m_queue.Wf
  wakeup : NoLostWakeup s

theorem WakeupInv.init : WakeupInv (State.init : State α) := ⟨Queue.Wf.empty, nofun⟩

/-- The predicate is zero only for a queue that is open and looks empty. -/
theorem waits_iff {s : State α} (h : s.m_queue.Wf) :
    s.ZeroIfShouldWaitAgain_locked = 0 ↔
      s.m_isClosed = false ∧ s.m_queue.contents.length % 2 ^ 32 = 0 := by
  rw [State.ZeroIfShouldWaitAgain_locked, Queue.getSize, h.size_eq]
  cases s.m_isClosed with
  | true => simp
  | false =>
    simp only [Bool.false_eq_true, if_false, true_and]
    rw [← BitVec.toInt_zero (w := 32), BitVec.toInt_inj, ← BitVec.toNat_inj, BitVec.toNat_ofNat]
    simp

/-! ## Signals -/

/-- A signal wakes a thread, if there is one to wake. -/
theorem signal_one_wakes (s : State α) (chosen : Nat → Bool)
    (h : (s.signal_one chosen).sleeping ≠ []) :
    s.sleeping ≠ [] ∧ s.awake.length + 1 ≤ (s.signal_one chosen).awake.length := by
  have hsleeping : s.sleeping ≠ [] := by
    intro hnil
    refine h ?_
    rw [State.signal_one, hnil]
    rfl
  refine ⟨hsleeping, ?_⟩
  simp only [State.signal_one]
  rw [List.length_append]
  have hone : 1 ≤ (s.sleeping.take 1).length := by
    rw [List.length_take]
    have := List.length_pos_of_ne_nil hsleeping
    omega
  split
  · omega
  · rename_i hwoken
    have := List.length_pos_of_ne_nil hwoken
    omega

/-! ## Steps -/

theorem WakeupInv.push {s : State α} (h : WakeupInv s) (ptr : α) (chosen : Nat → Bool) :
    WakeupInv (s.push ptr chosen) := by
  rw [State.push]
  split
  · rename_i hclosed
    refine ⟨h.wf, fun hsleeping => ?_⟩
    obtain ⟨hbefore, _⟩ := signal_one_wakes s chosen hsleeping
    rw [(h.wakeup hbefore).2] at hclosed
    cases hclosed
  · obtain ⟨hwf, hcontents⟩ := h.wf.push ptr
    refine ⟨hwf, fun hsleeping => ?_⟩
    obtain ⟨hbefore, hwoken⟩ := signal_one_wakes _ chosen hsleeping
    obtain ⟨hle, hopen⟩ := h.wakeup hbefore
    refine ⟨Nat.le_trans ?_ hwoken, hopen⟩
    -- one more element, one more thread awake
    change (s.m_queue.push ptr).contents.length ≤ s.awake.length + 1
    rw [hcontents, List.length_append, List.length_singleton]
    omega

/-- A thread that takes an element, or finds none, need not be counted any more. -/
theorem take_wakeup {s : State α} (hwf : s.m_queue.Wf)
    (h : s.sleeping ≠ [] →
      s.m_queue.contents.length ≤ s.awake.length + 1 ∧ s.m_isClosed = false) :
    WakeupInv s.take := by
  rw [State.take]
  split
  · rename_i hsize
    obtain ⟨hwf', hcontents⟩ := hwf.pop
    refine ⟨hwf', fun hsleeping => ?_⟩
    obtain ⟨hle, hopen⟩ := h hsleeping
    refine ⟨?_, hopen⟩
    have hsome : (s.m_queue.pop).1.isSome = true := by
      rw [hwf.pop_isSome]
      exact decide_eq_true hsize
    obtain ⟨element, helement⟩ := Option.isSome_iff_exists.mp hsome
    rw [hcontents, helement, Option.toList_some, List.singleton_append, List.length_cons] at hle
    exact Nat.le_of_succ_le_succ hle
  · rename_i hsize
    refine ⟨hwf, fun hsleeping => ⟨?_, (h hsleeping).2⟩⟩
    have hempty : s.m_queue.contents.length = 0 := by
      rw [← hwf.size_eq]
      exact Nat.eq_zero_of_not_pos hsize
    change s.m_queue.contents.length ≤ s.awake.length
    omega

/-- A thread that looks at the queue takes an element, or sleeps because there is none. -/
theorem waitOrTake_wakeup {s : State α} (hwf : s.m_queue.Wf)
    (h : s.sleeping ≠ [] →
      s.m_queue.contents.length ≤ s.awake.length + 1 ∧ s.m_isClosed = false)
    (hunwrapped : s.m_queue.contents.length % 2 ^ 32 = 0 → s.m_queue.contents.length = 0)
    (thread : Nat) (fails : Bool) : WakeupInv (s.waitOrTake thread fails) := by
  rw [State.waitOrTake]
  split
  · rename_i hwaits
    obtain ⟨hopen, hwrapped⟩ := (waits_iff hwf).mp hwaits
    have hempty : s.m_queue.contents.length ≤ s.awake.length := by
      have := hunwrapped hwrapped
      omega
    split
    · exact ⟨hwf, fun _ => ⟨hempty, hopen⟩⟩
    · exact ⟨hwf, fun _ => ⟨hempty, hopen⟩⟩
  · exact take_wakeup hwf h

theorem WakeupInv.step {s : State α} {e : Event α} (h : WakeupInv s) (hunwrapped : Unwrapped s e) :
    WakeupInv (step s e) := by
  cases e with
  | push ptr chosen =>
    rw [BlockingQueue.step]
    split
    · exact h
    · exact h.push ptr chosen
  | close =>
    rw [BlockingQueue.step]
    split
    · exact h
    · exact ⟨h.wf, fun hsleeping => absurd rfl hsleeping⟩
  | pop thread fails =>
    rw [BlockingQueue.step]
    split
    · exact h
    · refine waitOrTake_wakeup h.wf (fun hsleeping => ?_) hunwrapped thread fails
      exact ⟨Nat.le_succ_of_le (h.wakeup hsleeping).1, (h.wakeup hsleeping).2⟩
  | wake thread =>
    rw [BlockingQueue.step, State.wake]
    split
    · rename_i hthread
      have hwakeup := h.wakeup (List.ne_nil_of_mem hthread)
      refine ⟨h.wf, fun _ => ⟨Nat.le_trans hwakeup.1 ?_, hwakeup.2⟩⟩
      change s.awake.length ≤ (s.awake ++ [thread]).length
      rw [List.length_append]
      exact Nat.le_add_right _ _
    · exact h
  | timeOut thread =>
    rw [BlockingQueue.step, State.timeOut]
    split
    · rename_i hthread
      exact ⟨h.wf, fun _ => h.wakeup (List.ne_nil_of_mem hthread)⟩
    · exact h
  | resume thread fails =>
    rw [BlockingQueue.step]
    split
    · exact h
    · rw [State.resume]
      split
      · rename_i hthread
        refine waitOrTake_wakeup (s := { s with awake := s.awake.erase thread }) h.wf
          (fun hsleeping => ?_) hunwrapped thread fails
        obtain ⟨hle, hopen⟩ := h.wakeup hsleeping
        refine ⟨?_, hopen⟩
        -- the thread that looks was counted
        have hpos := List.length_pos_of_mem hthread
        rw [List.length_erase_of_mem hthread]
        change s.m_queue.contents.length ≤ s.awake.length - 1 + 1
        omega
      · split
        · refine take_wakeup (s := { s with timedOut := s.timedOut.erase thread }) h.wf
            fun hsleeping => ?_
          exact ⟨Nat.le_succ_of_le (h.wakeup hsleeping).1, (h.wakeup hsleeping).2⟩
        · exact h

/-- **No wakeup is lost** in a run in which no thread sees a multiple of 2^32 elements. -/
theorem no_lost_wakeup {es : List (Event α)}
    (hunwrapped : EventRun.Meets step Unwrapped (State.init : State α) es) :
    EventRun.Throughout step NoLostWakeup (State.init : State α) es :=
  (EventRun.throughout_of_meets (fun _ _ => WakeupInv.step) WakeupInv.init hunwrapped).imp
    fun _ => WakeupInv.wakeup

/-- Two threads sleep, one is signalled, and a third takes the element before it. -/
theorem no_lost_wakeup_sample :
    EventRun.Throughout step NoLostWakeup (State.init : State Nat)
      [.pop 0 false, .pop 1 false, .push 7 fun _ => false, .pop 2 false, .resume 0 false,
        .timeOut 1, .resume 1 false, .close, .resume 0 false] :=
  no_lost_wakeup (by decide)

/-! ## As many elements as look like none -/

/-- Pushes to a queue that nobody waits for. -/
theorem run_pushes (n : Nat) :
    let s := EventRun.run step (State.init : State Unit)
      (List.replicate n (.push () fun _ => false))
    Fifo s ∧ s.m_queue.contents.length = n ∧ s.m_isClosed = false ∧ s.sleeping = [] ∧
      s.awake = [] ∧ s.timedOut = [] ∧ s.leaked = false := by
  induction n with
  | zero => exact ⟨Fifo.init, rfl, rfl, rfl, rfl, rfl, rfl⟩
  | succ n ih =>
    obtain ⟨hfifo, hlength, hopen, hsleeping, hawake, htimedOut, hleaked⟩ := ih
    simp only [List.replicate_succ', EventRun.run_append, EventRun.run_cons, EventRun.run_nil]
    have hfifo' := hfifo.change (step_change _ (.push () fun _ => false))
    refine ⟨hfifo', ?_⟩
    simp only [step, hleaked, Bool.false_eq_true, if_false, State.push, hopen, State.signal_one,
      hsleeping, hawake, htimedOut, List.filter_nil, List.take_nil, List.append_nil, if_true,
      and_true]
    rw [(hfifo.wf.push ()).2, List.length_append, hlength]
    rfl

/-- A thread that sees a multiple of 2^32 elements sleeps. -/
theorem sleeps_on_elements {n : Nat} (hpos : 0 < n) (hwrapped : n % 2 ^ 32 = 0) :
    ¬ EventRun.Throughout step NoLostWakeup (State.init : State Unit)
      (List.replicate n (.push () fun _ => false) ++ [.pop 0 false]) := by
  intro h
  obtain ⟨hfifo, hlength, hopen, hsleeping, hawake, htimedOut, hleaked⟩ := run_pushes n
  have hlast := h.last
  rw [EventRun.run_append] at hlast
  generalize EventRun.run step State.init (List.replicate n (.push () fun _ => false)) = s
    at hlast hfifo hlength hopen hsleeping hawake htimedOut hleaked
  have hwaits : s.ZeroIfShouldWaitAgain_locked = 0 :=
    (waits_iff hfifo.wf).mpr ⟨hopen, by rw [hlength, hwrapped]⟩
  have hout : (s.leaked || s.inPop 0) = false := by
    rw [State.inPop, hleaked, hsleeping, hawake, htimedOut]
    rfl
  have hpop : EventRun.run step s [.pop 0 false] = { s with sleeping := s.sleeping ++ [0] } := by
    rw [EventRun.run_cons, EventRun.run_nil, step, hout, State.waitOrTake, if_pos hwaits]
    rfl
  rw [hpop] at hlast
  have hle := (hlast (by simp)).1
  change s.m_queue.contents.length ≤ s.awake.length at hle
  rw [hlength, hawake, List.length_nil] at hle
  omega

/-- **2^32 elements look like none**, and a thread sleeps on them. -/
theorem wakeup_lost :
    ¬ EventRun.Throughout step NoLostWakeup (State.init : State Unit)
      (List.replicate (2 ^ 32) (.push () fun _ => false) ++ [.pop 0 false]) :=
  sleeps_on_elements (by decide) (by decide)

end BlockingQueue
end LocationStack
