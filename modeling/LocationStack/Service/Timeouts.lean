import LocationStack.Service.Fixes

/-! # Timeouts

The timer of a request posts a message that carries the name of the client, and the task that
takes the message ends whatever request waits under that name.  Between the two the request may
be answered, cancelled or replaced.  As long as no request is made under a name while a message
for it waits, the request that a message ends is the one whose timer posted it.
-/
namespace LocationStack.Service

open State

/-- Every timeout ended the request whose timer fired. -/
def TimeoutSound (s : State) : Prop := ∀ p ∈ s.timedOut, p.1 = p.2 ∧ p.1 ∈ s.fired

instance (s : State) : Decidable (TimeoutSound s) := List.decidableBAll _ _

/-- The event makes no request under a name for which a timeout message of that kind waits. -/
def NoneWaits (s : State) (e : Event) : Prop :=
  ∀ m ∈ s.mMsgTask, e.asks s ≠ some (m.mTimerType, m.mClientName)

instance (s : State) (e : Event) : Decidable (NoneWaits s e) := List.decidableBAll _ _

/-! ## The invariant -/

/-- What makes timeouts sound: the request that a message waits for is its own. -/
structure TimeoutInv (s : State) : Prop where
  booked : Booked s
  fired : ∀ m ∈ s.mMsgTask, m.req ∈ s.fired
  own : ∀ m ∈ s.mMsgTask, ∀ r, s.pending (m.mTimerType, m.mClientName) = some r → r = m.req
  sound : TimeoutSound s

theorem TimeoutInv.init (gnssInterface : Bool) : TimeoutInv (State.init gnssInterface) :=
  ⟨Booked.init gnssInterface, nofun, nofun, nofun⟩

/-- It survives whatever leaves the timeouts alone and makes no request that a message waits
for. -/
theorem TimeoutInv.frame {s s' : State} (h : TimeoutInv s) (hbooked : Booked s')
    (htimeouts : s'.timeoutPart = s.timeoutPart)
    (hpending : ∀ m ∈ s.mMsgTask, ∀ r, s'.pending (m.mTimerType, m.mClientName) = some r →
      s.pending (m.mTimerType, m.mClientName) = some r) : TimeoutInv s' := by
  simp only [timeoutPart, Prod.mk.injEq] at htimeouts
  obtain ⟨htask, hfired, htimedOut⟩ := htimeouts
  refine ⟨hbooked, ?_, ?_, ?_⟩
  · rw [htask, hfired]
    exact h.fired
  · rw [htask]
    exact fun m hm r hr => h.own m hm r (hpending m hm r hr)
  · rw [TimeoutSound, hfired, htimedOut]
    exact h.sound

/-! ## Steps -/

/-- The timeouts that a message of this request ends. -/
theorem gtpFixRequestTimeout_timeouts (s : State) (clientName : String) (fired : Nat)
    (rc : Bool) :
    (s.gtpFixRequestTimeout clientName fired rc).timeoutPart =
      (s.mMsgTask, s.fired,
        s.timedOut ++ (s.pending (.terrestrial, clientName)).toList.map fun r => (fired, r)) := by
  rw [gtpFixRequestTimeout, pending]
  cases hlookup : s.mTerrestrialFixTimeoutMap.lookup clientName with
  | none => exact congrArg (fun l => (s.mMsgTask, s.fired, l)) (List.append_nil _).symm
  | some timer =>
    simp only []
    split
    · exact ((sendTerrestrialFix_quiet (s.noteTimeout fired timer.req) _ _ _ _ rc).trans
        (eraseTerrestrialFix_quiet _ clientName)).timeouts
    · exact (eraseTerrestrialFix_quiet (s.noteTimeout fired timer.req) clientName).timeouts

theorem singleFixRequestTimeout_timeouts (s : State) (clientName : String) (fired : Nat)
    (rc : Bool) :
    (s.singleFixRequestTimeout clientName fired rc).timeoutPart =
      (s.mMsgTask, s.fired,
        s.timedOut ++ (s.pending (.fused, clientName)).toList.map fun r => (fired, r)) := by
  rw [singleFixRequestTimeout, pending]
  cases hlookup : s.mSingleFixReqMap.lookup clientName with
  | none => exact congrArg (fun l => (s.mMsgTask, s.fired, l)) (List.append_nil _).symm
  | some info =>
    exact (((sendSingleFix_quiet (s.noteTimeout fired info.timeoutTimer.req) clientName _ _ _
      rc).trans (eraseSingleFix_quiet _ clientName)).trans
        (stopTrackingSessionForSingleFixes_quiet _)).timeouts

/-- The task takes its first message, and ends the request that waits under the name. -/
theorem procMsg_timeouts {s : State} {msg : SingleFixTimeoutReq}
    {rest : List SingleFixTimeoutReq} (h : s.mMsgTask = msg :: rest) (rc : Bool) :
    (s.procMsg rc).timeoutPart =
      (rest, s.fired, s.timedOut ++
        (s.pending (msg.mTimerType, msg.mClientName)).toList.map fun r => (msg.req, r)) := by
  obtain ⟨clientName, timerType, req⟩ := msg
  rw [procMsg, h]
  cases timerType with
  | terrestrial => exact gtpFixRequestTimeout_timeouts { s with mMsgTask := rest } clientName req rc
  | fused => exact singleFixRequestTimeout_timeouts { s with mMsgTask := rest } clientName req rc

/-- A timer that fires posts a message for the request that waits, and for that alone. -/
theorem timeOutCallback_timeouts (s : State) (clientName : String)
    (timerType : SingleShotTimerType) :
    (s.timeOutCallback clientName timerType).timeoutPart = s.timeoutPart ∨
      ∃ req, s.pending (timerType, clientName) = some req ∧
        (s.timeOutCallback clientName timerType).timeoutPart =
          (s.mMsgTask ++ [⟨clientName, timerType, req⟩], req :: s.fired, s.timedOut) := by
  cases timerType with
  | terrestrial =>
    simp only [timeOutCallback]
    split
    · rename_i req hlookup
      exact Or.inr ⟨req, by rw [pending, hlookup]; rfl, rfl⟩
    · exact Or.inl rfl
  | fused =>
    simp only [timeOutCallback]
    split
    · rename_i horQoS req hlookup
      exact Or.inr ⟨req, by rw [pending, hlookup]; rfl, rfl⟩
    · exact Or.inl rfl

theorem TimeoutInv.timeOut {s : State} (h : TimeoutInv s) (clientName : String)
    (timerType : SingleShotTimerType) : TimeoutInv (s.timeOutCallback clientName timerType) := by
  have hbooked : Booked (s.timeOutCallback clientName timerType) :=
    h.booked.next (.timeOut clientName timerType)
  have hpending := pending_timeOutCallback s clientName timerType
  rcases timeOutCallback_timeouts s clientName timerType with hsame | ⟨req, hreq, hposts⟩
  · exact h.frame hbooked hsame fun m _ r hr => by rwa [hpending] at hr
  · simp only [timeoutPart, Prod.mk.injEq] at hposts
    obtain ⟨htask, hfired, htimedOut⟩ := hposts
    refine ⟨hbooked, ?_, ?_, ?_⟩
    · rw [htask, hfired]
      intro m hm
      obtain hold | hnew := List.mem_append.mp hm
      · exact List.mem_cons_of_mem _ (h.fired m hold)
      · rw [List.mem_singleton.mp hnew]
        exact List.mem_cons_self
    · rw [htask, hpending]
      intro m hm r hr
      obtain hold | hnew := List.mem_append.mp hm
      · exact h.own m hold r hr
      · rw [List.mem_singleton.mp hnew] at hr ⊢
        exact Option.some.inj (hr.symm.trans hreq)
    · rw [TimeoutSound, hfired, htimedOut]
      intro p hp
      exact ⟨(h.sound p hp).1, List.mem_cons_of_mem _ (h.sound p hp).2⟩

theorem TimeoutInv.procMsg {s : State} (h : TimeoutInv s) (rc : Bool) :
    TimeoutInv (s.procMsg rc) := by
  have hbooked : Booked (s.procMsg rc) := h.booked.next (.procMsg rc)
  obtain ⟨_, hanswers, _⟩ := procMsg_answers s rc
  cases htask : s.mMsgTask with
  | nil =>
    rw [State.procMsg, htask]
    exact h
  | cons msg rest =>
    have hmem : msg ∈ s.mMsgTask := by rw [htask]; exact List.mem_cons_self
    have hrest : ∀ m ∈ rest, m ∈ s.mMsgTask := by
      rw [htask]
      exact fun m hm => List.mem_cons_of_mem _ hm
    have htaken := procMsg_timeouts htask rc
    simp only [timeoutPart, Prod.mk.injEq] at htaken
    obtain ⟨htask', hfired, htimedOut⟩ := htaken
    refine ⟨hbooked, ?_, ?_, ?_⟩
    · rw [htask', hfired]
      exact fun m hm => h.fired m (hrest m hm)
    · rw [htask']
      exact fun m hm r hr => h.own m (hrest m hm) r (hanswers.pending _ r hr)
    · rw [TimeoutSound, hfired, htimedOut]
      intro p hp
      obtain hold | hnew := List.mem_append.mp hp
      · exact h.sound p hold
      · obtain ⟨r, hr, rfl⟩ := List.mem_map.mp hnew
        -- the request that ends is the one the message is about
        have hown : r = msg.req := h.own msg hmem r (Option.mem_toList.mp hr)
        exact ⟨hown.symm, h.fired msg hmem⟩

/-- **What one event preserves.** -/
theorem TimeoutInv.next {s : State} {e : Event} (h : TimeoutInv s) (hnone : NoneWaits s e) :
    TimeoutInv (next s e) := by
  have hpending : ∀ m ∈ s.mMsgTask, ∀ r,
      (Service.next s e).pending (m.mTimerType, m.mClientName) = some r →
        s.pending (m.mTimerType, m.mClientName) = some r := by
    intro m hm r hr
    cases hasks : e.asks s with
    | some k =>
      have hk : (m.mTimerType, m.mClientName) ≠ k :=
        fun hk => hnone m hm (hasks.trans (congrArg some hk.symm))
      rwa [(next_asks hasks).pending, if_neg hk] at hr
    | none =>
      obtain ⟨new, _, hanswers | ⟨_, hrefuses⟩⟩ := next_answers h.booked hasks
      · exact hanswers.pending _ r hr
      · rwa [hrefuses.pending] at hr
  have hother : e.aboutTimeouts = false → TimeoutInv (Service.next s e) := by
    intro habout
    refine h.frame (h.booked.next e) ?_ hpending
    cases hregisters : e.registers s with
    | false =>
      obtain ⟨t, hframe, hkeeps⟩ := next_keeps hregisters
      exact hkeeps.timeouts.trans (hframe.timeouts habout)
    | true =>
      obtain ⟨n, c, _, _, _, heq⟩ := next_registers hregisters
      rw [heq]
      rfl
  cases e with
  | timeOut clientName timerType => exact h.timeOut clientName timerType
  | procMsg rc => exact h.procMsg rc
  | _ => exact hother rfl

theorem TimeoutInv.step {s : State} {e : Event} (h : TimeoutInv s) (hnone : NoneWaits s e) :
    TimeoutInv (step s e) := by
  rw [Service.step]
  split
  · have hvisited : TimeoutInv (s.noteReports e.reports) := h.frame h.booked rfl fun _ _ _ hr => hr
    refine hvisited.next ?_
    cases e <;> exact hnone
  · exact h

/-- **A timeout ends the request whose timer fired**, throughout a run in which no request is
made under a name while a timeout message for it waits. -/
theorem timeouts_end_their_requests {gnssInterface : Bool} {es : List Event}
    (hnone : EventRun.Meets step NoneWaits (State.init gnssInterface) es) :
    EventRun.Throughout step TimeoutSound (State.init gnssInterface) es :=
  (EventRun.throughout_of_meets (fun _ _ => TimeoutInv.step) (TimeoutInv.init gnssInterface)
    hnone).imp fun _ => TimeoutInv.sound

/-- A request times out, and the next one of the client waits for its own timer. -/
theorem timeouts_end_their_requests_sample :
    EventRun.Throughout step TimeoutSound (State.init true)
      [.newClient "a" .locationClientApi (0, 0) true,
        .getSinglePos "a" 0x41200000 1000 true 7, .timeOut "a" .fused, .procMsg true,
        .getSinglePos "a" 0x41200000 1000 true 8, .timeOut "a" .fused, .procMsg true] :=
  timeouts_end_their_requests (by decide +kernel)

/-- **A message that is late** ends the request that the client made in the meantime, whose
timer still runs. -/
theorem late_timeout_ends_another_request :
    ¬ EventRun.Throughout step TimeoutSound (State.init true)
      [.newClient "a" .locationClientApi (0, 0) true,
        .getSinglePos "a" 0x41200000 1000 true 7, .timeOut "a" .fused,
        .getSinglePos "a" 0 0 true 7, .getSinglePos "a" 0x41200000 1000 true 8,
        .procMsg true] := by
  decide +kernel

end LocationStack.Service
