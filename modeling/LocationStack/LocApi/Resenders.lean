import LocationStack.LocApi.Registration
import LocationStack.Lib.LastWrite

/-! # Requests that wait for the engine

A request that the engine was too busy for should be sent again, in order, until the modem accepts
it; and when none waits any more, each setting should be the one that was asked for last.

When the engine is off every request that waits is sent again, once, and forgotten.  So one that is
put off again is lost, and one that waited while a newer one was accepted overrides it.  Nothing
else goes wrong (`requests_replayed`).
-/
namespace LocationStack.LocApi

open EventRun LastWrite

/-! ## The property -/

section Property

variable {S V : Type} [DecidableEq S] (setting : Request → S) (value : Request → V)

/-- The requests that were put off and do not wait any more were accepted, in order.  A setting
that no request waits for is the one that was issued last. -/
structure Replayed (s : Sys) : Prop where
  order : s.deferred = s.replayed ++ s.api.mResenders
  current : ∀ x, (∀ r ∈ s.api.mResenders, setting r ≠ x) →
    lastValue setting value x s.accepted = lastValue setting value x s.issued

/-- What waits is accepted when it is sent again, and no newer request for its setting was. -/
structure FlushClean (answers : Nat → Answer) (s : Sys) : Prop where
  clientHandle : s.api.mResenders ≠ [] → s.api.clientHandle = true
  accepted : ∀ k < s.api.mResenders.length, answers (s.sent + k) = .accepted
  newest : ∀ r ∈ s.api.mResenders, lastValue setting value (setting r) s.api.mResenders =
    lastValue setting value (setting r) s.issued

/-- The events that keep the requests in order. -/
def ReplayClean (answers : Nat → Answer) (s : Sys) : Event → Prop
  | .engineState false => FlushClean setting value answers s
  | _ => True

end Property

/-! ## Requests -/

/-- A step of which the requests do not tell. -/
structure SameRequests (s s' : Sys) : Prop where
  mResenders : s'.api.mResenders = s.api.mResenders
  accepted : s'.accepted = s.accepted
  issued : s'.issued = s.issued
  deferred : s'.deferred = s.deferred
  replayed : s'.replayed = s.replayed

namespace Replayed

variable {S V : Type} [DecidableEq S] {setting : Request → S} {value : Request → V}
  {platform : Platform} {answers : Nat → Answer} {s : Sys}

theorem of_same {s' : Sys} (h : Replayed setting value s) (hsame : SameRequests s s') :
    Replayed setting value s' where
  order := by rw [hsame.deferred, hsame.replayed, hsame.mResenders]; exact h.order
  current := by rw [hsame.mResenders, hsame.accepted, hsame.issued]; exact h.current

/-- A request that the modem accepts. -/
theorem accept (h : Replayed setting value s) (r : Request) {s' : Sys}
    (hwaiting : s'.api.mResenders = s.api.mResenders) (haccepted : s'.accepted = s.accepted ++ [r])
    (hissued : s'.issued = s.issued ++ [r]) (hdeferred : s'.deferred = s.deferred)
    (hreplayed : s'.replayed = s.replayed) : Replayed setting value s' where
  order := by rw [hdeferred, hreplayed, hwaiting]; exact h.order
  current := by
    rw [hwaiting, haccepted, hissued]
    exact fun x hnot => lastValue_append_congr _ (h.current x hnot)

/-- A request that waits. -/
theorem defer (h : Replayed setting value s) (r : Request) {s' : Sys}
    (hwaiting : s'.api.mResenders = s.api.mResenders ++ [r]) (haccepted : s'.accepted = s.accepted)
    (hissued : s'.issued = s.issued ++ [r]) (hdeferred : s'.deferred = s.deferred ++ [r])
    (hreplayed : s'.replayed = s.replayed) : Replayed setting value s' where
  order := by rw [hdeferred, hreplayed, hwaiting, h.order, List.append_assoc]
  current := by
    rw [hwaiting, haccepted, hissued]
    intro x hnot
    rw [lastValue_append_of_not_named _ fun a ha => hnot a (List.mem_append_right _ ha)]
    exact h.current x fun a ha => hnot a (List.mem_append_left _ ha)

/-- A request is accepted, waits, or is refused. -/
theorem locSyncSendReq (h : Replayed setting value s) (r : Request) :
    Replayed setting value (s.locSyncSendReq answers r).2 := by
  have hsync : (s.syncSendReq answers r).2.accepted =
      if (s.syncSendReq answers r).1 = .accepted then s.accepted ++ [r] else s.accepted := rfl
  simp only [Sys.locSyncSendReq]
  split
  · case _ hanswer =>
    rw [hanswer, if_neg (by rintro ⟨⟩)] at hsync
    split <;> exact h.defer r rfl hsync rfl rfl rfl
  · case _ hanswer =>
    rw [hanswer, if_pos rfl] at hsync
    exact h.accept r rfl hsync rfl rfl rfl
  · case _ hanswer =>
    rw [hanswer, if_neg (by rintro ⟨⟩)] at hsync
    exact h.of_same ⟨rfl, hsync, rfl, rfl, rfl⟩
  · case _ hanswer =>
    rw [hanswer, if_neg (by rintro ⟨⟩)] at hsync
    exact h.of_same ⟨rfl, hsync, rfl, rfl, rfl⟩

theorem registerEventMask (h : Replayed setting value s) :
    Replayed setting value (s.registerEventMask platform answers) := by
  simp only [Sys.registerEventMask]
  split
  · exact h
  · split
    · have hregistered : Replayed setting value
          (s.locClientRegisterEventMask answers (s.qmiMask platform)).2 :=
        h.of_same ⟨rfl, rfl, rfl, rfl, rfl⟩
      have hinformed : Replayed setting value
          ((s.locClientRegisterEventMask answers (s.qmiMask platform)).2.informModem platform
            answers (s.qmiMask platform)) := by
        simp only [Sys.informModem]
        split <;> split
        · exact (hregistered.locSyncSendReq _).locSyncSendReq _
        · exact hregistered.locSyncSendReq _
        · exact hregistered.locSyncSendReq _
        · exact hregistered
      exact hinformed.of_same ⟨rfl, rfl, rfl, rfl, rfl⟩
    · exact h.of_same ⟨rfl, rfl, rfl, rfl, rfl⟩

/-! ## Events -/

theorem exploreModem (h : Replayed setting value s) (batching : Bool)
    (capabilities : Capabilities) :
    Replayed setting value (s.exploreModem platform answers batching capabilities).2 := by
  -- The master's requests, then those of every client.
  have hmaster : Replayed setting value (if platform.isMaster then
      (s.registerMasterClient answers).cacheGnssMeasurementSupport answers else s) := by
    split
    · refine Replayed.locSyncSendReq (s := s.registerMasterClient answers) ?_ _
      have hrequest : Replayed setting value
          (s.locSyncSendReq answers .registerMasterClient).2 := h.locSyncSendReq _
      simp only [Sys.registerMasterClient]
      split
      · exact hrequest
      · exact hrequest.of_same ⟨rfl, rfl, rfl, rfl, rfl⟩
    · exact h
  simp only [Sys.exploreModem]
  generalize (if platform.isMaster then
    (s.registerMasterClient answers).cacheGnssMeasurementSupport answers else s) = s₁ at hmaster ⊢
  have hchecked : Replayed setting value (s₁.locClientSendReq answers).2 :=
    hmaster.of_same ⟨rfl, rfl, rfl, rfl, rfl⟩
  generalize (s₁.locClientSendReq answers).1 = checked
  generalize (s₁.locClientSendReq answers).2 = s₂ at hchecked ⊢
  have hbatching : Replayed setting value
      (if (checked && batching) = true then (s₂.locSyncSendReq answers .queryAonConfig).2
        else s₂) := by
    split
    · exact hchecked.locSyncSendReq _
    · exact hchecked
  have hfeatures : Replayed setting value
      (Sys.locSyncSendReq answers _ .getSupportedFeature).2 := hbatching.locSyncSendReq _
  refine Replayed.locSyncSendReq ?_ _
  exact hfeatures.of_same ⟨rfl, rfl, rfl, rfl, rfl⟩

theorem openMask (h : Replayed setting value s) (mask : Flags LocApiAdapterBit) (batching : Bool)
    (capabilities : Capabilities) :
    Replayed setting value (s.openMask platform answers mask batching capabilities) := by
  have hopened : Replayed setting value
      (s.beforeRegister platform answers batching capabilities).2 := by
    simp only [Sys.beforeRegister]
    split
    · exact h
    · have hconnected : Replayed setting value (s.locClientOpen answers).2 := by
        simp only [Sys.locClientOpen]
        split <;> exact h.of_same ⟨rfl, rfl, rfl, rfl, rfl⟩
      split
      · exact hconnected.exploreModem batching capabilities
      · exact hconnected.of_same ⟨rfl, rfl, rfl, rfl, rfl⟩
  simp only [Sys.openMask]
  split
  · exact registerEventMask (hopened.of_same ⟨rfl, rfl, rfl, rfl, rfl⟩)
  · exact hopened

/-- What waits is sent again, and all of it is accepted. -/
theorem resend_accepted (requests : List Request) (s : Sys)
    (hhandle : requests ≠ [] → s.api.clientHandle = true)
    (haccepted : ∀ k < requests.length, answers (s.sent + k) = .accepted) :
    let s' := s.resend answers requests
    s'.accepted = s.accepted ++ requests ∧ s'.replayed = s.replayed ++ requests ∧
      s'.issued = s.issued ∧ s'.deferred = s.deferred := by
  induction requests generalizing s with
  | nil => exact ⟨(List.append_nil _).symm, (List.append_nil _).symm, rfl, rfl⟩
  | cons r rest ih =>
    have hhandle' := hhandle (List.cons_ne_nil _ _)
    have hanswer : (s.syncSendReq answers r).1 = .accepted :=
      (if_pos hhandle').trans (haccepted 0 (Nat.zero_lt_succ _))
    have hsync : (s.syncSendReq answers r).2.accepted = s.accepted ++ [r] := if_pos hanswer
    simp only [Sys.resend, hanswer, if_true]
    obtain ⟨haccepted', hreplayed, hissued, hdeferred⟩ := ih
      ({ (s.syncSendReq answers r).2 with
        replayed := (s.syncSendReq answers r).2.replayed ++ [r] } : Sys)
      (fun _ => hhandle') fun k hk => by
        have hnext := haccepted (k + 1) (Nat.succ_lt_succ hk)
        rwa [Nat.add_comm k 1, ← Nat.add_assoc] at hnext
    refine ⟨haccepted'.trans ?_, hreplayed.trans ?_, hissued, hdeferred⟩
    · rw [hsync, List.append_assoc]
      rfl
    · rw [List.append_assoc]
      rfl

theorem flushed (h : Replayed setting value s) (hclean : FlushClean setting value answers s) :
    Replayed setting value (s.flushed answers) := by
  obtain ⟨haccepted, hreplayed, hissued, hdeferred⟩ :=
    resend_accepted s.api.mResenders s hclean.clientHandle hclean.accepted
  constructor
  · rw [show (s.flushed answers).deferred = _ from hdeferred,
      show (s.flushed answers).replayed = _ from hreplayed, h.order]
    exact (List.append_nil _).symm
  · intro x _
    rw [show (s.flushed answers).accepted = _ from haccepted,
      show (s.flushed answers).issued = _ from hissued]
    by_cases hwaits : ∃ r ∈ s.api.mResenders, setting r = x
    · obtain ⟨r, hr, rfl⟩ := hwaits
      rw [lastValue_append_of_named _ hr rfl]
      exact hclean.newest r hr
    · have hnot : ∀ r ∈ s.api.mResenders, setting r ≠ x := fun r hr hx => hwaits ⟨r, hr, hx⟩
      rw [lastValue_append_of_not_named _ hnot]
      exact h.current x hnot

theorem step (h : Replayed setting value s) {e : Event}
    (hclean : ReplayClean setting value answers s e) :
    Replayed setting value (s.step platform answers e) := by
  have h' : Replayed setting value ({ s with regFailed := false } : Sys) :=
    h.of_same ⟨rfl, rfl, rfl, rfl, rfl⟩
  suffices hact : Replayed setting value
      (({ s with regFailed := false } : Sys).act platform answers e) from
    hact.of_same ⟨rfl, rfl, rfl, rfl, rfl⟩
  cases e with
  | openMask mask batching capabilities => exact h'.openMask mask batching capabilities
  | close => exact h'.of_same ⟨rfl, rfl, rfl, rfl, rfl⟩
  | startTimeBasedTracking mode =>
    have hregistered : Replayed setting value
        ((({ s with regFailed := false } : Sys).setInSession true).registerEventMask platform
          answers) := registerEventMask (h'.of_same ⟨rfl, rfl, rfl, rfl, rfl⟩)
    exact (hregistered.locSyncSendReq _).of_same ⟨rfl, rfl, rfl, rfl, rfl⟩
  | stopTimeBasedTracking =>
    simp only [Sys.act, Sys.stopTimeBasedTracking]
    split
    · exact registerEventMask (h'.of_same ⟨rfl, rfl, rfl, rfl, rfl⟩)
    · exact h'.of_same ⟨rfl, rfl, rfl, rfl, rfl⟩
  | engineState engineOn =>
    cases engineOn with
    | true => exact h'.of_same ⟨rfl, rfl, rfl, rfl, rfl⟩
    | false =>
      obtain ⟨hhandle, haccepted, hnewest⟩ := hclean
      exact registerEventMask (h'.flushed ⟨hhandle, haccepted, hnewest⟩)
  | powerState newPowerState =>
    exact registerEventMask (h'.of_same ⟨rfl, rfl, rfl, rfl, rfl⟩)
  | request r => exact h'.locSyncSendReq r

end Replayed

/-! ## Runs -/

/-- **Requests are replayed in order** and leave each setting as it was asked for last, in every
run in which what waits is accepted when the engine is off and is no older than what was. -/
theorem requests_replayed {S V : Type} [DecidableEq S] (setting : Request → S)
    (value : Request → V) (platform : Platform) (answers : Nat → Answer)
    (mExcludedMask : Flags LocApiAdapterBit) (capabilities : Capabilities) (es : List Event)
    (hclean : Meets (Sys.step platform answers) (ReplayClean setting value answers)
      (.init mExcludedMask capabilities) es) :
    Throughout (Sys.step platform answers) (Replayed setting value)
      (.init mExcludedMask capabilities) es :=
  throughout_of_meets (fun _ _ hs hc => hs.step hc) ⟨rfl, fun _ _ => rfl⟩ hclean

/-- The setting that a sample request is for. -/
def Request.settingId : Request → Nat
  | .other reqId _ => reqId
  | _ => 0

/-- Two requests wait, and another one between them does not. -/
theorem requests_replayed_sample :
    Throughout (Sys.step .sample fun n => if n = 6 ∨ n = 8 then .engineBusy else .accepted)
      (Replayed Request.settingId id) (.init (fun _ => false) .sample)
      [.openMask (fun _ => false) false .sample, .request (.other 1 [1]), .request (.other 2 [1]),
        .request (.other 1 [2]), .engineState false] := by
  refine requests_replayed Request.settingId id .sample _ _ .sample _
    ⟨trivial, trivial, trivial, trivial, ⟨fun _ => rfl, ?_, ?_⟩, trivial⟩
  · decide +kernel
  · decide +kernel

/-- A request that is put off again is lost; and one that waited overrides a newer one. -/
theorem requests_not_replayed :
    (¬ Throughout (Sys.step .sample fun n => if n = 6 ∨ n = 7 then .engineBusy else .accepted)
      (Replayed Request.settingId id) (.init (fun _ => false) .sample)
      [.openMask (fun _ => false) false .sample, .request (.other 1 [1]), .engineState false]) ∧
    ¬ Throughout (Sys.step .sample fun n => if n = 6 then .engineBusy else .accepted)
      (Replayed Request.settingId id) (.init (fun _ => false) .sample)
      [.openMask (fun _ => false) false .sample, .request (.other 1 [1]), .request (.other 1 [2]),
        .engineState false] := by
  constructor
  · intro hreplayed
    exact absurd hreplayed.last.order (by decide +kernel)
  · intro hreplayed
    exact absurd (hreplayed.last.current 1 nofun) (by decide +kernel)

end LocationStack.LocApi
