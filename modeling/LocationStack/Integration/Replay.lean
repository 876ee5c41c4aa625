import LocationStack.Integration.Config
import LocationStack.Integration.Callbacks

/-! # The configuration after a restart

What the client sends when the daemon is ready again should put the fresh daemon into the
configuration that the requests so far put the old one into.  A request is kept when its message is
queued or sent, so the invariant `Kept` speaks of the requests that a daemon has and of those in
the queue, and a refusal or a queued message that is not sent may break it.

What is kept of a kind is its last request.  So the lever arms and the parameters of the
dead-reckoning engine that an earlier request set are forgotten, and engines of two overlapping
masks get their states in the order of the map.  One flag is shared by the constellations and the
secondary bands, so a client that asked for the bands sends constellations that it never asked for.
A run without such steps, `Preserved`, keeps the configuration (`config_survives_restart`).
-/
namespace LocationStack.Integration

open PbConv EventRun LocationIntegrationApiImpl

variable {h : Header}

/-! ## The property -/

namespace Sys

/-- The payloads that are sent if the daemon is ready now. -/
def replayed (s : Sys h) : List (Payload h) :=
  ((Task.start s.impl).processHalReadyMsg allSent).sentPayloads

/-- The configuration that the requests of the history make. -/
def historyConfig (s : Sys h) : DaemonConfig := configOf (s.history.map Ticket.payload)

end Sys

/-- A fresh daemon gets the configuration of the history, and what is sent was requested. -/
structure Restored (s : Sys h) : Prop where
  config : configOf s.replayed = s.historyConfig
  requested : ∀ payload ∈ s.replayed, payload = .clientRegisterReq .locationIntegrationApi ∨
    ∃ t ∈ s.issued, t.payload = payload

/-! ## The condition -/

/-- The requests whose messages were sent. -/
def sentTickets (attempts : List (Message h × Bool)) : List (Ticket h) :=
  (attempts.filter Prod.snd).flatMap fun a => a.1.ticket.toList

/-- The attempts that send a queue, the first of them the `k`-th of its task. -/
def attemptsFrom (sends : Nat → Bool) : Nat → List (ProtoMsgInfo h) → List (Message h × Bool)
  | _, [] => []
  | k, msg :: queue => (msg.proto, sends k) :: attemptsFrom sends (k + 1) queue

/-- What of the queue is sent makes the same configuration as all of it. -/
def QueueKept (s : Sys h) (sends : Nat → Bool) : Prop :=
  configOf ((s.history ++ sentTickets (attemptsFrom sends 1 s.impl.mQueuedMsg)).map
    Ticket.payload) = configOf ((s.history ++ s.queued).map Ticket.payload)

/-- The steps that keep the configuration. -/
def Preserved (s : Sys h) : Event h → Prop
  | .call request sends =>
    request.accepted s.impl.mIntegrationCbs = true → request.hasTask = true →
      (s.impl.mHalRegistered = true → sends 0 = true) → request.KeptBy s.impl
  | .listenerReady sends => sends 0 = true → QueueKept s sends
  | .answer err =>
    err = .success ∨ (step s (.answer err)).historyConfig = s.historyConfig
  | .onReceive sends =>
    match s.toClient with
    | .halReady :: _ => sends 0 = true → QueueKept s sends
    | _ => True
  | .restart | .serviceUp => True

/-! ## What a task keeps -/

/-- The objects have kept the same. -/
def SameKept (impl impl' : LocationIntegrationApiImpl h) : Prop :=
  impl' = { impl with
    mHalRegistered := impl'.mHalRegistered
    mConfigReqCntMap := impl'.mConfigReqCntMap
    mQueuedMsg := impl'.mQueuedMsg }

theorem SameKept.trans {impl impl' impl'' : LocationIntegrationApiImpl h}
    (hsame : SameKept impl impl') (hsame' : SameKept impl' impl'') : SameKept impl impl'' := by
  rw [SameKept] at *
  rw [hsame'] at *
  rw [hsame]

theorem Keeps.of_same {impl impl' : LocationIntegrationApiImpl h} {config : DaemonConfig}
    (hkeeps : Keeps impl config) (hsame : SameKept impl impl') : Keeps impl' config := by
  rw [hsame]
  exact { hkeeps with }

theorem SameKept.cachedConfig {impl impl' : LocationIntegrationApiImpl h}
    (hsame : SameKept impl impl') : impl'.cachedConfig = impl.cachedConfig := by
  rw [hsame]
  rfl

namespace Task

variable (sends : Nat → Bool)

theorem sendConfigMsg_sameKept (t : Task h) (configType : LocConfigTypeEnum) (m : Message h)
    (invokeResponseCb : Bool) :
    SameKept t.impl (t.sendConfigMsgToHalDaemon sends configType m invokeResponseCb).2.impl := by
  unfold sendConfigMsgToHalDaemon
  split
  · rfl
  · dsimp only
    split
    · split <;> rfl
    · rfl

/-- **The queue is sent** in order, and nothing that is kept changes. -/
theorem sendQueued_spec {t : Task h} (hreg : t.impl.mHalRegistered = true)
    (queue : List (ProtoMsgInfo h)) (hqueue : t.impl.mQueuedMsg = queue) :
    let t' := t.sendQueued sends queue
    SameKept t.impl t'.impl ∧ t'.impl.mHalRegistered = true ∧ t'.impl.mQueuedMsg = [] ∧
      t'.attempts = t.attempts ++ attemptsFrom sends t.attempts.length queue := by
  induction queue generalizing t with
  | nil => exact ⟨rfl, hreg, hqueue, (List.append_nil _).symm⟩
  | cons msg queue ih =>
    let popped : Task h := { t with impl := { t.impl with mQueuedMsg := queue } }
    have hpopped : SameKept t.impl popped.impl := rfl
    have hsame := hpopped.trans
      (popped.sendConfigMsg_sameKept sends msg.configType msg.proto true)
    obtain ⟨hreg', hqueue', hattempts⟩ := sendConfigMsg_registered sends (t := popped) hreg
      msg.configType msg.proto true
    obtain ⟨hsame', hreg'', hempty, hattempts'⟩ := ih hreg' hqueue'
    refine ⟨hsame.trans hsame', hreg'', hempty, hattempts'.trans ?_⟩
    rw [hattempts, List.append_assoc, List.length_append]
    rfl

/-- What is sent again is for no request, and changes nothing. -/
theorem resend_spec {t : Task h} (hreg : t.impl.mHalRegistered = true)
    (config : List (LocConfigTypeEnum × Payload h)) :
    (t.resend sends config).impl = t.impl ∧
      sentTickets (t.resend sends config).attempts = sentTickets t.attempts := by
  induction config generalizing t with
  | nil => exact ⟨rfl, rfl⟩
  | cons c config ih =>
    rw [resend_cons sends hreg]
    obtain ⟨himpl, htickets⟩ := ih (t := t.sendMessage sends (.unmarked c.2)) hreg
    refine ⟨himpl, htickets.trans ?_⟩
    cases hsent : t.nextSent sends <;>
      simp [sendMessage, sentTickets, hsent, Message.unmarked]

theorem sentPayloads_resend {t : Task h} (hreg : t.impl.mHalRegistered = true)
    (config : List (LocConfigTypeEnum × Payload h)) :
    (t.resend allSent config).sentPayloads = t.sentPayloads ++ config.map Prod.snd := by
  induction config generalizing t with
  | nil => exact (List.append_nil _).symm
  | cons c config ih =>
    rw [resend_cons allSent hreg, ih (t := t.sendMessage allSent (.unmarked c.2)) hreg]
    simp [sendMessage, sentPayloads, nextSent, allSent, Message.unmarked]

end Task

/-! ## The invariant -/

/-- The object keeps the configuration of the requests that reached the daemon or wait. -/
structure Kept (s : Sys h) : Prop where
  drained : s.impl.mHalRegistered = true → s.impl.mQueuedMsg = []
  unregistered : s.impl.mHalRegistered = false → s.history = []
  keeps : Keeps s.impl (configOf ((s.history ++ s.queued).map Ticket.payload))
  requested : ∀ c ∈ s.impl.cachedConfig, ∃ t ∈ s.issued, t.payload = c.2

theorem Sys.queued_of_drained {s : Sys h} (hqueue : s.impl.mQueuedMsg = []) : s.queued = [] := by
  rw [queued, hqueue]
  rfl

theorem Kept.init (mIntegrationCbs : LocIntegrationCbs) (sXtraTestEnabled : UInt32) :
    Kept (Sys.init mIntegrationCbs sXtraTestEnabled : Sys h) where
  drained := fun _ => rfl
  unregistered := fun _ => rfl
  keeps := Keeps.new mIntegrationCbs sXtraTestEnabled
  requested := fun _ hc => absurd hc List.not_mem_nil

theorem Sys.replayed_of_drained {s : Sys h} (hqueue : s.impl.mQueuedMsg = []) :
    s.replayed =
      .clientRegisterReq .locationIntegrationApi :: s.impl.cachedConfig.map Prod.snd := by
  rw [replayed, Task.processHalReadyMsg, Task.sendClientRegMsg_start]
  simp only [allSent, if_true, Task.processQueuedReqs]
  rw [show (Task.registered s.impl).impl.mQueuedMsg = [] from hqueue]
  exact Task.sentPayloads_resend rfl _

/-- **The invariant decides the property.** -/
theorem Kept.restored {s : Sys h} (hkept : Kept s) (hreg : s.impl.mHalRegistered = true) :
    Restored s := by
  have hqueue := hkept.drained hreg
  have hkeeps := hkept.keeps
  rw [Sys.queued_of_drained hqueue, List.append_nil] at hkeeps
  constructor
  · rw [Sys.replayed_of_drained hqueue]
    exact configOf_cachedConfig hkeeps
  · intro payload hpayload
    rw [Sys.replayed_of_drained hqueue] at hpayload
    rcases List.mem_cons.mp hpayload with rfl | hcached
    · exact Or.inl rfl
    · obtain ⟨c, hc, rfl⟩ := List.mem_map.mp hcached
      exact Or.inr (hkept.requested c hc)

/-! ## Calls -/

section Events

variable {sends : Nat → Bool}

theorem Sys.after_history (s : Sys h) (t : Task h) :
    (s.after t).history = s.history ++ sentTickets t.attempts ∧ (s.after t).issued = s.issued := by
  suffices hfold : ∀ (attempts : List (Message h × Bool)) (s : Sys h),
      (attempts.foldl attempt s).history = s.history ++ sentTickets attempts ∧
        (attempts.foldl attempt s).issued = s.issued from hfold t.attempts s
  intro attempts
  induction attempts with
  | nil => exact fun s => ⟨(List.append_nil _).symm, rfl⟩
  | cons a attempts ih =>
    intro s
    obtain ⟨hhistory, hissued⟩ := ih (s.attempt a)
    obtain ⟨m, _ | _⟩ := a
    · exact ⟨hhistory, hissued⟩
    · refine ⟨hhistory.trans ?_, hissued⟩
      simp [attempt, sentTickets, List.append_assoc]

/-- A request adds its message, and an injected location changes no configuration. -/
theorem configOf_messageOf (s : Sys h) (request : Request h) (tickets : List (Ticket h)) :
    configOf ((tickets ++ (s.messageOf request).ticket.toList).map Ticket.payload) =
      (configOf (tickets.map Ticket.payload)).apply
        (request.payload s.impl.sXtraTestEnabled) := by
  unfold Sys.messageOf
  split
  · case isTrue hzero =>
    cases request with
    | odcpiInject location => simp [Message.unmarked, Request.payload, DaemonConfig.apply]
    | _ => cases hzero
  · rw [Message.ofTicket, Option.toList_some, List.map_append, configOf, List.foldl_append]
    rfl

/-- Messages that are kept in one place were kept before, or are new there. -/
theorem mem_flatten_set {α : Type} {lists : List (List α)} {i : Nat} {kept : List α} {c : α}
    (hc : c ∈ (lists.set i kept).flatten) : c ∈ lists.flatten ∨ c ∈ kept := by
  obtain ⟨list, hlist, hin⟩ := List.mem_flatten.mp hc
  rcases List.mem_or_eq_of_mem_set hlist with hold | rfl
  · exact Or.inl (List.mem_flatten.mpr ⟨list, hold, hin⟩)
  · exact Or.inr hin

/-- What is kept in one of the twelve places. -/
theorem mem_cachedConfig {impl : LocationIntegrationApiImpl h}
    {c : LocConfigTypeEnum × Payload h} (i : Fin 12)
    (hc : c ∈ impl.cachedMessages.get i) : c ∈ impl.cachedConfig :=
  List.mem_flatten.mpr ⟨_, List.get_mem impl.cachedMessages i, hc⟩

/-- What is kept after a request was kept before, or is its message. -/
theorem mem_cachedConfig_cache {impl : LocationIntegrationApiImpl h} {request : Request h}
    (hkept : request.KeptBy impl) (sXtraTestEnabled : UInt32) :
    ∀ c ∈ (impl.cache request).cachedConfig,
      c ∈ impl.cachedConfig ∨
        c.2 = request.payload sXtraTestEnabled ∧ request.configType ≠ .zero := by
  intro c hc
  -- a request changes the list of one place
  have hplace : ∀ (i : Nat) (kept : List (LocConfigTypeEnum × Payload h)),
      (impl.cache request).cachedMessages = impl.cachedMessages.set i kept →
      (c ∈ kept → c ∈ impl.cachedConfig ∨
        c.2 = request.payload sXtraTestEnabled ∧ request.configType ≠ .zero) →
      c ∈ impl.cachedConfig ∨
        c.2 = request.payload sXtraTestEnabled ∧ request.configType ≠ .zero := by
    intro i kept hset hnew
    rw [cachedConfig, hset] at hc
    exact (mem_flatten_set hc).elim Or.inl hnew
  cases request with
  | configConstellations constellationEnablementConfig blacklistSvConfig =>
    refine hplace 0 [_] rfl fun hin => Or.inr ?_
    obtain rfl := List.mem_singleton.mp hin
    exact ⟨rfl, by rintro ⟨⟩⟩
  | configConstellationSecondaryBand secondaryBandConfig =>
    obtain ⟨hvalid, hsize⟩ := hkept
    refine hplace 1 [(.configConstellationSecondaryBand,
      .configConstellationSecondaryBandReq secondaryBandConfig)] ?_ fun hin => Or.inr ?_
    · -- the first list stays as it is, for the constellations were configured before
      simp only [cachedMessages, cache, hvalid, hsize, if_true]
      rfl
    · obtain rfl := List.mem_singleton.mp hin
      exact ⟨rfl, by rintro ⟨⟩⟩
  | configConstrainedTimeUncertainty enable tuncThreshold energyBudget =>
    refine hplace 2 [_] rfl fun hin => Or.inr ?_
    obtain rfl := List.mem_singleton.mp hin
    exact ⟨rfl, by rintro ⟨⟩⟩
  | configPositionAssistedClockEstimator enable =>
    refine hplace 3 [_] rfl fun hin => Or.inr ?_
    obtain rfl := List.mem_singleton.mp hin
    exact ⟨rfl, by rintro ⟨⟩⟩
  | configLeverArm configInfo =>
    refine hplace 4 _ rfl fun hin => Or.inr ?_
    split at hin
    · obtain rfl := List.mem_singleton.mp hin
      exact ⟨rfl, by rintro ⟨⟩⟩
    · exact absurd hin List.not_mem_nil
  | configRobustLocation enable enableForE911 =>
    refine hplace 5 [_] rfl fun hin => Or.inr ?_
    obtain rfl := List.mem_singleton.mp hin
    exact ⟨rfl, by rintro ⟨⟩⟩
  | configDeadReckoningEngineParams dreConfig =>
    refine hplace 6 [_] rfl fun hin => Or.inr ?_
    obtain rfl := List.mem_singleton.mp hin
    exact ⟨rfl, by rintro ⟨⟩⟩
  | setUserConsentForTerrestrialPositioning userConsent =>
    refine hplace 7 [_] rfl fun hin => Or.inr ?_
    obtain rfl := List.mem_singleton.mp hin
    exact ⟨rfl, by rintro ⟨⟩⟩
  | configOutputNmeaTypes enabledNmeaTypes nmeaDatumType locReqEngMask =>
    refine hplace 8 [_] rfl fun hin => Or.inr ?_
    obtain rfl := List.mem_singleton.mp hin
    exact ⟨rfl, by rintro ⟨⟩⟩
  | configEngineRunState engType engState =>
    refine hplace 9 _ rfl fun hin => ?_
    obtain ⟨e, he, rfl⟩ := List.mem_map.mp hin
    have hentry := (IdMap.mem_entries_insert impl.mEngRunStateConfigMap engType engState e).mp he
    rcases hentry with rfl | ⟨_, hold⟩
    · exact Or.inr ⟨rfl, by rintro ⟨⟩⟩
    · exact Or.inl (mem_cachedConfig 9 (List.mem_map.mpr ⟨e, hold, rfl⟩))
  | configEngineIntegrityRisk engType integrityRisk =>
    refine hplace 10 _ rfl fun hin => ?_
    obtain ⟨e, he, rfl⟩ := List.mem_map.mp hin
    have hentry :=
      (IdMap.mem_entries_insert impl.mEngIntegrityRiskConfigMap engType integrityRisk e).mp he
    rcases hentry with rfl | ⟨_, hold⟩
    · exact Or.inr ⟨rfl, by rintro ⟨⟩⟩
    · exact Or.inl (mem_cachedConfig 10 (List.mem_map.mpr ⟨e, hold, rfl⟩))
  | registerXtraStatusUpdate registerUpdate =>
    refine hplace 11 _ rfl fun hin => Or.inr ?_
    cases registerUpdate with
    | false => exact absurd hin List.not_mem_nil
    | true =>
      obtain rfl := List.mem_singleton.mp hin
      exact ⟨rfl, by rintro ⟨⟩⟩
  | _ => exact Or.inl hc

theorem Request.KeptBy.of_same {impl impl' : LocationIntegrationApiImpl h} {request : Request h}
    (hkept : request.KeptBy impl) (hsame : SameKept impl impl') : request.KeptBy impl' := by
  rw [hsame]
  cases request <;> exact hkept

theorem Sys.messageOf_ticket (s : Sys h) {request : Request h}
    (htype : request.configType ≠ .zero) :
    ∃ t, (s.messageOf request).ticket = some t ∧
      t.payload = request.payload s.impl.sXtraTestEnabled := by
  rw [messageOf, dif_neg htype]
  exact ⟨_, rfl, rfl⟩

/-- **A request is kept** by the task that sends or queues its message. -/
theorem Kept.cached {s s' : Sys h} (hkept : Kept s) {request : Request h}
    (hrequest : request.KeptBy s.impl) {impl : LocationIntegrationApiImpl h}
    (hsame : SameKept s.impl impl) (himpl : s'.impl = impl.cache request)
    (htickets : s'.history ++ s'.queued =
      s.history ++ s.queued ++ (s.messageOf request).ticket.toList)
    (hissued : s'.issued = s.issued ++ (s.messageOf request).ticket.toList) :
    Keeps s'.impl (configOf ((s'.history ++ s'.queued).map Ticket.payload)) ∧
      ∀ c ∈ s'.impl.cachedConfig, ∃ t ∈ s'.issued, t.payload = c.2 := by
  have hrequest' := hrequest.of_same hsame
  constructor
  · rw [himpl, htickets, configOf_messageOf]
    exact (hkept.keeps.of_same hsame).cache hrequest' _
  · intro c hc
    rw [himpl] at hc
    rw [hissued]
    rcases mem_cachedConfig_cache hrequest' s.impl.sXtraTestEnabled c hc with
      hold | ⟨hnew, htype⟩
    · obtain ⟨t, ht, heq⟩ := hkept.requested c (hsame.cachedConfig ▸ hold)
      exact ⟨t, List.mem_append_left _ ht, heq⟩
    · obtain ⟨t, hticket, heq⟩ := s.messageOf_ticket htype
      exact ⟨t, List.mem_append_right _ (by rw [hticket]; exact List.mem_singleton.mpr rfl),
        heq.trans hnew.symm⟩

/-- What the task of a request does: its message is queued, sent, or not sent. -/
theorem Task.proc_spec (sends : Nat → Bool) (impl : LocationIntegrationApiImpl h)
    (request : Request h) (m : Message h) :
    let t := (Task.start impl).proc sends request m
    if impl.mHalRegistered = false then
      t.attempts = [] ∧ t.impl =
        ({ impl with mQueuedMsg := impl.mQueuedMsg ++ [⟨request.configType, m⟩] } :
          LocationIntegrationApiImpl h).cache request
    else
      t.attempts = [(m, sends 0)] ∧ ∃ impl', SameKept impl impl' ∧
        impl'.mHalRegistered = true ∧ impl'.mQueuedMsg = impl.mQueuedMsg ∧
        t.impl = if sends 0 then impl'.cache request else impl' := by
  intro t
  split
  · case isTrue hreg =>
    have hsend : (Task.start impl).sendConfigMsgToHalDaemon sends request.configType m true = _ :=
      if_pos hreg
    rw [show t = (Task.start impl).proc sends request m from rfl, proc, hsend]
    exact ⟨rfl, rfl⟩
  · case isFalse hreg =>
    rw [Bool.not_eq_false] at hreg
    have hsame := (Task.start impl).sendConfigMsg_sameKept sends request.configType m true
    obtain ⟨hreg', hqueue, hattempts⟩ := sendConfigMsg_registered sends (t := Task.start impl)
      hreg request.configType m true
    have hrc : ((Task.start impl).sendConfigMsgToHalDaemon sends request.configType m true).1 =
        sends 0 := by
      rw [sendConfigMsgToHalDaemon, if_neg (by simp [Task.start, hreg])]
      dsimp only
      split
      · split <;> rfl
      · rfl
    rw [show t = (Task.start impl).proc sends request m from rfl, proc]
    dsimp only
    rw [hrc]
    cases hsent : sends 0 with
    | false =>
      exact ⟨hattempts.trans (by rw [nextSent, ← hsent]; rfl), _, hsame, hreg', hqueue, rfl⟩
    | true =>
      exact ⟨hattempts.trans (by rw [nextSent, ← hsent]; rfl), _, hsame, hreg', hqueue, rfl⟩

theorem Kept.call {s : Sys h} (hkept : Kept s) {request : Request h}
    (hpreserved : Preserved s (.call request sends)) : Kept (step s (.call request sends)) := by
  simp only [Integration.step]
  split
  case isFalse => exact hkept
  case isTrue haccepted =>
  rw [Sys.accept]
  have hrequested : ∀ c ∈ s.impl.cachedConfig,
      ∃ t ∈ s.issued ++ (s.messageOf request).ticket.toList, t.payload = c.2 := by
    intro c hc
    obtain ⟨t, ht, heq⟩ := hkept.requested c hc
    exact ⟨t, List.mem_append_left _ ht, heq⟩
  split
  case isFalse => exact { hkept with requested := hrequested }
  case isTrue htask =>
  have hrequest := hpreserved haccepted htask
  have hspec := Task.proc_spec sends s.impl request (s.messageOf request)
  generalize hs' : ({ s with issued := s.issued ++ (s.messageOf request).ticket.toList } :
    Sys h).after _ = s'
  obtain ⟨hhistory, hissued⟩ := Sys.after_history
    ({ s with issued := s.issued ++ (s.messageOf request).ticket.toList } : Sys h)
    ((Task.start s.impl).proc sends request (s.messageOf request))
  have himpl' : s'.impl = ((Task.start s.impl).proc sends request (s.messageOf request)).impl :=
    hs' ▸ rfl
  rw [hs'] at hhistory hissued
  split at hspec
  · -- The message waits in the queue.
    case isTrue hreg =>
    obtain ⟨hattempts, himpl⟩ := hspec
    have himpl'' := himpl'.trans himpl
    generalize hwaiting : ({ s.impl with mQueuedMsg := s.impl.mQueuedMsg ++
      [⟨request.configType, s.messageOf request⟩] } : LocationIntegrationApiImpl h) = waiting
      at himpl''
    have hsame : SameKept s.impl waiting := hwaiting ▸ rfl
    obtain ⟨hqueue, hreg'⟩ := cache_mQueuedMsg waiting request
    rw [← himpl'', ← hwaiting] at hqueue hreg'
    have hhistory' : s'.history = s.history := by
      rw [hhistory, hattempts]
      exact List.append_nil _
    have hqueued : s'.queued = s.queued ++ (s.messageOf request).ticket.toList := by
      rw [Sys.queued, hqueue, List.filterMap_append]
      cases hticket : (s.messageOf request).ticket <;>
        simp only [List.filterMap_cons, hticket, List.filterMap_nil, Option.toList] <;> rfl
    obtain ⟨hkeeps, hrequested'⟩ := hkept.cached
      (hrequest fun hreg'' => absurd (hreg.symm.trans hreg'') (by rintro ⟨⟩)) hsame himpl''
      (by rw [hhistory', hqueued, List.append_assoc]) hissued
    exact ⟨fun hreg'' => absurd ((hreg'.trans hreg).symm.trans hreg'') (by rintro ⟨⟩),
      fun _ => hhistory'.trans (hkept.unregistered hreg), hkeeps, hrequested'⟩
  · case isFalse hreg =>
    rw [Bool.not_eq_false] at hreg
    have hempty := hkept.drained hreg
    obtain ⟨hattempts, impl', hsame, hreg', hqueue', himpl⟩ := hspec
    have himpl'' := himpl'.trans himpl
    rw [hattempts] at hhistory
    cases hsent : sends 0 with
    | false =>
      rw [hsent] at hhistory
      rw [if_neg (hsent ▸ Bool.false_ne_true)] at himpl''
      have hhistory' : s'.history = s.history := hhistory.trans (List.append_nil _)
      have hqueue'' : s'.impl.mQueuedMsg = [] := himpl'' ▸ hqueue'.trans hempty
      refine ⟨fun _ => hqueue'', fun hreg'' => ?_, ?_, ?_⟩
      · rw [himpl'', hreg'] at hreg''
        cases hreg''
      · rw [hhistory', Sys.queued_of_drained hqueue'', ← Sys.queued_of_drained hempty, himpl'']
        exact hkept.keeps.of_same hsame
      · rw [himpl'', hissued]
        intro c hc
        exact hrequested c (hsame.cachedConfig ▸ hc)
    | true =>
      rw [hsent] at hhistory
      rw [if_pos hsent] at himpl''
      obtain ⟨hqueue, hreg''⟩ := cache_mQueuedMsg impl' request
      rw [← himpl''] at hqueue hreg''
      have hqueue'' := hqueue.trans (hqueue'.trans hempty)
      have hhistory' : s'.history = s.history ++ (s.messageOf request).ticket.toList :=
        hhistory.trans (congrArg _ (List.append_nil _))
      obtain ⟨hkeeps, hrequested'⟩ := hkept.cached (hrequest fun _ => hsent) hsame himpl''
        (by rw [hhistory', Sys.queued_of_drained hqueue'', Sys.queued_of_drained hempty,
          List.append_nil, List.append_nil]) hissued
      refine ⟨fun _ => hqueue'', fun hnot => ?_, hkeeps, hrequested'⟩
      cases hnot.symm.trans (hreg''.trans hreg')

/-! ## Registrations -/

/-- What a registration does when it is sent, and with it the queue. -/
structure Registers (impl : LocationIntegrationApiImpl h) (sends : Nat → Bool) (t : Task h) :
    Prop where
  same : SameKept impl t.impl
  registered : t.impl.mHalRegistered = true
  drained : t.impl.mQueuedMsg = []
  tickets : sentTickets t.attempts = sentTickets (attemptsFrom sends 1 impl.mQueuedMsg)

theorem Task.sendQueued_registers (impl : LocationIntegrationApiImpl h) :
    Registers impl sends ((Task.registered impl).sendQueued sends impl.mQueuedMsg) := by
  obtain ⟨hsame, hreg, hempty, hattempts⟩ :=
    sendQueued_spec sends (t := .registered impl) rfl impl.mQueuedMsg rfl
  have hstart : SameKept impl (registered impl).impl := rfl
  refine ⟨hstart.trans hsame, hreg, hempty, ?_⟩
  rw [hattempts]
  rfl

theorem Task.onListenerReady_registers (impl : LocationIntegrationApiImpl h)
    (hsent : sends 0 = true) :
    Registers impl sends ((Task.start impl).onListenerReady sends) := by
  rw [onListenerReady, sendClientRegMsg_start, if_pos hsent]
  exact sendQueued_registers impl

theorem Task.processHalReadyMsg_registers (impl : LocationIntegrationApiImpl h)
    (hsent : sends 0 = true) :
    Registers impl sends ((Task.start impl).processHalReadyMsg sends) := by
  rw [processHalReadyMsg, sendClientRegMsg_start, if_pos hsent]
  by_cases hempty : impl.mQueuedMsg = []
  · -- The counts are flushed, and what is kept is sent again.
    have hprocess : (Task.registered impl).processQueuedReqs sends = (false, .registered impl) := by
      rw [processQueuedReqs, show (Task.registered impl).impl.mQueuedMsg = [] from hempty]
      rfl
    simp only [Bool.true_eq_false, if_false, hprocess, Bool.false_eq_true]
    obtain ⟨himpl, htickets⟩ := resend_spec sends (t := (Task.registered impl).flushConfigReqs)
      rfl (Task.registered impl).impl.cachedConfig
    refine ⟨himpl ▸ rfl, himpl ▸ rfl, himpl ▸ hempty, ?_⟩
    rw [hempty]
    exact htickets
  · have hprocess : (Task.registered impl).processQueuedReqs sends =
        (true, (Task.registered impl).sendQueued sends impl.mQueuedMsg) := by
      rw [processQueuedReqs, show (Task.registered impl).impl.mQueuedMsg = impl.mQueuedMsg from rfl,
        List.isEmpty_eq_false_iff.mpr hempty]
      rfl
    simp only [Bool.true_eq_false, if_false, hprocess, if_true]
    exact sendQueued_registers impl

theorem Kept.registers {s s' : Sys h} (hkept : Kept s) (hqueue : QueueKept s sends) {t : Task h}
    (ht : Registers s.impl sends t) (himpl : s'.impl = t.impl)
    (hhistory : s'.history = s.history ++ sentTickets t.attempts)
    (hissued : s'.issued = s.issued) : Kept s' where
  drained := fun _ => himpl ▸ ht.drained
  unregistered := by
    rw [himpl, ht.registered]
    exact nofun
  keeps := by
    rw [Sys.queued_of_drained (himpl ▸ ht.drained), List.append_nil, hhistory, ht.tickets, hqueue,
      himpl]
    exact hkept.keeps.of_same ht.same
  requested := by
    rw [himpl, ht.same.cachedConfig, hissued]
    exact hkept.requested

theorem Kept.listenerReady {s : Sys h} (hkept : Kept s)
    (hpreserved : Preserved s (.listenerReady sends)) : Kept (step s (.listenerReady sends)) := by
  cases hsent : sends 0 with
  | false =>
    rw [Integration.step, Task.onListenerReady, Task.sendClientRegMsg_start, hsent]
    simp only [Bool.false_eq_true, if_false]
    rw [Sys.after_unregistered sends s hsent]
    exact hkept
  | true =>
    obtain ⟨hhistory, hissued⟩ := Sys.after_history s ((Task.start s.impl).onListenerReady sends)
    exact hkept.registers (hpreserved hsent) (Task.onListenerReady_registers s.impl hsent) rfl
      hhistory hissued

theorem Kept.halReady {s : Sys h} (hkept : Kept s) {rest : List (FromDaemon h)}
    (htoClient : s.toClient = .halReady :: rest) (hpreserved : Preserved s (.onReceive sends)) :
    Kept (step s (.onReceive sends)) := by
  simp only [Preserved, htoClient] at hpreserved
  simp only [Integration.step, htoClient]
  have hkept' : Kept ({ s with toClient := rest } : Sys h) := { hkept with }
  cases hsent : sends 0 with
  | false =>
    rw [Task.processHalReadyMsg, Task.sendClientRegMsg_start, hsent]
    simp only [Bool.false_eq_true, if_false, if_true]
    rw [Sys.after_unregistered sends ({ s with toClient := rest } : Sys h) hsent]
    exact hkept'
  | true =>
    obtain ⟨hhistory, hissued⟩ := Sys.after_history ({ s with toClient := rest } : Sys h)
      ((Task.start s.impl).processHalReadyMsg sends)
    rw [if_pos rfl]
    exact hkept'.registers (hpreserved hsent)
      (Task.processHalReadyMsg_registers s.impl hsent) rfl hhistory hissued

/-! ## The daemon's messages -/

theorem Task.onResponse_spec (impl : LocationIntegrationApiImpl h) (msgId : ELocMsgID)
    (err : Ipc.LocationError) :
    let t := (Task.start impl).onResponse msgId err
    t.attempts = [] ∧ t.impl = { impl with mConfigReqCntMap := t.impl.mConfigReqCntMap } := by
  intro t
  have ht : t = (Task.start impl).onResponse msgId err := rfl
  rw [onResponse] at ht
  split at ht
  · rw [processConfigRespCb] at ht
    dsimp only at ht
    split at ht
    · split at ht
      · exact ht ▸ ⟨rfl, rfl⟩
      · rw [ht]
        split <;> exact ⟨rfl, rfl⟩
    · exact ht ▸ ⟨rfl, rfl⟩
  · exact ht ▸ ⟨rfl, rfl⟩

theorem Kept.response {s : Sys h} (hkept : Kept s) {msgId : ELocMsgID} {err : Ipc.LocationError}
    {ticket : Option (Ticket h)} {rest : List (FromDaemon h)}
    (htoClient : s.toClient = .response msgId err ticket :: rest) :
    Kept (step s (.onReceive sends)) := by
  simp only [Integration.step, htoClient]
  obtain ⟨hattempts, himpl⟩ := Task.onResponse_spec s.impl msgId err
  rw [Sys.after, hattempts, himpl]
  exact { hkept with
    keeps := { hkept.keeps with } }

theorem Kept.answer {s : Sys h} (hkept : Kept s) {err : Ipc.LocationError}
    (hpreserved : Preserved s (.answer err)) : Kept (step s (.answer err)) := by
  have hconfig : (Integration.step s (.answer err)).historyConfig = s.historyConfig := by
    rcases hpreserved with rfl | hconfig
    · rw [Integration.step]
      split <;> rfl
    · exact hconfig
  cases htoDaemon : s.toDaemon with
  | nil =>
    rw [Integration.step, htoDaemon]
    exact hkept
  | cons m rest =>
    simp only [Integration.step, htoDaemon] at hconfig ⊢
    -- A client that is not registered has no history, and one that is has no queue.
    cases hreg : s.impl.mHalRegistered with
    | false =>
      have hhistory := hkept.unregistered hreg
      simp only [hhistory, List.filter_nil, ite_self]
      have hkeeps := hkept.keeps
      rw [hhistory] at hkeeps
      exact { hkept with
        unregistered := fun _ => rfl
        keeps := hkeeps }
    | true =>
      have hqueue := hkept.drained hreg
      have hkeeps := hkept.keeps
      rw [Sys.queued_of_drained hqueue, List.append_nil] at hkeeps
      refine { hkept with
        unregistered := fun hnot => absurd (hreg.symm.trans hnot) (by rintro ⟨⟩)
        keeps := ?_ }
      rw [Sys.queued_of_drained (by exact hqueue), List.append_nil]
      rw [Sys.historyConfig, Sys.historyConfig] at hconfig
      rw [hconfig]
      exact hkeeps

theorem Kept.step {s : Sys h} {e : Event h} (hkept : Kept s) (hpreserved : Preserved s e) :
    Kept (step s e) := by
  cases e with
  | call request sends => exact hkept.call hpreserved
  | listenerReady sends => exact hkept.listenerReady hpreserved
  | answer err => exact hkept.answer hpreserved
  | restart | serviceUp => exact { hkept with }
  | onReceive sends =>
    cases htoClient : s.toClient with
    | nil =>
      simp only [Integration.step, htoClient]
      exact hkept
    | cons m rest =>
      cases m with
      | response msgId err ticket => exact hkept.response htoClient
      | halReady => exact hkept.halReady htoClient hpreserved

end Events

/-! ## Runs -/

/-- **The configuration survives a restart** at any time after the registration, in every run that
preserves it. -/
theorem config_survives_restart (mIntegrationCbs : LocIntegrationCbs) (sXtraTestEnabled : UInt32)
    (es : List (Event h))
    (hpreserved : Meets step Preserved (Sys.init mIntegrationCbs sXtraTestEnabled) es) :
    Throughout step (fun s => s.impl.mHalRegistered = true → Restored s)
      (Sys.init mIntegrationCbs sXtraTestEnabled) es := by
  have hkept : Throughout step Kept (Sys.init mIntegrationCbs sXtraTestEnabled) es :=
    throughout_of_meets (fun _ _ hs hp => hs.step hp)
      (Kept.init mIntegrationCbs sXtraTestEnabled) hpreserved
  exact hkept.imp fun _ hs => hs.restored

/-- Lever arms, then a restart, and robust location before the client is told of it. -/
theorem config_survives_restart_sample :
    Throughout step (fun s => s.impl.mHalRegistered = true → Restored s)
      (Sys.init .sample 0 : Sys Header.small)
      [.call (.configRobustLocation true true) allSent, .listenerReady allSent,
        .call (.configLeverArm
          { LeverArmConfigInfo.zero with leverArmValidMask := fun f => f = .drImuToGnss })
          allSent,
        .restart, .call (.configRobustLocation true false) allSent, .onReceive allSent] := by
  refine config_survives_restart .sample 0 _ ⟨?_, ?_, ?_, ?_, ?_, ?_, ?_⟩
  · exact fun _ _ _ => trivial
  · exact fun _ => rfl
  · exact fun _ _ _ _ hf => absurd hf nofun
  · trivial
  · exact fun _ _ _ => trivial
  · exact fun _ => rfl
  · trivial

/-- The bands of a client are not all that is sent again: constellations go with them.  A second
lever arm makes the first forgotten. -/
theorem config_lost :
    (¬ Throughout step (fun s => s.impl.mHalRegistered = true → Restored s)
      (Sys.init .sample 0 : Sys Header.small)
      [.listenerReady allSent,
        .call (.configConstellationSecondaryBand ⟨false, fun _ => true, fun _ => false⟩)
          allSent]) ∧
    ¬ Throughout step (fun s => s.impl.mHalRegistered = true → Restored s)
      (Sys.init .sample 0 : Sys Header.small)
      [.listenerReady allSent,
        .call (.configLeverArm
          { LeverArmConfigInfo.zero with leverArmValidMask := fun f => f = .gnssToVrp }) allSent,
        .call (.configLeverArm
          { LeverArmConfigInfo.zero with leverArmValidMask := fun f => f = .drImuToGnss })
          allSent] := by
  constructor
  · intro hrestored
    have hconfig := (hrestored.last rfl).config
    exact absurd (congrArg DaemonConfig.constellations hconfig) nofun
  · intro hrestored
    have hconfig := (hrestored.last rfl).config
    exact absurd (congrFun (congrArg DaemonConfig.leverArm hconfig) .gnssToVrp) nofun

end LocationStack.Integration
