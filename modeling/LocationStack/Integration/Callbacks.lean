import LocationStack.Integration.Tasks
import LocationStack.Lib.KeyCount
import Mathlib.Data.Multiset.AddSub
import Mathlib.Data.Multiset.MapFold

/-! # Callbacks of configuration requests

A client that set `configCb` gets one call of it for each request: failure if the message was not
sent, what the daemon answered, or, if the daemon restarted first, success only where the message
was sent again.  All that the object remembers is a count for each type, so what has to be shown is
that the count of a type is the number of its requests under way (`Inv.counts`).

It is not in every run.  An injected location is counted although no response to it comes; the
responses to two kinds of requests are not recognised; a daemon that is ready is taken for one
that lost everything, and every configuration request for one that is sent again; and a response to
what was sent again is taken for one to a request.  In a run without these steps, `Clean`, the
callbacks are right (`configCb_exactly_once`).
-/
namespace LocationStack.Integration

open PbConv EventRun LocationIntegrationApiImpl

variable {h : Header}

/-! ## Soundness -/

/-- The callback is the one that the request is owed. -/
def Answers : Ticket h × Fate h → ConfigCb → Prop
  | (t, .notSent), cb => cb = ⟨t.configType, .failure⟩
  | (t, .answered err), cb => cb = ⟨t.configType, getLocIntegrationResponse err⟩
  | (t, .lost resent), cb =>
    cb.configType = t.configType ∧
      (cb.response = .failure ∨ cb.response = .success ∧ t.payload ∈ resent)

namespace Sys

/-- The requests that were sent and are not over. -/
def underWay (s : Sys h) : List (Ticket h) :=
  s.toDaemon.filterMap Message.ticket ++ s.toClient.filterMap FromDaemon.ticket ++ s.lost

/-- The requests in the queue. -/
def queued (s : Sys h) : List (Ticket h) :=
  s.impl.mQueuedMsg.filterMap fun msg => msg.proto.ticket

end Sys

/-- The callbacks match the requests that are over, one for each.  A request that is not over waits
in the queue, for its response, or, if it was lost, for the daemon that is ready again. -/
structure Sound (s : Sys h) : Prop where
  callbacks : Multiset.Rel Answers (s.fates : Multiset (Ticket h × Fate h)) s.callbacks
  once : (s.fates.map Prod.fst ++ (s.queued ++ s.underWay)).Perm s.issued
  numbered : (s.issued.map Ticket.id).Nodup
  announced : s.lost ≠ [] → FromDaemon.halReady ∈ s.toClient

/-! ## The condition -/

/-- The message is sent again by the task that starts with a registration. -/
def Resent (s : Sys h) (sends : Nat → Bool) (t : Ticket h) : Prop :=
  ∃ k c, s.impl.cachedConfig[k]? = some c ∧ c.2 = t.payload ∧ sends (k + 1) = true

/-- The queue is sent without a loss of an injected location, and the counts have room. -/
structure QueueClean (s : Sys h) (sends : Nat → Bool) : Prop where
  injected : ∀ k msg, s.impl.mQueuedMsg[k]? = some msg → msg.configType = .zero →
    sends (k + 1) = true
  room : ∀ configType,
    (s.queued.countP fun t => t.configType = configType) +
      (s.underWay.countP fun t => t.configType = configType) < 2 ^ 31

theorem QueueClean.of_empty {s : Sys h} {sends : Nat → Bool} (hqueue : s.impl.mQueuedMsg = [])
    (hroom : s.underWay.length < 2 ^ 31) : QueueClean s sends where
  injected := fun k msg hk => by simp [hqueue] at hk
  room := fun configType => by
    have hle : (s.underWay.countP fun t => t.configType = configType) ≤ s.underWay.length :=
      List.countP_le_length
    simp only [Sys.queued, hqueue, List.filterMap_nil, List.countP_nil]
    omega

/-- The daemon that is ready has lost every request under way; nothing but these is counted; and of
these every configuration request is sent again. -/
structure FlushClean (s : Sys h) (sends : Nat → Bool) (rest : List (FromDaemon h)) : Prop where
  allLost : s.toDaemon.filterMap Message.ticket = [] ∧ rest.filterMap FromDaemon.ticket = []
  uncounted : s.impl.mConfigReqCntMap .zero = none
  resent : ∀ t ∈ s.lost, t.configType.toNat ≤ LocConfigTypeEnum.configEnumMax →
    Resent s sends t

/-- The steps that keep the callbacks right. -/
def Clean (s : Sys h) : Event h → Prop
  | .call request sends =>
    request.accepted s.impl.mIntegrationCbs = true →
      request.hasTask = true ∧ (s.impl.mHalRegistered = true →
        (request.configType = .zero → sends 0 = true) ∧
          (s.underWay.countP fun t => t.configType = request.configType) + 1 < 2 ^ 31)
  | .listenerReady sends => sends 0 = true → QueueClean s sends
  | .answer _ | .restart | .serviceUp => True
  | .onReceive sends =>
    match s.toClient with
    | [] => True
    | .response msgId _ (some _) :: _ =>
      msgId ≠ .intapiConfigMapMatchedFeedback ∧ msgId ≠ .intapiConfigXtraUserConsent
    | .response msgId _ none :: _ =>
      isConfigResponse msgId = true →
        s.impl.mConfigReqCntMap (getLocConfigTypeFromMsgId msgId) = none
    | .halReady :: rest =>
      if sends 0 then
        QueueClean s sends ∧ (s.impl.mQueuedMsg = [] → FlushClean s sends rest)
      else s.lost = [] ∨ FromDaemon.halReady ∈ rest

/-! ## Counts -/

/-- What the map has for a type that is counted `n` times. -/
def counted : Nat → Option Int
  | 0 => none
  | n + 1 => some (n + 1)

theorem counted_toNat (n : Nat) : ((counted n).getD 0).toNat = n := by
  cases n with
  | zero => rfl
  | succ n => exact Int.toNat_natCast (n + 1)

theorem int32_of_lt {n : Nat} (hn : n < 2 ^ 31) : int32 (n : Int) = n := by
  unfold int32
  refine Int.bmod_eq_of_le ?_ ?_ <;> omega

theorem addConfigReq_counted {impl : LocationIntegrationApiImpl h} {configType : LocConfigTypeEnum}
    {n : Nat} (hcnt : impl.mConfigReqCntMap configType = counted n) (hroom : n + 1 < 2 ^ 31) :
    (impl.addConfigReq configType).mConfigReqCntMap configType = counted (n + 1) := by
  simp only [LocationIntegrationApiImpl.addConfigReq, Function.update_self, hcnt]
  cases n with
  | zero => rfl
  | succ n =>
    have hint := int32_of_lt hroom
    push_cast at hint
    simp only [counted, Option.some.injEq]
    exact hint

theorem addConfigReq_ne {impl : LocationIntegrationApiImpl h}
    {configType configType' : LocConfigTypeEnum} (hne : configType ≠ configType') :
    (impl.addConfigReq configType').mConfigReqCntMap configType =
      impl.mConfigReqCntMap configType :=
  Function.update_of_ne hne _ _

/-! ## Matching -/

section Matching

variable {α β : Type} {r : α → β → Prop}

theorem rel_append {l l' : List α} {m m' : List β}
    (hl : Multiset.Rel r (l : Multiset α) m) (hl' : Multiset.Rel r (l' : Multiset α) m') :
    Multiset.Rel r ((l ++ l' : List α) : Multiset α) ((m ++ m' : List β) : Multiset β) := by
  rw [← Multiset.coe_add, ← Multiset.coe_add]
  exact hl.add hl'

theorem rel_singleton {a : α} {b : β} (hab : r a b) :
    Multiset.Rel r (([a] : List α) : Multiset α) (([b] : List β) : Multiset β) :=
  Multiset.Rel.cons hab Multiset.Rel.zero

end Matching

/-! ## The invariant -/

/-- The requests in hand were taken from the queue, or from the caller, and not yet sent. -/
structure Inv (inHand : List (Ticket h)) (s : Sys h) : Prop where
  configCb : s.impl.mIntegrationCbs.configCb = true
  callbacks : Multiset.Rel Answers (s.fates : Multiset (Ticket h × Fate h)) s.callbacks
  once : (s.fates.map Prod.fst ++ (inHand ++ (s.queued ++ s.underWay))).Perm s.issued
  numbered : s.issued.map Ticket.id = List.range s.issued.length
  typed : ∀ msg ∈ s.impl.mQueuedMsg, Typed msg.configType msg.proto
  named : ∀ msgId err t, FromDaemon.response msgId err (some t) ∈ s.toClient →
    msgId = t.payload.msgId
  counts : ∀ configType, configType ≠ .zero → s.impl.mConfigReqCntMap configType =
    counted (s.underWay.countP fun t => t.configType = configType)
  unregistered : s.impl.mHalRegistered = false → s.underWay = []

/-- Between two events there is nothing in hand, and a client that is registered queues
nothing. -/
structure Idle (s : Sys h) : Prop extends Inv [] s where
  announced : s.lost ≠ [] → FromDaemon.halReady ∈ s.toClient
  drained : s.impl.mHalRegistered = true → s.impl.mQueuedMsg = []

theorem Idle.sound {s : Sys h} (hidle : Idle s) : Sound s where
  callbacks := hidle.callbacks
  once := hidle.once
  numbered := hidle.numbered ▸ List.nodup_range
  announced := hidle.announced

theorem Idle.init (mIntegrationCbs : LocIntegrationCbs) (hcb : mIntegrationCbs.configCb = true)
    (sXtraTestEnabled : UInt32) : Idle (Sys.init mIntegrationCbs sXtraTestEnabled : Sys h) where
  configCb := hcb
  callbacks := Multiset.Rel.zero
  once := List.Perm.refl _
  numbered := rfl
  announced := fun hlost => (hlost rfl).elim
  typed := fun _ hmsg => absurd hmsg List.not_mem_nil
  named := fun _ _ _ hm => absurd hm List.not_mem_nil
  counts := fun _ _ => rfl
  unregistered := fun _ => rfl
  drained := fun _ => rfl

/-! ## Sending -/

/-- A message that is sent is under way. -/
theorem Sys.underWay_sent (s : Sys h) (m : Message h) (tk : Ticket h)
    (hm : m.ticket = some tk) :
    ({ s with toDaemon := s.toDaemon ++ [m] } : Sys h).underWay.Perm (s.underWay ++ [tk]) := by
  classical
  refine List.perm_iff_count.mpr fun a => ?_
  simp only [underWay, List.filterMap_append, List.filterMap_cons, List.filterMap_nil, hm,
    List.count_append]
  omega

section Sending

variable {sends : Nat → Bool}

/-- What sending a message with a response does, registered and with a callback. -/
theorem Sys.after_sendConfigMsg (s : Sys h) {t : Task h} (hreg : t.impl.mHalRegistered = true)
    (hcb : t.impl.mIntegrationCbs.configCb = true) (configType : LocConfigTypeEnum)
    (m : Message h) :
    s.after (t.sendConfigMsgToHalDaemon sends configType m true).2 =
      if t.nextSent sends then
        { (s.after t).attempt (m, true) with impl := t.impl.addConfigReq configType }
      else
        { (s.after t).attempt (m, false) with
          callbacks := (s.after t).callbacks ++ [⟨configType, .failure⟩] } := by
  have himpl : (t.sendMessage sends m).impl = t.impl := rfl
  rw [Task.sendConfigMsgToHalDaemon, if_neg (by simp [hreg])]
  simp only [himpl, hcb, Bool.and_self, if_true]
  cases hsent : t.nextSent sends with
  | false =>
    simp only [Bool.false_eq_true, if_false]
    rw [after_configCb, after_sendMessage, hsent]
    rfl
  | true =>
    simp only [if_true]
    rw [after_addConfigReq, after_sendMessage, hsent]
    rfl

/-- **A message that is sent or not** leaves nothing of it in hand. -/
theorem Inv.send {s : Sys h} {t : Task h} {configType : LocConfigTypeEnum} {m : Message h}
    (hinv : Inv m.ticket.toList (s.after t)) (htyped : Typed configType m)
    (hreg : t.impl.mHalRegistered = true)
    (hinject : configType = .zero → t.nextSent sends = true)
    (hroom : m.ticket.toList.length +
      ((s.after t).underWay.countP fun t' => t'.configType = configType) < 2 ^ 31) :
    Inv [] (s.after (t.sendConfigMsgToHalDaemon sends configType m true).2) := by
  rw [Sys.after_sendConfigMsg s hreg hinv.configCb configType m]
  generalize hσ : s.after t = σ at *
  have himpl : t.impl = σ.impl := by rw [← hσ]; rfl
  rw [himpl] at hreg ⊢
  obtain ⟨payload, ticket, hsame⟩ := m
  cases ticket with
  | none =>
    -- an injected location is sent, and nothing but its own count changes
    obtain ⟨rfl, hresp⟩ : configType = .zero ∧ hasResponse payload = false := htyped
    rw [hinject rfl, if_pos rfl]
    simp only [Sys.attempt, hresp, Bool.false_eq_true, if_false, List.append_nil,
      Option.toList_none]
    refine { hinv with counts := fun configType hne => ?_, unregistered := fun hnot => ?_ }
    · rw [addConfigReq_ne hne]
      exact hinv.counts configType hne
    · exact hinv.unregistered hnot
  | some tk =>
    obtain rfl : configType = tk.configType := htyped
    have hresp : hasResponse payload = true := by
      rw [hsame tk rfl]
      exact tk.hasResponse_payload
    cases hsent : t.nextSent sends with
    | true =>
      simp only [Sys.attempt, hresp, if_true]
      have hperm := σ.underWay_sent ⟨payload, some tk, hsame⟩ tk rfl
      refine { hinv with
        once := ?_, counts := fun configType hne => ?_, unregistered := fun hnot => ?_ }
      · refine List.Perm.trans ?_ hinv.once
        classical
        refine List.perm_iff_count.mpr fun a => ?_
        have hcount := hperm.count_eq a
        simp only [List.count_append, Option.toList_some, List.count_nil, Sys.queued,
          Sys.underWay, addConfigReq_mQueuedMsg] at hcount ⊢
        omega
      · have hcount := hperm.countP_eq fun t' => decide (t'.configType = configType)
        rw [List.countP_append, List.countP_singleton] at hcount
        by_cases heq : configType = tk.configType
        · subst heq
          rw [addConfigReq_counted (hinv.counts _ hne) (Nat.add_comm _ _ ▸ hroom)]
          exact congrArg counted (hcount.trans (by simp)).symm
        · rw [addConfigReq_ne heq, hinv.counts configType hne]
          exact congrArg counted (hcount.trans (by simp [Ne.symm heq])).symm
      · rw [addConfigReq_mHalRegistered, hreg] at hnot
        exact absurd hnot (by decide)
    | false =>
      simp only [Bool.false_eq_true, if_false, Sys.attempt, Option.toList_some, List.map_cons,
        List.map_nil]
      refine { hinv with callbacks := ?_, once := ?_ }
      · exact rel_append hinv.callbacks (rel_singleton (by exact rfl))
      · refine List.Perm.trans ?_ hinv.once
        simp only [List.map_append, List.map_cons, List.map_nil, List.nil_append,
          List.append_assoc, Option.toList_some]
        exact List.Perm.refl _

end Sending

/-! ## The queue -/

section Queue

variable {sends : Nat → Bool}

variable (sends) in
theorem Sys.underWay_send_le (s : Sys h) {t : Task h} (hreg : t.impl.mHalRegistered = true)
    (hcb : t.impl.mIntegrationCbs.configCb = true) (configType : LocConfigTypeEnum) (m : Message h)
    (p : Ticket h → Bool) :
    (s.after (t.sendConfigMsgToHalDaemon sends configType m true).2).underWay.countP p ≤
      m.ticket.toList.countP p + (s.after t).underWay.countP p := by
  rw [after_sendConfigMsg s hreg hcb]
  obtain ⟨payload, ticket, hsame⟩ := m
  split
  · cases ticket with
    | none =>
      simp only [attempt, underWay, List.filterMap_append, List.countP_append]
      cases hasResponse payload <;> simp
    | some tk =>
      simp only [attempt, underWay, List.filterMap_append, List.countP_append, Option.toList_some]
      cases hasResponse payload with
      | false => simp
      | true =>
        simp only [if_true, List.filterMap_cons, List.filterMap_nil]
        omega
  · simp only [attempt, underWay]
    omega

/-- **The queue is emptied** and everything in it was sent or not. -/
theorem Inv.sendQueued {s : Sys h} {queue : List (ProtoMsgInfo h)} {t : Task h}
    (hinv : Inv [] (s.after t)) (hqueue : t.impl.mQueuedMsg = queue)
    (hreg : t.impl.mHalRegistered = true)
    (hinject : ∀ k msg, queue[k]? = some msg → msg.configType = .zero →
      sends (t.attempts.length + k) = true)
    (hroom : ∀ configType,
      ((queue.filterMap fun msg => msg.proto.ticket).countP fun t => t.configType = configType) +
        ((s.after t).underWay.countP fun t => t.configType = configType) < 2 ^ 31) :
    Inv [] (s.after (t.sendQueued sends queue)) ∧
      (t.sendQueued sends queue).impl.mQueuedMsg = [] ∧
        (t.sendQueued sends queue).impl.mHalRegistered = true := by
  induction queue generalizing t with
  | nil => exact ⟨hinv, hqueue, hreg⟩
  | cons msg queue ih =>
    have htyped : Typed msg.configType msg.proto :=
      hinv.typed msg (hqueue ▸ List.mem_cons_self)
    -- the message that was taken from the queue is in hand
    have hpopped : Inv msg.proto.ticket.toList
        (s.after { t with impl := { t.impl with mQueuedMsg := queue } }) := by
      have hqueued : (s.after t).queued = msg.proto.ticket.toList ++
          queue.filterMap fun msg => msg.proto.ticket := by
        rw [Sys.queued, show (s.after t).impl.mQueuedMsg = msg :: queue from hqueue]
        cases hticket : msg.proto.ticket <;> simp [hticket]
      refine { hinv with once := ?_, typed := fun msg' hmsg' => ?_ }
      · have honce := hinv.once
        rw [hqueued, List.nil_append, List.append_assoc] at honce
        exact honce
      · exact hinv.typed msg' (hqueue ▸ List.mem_cons_of_mem _ hmsg')
    have hcount : ∀ configType,
        (((msg :: queue).filterMap fun msg => msg.proto.ticket).countP
            fun t => t.configType = configType) =
          (msg.proto.ticket.toList.countP fun t => t.configType = configType) +
            ((queue.filterMap fun msg => msg.proto.ticket).countP
              fun t => t.configType = configType) := by
      intro configType
      cases hticket : msg.proto.ticket <;> simp [hticket, List.countP_cons, Nat.add_comm]
    have hhand : msg.proto.ticket.toList.length =
        msg.proto.ticket.toList.countP fun t => t.configType = msg.configType := by
      unfold Typed at htyped
      cases hticket : msg.proto.ticket with
      | none => rfl
      | some tk =>
        rw [hticket] at htyped
        simp [htyped]
    let popped : Task h := { t with impl := { t.impl with mQueuedMsg := queue } }
    have hsent : Inv [] (s.after
        (popped.sendConfigMsgToHalDaemon sends msg.configType msg.proto true).2) := by
      refine hpopped.send htyped hreg (fun hzero => hinject 0 msg rfl hzero) ?_
      have hle := hroom msg.configType
      rw [hcount, ← hhand] at hle
      exact Nat.lt_of_le_of_lt (by rw [Nat.add_right_comm]; exact Nat.le_add_right _ _) hle
    obtain ⟨hreg', hqueue', hattempts⟩ :=
      Task.sendConfigMsg_registered sends (t := popped) hreg msg.configType msg.proto true
    refine ih hsent hqueue' hreg' (fun k msg' hk hzero => ?_) fun configType => ?_
    · rw [hattempts, List.length_append, List.length_singleton, Nat.add_assoc, Nat.add_comm 1]
      exact hinject (k + 1) msg' hk hzero
    · have hle := s.underWay_send_le sends (t := popped) hreg hpopped.configCb msg.configType
        msg.proto fun t => t.configType = configType
      have hroom' := hroom configType
      rw [hcount] at hroom'
      have hsame : (s.after popped).underWay = (s.after t).underWay := rfl
      rw [hsame] at hle
      exact Nat.lt_of_le_of_lt (Nat.add_le_add_left hle _) (by omega)

end Queue

/-! ## Registration -/

section Registration

variable (sends : Nat → Bool)

/-- **A client that registers** sends what it has queued. -/
theorem Inv.processQueuedReqs {s : Sys h} (hinv : Inv [] s) (hqueue : QueueClean s sends) :
    let t := ((Task.registered s.impl).processQueuedReqs sends).2
    Inv [] (s.after t) ∧ t.impl.mQueuedMsg = [] ∧ t.impl.mHalRegistered = true := by
  refine Inv.sendQueued ?_ rfl rfl (fun k msg hk hzero => ?_) fun configType => ?_
  · rw [Sys.after_registered]
    exact { hinv with unregistered := nofun }
  · rw [show (Task.registered s.impl : Task h).attempts.length + k = k + 1 from Nat.add_comm 1 k]
    exact hqueue.injected k msg hk hzero
  · rw [Sys.after_registered]
    exact hqueue.room configType

/-- **A client that can receive** stays sound. -/
theorem Idle.listenerReady {s : Sys h} (hidle : Idle s) (hclean : Clean s (.listenerReady sends)) :
    Idle (step s (.listenerReady sends)) := by
  simp only [step, Task.onListenerReady, Task.sendClientRegMsg_start]
  cases hsent : sends 0 with
  | false =>
    simp only [Bool.false_eq_true, if_false, Sys.after_unregistered sends s hsent]
    exact hidle
  | true =>
    simp only [if_true]
    obtain ⟨hinv, hqueue, hreg⟩ := hidle.toInv.processQueuedReqs sends (hclean hsent)
    refine { hinv with announced := ?_, drained := fun _ => hqueue }
    rw [Sys.after_toClient, Sys.after_lost]
    exact hidle.announced

end Registration

/-! ## The daemon that is ready again -/

section Ready

variable (sends : Nat → Bool)

/-- **A flush** is the callback of each request that was lost. -/
theorem rel_flushed {lost : List (Ticket h)} {mConfigReqCntMap : LocConfigTypeEnum → Option Int}
    (hzero : mConfigReqCntMap .zero = none)
    (hcounts : ∀ configType, configType ≠ .zero → mConfigReqCntMap configType =
      counted (lost.countP fun t => t.configType = configType))
    {resent : List (Payload h)}
    (hresent : ∀ t ∈ lost, t.configType.toNat ≤ LocConfigTypeEnum.configEnumMax →
      t.payload ∈ resent) :
    Multiset.Rel Answers
      ((lost.map fun t => (t, Fate.lost resent) : List (Ticket h × Fate h)) :
        Multiset (Ticket h × Fate h))
      (flushed mConfigReqCntMap) := by
  let cb : LocConfigTypeEnum → ConfigCb := fun configType =>
    ⟨configType, if configType.toNat ≤ LocConfigTypeEnum.configEnumMax then .success
      else .failure⟩
  have hflushed : flushed mConfigReqCntMap = LocConfigTypeEnum.all.flatMap fun configType =>
      List.replicate (lost.countP fun t => t.configType = configType) (cb configType) := by
    refine List.flatMap_congr fun configType _ => ?_
    by_cases hne : configType = .zero
    · subst hne
      have hnone : lost.countP (fun t => t.configType = .zero) = 0 :=
        List.countP_eq_zero.mpr fun t _ htype => t.expects (of_decide_eq_true htype)
      rw [hzero, hnone]
      rfl
    · rw [hcounts configType hne, counted_toNat]
  have hperm := KeyCount.flatMap_replicate_perm Ticket.configType cb LocConfigTypeEnum.nodup_all
    (l := lost) fun t _ => LocConfigTypeEnum.mem_all t.configType
  rw [hflushed, Multiset.coe_eq_coe.mpr hperm, ← Multiset.map_coe, ← Multiset.map_coe,
    Multiset.rel_map]
  refine Multiset.rel_refl_of_refl_on fun t ht => ⟨rfl, ?_⟩
  by_cases hle : t.configType.toNat ≤ LocConfigTypeEnum.configEnumMax
  · exact Or.inr ⟨if_pos hle, hresent t ht hle⟩
  · exact Or.inl (if_neg hle)

/-- **A registered client** that has nothing queued lets every request that was lost go. -/
theorem Inv.flush {s : Sys h} (hinv : Inv [] s) (hqueue : s.impl.mQueuedMsg = [])
    (hflush : FlushClean s sends s.toClient) :
    let t := (Task.registered s.impl).flushConfigReqs.resend sends s.impl.cachedConfig
    Idle ((s.after t).settleLost t.sentPayloads) := by
  intro t
  obtain ⟨toDaemon, hafter, htickets⟩ :=
    s.after_resend sends (t := (Task.registered s.impl).flushConfigReqs) rfl s.impl.cachedConfig
  have hflushed : s.after (Task.registered s.impl).flushConfigReqs =
      { s with
        impl := { s.impl with mHalRegistered := true, mConfigReqCntMap := fun _ => none }
        callbacks := s.callbacks ++ flushed s.impl.mConfigReqCntMap } := by
    simp only [Sys.after, Task.flushConfigReqs, Task.registered, List.foldl_cons, List.foldl_nil,
      Sys.attempt, Message.unmarked, hasResponse, Bool.false_eq_true, if_false,
      Option.toList_none, List.append_nil, List.nil_append]
  rw [hflushed] at hafter htickets
  have hunderWay : s.underWay = s.lost := by
    rw [Sys.underWay, hflush.allLost.1, hflush.allLost.2]
    rfl
  have hnone : toDaemon.filterMap Message.ticket ++ s.toClient.filterMap FromDaemon.ticket ++
      ([] : List (Ticket h)) = [] := by
    rw [htickets, hflush.allLost.1, hflush.allLost.2]
    rfl
  rw [hafter]
  refine { configCb := hinv.configCb, callbacks := ?_, once := ?_, numbered := hinv.numbered,
           typed := hinv.typed, named := hinv.named, counts := fun configType _ => ?_,
           unregistered := (by rintro ⟨⟩), announced := fun hne => absurd rfl hne,
           drained := fun _ => hqueue }
  · refine rel_append hinv.callbacks (rel_flushed hflush.uncounted (fun configType hne => ?_)
      fun tk htk hle => ?_)
    · rw [← hunderWay]
      exact hinv.counts configType hne
    · obtain ⟨k, c, hk, hpayload, hsent⟩ := hflush.resent tk htk hle
      rw [← hpayload]
      exact Task.mem_sentPayloads_resend sends rfl hk (Nat.add_comm k 1 ▸ hsent)
  · have honce := hinv.once
    simp only [Sys.queued, hqueue, List.filterMap_nil, List.nil_append, hunderWay] at honce
    simp only [Sys.settleLost, Sys.queued, Sys.underWay, hqueue, hnone, List.filterMap_nil,
      List.append_nil, List.map_append, List.map_map]
    have hid : (Prod.fst ∘ fun tk : Ticket h => (tk, Fate.lost t.sentPayloads)) = id := rfl
    rw [hid, List.map_id]
    exact honce
  · simp only [Sys.settleLost, Sys.underWay, hnone]
    rfl

/-- **The daemon that is ready again** has lost the requests that were under way, and each of
them gets its callback. -/
theorem Idle.halReady {s : Sys h} (hidle : Idle s) {rest : List (FromDaemon h)}
    (htoClient : s.toClient = .halReady :: rest) (hclean : Clean s (.onReceive sends)) :
    Idle (step s (.onReceive sends)) := by
  simp only [Clean, htoClient] at hclean
  have hunderWay : ({ s with toClient := rest } : Sys h).underWay = s.underWay := by
    simp only [Sys.underWay, htoClient, List.filterMap_cons, FromDaemon.ticket]
  have hinv : Inv [] ({ s with toClient := rest } : Sys h) := by
    refine { hidle.toInv with once := ?_, named := ?_, counts := ?_, unregistered := ?_ }
    · rw [hunderWay]
      exact hidle.once
    · intro msgId err t ht
      exact hidle.named msgId err t (htoClient ▸ List.mem_cons_of_mem _ ht)
    · rw [hunderWay]
      exact hidle.counts
    · rw [hunderWay]
      exact hidle.unregistered
  simp only [step, htoClient, Task.processHalReadyMsg, Task.sendClientRegMsg_start]
  cases hsent : sends 0 with
  | false =>
    simp only [hsent, Bool.false_eq_true, if_false, if_true] at hclean ⊢
    rw [Sys.after_unregistered sends ({ s with toClient := rest } : Sys h) hsent]
    refine { hinv with announced := fun hlost => ?_, drained := hidle.drained }
    exact hclean.resolve_left hlost
  | true =>
    simp only [hsent, if_true, Bool.true_eq_false, if_false] at hclean ⊢
    obtain ⟨hqueueClean, hflushClean⟩ := hclean
    obtain ⟨hsentQueue, hempty, hreg⟩ := hinv.processQueuedReqs sends
      ⟨hqueueClean.injected, fun configType => hunderWay ▸ hqueueClean.room configType⟩
    by_cases hqueue : s.impl.mQueuedMsg = []
    · have hflush := hflushClean hqueue
      have hnothing : (Task.registered s.impl).processQueuedReqs sends =
          (false, Task.registered s.impl) := by
        simp only [Task.processQueuedReqs, Task.registered, hqueue, Task.sendQueued,
          List.isEmpty_nil, Bool.not_true]
      rw [hnothing]
      simp only [Bool.false_eq_true, if_false]
      exact hinv.flush sends hqueue ⟨hflush.allLost, hflush.uncounted, hflush.resent⟩
    · -- the client registers for the first time, so nothing was lost
      have hnot : s.impl.mHalRegistered = false := by
        cases hregistered : s.impl.mHalRegistered with
        | false => rfl
        | true => exact absurd (hidle.drained hregistered) hqueue
      have hlost : s.lost = [] := (List.append_eq_nil_iff.mp (hidle.unregistered hnot)).2
      have hnonempty : ((Task.registered s.impl).processQueuedReqs sends).1 = true := by
        simpa [Task.processQueuedReqs, Task.registered, List.isEmpty_iff] using hqueue
      rw [if_pos hnonempty, Sys.settleLost_of_nil (by rw [Sys.after_lost]; exact hlost)]
      refine { hsentQueue with announced := fun hne => ?_, drained := fun _ => hempty }
      rw [Sys.after_lost] at hne
      exact absurd hlost hne

end Ready

/-! ## The other events -/

/-- **Requests that move** on their way to the daemon and back. -/
theorem Inv.move {inHand : List (Ticket h)} {s s' : Sys h} (hinv : Inv inHand s)
    (himpl : s'.impl = s.impl) (hfates : s'.fates = s.fates)
    (hcallbacks : s'.callbacks = s.callbacks) (hissued : s'.issued = s.issued)
    (hunderWay : s'.underWay.Perm s.underWay)
    (hnamed : ∀ msgId err t, FromDaemon.response msgId err (some t) ∈ s'.toClient →
      msgId = t.payload.msgId) : Inv inHand s' where
  configCb := himpl ▸ hinv.configCb
  callbacks := hfates ▸ hcallbacks ▸ hinv.callbacks
  once := by
    rw [hfates, hissued, Sys.queued, himpl]
    exact (((hunderWay.append_left _).append_left _).append_left _).trans hinv.once
  numbered := hissued ▸ hinv.numbered
  typed := himpl ▸ hinv.typed
  named := hnamed
  counts := fun configType hne => by
    rw [himpl, hinv.counts configType hne, hunderWay.countP_eq]
  unregistered := fun hnot => by
    rw [himpl] at hnot
    exact List.perm_nil.mp (hinv.unregistered hnot ▸ hunderWay)

section Events

variable (sends : Nat → Bool)

theorem Request.recognised_of_msgId {request : Request h} {sXtraTestEnabled : UInt32}
    (hmmf : (request.payload sXtraTestEnabled).msgId ≠ .intapiConfigMapMatchedFeedback)
    (hconsent : (request.payload sXtraTestEnabled).msgId ≠ .intapiConfigXtraUserConsent) :
    request.Recognised := by
  cases request with
  | gnssInjectMmfData _ => exact hmmf rfl
  | configureUserConsentForXtra _ => exact hconsent rfl
  | _ => trivial

/-- **A response to a request** is passed on to its client. -/
theorem Idle.response {s : Sys h} (hidle : Idle s) {msgId : ELocMsgID} {err : Ipc.LocationError}
    {tk : Ticket h} {rest : List (FromDaemon h)}
    (htoClient : s.toClient = .response msgId err (some tk) :: rest)
    (hclean : Clean s (.onReceive sends)) : Idle (step s (.onReceive sends)) := by
  simp only [Clean, htoClient] at hclean
  obtain rfl : msgId = tk.payload.msgId :=
    hidle.named msgId err tk (htoClient ▸ List.mem_cons_self)
  have hrec := Request.recognised_of_msgId hclean.1 hclean.2
  have htype : getLocConfigTypeFromMsgId tk.payload.msgId = tk.configType :=
    tk.request.getLocConfigTypeFromMsgId_payload hrec _
  have hknown : isConfigResponse tk.payload.msgId = true :=
    tk.request.isConfigResponse_payload hrec tk.expects _
  let s' : Sys h :=
    { s with toClient := rest, fates := s.fates ++ [(tk, .answered err)] }
  have hperm : s.underWay.Perm (tk :: s'.underWay) := by
    classical
    refine List.perm_iff_count.mpr fun a => ?_
    simp only [s', Sys.underWay, htoClient, List.filterMap_cons, FromDaemon.ticket,
      List.count_append, List.count_cons]
    omega
  -- the count of the type is that of the other requests and this one
  let n := s'.underWay.countP fun t => t.configType = tk.configType
  have hcnt : s.impl.mConfigReqCntMap tk.configType = some ((n : Int) + 1) := by
    rw [hidle.counts tk.configType tk.expects, hperm.countP_eq, List.countP_cons]
    simp only [decide_true, if_true]
    rfl
  have hpos : (n : Int) + 1 > 0 := by omega
  have hrest : (if (n : Int) + 1 - 1 > 0 then some ((n : Int) + 1 - 1) else none) = counted n := by
    rw [Int.add_sub_cancel]
    cases n with
    | zero => rfl
    | succ n => exact if_pos (by omega)
  have hstep : step s (.onReceive sends) =
      { s' with
        impl := { s.impl with
          mConfigReqCntMap :=
            Function.update s.impl.mConfigReqCntMap tk.configType (counted n) }
        callbacks := s.callbacks ++ [⟨tk.configType, getLocIntegrationResponse err⟩] } := by
    simp only [Integration.step, htoClient, Task.onResponse, hknown, if_true,
      Task.processConfigRespCb, htype, Task.start, hidle.configCb, hcnt, if_pos hpos, hrest,
      Task.configCb, Sys.after, List.foldl_nil, List.nil_append, Option.toList_some,
      List.map_cons, List.map_nil]
    rfl
  rw [hstep]
  refine { configCb := hidle.configCb, callbacks := ?_, once := ?_, numbered := hidle.numbered,
           typed := hidle.typed, named := fun msgId err' t ht => ?_,
           counts := fun configType hne => ?_, unregistered := fun hnot => ?_,
           announced := fun hlost => ?_, drained := hidle.drained }
  · exact rel_append hidle.callbacks (rel_singleton rfl)
  · refine List.Perm.trans ?_ hidle.once
    classical
    refine List.perm_iff_count.mpr fun a => ?_
    have hcount := hperm.count_eq a
    simp only [s', Sys.queued, List.map_append, List.map_cons, List.map_nil, List.nil_append,
      List.count_append, List.count_cons, List.count_nil] at hcount ⊢
    simp only [Sys.underWay, List.count_append] at hcount ⊢
    omega
  · exact hidle.named msgId err' t (htoClient ▸ List.mem_cons_of_mem _ ht)
  · by_cases heq : configType = tk.configType
    · subst heq
      exact Function.update_self _ _ _
    · refine (Function.update_of_ne heq _ _).trans ?_
      rw [hidle.counts configType hne, hperm.countP_eq,
        List.countP_cons_of_neg (by simpa using Ne.symm heq)]
      rfl
  · have hnone := hidle.unregistered hnot
    rw [hnone] at hperm
    exact absurd hperm.length_eq (by simp)
  · have hready := hidle.announced hlost
    rw [htoClient] at hready
    exact (List.mem_cons.mp hready).resolve_left (by rintro ⟨⟩)

/-- A response to what was sent again is dropped. -/
theorem Idle.unmarkedResponse {s : Sys h} (hidle : Idle s) {msgId : ELocMsgID}
    {err : Ipc.LocationError} {rest : List (FromDaemon h)}
    (htoClient : s.toClient = .response msgId err none :: rest)
    (hclean : Clean s (.onReceive sends)) : Idle (step s (.onReceive sends)) := by
  simp only [Clean, htoClient] at hclean
  have hstep : step s (.onReceive sends) = { s with toClient := rest } := by
    simp only [Integration.step, htoClient, Option.toList_none, List.map_nil, List.append_nil,
      Task.onResponse]
    by_cases hknown : isConfigResponse msgId = true
    · simp only [hknown, if_true, Task.processConfigRespCb, Task.start, hidle.configCb,
        hclean hknown]
      exact Sys.after_start _
    · rw [if_neg hknown]
      exact Sys.after_start _
  rw [hstep]
  have hinv : Inv [] ({ s with toClient := rest } : Sys h) := by
    refine hidle.toInv.move rfl rfl rfl rfl ?_ fun msgId err' t ht => ?_
    · simp only [Sys.underWay, htoClient, List.filterMap_cons, FromDaemon.ticket]
      exact List.Perm.refl _
    · exact hidle.named msgId err' t (htoClient ▸ List.mem_cons_of_mem _ ht)
  refine { hinv with announced := fun hlost => ?_, drained := hidle.drained }
  have hready := hidle.announced hlost
  rw [htoClient] at hready
  exact (List.mem_cons.mp hready).resolve_left nofun

/-- What is kept has nothing to do with the callbacks. -/
theorem Inv.cache {inHand : List (Ticket h)} {s : Sys h} (hinv : Inv inHand s)
    (request : Request h) : Inv inHand ({ s with impl := s.impl.cache request } : Sys h) := by
  cases request <;> exact { hinv with }

/-- The request of a call is in hand. -/
theorem Idle.issue {s : Sys h} (hidle : Idle s) (request : Request h) :
    Inv (s.messageOf request).ticket.toList
      ({ s with issued := s.issued ++ (s.messageOf request).ticket.toList } : Sys h) := by
  refine { hidle.toInv with once := ?_, numbered := ?_ }
  · classical
    refine List.perm_iff_count.mpr fun a => ?_
    have hcount := hidle.once.count_eq a
    simp only [List.count_append, List.nil_append, Sys.queued, Sys.underWay] at hcount ⊢
    omega
  · unfold Sys.messageOf
    split
    · simpa [Message.unmarked] using hidle.numbered
    · simp [Message.ofTicket, hidle.numbered, List.range_succ]

/-- **A call** leaves its request queued, under way or refused. -/
theorem Idle.call {s : Sys h} (hidle : Idle s) {request : Request h}
    (hclean : Clean s (.call request sends)) : Idle (step s (.call request sends)) := by
  simp only [Integration.step]
  by_cases haccepted : request.accepted s.impl.mIntegrationCbs = true
  · obtain ⟨htask, hsend⟩ := hclean haccepted
    rw [if_pos haccepted]
    simp only [Sys.accept, if_pos htask]
    have htyped := s.messageOf_typed request
    have hissued := hidle.issue request
    generalize s.messageOf request = m at htyped hissued ⊢
    have hstart : ({ s with issued := s.issued ++ m.ticket.toList } : Sys h).after
        (Task.start s.impl) = { s with issued := s.issued ++ m.ticket.toList } :=
      Sys.after_start ({ s with issued := s.issued ++ m.ticket.toList } : Sys h)
    cases hreg : s.impl.mHalRegistered with
    | true =>
      obtain ⟨hinject, hroom⟩ := hsend hreg
      have hsent : Inv [] (({ s with issued := s.issued ++ m.ticket.toList } : Sys h).after
          ((Task.start s.impl).sendConfigMsgToHalDaemon sends request.configType m true).2) := by
        refine Inv.send (t := Task.start s.impl) ?_ htyped hreg hinject ?_
        · rw [hstart]
          exact hissued
        · rw [hstart]
          have hlength : m.ticket.toList.length ≤ 1 := by cases m.ticket <;> simp
          exact Nat.lt_of_le_of_lt (Nat.add_le_add_right hlength _) (Nat.add_comm 1 _ ▸ hroom)
      obtain ⟨_, hqueue, _⟩ := Task.sendConfigMsg_registered sends
        (t := Task.start s.impl) hreg request.configType m true
      have hempty := hqueue.trans (hidle.drained hreg)
      rw [Task.proc]
      simp only []
      split
      · refine { hsent.cache request with announced := ?_, drained := fun _ => ?_ }
        · rw [Sys.after_toClient, Sys.after_lost]
          exact hidle.announced
        · exact (LocationIntegrationApiImpl.cache_mQueuedMsg _ request).1.trans hempty
      · refine { hsent with announced := ?_, drained := fun _ => hempty }
        rw [Sys.after_toClient, Sys.after_lost]
        exact hidle.announced
    | false =>
      have hqueued : Inv [] ({ s with
          issued := s.issued ++ m.ticket.toList
          impl := { s.impl with
            mQueuedMsg := s.impl.mQueuedMsg ++ [⟨request.configType, m⟩] } } : Sys h) := by
        refine { hissued with once := ?_, typed := fun msg hmsg => ?_ }
        · refine List.Perm.trans ?_ hissued.once
          classical
          refine List.perm_iff_count.mpr fun a => ?_
          simp only [Sys.queued, Sys.underWay, List.filterMap_append, List.count_append,
            List.nil_append]
          cases hticket : m.ticket <;> simp [hticket]
          omega
        · rcases List.mem_append.mp hmsg with hold | hnew
          · exact hissued.typed msg hold
          · rw [List.mem_singleton.mp hnew]
            exact htyped
      have hwork : ({ s with issued := s.issued ++ m.ticket.toList } : Sys h).after
            ((Task.start s.impl).proc sends request m) =
          { s with
            issued := s.issued ++ m.ticket.toList
            impl := ({ s.impl with
              mQueuedMsg := s.impl.mQueuedMsg ++ [⟨request.configType, m⟩] } :
                LocationIntegrationApiImpl h).cache request } := by
        simp only [Task.proc, Task.sendConfigMsgToHalDaemon, Task.start, hreg, if_true, Sys.after,
          List.foldl_nil, List.append_nil]
      rw [hwork]
      refine { hqueued.cache request with announced := hidle.announced, drained := fun hreg' => ?_ }
      have hreg'' := (LocationIntegrationApiImpl.cache_mQueuedMsg _ request).2.symm.trans hreg'
      exact absurd (hreg.symm.trans hreg'') (by decide)
  · rw [if_neg haccepted]
    exact hidle

theorem Idle.answer {s : Sys h} (hidle : Idle s) (err : Ipc.LocationError) :
    Idle (step s (.answer err)) := by
  simp only [Integration.step]
  cases htoDaemon : s.toDaemon with
  | nil => exact hidle
  | cons m rest =>
    have hinv : Inv [] ({ s with
        toDaemon := rest
        toClient := s.toClient ++ [.response m.payload.msgId err m.ticket]
        history :=
          if err = .success then s.history
          else s.history.filter fun t => decide (some t.id ≠ m.ticket.map Ticket.id) } : Sys h) :=
      hidle.toInv.move rfl rfl rfl rfl (by
        classical
        refine List.perm_iff_count.mpr fun a => ?_
        simp only [Sys.underWay, htoDaemon, List.filterMap_append, List.filterMap_cons,
          List.filterMap_nil, FromDaemon.ticket, List.count_append]
        cases m.ticket <;> simp only [List.count_nil, List.count_cons] <;> omega)
      (by
        intro msgId err' t ht
        rcases List.mem_append.mp ht with hold | hnew
        · exact hidle.named msgId err' t hold
        · obtain ⟨rfl, rfl, hticket⟩ :=
            FromDaemon.response.inj (List.mem_singleton.mp hnew)
          rw [m.same t hticket.symm])
    exact { hinv with
      announced := fun hlost => List.mem_append_left _ (hidle.announced hlost)
      drained := hidle.drained }

/-- What the daemon did not answer is lost now. -/
theorem Idle.restart {s : Sys h} (hidle : Idle s) : Idle (step s .restart) := by
  have hinv : Inv [] (Integration.step s .restart) := hidle.toInv.move rfl rfl rfl rfl (by
      classical
      refine List.perm_iff_count.mpr fun a => ?_
      simp only [Integration.step, Sys.underWay, List.filterMap_append, List.filterMap_cons,
        List.filterMap_nil, FromDaemon.ticket, List.count_append, List.count_nil]
      omega)
    (by
      intro msgId err t ht
      rcases List.mem_append.mp ht with hold | hnew
      · exact hidle.named msgId err t hold
      · exact absurd (List.mem_singleton.mp hnew) nofun)
  exact { hinv with
    announced := fun _ => List.mem_append_right _ List.mem_cons_self
    drained := hidle.drained }

theorem Idle.serviceUp {s : Sys h} (hidle : Idle s) : Idle (step s .serviceUp) := by
  have hinv : Inv [] (Integration.step s .serviceUp) := hidle.toInv.move rfl rfl rfl rfl (by
      simp only [Integration.step, Sys.underWay, List.filterMap_append, List.filterMap_cons,
        List.filterMap_nil, FromDaemon.ticket, List.append_nil]
      exact List.Perm.refl _)
    (by
      intro msgId err t ht
      rcases List.mem_append.mp ht with hold | hnew
      · exact hidle.named msgId err t hold
      · exact absurd (List.mem_singleton.mp hnew) nofun)
  exact { hinv with
    announced := fun hlost => List.mem_append_left _ (hidle.announced hlost)
    drained := hidle.drained }

theorem Idle.step {s : Sys h} {e : Event h} (hidle : Idle s) (hclean : Clean s e) :
    Idle (step s e) := by
  cases e with
  | call request sends => exact hidle.call sends hclean
  | listenerReady sends => exact hidle.listenerReady sends hclean
  | answer err => exact hidle.answer err
  | restart => exact hidle.restart
  | serviceUp => exact hidle.serviceUp
  | onReceive sends =>
    cases htoClient : s.toClient with
    | nil =>
      simp only [Integration.step, htoClient]
      exact hidle
    | cons m rest =>
      cases m with
      | response msgId err ticket =>
        cases ticket with
        | none => exact hidle.unmarkedResponse sends htoClient hclean
        | some tk => exact hidle.response sends htoClient hclean
      | halReady => exact hidle.halReady sends htoClient hclean

end Events

/-! ## Runs -/

/-- **Each request gets its callback**, exactly one and its own, in every clean run. -/
theorem configCb_exactly_once (mIntegrationCbs : LocIntegrationCbs)
    (hcb : mIntegrationCbs.configCb = true) (sXtraTestEnabled : UInt32) (es : List (Event h))
    (hclean : Meets step Clean (Sys.init mIntegrationCbs sXtraTestEnabled) es) :
    Throughout step Sound (Sys.init mIntegrationCbs sXtraTestEnabled) es := by
  have hidle : Throughout step Idle (Sys.init mIntegrationCbs sXtraTestEnabled) es :=
    throughout_of_meets (fun _ _ hs hc => hs.step hc)
      (Idle.init mIntegrationCbs hcb sXtraTestEnabled) hclean
  exact hidle.imp fun _ hs => hs.sound

/-- A client with a callback for the responses. -/
def LocIntegrationCbs.sample : LocIntegrationCbs := ⟨true, true, true, true, true, true⟩

/-- A request that is answered, and one that is lost and sent again. -/
theorem configCb_exactly_once_sample :
    Throughout step Sound (Sys.init .sample 0 : Sys Header.small)
      [.listenerReady allSent, .call (.configRobustLocation true false) allSent,
        .answer .success, .onReceive allSent,
        .call (.configConstrainedTimeUncertainty true 0 0) allSent, .restart,
        .onReceive allSent] := by
  refine configCb_exactly_once .sample rfl 0 _ ⟨?_, ?_, ?_, ?_, ?_, ?_, ?_, ?_⟩
  · exact fun _ => .of_empty rfl (by decide)
  · exact fun _ => ⟨rfl, fun _ => ⟨fun hzero => absurd hzero (by decide), by decide⟩⟩
  · trivial
  · exact ⟨by decide, by decide⟩
  · exact fun _ => ⟨rfl, fun _ => ⟨fun hzero => absurd hzero (by decide), by decide⟩⟩
  · trivial
  · refine ⟨.of_empty rfl (by decide), fun _ => ⟨⟨rfl, rfl⟩, rfl, fun t ht _ => ?_⟩⟩
    obtain rfl := List.mem_singleton.mp ht
    exact ⟨0, _, rfl, rfl, rfl⟩
  · trivial

/-- A minimum GPS week that was lost is not sent again, and its client is told that it was set. A
location that could not be injected makes a callback for no request. -/
theorem configCb_wrong :
    ¬ Throughout step Sound (Sys.init .sample 0 : Sys Header.small)
        [.listenerReady allSent, .call (.configMinGpsWeek 2200) allSent, .restart,
          .onReceive allSent] ∧
      ∀ location, ¬ Throughout step Sound (Sys.init .sample 0 : Sys Header.small)
        [.listenerReady allSent, .call (.odcpiInject location) fun _ => false] := by
  constructor
  · intro hsound
    obtain ⟨⟨t, fate⟩, hmem, hcb⟩ := Multiset.exists_mem_of_rel_of_mem
      (Multiset.rel_flip.mpr hsound.last.callbacks) (a := ⟨.configMinGpsWeek, .success⟩)
      List.mem_cons_self
    obtain ⟨rfl, rfl⟩ := Prod.mk.inj (List.mem_singleton.mp hmem)
    obtain ⟨_, hfailure | ⟨_, hresent⟩⟩ := hcb
    · exact absurd hfailure (by decide)
    · exact absurd (List.mem_singleton.mp hresent) nofun
  · intro location hsound
    have hnone := Multiset.rel_zero_left.mp hsound.last.callbacks
    exact absurd (Multiset.coe_eq_zero _ |>.mp hnone) (List.cons_ne_nil _ _)

end LocationStack.Integration
