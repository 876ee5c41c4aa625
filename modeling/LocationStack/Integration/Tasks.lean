import LocationStack.Integration.System

/-! # Tasks step by step

What a task of the message loop does to the system, one send after the other: a send is one
attempt and changes no more of the object than a count, a registration is for no request, and so
is a message that is sent again.
-/
namespace LocationStack.Integration

open PbConv LocationIntegrationApiImpl

variable {h : Header}

/-! ## Attempts -/

namespace Sys

variable (sends : Nat → Bool)

/-- What is sent does not depend on the object or on the callbacks. -/
theorem attempt_with (s : Sys h) (impl : LocationIntegrationApiImpl h)
    (callbacks : List ConfigCb) (a : Message h × Bool) :
    ({ s with impl := impl, callbacks := callbacks } : Sys h).attempt a =
      { s.attempt a with impl := impl, callbacks := callbacks } := by
  obtain ⟨m, _ | _⟩ := a <;> rfl

@[simp] theorem after_start (s : Sys h) : s.after (.start s.impl) = s := by
  simp only [after, Task.start, List.foldl_nil, List.append_nil]

theorem after_sendMessage (s : Sys h) (t : Task h) (m : Message h) :
    s.after (t.sendMessage sends m) = (s.after t).attempt (m, t.nextSent sends) := by
  rw [after, after, attempt_with]
  simp only [Task.sendMessage, List.foldl_append, List.foldl_cons, List.foldl_nil]

theorem after_addConfigReq (s : Sys h) (t : Task h) (configType : LocConfigTypeEnum) :
    s.after (t.addConfigReq configType) =
      { s.after t with impl := t.impl.addConfigReq configType } := rfl

theorem after_configCb (s : Sys h) (t : Task h) (configType : LocConfigTypeEnum)
    (response : LocIntegrationResponse) :
    s.after (t.configCb configType response) =
      { s.after t with callbacks := (s.after t).callbacks ++ [⟨configType, response⟩] } := by
  simp only [after, Task.configCb, List.append_assoc]

end Sys

namespace Sys

@[simp] theorem attempt_lost (s : Sys h) (a : Message h × Bool) : (s.attempt a).lost = s.lost := by
  obtain ⟨m, _ | _⟩ := a <;> rfl

@[simp] theorem attempt_toClient (s : Sys h) (a : Message h × Bool) :
    (s.attempt a).toClient = s.toClient := by
  obtain ⟨m, _ | _⟩ := a <;> rfl

/-- A task does not receive, and does not lose anything. -/
theorem foldl_attempt (s : Sys h) (attempts : List (Message h × Bool)) :
    (attempts.foldl attempt s).toClient = s.toClient ∧
      (attempts.foldl attempt s).lost = s.lost := by
  induction attempts generalizing s with
  | nil => exact ⟨rfl, rfl⟩
  | cons a attempts ih =>
    obtain ⟨htoClient, hlost⟩ := ih (s.attempt a)
    exact ⟨htoClient.trans (attempt_toClient s a), hlost.trans (attempt_lost s a)⟩

@[simp] theorem after_toClient (s : Sys h) (t : Task h) : (s.after t).toClient = s.toClient :=
  (s.foldl_attempt t.attempts).1

@[simp] theorem after_lost (s : Sys h) (t : Task h) : (s.after t).lost = s.lost :=
  (s.foldl_attempt t.attempts).2

end Sys

/-! ## Messages -/

/-- A message of a request has its type, and any other is an injected location. -/
def Typed (configType : LocConfigTypeEnum) (m : Message h) : Prop :=
  match m.ticket with
  | some t => configType = t.configType
  | none => configType = .zero ∧ hasResponse m.payload = false

theorem Ticket.hasResponse_payload (t : Ticket h) : hasResponse t.payload = true :=
  (Request.hasResponse_payload t.request t.sXtraTestEnabled).mpr t.expects

theorem Sys.messageOf_typed (s : Sys h) (request : Request h) :
    Typed request.configType (s.messageOf request) := by
  unfold messageOf
  split
  · case isTrue hzero =>
    refine ⟨hzero, Bool.eq_false_iff.mpr fun hresp => ?_⟩
    exact (Request.hasResponse_payload request _).mp hresp hzero
  · exact rfl

/-- Every message is sent. -/
def allSent : Nat → Bool := fun _ => true

/-! ## Sending -/

section Sending

variable (sends : Nat → Bool)

@[simp] theorem addConfigReq_mQueuedMsg (impl : LocationIntegrationApiImpl h)
    (configType : LocConfigTypeEnum) :
    (impl.addConfigReq configType).mQueuedMsg = impl.mQueuedMsg := rfl

@[simp] theorem addConfigReq_mHalRegistered (impl : LocationIntegrationApiImpl h)
    (configType : LocConfigTypeEnum) :
    (impl.addConfigReq configType).mHalRegistered = impl.mHalRegistered := rfl

theorem LocationIntegrationApiImpl.cache_mQueuedMsg (impl : LocationIntegrationApiImpl h)
    (request : Request h) :
    (impl.cache request).mQueuedMsg = impl.mQueuedMsg ∧
      (impl.cache request).mHalRegistered = impl.mHalRegistered := by
  cases request <;> exact ⟨rfl, rfl⟩

/-- A send changes no more of the object than the counts, and is one attempt. -/
theorem Task.sendConfigMsg_registered {t : Task h} (hreg : t.impl.mHalRegistered = true)
    (configType : LocConfigTypeEnum) (m : Message h) (invokeResponseCb : Bool) :
    let t' := (t.sendConfigMsgToHalDaemon sends configType m invokeResponseCb).2
    t'.impl.mHalRegistered = true ∧ t'.impl.mQueuedMsg = t.impl.mQueuedMsg ∧
      t'.attempts = t.attempts ++ [(m, t.nextSent sends)] := by
  intro t'
  have ht' : t' = (t.sendConfigMsgToHalDaemon sends configType m invokeResponseCb).2 := rfl
  rw [sendConfigMsgToHalDaemon, if_neg (by simp [hreg])] at ht'
  dsimp only at ht'
  rw [ht']
  split
  · split <;> exact ⟨hreg, rfl, rfl⟩
  · exact ⟨hreg, rfl, rfl⟩

end Sending

/-! ## Registration -/

section Registration

variable (sends : Nat → Bool)

/-- The task that registered the client. -/
def Task.registered (impl : LocationIntegrationApiImpl h) : Task h :=
  { impl := { impl with mHalRegistered := true }
    attempts := [(.unmarked (.clientRegisterReq .locationIntegrationApi), true)]
    callbacks := [] }

theorem Task.sendClientRegMsg_start (impl : LocationIntegrationApiImpl h) :
    (Task.start impl).sendClientRegMsgToHalDaemon sends =
      if sends 0 then (true, .registered impl)
      else (false, (Task.start impl).sendMessage sends
        (.unmarked (.clientRegisterReq .locationIntegrationApi))) := by
  have hnext : (Task.start impl : Task h).nextSent sends = sends 0 := rfl
  rw [sendClientRegMsgToHalDaemon, hnext]
  by_cases hsent : sends 0 = true
  · rw [if_pos hsent]
    simp only [hsent, if_true, sendMessage, hnext]
    rfl
  · rw [if_neg hsent]
    simp only [hsent]
    rfl

/-- A registration that is not sent changes nothing. -/
theorem Sys.after_unregistered (s : Sys h) (hsent : sends 0 = false) :
    s.after ((Task.start s.impl).sendMessage sends
      (.unmarked (.clientRegisterReq .locationIntegrationApi))) = s := by
  have hnext : (Task.start s.impl : Task h).nextSent sends = false := hsent
  rw [after_sendMessage, after_start, hnext]
  simp only [attempt, Message.unmarked, Option.toList_none, List.map_nil, List.append_nil]

theorem Sys.after_registered (s : Sys h) :
    s.after (.registered s.impl) = { s with impl := { s.impl with mHalRegistered := true } } := by
  simp only [after, Task.registered, List.foldl_cons, List.foldl_nil, attempt, Message.unmarked,
    hasResponse, Bool.false_eq_true, if_false, Option.toList_none, List.append_nil]

end Registration

/-! ## Sending again -/

section Resending

variable (sends : Nat → Bool)

theorem Task.resend_cons {t : Task h} (hreg : t.impl.mHalRegistered = true)
    (c : LocConfigTypeEnum × Payload h) (config : List (LocConfigTypeEnum × Payload h)) :
    t.resend sends (c :: config) = (t.sendMessage sends (.unmarked c.2)).resend sends config := by
  have hsend : (t.sendConfigMsgToHalDaemon sends c.1 (.unmarked c.2) false).2 =
      t.sendMessage sends (.unmarked c.2) := by
    rw [sendConfigMsgToHalDaemon, if_neg (by simp [hreg])]
    rfl
  rw [resend, List.foldl_cons, hsend]
  rfl

/-- Messages that are sent again are for no request. -/
theorem Sys.after_resend (s : Sys h) {t : Task h} (hreg : t.impl.mHalRegistered = true)
    (config : List (LocConfigTypeEnum × Payload h)) :
    ∃ toDaemon, s.after (t.resend sends config) = { s.after t with toDaemon := toDaemon } ∧
      toDaemon.filterMap Message.ticket = (s.after t).toDaemon.filterMap Message.ticket := by
  induction config generalizing t with
  | nil => exact ⟨_, rfl, rfl⟩
  | cons c config ih =>
    rw [Task.resend_cons sends hreg]
    obtain ⟨toDaemon, hafter, htickets⟩ := ih (t := t.sendMessage sends (.unmarked c.2)) hreg
    rw [after_sendMessage] at hafter htickets
    refine ⟨toDaemon, hafter.trans ?_, htickets.trans ?_⟩
    · cases t.nextSent sends <;>
        simp only [attempt, Message.unmarked, Option.toList_none, List.map_nil, List.append_nil]
    · cases t.nextSent sends with
      | false => rfl
      | true =>
        simp only [attempt, Message.unmarked, List.filterMap_append]
        by_cases hresp : hasResponse c.2 = true <;> simp [hresp]

theorem Task.mem_sentPayloads_resend_of_mem {t : Task h} (hreg : t.impl.mHalRegistered = true)
    (config : List (LocConfigTypeEnum × Payload h)) {payload : Payload h}
    (hmem : payload ∈ t.sentPayloads) : payload ∈ (t.resend sends config).sentPayloads := by
  induction config generalizing t with
  | nil => exact hmem
  | cons c config ih =>
    rw [resend_cons sends hreg]
    refine ih (t := t.sendMessage sends (.unmarked c.2)) hreg ?_
    rw [sentPayloads, sendMessage, List.filter_append, List.map_append]
    exact List.mem_append_left _ hmem

theorem Task.mem_sentPayloads_resend {t : Task h} (hreg : t.impl.mHalRegistered = true)
    {config : List (LocConfigTypeEnum × Payload h)} {k : Nat} {c : LocConfigTypeEnum × Payload h}
    (hk : config[k]? = some c) (hsent : sends (t.attempts.length + k) = true) :
    c.2 ∈ (t.resend sends config).sentPayloads := by
  induction config generalizing t k with
  | nil => cases hk
  | cons c' config ih =>
    rw [resend_cons sends hreg]
    cases k with
    | zero =>
      obtain rfl : c' = c := Option.some.inj hk
      refine mem_sentPayloads_resend_of_mem sends (t := t.sendMessage sends (.unmarked c'.2)) hreg
        config ?_
      have hnext : t.nextSent sends = true := hsent
      rw [sentPayloads, sendMessage, List.filter_append, List.map_append, hnext]
      exact List.mem_append_right _ List.mem_cons_self
    | succ k =>
      refine ih (t := t.sendMessage sends (.unmarked c'.2)) hreg hk ?_
      rw [sendMessage, List.length_append, List.length_singleton, Nat.add_assoc, Nat.add_comm 1]
      exact hsent

theorem Sys.settleLost_of_nil {s : Sys h} (hlost : s.lost = []) (resent : List (Payload h)) :
    s.settleLost resent = s := by
  obtain ⟨impl, toDaemon, toClient, lost, issued, fates, callbacks, history⟩ := s
  obtain rfl : lost = [] := hlost
  simp only [settleLost, List.map_nil, List.append_nil]

end Resending

end LocationStack.Integration
