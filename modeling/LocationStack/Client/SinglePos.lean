import LocationStack.Client.Calls
import Mathlib.Logic.Function.Basic

/-! # Single positions

An application can ask for one position, of the fused engine (`getSinglePosition`) or of the
terrestrial one (`getSingleTerrestrialPosition`), and take the request back by asking again
without a position callback.  The library keeps the two callbacks of the request that is
pending; the daemon's response, a cancel and a restart of the daemon take them away.

The two kinds of request have members of their own and are cancelled in different ways.  The
ghost fields of `SinglePositions` say which calls there were and what became of them, so that
"answered exactly once" can be said of every call.
-/
namespace LocationStack.Client

open Ipc EventRun

/-- The messages that ask the daemon for a single position; `horQoS` is a `float`, as its
bits. -/
inductive PosReqMsg
  | getSingleTerrestrialPos (timeoutMsec techMask horQoS : UInt32)
  | getSinglePos (timeoutMsec horQoS : UInt32)
  deriving DecidableEq, Repr

/-- What comes of such a message: it cannot be serialized, it cannot be sent, it is sent. -/
inductive Sending
  | unserialized
  | failed
  | sent
  deriving DecidableEq, Repr

/-- Something a piece of work does.  Callbacks are known by the number of the call they were
passed to; a `responseCb` that is called without being set throws. -/
inductive PosOut
  | send (msg : PosReqMsg)
  | responseCb (cb : Option Nat) (err : LocationError)
  | positionCb (cb : Nat)
  deriving DecidableEq, Repr

/-- A `responseCb` is called if it is set. -/
def respond (cb : Option Nat) (err : LocationError) : List PosOut :=
  if cb.isSome then [.responseCb cb err] else []

/-- `mSinglePosCb` and `mSinglePosRespCb`, or `mSingleTerrestrialPosCb` and
`mSingleTerrestrialPosRespCb`. -/
structure PosRequest where
  posCb : Option Nat
  respCb : Option Nat
  deriving DecidableEq, Repr

namespace PosRequest

variable (p : PosRequest)

/-- The callbacks are saved once the message is sent. -/
def sendRequest (registered : Bool) (msg : PosReqMsg) (positionCb responseCb : Option Nat)
    (sending : Sending) : PosRequest × List PosOut :=
  if !registered then (p, respond responseCb .systemNotReady)
  else
    match sending with
    | .unserialized => (p, [])
    | .failed => (p, respond responseCb .generalFailure)
    | .sent => (⟨positionCb, responseCb⟩, [.send msg])

/-- A cancel takes the position callback away and leaves the response callback. -/
def getSingleTerrestrialPos (registered : Bool) (timeoutMsec techMask horQoS : UInt32)
    (positionCb responseCb : Option Nat) (sending : Sending) : PosRequest × List PosOut :=
  if p.posCb.isNone && positionCb.isNone then (p, respond responseCb .invalidParameter)
  else if p.posCb.isSome then
    if positionCb.isNone then ({ p with posCb := none }, respond responseCb .success)
    else (p, respond responseCb .alreadyStarted)
  else
    p.sendRequest registered (.getSingleTerrestrialPos timeoutMsec techMask horQoS) positionCb
      responseCb sending

/-- A cancel is answered, without a test whether the callback is set, and goes on as a request
without a position callback. -/
def getSinglePos (registered : Bool) (timeoutMsec horQoS : UInt32)
    (positionCb responseCb : Option Nat) (sending : Sending) : PosRequest × List PosOut :=
  let r := p.sendRequest registered (.getSinglePos timeoutMsec horQoS) positionCb responseCb
    sending
  if p.posCb.isNone && positionCb.isNone then (p, respond responseCb .success)
  else if p.posCb.isSome then
    if positionCb.isSome then (p, respond responseCb .alreadyStarted)
    else (r.1, .responseCb responseCb .success :: r.2)
  else r

/-- The response of the daemon; `reports` are the results that bring a position. -/
def onResponse (reports : LocationError → Bool) (err : LocationError) :
    PosRequest × List PosOut :=
  match p.posCb with
  | some cb =>
    (⟨none, none⟩, respond p.respCb err ++ if reports err then [.positionCb cb] else [])
  | none => (p, [])

def onSingleTerrestrialPosResp (err : LocationError) : PosRequest × List PosOut :=
  p.onResponse (· == .success) err

def onSinglePosResp (err : LocationError) : PosRequest × List PosOut :=
  p.onResponse (fun e => e == .success || e == .timeout) err

/-- What `capabilitesCallback` does to a request when the daemon has restarted. -/
def onRestart : PosRequest × List PosOut :=
  (⟨none, none⟩, respond p.respCb .systemNotReady)

/-- One of the callbacks was passed to the call. -/
def Holds (n : Nat) : Prop := p.posCb = some n ∨ p.respCb = some n

end PosRequest

/-! ## Calls and messages -/

inductive PosKind
  | terrestrial
  | single
  deriving DecidableEq, Repr

/-- The client object with the two requests, and of all calls so far, which are numbered from
1, what has become of them. -/
structure SinglePositions where
  client : LocationClientApiImpl
  request : PosKind → PosRequest
  /-- The number of calls. -/
  count : Nat
  /-- Everything that was done. -/
  outs : List PosOut
  /-- The requests that a cancel found pending. -/
  cancelled : List Nat
  /-- The calls that failed without the daemon. -/
  failed : List Nat
  /-- The calls that were passed no `responseCb`, or whose message could not be serialized. -/
  untold : List Nat

/-- `TERRESTRIAL_TECH_GTP_WWAN`. -/
def terrestrialTechGtpWwan : UInt32 := 1

/-- A `float` that is not 0. -/
def floatNonzero (x : UInt32) : Bool := x &&& 0x7FFFFFFF != 0

/-- The callback that a call passes on, known by the number of the call. -/
def given (cb : Bool) (n : Nat) : Option Nat := if cb then some n else none

namespace SinglePositions

def init (mClientId : { id : UInt32 // id ≠ 0 }) : SinglePositions :=
  ⟨.new mClientId, fun _ => ⟨none, none⟩, 0, [], [], [], []⟩

/-- The calls of the application, the responses of the daemon, and whatever else the client's
message loop does. -/
inductive Event
  | getSingleTerrestrialPosition (timeoutMsec techMask horQoS : UInt32)
      (positionCb responseCb : Bool) (sending : Sending)
  | getSinglePosition (timeoutMsec horQoS : UInt32) (positionCb responseCb : Bool)
      (sending : Sending)
  | singleTerrestrialPosResp (err : LocationError)
  | singlePosResp (err : LocationError)
  | client (e : Client.Event)

variable (s : SinglePositions)

/-- A call with parameters that are not valid is answered at once. -/
def invalidCall (responseCb : Bool) : SinglePositions :=
  { s with
    count := s.count + 1
    outs := s.outs ++ respond (given responseCb (s.count + 1)) .invalidParameter
    failed := (s.count + 1) :: s.failed
    untold := if responseCb then s.untold else (s.count + 1) :: s.untold }

/-- A request fails without the daemon when there is one already, the client is not registered
or the message is not sent; a cancel when there is nothing to cancel, or, if it is sent, as a
request does. -/
def failsLocally (kind : PosKind) (positionCb : Bool) (sending : Sending) : Bool :=
  let pending := (s.request kind).posCb.isSome
  let unsent := !s.client.mHalRegistered || sending != .sent
  match kind, positionCb with
  | _, true => pending || unsent
  | .terrestrial, false => !pending
  | .single, false => pending && unsent

/-- The call that led to `r`. -/
def call (kind : PosKind) (positionCb responseCb : Bool) (sending : Sending)
    (r : PosRequest × List PosOut) : SinglePositions :=
  let pending := (s.request kind).posCb
  { s with
    request := Function.update s.request kind r.1
    count := s.count + 1
    outs := s.outs ++ r.2
    cancelled := if positionCb then s.cancelled else pending.toList ++ s.cancelled
    failed :=
      if s.failsLocally kind positionCb sending then (s.count + 1) :: s.failed else s.failed
    untold :=
      if !responseCb || positionCb && pending.isNone && s.client.mHalRegistered &&
          sending == .unserialized then
        (s.count + 1) :: s.untold
      else s.untold }

/-- The callbacks passed on are those the application gave. -/
def getSingleTerrestrialPosition (timeoutMsec techMask horQoS : UInt32)
    (positionCb responseCb : Bool) (sending : Sending) : SinglePositions :=
  if positionCb &&
      (timeoutMsec == 0 || techMask != terrestrialTechGtpWwan || floatNonzero horQoS) then
    s.invalidCall responseCb
  else
    s.call .terrestrial positionCb responseCb sending
      ((s.request .terrestrial).getSingleTerrestrialPos s.client.mHalRegistered timeoutMsec
        terrestrialTechGtpWwan horQoS (given positionCb (s.count + 1))
        (given responseCb (s.count + 1)) sending)

/-- The response callback passed on is always set; it looks itself whether the application
gave one. -/
def getSinglePosition (timeoutMsec horQoS : UInt32) (positionCb responseCb : Bool)
    (sending : Sending) : SinglePositions :=
  if positionCb && (timeoutMsec == 0 || !floatNonzero horQoS) then s.invalidCall responseCb
  else
    s.call .single positionCb true sending
      ((s.request .single).getSinglePos s.client.mHalRegistered
        (if positionCb then timeoutMsec else 0) (if positionCb then horQoS else 0)
        (given positionCb (s.count + 1)) (some (s.count + 1)) sending)

/-- A message about the request of a kind was processed. -/
def receive (kind : PosKind) (r : PosRequest × List PosOut) : SinglePositions :=
  { s with request := Function.update s.request kind r.1, outs := s.outs ++ r.2 }

/-- Both requests fail. -/
def restart : SinglePositions :=
  let s' := s.receive .terrestrial (s.request .terrestrial).onRestart
  s'.receive .single (s'.request .single).onRestart

/-- `capabilitesCallback` of a client that was not registered fails the requests. -/
def clientStep (e : Client.Event) : SinglePositions :=
  let s' : SinglePositions := { s with client := Client.step s.client e }
  match e with
  | .receive (.capabilities _) => if s.client.mHalRegistered then s' else s'.restart
  | _ => s'

def step : Event → SinglePositions
  | .getSingleTerrestrialPosition timeoutMsec techMask horQoS positionCb responseCb sending =>
      s.getSingleTerrestrialPosition timeoutMsec techMask horQoS positionCb responseCb sending
  | .getSinglePosition timeoutMsec horQoS positionCb responseCb sending =>
      s.getSinglePosition timeoutMsec horQoS positionCb responseCb sending
  | .singleTerrestrialPosResp err =>
      s.receive .terrestrial ((s.request .terrestrial).onSingleTerrestrialPosResp err)
  | .singlePosResp err => s.receive .single ((s.request .single).onSinglePosResp err)
  | .client e => s.clientStep e

/-! ## Answers -/

/-- How often the `responseCb` of a call was called. -/
def answers (n : Nat) (outs : List PosOut) : Nat :=
  outs.countP fun
    | .responseCb cb _ => cb == some n
    | _ => false

/-- The call's request is pending. -/
def Waiting (n : Nat) : Prop := ∃ kind, (s.request kind).posCb = some n

/-- Every call is answered exactly once: never twice, and unless its request is pending, was
cancelled or could not be answered at all, at least once; and of a call that failed or was
cancelled nothing is kept. -/
structure AnsweredOnce (s : SinglePositions) : Prop where
  once : ∀ n, answers n s.outs ≤ 1
  noneLeft : ∀ n, n ∈ s.cancelled ∨ n ∈ s.failed → ∀ kind, ¬ (s.request kind).Holds n
  settled : ∀ n, 0 < n → n ≤ s.count →
    s.Waiting n ∨ n ∈ s.cancelled ∨ n ∈ s.untold ∨ 0 < answers n s.outs

/-- The condition on it.  A terrestrial request that is cancelled was made without a
`responseCb`; a fused one is cancelled by a client that is registered and can send; and the
daemon does not restart after such a cancel before another fused request. -/
def Fits : Event → Prop
  | .getSingleTerrestrialPosition _ _ _ positionCb _ _ =>
      positionCb = false → (s.request .terrestrial).posCb.isSome →
        (s.request .terrestrial).respCb = none
  | .getSinglePosition _ _ positionCb _ sending =>
      positionCb = false → (s.request .single).posCb.isSome →
        s.client.mHalRegistered ∧ sending = .sent
  | .client (.receive (.capabilities _)) =>
      s.client.mHalRegistered = false → (s.request .single).respCb.isSome →
        (s.request .single).posCb.isSome
  | _ => True

@[simp] theorem answers_nil (n : Nat) : answers n [] = 0 := rfl

@[simp] theorem answers_append (n : Nat) (outs outs' : List PosOut) :
    answers n (outs ++ outs') = answers n outs + answers n outs' := List.countP_append

@[simp] theorem answers_send (n : Nat) (msg : PosReqMsg) (outs : List PosOut) :
    answers n (.send msg :: outs) = answers n outs := by simp [answers]

@[simp] theorem answers_positionCb (n cb : Nat) (outs : List PosOut) :
    answers n (.positionCb cb :: outs) = answers n outs := by simp [answers]

@[simp] theorem answers_responseCb (n : Nat) (cb : Option Nat) (err : LocationError)
    (outs : List PosOut) :
    answers n (.responseCb cb err :: outs) = answers n outs + if cb = some n then 1 else 0 := by
  simp [answers, List.countP_cons]

@[simp] theorem answers_respond (n : Nat) (cb : Option Nat) (err : LocationError) :
    answers n (respond cb err) = if cb = some n then 1 else 0 := by
  unfold respond
  cases cb <;> simp

/-! ## What every run keeps -/

/-- Both callbacks of a pending request are those of one call, not yet answered.  What is kept
without one pending is left by a cancel: of the cancelled call where that was terrestrial, of
the cancel, which has been answered, where it was not. -/
structure Tracked (s : SinglePositions) : Prop where
  bound : ∀ kind n, (s.request kind).Holds n → n ≤ s.count
  apart : ∀ n, (s.request .terrestrial).Holds n → ¬ (s.request .single).Holds n
  fresh : ∀ n, s.count < n → answers n s.outs = 0
  listed : ∀ n, n ∈ s.cancelled ∨ n ∈ s.failed → n ≤ s.count
  waiting : ∀ kind n, (s.request kind).posCb = some n → answers n s.outs = 0 ∧
    ((s.request kind).respCb = some n ∨ ((s.request kind).respCb = none ∧ n ∈ s.untold))
  terrestrial : ∀ n, (s.request .terrestrial).posCb = none →
    (s.request .terrestrial).respCb = some n → n ∈ s.cancelled
  single : ∀ n, (s.request .single).posCb = none → (s.request .single).respCb = some n →
    0 < answers n s.outs
  settled : ∀ n, 0 < n → n ≤ s.count →
    s.Waiting n ∨ n ∈ s.cancelled ∨ n ∈ s.untold ∨ 0 < answers n s.outs

theorem init_tracked (mClientId : { id : UInt32 // id ≠ 0 }) : (init mClientId).Tracked where
  bound := by rintro kind n (h | h) <;> cases h
  apart := by rintro n (h | h) <;> cases h
  fresh := fun _ _ => rfl
  listed := by rintro n (h | h) <;> cases h
  waiting := by intro kind n h; cases h
  terrestrial := by intro n _ h; cases h
  single := by intro n _ h; cases h
  settled := fun n h0 hn => absurd hn (Nat.not_le.mpr h0)

theorem init_answeredOnce (mClientId : { id : UInt32 // id ≠ 0 }) :
    (init mClientId).AnsweredOnce where
  once := fun _ => Nat.zero_le 1
  noneLeft := by rintro n (h | h) <;> cases h
  settled := (init_tracked mClientId).settled

variable {s : SinglePositions} {kind : PosKind} {positionCb responseCb : Bool}
  {sending : Sending} {r : PosRequest × List PosOut}

theorem Tracked.fresh_not_held (h : s.Tracked) (kind : PosKind) :
    ¬ (s.request kind).Holds (s.count + 1) := fun hheld =>
  absurd (h.bound kind _ hheld) (by omega)

/-! ## Calls -/

theorem call_request_same :
    (s.call kind positionCb responseCb sending r).request kind = r.1 := by
  simp [call]

theorem call_request_of_ne {kind' : PosKind} (hne : kind' ≠ kind) :
    (s.call kind positionCb responseCb sending r).request kind' = s.request kind' := by
  simp [call, hne]

/-- The message of the call could not be serialized, or it was passed no `responseCb`. -/
def Untold (s : SinglePositions) (kind : PosKind) (positionCb responseCb : Bool)
    (sending : Sending) : Prop :=
  responseCb = false ∨ positionCb = true ∧ (s.request kind).posCb = none ∧
    s.client.mHalRegistered = true ∧ sending = .unserialized

/-- **What a call may do.**  Only its own callback is called; a request that is pending stays
as it is unless the call is a cancel; and what is kept was there or is the call's own. -/
structure CallSpec (s : SinglePositions) (kind : PosKind) (positionCb responseCb : Bool)
    (sending : Sending) (r : PosRequest × List PosOut) : Prop where
  others : ∀ m, m ≠ s.count + 1 → answers m r.2 = 0
  held : ∀ m, r.1.Holds m → (s.request kind).Holds m ∨ m = s.count + 1
  waiting : ∀ m, r.1.posCb = some m →
    ((s.request kind).posCb = some m ∧ r.1.respCb = (s.request kind).respCb) ∨
      m = s.count + 1 ∧ answers m r.2 = 0 ∧ r.1.respCb = given responseCb m
  left : ∀ m, r.1.posCb = none → r.1.respCb = some m →
    ((s.request kind).posCb = none ∧ (s.request kind).respCb = some m) ∨
      kind = .terrestrial ∧ positionCb = false ∧ (s.request kind).posCb = some m ∨
      kind = .single ∧ 0 < answers m r.2
  pending : ∀ m, (s.request kind).posCb = some m → r.1.posCb = some m ∨ positionCb = false
  self : r.1.posCb = some (s.count + 1) ∨ s.Untold kind positionCb responseCb sending ∨
    0 < answers (s.count + 1) r.2

theorem mem_cancelled_call {m : Nat} :
    m ∈ (s.call kind positionCb responseCb sending r).cancelled ↔
      positionCb = false ∧ (s.request kind).posCb = some m ∨ m ∈ s.cancelled := by
  cases positionCb <;> simp [call]

theorem mem_failed_call {m : Nat} :
    m ∈ (s.call kind positionCb responseCb sending r).failed ↔
      s.failsLocally kind positionCb sending = true ∧ m = s.count + 1 ∨ m ∈ s.failed := by
  cases hf : s.failsLocally kind positionCb sending <;> simp [call, hf]

theorem mem_untold_call {m : Nat} :
    m ∈ (s.call kind positionCb responseCb sending r).untold ↔
      s.Untold kind positionCb responseCb sending ∧ m = s.count + 1 ∨ m ∈ s.untold := by
  have hiff : s.Untold kind positionCb responseCb sending ↔
      (!responseCb || positionCb && (s.request kind).posCb.isNone && s.client.mHalRegistered &&
        sending == .unserialized) = true := by
    simp [Untold, and_assoc]
  rw [hiff]
  unfold call
  dsimp only
  split
  · rename_i hu
    simp [hu]
  · rename_i hu
    simp [hu]

theorem answers_call (m : Nat) :
    answers m (s.call kind positionCb responseCb sending r).outs =
      answers m s.outs + answers m r.2 := answers_append m s.outs r.2

/-- **A call keeps track.** -/
theorem Tracked.call (h : s.Tracked) (hr : CallSpec s kind positionCb responseCb sending r) :
    (s.call kind positionCb responseCb sending r).Tracked := by
  have hcount : (s.call kind positionCb responseCb sending r).count = s.count + 1 := rfl
  -- what a kind holds is of old or the call's own
  have hheld : ∀ kind' m, ((s.call kind positionCb responseCb sending r).request kind').Holds m →
      (s.request kind').Holds m ∨ kind' = kind ∧ m = s.count + 1 := by
    intro kind' m hm
    by_cases hk : kind' = kind
    · subst hk
      rw [call_request_same] at hm
      exact (hr.held m hm).imp_right fun heq => ⟨rfl, heq⟩
    · rw [call_request_of_ne hk] at hm
      exact .inl hm
  refine ⟨?bound, ?apart, ?fresh, ?listed, ?waiting, ?terrestrial, ?single, ?settled⟩
  case bound =>
    intro kind' m hm
    rcases hheld kind' m hm with hold | ⟨-, rfl⟩
    · exact Nat.le_succ_of_le (h.bound kind' m hold)
    · exact hcount.ge
  case apart =>
    intro m ht hs
    rcases hheld _ m ht with ht | ⟨hkt, rfl⟩ <;> rcases hheld _ _ hs with hs | ⟨hks, heq⟩
    · exact h.apart m ht hs
    · subst heq
      exact h.fresh_not_held _ ht
    · exact h.fresh_not_held _ hs
    · exact nomatch hkt.trans hks.symm
  case fresh =>
    intro m hm
    have hm' : s.count + 1 < m := hm
    rw [answers_call, h.fresh m (by omega), hr.others m (by omega)]
  case listed =>
    intro m hm
    rw [mem_cancelled_call, mem_failed_call] at hm
    rcases hm with (⟨-, hp⟩ | hc) | (⟨-, rfl⟩ | hf)
    · exact Nat.le_succ_of_le (h.bound kind m (.inl hp))
    · exact Nat.le_succ_of_le (h.listed m (.inl hc))
    · exact hcount.ge
    · exact Nat.le_succ_of_le (h.listed m (.inr hf))
  case waiting =>
    intro kind' m hm
    -- a request that was pending has not been answered by another call
    have hold : (s.request kind').posCb = some m → answers m r.2 = 0 := fun hp =>
      hr.others m fun heq => h.fresh_not_held kind' (heq ▸ .inl hp)
    by_cases hk : kind' = kind
    · subst hk
      rw [call_request_same] at hm ⊢
      rw [answers_call, mem_untold_call]
      rcases hr.waiting m hm with ⟨hp, hsame⟩ | ⟨rfl, hzero, hown⟩
      · obtain ⟨hz, hresp⟩ := h.waiting kind' m hp
        rw [hz, hold hp, hsame]
        exact ⟨rfl, hresp.imp_right fun hn => ⟨hn.1, .inr hn.2⟩⟩
      · rw [h.fresh _ (by omega), hzero, hown]
        refine ⟨rfl, ?_⟩
        cases responseCb with
        | true => exact .inl rfl
        | false => exact .inr ⟨rfl, .inl ⟨.inl rfl, rfl⟩⟩
    · rw [call_request_of_ne hk] at hm ⊢
      obtain ⟨hz, hresp⟩ := h.waiting kind' m hm
      rw [answers_call, mem_untold_call, hz, hold hm]
      exact ⟨rfl, hresp.imp_right fun hn => ⟨hn.1, .inr hn.2⟩⟩
  case terrestrial =>
    intro m hpos hresp
    rw [mem_cancelled_call]
    by_cases hk : PosKind.terrestrial = kind
    · subst hk
      rw [call_request_same] at hpos hresp
      rcases hr.left m hpos hresp with ⟨hp, hq⟩ | ⟨-, hcancel, hp⟩ | ⟨hk, -⟩
      · exact .inr (h.terrestrial m hp hq)
      · exact .inl ⟨hcancel, hp⟩
      · cases hk
    · rw [call_request_of_ne hk] at hpos hresp
      exact .inr (h.terrestrial m hpos hresp)
  case single =>
    intro m hpos hresp
    rw [answers_call]
    by_cases hk : PosKind.single = kind
    · subst hk
      rw [call_request_same] at hpos hresp
      rcases hr.left m hpos hresp with ⟨hp, hq⟩ | ⟨hk, -⟩ | ⟨-, ha⟩
      · exact Nat.add_pos_left (h.single m hp hq) _
      · cases hk
      · exact Nat.add_pos_right _ ha
    · rw [call_request_of_ne hk] at hpos hresp
      exact Nat.add_pos_left (h.single m hpos hresp) _
  case settled =>
    intro m h0 hm
    rw [answers_call, mem_cancelled_call, mem_untold_call]
    rcases Nat.lt_or_ge s.count m with hgt | hle
    · obtain rfl : m = s.count + 1 := Nat.le_antisymm hm hgt
      rcases hr.self with hp | hu | ha
      · exact .inl ⟨kind, by rw [call_request_same, hp]⟩
      · exact .inr (.inr (.inl (.inl ⟨hu, rfl⟩)))
      · exact .inr (.inr (.inr (Nat.add_pos_right _ ha)))
    · rcases h.settled m h0 hle with ⟨kind', hp⟩ | hc | hu | ha
      · by_cases hk : kind' = kind
        · subst hk
          rcases hr.pending m hp with hp' | hcancel
          · exact .inl ⟨kind', by rw [call_request_same, hp']⟩
          · exact .inr (.inl (.inl ⟨hcancel, hp⟩))
        · exact .inl ⟨kind', by rw [call_request_of_ne hk, hp]⟩
      · exact .inr (.inl (.inr hc))
      · exact .inr (.inr (.inl (.inr hu)))
      · exact .inr (.inr (.inr (Nat.add_pos_left ha _)))

/-- When a call keeps every answer the only one. -/
theorem AnsweredOnce.call_iff (hP : s.AnsweredOnce) (h : s.Tracked)
    (hr : CallSpec s kind positionCb responseCb sending r) :
    (s.call kind positionCb responseCb sending r).AnsweredOnce ↔
      answers (s.count + 1) r.2 ≤ 1 ∧
        (positionCb = false → ∀ m, (s.request kind).posCb = some m → ¬ r.1.Holds m) ∧
        (s.failsLocally kind positionCb sending = true → ¬ r.1.Holds (s.count + 1)) := by
  constructor
  · intro hP'
    refine ⟨?_, ?_, ?_⟩
    · have honce := hP'.once (s.count + 1)
      rw [answers_call] at honce
      omega
    · intro hcancel m hp hheld
      exact hP'.noneLeft m (.inl (mem_cancelled_call.mpr (.inl ⟨hcancel, hp⟩))) kind
        (by rw [call_request_same]; exact hheld)
    · intro hfails hheld
      exact hP'.noneLeft _ (.inr (mem_failed_call.mpr (.inl ⟨hfails, rfl⟩))) kind
        (by rw [call_request_same]; exact hheld)
  · rintro ⟨honce, hcancel, hfails⟩
    refine ⟨?_, ?_, (h.call hr).settled⟩
    · intro m
      rw [answers_call]
      by_cases hm : m = s.count + 1
      · rw [hm, h.fresh _ (by omega), Nat.zero_add]
        exact honce
      · rw [hr.others m hm]
        exact hP.once m
    · intro m hm kind' hheld
      rw [mem_cancelled_call, mem_failed_call] at hm
      by_cases hk : kind' = kind
      · subst hk
        rw [call_request_same] at hheld
        rcases hm with (⟨hc, hp⟩ | hc) | (⟨hf, rfl⟩ | hf)
        · exact hcancel hc m hp hheld
        · rcases hr.held m hheld with hold | rfl
          · exact hP.noneLeft m (.inl hc) kind' hold
          · exact absurd (h.listed _ (.inl hc)) (by omega)
        · exact hfails hf hheld
        · rcases hr.held m hheld with hold | rfl
          · exact hP.noneLeft m (.inr hf) kind' hold
          · exact absurd (h.listed _ (.inr hf)) (by omega)
      · rw [call_request_of_ne hk] at hheld
        rcases hm with (⟨-, hp⟩ | hc) | (⟨-, rfl⟩ | hf)
        · -- the other kind holds nothing of this one
          cases kind <;> cases kind'
          · exact hk rfl
          · exact h.apart m (.inl hp) hheld
          · exact h.apart m hheld (.inl hp)
          · exact hk rfl
        · exact hP.noneLeft m (.inl hc) kind' hheld
        · exact h.fresh_not_held kind' hheld
        · exact hP.noneLeft m (.inr hf) kind' hheld

/-! ## The two calls -/

theorem answers_given (m n : Nat) (err : LocationError) (hne : m ≠ n) :
    answers m (respond (given responseCb n) err) = 0 := by
  cases responseCb <;> simp [given, Ne.symm hne]

/-- A call that leaves its request as it is. -/
theorem CallSpec.kept (hr : r.1 = s.request kind)
    (hothers : ∀ m, m ≠ s.count + 1 → answers m r.2 = 0)
    (hself : s.Untold kind positionCb responseCb sending ∨ 0 < answers (s.count + 1) r.2) :
    CallSpec s kind positionCb responseCb sending r where
  others := hothers
  held := by
    intro m hm
    rw [hr] at hm
    exact .inl hm
  waiting := by
    intro m hm
    rw [hr] at hm ⊢
    exact .inl ⟨hm, rfl⟩
  left := by
    intro m hp hq
    rw [hr] at hp hq
    exact .inl ⟨hp, hq⟩
  pending := by
    intro m hm
    rw [hr]
    exact .inl hm
  self := .inr hself

theorem untold_or_answered (err : LocationError) :
    s.Untold kind positionCb responseCb sending ∨
      0 < answers (s.count + 1) (respond (given responseCb (s.count + 1)) err) := by
  cases responseCb with
  | true => exact .inr (by simp [given])
  | false => exact .inl (.inl rfl)

theorem CallSpec.refused (err : LocationError) :
    CallSpec s kind positionCb responseCb sending
      (s.request kind, respond (given responseCb (s.count + 1)) err) :=
  .kept rfl (fun m hm => answers_given m _ err hm) (untold_or_answered err)

/-- A request, where none is pending. -/
theorem CallSpec.sendRequest (hnone : (s.request kind).posCb = none) (msg : PosReqMsg) :
    CallSpec s kind true responseCb sending
      ((s.request kind).sendRequest s.client.mHalRegistered msg (some (s.count + 1))
        (given responseCb (s.count + 1)) sending) := by
  unfold PosRequest.sendRequest
  cases hreg : s.client.mHalRegistered with
  | false => exact .refused .systemNotReady
  | true =>
    cases sending with
    | unserialized => exact .kept rfl (fun _ _ => rfl) (.inl (.inr ⟨rfl, hnone, hreg, rfl⟩))
    | failed => exact .refused .generalFailure
    | sent =>
      refine ⟨fun m _ => by simp, ?_, ?_, ?_, ?_, .inl rfl⟩
      · rintro m (hm | hm)
        · exact .inr (Option.some_inj.mp hm).symm
        · cases responseCb with
          | true => exact .inr (Option.some_inj.mp hm).symm
          | false => cases hm
      · intro m hm
        obtain rfl : s.count + 1 = m := Option.some_inj.mp hm
        exact .inr ⟨rfl, by simp, rfl⟩
      · intro m hp
        cases hp
      · intro m hm
        rw [hnone] at hm
        cases hm

theorem answeredOnce_kept (hP : s.AnsweredOnce) (h : s.Tracked) (hr : r.1 = s.request kind)
    (hspec : CallSpec s kind positionCb responseCb sending r)
    (honce : answers (s.count + 1) r.2 ≤ 1)
    (hcancel : positionCb = false → (s.request kind).posCb = none) :
    (s.call kind positionCb responseCb sending r).AnsweredOnce := by
  rw [hP.call_iff h hspec, hr]
  refine ⟨honce, ?_, fun _ => h.fresh_not_held kind⟩
  intro hc m hm
  rw [hcancel hc] at hm
  cases hm

theorem answeredOnce_refused (hP : s.AnsweredOnce) (h : s.Tracked) (err : LocationError)
    (hcancel : positionCb = false → (s.request kind).posCb = none) :
    (s.call kind positionCb responseCb sending
      (s.request kind, respond (given responseCb (s.count + 1)) err)).AnsweredOnce := by
  refine answeredOnce_kept hP h rfl (.refused err) ?_ hcancel
  cases responseCb <;> simp [given]

theorem answeredOnce_sendRequest (hP : s.AnsweredOnce) (h : s.Tracked)
    (hnone : (s.request kind).posCb = none) (msg : PosReqMsg) :
    (s.call kind true responseCb sending
      ((s.request kind).sendRequest s.client.mHalRegistered msg (some (s.count + 1))
        (given responseCb (s.count + 1)) sending)).AnsweredOnce := by
  have hspec : CallSpec s kind true responseCb sending _ := .sendRequest hnone msg
  unfold PosRequest.sendRequest at hspec ⊢
  cases hreg : s.client.mHalRegistered with
  | false => exact answeredOnce_refused hP h .systemNotReady nofun
  | true =>
    rw [hreg] at hspec
    cases sending with
    | unserialized => exact answeredOnce_kept hP h rfl hspec (Nat.zero_le 1) nofun
    | failed => exact answeredOnce_refused hP h .generalFailure nofun
    | sent =>
      refine (hP.call_iff h hspec).mpr ⟨by simp, nofun, fun hfails => ?_⟩
      simp [failsLocally, hnone, hreg] at hfails

theorem CallSpec.getSingleTerrestrialPos (h : s.Tracked)
    (timeoutMsec techMask horQoS : UInt32) :
    CallSpec s .terrestrial positionCb responseCb sending
      ((s.request .terrestrial).getSingleTerrestrialPos s.client.mHalRegistered timeoutMsec
        techMask horQoS (given positionCb (s.count + 1)) (given responseCb (s.count + 1))
        sending) := by
  unfold PosRequest.getSingleTerrestrialPos
  cases hpos : (s.request .terrestrial).posCb with
  | none =>
    cases positionCb with
    | false => exact .refused .invalidParameter
    | true => exact .sendRequest hpos _
  | some k =>
    cases positionCb with
    | true => exact .refused .alreadyStarted
    | false =>
      -- what the request leaves is its response callback
      refine ⟨fun m hm => answers_given m _ .success hm, ?_, nofun, ?_, fun m _ => .inr rfl, ?_⟩
      · rintro m (hm | hm)
        · cases hm
        · exact .inl (.inr hm)
      · intro m _ hresp
        have hresp' : (s.request .terrestrial).respCb = some m := hresp
        rcases (h.waiting _ k hpos).2 with hk | ⟨hk, -⟩
        · rw [hk] at hresp'
          rw [hpos]
          exact .inr (.inl ⟨rfl, rfl, hresp'⟩)
        · rw [hk] at hresp'
          cases hresp'
      · exact .inr (untold_or_answered .success)

/-- A fused cancel that is sent leaves the cancel's own response callback. -/
theorem CallSpec.cancelled (msg : PosReqMsg) :
    CallSpec s .single false true sending
      (⟨none, some (s.count + 1)⟩, [.responseCb (some (s.count + 1)) .success, .send msg]) where
  others := by
    intro m hm
    simp [Ne.symm hm]
  held := by
    rintro m (hm | hm)
    · cases hm
    · exact .inr (Option.some_inj.mp hm).symm
  waiting := nofun
  left := by
    intro m _ hm
    obtain rfl : s.count + 1 = m := Option.some_inj.mp hm
    exact .inr (.inr ⟨rfl, by simp⟩)
  pending := fun m _ => .inr rfl
  self := .inr (.inr (by simp))

/-- One that is not sent leaves the request. -/
theorem CallSpec.cancelLost (outs : List PosOut)
    (hothers : ∀ m, m ≠ s.count + 1 → answers m outs = 0) :
    CallSpec s .single false true sending
      (s.request .single, .responseCb (some (s.count + 1)) .success :: outs) := by
  refine .kept rfl (fun m hm => ?_) (.inr ?_)
  · simp [hothers m hm, Ne.symm hm]
  · simp

theorem CallSpec.getSinglePos (timeoutMsec horQoS : UInt32) :
    CallSpec s .single positionCb true sending
      ((s.request .single).getSinglePos s.client.mHalRegistered timeoutMsec horQoS
        (given positionCb (s.count + 1)) (some (s.count + 1)) sending) := by
  unfold PosRequest.getSinglePos
  cases hpos : (s.request .single).posCb with
  | none =>
    cases positionCb with
    | false => exact .refused .success
    | true => exact .sendRequest hpos _
  | some k =>
    cases positionCb with
    | true => exact .refused .alreadyStarted
    | false =>
      unfold PosRequest.sendRequest
      cases s.client.mHalRegistered with
      | false => exact .cancelLost _ fun m hm => by simp [Ne.symm hm]
      | true =>
        cases sending with
        | unserialized => exact .cancelLost _ fun m _ => rfl
        | failed => exact .cancelLost _ fun m hm => by simp [Ne.symm hm]
        | sent => exact .cancelled _

/-- **A terrestrial call.**  Only a cancel of a request that was passed a `responseCb` leaves
something behind. -/
theorem answeredOnce_getSingleTerrestrialPos (hP : s.AnsweredOnce) (h : s.Tracked)
    (timeoutMsec techMask horQoS : UInt32) :
    (s.call .terrestrial positionCb responseCb sending
      ((s.request .terrestrial).getSingleTerrestrialPos s.client.mHalRegistered timeoutMsec
        techMask horQoS (given positionCb (s.count + 1)) (given responseCb (s.count + 1))
        sending)).AnsweredOnce ↔
      (positionCb = false → (s.request .terrestrial).posCb.isSome →
        (s.request .terrestrial).respCb = none) := by
  have hspec : CallSpec s .terrestrial positionCb responseCb sending _ :=
    .getSingleTerrestrialPos h timeoutMsec techMask horQoS
  unfold PosRequest.getSingleTerrestrialPos at hspec ⊢
  cases hpos : (s.request .terrestrial).posCb with
  | none =>
    refine iff_of_true ?_ nofun
    cases positionCb with
    | false => exact answeredOnce_refused hP h .invalidParameter fun _ => hpos
    | true => exact answeredOnce_sendRequest hP h hpos _
  | some k =>
    cases positionCb with
    | true => exact iff_of_true (answeredOnce_refused hP h .alreadyStarted nofun) nofun
    | false =>
      rw [hpos] at hspec
      refine (hP.call_iff h hspec).trans ⟨?_, ?_⟩
      · rintro ⟨-, hcancel, -⟩ - -
        have hk : (s.request .terrestrial).respCb ≠ some k := fun hresp =>
          hcancel rfl k hpos (.inr hresp)
        exact ((h.waiting _ k hpos).2.resolve_left hk).1
      · intro hnone
        have hresp : (s.request .terrestrial).respCb = none := hnone rfl rfl
        have hempty : ∀ m, ¬ (⟨none, (s.request .terrestrial).respCb⟩ : PosRequest).Holds m := by
          rintro m (hm | hm)
          · cases hm
          · cases hresp.symm.trans hm
        refine ⟨?_, fun _ m _ => hempty m, fun _ => hempty _⟩
        show answers _ (respond _ _) ≤ 1
        cases responseCb <;> simp [given]

/-- **A fused call.**  A cancel answers twice or leaves the request it takes back, unless it is
sent. -/
theorem answeredOnce_getSinglePos (hP : s.AnsweredOnce) (h : s.Tracked)
    (timeoutMsec horQoS : UInt32) :
    (s.call .single positionCb true sending
      ((s.request .single).getSinglePos s.client.mHalRegistered timeoutMsec horQoS
        (given positionCb (s.count + 1)) (some (s.count + 1)) sending)).AnsweredOnce ↔
      (positionCb = false → (s.request .single).posCb.isSome →
        s.client.mHalRegistered ∧ sending = .sent) := by
  have hspec : CallSpec s .single positionCb true sending _ := .getSinglePos timeoutMsec horQoS
  unfold PosRequest.getSinglePos at hspec ⊢
  cases hpos : (s.request .single).posCb with
  | none =>
    refine iff_of_true ?_ nofun
    cases positionCb with
    | false => exact answeredOnce_refused hP h .success fun _ => hpos
    | true => exact answeredOnce_sendRequest hP h hpos _
  | some k =>
    cases positionCb with
    | true => exact iff_of_true (answeredOnce_refused hP h .alreadyStarted nofun) nofun
    | false =>
      rw [hpos] at hspec
      refine (hP.call_iff h hspec).trans ?_
      clear hspec
      unfold PosRequest.sendRequest
      cases hreg : s.client.mHalRegistered with
      | false =>
        refine iff_of_false ?_ fun hsent => nomatch (hsent rfl rfl).1
        rintro ⟨htwice, -⟩
        simp [given] at htwice
      | true =>
        cases sending with
        | unserialized =>
          refine iff_of_false ?_ fun hsent => nomatch (hsent rfl rfl).2
          rintro ⟨-, hcancel, -⟩
          exact hcancel rfl k hpos (.inl hpos)
        | failed =>
          refine iff_of_false ?_ fun hsent => nomatch (hsent rfl rfl).2
          rintro ⟨htwice, -⟩
          simp [given] at htwice
        | sent =>
          refine iff_of_true ⟨by simp [given], ?_, ?_⟩ fun _ _ => ⟨rfl, rfl⟩
          · rintro - m hm (hheld | hheld)
            · cases hheld
            · obtain rfl : s.count + 1 = m := Option.some_inj.mp hheld
              exact h.fresh_not_held .single (.inl hm)
          · intro hfails
            simp [failsLocally, hreg] at hfails

/-- A call with parameters that are not valid is like one that is refused. -/
theorem invalidCall_eq (s : SinglePositions) (responseCb : Bool) :
    s.invalidCall responseCb = s.call .single true responseCb .failed
      (s.request .single, respond (given responseCb (s.count + 1)) .invalidParameter) := by
  cases responseCb <;> simp [invalidCall, call, failsLocally]

/-! ## Messages -/

theorem receive_request_same : (s.receive kind r).request kind = r.1 := by simp [receive]

theorem receive_request_of_ne {kind' : PosKind} (hne : kind' ≠ kind) :
    (s.receive kind r).request kind' = s.request kind' := by
  simp [receive, hne]

/-- A message that ends a request: its response callback is called and both are gone. -/
structure Ends (p : PosRequest) (r : PosRequest × List PosOut) : Prop where
  cleared : r.1 = ⟨none, none⟩
  answered : ∀ m, answers m r.2 = if p.respCb = some m then 1 else 0

theorem ends_onRestart (p : PosRequest) : Ends p p.onRestart :=
  ⟨rfl, fun m => answers_respond m _ _⟩

theorem ends_onResponse (p : PosRequest) (reports : LocationError → Bool)
    (err : LocationError) (hpos : p.posCb.isSome) : Ends p (p.onResponse reports err) := by
  obtain ⟨cb, hcb⟩ := Option.isSome_iff_exists.mp hpos
  unfold PosRequest.onResponse
  rw [hcb]
  refine ⟨rfl, fun m => ?_⟩
  cases reports err <;> simp

theorem Tracked.ends (h : s.Tracked) (hr : Ends (s.request kind) r) :
    (s.receive kind r).Tracked := by
  obtain ⟨hcleared, hanswered⟩ := hr
  have hans : ∀ m, answers m (s.receive kind r).outs =
      answers m s.outs + if (s.request kind).respCb = some m then 1 else 0 := by
    intro m
    rw [← hanswered m]
    exact answers_append m s.outs r.2
  -- the other kind is as it was, and this one holds nothing
  have hheld : ∀ kind' m, ((s.receive kind r).request kind').Holds m →
      kind' ≠ kind ∧ (s.request kind').Holds m := by
    intro kind' m hm
    by_cases hk : kind' = kind
    · subst hk
      rw [receive_request_same, hcleared] at hm
      rcases hm with hm | hm <;> cases hm
    · rw [receive_request_of_ne hk] at hm
      exact ⟨hk, hm⟩
  have hkind : ∀ kind' m, ((s.receive kind r).request kind').Holds m →
      (s.receive kind r).request kind' = s.request kind' := fun kind' m hm =>
    receive_request_of_ne (hheld kind' m hm).1
  refine ⟨?_, ?_, ?_, h.listed, ?_, ?_, ?_, ?_⟩
  · exact fun kind' m hm => h.bound kind' m (hheld kind' m hm).2
  · exact fun m ht hs => h.apart m (hheld _ m ht).2 (hheld _ m hs).2
  · intro m hm
    have hm' : s.count < m := hm
    rw [hans, h.fresh m hm', if_neg fun hresp => absurd (h.bound kind m (.inr hresp)) (by omega)]
  · intro kind' m hm
    obtain ⟨hk, hold⟩ := hheld kind' m (.inl hm)
    have hsame := hkind kind' m (.inl hm)
    rw [hsame] at hm ⊢
    obtain ⟨hz, hresp⟩ := h.waiting kind' m hm
    refine ⟨?_, hresp⟩
    rw [hans, hz, if_neg]
    intro hother
    cases kind <;> cases kind'
    · exact hk rfl
    · exact h.apart m (.inr hother) hold
    · exact h.apart m hold (.inr hother)
    · exact hk rfl
  · intro m hpos hresp
    rw [hkind _ m (.inr hresp)] at hpos hresp
    exact h.terrestrial m hpos hresp
  · intro m hpos hresp
    rw [hkind _ m (.inr hresp)] at hpos hresp
    rw [hans]
    exact Nat.add_pos_left (h.single m hpos hresp) _
  · intro m h0 hm
    rw [hans]
    rcases h.settled m h0 hm with ⟨kind', hp⟩ | hc | hu | ha
    · by_cases hk : kind' = kind
      · subst hk
        rcases (h.waiting kind' m hp).2 with hresp | ⟨-, hu⟩
        · exact .inr (.inr (.inr (by simp [hresp])))
        · exact .inr (.inr (.inl hu))
      · exact .inl ⟨kind', by rw [receive_request_of_ne hk, hp]⟩
    · exact .inr (.inl hc)
    · exact .inr (.inr (.inl hu))
    · exact .inr (.inr (.inr (Nat.add_pos_left ha _)))

/-- An end answers again what has been answered. -/
theorem AnsweredOnce.ends_iff (hP : s.AnsweredOnce) (h : s.Tracked)
    (hr : Ends (s.request kind) r) :
    (s.receive kind r).AnsweredOnce ↔
      ∀ m, (s.request kind).respCb = some m → answers m s.outs = 0 := by
  have hans : ∀ m, answers m (s.receive kind r).outs =
      answers m s.outs + if (s.request kind).respCb = some m then 1 else 0 := by
    intro m
    rw [← hr.answered m]
    exact answers_append m s.outs r.2
  constructor
  · intro hP' m hm
    have honce := hP'.once m
    rw [hans, if_pos hm] at honce
    omega
  · intro hzero
    refine ⟨?_, ?_, (h.ends hr).settled⟩
    · intro m
      rw [hans]
      by_cases hm : (s.request kind).respCb = some m
      · rw [hzero m hm, if_pos hm]
      · rw [if_neg hm]
        exact hP.once m
    · intro m hm kind' hheld
      by_cases hk : kind' = kind
      · subst hk
        rw [receive_request_same, hr.cleared] at hheld
        rcases hheld with hheld | hheld <;> cases hheld
      · rw [receive_request_of_ne hk] at hheld
        exact hP.noneLeft m hm kind' hheld

/-- A pending request whose response callback is set has one that was not called. -/
theorem Tracked.unanswered (h : s.Tracked) (hpos : (s.request kind).posCb.isSome) {m : Nat}
    (hm : (s.request kind).respCb = some m) : answers m s.outs = 0 := by
  obtain ⟨k, hk⟩ := Option.isSome_iff_exists.mp hpos
  obtain ⟨hz, hresp | ⟨hnone, -⟩⟩ := h.waiting kind k hk
  · obtain rfl : k = m := Option.some_inj.mp (hresp.symm.trans hm)
    exact hz
  · cases hnone.symm.trans hm

theorem receive_nothing (s : SinglePositions) (kind : PosKind) :
    s.receive kind (s.request kind, []) = s := by simp [receive]

theorem onResponse_ends_or (p : PosRequest) (reports : LocationError → Bool)
    (err : LocationError) :
    p.posCb.isSome ∧ Ends p (p.onResponse reports err) ∨ p.onResponse reports err = (p, []) := by
  cases hpos : p.posCb with
  | none => exact .inr (by simp [PosRequest.onResponse, hpos])
  | some k => exact .inl ⟨rfl, ends_onResponse p reports err (by simp [hpos])⟩

theorem Tracked.response (h : s.Tracked) (reports : LocationError → Bool)
    (err : LocationError) :
    (s.receive kind ((s.request kind).onResponse reports err)).Tracked := by
  rcases onResponse_ends_or (s.request kind) reports err with ⟨-, hr⟩ | hr
  · exact h.ends hr
  · rw [hr, receive_nothing]
    exact h

/-- The daemon's response to a pending request is its only answer. -/
theorem AnsweredOnce.response (hP : s.AnsweredOnce) (h : s.Tracked)
    (reports : LocationError → Bool) (err : LocationError) :
    (s.receive kind ((s.request kind).onResponse reports err)).AnsweredOnce := by
  rcases onResponse_ends_or (s.request kind) reports err with ⟨hpos, hr⟩ | hr
  · exact (hP.ends_iff h hr).mpr fun m hm => h.unanswered hpos hm
  · rw [hr, receive_nothing]
    exact hP

theorem Tracked.withClient (h : s.Tracked) (c : LocationClientApiImpl) :
    ({ s with client := c } : SinglePositions).Tracked :=
  ⟨h.bound, h.apart, h.fresh, h.listed, h.waiting, h.terrestrial, h.single, h.settled⟩

theorem AnsweredOnce.withClient (hP : s.AnsweredOnce) (c : LocationClientApiImpl) :
    ({ s with client := c } : SinglePositions).AnsweredOnce :=
  ⟨hP.once, hP.noneLeft, hP.settled⟩

theorem Tracked.restart (h : s.Tracked) : s.restart.Tracked :=
  (h.ends (ends_onRestart _)).ends (ends_onRestart _)

/-- A restart answers again a fused cancel whose callback is still there. -/
theorem AnsweredOnce.restart_iff (hP : s.AnsweredOnce) (h : s.Tracked) :
    s.restart.AnsweredOnce ↔
      ((s.request .single).respCb.isSome → (s.request .single).posCb.isSome) := by
  have hends := ends_onRestart (s.request .terrestrial)
  have h' := h.ends hends
  have hP' : (s.receive .terrestrial (s.request .terrestrial).onRestart).AnsweredOnce := by
    refine (hP.ends_iff h hends).mpr fun m hm => ?_
    cases hpos : (s.request .terrestrial).posCb with
    | some k => exact h.unanswered (by simp [hpos]) hm
    | none =>
      exact absurd (.inr hm) (hP.noneLeft m (.inl (h.terrestrial m hpos hm)) .terrestrial)
  refine (hP'.ends_iff h' (ends_onRestart _)).trans ?_
  have hsame : (s.receive .terrestrial (s.request .terrestrial).onRestart).request .single =
      s.request .single := receive_request_of_ne nofun
  constructor
  · intro hzero hresp
    obtain ⟨m, hm⟩ := Option.isSome_iff_exists.mp hresp
    have hz := hzero m (by rw [hsame]; exact hm)
    by_contra hpos
    have hpos' : (s.request .single).posCb = none := by simpa using hpos
    have ha := h'.single m (by rw [hsame]; exact hpos') (by rw [hsame]; exact hm)
    omega
  · intro hpos m hm
    refine h'.unanswered ?_ hm
    rw [hsame] at hm ⊢
    exact hpos (by simp [hm])

theorem clientStep_eq (s : SinglePositions) (e : Client.Event) :
    s.clientStep e = { s with client := Client.step s.client e } ∨
      (∃ mask, e = .receive (.capabilities mask)) ∧ s.client.mHalRegistered = false ∧
        s.clientStep e =
          ({ s with client := Client.step s.client e } : SinglePositions).restart := by
  cases e with
  | call a => exact .inl rfl
  | receive msg =>
    cases msg with
    | capabilities mask =>
      cases hreg : s.client.mHalRegistered with
      | true => exact .inl (by simp [clientStep, hreg])
      | false => exact .inr ⟨⟨mask, rfl⟩, rfl, by simp [clientStep, hreg]⟩
    | halReady => exact .inl rfl
    | genericResp msgId err => exact .inl rfl
    | collectiveResp msgId resp => exact .inl rfl
    | geofenceBreach ids => exact .inl rfl

/-! ## Runs -/

theorem step_tracked (s : SinglePositions) (e : Event) (h : s.Tracked) : (s.step e).Tracked := by
  cases e with
  | getSingleTerrestrialPosition timeoutMsec techMask horQoS positionCb responseCb sending =>
    simp only [step, getSingleTerrestrialPosition]
    split
    · rw [invalidCall_eq]
      exact h.call (.refused _)
    · exact h.call (.getSingleTerrestrialPos h ..)
  | getSinglePosition timeoutMsec horQoS positionCb responseCb sending =>
    simp only [step, getSinglePosition]
    split
    · rw [invalidCall_eq]
      exact h.call (.refused _)
    · exact h.call (.getSinglePos ..)
  | singleTerrestrialPosResp err => exact h.response _ err
  | singlePosResp err => exact h.response _ err
  | client e =>
    rcases s.clientStep_eq e with heq | ⟨-, -, heq⟩
    · rw [step, heq]
      exact h.withClient _
    · rw [step, heq]
      exact (h.withClient _).restart

/-- **One step.** -/
theorem step_answeredOnce_iff (s : SinglePositions) (e : Event) (h : s.Tracked)
    (hP : s.AnsweredOnce) : (s.step e).AnsweredOnce ↔ s.Fits e := by
  cases e with
  | getSingleTerrestrialPosition timeoutMsec techMask horQoS positionCb responseCb sending =>
    simp only [step, getSingleTerrestrialPosition, Fits]
    split
    · rename_i hinvalid
      rw [invalidCall_eq]
      refine iff_of_true (answeredOnce_refused hP h _ nofun) fun hcancel => ?_
      simp [hcancel] at hinvalid
    · exact answeredOnce_getSingleTerrestrialPos hP h ..
  | getSinglePosition timeoutMsec horQoS positionCb responseCb sending =>
    simp only [step, getSinglePosition, Fits]
    split
    · rename_i hinvalid
      rw [invalidCall_eq]
      refine iff_of_true (answeredOnce_refused hP h _ nofun) fun hcancel => ?_
      simp [hcancel] at hinvalid
    · exact answeredOnce_getSinglePos hP h ..
  | singleTerrestrialPosResp err => exact iff_of_true (hP.response h _ err) trivial
  | singlePosResp err => exact iff_of_true (hP.response h _ err) trivial
  | client e =>
    rcases s.clientStep_eq e with heq | ⟨⟨mask, rfl⟩, hreg, heq⟩
    · rw [step, heq]
      refine iff_of_true (hP.withClient _) ?_
      cases e with
      | call a => trivial
      | receive msg =>
        cases msg with
        | capabilities mask =>
          intro hreg
          have hresp : (s.clientStep (.receive (.capabilities mask))).request .single =
            s.request .single := by rw [heq]
          rw [clientStep, hreg] at hresp
          have hnone : s.request .single = ⟨none, none⟩ := by
            rw [← hresp]
            exact receive_request_same
          simp [hnone]
        | halReady => trivial
        | genericResp msgId err => trivial
        | collectiveResp msgId resp => trivial
        | geofenceBreach ids => trivial
    · rw [step, heq]
      exact ((hP.withClient _).restart_iff (h.withClient _)).trans
        ⟨fun hfit _ => hfit, fun hfit => hfit hreg⟩

/-- **Single positions, over every run.**  Whatever the order of requests, cancels, responses
and restarts, every call is answered exactly once throughout if and only if each step meets
`Fits`. -/
theorem answered_once_iff (mClientId : { id : UInt32 // id ≠ 0 }) (es : List Event) :
    Throughout step AnsweredOnce (init mClientId) es ↔ Meets step Fits (init mClientId) es :=
  throughout_iff_meets step_tracked step_answeredOnce_iff (init_tracked mClientId)
    (init_answeredOnce mClientId)

/-- A registered client asks for a fused position and takes the request back; the daemon
restarts. -/
def cancelThenRestart : List Event :=
  [.client (.receive (.capabilities 0)),
    .getSinglePosition 1000 0x41200000 true true .sent,
    .getSinglePosition 0 0 false true .sent,
    .client (.receive .halReady),
    .client (.receive (.capabilities 0))]

/-- **The defect.**  The cancel is told that it succeeded and then that the system is not
ready. -/
theorem cancel_answered_twice :
    ¬ Throughout step AnsweredOnce (init ⟨1, by decide⟩) cancelThenRestart := by
  intro h
  have honce := h.last.once 2
  exact absurd honce (by decide)

end SinglePositions

end LocationStack.Client
