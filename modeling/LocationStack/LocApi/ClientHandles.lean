import LocationStack.Lib.EventRun
import Mathlib.Logic.Function.Basic
import Mathlib.Tactic.Common

/-! # Handles of the clients of the modem

A handle is the address of what is kept for a client, and the framework of the modem is given that
address as well, when a client is made: it comes back with each indication and each error.  So
memory must not be freed that the framework has the address of, and a callback must be called for
the client that it belongs to, while clients are opened and closed by several threads, and
indications arrive at any time, also in the middle of an open.

A handle is kept in a variable, and the variable belongs to a thread: while a client is opened, its
thread does nothing else.  An open is taken step by step; what the framework does by itself, a
request, and a close are steps of their own.
-/
namespace LocationStack.LocApi.Handles

open EventRun Function

/-! ## Data -/

/-- The two kinds of indications, and errors. -/
inductive Kind
  | event | resp | error
  deriving DecidableEq, Repr

/-- `locClientCallbacksType`; `sized` says whether its size is the one that it should be. -/
structure Callbacks where
  sized : Bool
  eventIndCb : Option Nat
  respIndCb : Option Nat
  errorCb : Option Nat
  deriving DecidableEq, Repr

/-- What a client is opened with. -/
structure OpenArgs where
  eventRegMask : BitVec 64
  pLocClientCallbacks : Option Callbacks
  pClientCookie : Option Nat
  deriving DecidableEq, Repr

/-- `locClientCallbackDataType`; what is null is `none`. -/
structure CallbackData where
  pClientCookie : Option Nat
  userHandle : Option Nat
  eventCallback : Option Nat
  respCallback : Option Nat
  errorCallback : Option Nat
  eventRegMask : BitVec 64
  pMe : Option Nat
  deriving DecidableEq, Repr

def CallbackData.zero : CallbackData := ⟨none, none, none, none, none, 0, none⟩

/-- A client of the framework: the address that comes with indications, and the one that comes with
errors once a callback for errors is registered. -/
structure QmiClient where
  indCbData : Nat
  errCbData : Option Nat
  deriving DecidableEq, Repr

/-- How far an open has come. -/
inductive Stage
  | start
  /-- There is a client of the framework. -/
  | connecting (pCallbackData userHandle : Nat)
  /-- There is a handle. -/
  | connected (pCallbackData : Nat)
  /-- The events are registered, and `n` fields are filled in. -/
  | filling (pCallbackData n : Nat)
  deriving DecidableEq, Repr

/-- An open that has not returned. -/
structure Opening where
  args : OpenArgs
  tries : Nat
  stage : Stage
  deriving DecidableEq, Repr

/-! ## Who a client belongs to -/

inductive Phase
  | connecting
  | connected
  /-- The open failed, and so did the release of the client. -/
  | abandoned
  | filled (n : Nat)
  deriving DecidableEq, Repr

/-- The open that memory was allocated for. -/
structure Owner where
  args : OpenArgs
  userHandle : Nat
  pLocClientHandle : Nat
  phase : Phase
  deriving DecidableEq, Repr

/-- A callback is called; `owner` and `opening` are what is known of its client then. -/
structure CallbackCall where
  kind : Kind
  callback : Nat
  handle : Nat
  msgId : Option UInt32
  pClientCookie : Option Nat
  owner : Option Owner
  opening : Bool
  deriving DecidableEq, Repr

/-- The state; beside it are who owns what is allocated, the events that a client of the framework
registered last, the callbacks that were called, and whether freed memory was used. -/
structure State where
  heap : Nat → Option CallbackData
  clients : Nat → Option QmiClient
  vars : Nat → Option Nat
  opening : Nat → Option Opening
  owner : Nat → Option Owner
  acked : Nat → BitVec 64
  calls : List CallbackCall
  usedFreed : Bool

def State.init : State where
  heap := fun _ => none
  clients := fun _ => none
  vars := fun _ => none
  opening := fun _ => none
  owner := fun _ => none
  acked := fun _ => 0
  calls := []
  usedFreed := false

/-! ## Requests -/

/-- The ids of `locClientEventIndTable`. -/
def locClientEventIndTable : List UInt32 :=
  [0x24, 0x25, 0x26, 0x27, 0x28, 0x29, 0x2a, 0x2b, 0x2c, 0x2d, 0x2e, 0x2f, 0x30, 0x31, 0x60,
    0x61, 0x62, 0x80, 0x6d, 0x6e, 0x7c, 0x78, 0x77, 0x81, 0x8c, 0x86, 0x87, 0x90, 0x91, 0x93,
    0x97, 0x98, 0x9c, 0xa3, 0xa4, 0xa5, 0xac, 0xb3, 0xc0, 0xc3, 0xc5, 0xc6, 0xc7, 0xc8, 0xc9,
    0xcd, 0xbe, 0xce, 0xcf, 0xd6, 0xe2, 0xe4, 0xbb, 0xe6, 0xb9, 0xea]

/-- The ids of `locClientRespIndTable`. -/
def locClientRespIndTable : List UInt32 :=
  [0x32, 0x33, 0x34, 0x35, 0x36, 0x37, 0x38, 0x39, 0x3a, 0x3b, 0x3c, 0x3d, 0x3e, 0x3f, 0x40,
    0x41, 0x42, 0x43, 0x44, 0x9a, 0x9b, 0x45, 0x46, 0x47, 0x48, 0x49, 0x4a, 0x4b, 0x4c, 0x4d,
    0x4e, 0x4f, 0x50, 0x51, 0x52, 0x53, 0x54, 0x55, 0x56, 0x57, 0x58, 0x59, 0x5a, 0x5b, 0x5c,
    0x5d, 0x5e, 0x5f, 0x63, 0x64, 0x65, 0x66, 0x67, 0x96, 0x68, 0x69, 0x6a, 0x6b, 0x6c, 0x6f,
    0x70, 0x71, 0x72, 0x7d, 0x76, 0x7a, 0x75, 0x78, 0x77, 0x79, 0x7b, 0x85, 0x82, 0x7e, 0x7f,
    0x84, 0x83, 0x8d, 0x8e, 0x8f, 0x88, 0x92, 0x95, 0x99, 0x9d, 0x9e, 0x9f, 0xa0, 0xa1, 0xa2,
    0xa9, 0xa6, 0xa7, 0xa8, 0xad, 0xae, 0xb0, 0xb1, 0xb2, 0xb4, 0xb5, 0xc4, 0xb6, 0xba, 0xb7,
    0xb8, 0xbf, 0xca, 0xcb, 0xcc, 0xd0, 0xd1, 0xd2, 0xd3, 0xd4, 0xd5, 0xd7, 0xd8, 0xe0, 0xe1,
    0xe3, 0xe7, 0xe8, 0xe9, 0xeb, 0xec, 0xed, 0xee, 0xef]

/-- The requests of `validateRequest` that have a payload. -/
def requestsWithPayload : List UInt32 :=
  [0x20, 0x21, 0x22, 0x23, 0x34, 0x35, 0x38, 0x39, 0x3a, 0x3c, 0x3e, 0x40, 0x42, 0x44, 0x9a,
    0x9b, 0x45, 0x47, 0x48, 0x4a, 0x4c, 0x4d, 0x4e, 0x4f, 0x51, 0x53, 0x54, 0x55, 0x56, 0x59,
    0x58, 0x5a, 0x5c, 0x5d, 0x5e, 0x5f, 0x63, 0x64, 0x65, 0x66, 0x67, 0x96, 0x68, 0x69, 0x6a,
    0x6b, 0x6f, 0x70, 0x71, 0x72, 0x7d, 0x75, 0x76, 0x79, 0x7a, 0x7b, 0x85, 0x82, 0x7e, 0x7f,
    0x84, 0x83, 0x8d, 0x8e, 0x8f, 0x88, 0x92, 0x95, 0x99, 0x9d, 0x9e, 0x9f, 0xa0, 0xa1, 0xa2,
    0xa9, 0xa6, 0xa7, 0xa8, 0xad, 0xae, 0xaf, 0xb1, 0xb4, 0xb5, 0xb6, 0xb8, 0xc4, 0xca, 0xcb,
    0xcc, 0xd0, 0xd1, 0xd3, 0xd4, 0xd7, 0xd8, 0xe0, 0xe3, 0xe5, 0xe7, 0xe9, 0xeb, 0xec, 0xed]

/-- Those that have none. -/
def requestsWithoutPayload : List UInt32 :=
  [0x32, 0x33, 0x36, 0x37, 0x3b, 0x3d, 0x3f, 0x41, 0x43, 0x46, 0x49, 0x4b, 0x50, 0x52, 0x57,
    0x5b, 0x6c, 0x1e, 0x1f, 0xb2, 0xb7, 0xbf, 0xd2, 0xd5, 0xe1, 0xee]

/-- `validateRequest`, which says whether there is a payload. -/
def validateRequest (reqId : UInt32) : Option Bool :=
  if reqId ∈ requestsWithPayload then some true
  else if reqId ∈ requestsWithoutPayload then some false
  else none

/-- `QMI_LOC_REG_EVENTS_REQ_V02` -/
def regEventsReq : UInt32 := 0x21

/-- `QMI_ERR_…`, as far as they are told apart. -/
inductive QmiErr
  | malformedMsg | invalidArg | deviceInUse | notSupported | invalidMessageId | sessionOwnership
  | other
  deriving DecidableEq, Repr

/-- `locClientStatusEnumType` -/
inductive Status
  | success | failureInternal | failureInvalidParameter | failureInvalidHandle
  | failureEngineBusy | failureUnsupported | failureInvalidMessageId | failurePhoneOffline
  deriving DecidableEq, Repr

/-- What `qmi_client_send_msg_sync` comes back with: an error of its own, or the response, in which
there is an error if and only if the result is not a success. -/
inductive Reply
  | serviceErr
  | clientErr
  | resp (error : Option QmiErr)
  deriving DecidableEq, Repr

def convertQmiResponseToLocStatus : Option QmiErr → Status
  | none => .success
  | some .malformedMsg | some .invalidArg => .failureInvalidParameter
  | some .deviceInUse => .failureEngineBusy
  | some .notSupported => .failureUnsupported
  | some .invalidMessageId => .failureInvalidMessageId
  | some .sessionOwnership | some .other => .failureInternal

def Reply.status : Reply → Status
  | .serviceErr => .failurePhoneOffline
  | .clientErr => .failureInternal
  | .resp error => convertQmiResponseToLocStatus error

/-- The reply that the tries end with, `left` more of them being allowed. -/
def lastReply (replies : Nat → Reply) : Nat → Nat → Reply
  | 0, n => replies n
  | left + 1, n =>
    if replies n = .resp (some .sessionOwnership) then lastReply replies left (n + 1)
    else replies n

/-- `LOC_CLIENT_MAX_SYNC_RETRIES` -/
def maxSyncRetries : Nat := 50

def sendStatus (replies : Nat → Reply) : Status :=
  (lastReply replies (maxSyncRetries - 1) 0).status

namespace State

/-- The check of a handle that comes before its use. -/
inductive HandleCheck
  | invalid
  | freed
  | ok (pCallbackData : Nat) (data : CallbackData) (userHandle : Nat)

def checkHandle (s : State) (handle : Option Nat) : HandleCheck :=
  match handle with
  | none => .invalid
  | some a =>
    match s.heap a with
    | none => .freed
    | some d =>
      match d.userHandle with
      | none => .invalid
      | some h => if d.pMe = some a then .ok a d h else .invalid

/-- The events are registered. -/
def registered (s : State) (a : Nat) (d : CallbackData) (h : Nat) (eventRegMask : BitVec 64) :
    State :=
  { s with
    heap := update s.heap a (some { d with eventRegMask := eventRegMask })
    acked := update s.acked h eventRegMask }

/-- `pRegEventsReq` is null unless the request has such a payload. -/
def locClientSendReq (s : State) (handle : Option Nat) (reqId : UInt32)
    (pRegEventsReq : Option (BitVec 64)) (replies : Nat → Reply) : Status × State :=
  match s.checkHandle handle with
  | .invalid => (.failureInvalidHandle, s)
  | .freed => (.failureInvalidHandle, { s with usedFreed := true })
  | .ok a d h =>
    if validateRequest reqId = none then (.failureInvalidParameter, s)
    else
      (sendStatus replies,
        match pRegEventsReq with
        | some eventRegMask =>
          if sendStatus replies = .success ∧ reqId = regEventsReq then
            s.registered a d h eventRegMask
          else s
        | none => s)

/-! ## Opening and closing -/

def setVar (s : State) (v : Nat) (handle : Option Nat) : State :=
  { s with vars := update s.vars v handle }

/-- `LOC_CLIENT_MAX_OPEN_RETRIES` -/
def maxOpenRetries : Nat := 20

/-- `locClientOpenInstance` failed, which `locClientOpen` tries again. -/
def openFailed (s : State) (v : Nat) (args : OpenArgs) (tries : Nat) : State :=
  { s with
    opening := update s.opening v
      (if tries ≤ maxOpenRetries then some ⟨args, tries + 1, .start⟩ else none) }

/-- The memory is cleared and freed. -/
def free (s : State) (a : Nat) : State :=
  { s with heap := update s.heap a none, owner := update s.owner a none }

def setPhase (s : State) (a : Nat) (phase : Phase) : State :=
  { s with owner := update s.owner a ((s.owner a).map fun o => { o with phase := phase }) }

/-- `released` is what `qmi_client_release` comes back with, if it is called. -/
def locClientClose (s : State) (v : Nat) (released : Bool) : Status × State :=
  match s.checkHandle (s.vars v) with
  | .invalid => (.failureInvalidHandle, s)
  | .freed => (.failureInvalidHandle, { s with usedFreed := true })
  | .ok a _ h =>
    if released then
      (.success, ({ s with clients := update s.clients h none }.free a).setVar v none)
    else (.failureInternal, s)

end State

def OpenArgs.isValid (args : OpenArgs) : Bool :=
  match args.pLocClientCallbacks with
  | none => false
  | some callbacks => callbacks.respIndCb.isSome && callbacks.sized

/-- The callback for indications of a kind, or for errors. -/
def OpenArgs.callback (args : OpenArgs) (kind : Kind) : Option Nat :=
  args.pLocClientCallbacks.bind fun callbacks =>
    match kind with
    | .event => callbacks.eventIndCb
    | .resp => callbacks.respIndCb
    | .error => callbacks.errorCb

/-- The field that is filled in after `n` others. -/
def CallbackData.fill (d : CallbackData) (args : OpenArgs) : Nat → CallbackData
  | 0 => { d with eventCallback := args.callback .event }
  | 1 => { d with respCallback := args.callback .resp }
  | 2 => { d with errorCallback := args.callback .error }
  | 3 => { d with eventRegMask := args.eventRegMask }
  | _ => { d with pClientCookie := args.pClientCookie }

namespace State

/-- The check of the arguments, the allocation, and `locClientQmiCtrlPointInit` up to
`qmi_client_init`.  Without a client of the framework the memory is freed at once. -/
def openInit (s : State) (v : Nat) (args : OpenArgs) (tries : Nat) (alloc clnt : Option Nat) :
    State :=
  if !args.isValid then s.openFailed v args tries
  else
    match alloc, clnt with
    | some a, some h =>
      { s with
        heap := update s.heap a (some .zero)
        clients := update s.clients h (some ⟨a, none⟩)
        opening := update s.opening v (some ⟨args, tries, .connecting a h⟩)
        owner := update s.owner a (some ⟨args, h, v, .connecting⟩)
        acked := update s.acked h 0 }
    | _, _ => (s.setVar v none).openFailed v args tries

/-- The rest of `locClientQmiCtrlPointInit`, and the handle.  If `qmi_client_register_error_cb`
fails the memory is freed, but the client of the framework stays. -/
def openErrorCb (s : State) (v : Nat) (args : OpenArgs) (tries a h : Nat) (ok : Bool) : State :=
  if ok then
    ({ s with
        heap := update s.heap a
          ((s.heap a).map fun (d : CallbackData) => { d with userHandle := some h, pMe := some a })
        clients := update s.clients h
          ((s.clients h).map fun (q : QmiClient) => { q with errCbData := some a })
        opening := update s.opening v (some ⟨args, tries, .connected a⟩) }.setVar v
      (some a)).setPhase a .connected
  else ((s.free a).setVar v none).openFailed v args tries

/-- `locClientRegisterEventMask`, after which the client is closed if it failed. -/
def openRegister (s : State) (v : Nat) (args : OpenArgs) (tries a : Nat) (replies : Nat → Reply)
    (released : Bool) : State :=
  let (status, s) := s.locClientSendReq (s.vars v) regEventsReq (some args.eventRegMask) replies
  if status = .success then
    { s with opening := update s.opening v (some ⟨args, tries, .filling a 0⟩) }.setPhase a
      (.filled 0)
  else
    let (closed, s) := s.locClientClose v released
    ((if closed = .success then s else s.setPhase a .abandoned).setVar v none).openFailed v args
      tries

/-- One more field is filled in; after the last the open returns. -/
def openFill (s : State) (v : Nat) (args : OpenArgs) (tries a n : Nat) : State :=
  match s.heap a with
  | none => { s with usedFreed := true }
  | some d =>
    { s with
      heap := update s.heap a (some (d.fill args n))
      opening := update s.opening v
        (if n + 1 < 5 then some ⟨args, tries, .filling a (n + 1)⟩ else none) }.setPhase a
      (.filled (n + 1))

/-! ## Callbacks -/

/-- A callback is called, if there is one. -/
def call (s : State) (kind : Kind) (callback : Option Nat) (a : Nat) (msgId : Option UInt32)
    (pClientCookie : Option Nat) : State :=
  match callback with
  | none => s
  | some cb =>
    { s with calls := s.calls ++
        [{  kind := kind
            callback := cb
            handle := a
            msgId := msgId
            pClientCookie := pClientCookie
            owner := s.owner a
            opening := (s.owner a).any fun o => (s.opening o.pLocClientHandle).isSome }] }

end State

/-- `locClientGetSizeAndTypeByIndId`, without the size. -/
def indType (indId : UInt32) : Option Kind :=
  if indId ∈ locClientEventIndTable then some .event
  else if indId ∈ locClientRespIndTable then some .resp
  else none

def CallbackData.callback (d : CallbackData) : Kind → Option Nat
  | .event => d.eventCallback
  | .resp => d.respCallback
  | .error => d.errorCallback

namespace State

/-- `decoded` says that there is memory for the indication and that it can be decoded. -/
def locClientIndCb (s : State) (userHandle : Nat) (msgId : UInt32) (decoded : Bool)
    (indCbData : Nat) : State :=
  match s.heap indCbData with
  | none => { s with usedFreed := true }
  | some d =>
    if d.pMe ≠ some indCbData then s
    else if d.userHandle ≠ some userHandle then s
    else
      match indType msgId with
      | none => s
      | some kind =>
        if decoded then s.call kind (d.callback kind) indCbData (some msgId) d.pClientCookie else s

def locClientErrorCb (s : State) (errCbData : Nat) : State :=
  match s.heap errCbData with
  | none => { s with usedFreed := true }
  | some d =>
    if d.pMe ≠ some errCbData then s
    else s.call .error d.errorCallback errCbData none d.pClientCookie

end State

/-! ## Steps -/

inductive Event
  /-- A thread calls `locClientOpen`. -/
  | locClientOpen (pLocClientHandle : Nat) (args : OpenArgs)
  /-- Its open takes a step; memory that is allocated was free, and so was a handle of the
  framework. -/
  | ctrlPointInit (pLocClientHandle : Nat) (alloc clnt : Option Nat)
  | registerErrorCb (pLocClientHandle : Nat) (ok : Bool)
  | registerEventMask (pLocClientHandle : Nat) (replies : Nat → Reply) (released : Bool)
  | fill (pLocClientHandle : Nat)
  | locClientSendReq (pLocClientHandle : Nat) (reqId : UInt32) (pRegEventsReq : Option (BitVec 64))
      (replies : Nat → Reply)
  | locClientClose (pLocClientHandle : Nat) (released : Bool)
  /-- `LocApiV02::close`, which drops the handle even if the close fails. -/
  | close (pLocClientHandle : Nat) (released : Bool)
  | indication (userHandle : Nat) (msgId : UInt32) (decoded : Bool)
  | error (userHandle : Nat)

/-- What is allocated is new. -/
def State.isFresh (s : State) (alloc clnt : Option Nat) : Bool :=
  alloc.all (fun a => (s.heap a).isNone) && clnt.all (fun h => (s.clients h).isNone)

def step (s : State) : Event → State
  | .locClientOpen v args =>
    match s.opening v with
    | none => { s with opening := update s.opening v (some ⟨args, 1, .start⟩) }
    | some _ => s
  | .ctrlPointInit v alloc clnt =>
    match s.opening v with
    | some ⟨args, tries, .start⟩ =>
      if s.isFresh alloc clnt then s.openInit v args tries alloc clnt else s
    | _ => s
  | .registerErrorCb v ok =>
    match s.opening v with
    | some ⟨args, tries, .connecting a h⟩ => s.openErrorCb v args tries a h ok
    | _ => s
  | .registerEventMask v replies released =>
    match s.opening v with
    | some ⟨args, tries, .connected a⟩ => s.openRegister v args tries a replies released
    | _ => s
  | .fill v =>
    match s.opening v with
    | some ⟨args, tries, .filling a n⟩ => s.openFill v args tries a n
    | _ => s
  | .locClientSendReq v reqId pRegEventsReq replies =>
    match s.opening v with
    | none => (s.locClientSendReq (s.vars v) reqId pRegEventsReq replies).2
    | some _ => s
  | .locClientClose v released =>
    match s.opening v with
    | none => (s.locClientClose v released).2
    | some _ => s
  | .close v released =>
    match s.opening v with
    | none => (s.locClientClose v released).2.setVar v none
    | some _ => s
  | .indication userHandle msgId decoded =>
    match s.clients userHandle with
    | none => s
    | some q => s.locClientIndCb userHandle msgId decoded q.indCbData
  | .error userHandle =>
    match s.clients userHandle with
    | some ⟨_, some errCbData⟩ => s.locClientErrorCb errCbData
    | _ => s

/-! ## What is kept -/

def Owner.base (o : Owner) (acked : Nat → BitVec 64) (a : Nat) : CallbackData :=
  { CallbackData.zero with
    userHandle := some o.userHandle
    eventRegMask := acked o.userHandle
    pMe := some a }

/-- What is kept at an address, if its owner is known. -/
def Owner.data (o : Owner) (acked : Nat → BitVec 64) (a : Nat) : CallbackData :=
  match o.phase with
  | .connecting => .zero
  | .connected | .abandoned => o.base acked a
  | .filled n =>
    { o.base acked a with
      eventCallback := if 0 < n then o.args.callback .event else none
      respCallback := if 1 < n then o.args.callback .resp else none
      errorCallback := if 2 < n then o.args.callback .error else none
      pClientCookie := if 4 < n then o.args.pClientCookie else none }

/-- The address that comes with an error. -/
def Owner.errCbData (o : Owner) (a : Nat) : Option Nat :=
  if o.phase = .connecting then none else some a

/-- The address that an open works on, and how far it is. -/
def Stage.works : Stage → Option (Nat × Phase)
  | .start => none
  | .connecting a _ => some (a, .connecting)
  | .connected a => some (a, .connected)
  | .filling a n => some (a, .filled n)

/-- The open has returned. -/
def Phase.isSettled : Phase → Bool
  | .abandoned => true
  | .filled n => 5 ≤ n
  | .connecting | .connected => false

/-- A callback that belongs to the client, of the right kind; once the open has returned it is
called with the cookie of the client, and until then perhaps without one. -/
structure CallbackCall.Right (c : CallbackCall) (o : Owner) : Prop where
  owner : c.owner = some o
  callback : o.args.callback c.kind = some c.callback
  kind : ∀ msgId ∈ c.msgId, indType msgId = some c.kind
  cookie : c.pClientCookie = o.args.pClientCookie ∨ c.pClientCookie = none ∧ c.opening = true

/-- The owner of an address that an open works on. -/
structure Works (s : State) (v : Nat) (op : Opening) (a : Nat) (phase : Phase) (o : Owner) :
    Prop where
  owner : s.owner a = some o
  var : o.pLocClientHandle = v
  args : o.args = op.args
  phase : o.phase = phase
  userHandle : ∀ h, op.stage = .connecting a h → o.userHandle = h ∧ s.acked o.userHandle = 0
  handle : op.stage = .connected a → s.vars v = some a
  acked : ∀ n, op.stage = .filling a n → n < 5 ∧ s.acked o.userHandle = o.args.eventRegMask

/-- Memory, the clients of the framework and the opens agree with the owners. -/
structure Sound (s : State) : Prop where
  heap : ∀ a, s.heap a = (s.owner a).map fun o => o.data s.acked a
  clients : ∀ h q, s.clients h = some q ↔
    ∃ o, s.owner q.indCbData = some o ∧ o.userHandle = h ∧
      q.errCbData = o.errCbData q.indCbData
  vars : ∀ v a, s.vars v = some a →
    ∃ o, s.owner a = some o ∧ o.pLocClientHandle = v ∧ o.phase ≠ .connecting
  opening : ∀ v op a phase, s.opening v = some op → op.stage.works = some (a, phase) →
    ∃ o, Works s v op a phase o
  settled : ∀ a o, s.owner a = some o → o.phase.isSettled = false →
    ∃ op, s.opening o.pLocClientHandle = some op ∧ op.stage.works = some (a, o.phase)
  unfreed : s.usedFreed = false
  calls : ∀ c ∈ s.calls, ∃ o, c.Right o

theorem init_sound : Sound .init where
  heap _ := rfl
  clients h q := by
    constructor
    · rintro ⟨⟩
    · rintro ⟨o, ⟨⟩, -⟩
  vars v a h := by cases h
  opening v op a phase h := by cases h
  settled a o h := by cases h
  unfreed := rfl
  calls c h := absurd h List.not_mem_nil

variable {s : State} {v a h n : Nat} {o : Owner} {args : OpenArgs} {tries : Nat}

namespace Sound

theorem heap_some (hs : Sound s) (ho : s.owner a = some o) :
    s.heap a = some (o.data s.acked a) := by
  rw [hs.heap, ho, Option.map_some]

theorem owner_none (hs : Sound s) (ha : s.heap a = none) : s.owner a = none := by
  have hheap := hs.heap a
  rw [ha] at hheap
  exact Option.map_eq_none_iff.mp hheap.symm

theorem client (hs : Sound s) (ho : s.owner a = some o) :
    s.clients o.userHandle = some ⟨a, o.errCbData a⟩ :=
  (hs.clients _ _).mpr ⟨o, ho, rfl, rfl⟩

/-- Two clients have different handles of the framework. -/
theorem userHandle_inj (hs : Sound s) {a' : Nat} {o' : Owner} (ho : s.owner a = some o)
    (ho' : s.owner a' = some o') (heq : o.userHandle = o'.userHandle) : a = a' := by
  have hclient := hs.client ho
  rw [heq, hs.client ho'] at hclient
  exact (congrArg QmiClient.indCbData (Option.some.inj hclient)).symm

end Sound

theorem Owner.data_pMe (hphase : o.phase ≠ .connecting) (acked : Nat → BitVec 64) (a : Nat) :
    (o.data acked a).pMe = some a ∧ (o.data acked a).userHandle = some o.userHandle ∧
      (o.data acked a).eventRegMask = acked o.userHandle := by
  unfold Owner.data
  split
  · contradiction
  all_goals exact ⟨rfl, rfl, rfl⟩

/-- Only what its own client registered counts. -/
theorem Owner.data_congr {acked acked' : Nat → BitVec 64}
    (hacked : acked' o.userHandle = acked o.userHandle) (a : Nat) :
    o.data acked' a = o.data acked a := by
  unfold Owner.data Owner.base
  rw [hacked]

theorem Owner.data_registered (hphase : o.phase ≠ .connecting) (acked : Nat → BitVec 64) (a : Nat)
    (eventRegMask : BitVec 64) :
    o.data (update acked o.userHandle eventRegMask) a =
      { o.data acked a with eventRegMask := eventRegMask } := by
  unfold Owner.data Owner.base
  split
  · contradiction
  all_goals rw [update_self]

namespace Sound

theorem checkHandle_some (hs : Sound s) (ho : s.owner a = some o) (hphase : o.phase ≠ .connecting) :
    s.checkHandle (some a) = .ok a (o.data s.acked a) o.userHandle := by
  obtain ⟨hme, huser, -⟩ := Owner.data_pMe hphase s.acked a
  simp only [State.checkHandle, hs.heap_some ho, huser, hme, ↓reduceIte]

/-- A handle in a variable passes the check. -/
theorem checkHandle_var (hs : Sound s) (v : Nat) :
    s.vars v = none ∧ s.checkHandle (s.vars v) = .invalid ∨
      ∃ a o, s.vars v = some a ∧ s.owner a = some o ∧ o.pLocClientHandle = v ∧
        o.phase ≠ .connecting ∧
        s.checkHandle (s.vars v) = .ok a (o.data s.acked a) o.userHandle := by
  cases hv : s.vars v with
  | none => exact .inl ⟨rfl, rfl⟩
  | some a =>
    obtain ⟨o, ho, hvar, hphase⟩ := hs.vars v a hv
    exact .inr ⟨a, o, rfl, ho, hvar, hphase, hs.checkHandle_some ho hphase⟩

/-- Events are registered for a client that is not being opened, or is about to be filled in. -/
theorem registered (hs : Sound s) (ho : s.owner a = some o) (hphase : o.phase ≠ .connecting)
    (hfilling : ∀ op n, s.opening o.pLocClientHandle = some op → op.stage ≠ .filling a n)
    (eventRegMask : BitVec 64) :
    Sound (s.registered a (o.data s.acked a) o.userHandle eventRegMask) where
  heap a' := by
    dsimp only [State.registered]
    by_cases ha : a' = a
    · subst ha
      rw [update_self, ho, Option.map_some, Owner.data_registered hphase]
    · rw [update_of_ne ha, hs.heap]
      cases ho' : s.owner a' with
      | none => rfl
      | some o' =>
        have hne : o'.userHandle ≠ o.userHandle := fun heq => ha (hs.userHandle_inj ho' ho heq)
        rw [Option.map_some, Option.map_some, Owner.data_congr (update_of_ne hne _ _)]
  clients := hs.clients
  vars := hs.vars
  opening v op a' phase hop hworks := by
    obtain ⟨o', ho'⟩ := hs.opening v op a' phase hop hworks
    by_cases ha : a' = a
    · -- the open of this client is neither before this nor after it
      subst ha
      cases Option.some.inj (ho.symm.trans ho'.owner)
      refine ⟨o, { ho' with userHandle := fun h hh => ?_, acked := fun n hn => ?_ }⟩
      · rw [hh] at hworks
        cases hworks
        exact absurd ho'.phase hphase
      · exact absurd hn (hfilling op n (ho'.var ▸ hop))
    · have hne : o'.userHandle ≠ o.userHandle := fun heq =>
        ha (hs.userHandle_inj ho'.owner ho heq)
      have hacked : update s.acked o.userHandle eventRegMask o'.userHandle =
          s.acked o'.userHandle := update_of_ne hne _ _
      exact ⟨o', { ho' with
        userHandle := fun h hh => ⟨(ho'.userHandle h hh).1, hacked.trans (ho'.userHandle h hh).2⟩
        acked := fun n hn => ⟨(ho'.acked n hn).1, hacked.trans (ho'.acked n hn).2⟩ }⟩
  settled := hs.settled
  unfreed := hs.unfreed
  calls := hs.calls

/-- An open begins or returns that has nothing to work on, or a handle is dropped. -/
theorem idle (hs : Sound s) (v : Nat) {op : Option Opening} {handle : Option Nat}
    (hbefore : ∀ op', s.opening v = some op' → op'.stage.works = none)
    (hafter : ∀ op', op = some op' → op'.stage.works = none)
    (hhandle : ∀ a, handle = some a → s.vars v = some a) :
    Sound { s with opening := update s.opening v op, vars := update s.vars v handle } where
  heap := hs.heap
  clients := hs.clients
  vars w a hw := by
    dsimp only at hw
    by_cases hwv : w = v
    · subst hwv
      rw [update_self] at hw
      exact hs.vars w a (hhandle a hw)
    · rw [update_of_ne hwv] at hw
      exact hs.vars w a hw
  opening w op' a phase hop hworks := by
    dsimp only at hop
    by_cases hwv : w = v
    · subst hwv
      rw [update_self] at hop
      rw [hafter op' hop] at hworks
      cases hworks
    · rw [update_of_ne hwv] at hop
      obtain ⟨o, ho⟩ := hs.opening w op' a phase hop hworks
      exact ⟨o, { ho with handle := fun hc => (update_of_ne hwv _ _).trans (ho.handle hc) }⟩
  settled a o ho hphase := by
    obtain ⟨op', hop, hworks⟩ := hs.settled a o ho hphase
    refine ⟨op', ?_, hworks⟩
    dsimp only
    rw [update_of_ne, hop]
    intro hv
    rw [hv] at hop
    rw [hbefore op' hop] at hworks
    cases hworks
  unfreed := hs.unfreed
  calls := hs.calls

/-- A client is released, and what was kept for it is freed. -/
theorem released (hs : Sound s) (ho : s.owner a = some o) (hv : o.pLocClientHandle = v)
    {op : Option Opening}
    (hbefore : ∀ op', s.opening v = some op' → ∀ a' phase, op'.stage.works = some (a', phase) →
      a' = a)
    (hafter : ∀ op', op = some op' → op'.stage.works = none) :
    Sound {
      ({ s with clients := update s.clients o.userHandle none }.free a).setVar v none with
      opening := update s.opening v op } where
  heap a' := by
    dsimp only [State.setVar, State.free]
    by_cases ha : a' = a
    · subst ha
      rw [update_self, update_self]
      rfl
    · rw [update_of_ne ha, update_of_ne ha]
      exact hs.heap a'
  clients h q := by
    dsimp only [State.setVar, State.free]
    by_cases ha : q.indCbData = a
    · rw [ha, update_self]
      constructor
      · intro hq
        exfalso
        by_cases hh : h = o.userHandle
        · rw [hh, update_self] at hq
          cases hq
        · rw [update_of_ne hh] at hq
          obtain ⟨o', ho', hh', -⟩ := (hs.clients h q).mp hq
          rw [ha, ho] at ho'
          cases ho'
          exact hh hh'.symm
      · rintro ⟨o', ⟨⟩, -⟩
    · rw [update_of_ne ha]
      by_cases hh : h = o.userHandle
      · rw [hh, update_self]
        constructor
        · rintro ⟨⟩
        · rintro ⟨o', ho', heq, -⟩
          exact absurd (hs.userHandle_inj ho' ho heq) ha
      · rw [update_of_ne hh]
        exact hs.clients h q
  vars w a' hw := by
    dsimp only [State.setVar, State.free] at hw ⊢
    by_cases hwv : w = v
    · rw [hwv, update_self] at hw
      cases hw
    · rw [update_of_ne hwv] at hw
      obtain ⟨o', ho', hvar, hphase⟩ := hs.vars w a' hw
      refine ⟨o', ?_, hvar, hphase⟩
      rw [update_of_ne, ho']
      rintro rfl
      cases Option.some.inj (ho.symm.trans ho')
      exact hwv (hvar.symm.trans hv)
  opening w op' a' phase hop hworks := by
    dsimp only [State.setVar, State.free] at hop
    by_cases hwv : w = v
    · rw [hwv, update_self] at hop
      rw [hafter op' hop] at hworks
      cases hworks
    · rw [update_of_ne hwv] at hop
      obtain ⟨o', ho'⟩ := hs.opening w op' a' phase hop hworks
      have ha : a' ≠ a := by
        rintro rfl
        cases Option.some.inj (ho.symm.trans ho'.owner)
        exact hwv (ho'.var.symm.trans hv)
      exact ⟨o', { ho' with
        owner := (update_of_ne ha _ _).trans ho'.owner
        handle := fun hc => (update_of_ne hwv _ _).trans (ho'.handle hc) }⟩
  settled a' o' ho' hphase := by
    dsimp only [State.setVar, State.free] at ho' ⊢
    have ha : a' ≠ a := by
      rintro rfl
      rw [update_self] at ho'
      cases ho'
    rw [update_of_ne ha] at ho'
    obtain ⟨op', hop, hworks⟩ := hs.settled a' o' ho' hphase
    refine ⟨op', ?_, hworks⟩
    rw [update_of_ne, hop]
    intro hvar
    rw [hvar] at hop
    exact ha (hbefore op' hop a' _ hworks)
  unfreed := hs.unfreed
  calls := hs.calls

/-- An open goes on with its client, whose phase changes. -/
theorem advance (hs : Sound s) {op : Opening} {phase phase' : Phase} (hop : s.opening v = some op)
    (hworks : op.stage.works = some (a, phase)) (ho : Works s v op a phase o)
    (hphase : phase' ≠ .connecting) {s' : State}
    (howner : s'.owner = update s.owner a (some { o with phase := phase' }))
    (hacked : s'.acked = s.acked)
    (hheap : s'.heap = update s.heap a (some ({ o with phase := phase' }.data s.acked a)))
    (hclients : s'.clients = update s.clients o.userHandle (some ⟨a, some a⟩))
    (hvars : ∀ w, w ≠ v → s'.vars w = s.vars w)
    (hvar : ∀ a', s'.vars v = some a' → a' = a ∨ s.vars v = some a')
    (hopening : ∀ w, w ≠ v → s'.opening w = s.opening w)
    (hnew : ∀ op', s'.opening v = some op' →
      op'.stage.works = some (a, phase') ∧ Works s' v op' a phase' { o with phase := phase' } ∨
        op'.stage.works = none)
    (hdone : phase'.isSettled = false →
      ∃ op', s'.opening v = some op' ∧ op'.stage.works = some (a, phase'))
    (hunfreed : s'.usedFreed = s.usedFreed) (hcalls : s'.calls = s.calls) : Sound s' where
  heap a' := by
    rw [hheap, howner, hacked]
    by_cases ha : a' = a
    · subst ha
      rw [update_self, update_self]
      rfl
    · rw [update_of_ne ha, update_of_ne ha]
      exact hs.heap a'
  clients h q := by
    rw [hclients, howner]
    by_cases ha : q.indCbData = a
    · rw [ha, update_self]
      by_cases hh : h = o.userHandle
      · rw [hh, update_self]
        constructor
        · intro hq
          refine ⟨_, rfl, rfl, ?_⟩
          rw [← Option.some.inj hq]
          exact (if_neg hphase).symm
        · rintro ⟨o', ho', -, herr⟩
          rw [← Option.some.inj ho'] at herr
          have herr' : q.errCbData = some a := herr.trans (if_neg hphase)
          rw [← ha, ← herr'.trans (congrArg some ha.symm)]
      · rw [update_of_ne hh, hs.clients, ha, ho.owner]
        constructor
        · rintro ⟨o', ho', heq, -⟩
          cases Option.some.inj ho'
          exact absurd heq.symm hh
        · rintro ⟨o', ho', heq, -⟩
          cases Option.some.inj ho'
          exact absurd heq.symm hh
    · rw [update_of_ne ha]
      by_cases hh : h = o.userHandle
      · rw [hh, update_self]
        constructor
        · intro hq
          rw [← Option.some.inj hq] at ha
          exact absurd rfl ha
        · rintro ⟨o', ho', heq, -⟩
          exact absurd (hs.userHandle_inj ho' ho.owner heq) ha
      · rw [update_of_ne hh]
        exact hs.clients h q
  vars w a' hw := by
    rw [howner]
    have hold : s.vars w = some a' → a' ≠ a → ∃ o', update s.owner a
        (some { o with phase := phase' }) a' = some o' ∧ o'.pLocClientHandle = w ∧
          o'.phase ≠ .connecting := by
      intro hw' ha
      rw [update_of_ne ha]
      exact hs.vars w a' hw'
    by_cases ha : a' = a
    · subst ha
      refine ⟨_, update_self .., ?_, hphase⟩
      by_cases hwv : w = v
      · exact ho.var.trans hwv.symm
      · rw [hvars w hwv] at hw
        obtain ⟨o', ho', hvar', -⟩ := hs.vars w a' hw
        cases Option.some.inj (ho.owner.symm.trans ho')
        exact hvar'
    · by_cases hwv : w = v
      · subst hwv
        rcases hvar a' hw with heq | hw'
        · exact absurd heq ha
        · exact hold hw' ha
      · rw [hvars w hwv] at hw
        exact hold hw ha
  opening w op' a' ph hop' hworks' := by
    by_cases hwv : w = v
    · subst hwv
      rcases hnew op' hop' with ⟨hthis, hworks''⟩ | hnone
      · rw [hthis] at hworks'
        cases Option.some.inj hworks'
        exact ⟨_, hworks''⟩
      · rw [hnone] at hworks'
        cases hworks'
    · rw [hopening w hwv] at hop'
      obtain ⟨o', ho'⟩ := hs.opening w op' a' ph hop' hworks'
      have ha : a' ≠ a := by
        rintro rfl
        cases Option.some.inj (ho.owner.symm.trans ho'.owner)
        exact hwv (ho'.var.symm.trans ho.var)
      exact ⟨o', { ho' with
        owner := by rw [howner, update_of_ne ha, ho'.owner]
        userHandle := by rw [hacked]; exact ho'.userHandle
        handle := by rw [hvars w hwv]; exact ho'.handle
        acked := by rw [hacked]; exact ho'.acked }⟩
  settled a' o' ho' hphase' := by
    rw [howner] at ho'
    by_cases ha : a' = a
    · subst ha
      rw [update_self] at ho'
      cases Option.some.inj ho'
      obtain ⟨op', hop', hworks'⟩ := hdone hphase'
      exact ⟨op', by rw [← hop']; exact congrArg s'.opening ho.var, hworks'⟩
    · rw [update_of_ne ha] at ho'
      obtain ⟨op', hop', hworks'⟩ := hs.settled a' o' ho' hphase'
      refine ⟨op', ?_, hworks'⟩
      rw [hopening _, hop']
      intro heq
      rw [heq, hop] at hop'
      cases Option.some.inj hop'
      rw [hworks] at hworks'
      cases Option.some.inj hworks'
      exact ha rfl
  unfreed := hunfreed.trans hs.unfreed
  calls := hcalls ▸ hs.calls

/-! ### The steps of an open -/

theorem locClientSendReq_regEvents {handle : Option Nat} {d : CallbackData}
    (hcheck : s.checkHandle handle = .ok a d h) (eventRegMask : BitVec 64)
    (replies : Nat → Reply) :
    s.locClientSendReq handle regEventsReq (some eventRegMask) replies =
      (sendStatus replies,
        if sendStatus replies = .success then s.registered a d h eventRegMask else s) := by
  have hvalid : validateRequest regEventsReq ≠ none := by decide
  unfold State.locClientSendReq
  rw [hcheck]
  dsimp only
  rw [if_neg hvalid]
  simp only [and_true]

theorem locClientClose_ok {d : CallbackData} (hcheck : s.checkHandle (s.vars v) = .ok a d h)
    (released : Bool) :
    s.locClientClose v released =
      if released then
        (.success, ({ s with clients := update s.clients h none }.free a).setVar v none)
      else (.failureInternal, s) := by
  unfold State.locClientClose
  rw [hcheck]

theorem works_openFailed {tries : Nat} {op : Opening}
    (hop : (if tries ≤ State.maxOpenRetries then some (⟨args, tries + 1, .start⟩ : Opening)
      else none) = some op) : op.stage.works = none := by
  split at hop
  · cases hop
    rfl
  · cases hop

/-- An open that has nothing to work on fails. -/
theorem openFailed (hs : Sound s) {op : Opening} (hop : s.opening v = some op)
    (hworks : op.stage.works = none) {handle : Option Nat}
    (hhandle : ∀ a, handle = some a → s.vars v = some a) :
    Sound ((s.setVar v handle).openFailed v args tries) := by
  refine hs.idle v ?_ (fun op' => works_openFailed) hhandle
  intro op' hop'
  rw [hop] at hop'
  cases Option.some.inj hop'
  exact hworks

theorem openInit (hs : Sound s) (hop : s.opening v = some ⟨args, tries, .start⟩)
    {alloc clnt : Option Nat} (hfresh : s.isFresh alloc clnt = true) :
    Sound (s.openInit v args tries alloc clnt) := by
  have hfailed : ∀ handle : Option Nat, (∀ a, handle = some a → s.vars v = some a) →
      Sound ((s.setVar v handle).openFailed v args tries) := fun _ => hs.openFailed hop rfl
  have hnull := hfailed none (by rintro a ⟨⟩)
  unfold State.openInit
  split
  · have hkept := hfailed (s.vars v) fun _ ha => ha
    rwa [State.setVar, update_eq_self] at hkept
  · split
    · rename_i a h
      obtain ⟨ha, hh⟩ : s.heap a = none ∧ s.clients h = none := by
        simpa [State.isFresh] using hfresh
      have howner := hs.owner_none ha
      have hne : ∀ a' o', s.owner a' = some o' → a' ≠ a ∧ o'.userHandle ≠ h := by
        intro a' o' ho'
        constructor
        · rintro rfl
          rw [howner] at ho'
          cases ho'
        · intro heq
          have hclient := hs.client ho'
          rw [heq, hh] at hclient
          cases hclient
      exact
        { heap := by
            intro a'
            dsimp only
            by_cases haa : a' = a
            · subst haa
              rw [update_self, update_self]
              rfl
            · rw [update_of_ne haa, update_of_ne haa, hs.heap]
              cases ho' : s.owner a' with
              | none => rfl
              | some o' =>
                rw [Option.map_some, Option.map_some,
                  Owner.data_congr (update_of_ne (hne a' o' ho').2 _ _)]
          clients := by
            intro h' q
            dsimp only
            by_cases hq : q.indCbData = a
            · rw [hq, update_self]
              by_cases hhh : h' = h
              · rw [hhh, update_self]
                constructor
                · intro heq
                  rw [← Option.some.inj heq]
                  exact ⟨_, rfl, rfl, rfl⟩
                · rintro ⟨o', ho', -, herr⟩
                  cases Option.some.inj ho'
                  obtain ⟨a', err⟩ := q
                  cases (hq : a' = a)
                  cases (herr : err = none)
                  rfl
              · rw [update_of_ne hhh]
                constructor
                · intro heq
                  obtain ⟨o', ho', -⟩ := (hs.clients h' q).mp heq
                  exact absurd hq (hne _ o' ho').1
                · rintro ⟨o', ho', heq, -⟩
                  cases Option.some.inj ho'
                  exact absurd heq.symm hhh
            · rw [update_of_ne hq]
              by_cases hhh : h' = h
              · rw [hhh, update_self]
                constructor
                · intro heq
                  rw [← Option.some.inj heq] at hq
                  exact absurd rfl hq
                · rintro ⟨o', ho', heq, -⟩
                  exact absurd heq (hne _ o' ho').2
              · rw [update_of_ne hhh]
                exact hs.clients h' q
          vars := by
            intro w a' hw
            obtain ⟨o', ho', hrest⟩ := hs.vars w a' hw
            exact ⟨o', (update_of_ne (hne a' o' ho').1 _ _).trans ho', hrest⟩
          opening := by
            intro w op' a' phase hop' hworks
            dsimp only at hop'
            by_cases hwv : w = v
            · rw [hwv, update_self] at hop'
              cases Option.some.inj hop'
              cases Option.some.inj hworks
              exact ⟨⟨args, h, v, .connecting⟩,
                { owner := update_self ..
                  var := hwv.symm
                  args := rfl
                  phase := rfl
                  userHandle := by
                    rintro h' ⟨⟩
                    exact ⟨rfl, update_self ..⟩
                  handle := by rintro ⟨⟩
                  acked := by rintro n ⟨⟩ }⟩
            · rw [update_of_ne hwv] at hop'
              obtain ⟨o', ho'⟩ := hs.opening w op' a' phase hop' hworks
              obtain ⟨haa, hhh⟩ := hne a' o' ho'.owner
              have hacked : update s.acked h 0 o'.userHandle = s.acked o'.userHandle :=
                update_of_ne hhh _ _
              exact ⟨o', { ho' with
                owner := (update_of_ne haa _ _).trans ho'.owner
                userHandle := fun h' heq =>
                  ⟨(ho'.userHandle h' heq).1, hacked.trans (ho'.userHandle h' heq).2⟩
                acked := fun n hn => ⟨(ho'.acked n hn).1, hacked.trans (ho'.acked n hn).2⟩ }⟩
          settled := by
            intro a' o' ho' hphase
            dsimp only at ho' ⊢
            by_cases haa : a' = a
            · subst haa
              rw [update_self] at ho'
              cases Option.some.inj ho'
              exact ⟨_, update_self .., rfl⟩
            · rw [update_of_ne haa] at ho'
              obtain ⟨op', hop', hworks⟩ := hs.settled a' o' ho' hphase
              refine ⟨op', ?_, hworks⟩
              rw [update_of_ne, hop']
              intro heq
              rw [heq, hop] at hop'
              cases Option.some.inj hop'
              cases hworks
          unfreed := hs.unfreed
          calls := hs.calls }
    · exact hnull

theorem openErrorCb (hs : Sound s) (hop : s.opening v = some ⟨args, tries, .connecting a h⟩) :
    Sound (s.openErrorCb v args tries a h true) := by
  obtain ⟨o, ho⟩ := hs.opening v _ a .connecting hop rfl
  obtain ⟨hh, hacked⟩ := ho.userHandle h rfl
  have hheap := hs.heap_some ho.owner
  have hclient := hs.client ho.owner
  have hdata : o.data s.acked a = .zero := by
    unfold Owner.data
    rw [ho.phase]
  rw [hdata] at hheap
  rw [hh, Owner.errCbData, if_pos ho.phase] at hclient
  rw [hh] at hacked
  have hstate : s.openErrorCb v args tries a h true =
      { s with
        heap := update s.heap a (some ({ o with phase := .connected }.data s.acked a))
        clients := update s.clients h (some ⟨a, some a⟩)
        opening := update s.opening v (some ⟨args, tries, .connected a⟩)
        vars := update s.vars v (some a)
        owner := update s.owner a (some { o with phase := .connected }) } := by
    simp only [State.openErrorCb, ↓reduceIte, State.setPhase, State.setVar, hheap, hclient,
      ho.owner, Option.map_some, Owner.data, Owner.base, hh, hacked]
    rfl
  rw [hstate]
  have hphase : Phase.connected ≠ .connecting := by rintro ⟨⟩
  refine hs.advance hop rfl ho hphase rfl rfl rfl ?_ ?_ ?_ ?_ ?_ ?_ rfl rfl
  · rw [hh]
  · exact fun w hw => update_of_ne hw _ _
  · intro a' ha'
    dsimp only at ha'
    rw [update_self] at ha'
    exact .inl (Option.some.inj ha').symm
  · exact fun w hw => update_of_ne hw _ _
  · intro op' hop'
    dsimp only at hop'
    rw [update_self] at hop'
    cases Option.some.inj hop'
    exact .inl ⟨rfl,
      { owner := update_self ..
        var := ho.var
        args := ho.args
        phase := rfl
        userHandle := by rintro h' ⟨⟩
        handle := fun _ => update_self ..
        acked := by rintro n ⟨⟩ }⟩
  · exact fun _ => ⟨_, update_self .., rfl⟩

theorem openRegister (hs : Sound s) (hop : s.opening v = some ⟨args, tries, .connected a⟩)
    (replies : Nat → Reply) (released : Bool) :
    Sound (s.openRegister v args tries a replies released) := by
  obtain ⟨o, ho⟩ := hs.opening v _ a .connected hop rfl
  have hphase : o.phase ≠ .connecting := by
    rw [ho.phase]
    rintro ⟨⟩
  have hvar := ho.handle rfl
  have hcheck := hs.checkHandle_some ho.owner hphase
  rw [← hvar] at hcheck
  unfold State.openRegister
  rw [locClientSendReq_regEvents hcheck]
  by_cases hstatus : sendStatus replies = .success
  · simp only [hstatus, ↓reduceIte]
    have hs' := hs.registered ho.owner hphase (by
      intro op n hop' hn
      rw [ho.var, hop] at hop'
      cases Option.some.inj hop'
      cases hn) args.eventRegMask
    have hacked : (s.registered a (o.data s.acked a) o.userHandle args.eventRegMask).acked
        o.userHandle = args.eventRegMask := update_self ..
    revert hs' hacked
    generalize hs₁ : s.registered a (o.data s.acked a) o.userHandle args.eventRegMask = s₁
    intro hs' hacked
    have hop₁ : s₁.opening v = some ⟨args, tries, .connected a⟩ := by rw [← hs₁]; exact hop
    have howner₁ : s₁.owner a = some o := by rw [← hs₁]; exact ho.owner
    obtain ⟨o', ho'⟩ := hs'.opening v _ a .connected hop₁ rfl
    cases Option.some.inj (howner₁.symm.trans ho'.owner)
    have hfilled : Phase.filled 0 ≠ .connecting := by rintro ⟨⟩
    have herr : o.errCbData a = some a := if_neg hphase
    refine hs'.advance hop₁ rfl ho' hfilled ?_ rfl ?_ ?_ (fun _ _ => rfl) (fun _ h => .inr h) ?_ ?_
      ?_ rfl rfl
    · dsimp only [State.setPhase]
      rw [howner₁, Option.map_some]
    · refine (update_eq_self_iff.mpr ?_).symm
      dsimp only [State.setPhase]
      rw [hs'.heap_some howner₁]
      unfold Owner.data
      rw [ho.phase]
      rfl
    · refine (update_eq_self_iff.mpr ?_).symm
      dsimp only [State.setPhase]
      rw [hs'.client howner₁, herr]
    · exact fun w hw => update_of_ne hw _ _
    · intro op' hop'
      dsimp only [State.setPhase] at hop'
      rw [update_self] at hop'
      cases Option.some.inj hop'
      exact .inl ⟨rfl,
        { owner := by
            dsimp only [State.setPhase]
            rw [update_self, howner₁, Option.map_some]
          var := ho.var
          args := ho.args
          phase := rfl
          userHandle := by rintro h' ⟨⟩
          handle := by rintro ⟨⟩
          acked := by
            rintro n ⟨⟩
            exact ⟨by decide, hacked.trans (congrArg OpenArgs.eventRegMask ho.args).symm⟩ }⟩
    · exact fun _ => ⟨_, update_self .., rfl⟩
  · simp only [hstatus, ↓reduceIte, locClientClose_ok hcheck]
    cases released with
    | true =>
      have hreleased := hs.released ho.owner ho.var
        (by
          intro op' hop' a' phase hworks
          rw [hop] at hop'
          cases Option.some.inj hop'
          cases Option.some.inj hworks
          rfl)
        (fun op' => @works_openFailed args tries op')
      simpa only [State.openFailed, State.setVar, State.free, update_idem, ↓reduceIte] using
        hreleased
    | false =>
      have habandoned : Phase.abandoned ≠ .connecting := by rintro ⟨⟩
      have herr : o.errCbData a = some a := if_neg hphase
      simp only [Bool.false_eq_true, reduceCtorEq, ↓reduceIte]
      refine hs.advance hop rfl ho habandoned ?_ rfl ?_ ?_ ?_ ?_ ?_ ?_ ?_ rfl rfl
      · dsimp only [State.openFailed, State.setVar, State.setPhase]
        rw [ho.owner, Option.map_some]
      · refine (update_eq_self_iff.mpr ?_).symm
        dsimp only [State.openFailed, State.setVar, State.setPhase]
        rw [hs.heap_some ho.owner]
        unfold Owner.data
        rw [ho.phase]
        rfl
      · refine (update_eq_self_iff.mpr ?_).symm
        dsimp only [State.openFailed, State.setVar, State.setPhase]
        rw [hs.client ho.owner, herr]
      · exact fun w hw => update_of_ne hw _ _
      · intro a' ha'
        dsimp only [State.openFailed, State.setVar, State.setPhase] at ha'
        rw [update_self] at ha'
        cases ha'
      · exact fun w hw => update_of_ne hw _ _
      · intro op' hop'
        dsimp only [State.openFailed, State.setVar, State.setPhase] at hop'
        rw [update_self] at hop'
        exact .inr (works_openFailed hop')
      · rintro ⟨⟩

/-- What the next field makes of the data. -/
theorem fill_data {n : Nat} (hn : n < 5) (hphase : o.phase = .filled n)
    {acked : Nat → BitVec 64} (hacked : acked o.userHandle = o.args.eventRegMask) (a : Nat) :
    (o.data acked a).fill o.args n = { o with phase := .filled (n + 1) }.data acked a := by
  unfold Owner.data
  rw [hphase]
  obtain rfl | rfl | rfl | rfl | rfl : n = 0 ∨ n = 1 ∨ n = 2 ∨ n = 3 ∨ n = 4 := by omega
  · rfl
  · rfl
  · rfl
  · show ({ o.base acked a with
      eventRegMask := o.args.eventRegMask
      eventCallback := _
      respCallback := _
      errorCallback := _
      pClientCookie := _ } : CallbackData) = _
    rw [← hacked]
    rfl
  · rfl

theorem openFill (hs : Sound s) (hop : s.opening v = some ⟨args, tries, .filling a n⟩) :
    Sound (s.openFill v args tries a n) := by
  obtain ⟨o, ho⟩ := hs.opening v _ a (.filled n) hop rfl
  obtain ⟨hn, hacked⟩ := ho.acked n rfl
  have hargs : o.args = args := ho.args
  have hphase : o.phase ≠ .connecting := by
    rw [ho.phase]
    rintro ⟨⟩
  have herr : o.errCbData a = some a := if_neg hphase
  have hfilled : Phase.filled (n + 1) ≠ .connecting := by rintro ⟨⟩
  unfold State.openFill
  rw [hs.heap_some ho.owner]
  dsimp only
  refine hs.advance hop rfl ho hfilled ?_ rfl ?_ ?_ (fun _ _ => rfl) (fun _ h => .inr h) ?_ ?_ ?_
    rfl rfl
  · dsimp only [State.setPhase]
    rw [ho.owner, Option.map_some]
  · dsimp only [State.setPhase]
    rw [← hargs, fill_data hn ho.phase hacked]
  · refine (update_eq_self_iff.mpr ?_).symm
    dsimp only [State.setPhase]
    rw [hs.client ho.owner, herr]
  · exact fun w hw => update_of_ne hw _ _
  · intro op' hop'
    dsimp only [State.setPhase] at hop'
    rw [update_self] at hop'
    split at hop'
    · rename_i hlt
      cases Option.some.inj hop'
      exact .inl ⟨rfl,
        { owner := by
            dsimp only [State.setPhase]
            rw [update_self, ho.owner, Option.map_some]
          var := ho.var
          args := ho.args
          phase := rfl
          userHandle := by rintro h' ⟨⟩
          handle := by rintro ⟨⟩
          acked := by
            rintro n' ⟨⟩
            exact ⟨hlt, hacked⟩ }⟩
    · cases hop'
  · intro hsettled
    have hlt : n + 1 < 5 := Nat.lt_of_not_le (of_decide_eq_false hsettled)
    refine ⟨⟨args, tries, .filling a (n + 1)⟩, ?_, rfl⟩
    dsimp only [State.setPhase]
    rw [update_self, if_pos hlt]

/-! ### The other steps -/

theorem locClientSendReq (hs : Sound s) (hop : s.opening v = none) (reqId : UInt32)
    (pRegEventsReq : Option (BitVec 64)) (replies : Nat → Reply) :
    Sound (s.locClientSendReq (s.vars v) reqId pRegEventsReq replies).2 := by
  unfold State.locClientSendReq
  rcases hs.checkHandle_var v with ⟨-, hcheck⟩ | ⟨a, o, -, ho, hvar, hphase, hcheck⟩
  · rw [hcheck]
    exact hs
  · rw [hcheck]
    dsimp only
    split
    · exact hs
    · cases pRegEventsReq with
      | none => exact hs
      | some eventRegMask =>
        dsimp only
        split
        · refine hs.registered ho hphase (fun op n hop' => ?_) eventRegMask
          rw [hvar, hop] at hop'
          cases hop'
        · exact hs

/-- A close of a client that is not being opened; the variable then keeps the handle or drops
it. -/
theorem locClientClose (hs : Sound s) (hop : s.opening v = none) (released : Bool) :
    Sound (s.locClientClose v released).2 ∧
      Sound ((s.locClientClose v released).2.setVar v none) := by
  have hdrop : Sound (s.setVar v none) := by
    have hidle : Sound { s with
        opening := update s.opening v none, vars := update s.vars v none } :=
      hs.idle v (by rw [hop]; rintro op' ⟨⟩) (by rintro op' ⟨⟩) (by rintro a ⟨⟩)
    rwa [← hop, update_eq_self] at hidle
  rcases hs.checkHandle_var v with ⟨-, hcheck⟩ | ⟨a, o, -, ho, hvar, -, hcheck⟩
  · unfold State.locClientClose
    rw [hcheck]
    exact ⟨hs, hdrop⟩
  · rw [locClientClose_ok hcheck]
    cases released with
    | false => exact ⟨hs, hdrop⟩
    | true =>
      have hreleased : Sound {
          ({ s with clients := update s.clients o.userHandle none }.free a).setVar v none with
          opening := update s.opening v none } :=
        hs.released ho hvar (by rw [hop]; rintro op' ⟨⟩) (by rintro op' ⟨⟩)
      dsimp only [State.setVar, State.free] at hreleased
      rw [← hop, update_eq_self] at hreleased
      refine ⟨hreleased, ?_⟩
      simpa only [State.setVar, State.free, update_idem, ↓reduceIte] using hreleased

/-- A callback is called for a client, with what is kept for it. -/
theorem call (hs : Sound s) (ho : s.owner a = some o) (hphase : o.phase ≠ .connecting)
    {kind : Kind} {msgId : Option UInt32} (hkind : ∀ id ∈ msgId, indType id = some kind) :
    Sound (s.call kind ((o.data s.acked a).callback kind) a msgId
      (o.data s.acked a).pClientCookie) := by
  cases hcb : (o.data s.acked a).callback kind with
  | none => exact hs
  | some callback =>
    refine ⟨hs.heap, hs.clients, hs.vars, fun v op a' phase hop hworks => ?_, hs.settled,
      hs.unfreed, fun c hc => ?_⟩
    · obtain ⟨o', ho'⟩ := hs.opening v op a' phase hop hworks
      exact ⟨o', ⟨ho'.owner, ho'.var, ho'.args, ho'.phase, ho'.userHandle, ho'.handle,
        ho'.acked⟩⟩
    rcases List.mem_append.mp hc with hold | hnew
    · exact hs.calls c hold
    · rw [List.mem_singleton.mp hnew]
      refine ⟨o, ho, ?_, hkind, ?_⟩
      · revert hcb
        unfold Owner.data
        split
        · contradiction
        · cases kind <;> exact fun h => by cases h
        · cases kind <;> exact fun h => by cases h
        · intro hcb
          cases kind
          all_goals
            simp only [CallbackData.callback] at hcb
            split at hcb
            · exact hcb
            · cases hcb
      · have hopening : o.phase.isSettled = false →
            (s.owner a).any (fun o => (s.opening o.pLocClientHandle).isSome) = true := by
          intro hsettled
          obtain ⟨op, hop, -⟩ := hs.settled a o ho hsettled
          rw [ho, Option.any_some, hop]
          rfl
        revert hcb hopening
        unfold Owner.data
        split
        · contradiction
        · rename_i heq
          rw [heq]
          exact fun _ hopening => .inr ⟨rfl, hopening rfl⟩
        · cases kind <;> exact fun h => by cases h
        · rename_i n heq
          rw [heq]
          intro _ hopening
          by_cases hn : 4 < n
          · exact .inl (if_pos hn)
          · exact .inr ⟨if_neg hn, hopening (decide_eq_false hn)⟩

theorem owner_of_client (hs : Sound s) {userHandle : Nat} {q : QmiClient}
    (hq : s.clients userHandle = some q) :
    ∃ o, s.owner q.indCbData = some o ∧ o.userHandle = userHandle ∧
      q.errCbData = o.errCbData q.indCbData ∧
      s.heap q.indCbData = some (o.data s.acked q.indCbData) := by
  obtain ⟨o, ho, huser, herr⟩ := (hs.clients _ _).mp hq
  exact ⟨o, ho, huser, herr, hs.heap_some ho⟩

theorem indication (hs : Sound s) {userHandle : Nat} {q : QmiClient}
    (hq : s.clients userHandle = some q) (msgId : UInt32) (decoded : Bool) :
    Sound (s.locClientIndCb userHandle msgId decoded q.indCbData) := by
  obtain ⟨o, ho, -, -, hheap⟩ := hs.owner_of_client hq
  unfold State.locClientIndCb
  rw [hheap]
  dsimp only
  split
  · exact hs
  · rename_i hme
    have hphase : o.phase ≠ .connecting := by
      intro heq
      refine hme ?_
      intro hme'
      unfold Owner.data at hme'
      rw [heq] at hme'
      cases hme'
    split
    · exact hs
    · cases htype : indType msgId with
      | none => exact hs
      | some kind =>
        dsimp only
        split
        · exact hs.call ho hphase (by rintro id ⟨⟩; exact htype)
        · exact hs

theorem error (hs : Sound s) {userHandle indCbData errCbData : Nat}
    (hq : s.clients userHandle = some ⟨indCbData, some errCbData⟩) :
    Sound (s.locClientErrorCb errCbData) := by
  obtain ⟨o, ho, -, herr, hheap⟩ := hs.owner_of_client hq
  have hphase : o.phase ≠ .connecting := by
    intro heq
    dsimp only at herr
    rw [Owner.errCbData, if_pos heq] at herr
    cases herr
  dsimp only at herr
  rw [Owner.errCbData, if_neg hphase] at herr
  cases Option.some.inj herr
  unfold State.locClientErrorCb
  rw [hheap]
  dsimp only
  split
  · exact hs
  · exact hs.call ho hphase (by rintro id ⟨⟩)

end Sound

/-! ## Runs -/

/-- If a callback for errors is to be registered, it is. -/
def ErrorCbRegistered (s : State) : Event → Bool
  | .registerErrorCb v false =>
    match s.opening v with
    | some ⟨_, _, .connecting _ _⟩ => false
    | _ => true
  | _ => true

theorem step_sound (s : State) (e : Event) (hs : Sound s) (he : ErrorCbRegistered s e = true) :
    Sound (step s e) := by
  cases e with
  | locClientOpen v args =>
    rw [step]
    cases hop : s.opening v with
    | some op => exact hs
    | none =>
      have hidle : Sound { s with
          opening := update s.opening v (some ⟨args, 1, .start⟩)
          vars := update s.vars v (s.vars v) } :=
        hs.idle v (by rw [hop]; rintro op' ⟨⟩) (by rintro op' ⟨⟩; rfl) fun _ ha => ha
      rwa [update_eq_self] at hidle
  | ctrlPointInit v alloc clnt =>
    rw [step]
    split
    · split
      · exact hs.openInit ‹_› ‹_›
      · exact hs
    · exact hs
  | registerErrorCb v ok =>
    rw [step]
    split
    · rename_i args tries a h hop
      cases ok with
      | true => exact hs.openErrorCb hop
      | false =>
        simp only [ErrorCbRegistered, hop] at he
        cases he
    · exact hs
  | registerEventMask v replies released =>
    rw [step]
    split
    · exact hs.openRegister ‹_› replies released
    · exact hs
  | fill v =>
    rw [step]
    split
    · exact hs.openFill ‹_›
    · exact hs
  | locClientSendReq v reqId pRegEventsReq replies =>
    rw [step]
    split
    · exact hs.locClientSendReq ‹_› reqId pRegEventsReq replies
    · exact hs
  | locClientClose v released =>
    rw [step]
    split
    · exact (hs.locClientClose ‹_› released).1
    · exact hs
  | close v released =>
    rw [step]
    split
    · exact (hs.locClientClose ‹_› released).2
    · exact hs
  | indication userHandle msgId decoded =>
    rw [step]
    split
    · exact hs
    · exact hs.indication ‹_› msgId decoded
  | error userHandle =>
    rw [step]
    split
    · exact hs.error ‹_›
    · exact hs

/-- The framework has the address of nothing that is freed. -/
def PointersValid (s : State) : Prop :=
  ∀ userHandle q, s.clients userHandle = some q →
    (s.heap q.indCbData).isSome ∧ ∀ p, q.errCbData = some p → (s.heap p).isSome

theorem Sound.pointersValid (hs : Sound s) : PointersValid s := by
  intro userHandle q hq
  obtain ⟨o, ho, -, herr, hheap⟩ := hs.owner_of_client hq
  rw [hheap]
  refine ⟨rfl, fun p hp => ?_⟩
  rw [herr, Owner.errCbData] at hp
  split at hp
  · cases hp
  · rw [← Option.some.inj hp, hheap]
    rfl

/-- Where the callback for errors cannot be registered, the client of the framework is left with
the address of what is freed. -/
theorem not_pointersValid (hs : Sound s) {e : Event} (he : ErrorCbRegistered s e = false) :
    ¬PointersValid (step s e) := by
  unfold ErrorCbRegistered at he
  split at he
  · rename_i v
    split at he
    · rename_i args tries a h hop
      obtain ⟨o, ho⟩ := hs.opening v _ a .connecting hop rfl
      have hclient := hs.client ho.owner
      intro hvalid
      rw [step, hop] at hvalid
      have hfreed := (hvalid _ _ hclient).1
      change (update s.heap a none a).isSome = true at hfreed
      rw [update_self] at hfreed
      cases hfreed
    · cases he
  · cases he

/-- A handle is for what the modem was last told, and accepted, if its client is not being
opened. -/
def MasksAcked (s : State) : Prop :=
  ∀ v a, s.opening v = none → s.vars v = some a →
    ∃ d userHandle, s.heap a = some d ∧ d.userHandle = some userHandle ∧
      d.eventRegMask = s.acked userHandle

theorem Sound.masksAcked (hs : Sound s) : MasksAcked s := by
  intro v a _ hv
  obtain ⟨o, ho, -, hphase⟩ := hs.vars v a hv
  obtain ⟨-, huser, hmask⟩ := Owner.data_pMe hphase s.acked a
  exact ⟨_, _, hs.heap_some ho, huser, hmask⟩

end LocationStack.LocApi.Handles
