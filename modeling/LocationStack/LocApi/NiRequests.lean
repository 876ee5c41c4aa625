import LocationStack.Lib.EventRun
import Mathlib.Logic.Function.Basic
import Mathlib.Data.List.Forall2
import Mathlib.Data.List.Nodup
import Mathlib.Tactic.Common

/-! # Network initiated requests

The network asks for the position through the modem, and a user is notified of it, and may have to
agree.  A request that the modem reports is copied, and the address of the copy goes out with the
notification.  It comes back with the answer, which waits in the queue of the thread that talks to
the modem: there the response is made of the copy, and the copy is freed.

Requests are reported in a thread of their own, so one may come between an answer and its handling,
and may be given memory that was freed before.
-/
namespace LocationStack.LocApi.Ni

open EventRun Function

/-! ## Messages of the modem -/

/-- An optional field of a message. -/
structure Field (α : Type) where
  valid : UInt8
  value : α
  deriving DecidableEq, Repr

/-- What is there if the mark is 1. -/
def Field.payload {α : Type} (f : Field α) : Option α := if f.valid = 1 then some f.value else none

/-- An array of bytes and the number of those that are set. -/
structure Chars where
  bytes : List UInt8
  len : UInt32
  deriving DecidableEq, Repr

/-- `qmiLocNiNotifyVerifyEnumT_v02` -/
inductive NotifyVerify
  | noNotifyNoVerify | notifyOnly | notifyVerifyAllowNoResp | notifyVerifyNotAllowNoResp
  | notifyVerifyPrivacyOverride
  | other (n : Int32)
  deriving DecidableEq, Repr

/-- `qmiLocNiDataCodingSchemeEnumT_v02`, as far as it is told apart. -/
inductive DataCodingScheme
  | suplUtf8 | suplUcs2 | suplGsmDefault | ssLanguageUnspec
  | other (n : Int32)
  deriving DecidableEq, Repr

/-- `qmiLocNiVxNotifyVerifyStructT_v02`; `rest` are the fields that are only copied. -/
structure VxNotifyVerify where
  requestorId : Chars
  rest : List UInt8
  deriving DecidableEq, Repr

/-- `qmiLocNiUmtsCpNotifyVerifyStructT_v02` -/
structure UmtsCpNotifyVerify where
  dataCodingScheme : DataCodingScheme
  notificationText : Chars
  clientAddress : Chars
  /-- `requestorId.dataCodingScheme` -/
  requestorIdScheme : DataCodingScheme
  /-- `requestorId.codedString` -/
  requestorId : Chars
  rest : List UInt8
  deriving DecidableEq, Repr

/-- `qmiLocNiSuplNotifyVerifyStructT_v02` -/
structure SuplNotifyVerify where
  validFlags : UInt32
  dataCodingScheme : DataCodingScheme
  requestorId : Chars
  clientName : Chars
  rest : List UInt8
  deriving DecidableEq, Repr

/-- `qmiLocEventNiNotifyVerifyReqIndMsgT_v02` -/
structure NotifyVerifyReq where
  notificationType : NotifyVerify
  niVxInd : Field VxNotifyVerify
  niSuplInd : Field SuplNotifyVerify
  niUmtsCpInd : Field UmtsCpNotifyVerify
  niVxServiceInteractionInd : Field (List UInt8)
  niSuplVer2ExtInd : Field (List UInt8)
  suplEmergencyNotification : Field (List UInt8)
  isInEmergencySession : Field UInt8
  deriving DecidableEq, Repr

/-- `qmiLocNiUserRespEnumT_v02` -/
inductive UserResp
  | accept | deny | noResp
  deriving DecidableEq, Repr

/-- `qmiLocNiUserRespReqMsgT_v02`; what is not valid in it is zero. -/
structure NiUserResp where
  userResp : UserResp
  notificationType : NotifyVerify
  niVxPayload : Option VxNotifyVerify
  niSuplPayload : Option SuplNotifyVerify
  niUmtsCpPayload : Option UmtsCpNotifyVerify
  niVxServiceInteractionPayload : Option (List UInt8)
  niSuplVer2ExtPayload : Option (List UInt8)
  suplEmergencyNotification : Option (List UInt8)
  deriving DecidableEq, Repr

/-! ## Notifications -/

inductive GnssNiType
  | voice | supl | controlPlane | emergencySupl
  deriving DecidableEq, Repr

inductive GnssNiEncodingType
  | none | gsmDefault | utf8 | ucs2
  deriving DecidableEq, Repr

inductive GnssNiResponse
  | accept | deny | noResponse
  | other (n : UInt32)
  deriving DecidableEq, Repr

inductive LocInEmergency
  | unknown | set | notSet
  deriving DecidableEq, Repr

/-- `GnssNiOptionsMask` -/
structure GnssNiOptions where
  notification : Bool
  verification : Bool
  privacyOverride : Bool
  deriving DecidableEq, Repr

structure GnssNiNotification where
  type : GnssNiType
  options : GnssNiOptions
  timeout : UInt32
  timeoutResponse : GnssNiResponse
  requestor : List UInt8
  requestorEncoding : GnssNiEncodingType
  message : List UInt8
  messageEncoding : GnssNiEncodingType
  extras : List UInt8
  deriving DecidableEq, Repr

/-- What the framework has: the sizes of the texts of a notification, two constants, and the
functions that make texts of bytes; `decodeAddress` also says how long the text is. -/
structure Framework where
  requestorSize : Nat
  messageSize : Nat
  extrasSize : Nat
  /-- `LOC_NI_NOTIF_KEY_ADDRESS` -/
  keyAddress : List UInt8
  /-- `LOC_NI_NO_RESPONSE_TIME` -/
  noResponseTime : UInt32
  hexcode : Nat → Chars → List UInt8
  decodeAddress : Nat → Chars → List UInt8 × Nat

def strlcat (size : Nat) (dst src : List UInt8) : List UInt8 :=
  dst ++ src.take (size - 1 - dst.length)

def convertNiEncoding : DataCodingScheme → GnssNiEncodingType
  | .suplUtf8 => .utf8
  | .suplUcs2 => .ucs2
  | .suplGsmDefault | .ssLanguageUnspec => .gsmDefault
  | .other _ => .none

def convertNiNotifyVerifyType (notif : GnssNiNotification) : NotifyVerify → GnssNiNotification
  | .noNotifyNoVerify => { notif with options := ⟨false, false, false⟩ }
  | .notifyOnly => { notif with options := ⟨true, false, false⟩ }
  | .notifyVerifyAllowNoResp =>
    { notif with options := ⟨true, true, false⟩, timeoutResponse := .accept }
  | .notifyVerifyNotAllowNoResp =>
    { notif with options := ⟨true, true, false⟩, timeoutResponse := .deny }
  | .notifyVerifyPrivacyOverride => { notif with options := ⟨false, false, true⟩ }
  | .other _ => notif

section
variable (fw : Framework)

def blank (type : GnssNiType) : GnssNiNotification where
  type := type
  options := ⟨false, false, false⟩
  timeout := fw.noResponseTime
  timeoutResponse := .noResponse
  requestor := []
  requestorEncoding := .none
  message := []
  messageEncoding := .none
  extras := []

def vxNotification (vx : VxNotifyVerify) : GnssNiNotification :=
  { blank fw .voice with requestor := fw.hexcode fw.requestorSize vx.requestorId }

def umtsCpExtras (umtsCp : UmtsCpNotifyVerify) : List UInt8 :=
  if umtsCp.clientAddress.len ≠ 0 then
    -- " = "
    let extras := strlcat fw.extrasSize (strlcat fw.extrasSize [] fw.keyAddress) [32, 61, 32]
    let (lcsAddr, addrLen) := fw.decodeAddress 32 umtsCp.clientAddress
    if addrLen ≠ 0 then strlcat fw.extrasSize extras lcsAddr else extras
  else []

def umtsCpNotification (umtsCp : UmtsCpNotifyVerify) : GnssNiNotification :=
  { blank fw .controlPlane with
    message := fw.hexcode fw.messageSize umtsCp.notificationText
    requestor := fw.hexcode fw.requestorSize umtsCp.requestorId
    messageEncoding := convertNiEncoding umtsCp.dataCodingScheme
    requestorEncoding := convertNiEncoding umtsCp.requestorIdScheme
    extras := umtsCpExtras fw umtsCp }

def suplNotification (supl : SuplNotifyVerify) (emergency : Bool) : GnssNiNotification :=
  let encoding :=
    if supl.validFlags &&& 0x10 ≠ 0 then convertNiEncoding supl.dataCodingScheme else .none
  { blank fw (if emergency then .emergencySupl else .supl) with
    message :=
      if supl.validFlags &&& 0x40 ≠ 0 then fw.hexcode fw.messageSize supl.clientName else []
    requestor :=
      if supl.validFlags &&& 0x20 ≠ 0 then fw.hexcode fw.requestorSize supl.requestorId else []
    messageEncoding := encoding
    requestorEncoding := encoding }

/-- The notification of the first kind of request that is there. -/
def notification (req : NotifyVerifyReq) : Option GnssNiNotification :=
  if req.niVxInd.valid = 1 then some (vxNotification fw req.niVxInd.value)
  else if req.niUmtsCpInd.valid = 1 then some (umtsCpNotification fw req.niUmtsCpInd.value)
  else if req.niSuplInd.valid = 1 then
    some (suplNotification fw req.niSuplInd.value (req.suplEmergencyNotification.valid == 1))
  else none

end

def emergencyState (req : NotifyVerifyReq) : LocInEmergency :=
  if req.isInEmergencySession.valid ≠ 0 then
    if req.isInEmergencySession.value ≠ 0 then .set else .notSet
  else if req.suplEmergencyNotification.valid ≠ 0 then .set
  else .unknown

/-! ## Responses -/

def userResp : GnssNiResponse → Option UserResp
  | .accept => some .accept
  | .deny => some .deny
  | .noResponse => some .noResp
  | .other _ => none

/-- The response to the request that `req` is the copy of. -/
def niResp (resp : UserResp) (req : NotifyVerifyReq) : NiUserResp where
  userResp := resp
  notificationType := req.notificationType
  niVxPayload := req.niVxInd.payload
  niSuplPayload := req.niSuplInd.payload
  niUmtsCpPayload := req.niUmtsCpInd.payload
  niVxServiceInteractionPayload := req.niVxServiceInteractionInd.payload
  niSuplVer2ExtPayload := req.niSuplVer2ExtInd.payload
  suplEmergencyNotification :=
    if req.suplEmergencyNotification.valid ≠ 0 then some req.suplEmergencyNotification.value
    else none

/-! ## Runs -/

/-- What `requestNiNotify` is called with, and the request. -/
structure Delivery where
  notif : GnssNiNotification
  data : Nat
  emergencyState : LocInEmergency
  req : NotifyVerifyReq
  deriving DecidableEq, Repr

/-- A copy, and the number of the delivery that it was made for. -/
structure Copy where
  req : NotifyVerifyReq
  number : Nat
  deriving DecidableEq, Repr

/-- An answer in the queue; `meant` is the delivery whose copy was there when it was given. -/
structure Answer where
  userResponse : GnssNiResponse
  passThroughData : Nat
  meant : Option Nat
  deriving DecidableEq, Repr

/-- An answer that was handled; `found` is the delivery whose copy was there then. -/
structure Handled where
  userResponse : GnssNiResponse
  meant : Option Nat
  found : Option Nat
  deriving DecidableEq, Repr

structure State where
  heap : Nat → Option Copy
  delivered : List Delivery
  queue : List Answer
  handled : List Handled
  /-- The responses that the modem was sent. -/
  sent : List NiUserResp

def State.init : State where
  heap := fun _ => none
  delivered := []
  queue := []
  handled := []
  sent := []

inductive Event
  /-- The modem reports a request; `alloc` is what is allocated for its copy. -/
  | reportNiRequest (req : NotifyVerifyReq) (alloc : Option Nat)
  | informNiResponse (userResponse : GnssNiResponse) (passThroughData : Nat)
  /-- The next answer of the queue is handled. -/
  | work
  deriving DecidableEq, Repr

namespace State
variable (fw : Framework)

def reportNiRequest (s : State) (req : NotifyVerifyReq) (alloc : Option Nat) : State :=
  match notification fw req, alloc with
  | some notif, some p =>
    -- Memory that is in use is not allocated again.
    if (s.heap p).isSome then s
    else
      { s with
        heap := update s.heap p (some ⟨req, s.delivered.length⟩)
        delivered := s.delivered ++
          [⟨convertNiNotifyVerifyType notif req.notificationType, p, Ni.emergencyState req, req⟩] }
  | _, _ => s

/-- The copy at an address is of this delivery. -/
def number (s : State) (p : Nat) : Option Nat := (s.heap p).map Copy.number

def informNiResponse (s : State) (userResponse : GnssNiResponse) (p : Nat) : State :=
  { s with queue := s.queue ++ [⟨userResponse, p, s.number p⟩] }

/-- The copy is freed whatever the answer is; one that the modem has no name for sends nothing. -/
def handle (s : State) (a : Answer) : State :=
  { s with
    heap := update s.heap a.passThroughData none
    handled := s.handled ++ [⟨a.userResponse, a.meant, s.number a.passThroughData⟩]
    sent :=
      match userResp a.userResponse, s.heap a.passThroughData with
      | some resp, some copy => s.sent ++ [niResp resp copy.req]
      | _, _ => s.sent }

def work (s : State) : State :=
  match s.queue with
  | [] => s
  | a :: queue => { s.handle a with queue := queue }

end State

def step (fw : Framework) (s : State) : Event → State
  | .reportNiRequest req alloc => s.reportNiRequest fw req alloc
  | .informNiResponse userResponse p => s.informNiResponse userResponse p
  | .work => s.work

/-- The memory that an answer comes with holds a copy, and no answer with it waits. -/
def Outstanding (s : State) : Event → Prop
  | .informNiResponse _ p => (s.heap p).isSome ∧ ∀ a ∈ s.queue, a.passThroughData ≠ p
  | _ => True

instance decOutstanding (s : State) : ∀ e, Decidable (Outstanding s e)
  | .informNiResponse _ _ => inferInstanceAs (Decidable (_ ∧ _))
  | .reportNiRequest _ _ | .work => isTrue trivial

/-- Each answer that was handled found the copy that it was given for. -/
def Safe (s : State) : Prop := ∀ h ∈ s.handled, h.meant.isSome ∧ h.found = h.meant

/-- The deliveries that answers were given for, in their order. -/
def State.posted (s : State) : List (Option Nat) :=
  s.handled.map Handled.meant ++ s.queue.map Answer.meant

/-- What a response says of the notification of the request: it has the payload of the
notification's type, and it has no payload but those of the request. -/
structure NiUserResp.Answers (resp : NiUserResp) (d : Delivery) : Prop where
  notificationType : resp.notificationType = d.req.notificationType
  carried :
    match d.notif.type with
    | .voice => resp.niVxPayload = some d.req.niVxInd.value
    | .controlPlane => resp.niUmtsCpPayload = some d.req.niUmtsCpInd.value
    | .supl => resp.niSuplPayload = some d.req.niSuplInd.value
    | .emergencySupl => resp.niSuplPayload = some d.req.niSuplInd.value ∧
      resp.suplEmergencyNotification = some d.req.suplEmergencyNotification.value
  niVxPayload : ∀ x, resp.niVxPayload = some x → d.req.niVxInd = ⟨1, x⟩
  niSuplPayload : ∀ x, resp.niSuplPayload = some x → d.req.niSuplInd = ⟨1, x⟩
  niUmtsCpPayload : ∀ x, resp.niUmtsCpPayload = some x → d.req.niUmtsCpInd = ⟨1, x⟩

section
variable {fw : Framework}

theorem payload_eq_some {α : Type} {f : Field α} {x : α} : f.payload = some x ↔ f = ⟨1, x⟩ := by
  obtain ⟨valid, value⟩ := f
  unfold Field.payload
  constructor
  · intro h
    split at h
    · rename_i hv
      cases hv
      cases h
      rfl
    · cases h
  · rintro ⟨⟩
    rfl

theorem convertNiNotifyVerifyType_type (notif : GnssNiNotification) (n : NotifyVerify) :
    (convertNiNotifyVerifyType notif n).type = notif.type := by
  cases n <;> rfl

/-- The type of a notification is that of a payload that is valid. -/
theorem niResp_carried {req : NotifyVerifyReq} {notif : GnssNiNotification}
    (hnotif : notification fw req = some notif) (resp : UserResp) :
    match notif.type with
    | .voice => (niResp resp req).niVxPayload = some req.niVxInd.value
    | .controlPlane => (niResp resp req).niUmtsCpPayload = some req.niUmtsCpInd.value
    | .supl => (niResp resp req).niSuplPayload = some req.niSuplInd.value
    | .emergencySupl => (niResp resp req).niSuplPayload = some req.niSuplInd.value ∧
      (niResp resp req).suplEmergencyNotification = some req.suplEmergencyNotification.value := by
  unfold notification at hnotif
  split at hnotif
  · rename_i hvx
    cases hnotif
    exact if_pos hvx
  · split at hnotif
    · rename_i humts
      cases hnotif
      exact if_pos humts
    · split at hnotif
      · rename_i hsupl
        cases hnotif
        have hpayload : (niResp resp req).niSuplPayload = some req.niSuplInd.value := if_pos hsupl
        cases hes : req.suplEmergencyNotification.valid == 1 with
        | false => exact hpayload
        | true =>
          have hvalid : req.suplEmergencyNotification.valid ≠ 0 := by
            rw [eq_of_beq hes]
            decide
          exact ⟨hpayload, if_pos hvalid⟩
      · cases hnotif

theorem niResp_answers {req : NotifyVerifyReq} {notif : GnssNiNotification}
    (hnotif : notification fw req = some notif) (resp : UserResp) (p : Nat)
    (emergency : LocInEmergency) :
    (niResp resp req).Answers
      ⟨convertNiNotifyVerifyType notif req.notificationType, p, emergency, req⟩ where
  notificationType := rfl
  carried := by
    rw [convertNiNotifyVerifyType_type]
    exact niResp_carried hnotif resp
  niVxPayload := fun _ h => payload_eq_some.mp h
  niSuplPayload := fun _ h => payload_eq_some.mp h
  niUmtsCpPayload := fun _ h => payload_eq_some.mp h

/-! ## Copies and their numbers -/

/-- What holds whatever answers are given: every delivery has one copy, at the address that went
out with it, until an answer finds it there, and only one answer does. -/
structure Numbered (fw : Framework) (s : State) : Prop where
  live : ∀ p c, s.heap p = some c →
    ∃ d, s.delivered[c.number]? = some d ∧ d.data = p ∧ d.req = c.req
  once : (s.handled.filterMap Handled.found).Nodup
  gone : ∀ n ∈ s.handled.filterMap Handled.found,
    n < s.delivered.length ∧ ∀ p, s.number p ≠ some n
  kept : ∀ n < s.delivered.length,
    n ∈ s.handled.filterMap Handled.found ∨ ∃ p, s.number p = some n
  answers : ∀ d ∈ s.delivered, ∀ resp, (niResp resp d.req).Answers d
  sent : List.Forall₂
    (fun h resp => ∃ n d, h.found = some n ∧ s.delivered[n]? = some d ∧
      userResp h.userResponse = some resp.userResp ∧ resp.Answers d)
    (s.handled.filter fun h => (userResp h.userResponse).isSome && h.found.isSome) s.sent

theorem number_eq_some {s : State} {p n : Nat} :
    s.number p = some n ↔ ∃ c, s.heap p = some c ∧ c.number = n :=
  Option.map_eq_some_iff

namespace Numbered
variable {s : State}

theorem init : Numbered fw .init where
  live := by rintro p c ⟨⟩
  once := List.nodup_nil
  gone := by rintro n ⟨⟩
  kept := by rintro n ⟨⟩
  answers := by rintro d ⟨⟩
  sent := .nil

theorem lt (hs : Numbered fw s) {p n : Nat} (hn : s.number p = some n) :
    n < s.delivered.length := by
  obtain ⟨c, hc, rfl⟩ := number_eq_some.mp hn
  obtain ⟨d, hd, -⟩ := hs.live p c hc
  exact (List.getElem?_eq_some_iff.mp hd).1

/-- A copy is at the address that went out with it. -/
theorem address (hs : Numbered fw s) {p q n : Nat} (hp : s.number p = some n)
    (hq : s.number q = some n) : p = q := by
  obtain ⟨c, hc, hcn⟩ := number_eq_some.mp hp
  obtain ⟨c', hc', hcn'⟩ := number_eq_some.mp hq
  obtain ⟨d, hd, hdata, -⟩ := hs.live p c hc
  obtain ⟨d', hd', hdata', -⟩ := hs.live q c' hc'
  rw [hcn] at hd
  rw [hcn', hd] at hd'
  rw [← hdata, ← hdata', Option.some.inj hd']

theorem reportNiRequest (hs : Numbered fw s) (req : NotifyVerifyReq) (alloc : Option Nat) :
    Numbered fw (s.reportNiRequest fw req alloc) := by
  unfold State.reportNiRequest
  split
  · rename_i notif p hnotif
    split
    · exact hs
    · rename_i hfree
      have hfree : s.heap p = none := Option.not_isSome_iff_eq_none.mp hfree
      have hother {q n : Nat} (hq : s.number q = some n) : q ≠ p := by
        rintro rfl
        rw [State.number, hfree] at hq
        cases hq
      have hkeep {n : Nat} {d : Delivery} (new : Delivery) (hd : s.delivered[n]? = some d) :
          (s.delivered ++ [new])[n]? = some d := by
        rw [List.getElem?_append_left (List.getElem?_eq_some_iff.mp hd).1]
        exact hd
      refine ⟨?_, hs.once, ?_, ?_, ?_, ?_⟩
      · intro q c hq
        by_cases hqp : q = p
        · subst hqp
          dsimp only at hq
          rw [update_self] at hq
          cases hq
          exact ⟨_, List.getElem?_concat_length, rfl, rfl⟩
        · dsimp only at hq
          rw [update_of_ne hqp] at hq
          obtain ⟨d, hd, hdata⟩ := hs.live q c hq
          exact ⟨d, hkeep _ hd, hdata⟩
      · intro n hn
        obtain ⟨hlt, hnone⟩ := hs.gone n hn
        refine ⟨?_, fun q hq => ?_⟩
        · rw [List.length_append]
          exact Nat.lt_succ_of_lt hlt
        · by_cases hqp : q = p
          · subst hqp
            dsimp only [State.number] at hq
            rw [update_self] at hq
            cases hq
            exact Nat.lt_irrefl _ hlt
          · dsimp only [State.number] at hq
            rw [update_of_ne hqp] at hq
            exact hnone q hq
      · intro n hn
        rw [List.length_append] at hn
        rcases Nat.lt_succ_iff_lt_or_eq.mp hn with hlt | rfl
        · rcases hs.kept n hlt with hgone | ⟨q, hq⟩
          · exact .inl hgone
          · refine .inr ⟨q, ?_⟩
            dsimp only [State.number]
            rw [update_of_ne (hother hq)]
            exact hq
        · refine .inr ⟨p, ?_⟩
          dsimp only [State.number]
          rw [update_self]
          rfl
      · intro d hd resp
        rcases List.mem_append.mp hd with hold | hnew
        · exact hs.answers d hold resp
        · rw [List.mem_singleton.mp hnew]
          exact niResp_answers hnotif resp p _
      · refine hs.sent.imp ?_
        rintro h resp ⟨n, d, hn, hd, hresp⟩
        exact ⟨n, d, hn, hkeep _ hd, hresp⟩
  · exact hs

theorem number_handle (s : State) (a : Answer) (q : Nat) :
    (s.handle a).number q = if q = a.passThroughData then none else s.number q := by
  unfold State.number State.handle
  dsimp only
  by_cases hq : q = a.passThroughData
  · rw [if_pos hq, hq, update_self]
    rfl
  · rw [if_neg hq, update_of_ne hq]

theorem found_handle (s : State) (a : Answer) :
    (s.handle a).handled.filterMap Handled.found =
      s.handled.filterMap Handled.found ++ (s.number a.passThroughData).toList := by
  unfold State.handle
  dsimp only
  rw [List.filterMap_append, List.filterMap_cons, List.filterMap_nil]
  dsimp only
  cases s.number a.passThroughData <;> rfl

theorem sent_handle (hs : Numbered fw s) (a : Answer) :
    List.Forall₂ (fun h resp => ∃ n d, h.found = some n ∧ s.delivered[n]? = some d ∧
      userResp h.userResponse = some resp.userResp ∧ resp.Answers d)
      ((s.handle a).handled.filter fun h => (userResp h.userResponse).isSome && h.found.isSome)
      (s.handle a).sent := by
  unfold State.handle
  dsimp only
  rw [List.filter_append]
  cases hresp : userResp a.userResponse with
  | none =>
    rw [List.filter_cons_of_neg (by simp [hresp]), List.filter_nil, List.append_nil]
    exact hs.sent
  | some resp =>
    cases hcopy : s.heap a.passThroughData with
    | none =>
      rw [List.filter_cons_of_neg (by simp [State.number, hcopy]), List.filter_nil,
        List.append_nil]
      exact hs.sent
    | some copy =>
      have hnumber : s.number a.passThroughData = some copy.number :=
        number_eq_some.mpr ⟨copy, hcopy, rfl⟩
      obtain ⟨d, hd, -, hreq⟩ := hs.live _ _ hcopy
      have hanswers := hs.answers d (List.mem_of_getElem? hd) resp
      rw [hreq] at hanswers
      rw [List.filter_cons_of_pos (by simp [hresp, hnumber]), List.filter_nil]
      exact List.rel_append hs.sent (.cons ⟨_, d, hnumber, hd, hresp, hanswers⟩ .nil)

theorem handle (hs : Numbered fw s) (a : Answer) : Numbered fw (s.handle a) := by
  refine ⟨?_, ?_, ?_, ?_, hs.answers, hs.sent_handle a⟩
  · intro q c hq
    by_cases hqp : q = a.passThroughData
    · rw [hqp, State.handle] at hq
      dsimp only at hq
      rw [update_self] at hq
      cases hq
    · rw [State.handle] at hq
      dsimp only at hq
      rw [update_of_ne hqp] at hq
      exact hs.live q c hq
  · rw [found_handle]
    cases hn : s.number a.passThroughData with
    | none =>
      rw [Option.toList_none, List.append_nil]
      exact hs.once
    | some n =>
      refine List.nodup_append.mpr ⟨hs.once, List.nodup_singleton n, ?_⟩
      rintro m hm m' hm' rfl
      rw [Option.toList_some, List.mem_singleton] at hm'
      subst hm'
      exact (hs.gone m hm).2 _ hn
  · intro n hn
    rw [found_handle] at hn
    rcases List.mem_append.mp hn with hold | hnew
    · obtain ⟨hlt, hnone⟩ := hs.gone n hold
      refine ⟨hlt, fun q hq => ?_⟩
      rw [number_handle] at hq
      split at hq
      · cases hq
      · exact hnone q hq
    · have hfound : s.number a.passThroughData = some n := Option.mem_toList.mp hnew
      refine ⟨hs.lt hfound, fun q hq => ?_⟩
      rw [number_handle] at hq
      split at hq
      · cases hq
      · exact absurd (hs.address hq hfound) ‹_›
  · intro n hn
    rw [found_handle]
    rcases hs.kept n hn with hgone | ⟨q, hq⟩
    · exact .inl (List.mem_append_left _ hgone)
    · by_cases hqp : q = a.passThroughData
      · subst hqp
        exact .inl (List.mem_append_right _ (Option.mem_toList.mpr hq))
      · refine .inr ⟨q, ?_⟩
        rw [number_handle, if_neg hqp]
        exact hq

/-- Who waits in the queue makes no difference. -/
theorem queue (hs : Numbered fw s) (queue : List Answer) :
    Numbered fw { s with queue := queue } :=
  ⟨hs.live, hs.once, hs.gone, hs.kept, hs.answers, hs.sent⟩

theorem step (hs : Numbered fw s) (e : Event) : Numbered fw (step fw s e) := by
  cases e with
  | reportNiRequest req alloc => exact hs.reportNiRequest req alloc
  | informNiResponse userResponse p => exact hs.queue _
  | work =>
    change Numbered fw s.work
    unfold State.work
    split
    · exact hs
    · exact (hs.handle _).queue _

end Numbered

/-! ## Answers -/

theorem posted_informNiResponse (s : State) (userResponse : GnssNiResponse) (p : Nat) :
    (s.informNiResponse userResponse p).posted = s.posted ++ [s.number p] := by
  unfold State.posted State.informNiResponse
  dsimp only
  rw [List.map_append, List.append_assoc]
  rfl

theorem posted_reportNiRequest (s : State) (req : NotifyVerifyReq) (alloc : Option Nat) :
    (s.reportNiRequest fw req alloc).posted = s.posted := by
  unfold State.reportNiRequest
  split
  · split <;> rfl
  · rfl

theorem posted_work (s : State) : s.work.posted = s.posted := by
  unfold State.work
  split
  · rfl
  · rename_i a queue hq
    unfold State.posted State.handle
    dsimp only
    rw [hq, List.map_append, List.append_assoc]
    rfl

theorem posted_step (s : State) (e : Event) : s.posted <+: (step fw s e).posted := by
  cases e with
  | reportNiRequest req alloc =>
    rw [step, posted_reportNiRequest]
  | informNiResponse userResponse p =>
    rw [step, posted_informNiResponse]
    exact List.prefix_append _ _
  | work =>
    rw [step, posted_work]

theorem posted_run (fw : Framework) (s : State) (es : List Event) :
    s.posted <+: (run (step fw) s es).posted := by
  induction es generalizing s with
  | nil => exact List.prefix_refl _
  | cons e es ih => exact (posted_step s e).trans (ih _)

/-- What holds as long as the answers are given for copies that are there, each once. -/
structure Sound (fw : Framework) (s : State) : Prop where
  numbered : Numbered fw s
  meant : ∀ a ∈ s.queue, a.meant.isSome ∧ s.number a.passThroughData = a.meant
  nodup : s.posted.Nodup
  safe : Safe s

namespace Sound
variable {s : State}

theorem init : Sound fw .init where
  numbered := .init
  meant := by rintro a ⟨⟩
  nodup := List.nodup_nil
  safe := by rintro h ⟨⟩

theorem reportNiRequest (hs : Sound fw s) (req : NotifyVerifyReq) (alloc : Option Nat) :
    Sound fw (s.reportNiRequest fw req alloc) where
  numbered := hs.numbered.reportNiRequest req alloc
  nodup := by
    rw [posted_reportNiRequest]
    exact hs.nodup
  meant := by
    unfold State.reportNiRequest
    split
    · rename_i notif p hnotif
      split
      · exact hs.meant
      · rename_i hfree
        intro a ha
        obtain ⟨hsome, hnumber⟩ := hs.meant a ha
        refine ⟨hsome, ?_⟩
        have hne : a.passThroughData ≠ p := by
          rintro rfl
          rw [← hnumber, State.number, Option.isSome_map] at hsome
          exact hfree hsome
        dsimp only [State.number]
        rw [update_of_ne hne]
        exact hnumber
    · exact hs.meant
  safe := by
    unfold State.reportNiRequest
    split
    · split <;> exact hs.safe
    · exact hs.safe

/-- No answer was given for a copy that is there, but for those that wait with its address. -/
theorem not_posted (hs : Sound fw s) {p n : Nat} (hn : s.number p = some n)
    (hp : ∀ a ∈ s.queue, a.passThroughData ≠ p) : some n ∉ s.posted := by
  intro hposted
  rcases List.mem_append.mp hposted with hdone | hwaits
  · obtain ⟨h, hh, hmeant⟩ := List.mem_map.mp hdone
    have hfound : h.found = some n := (hs.safe h hh).2.trans hmeant
    exact (hs.numbered.gone n (List.mem_filterMap.mpr ⟨h, hh, hfound⟩)).2 p hn
  · obtain ⟨a, ha, hmeant⟩ := List.mem_map.mp hwaits
    have hnumber := (hs.meant a ha).2.trans hmeant
    exact hp a ha (hs.numbered.address hnumber hn)

theorem informNiResponse (hs : Sound fw s) (userResponse : GnssNiResponse) {p : Nat}
    (hlive : (s.heap p).isSome) (hp : ∀ a ∈ s.queue, a.passThroughData ≠ p) :
    Sound fw (s.informNiResponse userResponse p) where
  numbered := hs.numbered.queue _
  meant := by
    intro a ha
    rcases List.mem_append.mp ha with hold | hnew
    · exact hs.meant a hold
    · rw [List.mem_singleton.mp hnew]
      refine ⟨?_, rfl⟩
      rw [State.number, Option.isSome_map]
      exact hlive
  nodup := by
    rw [posted_informNiResponse]
    refine List.nodup_append.mpr ⟨hs.nodup, List.nodup_singleton _, ?_⟩
    rintro m hm m' hm' rfl
    obtain ⟨c, hc⟩ := Option.isSome_iff_exists.mp hlive
    have hn : s.number p = some c.number := number_eq_some.mpr ⟨c, hc, rfl⟩
    rw [List.mem_singleton, hn] at hm'
    exact hs.not_posted hn hp (hm' ▸ hm)
  safe := hs.safe

theorem work (hs : Sound fw s) : Sound fw s.work := by
  have hnodup := hs.nodup
  refine ⟨hs.numbered.step .work, ?_, (posted_work s).symm ▸ hnodup, ?_⟩
  · unfold State.work
    split
    · exact hs.meant
    · rename_i a queue hq
      intro b hb
      obtain ⟨hsome, hnumber⟩ := hs.meant b (hq ▸ List.mem_cons_of_mem a hb)
      have hne : b.passThroughData ≠ a.passThroughData := by
        -- Otherwise the two answers are for the same copy.
        intro heq
        have hmeant : b.meant = a.meant := by
          rw [← hnumber, heq]
          exact (hs.meant a (hq ▸ List.mem_cons_self)).2
        rw [State.posted, hq, List.map_cons] at hnodup
        have htail := (List.nodup_append.mp hnodup).2.1
        exact (List.nodup_cons.mp htail).1 (hmeant ▸ List.mem_map_of_mem hb)
      refine ⟨hsome, ?_⟩
      change (s.handle a).number b.passThroughData = b.meant
      rw [Numbered.number_handle, if_neg hne]
      exact hnumber
  · unfold State.work
    split
    · exact hs.safe
    · rename_i a queue hq
      intro h hh
      rcases List.mem_append.mp hh with hold | hnew
      · exact hs.safe h hold
      · rw [List.mem_singleton.mp hnew]
        exact hs.meant a (hq ▸ List.mem_cons_self)

theorem step (hs : Sound fw s) (e : Event) (he : Outstanding s e) : Sound fw (step fw s e) := by
  cases e with
  | reportNiRequest req alloc => exact hs.reportNiRequest req alloc
  | informNiResponse userResponse p => exact hs.informNiResponse userResponse he.1 he.2
  | work => exact hs.work

end Sound

/-- The answers are for copies that were there, each for another. -/
def EachOnce (s : State) : Prop := s.posted.Nodup ∧ ∀ m ∈ s.posted, m.isSome

theorem Sound.eachOnce {s : State} (hs : Sound fw s) : EachOnce s := by
  refine ⟨hs.nodup, fun m hm => ?_⟩
  rcases List.mem_append.mp hm with hdone | hwaits
  · obtain ⟨h, hh, rfl⟩ := List.mem_map.mp hdone
    exact (hs.safe h hh).1
  · obtain ⟨a, ha, rfl⟩ := List.mem_map.mp hwaits
    exact (hs.meant a ha).1

theorem Sound.outstanding {s : State} (hs : Sound fw s) {e : Event}
    (honce : EachOnce (Ni.step fw s e)) : Outstanding s e := by
  cases e with
  | reportNiRequest req alloc => trivial
  | work => trivial
  | informNiResponse userResponse p =>
    rw [Ni.step, EachOnce, posted_informNiResponse] at honce
    obtain ⟨hnodup, hsome⟩ := honce
    constructor
    · have hp := hsome _ (List.mem_append_right _ List.mem_cons_self)
      rwa [State.number, Option.isSome_map] at hp
    · rintro a ha rfl
      have hmeant := (hs.meant a ha).2
      have hmem : a.meant ∈ s.posted := List.mem_append_right _ (List.mem_map_of_mem ha)
      exact (List.nodup_append.mp hnodup).2.2 _ hmem _ List.mem_cons_self hmeant.symm

theorem eachOnce_iff (es : List Event) :
    EachOnce (run (step fw) .init es) ↔ Meets (step fw) Outstanding .init es := by
  rw [← throughout_iff_meets_of_step (fun s (hs : Sound fw s) => hs.eachOnce)
    (fun s e hs he => hs.step e he) (fun s e hs honce => hs.outstanding honce) Sound.init]
  constructor
  · intro honce
    refine throughout_iff_run.mpr fun pre hpre => ?_
    obtain ⟨post, rfl⟩ := hpre
    have hpart := posted_run fw (run (step fw) .init pre) post
    rw [run_append] at honce
    exact ⟨honce.1.sublist hpart.sublist, fun m hm => honce.2 m (hpart.subset hm)⟩
  · exact fun h => h.last

/-! ## When the queue is empty -/

/-- The run, and the handling of what waits after it. -/
def settled (fw : Framework) (es : List Event) : State :=
  run (step fw) (run (step fw) .init es)
    (List.replicate (run (step fw) .init es).queue.length .work)

theorem run_work (fw : Framework) (s : State) (n : Nat) :
    (run (step fw) s (List.replicate n .work)).queue = s.queue.drop n ∧
      (run (step fw) s (List.replicate n .work)).posted = s.posted := by
  induction n generalizing s with
  | zero => exact ⟨rfl, rfl⟩
  | succ n ih =>
    obtain ⟨hqueue, hposted⟩ := ih s.work
    rw [List.replicate_succ]
    refine ⟨hqueue.trans ?_, hposted.trans (posted_work s)⟩
    unfold State.work
    split
    · rename_i hq
      rw [hq, List.drop_nil, List.drop_nil]
    · rename_i a queue hq
      rw [hq, List.drop_succ_cons]

theorem Sound.run_work {s : State} (hs : Sound fw s) (n : Nat) :
    Sound fw (run (Ni.step fw) s (List.replicate n .work)) := by
  induction n generalizing s with
  | zero => exact hs
  | succ n ih => exact ih hs.work

theorem Numbered.eachOnce {s : State} (hs : Numbered fw s) (hqueue : s.queue = [])
    (hsafe : Safe s) : EachOnce s := by
  have hposted : s.posted = s.handled.map Handled.meant := by
    rw [State.posted, hqueue, List.map_nil, List.append_nil]
  have hfound : s.handled.map Handled.meant = (s.handled.filterMap Handled.found).map some := by
    unfold Safe at hsafe
    revert hsafe
    generalize s.handled = handled
    intro hall
    induction handled with
    | nil => rfl
    | cons h handled ih =>
      obtain ⟨hsome, heq⟩ := hall h List.mem_cons_self
      obtain ⟨n, hn⟩ := Option.isSome_iff_exists.mp hsome
      rw [List.map_cons, List.filterMap_cons_some (heq.trans hn), List.map_cons, hn,
        ih fun h' hh' => hall h' (List.mem_cons_of_mem _ hh')]
  rw [EachOnce, hposted, hfound]
  constructor
  · exact hs.once.map fun _ _ => Option.some.inj
  · intro m hm
    obtain ⟨n, -, rfl⟩ := List.mem_map.mp hm
    rfl

/-- **Answers and copies.**  However requests, answers and their handling take turns, and whatever
memory is allocated again, each answer finds the copy that it was given for, once all of them are
handled, if and only if each is given for a copy that is there and that no answer waits for. -/
theorem answers_find_copies_iff (fw : Framework) (es : List Event) :
    Safe (settled fw es) ↔ Meets (step fw) Outstanding .init es := by
  obtain ⟨hqueue, hposted⟩ :=
    run_work fw (run (step fw) .init es) (run (step fw) .init es).queue.length
  rw [List.drop_length] at hqueue
  constructor
  · intro hsafe
    have hnumbered : Numbered fw (settled fw es) :=
      invariant (fun s e hs => hs.step e) (invariant (fun s e hs => hs.step e) Numbered.init es) _
    have honce := hnumbered.eachOnce hqueue hsafe
    rw [EachOnce, settled, hposted] at honce
    exact (eachOnce_iff es).mp honce
  · intro hmeets
    have hsound : Throughout (step fw) (Sound fw) .init es :=
      throughout_of_meets (fun s e hs he => hs.step e he) Sound.init hmeets
    exact (hsound.last.run_work _).safe

/-! ## Responses -/

/-- What the modem is told. -/
structure Answered (s : State) : Prop where
  /-- No delivery is answered twice. -/
  once : (s.handled.map Handled.meant).Nodup
  /-- The responses are those to the answers that were handled, in their order. -/
  sent : List.Forall₂
    (fun h resp => ∃ n d, h.meant = some n ∧ s.delivered[n]? = some d ∧
      userResp h.userResponse = some resp.userResp ∧ resp.Answers d)
    (s.handled.filter fun h => (userResp h.userResponse).isSome) s.sent
  /-- The copies that are kept are those of the deliveries that are not answered. -/
  kept : ∀ n < s.delivered.length,
    (∃ p, s.number p = some n) ↔ some n ∉ s.handled.map Handled.meant

theorem Sound.answered {s : State} (hs : Sound fw s) : Answered s where
  once := (List.nodup_append.mp hs.nodup).1
  sent := by
    have hfilter : (s.handled.filter fun h => (userResp h.userResponse).isSome) =
        s.handled.filter fun h => (userResp h.userResponse).isSome && h.found.isSome := by
      refine List.filter_congr fun h hh => ?_
      obtain ⟨hsome, hfound⟩ := hs.safe h hh
      rw [hfound, hsome, Bool.and_true]
    rw [hfilter]
    have hall : ∀ h ∈ s.handled.filter fun h =>
        (userResp h.userResponse).isSome && h.found.isSome, h.found = h.meant :=
      fun h hh => (hs.safe h (List.mem_of_mem_filter hh)).2
    refine ((List.forall₂_and_left _ _).mpr ⟨hall, hs.numbered.sent⟩).imp ?_
    rintro h resp ⟨hfound, n, d, hn, hresp⟩
    exact ⟨n, d, hfound ▸ hn, hresp⟩
  kept := by
    intro n hn
    have hmem : some n ∈ s.handled.map Handled.meant ↔ n ∈ s.handled.filterMap Handled.found := by
      rw [List.mem_map, List.mem_filterMap]
      refine exists_congr fun h => and_congr_right fun hh => ?_
      rw [(hs.safe h hh).2]
    rw [hmem]
    constructor
    · rintro ⟨p, hp⟩ hgone
      exact (hs.numbered.gone n hgone).2 p hp
    · exact fun hkept => (hs.numbered.kept n hn).resolve_left hkept

/-- A framework whose texts are the bytes that are set. -/
def sampleFramework : Framework where
  requestorSize := 256
  messageSize := 2048
  extrasSize := 256
  keyAddress := [65]
  noResponseTime := 20
  hexcode := fun _ chars => chars.bytes.take chars.len.toNat
  decodeAddress := fun _ chars => (chars.bytes, chars.bytes.length)

/-- A request over SUPL, or for a call. -/
def sampleReq (voice : Bool) : NotifyVerifyReq where
  notificationType := .notifyVerifyAllowNoResp
  niVxInd := ⟨if voice then 1 else 0, ⟨⟨[49, 50], 2⟩, []⟩⟩
  niSuplInd := ⟨if voice then 0 else 1, ⟨0x40, .suplUtf8, ⟨[], 0⟩, ⟨[51], 1⟩, []⟩⟩
  niUmtsCpInd := ⟨0, ⟨.suplUtf8, ⟨[], 0⟩, ⟨[], 0⟩, .suplUtf8, ⟨[], 0⟩, []⟩⟩
  niVxServiceInteractionInd := ⟨0, []⟩
  niSuplVer2ExtInd := ⟨0, []⟩
  suplEmergencyNotification := ⟨1, [52]⟩
  isInEmergencySession := ⟨0, 0⟩

end

end LocationStack.LocApi.Ni
