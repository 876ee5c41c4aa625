import Mathlib.Data.List.Nodup
import LocationStack.Lib.EventRun

/-! # The single shots of the QAPI

A single shot is a position session of the QAPI's client object together with a running timer:
whichever comes first, a report or the timer's expiry, stops the session and calls the client's
`singleShotCb`.  Nothing records the request but the timer's flag `mStarted`.

The `qapi_Loc` calls hold one mutex and are one event each.  The callbacks do not take it.  A
report's callback tests the flag, and then acts on what it saw; the timer expires, and then its
callback acts.  Both are two events, and any call can come in between.  The timer itself is the
platform's: it fires once, starting it while it runs changes nothing, and stopping it after it
has expired does not stop its callback.

The requests are numbered as they are accepted.  `pending` are those neither answered, cancelled
nor ended with their client, and a `singleShotCb` answers all that are pending, since it stops
the session and the timer they share.  The client is taken to have given a `singleShotCb`.
-/
namespace LocationStack
namespace Qapi

open EventRun

/-- The callback a position session was started with. -/
inductive SessionCb where
  | location_tracking_callback
  | gnss_location_tracking_callback
  deriving DecidableEq, Repr

/-- A client object and its position session, if one is running. -/
structure ClientApi where
  session : Option SessionCb
  deriving DecidableEq, Repr

inductive PowerLevel where
  | QAPI_LOCATION_POWER_HIGH
  | QAPI_LOCATION_POWER_LOW
  | QAPI_LOCATION_POWER_MED
  deriving DecidableEq, Repr

inductive Error where
  | QAPI_LOCATION_ERROR_SUCCESS
  | QAPI_LOCATION_ERROR_TIMEOUT
  deriving DecidableEq, Repr

/-- A call of `singleShotCb`, with the requests that were pending. -/
structure SingleShotCb where
  error : Error
  answers : List Nat
  deriving DecidableEq, Repr

/-! ## Requests and answers -/

/-- The requests so far: how many were accepted, which are pending, and the callbacks made. -/
structure Requests where
  accepted : Nat
  pending : List Nat
  singleShotCbs : List SingleShotCb
  deriving DecidableEq, Repr

namespace Requests

/-- The requests that have been answered, in order. -/
def answered (r : Requests) : List Nat := r.singleShotCbs.flatMap (·.answers)

def accept (r : Requests) : Requests :=
  { r with accepted := r.accepted + 1, pending := r.pending ++ [r.accepted] }

/-- The pending requests are cancelled, or end with their client. -/
def drop (r : Requests) : Requests := { r with pending := [] }

def answer (r : Requests) (error : Error) : Requests :=
  { r with singleShotCbs := r.singleShotCbs ++ [⟨error, r.pending⟩], pending := [] }

/-- No request is answered twice or after it was, and every callback answered one. -/
structure Good (r : Requests) : Prop where
  nodup : (r.answered ++ r.pending).Nodup
  numbered : ∀ n ∈ r.answered ++ r.pending, n < r.accepted
  answers : ∀ cb ∈ r.singleShotCbs, cb.answers ≠ []

variable {r : Requests}

theorem answered_answer (error : Error) : (r.answer error).answered = r.answered ++ r.pending := by
  simp [answered, answer]

theorem Good.accept (h : r.Good) : r.accept.Good where
  nodup := by
    show (r.answered ++ (r.pending ++ [r.accepted])).Nodup
    rw [← List.append_assoc]
    refine List.Nodup.append h.nodup (List.nodup_singleton _) ?_
    rw [List.disjoint_singleton]
    exact fun hmem => Nat.lt_irrefl _ (h.numbered _ hmem)
  numbered := by
    intro n hn
    have hn' : n ∈ (r.answered ++ r.pending) ++ [r.accepted] := by
      rw [List.append_assoc]
      exact hn
    rcases List.mem_append.mp hn' with hold | hnew
    · exact Nat.lt_succ_of_lt (h.numbered n hold)
    · rw [List.mem_singleton.mp hnew]
      exact Nat.lt_succ_self _
  answers := h.answers

theorem Good.drop (h : r.Good) : r.drop.Good where
  nodup := by
    show (r.answered ++ []).Nodup
    rw [List.append_nil]
    exact (List.nodup_append.mp h.nodup).1
  numbered := by
    intro n hn
    have hn' : n ∈ r.answered := by simpa [Requests.drop, answered] using hn
    exact h.numbered n (List.mem_append_left _ hn')
  answers := h.answers

/-- A callback for requests that are pending. -/
theorem Good.answer (h : r.Good) (error : Error) (hpending : r.pending ≠ []) :
    (r.answer error).Good where
  nodup := by
    rw [answered_answer]
    show (r.answered ++ r.pending ++ []).Nodup
    rw [List.append_nil]
    exact h.nodup
  numbered := by
    rw [answered_answer]
    show ∀ n ∈ r.answered ++ r.pending ++ [], n < r.accepted
    rw [List.append_nil]
    exact h.numbered
  answers := by
    intro cb hcb
    rcases List.mem_append.mp hcb with hold | hnew
    · exact h.answers cb hold
    · rw [List.mem_singleton.mp hnew]
      exact hpending

end Requests

/-! ## The module -/

/-- `QapiTimer`: the flag, and whether the timer below it is armed. -/
structure QapiTimer where
  mStarted : Bool
  armed : Bool
  deriving DecidableEq, Repr

namespace QapiTimer

def start (_ : QapiTimer) : QapiTimer := ⟨true, true⟩

def stop (t : QapiTimer) : QapiTimer := if t.mStarted then ⟨false, false⟩ else t

end QapiTimer

/-- The module's state, the callbacks that are running, and what has been asked and answered. -/
structure Sys where
  pLocClientApi : Option ClientApi
  mTimer : QapiTimer
  /-- A report's callback has found the timer started. -/
  reporting : Bool
  /-- The timer has expired and its callback has not run. -/
  expiring : Bool
  requests : Requests
  /-- Uses of the client object when there is none. -/
  danglingUses : Nat
  deriving DecidableEq, Repr

namespace Sys

def init : Sys := ⟨none, ⟨false, false⟩, false, false, ⟨0, [], []⟩, 0⟩

/-- `stopPositionSession` of the client object; without one there is nothing to call it on. -/
def stopPositionSession (s : Sys) : Sys :=
  { s with pLocClientApi := s.pLocClientApi.map fun _ => ⟨none⟩ }

def stopTimer (s : Sys) : Sys := { s with mTimer := s.mTimer.stop }

/-- `qLocationCallbacks.singleShotCb`. -/
def singleShotCb (s : Sys) (error : Error) : Sys :=
  { s with requests := s.requests.answer error }

/-! ## The calls -/

def qapi_Loc_Init (s : Sys) : Sys :=
  match s.pLocClientApi with
  | none => { s with pLocClientApi := some ⟨none⟩ }
  | some _ => s

/-- The client object goes with its session; the timer is not touched. -/
def qapi_Loc_Deinit (s : Sys) : Sys :=
  match s.pLocClientApi with
  | some _ => { s with pLocClientApi := none, requests := s.requests.drop }
  | none => s

def qapi_Loc_Start_Tracking (s : Sys) (hasOptions : Bool) : Sys :=
  match hasOptions, s.pLocClientApi with
  | true, some _ => { s with pLocClientApi := some ⟨some .location_tracking_callback⟩ }
  | _, _ => s

def qapi_Loc_Stop_Tracking (s : Sys) : Sys := s.stopPositionSession

/-- A request with the given power level is accepted. -/
def Accepts (s : Sys) (powerLevel : PowerLevel) : Prop :=
  (powerLevel = .QAPI_LOCATION_POWER_HIGH ∨ powerLevel = .QAPI_LOCATION_POWER_LOW) ∧
    s.pLocClientApi.isSome

instance (s : Sys) (powerLevel : PowerLevel) : Decidable (s.Accepts powerLevel) :=
  inferInstanceAs (Decidable (_ ∧ _))

def qapi_Loc_Get_Single_Shot (s : Sys) (powerLevel : PowerLevel) : Sys :=
  if s.Accepts powerLevel then
    { s with
      pLocClientApi := some ⟨some .gnss_location_tracking_callback⟩
      mTimer := s.mTimer.start
      requests := s.requests.accept }
  else s

def qapi_Loc_Cancel_Single_Shot (s : Sys) : Sys :=
  { if s.mTimer.mStarted then s.stopPositionSession.stopTimer else s with
    requests := s.requests.drop }

/-! ## Reports and the timer -/

/-- `location_tracking_callback` and `gnss_location_tracking_callback`: a report without valid
fields is ignored, and one that finds the timer stopped is the tracking client's. -/
def locationCallback (s : Sys) (flags : UInt32) : Sys :=
  if flags ≠ 0 ∧ s.mTimer.mStarted ∧ ¬ s.reporting then { s with reporting := true } else s

/-- The rest of the callback that found the timer started. -/
def locationCallbackEnd (s : Sys) : Sys :=
  if s.reporting then
    { s.stopPositionSession.stopTimer.singleShotCb .QAPI_LOCATION_ERROR_SUCCESS with
      reporting := false }
  else s

/-- The armed timer expires: from then on it cannot be stopped. -/
def expire (s : Sys) : Sys :=
  if s.mTimer.armed ∧ ¬ s.expiring then
    { s with mTimer := { s.mTimer with armed := false }, expiring := true }
  else s

/-- The callback of the timer calls `stopPositionSession` without looking whether there is a
client object. -/
def useClient (s : Sys) : Sys :=
  { s with danglingUses := s.danglingUses + if s.pLocClientApi.isSome then 0 else 1 }

/-- `timeOutCallback` with the runnable of `qapi_Loc_Get_Single_Shot`. -/
def timeOutCallback (s : Sys) : Sys :=
  if s.expiring then
    { ({ s with mTimer := { s.mTimer with mStarted := false } } : Sys).useClient.stopPositionSession
        |>.singleShotCb .QAPI_LOCATION_ERROR_TIMEOUT with
      expiring := false }
  else s

inductive Event where
  | init
  | deinit
  | startTracking (hasOptions : Bool)
  | stopTracking
  | getSingleShot (powerLevel : PowerLevel)
  | cancelSingleShot
  | report (flags : UInt32)
  | reportEnd
  | timerExpires
  | timerCallback
  deriving DecidableEq, Repr

def step (s : Sys) : Event → Sys
  | .init => s.qapi_Loc_Init
  | .deinit => s.qapi_Loc_Deinit
  | .startTracking hasOptions => s.qapi_Loc_Start_Tracking hasOptions
  | .stopTracking => s.qapi_Loc_Stop_Tracking
  | .getSingleShot powerLevel => s.qapi_Loc_Get_Single_Shot powerLevel
  | .cancelSingleShot => s.qapi_Loc_Cancel_Single_Shot
  | .report flags => s.locationCallback flags
  | .reportEnd => s.locationCallbackEnd
  | .timerExpires => s.expire
  | .timerCallback => s.timeOutCallback

/-- The single shot's session is running. -/
def SingleShotSession (s : Sys) : Prop :=
  s.pLocClientApi = some ⟨some .gnss_location_tracking_callback⟩

instance (s : Sys) : Decidable s.SingleShotSession := inferInstanceAs (Decidable (_ = _))

/-! ## The protocol -/

/-- What the protocol promises: no request is answered twice, a callback is called only while a
request is pending, the session of the requests ends with them, and no callback uses a client
object that is gone. -/
structure Sound (s : Sys) : Prop where
  answered_once : s.requests.answered.Nodup
  answers_pending : ∀ cb ∈ s.requests.singleShotCbs, cb.answers ≠ []
  session_stopped : s.SingleShotSession → s.requests.pending ≠ []
  no_dangling : s.danglingUses = 0

/-- The condition on an event: the client is not deinitialised while a request is pending, and
what acts on a pending request (a cancel, another request, the timer, a report) does not come
between the two events of another's callback. -/
def Fits (s : Sys) : Event → Prop
  | .deinit => s.requests.pending = []
  | .getSingleShot powerLevel => s.Accepts powerLevel → ¬ s.expiring
  | .cancelSingleShot => ¬ s.reporting ∧ ¬ s.expiring
  | .report flags => flags ≠ 0 → s.mTimer.mStarted → ¬ s.expiring
  | .timerExpires => s.mTimer.armed → ¬ s.reporting
  | _ => True

instance (s : Sys) (e : Event) : Decidable (s.Fits e) := by
  cases e <;> unfold Fits <;> infer_instance

/-- What holds in between: the flag stands for the pending requests, and whatever else runs
for them runs while the flag is set. -/
structure Inv (s : Sys) : Prop where
  requests : s.requests.Good
  started : s.mTimer.mStarted → s.requests.pending ≠ []
  armed : s.mTimer.armed → s.mTimer.mStarted
  reporting : s.reporting → s.mTimer.mStarted ∧ ¬ s.expiring
  expiring : s.expiring → s.mTimer.mStarted ∧ ¬ s.mTimer.armed
  session : s.SingleShotSession → s.mTimer.mStarted
  client : s.requests.pending ≠ [] → s.pLocClientApi.isSome
  no_dangling : s.danglingUses = 0

theorem Inv.sound {s : Sys} (h : s.Inv) : s.Sound where
  answered_once := (List.nodup_append.mp h.requests.nodup).1
  answers_pending := h.requests.answers
  session_stopped := fun hs => h.started (h.session hs)
  no_dangling := h.no_dangling

theorem Inv.init : init.Inv := by
  constructor
  · constructor <;> simp [Sys.init, Requests.answered]
  all_goals simp [Sys.init, SingleShotSession]

variable {s : Sys}

/-- Once a request is answered or dropped and the timer and the session are stopped, nothing is
left of it. -/
theorem Inv.idle {s : Sys} (hrequests : s.requests.Good) (hpending : s.requests.pending = [])
    (htimer : s.mTimer = ⟨false, false⟩) (hreporting : s.reporting = false)
    (hexpiring : s.expiring = false) (hsession : ¬ s.SingleShotSession)
    (hdangling : s.danglingUses = 0) : s.Inv where
  requests := hrequests
  started := by simp [htimer]
  armed := by simp [htimer]
  reporting := by simp [hreporting]
  expiring := by simp [hexpiring]
  session := fun hs => absurd hs hsession
  client := fun hne => absurd hpending hne
  no_dangling := hdangling

theorem not_session_stop : ¬ s.stopPositionSession.SingleShotSession := by
  unfold SingleShotSession stopPositionSession
  cases s.pLocClientApi <;> simp

theorem Inv.qapi_Loc_Init (h : s.Inv) : s.qapi_Loc_Init.Inv := by
  unfold Sys.qapi_Loc_Init
  cases hclient : s.pLocClientApi with
  | some client => exact h
  | none => exact { h with session := by rintro ⟨⟩, client := fun _ => rfl }

theorem Inv.qapi_Loc_Deinit (h : s.Inv) (hfits : s.requests.pending = []) :
    s.qapi_Loc_Deinit.Inv := by
  unfold Sys.qapi_Loc_Deinit
  cases hclient : s.pLocClientApi with
  | none => exact h
  | some client =>
    exact { h with
      requests := h.requests.drop
      started := fun hs => absurd hfits (h.started hs)
      session := by rintro ⟨⟩
      client := fun hne => absurd rfl hne }

theorem Inv.qapi_Loc_Start_Tracking (h : s.Inv) (hasOptions : Bool) :
    (s.qapi_Loc_Start_Tracking hasOptions).Inv := by
  unfold Sys.qapi_Loc_Start_Tracking
  cases hasOptions with
  | false => exact h
  | true =>
    cases hclient : s.pLocClientApi with
    | none => exact h
    | some client => exact { h with session := by rintro ⟨⟩, client := fun _ => rfl }

theorem Inv.qapi_Loc_Stop_Tracking (h : s.Inv) : s.qapi_Loc_Stop_Tracking.Inv :=
  { h with
    session := fun hs => absurd hs not_session_stop
    client := fun hne => (Option.isSome_map ..).trans (h.client hne) }

theorem Inv.qapi_Loc_Get_Single_Shot (h : s.Inv) {powerLevel : PowerLevel}
    (hfits : s.Accepts powerLevel → ¬ s.expiring) :
    (s.qapi_Loc_Get_Single_Shot powerLevel).Inv := by
  unfold Sys.qapi_Loc_Get_Single_Shot
  by_cases haccepts : s.Accepts powerLevel
  · rw [if_pos haccepts]
    have hexpiring := hfits haccepts
    exact { h with
      requests := h.requests.accept
      started := fun _ => List.append_ne_nil_of_right_ne_nil _ (List.cons_ne_nil _ _)
      armed := fun _ => rfl
      reporting := fun _ => ⟨rfl, hexpiring⟩
      expiring := fun hs => absurd hs hexpiring
      session := fun _ => rfl
      client := fun _ => rfl }
  · rwa [if_neg haccepts]

theorem Inv.qapi_Loc_Cancel_Single_Shot (h : s.Inv)
    (hfits : ¬ s.reporting ∧ ¬ s.expiring) : s.qapi_Loc_Cancel_Single_Shot.Inv := by
  obtain ⟨hreporting, hexpiring⟩ := hfits
  rw [Bool.not_eq_true] at hreporting hexpiring
  unfold Sys.qapi_Loc_Cancel_Single_Shot
  by_cases hstarted : s.mTimer.mStarted
  · rw [if_pos hstarted]
    exact .idle h.requests.drop rfl (if_pos hstarted) hreporting hexpiring not_session_stop
      h.no_dangling
  · rw [if_neg hstarted]
    -- the session and the timer run only while the flag is set
    have harmed : ¬ s.mTimer.armed := fun hs => hstarted (h.armed hs)
    refine .idle h.requests.drop rfl ?_ hreporting hexpiring (fun hs => hstarted (h.session hs))
      h.no_dangling
    rw [Bool.not_eq_true] at hstarted harmed
    show QapiTimer.mk s.mTimer.mStarted s.mTimer.armed = ⟨false, false⟩
    rw [hstarted, harmed]

theorem Inv.locationCallback (h : s.Inv) {flags : UInt32}
    (hfits : flags ≠ 0 → s.mTimer.mStarted → ¬ s.expiring) : (s.locationCallback flags).Inv := by
  unfold Sys.locationCallback
  by_cases htest : flags ≠ 0 ∧ s.mTimer.mStarted ∧ ¬ s.reporting
  · rw [if_pos htest]
    obtain ⟨hvalid, hstarted, _⟩ := htest
    exact { h with reporting := fun _ => ⟨hstarted, hfits hvalid hstarted⟩ }
  · rwa [if_neg htest]

theorem Inv.locationCallbackEnd (h : s.Inv) : s.locationCallbackEnd.Inv := by
  unfold Sys.locationCallbackEnd
  by_cases hreporting : s.reporting
  · rw [if_pos hreporting]
    obtain ⟨hstarted, hexpiring⟩ := h.reporting hreporting
    exact .idle (h.requests.answer _ (h.started hstarted)) rfl (if_pos hstarted) rfl
      (Bool.not_eq_true _ |>.mp hexpiring) not_session_stop h.no_dangling
  · rwa [if_neg hreporting]

theorem Inv.expire (h : s.Inv) (hfits : s.mTimer.armed → ¬ s.reporting) : s.expire.Inv := by
  unfold Sys.expire
  by_cases htest : s.mTimer.armed ∧ ¬ s.expiring
  · rw [if_pos htest]
    obtain ⟨harmed, _⟩ := htest
    exact { h with
      armed := by rintro ⟨⟩
      reporting := fun hs => absurd hs (hfits harmed)
      expiring := fun _ => ⟨h.armed harmed, Bool.false_ne_true⟩ }
  · rwa [if_neg htest]

theorem Inv.timeOutCallback (h : s.Inv) : s.timeOutCallback.Inv := by
  unfold Sys.timeOutCallback
  by_cases hexpiring : s.expiring
  · rw [if_pos hexpiring]
    obtain ⟨hstarted, harmed⟩ := h.expiring hexpiring
    have hpending := h.started hstarted
    refine .idle (h.requests.answer _ hpending) rfl ?_ ?_ rfl not_session_stop ?_
    · show QapiTimer.mk false s.mTimer.armed = ⟨false, false⟩
      rw [Bool.not_eq_true _ |>.mp harmed]
    · exact Bool.not_eq_true _ |>.mp fun hs => (h.reporting hs).2 hexpiring
    · show s.danglingUses + (if s.pLocClientApi.isSome then 0 else 1) = 0
      rw [if_pos (h.client hpending)]
      exact h.no_dangling
  · rwa [if_neg hexpiring]

theorem Inv.step (h : s.Inv) {e : Event} (hfits : s.Fits e) : (s.step e).Inv := by
  cases e with
  | init => exact h.qapi_Loc_Init
  | deinit => exact h.qapi_Loc_Deinit hfits
  | startTracking hasOptions => exact h.qapi_Loc_Start_Tracking hasOptions
  | stopTracking => exact h.qapi_Loc_Stop_Tracking
  | getSingleShot powerLevel => exact h.qapi_Loc_Get_Single_Shot hfits
  | cancelSingleShot => exact h.qapi_Loc_Cancel_Single_Shot hfits
  | report flags => exact h.locationCallback hfits
  | reportEnd => exact h.locationCallbackEnd
  | timerExpires => exact h.expire hfits
  | timerCallback => exact h.timeOutCallback

end Sys

end Qapi
end LocationStack
