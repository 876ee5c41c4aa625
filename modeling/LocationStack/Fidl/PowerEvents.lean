import LocationStack.Lib.EventRun
import Mathlib.Tactic.Common

/-! # Power events and the registration of the service

The service is registered with the runtime when it is created, and again when the system resumes;
before the system suspends or shuts down it is unregistered.  The service keeps a flag that says
whether it is registered, and the flag decides whether there is anything to do.

A suspend that finds nothing to unregister is taken for one that failed, and sets the flag.  From
then on the flag is set for good, and a resume does nothing.
-/
namespace LocationStack.Fidl

open EventRun

/-! ## The service and the runtime -/

/-- `IDLPowerStateType` -/
inductive IDLPowerStateType
  | unknown | suspend | resume | shutdown | deepSleepEntry | deepSleepExit
  deriving DecidableEq, Repr

/-- What the runtime does when the service is registered: there is none, or it refuses a number of
times before it accepts. -/
inductive RegisterOutcome
  | noRuntime
  | accepts (refused : Nat)
  deriving DecidableEq, Repr

/-- The service, of which stubs are numbered, with the stub that the runtime has registered. -/
structure Registration where
  serviceRegisterationStatus : Bool
  mService : Option Nat
  stubs : Nat
  registered : Option Nat
  deriving DecidableEq, Repr

namespace Registration

def init : Registration := ⟨false, none, 0, none⟩

/-- `make_shared<LocIdlAPIStubImpl>` -/
def makeStub (s : Registration) : Registration :=
  { s with mService := some s.stubs, stubs := s.stubs + 1 }

/-- `runtime->registerService`, until it is accepted. -/
def registerService (s : Registration) : Nat → Registration
  | 0 => { s with registered := s.mService }
  | refused + 1 => registerService s refused

def registerWithFIDLService (s : Registration) (outcome : RegisterOutcome) :
    Bool × Registration :=
  if !s.serviceRegisterationStatus then
    match outcome with
    | .noRuntime => (false, s.makeStub)
    | .accepts refused => (true, s.makeStub.registerService refused)
  else (true, s)

/-- `IDL_MAX_RETRY` -/
def idlMaxRetry : Nat := 5

/-- `runtime->unregisterService`, which can only succeed if there is something registered. -/
def unregisterService (s : Registration) (accepted : Bool) : Bool × Registration :=
  if accepted && s.registered.isSome then (true, { s with registered := none }) else (false, s)

/-- The tries from the `n`-th on, of which `left` may follow the first. -/
def unregisterTries (accepted : Nat → Bool) : Nat → Nat → Registration → Bool × Registration
  | 0, n, s => s.unregisterService (accepted n)
  | left + 1, n, s =>
    if (s.unregisterService (accepted n)).1 then s.unregisterService (accepted n)
    else unregisterTries accepted left (n + 1) (s.unregisterService (accepted n)).2

def unRegisterWithFIDLService (s : Registration) (accepted : Nat → Bool) : Bool × Registration :=
  if s.serviceRegisterationStatus then unregisterTries accepted idlMaxRetry 0 s else (false, s)

/-- The registration at the end of `createLocIdlService`. -/
def createLocIdlService (s : Registration) (outcome : RegisterOutcome) : Registration :=
  let (status, s) := s.registerWithFIDLService outcome
  { s with serviceRegisterationStatus := status }

/-- `onPowerEvent` -/
def onPowerEvent (s : Registration) (event : IDLPowerStateType) (outcome : RegisterOutcome)
    (accepted : Nat → Bool) : Registration :=
  match event with
  | .suspend | .shutdown =>
    let (retVal, s) := s.unRegisterWithFIDLService accepted
    { s with serviceRegisterationStatus := !retVal }
  | .resume =>
    let (retVal, s) := s.registerWithFIDLService outcome
    { s with serviceRegisterationStatus := retVal }
  | .unknown | .deepSleepEntry | .deepSleepExit => s

/-- A report goes to the stub, and to clients if the stub is registered. -/
def reportsReachClients (s : Registration) : Bool := s.mService.isSome && s.mService == s.registered

end Registration

inductive PowerMsg
  | createLocIdlService (outcome : RegisterOutcome)
  | powerEvent (event : IDLPowerStateType) (outcome : RegisterOutcome) (accepted : Nat → Bool)

namespace Registration

/-- The task of the service processes a message. -/
def step (s : Registration) : PowerMsg → Registration
  | .createLocIdlService outcome => s.createLocIdlService outcome
  | .powerEvent event outcome accepted => s.onPowerEvent event outcome accepted

/-! ## The flag and the runtime -/

/-- The flag says what the runtime has, and that is the stub that the service uses. -/
structure Agrees (s : Registration) : Prop where
  status : s.serviceRegisterationStatus = s.registered.isSome
  stub : ∀ n, s.registered = some n → s.mService = some n

/-- A suspend, or a shutdown, finds the service registered. -/
def FindsRegistered (s : Registration) : PowerMsg → Bool
  | .powerEvent .suspend _ _ | .powerEvent .shutdown _ _ => s.serviceRegisterationStatus
  | _ => true

/-- The flag is set, and nothing is registered. -/
structure Lost (s : Registration) : Prop where
  status : s.serviceRegisterationStatus = true
  registered : s.registered = none

theorem registerService_eq (s : Registration) (refused : Nat) :
    s.registerService refused = { s with registered := s.mService } := by
  induction refused with
  | zero => rfl
  | succ refused ih => rw [registerService, ih]

/-- If nothing is registered the tries fail, and change nothing. -/
theorem unregisterTries_none {s : Registration} (hs : s.registered = none) (accepted : Nat → Bool)
    (left n : Nat) : unregisterTries accepted left n s = (false, s) := by
  have htry : ∀ b, s.unregisterService b = (false, s) := by
    intro b
    rw [unregisterService, hs, Option.isSome_none, Bool.and_false, if_neg Bool.false_ne_true]
  induction left generalizing n with
  | zero => rw [unregisterTries, htry]
  | succ left ih =>
    rw [unregisterTries, htry]
    exact ih (n + 1)

/-- The tries take the registration away, or leave everything as it is. -/
theorem unregisterTries_cases {s : Registration} (hs : s.registered.isSome = true)
    (accepted : Nat → Bool) (left n : Nat) :
    unregisterTries accepted left n s = (true, { s with registered := none }) ∨
      unregisterTries accepted left n s = (false, s) := by
  have htry : ∀ b, s.unregisterService b =
      if b then (true, { s with registered := none }) else (false, s) := by
    intro b
    rw [unregisterService, hs, Bool.and_true]
  induction left generalizing n with
  | zero =>
    rw [unregisterTries, htry]
    cases accepted n with
    | true => exact .inl rfl
    | false => exact .inr rfl
  | succ left ih =>
    rw [unregisterTries, htry]
    cases accepted n with
    | true => exact .inl rfl
    | false => exact ih (n + 1)

variable {s : Registration}

theorem Agrees.register (hs : s.Agrees) (outcome : RegisterOutcome) :
    Agrees { (s.registerWithFIDLService outcome).2 with
      serviceRegisterationStatus := (s.registerWithFIDLService outcome).1 } := by
  unfold registerWithFIDLService
  cases hstatus : s.serviceRegisterationStatus with
  | true => exact ⟨hstatus.symm.trans hs.status, hs.stub⟩
  | false =>
    have hnone : s.registered = none := by
      have hsome := hs.status
      rw [hstatus] at hsome
      exact Option.isNone_iff_eq_none.mp (by rw [← Option.not_isSome, ← hsome]; rfl)
    cases outcome with
    | noRuntime =>
      refine ⟨?_, fun n hn => ?_⟩
      · show false = s.registered.isSome
        rw [hnone]
        rfl
      · change s.registered = some n at hn
        rw [hnone] at hn
        cases hn
    | accepts refused =>
      simp only [Bool.not_false, ↓reduceIte, registerService_eq]
      exact ⟨rfl, fun n hn => hn⟩

theorem Agrees.unregister (hs : s.Agrees) (hstatus : s.serviceRegisterationStatus = true)
    (accepted : Nat → Bool) :
    Agrees { (s.unRegisterWithFIDLService accepted).2 with
      serviceRegisterationStatus := !(s.unRegisterWithFIDLService accepted).1 } := by
  have hsome : s.registered.isSome = true := hs.status.symm.trans hstatus
  rw [unRegisterWithFIDLService, if_pos hstatus]
  rcases unregisterTries_cases hsome accepted idlMaxRetry 0 with h | h
  · rw [h]
    exact ⟨rfl, by rintro n ⟨⟩⟩
  · rw [h]
    exact ⟨hsome.symm, hs.stub⟩

theorem step_agrees (s : Registration) (m : PowerMsg) (hs : s.Agrees)
    (hm : s.FindsRegistered m = true) : (s.step m).Agrees := by
  cases m with
  | createLocIdlService outcome => exact hs.register outcome
  | powerEvent event outcome accepted =>
    cases event with
    | suspend => exact hs.unregister hm accepted
    | shutdown => exact hs.unregister hm accepted
    | resume => exact hs.register outcome
    | unknown => exact hs
    | deepSleepEntry => exact hs
    | deepSleepExit => exact hs

/-- A suspend that finds nothing registered. -/
theorem Agrees.lost (hs : s.Agrees) {m : PowerMsg} (hm : s.FindsRegistered m = false) :
    (s.step m).Lost := by
  unfold FindsRegistered at hm
  have hnone : s.serviceRegisterationStatus = false → s.registered = none := by
    intro hstatus
    cases hreg : s.registered with
    | none => rfl
    | some n =>
      have hsome := hs.status
      rw [hstatus, hreg] at hsome
      cases hsome
  split at hm
  · simp only [step, onPowerEvent, unRegisterWithFIDLService, hm, Bool.false_eq_true, ↓reduceIte]
    exact ⟨rfl, hnone hm⟩
  · simp only [step, onPowerEvent, unRegisterWithFIDLService, hm, Bool.false_eq_true, ↓reduceIte]
    exact ⟨rfl, hnone hm⟩
  · cases hm

theorem step_lost (s : Registration) (m : PowerMsg) (hs : s.Lost) : (s.step m).Lost := by
  obtain ⟨hstatus, hnone⟩ := hs
  have hregister : ∀ outcome, s.registerWithFIDLService outcome = (true, s) := by
    intro outcome
    unfold registerWithFIDLService
    rw [hstatus]
    rfl
  have hunregister : ∀ accepted, s.unRegisterWithFIDLService accepted = (false, s) := by
    intro accepted
    rw [unRegisterWithFIDLService, if_pos hstatus, unregisterTries_none hnone]
  cases m with
  | createLocIdlService outcome =>
    rw [step, createLocIdlService, hregister]
    exact ⟨rfl, hnone⟩
  | powerEvent event outcome accepted =>
    cases event with
    | suspend =>
      rw [step, onPowerEvent, hunregister]
      exact ⟨rfl, hnone⟩
    | shutdown =>
      rw [step, onPowerEvent, hunregister]
      exact ⟨rfl, hnone⟩
    | resume =>
      rw [step, onPowerEvent, hregister]
      exact ⟨rfl, hnone⟩
    | unknown => exact ⟨hstatus, hnone⟩
    | deepSleepEntry => exact ⟨hstatus, hnone⟩
    | deepSleepExit => exact ⟨hstatus, hnone⟩

theorem Lost.not_agrees (hs : s.Lost) : ¬s.Agrees := by
  intro h
  have hstatus := h.status
  rw [hs.status, hs.registered] at hstatus
  cases hstatus

theorem init_agrees : Agrees .init := ⟨rfl, by rintro n ⟨⟩⟩

/-! ## Runs -/

/-- **The flag says what the runtime has** after every message, exactly when each suspend and each
shutdown finds the service registered. -/
theorem registration_agrees_iff (ms : List PowerMsg) :
    Throughout step Agrees .init ms ↔
      Meets step (fun s m => s.FindsRegistered m = true) .init ms := by
  refine throughout_iff_meets_of_step (fun _ hs => hs) step_agrees ?_ init_agrees
  intro s m hs hnext
  by_contra hm
  exact (hs.lost (Bool.eq_false_iff.mpr hm)).not_agrees hnext

theorem run_lost {ms : List PowerMsg} (hs : s.Lost) : (run step s ms).Lost :=
  invariant step_lost hs ms

theorem lost_of_not_meets {ms : List PowerMsg} (hs : s.Agrees)
    (hms : ¬Meets step (fun s m => s.FindsRegistered m = true) s ms) : (run step s ms).Lost := by
  induction ms generalizing s with
  | nil => exact absurd trivial hms
  | cons m ms ih =>
    by_cases hm : s.FindsRegistered m = true
    · exact ih (step_agrees s m hs hm) fun hrest => hms ⟨hm, hrest⟩
    · show (run step (s.step m) ms).Lost
      exact run_lost (hs.lost (Bool.eq_false_iff.mpr hm))

theorem Lost.not_reports (hs : s.Lost) : s.reportsReachClients = false := by
  unfold reportsReachClients
  rw [hs.registered]
  cases s.mService with
  | none => rfl
  | some n => rfl

/-- A resume, if the runtime accepts the service. -/
theorem Agrees.resumed (hs : s.Agrees) :
    (s.step (.powerEvent .resume (.accepts 0) fun _ => true)).reportsReachClients = true := by
  simp only [step, onPowerEvent]
  unfold registerWithFIDLService
  cases hstatus : s.serviceRegisterationStatus with
  | true =>
    obtain ⟨n, hn⟩ := Option.isSome_iff_exists.mp (hs.status.symm.trans hstatus)
    show (s.mService.isSome && s.mService == s.registered) = true
    rw [hn, hs.stub n hn]
    exact beq_self_eq_true (some n)
  | false => exact beq_self_eq_true (some s.stubs)

/-- **No report ever reaches a client again**, whatever messages follow, exactly after a run in
which a suspend or a shutdown has found the service unregistered. -/
theorem never_reports_again_iff (ms : List PowerMsg) :
    (∀ ms', (run step init (ms ++ ms')).reportsReachClients = false) ↔
      ¬Meets step (fun s m => s.FindsRegistered m = true) .init ms := by
  constructor
  · intro hnever hms
    have hagrees : (run step init ms).Agrees :=
      (throughout_of_meets step_agrees init_agrees hms).last
    have hresumed := hnever [.powerEvent .resume (.accepts 0) fun _ => true]
    rw [run_append, run_cons, run_nil, hagrees.resumed] at hresumed
    cases hresumed
  · intro hms ms'
    rw [run_append]
    exact (run_lost (lost_of_not_meets init_agrees hms)).not_reports

/-- A system that suspends and then shuts down, and resumes. -/
example : (run step init [.createLocIdlService (.accepts 3),
    .powerEvent .suspend .noRuntime fun _ => true, .powerEvent .shutdown .noRuntime fun _ => true,
    .powerEvent .resume (.accepts 0) fun _ => true]).reportsReachClients = false := by decide

end Registration
end LocationStack.Fidl
