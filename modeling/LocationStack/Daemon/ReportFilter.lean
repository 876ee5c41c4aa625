import Mathlib.Logic.Function.Basic
import LocationStack.Daemon.SupportedTbf
import LocationStack.Lib.EventRun

/-! # The position reports a handler passes on

`LocationAPI` reports at the rate of the fastest session of any client, so a handler drops the
reports that come too soon for its own client.  For each engine it remembers the boot time of
the last report it passed and whether the last report was final.  Nothing initialises the two
arrays, and no session resets them.

`Tracker` is the handler with the two arrays and, next to them, what the reports themselves say:
which engines have not had a final report since the session started, the last report of each
engine, and when the last one was passed.
-/
namespace LocationStack.Daemon

open Ipc EventRun

/-- `loc_sess_status`. -/
inductive LocSessStatus
  | success
  | intermediate
  | failure
  deriving DecidableEq, Repr

def locOutputEngineCount : Nat := 4

def positionReportGaurdBand : UInt32 := 30

/-- What the filter reads of a `GnssLocationInfoNotification`, and the boot time it finds. -/
structure PositionReport where
  engType : Nat
  sessionStatus : LocSessStatus
  hasAccurateGpsTime : Bool
  systemMsec : UInt32
  curBootTimeMsec : UInt64
  deriving DecidableEq, Repr

/-- The report is a final fix. -/
def PositionReport.Final (r : PositionReport) : Prop := r.sessionStatus = .success

instance (r : PositionReport) : Decidable r.Final := inferInstanceAs (Decidable (_ = _))

/-- The GPS time is accurate and a multiple of the interval. -/
def PositionReport.Aligned (r : PositionReport) (minInterval : UInt32) : Prop :=
  r.hasAccurateGpsTime ∧ r.systemMsec % minInterval = 0

instance (r : PositionReport) (minInterval : UInt32) : Decidable (r.Aligned minInterval) :=
  inferInstanceAs (Decidable (_ ∧ _))

/-- The arrays of the filter, one entry an engine. -/
structure ReportMemory where
  mPrevPosReportSentBootTimeMsec : Nat → UInt64
  mFirstFixalFixReceived : Nat → Bool

namespace ReportMemory

variable (m : ReportMemory)

def sentAt (engType : Nat) (curBootTimeMsec : UInt64) : ReportMemory :=
  { m with
    mPrevPosReportSentBootTimeMsec :=
      Function.update m.mPrevPosReportSentBootTimeMsec engType curBootTimeMsec }

def setFirst (engType : Nat) (received : Bool) : ReportMemory :=
  { m with
    mFirstFixalFixReceived := Function.update m.mFirstFixalFixReceived engType received }

/-- The part of `filterPositionReport` that goes by the times: true if the report is filtered. -/
def filterByTime (minInterval : UInt32) (r : PositionReport) : Bool × ReportMemory :=
  let lowerBound := minInterval - positionReportGaurdBand
  let prev := m.mPrevPosReportSentBootTimeMsec r.engType
  if r.Aligned minInterval then (false, m.sentAt r.engType r.curBootTimeMsec)
  else if prev ≠ 0 then
    if r.curBootTimeMsec ≥ prev then
      if lowerBound.toUInt64 ≤ r.curBootTimeMsec - prev then
        (false, m.sentAt r.engType r.curBootTimeMsec)
      else (true, m)
    else (false, m.sentAt r.engType r.curBootTimeMsec)
  else (false, m.sentAt r.engType r.curBootTimeMsec)

/-- `filterPositionReport`: true if the report is filtered. -/
def filterPositionReport (minInterval : UInt32) (r : PositionReport) : Bool × ReportMemory :=
  if minInterval = 0 ∨ locOutputEngineCount ≤ r.engType then (false, m)
  else if ¬ m.mFirstFixalFixReceived r.engType then
    if r.Final then (false, (m.setFirst r.engType true).sentAt r.engType r.curBootTimeMsec)
    else m.filterByTime minInterval r
  else if ¬ r.Final then (m.setFirst r.engType false).filterByTime minInterval r
  else m.filterByTime minInterval r

/-! ## What the filter does -/

/-- The interval and the engine are among those the filter looks at. -/
def Filters (minInterval : UInt32) (r : PositionReport) : Prop :=
  minInterval ≠ 0 ∧ r.engType < locOutputEngineCount

instance (minInterval : UInt32) (r : PositionReport) : Decidable (Filters minInterval r) :=
  inferInstanceAs (Decidable (_ ∧ _))

/-- It is time for the next report. -/
def Due (prev : UInt64) (minInterval : UInt32) (r : PositionReport) : Prop :=
  r.Aligned minInterval ∨ prev = 0 ∨ r.curBootTimeMsec < prev ∨
    (minInterval - positionReportGaurdBand).toUInt64 ≤ r.curBootTimeMsec - prev

instance (prev : UInt64) (minInterval : UInt32) (r : PositionReport) :
    Decidable (Due prev minInterval r) :=
  inferInstanceAs (Decidable (_ ∨ _))

variable {m} {minInterval : UInt32} {r : PositionReport}

theorem filterByTime_eq : m.filterByTime minInterval r =
    if Due (m.mPrevPosReportSentBootTimeMsec r.engType) minInterval r then
      (false, m.sentAt r.engType r.curBootTimeMsec)
    else (true, m) := by
  unfold filterByTime Due
  by_cases haligned : r.Aligned minInterval
  · simp [haligned]
  by_cases hprev : m.mPrevPosReportSentBootTimeMsec r.engType = 0
  · simp [haligned, hprev]
  by_cases hback : r.curBootTimeMsec < m.mPrevPosReportSentBootTimeMsec r.engType
  · have hge : ¬ m.mPrevPosReportSentBootTimeMsec r.engType ≤ r.curBootTimeMsec :=
      UInt64.not_le.mpr hback
    simp [haligned, hprev, hback, hge]
  · have hge : m.mPrevPosReportSentBootTimeMsec r.engType ≤ r.curBootTimeMsec :=
      UInt64.not_lt.mp hback
    simp [haligned, hprev, hback, hge]

theorem filterPositionReport_unfiltered (h : ¬ Filters minInterval r) :
    m.filterPositionReport minInterval r = (false, m) := by
  refine if_pos ?_
  by_contra hno
  rw [not_or, not_le] at hno
  exact h hno

/-- The filter by the times leaves the flags alone. -/
theorem filterByTime_first :
    (m.filterByTime minInterval r).2.mFirstFixalFixReceived = m.mFirstFixalFixReceived := by
  rw [filterByTime_eq]
  by_cases hdue : Due (m.mPrevPosReportSentBootTimeMsec r.engType) minInterval r
  · rw [if_pos hdue]
    rfl
  · rw [if_neg hdue]

theorem filterByTime_prev :
    (m.filterByTime minInterval r).2.mPrevPosReportSentBootTimeMsec =
      if (m.filterByTime minInterval r).1 then m.mPrevPosReportSentBootTimeMsec
      else Function.update m.mPrevPosReportSentBootTimeMsec r.engType r.curBootTimeMsec := by
  rw [filterByTime_eq]
  by_cases hdue : Due (m.mPrevPosReportSentBootTimeMsec r.engType) minInterval r
  · rw [if_pos hdue]
    rfl
  · rw [if_neg hdue]
    rfl

theorem filterPositionReport_eq (h : Filters minInterval r) :
    m.filterPositionReport minInterval r =
      if r.Final ∧ m.mFirstFixalFixReceived r.engType = false then
        (false, (m.setFirst r.engType true).sentAt r.engType r.curBootTimeMsec)
      else (m.setFirst r.engType (decide r.Final)).filterByTime minInterval r := by
  have hguard : ¬ (minInterval = 0 ∨ locOutputEngineCount ≤ r.engType) := by
    rw [not_or, not_le]
    exact h
  have hsame : ∀ received, m.mFirstFixalFixReceived r.engType = received →
      m.setFirst r.engType received = m := by
    rintro received rfl
    unfold setFirst
    rw [Function.update_eq_self]
  unfold filterPositionReport
  rw [if_neg hguard]
  by_cases hfirst : m.mFirstFixalFixReceived r.engType = true <;> by_cases hfinal : r.Final
  · simp [hfirst, hfinal, hsame true hfirst]
  · simp [hfirst, hfinal]
  · simp [hfirst, hfinal]
  · rw [Bool.not_eq_true] at hfirst
    simp [hfirst, hfinal, hsame false hfirst]

/-- A report is passed if it is the first final one after one that was not, or if it is due. -/
theorem filterPositionReport_fst (h : Filters minInterval r) :
    (m.filterPositionReport minInterval r).1 = false ↔
      (r.Final ∧ m.mFirstFixalFixReceived r.engType = false) ∨
        Due (m.mPrevPosReportSentBootTimeMsec r.engType) minInterval r := by
  rw [filterPositionReport_eq h]
  by_cases hreset : r.Final ∧ m.mFirstFixalFixReceived r.engType = false
  · simp [hreset]
  · rw [if_neg hreset, filterByTime_eq, or_iff_right hreset]
    show (ite (Due (m.mPrevPosReportSentBootTimeMsec r.engType) minInterval r) _ _ :
      Bool × ReportMemory).1 = false ↔ _
    by_cases hdue : Due (m.mPrevPosReportSentBootTimeMsec r.engType) minInterval r <;> simp [hdue]

/-- Afterwards the flag says whether this report was final. -/
theorem filterPositionReport_first (h : Filters minInterval r) :
    (m.filterPositionReport minInterval r).2.mFirstFixalFixReceived =
      Function.update m.mFirstFixalFixReceived r.engType (decide r.Final) := by
  rw [filterPositionReport_eq h]
  by_cases hreset : r.Final ∧ m.mFirstFixalFixReceived r.engType = false
  · rw [if_pos hreset, decide_eq_true hreset.1]
    rfl
  · rw [if_neg hreset, filterByTime_first]
    rfl

/-- Afterwards the time is this report's, if it was passed. -/
theorem filterPositionReport_prev (h : Filters minInterval r) :
    (m.filterPositionReport minInterval r).2.mPrevPosReportSentBootTimeMsec =
      if (m.filterPositionReport minInterval r).1 then m.mPrevPosReportSentBootTimeMsec
      else Function.update m.mPrevPosReportSentBootTimeMsec r.engType r.curBootTimeMsec := by
  rw [filterPositionReport_eq h]
  by_cases hreset : r.Final ∧ m.mFirstFixalFixReceived r.engType = false
  · rw [if_pos hreset]
    rfl
  · rw [if_neg hreset]
    exact filterByTime_prev

end ReportMemory

/-! ## The interval in force -/

/-- What `getSupportedTbf` returns is an interval the guard band fits in. -/
theorem le_getSupportedTbf (tbfMsec : UInt32) :
    100 ≤ LocHalDaemonClientHandler.getSupportedTbf tbfMsec := by
  rw [UInt32.le_iff_toNat_le, toNat_getSupportedTbf]
  exact le_supportedTbf _

/-- There is no interval, as before the first session, or it is one the engine supports. -/
def IntervalOk (minInterval : UInt32) : Prop := minInterval = 0 ∨ 100 ≤ minInterval

/-- The subtraction of the guard band does not wrap. -/
theorem IntervalOk.toNat_lowerBound {minInterval : UInt32} (h : IntervalOk minInterval)
    (hne : minInterval ≠ 0) : positionReportGaurdBand ≤ minInterval ∧
      (minInterval - positionReportGaurdBand).toUInt64.toNat = minInterval.toNat - 30 := by
  have hle : positionReportGaurdBand ≤ minInterval :=
    UInt32.le_trans (by decide) (h.resolve_left hne)
  refine ⟨hle, ?_⟩
  rw [UInt32.toNat_toUInt64, UInt32.toNat_sub_of_le _ _ hle]
  rfl

/-- When the next report may be passed, in milliseconds: at a multiple of the interval, when none
was passed before or the clock has gone back, or the interval less the guard band later. -/
def OnTime (prev : UInt64) (minInterval : UInt32) (r : PositionReport) : Prop :=
  r.Aligned minInterval ∨ prev = 0 ∨ r.curBootTimeMsec < prev ∨
    minInterval.toNat - 30 ≤ r.curBootTimeMsec.toNat - prev.toNat

theorem due_iff {prev : UInt64} {minInterval : UInt32} {r : PositionReport}
    (h : IntervalOk minInterval) (hne : minInterval ≠ 0) :
    ReportMemory.Due prev minInterval r ↔ OnTime prev minInterval r := by
  unfold ReportMemory.Due OnTime
  by_cases hback : r.curBootTimeMsec < prev
  · simp [hback]
  · have hsub : (r.curBootTimeMsec - prev).toNat = r.curBootTimeMsec.toNat - prev.toNat :=
      UInt64.toNat_sub_of_le _ _ (UInt64.not_lt.mp hback)
    rw [UInt64.le_iff_toNat_le, (h.toNat_lowerBound hne).2, hsub]

/-! ## Sessions and reports -/

structure Tracker where
  handler : LocHalDaemonClientHandler
  memory : ReportMemory
  /-- The boot time of the last report. -/
  clock : UInt64
  /-- The engines without a final report since the session was started. -/
  owed : Nat → Bool
  /-- The last report of an engine that the filter looked at. -/
  seen : Nat → Option LocSessStatus
  /-- When the last report of an engine was passed, of those the filter looked at. -/
  sent : Nat → Option UInt64
  /-- When the last report of an engine was passed, with an interval in force or without. -/
  passed : Nat → Option UInt64
  /-- When the last final report of an engine was passed. -/
  passedFinal : Nat → Option UInt64

namespace Tracker

/-- A handler just made, with whatever is in its memory. -/
def init (clientType : ClientType) (ipcSender : Bool) (garbage : ReportMemory) : Tracker :=
  ⟨.new clientType ipcSender, garbage, 0, fun _ => false, fun _ => none, fun _ => none,
    fun _ => none, fun _ => none⟩

inductive Event
  | startTracking (locOptions : LocationOptions) (sessionId : UInt32)
  | stopTracking (clientExpectingResp : Bool)
  | updateTrackingOptions (locOptions : LocationOptions)
  | report (r : PositionReport)

variable (t : Tracker)

def minInterval : UInt32 := t.handler.mOptions.minInterval

/-- A `startTracking` now would start a session. -/
def Starts : Prop := t.handler.mSessionId = 0 ∧ t.handler.mLocationApi

instance : Decidable t.Starts := inferInstanceAs (Decidable (_ ∧ _))

def Passes (r : PositionReport) : Prop :=
  (t.memory.filterPositionReport t.minInterval r).1 = false

instance (r : PositionReport) : Decidable (t.Passes r) := inferInstanceAs (Decidable (_ = _))

def onReport (r : PositionReport) : Tracker where
  handler := t.handler
  memory := (t.memory.filterPositionReport t.minInterval r).2
  clock := r.curBootTimeMsec
  owed := if r.Final then Function.update t.owed r.engType false else t.owed
  seen :=
    if ReportMemory.Filters t.minInterval r then
      Function.update t.seen r.engType (some r.sessionStatus)
    else t.seen
  sent :=
    if ReportMemory.Filters t.minInterval r ∧ t.Passes r then
      Function.update t.sent r.engType (some r.curBootTimeMsec)
    else t.sent
  passed :=
    if t.Passes r then Function.update t.passed r.engType (some r.curBootTimeMsec)
    else t.passed
  passedFinal :=
    if r.Final ∧ t.Passes r then
      Function.update t.passedFinal r.engType (some r.curBootTimeMsec)
    else t.passedFinal

def step : Event → Tracker
  | .startTracking locOptions sessionId =>
      { t with
        handler := (t.handler.startTracking locOptions sessionId).1
        owed := if t.Starts then fun _ => true else t.owed }
  | .stopTracking clientExpectingResp =>
      { t with handler := (t.handler.stopTracking clientExpectingResp).1 }
  | .updateTrackingOptions locOptions =>
      { t with handler := (t.handler.updateTrackingOptions locOptions).1 }
  | .report r => t.onReport r

/-! ### What the memory holds -/

end Tracker

namespace ReportMemory

variable (garbage : ReportMemory)

/-- Whether the last report of each engine was final; before there was one, what the flag
happens to hold. -/
def firstOf (seen : Nat → Option LocSessStatus) (engType : Nat) : Bool :=
  match seen engType with
  | some sessionStatus => decide (sessionStatus = .success)
  | none => garbage.mFirstFixalFixReceived engType

/-- When the last report of each engine was passed; before there was one, what the time happens
to be. -/
def prevOf (sent : Nat → Option UInt64) (engType : Nat) : UInt64 :=
  (sent engType).getD (garbage.mPrevPosReportSentBootTimeMsec engType)

theorem firstOf_update (seen : Nat → Option LocSessStatus) (engType : Nat)
    (sessionStatus : LocSessStatus) :
    garbage.firstOf (Function.update seen engType (some sessionStatus)) =
      Function.update (garbage.firstOf seen) engType (decide (sessionStatus = .success)) := by
  funext other
  by_cases hq : other = engType
  · subst hq
    simp [firstOf]
  · simp [firstOf, Function.update_of_ne hq]

theorem prevOf_update (sent : Nat → Option UInt64) (engType : Nat) (curBootTimeMsec : UInt64) :
    garbage.prevOf (Function.update sent engType (some curBootTimeMsec)) =
      Function.update (garbage.prevOf sent) engType curBootTimeMsec := by
  funext other
  by_cases hq : other = engType
  · subst hq
    simp [prevOf]
  · simp [prevOf, Function.update_of_ne hq]

end ReportMemory

namespace Tracker

variable {t : Tracker} {garbage : ReportMemory}

/-- The memory is what the reports since the handler was made say, whatever the sessions. -/
structure Remembers (t : Tracker) (garbage : ReportMemory) : Prop where
  interval : IntervalOk t.minInterval
  first : t.memory.mFirstFixalFixReceived = garbage.firstOf t.seen
  prev : t.memory.mPrevPosReportSentBootTimeMsec = garbage.prevOf t.sent

theorem Remembers.init (clientType : ClientType) (ipcSender : Bool) :
    (init clientType ipcSender garbage).Remembers garbage :=
  ⟨.inl rfl, rfl, rfl⟩

/-- A report the filter looks at is remembered, and one it does not look at is not. -/
theorem Remembers.onReport (h : t.Remembers garbage) (r : PositionReport) :
    (t.onReport r).Remembers garbage := by
  by_cases hfilters : ReportMemory.Filters t.minInterval r
  · refine ⟨h.interval, ?_, ?_⟩
    · show _ = garbage.firstOf (if _ then _ else _)
      rw [if_pos hfilters, ReportMemory.firstOf_update, ← h.first]
      exact ReportMemory.filterPositionReport_first hfilters
    · show _ = garbage.prevOf (if _ then _ else _)
      refine (ReportMemory.filterPositionReport_prev hfilters).trans ?_
      by_cases hfst : (t.memory.filterPositionReport t.minInterval r).1 = true
      · have hpasses : ¬ t.Passes r := fun hp => Bool.false_ne_true (hp.symm.trans hfst)
        rw [if_pos hfst, if_neg (fun hand => hpasses hand.2)]
        exact h.prev
      · have hpasses : t.Passes r := Bool.not_eq_true _ |>.mp hfst
        rw [if_neg hfst, if_pos (And.intro hfilters hpasses), ReportMemory.prevOf_update, h.prev]
  · have heq : t.memory.filterPositionReport t.minInterval r = (false, t.memory) :=
      ReportMemory.filterPositionReport_unfiltered hfilters
    refine ⟨h.interval, ?_, ?_⟩
    · show (t.memory.filterPositionReport t.minInterval r).2.mFirstFixalFixReceived =
        garbage.firstOf (if _ then _ else _)
      rw [if_neg hfilters, heq, ← h.first]
    · show (t.memory.filterPositionReport t.minInterval r).2.mPrevPosReportSentBootTimeMsec =
        garbage.prevOf (if _ then _ else _)
      rw [if_neg (fun hand => hfilters hand.1), heq, ← h.prev]

/-- The options are set by a session's start and by its updates, each with an interval the
engine supports. -/
theorem startTracking_interval (h : LocHalDaemonClientHandler) (locOptions : LocationOptions)
    (sessionId : UInt32) (hold : IntervalOk h.mOptions.minInterval) :
    IntervalOk (h.startTracking locOptions sessionId).1.mOptions.minInterval := by
  unfold LocHalDaemonClientHandler.startTracking
  by_cases hstarts : (h.mSessionId == 0 && h.mLocationApi) = true
  · rw [if_pos hstarts]
    exact .inr (le_getSupportedTbf _)
  · rwa [if_neg hstarts]

theorem updateTrackingOptions_interval (h : LocHalDaemonClientHandler)
    (locOptions : LocationOptions) (hold : IntervalOk h.mOptions.minInterval) :
    IntervalOk (h.updateTrackingOptions locOptions).1.mOptions.minInterval := by
  unfold LocHalDaemonClientHandler.updateTrackingOptions
  by_cases hsession : (h.mSessionId != 0 && h.mLocationApi) = true
  · rw [if_pos hsession]
    exact .inr (le_getSupportedTbf _)
  · rwa [if_neg hsession]

theorem stopTracking_options (h : LocHalDaemonClientHandler) (clientExpectingResp : Bool) :
    (h.stopTracking clientExpectingResp).1.mOptions = h.mOptions := by
  unfold LocHalDaemonClientHandler.stopTracking
  by_cases hsession : (h.mSessionId != 0 && h.mLocationApi) = true
  · rw [if_pos hsession]
  · rw [if_neg hsession]

theorem Remembers.step (h : t.Remembers garbage) (e : Event) :
    (t.step e).Remembers garbage := by
  cases e with
  | startTracking locOptions sessionId =>
    exact ⟨startTracking_interval t.handler locOptions sessionId h.interval, h.first, h.prev⟩
  | stopTracking clientExpectingResp =>
    refine ⟨?_, h.first, h.prev⟩
    show IntervalOk (t.handler.stopTracking clientExpectingResp).1.mOptions.minInterval
    rw [stopTracking_options]
    exact h.interval
  | updateTrackingOptions locOptions =>
    exact ⟨updateTrackingOptions_interval t.handler locOptions h.interval, h.first, h.prev⟩
  | report r => exact h.onReport r

/-- The filter passes a report that follows one that was not final and is final itself, or that
comes on time; what it goes by is the history of the handler, not of the session. -/
theorem Remembers.passes_iff (h : t.Remembers garbage) {r : PositionReport}
    (hfilters : ReportMemory.Filters t.minInterval r) :
    t.Passes r ↔ (r.Final ∧ garbage.firstOf t.seen r.engType = false) ∨
      OnTime (garbage.prevOf t.sent r.engType) t.minInterval r := by
  rw [← h.first, ← h.prev, ← due_iff h.interval hfilters.1]
  exact ReportMemory.filterPositionReport_fst hfilters

theorem passes_of_not_filters {r : PositionReport}
    (hfilters : ¬ ReportMemory.Filters t.minInterval r) : t.Passes r :=
  congrArg Prod.fst (ReportMemory.filterPositionReport_unfiltered hfilters)

/-! ### The first fix of a session -/

/-- The first final report of an engine since the session was started is passed. -/
def FirstFixPassed (t : Tracker) : Event → Prop
  | .report r => t.owed r.engType → r.Final → t.Passes r
  | _ => True

/-- The condition on it: the engine's last report, in whatever session, was not final, or the
report comes on time after the last one passed, in whatever session. -/
def FirstFixFits (garbage : ReportMemory) (t : Tracker) : Event → Prop
  | .report r => t.owed r.engType → r.Final → ReportMemory.Filters t.minInterval r →
      garbage.firstOf t.seen r.engType = false ∨
        OnTime (garbage.prevOf t.sent r.engType) t.minInterval r
  | _ => True

/-- **The first fix of every session** of every engine is passed, exactly when each one follows
a report that was not final or comes on time, for the sessions before it too and for what the
memory held before them. -/
theorem first_fix_passed_iff (clientType : ClientType) (ipcSender : Bool)
    (garbage : ReportMemory) (es : List Event) :
    Meets step FirstFixPassed (init clientType ipcSender garbage) es ↔
      Meets step (FirstFixFits garbage) (init clientType ipcSender garbage) es := by
  refine Meets.congr (J := fun t => t.Remembers garbage) (fun t e h => h.step e) ?_ (.init ..)
  intro t e h
  cases e with
  | report r =>
    refine imp_congr_right fun _ => imp_congr_right fun hfinal => ?_
    by_cases hfilters : ReportMemory.Filters t.minInterval r
    · rw [h.passes_iff hfilters, and_iff_right hfinal]
      exact ⟨fun h _ => h, fun h => h hfilters⟩
    · exact iff_of_true (passes_of_not_filters hfilters) fun hno => absurd hno hfilters
  | startTracking locOptions sessionId => exact Iff.rfl
  | stopTracking clientExpectingResp => exact Iff.rfl
  | updateTrackingOptions locOptions => exact Iff.rfl

instance (t : Tracker) (e : Event) : Decidable (t.FirstFixPassed e) := by
  cases e <;> unfold FirstFixPassed <;> infer_instance

/-- Once a second, from any engine, with nothing in the memory. -/
def everySecond : LocationOptions := { LocationOptions.zero with minInterval := 1000 }

def cleared : ReportMemory := ⟨fun _ => 0, fun _ => false⟩

def fusedFix (sessionStatus : LocSessStatus) (curBootTimeMsec : UInt64) : Event :=
  .report ⟨0, sessionStatus, false, 0, curBootTimeMsec⟩

/-- A session started again within the interval does not get its first fix. -/
theorem first_fix_suppressed : ¬ Meets step FirstFixPassed (init .locationClientApi true cleared)
    [.startTracking everySecond 1, fusedFix .success 5000, .stopTracking true,
     .startTracking everySecond 2, fusedFix .success 5200] := by
  decide

/-! ### The rate -/

/-- The boot times do not decrease. -/
def InOrder (t : Tracker) : Event → Prop
  | .report r => t.clock ≤ r.curBootTimeMsec
  | _ => True

/-- The rate limit without exceptions but the first report and those aligned with the GPS
second. -/
structure LimitsRate (t : Tracker) (r : PositionReport) : Prop where
  no_wrap : t.minInterval ≠ 0 → positionReportGaurdBand ≤ t.minInterval
  spaced : t.Passes r → r.Final → ¬ r.Aligned t.minInterval →
    ∀ p, t.passedFinal r.engType = some p →
      t.minInterval.toNat - 30 ≤ r.curBootTimeMsec.toNat - p.toNat
  prompt : ∀ p, t.passed r.engType = some p →
    t.minInterval.toNat ≤ r.curBootTimeMsec.toNat - p.toNat → t.Passes r

/-- What the filter keeps: the spacing is between reports passed while an interval is in force,
and a final report that follows one that was not is passed at once. -/
structure KeepsRate (t : Tracker) (r : PositionReport) : Prop where
  no_wrap : t.minInterval ≠ 0 → positionReportGaurdBand ≤ t.minInterval
  spaced : t.Passes r → ReportMemory.Filters t.minInterval r → ¬ r.Aligned t.minInterval →
    (r.Final → t.seen r.engType = some .success) →
    ∀ p, t.sent r.engType = some p → p ≠ 0 →
      t.minInterval.toNat - 30 ≤ r.curBootTimeMsec.toNat - p.toNat
  prompt : ∀ p, t.sent r.engType = some p →
    t.minInterval.toNat ≤ r.curBootTimeMsec.toNat - p.toNat → t.Passes r

/-- A property of the reports of a run. -/
def OnReports (P : Tracker → PositionReport → Prop) (t : Tracker) : Event → Prop
  | .report r => P t r
  | _ => True

/-- No report was passed after the last one came. -/
def SentBefore (t : Tracker) : Prop := ∀ engType p, t.sent engType = some p → p ≤ t.clock

theorem SentBefore.step (h : t.SentBefore) {e : Event} (horder : t.InOrder e) :
    (t.step e).SentBefore := by
  cases e with
  | startTracking locOptions sessionId => exact h
  | stopTracking clientExpectingResp => exact h
  | updateTrackingOptions locOptions => exact h
  | report r =>
    intro engType p hp
    have hold : ∀ q, t.sent engType = some q → q ≤ r.curBootTimeMsec :=
      fun q hq => UInt64.le_trans (h engType q hq) horder
    show p ≤ r.curBootTimeMsec
    by_cases hsent : ReportMemory.Filters t.minInterval r ∧ t.Passes r
    · have hp' : Function.update t.sent r.engType (some r.curBootTimeMsec) engType = some p :=
        (congrFun (if_pos hsent) engType).symm.trans hp
      by_cases hq : engType = r.engType
      · rw [hq, Function.update_self] at hp'
        exact UInt64.le_of_eq (Option.some.inj hp').symm
      · rw [Function.update_of_ne hq] at hp'
        exact hold p hp'
    · exact hold p ((congrFun (if_neg hsent) engType).symm.trans hp)

theorem Remembers.keepsRate (h : t.Remembers garbage) (hsent : t.SentBefore)
    {r : PositionReport} (horder : t.clock ≤ r.curBootTimeMsec) : t.KeepsRate r where
  no_wrap := fun hne => (h.interval.toNat_lowerBound hne).1
  spaced := by
    intro hpasses hfilters haligned hfinal p hp hzero
    have hprev : garbage.prevOf t.sent r.engType = p := by
      rw [ReportMemory.prevOf, hp, Option.getD_some]
    have hle : p ≤ r.curBootTimeMsec := UInt64.le_trans (hsent r.engType p hp) horder
    rcases (h.passes_iff hfilters).mp hpasses with ⟨hf, hfirst⟩ | hontime
    · rw [ReportMemory.firstOf, hfinal hf] at hfirst
      exact nomatch (show true = false from hfirst)
    · rw [hprev] at hontime
      rcases hontime with ha | hz | hback | hbound
      · exact absurd ha haligned
      · exact absurd hz hzero
      · exact absurd hle (UInt64.not_le.mpr hback)
      · exact hbound
  prompt := by
    intro p hp hlate
    by_cases hfilters : ReportMemory.Filters t.minInterval r
    · have hprev : garbage.prevOf t.sent r.engType = p := by
        rw [ReportMemory.prevOf, hp, Option.getD_some]
      refine (h.passes_iff hfilters).mpr (.inr (.inr (.inr (.inr ?_))))
      rw [hprev]
      omega
    · exact passes_of_not_filters hfilters

/-- **The rate of the reports passed.**  While the boot times do not decrease, the bound is
never computed with a wrap, a report passed comes no sooner than the guard band allows after the
one before, and one that comes an interval later is passed. -/
theorem keeps_rate (clientType : ClientType) (ipcSender : Bool) (garbage : ReportMemory)
    {es : List Event} (horder : Meets step InOrder (init clientType ipcSender garbage) es) :
    Meets step (OnReports KeepsRate) (init clientType ipcSender garbage) es := by
  have hkept : Throughout step (fun t => t.Remembers garbage ∧ t.SentBefore)
      (init clientType ipcSender garbage) es :=
    throughout_of_meets (fun _ e h ho => ⟨h.1.step e, h.2.step ho⟩)
      ⟨.init .., fun _ _ h => nomatch h⟩ horder
  refine ((hkept.meets fun _ _ h => h).and horder).imp ?_
  rintro t e ⟨⟨hremembers, hsent⟩, ho⟩
  cases e with
  | report r => exact hremembers.keepsRate hsent ho
  | startTracking locOptions sessionId => trivial
  | stopTracking clientExpectingResp => trivial
  | updateTrackingOptions locOptions => trivial

instance (t : Tracker) (e : Event) : Decidable (t.InOrder e) := by
  cases e <;> unfold InOrder <;> infer_instance

theorem keeps_rate_sample : Meets step (OnReports KeepsRate)
    (init .locationClientApi true cleared)
    [.startTracking everySecond 1, fusedFix .success 5000, fusedFix .success 5200,
     fusedFix .success 5970, fusedFix .intermediate 6500, fusedFix .success 6600] :=
  keeps_rate .locationClientApi true cleared (by decide)

/-- A final report after one that was not is passed at once, whenever the last one was. -/
theorem final_after_intermediate : ¬ Meets step (OnReports LimitsRate)
    (init .locationClientApi true cleared)
    [.startTracking everySecond 1, fusedFix .success 5000, fusedFix .intermediate 5010,
     fusedFix .success 5020] := by
  rintro ⟨_, _, _, hlimits, _⟩
  have hspaced := hlimits.spaced (by decide) (by decide) (by decide) 5000 (by decide)
  exact absurd hspaced (by decide)

end Tracker

end LocationStack.Daemon
