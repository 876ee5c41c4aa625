import Mathlib.Logic.Function.Basic
import LocationStack.Lib.EventRun

/-! # The position session the FIDL clients share

The FIDL service has one client of the location client API, and so one position session for all
its own clients.  A start request of any of them replaces the session; what the service keeps of
the requests before it is a counter, the smallest interval, and the union of the report masks.
A stop request counts down, and at zero the session is stopped.

`Sys` is the service together with what it does not record: which client asked for what and has
not stopped.  `Covered` says that the session in force does for every such client what it asked
for.  The requests run one at a time on the service's message task, so a run is a list of them.
-/
namespace LocationStack
namespace Fidl

open EventRun

/-! ## Callbacks -/

/-- The handlers of the service that a session's callbacks call. -/
inductive Handler where
  | handleGnssLocationReport
  | handleGnssSvReport
  | handleGnssNmeaReport
  | handleGnssMeasurements
  | handleGnssDataReport
  | handleEngineLocationReport
  | handleEngineNmeaReport
  deriving DecidableEq, Repr

def MIN_POS_REPORT_INTERVAL_MSEC : UInt32 := 100

def GRCIMT_LOCATION_CB_INFO_BIT : UInt32 := 1
def GRCIMT_SV_CB_INFO_BIT : UInt32 := 2
def GRCIMT_NMEA_CB_INFO_BIT : UInt32 := 4
def GRCIMT_DATA_CB_INFO_BIT : UInt32 := 8
def GRCIMT_MEAS_CB_INFO_BIT : UInt32 := 16

def ERCMT_LOCATION_CB_INFO_BIT : UInt32 := 1
def ERCMT_SV_CB_INFO_BIT : UInt32 := 2
def ERCMT_NMEA_CB_INFO_BIT : UInt32 := 4
def ERCMT_DATA_CB_INFO_BIT : UInt32 := 8
def ERCMT_MEAS_CB_INFO_BIT : UInt32 := 16
def ERCMT_ENGINE_NMEA_CB_INFO_BIT : UInt32 := 32

def LRETM_FUSED : UInt32 := 1
def LRETM_SPE : UInt32 := 2
def LRETM_PPE : UInt32 := 4
def LRETM_VPE : UInt32 := 8

def LOC_REQ_ENGINE_FUSED_BIT : UInt32 := 1
def LOC_REQ_ENGINE_SPE_BIT : UInt32 := 2
def LOC_REQ_ENGINE_PPE_BIT : UInt32 := 4
def LOC_REQ_ENGINE_VPE_BIT : UInt32 := 8

/-- The callbacks of a fused session; a member that is not set is a null callback. -/
structure GnssReportCbs where
  gnssLocationCallback : Option Handler
  gnssSvCallback : Option Handler
  nmeaSentencesCallback : Option Handler
  gnssMeasurementsCallback : Option Handler
  gnssDataCallback : Option Handler

/-- The callbacks of an engine specific session. -/
structure EngineReportCbs where
  engLocationsCallback : Option Handler
  gnssSvCallback : Option Handler
  nmeaSentencesCallback : Option Handler
  gnssMeasurementsCallback : Option Handler
  gnssDataCallback : Option Handler

/-- A member of the callbacks, set if the mask has the bit. -/
def callbackIf (mask bit : UInt32) (h : Handler) : Option Handler :=
  if mask &&& bit ≠ 0 then some h else none

@[simp] theorem some_eq_callbackIf {mask bit : UInt32} {h h' : Handler} :
    some h' = callbackIf mask bit h ↔ mask &&& bit ≠ 0 ∧ h' = h := by
  unfold callbackIf
  by_cases hbit : mask &&& bit = 0 <;> simp [hbit]

@[simp] theorem some_eq_callbackIf_or {mask bit : UInt32} {h h' : Handler} {m : Option Handler} :
    some h' = (callbackIf mask bit h).or m ↔
      mask &&& bit ≠ 0 ∧ h' = h ∨ mask &&& bit = 0 ∧ some h' = m := by
  unfold callbackIf
  by_cases hbit : mask &&& bit = 0 <;> simp [hbit]

/-- `LocationTrackingSessCbHandler` of a fused session. -/
def gnssReportCbs (reportCbMask : UInt32) : GnssReportCbs where
  gnssLocationCallback :=
    callbackIf reportCbMask GRCIMT_LOCATION_CB_INFO_BIT .handleGnssLocationReport
  gnssSvCallback := callbackIf reportCbMask GRCIMT_SV_CB_INFO_BIT .handleGnssSvReport
  nmeaSentencesCallback := callbackIf reportCbMask GRCIMT_NMEA_CB_INFO_BIT .handleGnssNmeaReport
  gnssMeasurementsCallback :=
    callbackIf reportCbMask GRCIMT_MEAS_CB_INFO_BIT .handleGnssMeasurements
  gnssDataCallback := callbackIf reportCbMask GRCIMT_DATA_CB_INFO_BIT .handleGnssDataReport

/-- `LocationTrackingSessCbHandler` of an engine specific session.  The two kinds of NMEA share
a member: the second assignment, of the engine NMEA, overwrites the first. -/
def engineReportCbs (engReportCallbackMask : UInt32) : EngineReportCbs where
  engLocationsCallback :=
    callbackIf engReportCallbackMask ERCMT_LOCATION_CB_INFO_BIT .handleEngineLocationReport
  gnssSvCallback := callbackIf engReportCallbackMask ERCMT_SV_CB_INFO_BIT .handleGnssSvReport
  nmeaSentencesCallback :=
    (callbackIf engReportCallbackMask ERCMT_ENGINE_NMEA_CB_INFO_BIT .handleEngineNmeaReport).or
      (callbackIf engReportCallbackMask ERCMT_NMEA_CB_INFO_BIT .handleGnssNmeaReport)
  gnssMeasurementsCallback :=
    callbackIf engReportCallbackMask ERCMT_MEAS_CB_INFO_BIT .handleGnssMeasurements
  gnssDataCallback :=
    callbackIf engReportCallbackMask ERCMT_DATA_CB_INFO_BIT .handleGnssDataReport

/-- `mLcaLocReqEngMask`: the engines of the request in the client API's bits. -/
def lcaLocReqEngMask (locReqEngMask : UInt32) : UInt32 :=
  (if locReqEngMask &&& LRETM_FUSED ≠ 0 then LOC_REQ_ENGINE_FUSED_BIT else 0) |||
  (if locReqEngMask &&& LRETM_SPE ≠ 0 then LOC_REQ_ENGINE_SPE_BIT else 0) |||
  (if locReqEngMask &&& LRETM_PPE ≠ 0 then LOC_REQ_ENGINE_PPE_BIT else 0) |||
  (if locReqEngMask &&& LRETM_VPE ≠ 0 then LOC_REQ_ENGINE_VPE_BIT else 0)

/-- The callbacks given to the client API with a start. -/
inductive SessionCbs where
  | gnss (cbs : GnssReportCbs)
  | engine (locEngReqMask : UInt32) (cbs : EngineReportCbs)

def SessionCbs.members : SessionCbs → List (Option Handler)
  | .gnss cbs => [cbs.gnssLocationCallback, cbs.gnssSvCallback, cbs.nmeaSentencesCallback,
      cbs.gnssMeasurementsCallback, cbs.gnssDataCallback]
  | .engine _ cbs => [cbs.engLocationsCallback, cbs.gnssSvCallback, cbs.nmeaSentencesCallback,
      cbs.gnssMeasurementsCallback, cbs.gnssDataCallback]

/-- The client API's session in force: what it was requested with. -/
structure Session where
  interval : UInt32
  callbacks : SessionCbs

/-- The session calls a handler of the service. -/
def Session.Calls (session : Session) (h : Handler) : Prop :=
  some h ∈ session.callbacks.members

/-! ## The service -/

/-- A start request of a client. -/
inductive Request where
  | fused (intervalInMs gnssReportCallbackMask : UInt32)
  | engine (intervalInMs locReqEngMask engReportCallbackMask : UInt32)

namespace Request

def interval : Request → UInt32
  | fused intervalInMs _ => intervalInMs
  | engine intervalInMs _ _ => intervalInMs

def mask : Request → UInt32
  | fused _ mask => mask
  | engine _ _ mask => mask

/-- What the bits of a request's mask ask for. -/
def bits : Request → List (UInt32 × Handler)
  | fused _ _ =>
      [(GRCIMT_LOCATION_CB_INFO_BIT, .handleGnssLocationReport),
       (GRCIMT_SV_CB_INFO_BIT, .handleGnssSvReport),
       (GRCIMT_NMEA_CB_INFO_BIT, .handleGnssNmeaReport),
       (GRCIMT_DATA_CB_INFO_BIT, .handleGnssDataReport),
       (GRCIMT_MEAS_CB_INFO_BIT, .handleGnssMeasurements)]
  | engine _ _ _ =>
      [(ERCMT_LOCATION_CB_INFO_BIT, .handleEngineLocationReport),
       (ERCMT_SV_CB_INFO_BIT, .handleGnssSvReport),
       (ERCMT_NMEA_CB_INFO_BIT, .handleGnssNmeaReport),
       (ERCMT_DATA_CB_INFO_BIT, .handleGnssDataReport),
       (ERCMT_MEAS_CB_INFO_BIT, .handleGnssMeasurements),
       (ERCMT_ENGINE_NMEA_CB_INFO_BIT, .handleEngineNmeaReport)]

/-- The request's mask asks for a report callback. -/
def Wants (r : Request) (h : Handler) : Prop :=
  ∃ bit, (bit, h) ∈ r.bits ∧ r.mask &&& bit ≠ 0

end Request

/-- The members of `LocIdlAPIService` its position sessions use, and the session of
`mLcaInstance`. -/
structure Service where
  numControlRequests : UInt32
  mGnssReportMask : UInt32
  mTimeBetweenFixes : UInt32
  session : Option Session

namespace Service

/-- The constructor's values. -/
def init : Service := ⟨0, 0, 0, none⟩

/-- `checkMinIntervalForUpdate`: the new `mTimeBetweenFixes`. -/
def checkMinIntervalForUpdate (s : Service) (clientRequestedTbf : UInt32) : UInt32 :=
  if clientRequestedTbf ≠ 0 then
    if s.mTimeBetweenFixes = 0 then clientRequestedTbf
    else if clientRequestedTbf < s.mTimeBetweenFixes then clientRequestedTbf
    else s.mTimeBetweenFixes
  else MIN_POS_REPORT_INTERVAL_MSEC

/-- The callbacks of the session a request starts: a fused request passes on the masks of all
the requests so far, an engine specific one its own only. -/
def callbacksFor (s : Service) : Request → SessionCbs
  | .fused _ gnssReportCallbackMask =>
      .gnss (gnssReportCbs (s.mGnssReportMask ||| gnssReportCallbackMask))
  | .engine _ locReqEngMask engReportCallbackMask =>
      .engine (lcaLocReqEngMask locReqEngMask) (engineReportCbs engReportCallbackMask)

/-- `startPositionSession`, either kind. -/
def startPositionSession (s : Service) (r : Request) : Service where
  numControlRequests := s.numControlRequests + 1
  mGnssReportMask := s.mGnssReportMask ||| r.mask
  mTimeBetweenFixes := s.checkMinIntervalForUpdate r.interval
  session := some ⟨s.checkMinIntervalForUpdate r.interval, s.callbacksFor r⟩

/-- `stopPositionSession`. -/
def stopPositionSession (s : Service) : Service :=
  if 0 < s.numControlRequests then
    if s.numControlRequests - 1 = 0 then ⟨0, 0, 0, none⟩
    else ⟨s.numControlRequests - 1, s.mGnssReportMask, s.mTimeBetweenFixes, s.session⟩
  else s

end Service

/-! ## The clients -/

variable {ClientId : Type} [DecidableEq ClientId]

/-- A message of the service's task. -/
inductive Msg (ClientId : Type) where
  | startPositionSession (client : ClientId) (r : Request)
  | stopPositionSession (client : ClientId)

/-- The service, and the request of every client that has a session it has not stopped. -/
structure Sys (ClientId : Type) where
  service : Service
  active : ClientId → Option Request

namespace Sys

def init : Sys ClientId := ⟨.init, fun _ => none⟩

/-- One message is processed. -/
def step (s : Sys ClientId) : Msg ClientId → Sys ClientId
  | .startPositionSession client r =>
      ⟨s.service.startPositionSession r, Function.update s.active client (some r)⟩
  | .stopPositionSession client =>
      ⟨s.service.stopPositionSession, Function.update s.active client none⟩

end Sys

/-- A session does what a request asks for. -/
structure Session.Covers (session : Session) (r : Request) : Prop where
  interval : r.interval ≠ 0 → session.interval ≤ r.interval
  callbacks : ∀ h, r.Wants h → session.Calls h

namespace Sys

/-- The session runs for the clients that are active, and covers each of them. -/
structure Covered (s : Sys ClientId) : Prop where
  runs : s.service.session.isSome ↔ ∃ c r, s.active c = some r
  covers : ∀ c r session, s.active c = some r → s.service.session = some session →
    session.Covers r

end Sys

/-! ## What a request wants and what a session calls -/

/-- The bit of a report mask that asks for a handler. -/
def Handler.bit : Handler → UInt32
  | .handleGnssLocationReport => GRCIMT_LOCATION_CB_INFO_BIT
  | .handleGnssSvReport => GRCIMT_SV_CB_INFO_BIT
  | .handleGnssNmeaReport => GRCIMT_NMEA_CB_INFO_BIT
  | .handleGnssMeasurements => GRCIMT_MEAS_CB_INFO_BIT
  | .handleGnssDataReport => GRCIMT_DATA_CB_INFO_BIT
  | .handleEngineLocationReport => ERCMT_LOCATION_CB_INFO_BIT
  | .handleEngineNmeaReport => ERCMT_ENGINE_NMEA_CB_INFO_BIT

/-- Only an engine specific session calls it. -/
def Handler.EngineOnly (h : Handler) : Prop :=
  h = .handleEngineLocationReport ∨ h = .handleEngineNmeaReport

/-- The two masks agree on the reports they share. -/
theorem shared_bits : ERCMT_SV_CB_INFO_BIT = GRCIMT_SV_CB_INFO_BIT ∧
    ERCMT_NMEA_CB_INFO_BIT = GRCIMT_NMEA_CB_INFO_BIT ∧
    ERCMT_DATA_CB_INFO_BIT = GRCIMT_DATA_CB_INFO_BIT ∧
    ERCMT_MEAS_CB_INFO_BIT = GRCIMT_MEAS_CB_INFO_BIT :=
  ⟨rfl, rfl, rfl, rfl⟩

theorem wants_fused {interval mask : UInt32} {h : Handler} :
    (Request.fused interval mask).Wants h ↔ ¬ h.EngineOnly ∧ mask &&& h.bit ≠ 0 := by
  cases h <;> simp [Request.Wants, Request.bits, Request.mask, Handler.EngineOnly, Handler.bit]

theorem wants_engine {interval engines mask : UInt32} {h : Handler} :
    (Request.engine interval engines mask).Wants h ↔
      h ≠ .handleGnssLocationReport ∧ mask &&& h.bit ≠ 0 := by
  cases h <;> simp [Request.Wants, Request.bits, Request.mask, Handler.bit, shared_bits]

/-- A fused session calls what a fused request with its mask wants. -/
theorem calls_gnss {interval mask : UInt32} {h : Handler} :
    Session.Calls ⟨interval, .gnss (gnssReportCbs mask)⟩ h ↔
      (Request.fused interval mask).Wants h := by
  rw [wants_fused]
  cases h <;> simp [Session.Calls, SessionCbs.members, gnssReportCbs, Handler.EngineOnly,
    Handler.bit]

/-- An engine specific session calls what a request with its mask wants, but for the NMEA of
the receiver where the engines' NMEA is asked for too. -/
theorem calls_engine (interval engines : UInt32) {interval' engines' mask : UInt32}
    {h : Handler} :
    Session.Calls ⟨interval', .engine engines' (engineReportCbs mask)⟩ h ↔
      (Request.engine interval engines mask).Wants h ∧
        ¬ (h = .handleGnssNmeaReport ∧
          (Request.engine interval engines mask).Wants .handleEngineNmeaReport) := by
  simp only [wants_engine]
  cases h <;> simp [Session.Calls, SessionCbs.members, engineReportCbs, Handler.bit, shared_bits,
    and_comm]

theorem or_and_ne_zero {a b bit : UInt32} :
    (a ||| b) &&& bit ≠ 0 ↔ a &&& bit ≠ 0 ∨ b &&& bit ≠ 0 := by
  have hdistrib : (a ||| b) &&& bit = a &&& bit ||| b &&& bit :=
    UInt32.toBitVec_inj.mp BitVec.and_or_distrib_right
  rw [← not_and_or, hdistrib, ne_eq, UInt32.or_eq_zero_iff]

/-! ## What the service keeps of the requests -/

namespace Service

/-- The session in force was requested with the interval the service holds, calls what the
mask it holds has a bit for, and runs while requests are counted. -/
structure Kept (s : Service) : Prop where
  interval : ∀ session, s.session = some session →
    session.interval = s.mTimeBetweenFixes ∧ s.mTimeBetweenFixes ≠ 0
  callbacks : ∀ session, s.session = some session → ∀ h, session.Calls h →
    s.mGnssReportMask &&& h.bit ≠ 0
  counted : s.numControlRequests ≠ 0 → s.session.isSome

theorem Kept.init : Service.init.Kept where
  interval := by rintro _ ⟨⟩
  callbacks := by rintro _ ⟨⟩
  counted := fun h => absurd rfl h

theorem checkMinIntervalForUpdate_ne_zero (s : Service) (requested : UInt32) :
    s.checkMinIntervalForUpdate requested ≠ 0 := by
  unfold checkMinIntervalForUpdate
  by_cases hreq : requested = 0
  · simp [hreq, MIN_POS_REPORT_INTERVAL_MSEC]
  · by_cases htbf : s.mTimeBetweenFixes = 0
    · simp [hreq, htbf]
    · by_cases hlt : requested < s.mTimeBetweenFixes <;> simp [hreq, htbf, hlt]

theorem checkMinIntervalForUpdate_zero (s : Service) :
    s.checkMinIntervalForUpdate 0 = MIN_POS_REPORT_INTERVAL_MSEC := rfl

/-- A non-zero request never makes the interval larger. -/
theorem checkMinIntervalForUpdate_le (s : Service) {requested : UInt32} (hreq : requested ≠ 0) :
    s.checkMinIntervalForUpdate requested ≤ requested ∧
      (s.mTimeBetweenFixes ≠ 0 → s.checkMinIntervalForUpdate requested ≤ s.mTimeBetweenFixes) := by
  unfold checkMinIntervalForUpdate
  rw [if_pos hreq]
  by_cases htbf : s.mTimeBetweenFixes = 0
  · rw [if_pos htbf]
    exact ⟨UInt32.le_refl _, fun h => absurd htbf h⟩
  · rw [if_neg htbf]
    by_cases hlt : requested < s.mTimeBetweenFixes
    · rw [if_pos hlt]
      exact ⟨UInt32.le_refl _, fun _ => UInt32.le_of_lt hlt⟩
    · rw [if_neg hlt]
      exact ⟨UInt32.not_lt.mp hlt, fun _ => UInt32.le_refl _⟩

/-- What the callbacks a request starts a session with call, whatever the interval. -/
theorem callbacksFor_bit (s : Service) (interval : UInt32) (r : Request) {h : Handler}
    (hcalls : Session.Calls ⟨interval, s.callbacksFor r⟩ h) :
    (s.mGnssReportMask ||| r.mask) &&& h.bit ≠ 0 := by
  cases r with
  | fused requested mask => exact (wants_fused.mp (calls_gnss.mp hcalls)).2
  | engine requested engines mask =>
    have hwants := ((calls_engine requested engines).mp hcalls).1
    exact or_and_ne_zero.mpr (.inr (wants_engine.mp hwants).2)

theorem Kept.startPositionSession {s : Service} (r : Request) :
    (s.startPositionSession r).Kept where
  interval := by
    rintro _ ⟨⟩
    exact ⟨rfl, s.checkMinIntervalForUpdate_ne_zero r.interval⟩
  callbacks := by
    rintro _ ⟨⟩ h hcalls
    exact s.callbacksFor_bit _ r hcalls
  counted := fun _ => rfl

/-- A stop ends the session, or leaves all but the counter. -/
theorem stopPositionSession_cases (s : Service) :
    s.numControlRequests = 0 ∧ s.stopPositionSession = s ∨
    s.numControlRequests = 1 ∧ s.stopPositionSession = .init ∨
    s.numControlRequests ≠ 0 ∧ s.numControlRequests ≠ 1 ∧ s.stopPositionSession =
      ⟨s.numControlRequests - 1, s.mGnssReportMask, s.mTimeBetweenFixes, s.session⟩ := by
  unfold stopPositionSession
  by_cases hzero : s.numControlRequests = 0
  · exact .inl ⟨hzero, by simp [hzero]⟩
  · have hpos : 0 < s.numControlRequests := UInt32.pos_iff_ne_zero.mpr hzero
    rw [if_pos hpos]
    by_cases hone : s.numControlRequests = 1
    · exact .inr (.inl ⟨hone, by simp [hone, init]⟩)
    · have hsub : s.numControlRequests - 1 ≠ 0 := by
        intro hsub
        rw [← UInt32.sub_add_cancel s.numControlRequests 1, hsub] at hone
        exact hone rfl
      exact .inr (.inr ⟨hzero, hone, by rw [if_neg hsub]⟩)

theorem Kept.stopPositionSession {s : Service} (hs : s.Kept) : s.stopPositionSession.Kept := by
  rcases s.stopPositionSession_cases with ⟨_, heq⟩ | ⟨_, heq⟩ | ⟨hzero, _, heq⟩
  · rwa [heq]
  · rw [heq]
    exact .init
  · rw [heq]
    exact ⟨hs.interval, hs.callbacks, fun _ => hs.counted hzero⟩

end Service

theorem Sys.kept_step (s : Sys ClientId) (m : Msg ClientId) (hs : s.service.Kept) :
    (s.step m).service.Kept := by
  cases m with
  | startPositionSession client r => exact .startPositionSession r
  | stopPositionSession client => exact hs.stopPositionSession

/-! ## When the clients stay covered -/

/-- The request wants both kinds of NMEA, which have one callback between them. -/
def Request.BothNmeas (r : Request) : Prop :=
  r.Wants .handleGnssNmeaReport ∧ r.Wants .handleEngineNmeaReport

/-- What earlier requests wanted and a session started with `r` still calls: a fused one all but
what only an engine specific session reports, an engine specific one what `r` itself wants. -/
def Request.Keeps : Request → Handler → Prop
  | .fused _ _, h => ¬ h.EngineOnly
  | .engine interval engines mask, h => (Request.engine interval engines mask).Wants h

namespace Sys

/-- A client other than the given one has asked for `r` and not stopped. -/
def Other (s : Sys ClientId) (client : ClientId) (r : Request) : Prop :=
  ∃ c, c ≠ client ∧ s.active c = some r

/-- A start without an interval sets the interval to the smallest there is supposed to be. -/
def IntervalFits (s : Sys ClientId) (client : ClientId) (r : Request) : Prop :=
  r.interval = 0 → ∀ r', s.Other client r' → r'.interval ≠ 0 →
    MIN_POS_REPORT_INTERVAL_MSEC ≤ r'.interval

/-- The condition on a message: a start fits the other clients, and a stop finds one counted
request exactly when no other client is active. -/
def Fits (s : Sys ClientId) : Msg ClientId → Prop
  | .startPositionSession client r => s.IntervalFits client r ∧ ¬ r.BothNmeas ∧
      ∀ r' h, s.Other client r' → r'.Wants h → r.Keeps h
  | .stopPositionSession client => s.service.session.isSome →
      (s.service.numControlRequests = 1 ↔ ∀ r, ¬ s.Other client r)

variable {s : Sys ClientId}

theorem active_update_iff {client : ClientId} {a : Option Request} :
    (∃ c r, Function.update s.active client a c = some r) ↔
      (∃ r, a = some r) ∨ ∃ r, s.Other client r := by
  constructor
  · rintro ⟨c, r, hc⟩
    by_cases hq : c = client
    · subst hq
      exact .inl ⟨r, by simpa using hc⟩
    · exact .inr ⟨r, c, hq, by simpa only [Function.update_of_ne hq] using hc⟩
  · rintro (⟨r, ha⟩ | ⟨r, c, hq, hc⟩)
    · exact ⟨client, r, by rw [Function.update_self, ha]⟩
    · exact ⟨c, r, by rw [Function.update_of_ne hq, hc]⟩

/-- After a start the session runs; what is left is that it covers the caller and the others. -/
theorem covered_start_iff {client : ClientId} {r : Request} :
    (s.step (.startPositionSession client r)).Covered ↔
      Session.Covers ⟨s.service.checkMinIntervalForUpdate r.interval, s.service.callbacksFor r⟩ r ∧
      ∀ r', s.Other client r' → Session.Covers
        ⟨s.service.checkMinIntervalForUpdate r.interval, s.service.callbacksFor r⟩ r' := by
  constructor
  · rintro ⟨_, hcovers⟩
    refine ⟨hcovers client r _ (Function.update_self ..) rfl, ?_⟩
    rintro r' ⟨c, hq, hc⟩
    exact hcovers c r' _ ((Function.update_of_ne hq ..).trans hc) rfl
  · rintro ⟨hown, hothers⟩
    refine ⟨?_, ?_⟩
    · exact ⟨fun _ => ⟨client, r, Function.update_self ..⟩, fun _ => rfl⟩
    · rintro c r' _ hc ⟨⟩
      by_cases hq : c = client
      · subst hq
        obtain rfl : r = r' := by simpa [step] using hc
        exact hown
      · exact hothers r' ⟨c, hq, by simpa only [step, Function.update_of_ne hq] using hc⟩

/-- The session a start asks for covers the caller, but for two kinds of NMEA in one mask. -/
theorem covers_own_iff (s : Service) (r : Request) :
    Session.Covers ⟨s.checkMinIntervalForUpdate r.interval, s.callbacksFor r⟩ r ↔
      ¬ r.BothNmeas := by
  have hinterval : r.interval ≠ 0 → s.checkMinIntervalForUpdate r.interval ≤ r.interval :=
    fun hne => (s.checkMinIntervalForUpdate_le hne).1
  cases r with
  | fused interval mask =>
    refine iff_of_true ⟨hinterval, fun h hwants => ?_⟩ fun hboth => ?_
    · obtain ⟨hkind, hbit⟩ := wants_fused.mp hwants
      exact calls_gnss.mpr (wants_fused.mpr ⟨hkind, or_and_ne_zero.mpr (.inr hbit)⟩)
    · exact (wants_fused.mp hboth.2).1 (.inr rfl)
  | engine interval engines mask =>
    constructor
    · rintro ⟨_, hcalls⟩ ⟨hgnss, hengine⟩
      exact ((calls_engine interval engines).mp (hcalls _ hgnss)).2 ⟨rfl, hengine⟩
    · intro hboth
      refine ⟨hinterval, fun h hwants => (calls_engine interval engines).mpr ⟨hwants, ?_⟩⟩
      rintro ⟨rfl, hengine⟩
      exact hboth ⟨hwants, hengine⟩

/-- The session a start asks for covers a request that the session before it covered, if the
interval and the callbacks fit. -/
theorem covers_other_iff {s : Service} (hkept : s.Kept) {old : Session}
    (hold : s.session = some old) {r r' : Request} (hboth : ¬ r.BothNmeas)
    (hcovers : old.Covers r') :
    Session.Covers ⟨s.checkMinIntervalForUpdate r.interval, s.callbacksFor r⟩ r' ↔
      (r.interval = 0 → r'.interval ≠ 0 → MIN_POS_REPORT_INTERVAL_MSEC ≤ r'.interval) ∧
        ∀ h, r'.Wants h → r.Keeps h := by
  have hinterval : (r'.interval ≠ 0 → s.checkMinIntervalForUpdate r.interval ≤ r'.interval) ↔
      (r.interval = 0 → r'.interval ≠ 0 → MIN_POS_REPORT_INTERVAL_MSEC ≤ r'.interval) := by
    by_cases hreq : r.interval = 0
    · rw [hreq, s.checkMinIntervalForUpdate_zero]
      simp
    · obtain ⟨heq, htbf⟩ := hkept.interval old hold
      refine iff_of_true (fun hne => ?_) fun h => absurd h hreq
      have hmin := (s.checkMinIntervalForUpdate_le hreq).2 htbf
      exact UInt32.le_trans hmin (heq ▸ hcovers.interval hne)
  have hcallbacks : ∀ h, r'.Wants h → (Session.Calls
      ⟨s.checkMinIntervalForUpdate r.interval, s.callbacksFor r⟩ h ↔ r.Keeps h) := by
    intro h hwants
    -- what is wanted has its bit in the mask, since the session before called it
    have hbit : s.mGnssReportMask &&& h.bit ≠ 0 :=
      hkept.callbacks old hold h (hcovers.callbacks h hwants)
    cases r with
    | fused interval mask =>
      refine (calls_gnss.trans wants_fused).trans ?_
      exact and_iff_left (or_and_ne_zero.mpr (.inl hbit))
    | engine interval engines mask =>
      refine (calls_engine interval engines).trans (and_iff_left_of_imp ?_)
      rintro hown ⟨rfl, hengine⟩
      exact hboth ⟨hown, hengine⟩
  constructor
  · intro h
    exact ⟨hinterval.mp h.interval, fun h' hw => (hcallbacks h' hw).mp (h.callbacks h' hw)⟩
  · rintro ⟨hi, hc⟩
    exact ⟨hinterval.mpr hi, fun h' hw => (hcallbacks h' hw).mpr (hc h' hw)⟩

/-- **What a start keeps.** -/
theorem covered_start {client : ClientId} {r : Request} (hkept : s.service.Kept)
    (hs : s.Covered) :
    (s.step (.startPositionSession client r)).Covered ↔
      s.Fits (.startPositionSession client r) := by
  rw [covered_start_iff, covers_own_iff]
  have hothers : ∀ r', ¬ r.BothNmeas → s.Other client r' → (Session.Covers
      ⟨s.service.checkMinIntervalForUpdate r.interval, s.service.callbacksFor r⟩ r' ↔
      (r.interval = 0 → r'.interval ≠ 0 → MIN_POS_REPORT_INTERVAL_MSEC ≤ r'.interval) ∧
        ∀ h, r'.Wants h → r.Keeps h) := by
    rintro r' hboth ⟨c, _, hc⟩
    obtain ⟨old, hold⟩ := Option.isSome_iff_exists.mp (hs.runs.mpr ⟨c, r', hc⟩)
    exact covers_other_iff hkept hold hboth (hs.covers c r' old hc hold)
  constructor
  · rintro ⟨hboth, hcovers⟩
    have hfits := fun r' ho => (hothers r' hboth ho).mp (hcovers r' ho)
    exact ⟨fun hzero r' ho => (hfits r' ho).1 hzero, hboth, fun r' h ho => (hfits r' ho).2 h⟩
  · rintro ⟨hinterval, hboth, hkeeps⟩
    refine ⟨hboth, fun r' ho => (hothers r' hboth ho).mpr ⟨fun hzero => ?_, fun h => ?_⟩⟩
    · exact hinterval hzero r' ho
    · exact hkeeps r' h ho

/-- A stop ends the session when one request is counted, and does nothing to it otherwise. -/
theorem session_stop (s : Service) :
    s.stopPositionSession.session = if s.numControlRequests = 1 then none else s.session := by
  rcases s.stopPositionSession_cases with ⟨hzero, heq⟩ | ⟨hone, heq⟩ | ⟨_, hone, heq⟩
  · rw [heq, hzero]
    rfl
  · rw [heq, if_pos hone]
    rfl
  · rw [heq, if_neg hone]

/-- **What a stop keeps.** -/
theorem covered_stop {client : ClientId} (hs : s.Covered) :
    (s.step (.stopPositionSession client)).Covered ↔ s.Fits (.stopPositionSession client) := by
  have hactive : (∃ c r, (s.step (.stopPositionSession client)).active c = some r) ↔
      ∃ r, s.Other client r := by
    refine active_update_iff.trans (or_iff_right ?_)
    rintro ⟨_, ⟨⟩⟩
  have hcovers : ∀ c r session, (s.step (.stopPositionSession client)).active c = some r →
      s.service.session = some session → session.Covers r := by
    intro c r session hc hsession
    by_cases hq : c = client
    · subst hq
      simp [step] at hc
    · exact hs.covers c r session (by simpa only [step, Function.update_of_ne hq] using hc) hsession
  have hsession := session_stop s.service
  constructor
  · intro hstop hruns
    have hiff := hstop.runs.trans hactive
    by_cases hone : s.service.numControlRequests = 1
    · rw [if_pos hone] at hsession
      refine iff_of_true hone fun r ho => ?_
      have hsome := hiff.mpr ⟨r, ho⟩
      simp [step, hsession] at hsome
    · rw [if_neg hone] at hsession
      obtain ⟨r, ho⟩ := hiff.mp ((congrArg Option.isSome hsession).trans hruns)
      exact iff_of_false hone fun h => h r ho
  · intro hfits
    refine ⟨Iff.trans ?_ hactive.symm, fun c r session hc hafter => ?_⟩
    · by_cases hone : s.service.numControlRequests = 1
      · rw [if_pos hone] at hsession
        refine iff_of_false (by simp [step, hsession]) ?_
        rintro ⟨r, c, hne, hc⟩
        exact (hfits (hs.runs.mpr ⟨c, r, hc⟩)).mp hone r ⟨c, hne, hc⟩
      · rw [if_neg hone] at hsession
        constructor
        · intro hruns
          have hold : s.service.session.isSome := (congrArg Option.isSome hsession).symm.trans hruns
          by_contra hnone
          exact hone ((hfits hold).mpr (not_exists.mp hnone))
        · rintro ⟨r, c, _, hc⟩
          exact (congrArg Option.isSome hsession).trans (hs.runs.mpr ⟨c, r, hc⟩)
    · refine hcovers c r session hc ?_
      by_cases hone : s.service.numControlRequests = 1
      · rw [if_pos hone] at hsession
        simp [step, hsession] at hafter
      · exact (if_neg hone ▸ hsession).symm.trans hafter

end Sys

end Fidl
end LocationStack
