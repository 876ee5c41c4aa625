import LocationStack.PbConv.Common

/-! # The parameters and the status of XTRA

The parameters hold two arrays of server names, each with a count; the decoder takes the size of
the repeated field for both.  The rest of a status is sent only if the feature is enabled.
-/
namespace LocationStack
namespace PbConv

/-! ## Enumerations -/

inductive DebugLogLevel
  | none | error | warning | info | debug | verbose
  deriving Repr, DecidableEq, Inhabited

inductive PBDebugLogLevel
  | none | error | warning | info | debug | verbose
  | unrecognized (value : BitVec 32)
  deriving Repr, DecidableEq, Inhabited

def getPBEnumForDebugLogLevel : DebugLogLevel → PBDebugLogLevel
  | .none => .none
  | .error => .error
  | .warning => .warning
  | .info => .info
  | .debug => .debug
  | .verbose => .verbose

def getDebugLogLevelFromPB : PBDebugLogLevel → DebugLogLevel
  | .none => .none
  | .error => .error
  | .warning => .warning
  | .info => .info
  | .debug => .debug
  | .verbose => .verbose
  | .unrecognized _ => .none

@[simp] theorem getDebugLogLevelFromPB_getPBEnumForDebugLogLevel (e : DebugLogLevel) :
    getDebugLogLevelFromPB (getPBEnumForDebugLogLevel e) = e := by
  cases e <;> rfl

inductive XtraDataStatus
  | unknown | notAvail | notValid | valid
  deriving Repr, DecidableEq, Inhabited

inductive PBXtraDataStatus
  | unknown | notAvail | notValid | valid
  | unrecognized (value : BitVec 32)
  deriving Repr, DecidableEq, Inhabited

def getPBEnumForXtraDataStatus : XtraDataStatus → PBXtraDataStatus
  | .unknown => .unknown
  | .notAvail => .notAvail
  | .notValid => .notValid
  | .valid => .valid

def getXtraDataStatusFromPB : PBXtraDataStatus → XtraDataStatus
  | .unknown => .unknown
  | .notAvail => .notAvail
  | .notValid => .notValid
  | .valid => .valid
  | .unrecognized _ => .unknown

@[simp] theorem getXtraDataStatusFromPB_getPBEnumForXtraDataStatus (e : XtraDataStatus) :
    getXtraDataStatusFromPB (getPBEnumForXtraDataStatus e) = e := by
  cases e <;> rfl

inductive XtraStatusUpdateType
  | undefined | uponQuery | uponRegistration | uponStatusChange
  deriving Repr, DecidableEq, Inhabited

inductive PBXtraStatusUpdateType
  | undefined | uponQuery | uponRegistration | uponStatusChange
  | unrecognized (value : BitVec 32)
  deriving Repr, DecidableEq, Inhabited

def getPBEnumForXtraStatusUpdateType : XtraStatusUpdateType → PBXtraStatusUpdateType
  | .undefined => .undefined
  | .uponQuery => .uponQuery
  | .uponRegistration => .uponRegistration
  | .uponStatusChange => .uponStatusChange

def getXtraStatusUpdateTypeFromPB : PBXtraStatusUpdateType → XtraStatusUpdateType
  | .undefined => .undefined
  | .uponQuery => .uponQuery
  | .uponRegistration => .uponRegistration
  | .uponStatusChange => .uponStatusChange
  | .unrecognized _ => .undefined

@[simp] theorem getXtraStatusUpdateTypeFromPB_getPBEnumForXtraStatusUpdateType
    (e : XtraStatusUpdateType) :
    getXtraStatusUpdateTypeFromPB (getPBEnumForXtraStatusUpdateType e) = e := by
  cases e <;> rfl

/-! ## Servers -/

/-- The names of some servers, each in an array of its own. -/
abbrev ServerURLs (capacity size : Nat) := Counted (Vector UInt8 size) capacity

namespace ServerURLs

variable {capacity size : Nat}

/-- There is room for the names, and each has a NUL. -/
structure WithinCapacity (urls : ServerURLs capacity size) : Prop where
  count : urls.count.toNat ≤ capacity
  name : ∀ i (hi : i < capacity), i < urls.count.toNat →
    (cString urls.data[i].toList).length < size

/-- The same names. -/
structure Same (urls urls' : ServerURLs capacity size) : Prop where
  count : urls'.count = urls.count
  name : ∀ i (hi : i < capacity), i < urls.count.toNat →
    cString urls'.data[i].toList = cString urls.data[i].toList

def toPB (urls : ServerURLs capacity size) : List (List UInt8) :=
  addAll urls.count.toNat urls.data fun url => cString url.toList

/-- The loop runs over the names of the message; then their number is stored. -/
def ofPB (names : List (List UInt8)) (urls : ServerURLs capacity size) :
    Logged (ServerURLs capacity size) := do
  let data ← Logged.fill (intRounds names.length) names (fun name url => strlcpy url name) urls.data
  let count := UInt32.ofNat names.length
  Logged.count count.toNat capacity
  pure { count, data }

theorem inBounds_ofPB (names : List (List UInt8)) (urls : ServerURLs capacity size) :
    (ofPB names urls).InBounds ↔ uint32Size names.length ≤ capacity := by
  have hconv : ∀ (name : List UInt8) (url : Vector UInt8 size),
      (strlcpy url name).InBounds ↔ True :=
    fun name url => iff_true_intro (inBounds_strlcpy url name)
  have hsize : (UInt32.ofNat names.length).toNat = uint32Size names.length := UInt32.toNat_ofNat'
  simp only [ofPB, Logged.inBounds_bind, Logged.inBounds_count, Logged.inBounds_fill hconv,
    Logged.inBounds_pure, hsize]
  constructor
  · exact fun hbounds => hbounds.2.1
  · intro hfits
    exact ⟨⟨intRounds_le _, Nat.le_trans (intRounds_le_uint32Size _) hfits, fun _ _ => trivial⟩,
      hfits, trivial⟩

/-- The names survive; an `int` holds their number. -/
theorem ofPB_toPB_same (hint : capacity < 2 ^ 31) {urls : ServerURLs capacity size}
    (hurls : urls.WithinCapacity) (old : ServerURLs capacity size) :
    urls.Same (ofPB urls.toPB old).value := by
  have hlen : urls.toPB.length = urls.count.toNat := length_addAll _ _ _
  have hrounds : intRounds urls.toPB.length = urls.count.toNat := by
    rw [hlen, intRounds_of_lt (Nat.lt_of_le_of_lt hurls.count hint)]
  refine ⟨?_, fun i hi hlt => ?_⟩
  · change UInt32.ofNat urls.toPB.length = urls.count
    rw [hlen, UInt32.ofNat_toNat]
  · have hname : urls.toPB.getD i default = cString urls.data[i].toList := by
      simp [toPB, addAll, hlt, hi]
    change cString (Logged.fill _ _ _ old.data).value[i].toList = _
    rw [hrounds, Logged.getElem_fill hurls.count _ hi, if_pos hlt, hname]
    exact cString_strlcpy_cString (hurls.name i hi hlt) _

end ServerURLs

/-! ## Parameters -/

structure XtraConfigParams (h : Header) where
  (xtraDownloadIntervalMinute xtraDownloadTimeoutSec : UInt32)
  (xtraDownloadRetryIntervalMinute xtraDownloadRetryAttempts : UInt32)
  xtraCaPath : Vector UInt8 h.xtraCaPath
  xtraServerURLs : ServerURLs h.xtraServerURLs h.xtraServerURL
  ntpServerURLs : ServerURLs h.ntpServerURLs h.ntpServerURL
  ntsKeServerURL : Vector UInt8 h.ntsKeServerURL
  xtraDaemonDebugLogLevel : DebugLogLevel
  xtraIntegrityDownloadEnable : Bool
  (xtraIntegrityDownloadIntervalMinute xtraDaemonDiagLoggingStatus : UInt32)
  deriving Inhabited

structure PBXtraConfigParams where
  (xtraDownloadIntervalMinute xtraDownloadTimeoutSec : UInt32)
  (xtraDownloadRetryIntervalMinute xtraDownloadRetryAttempts : UInt32)
  xtraCaPath : List UInt8
  xtraServerURLs : List (List UInt8)
  ntpServerURLs : List (List UInt8)
  xtraDaemonDebugLogLevel : PBDebugLogLevel
  xtraIntegrityDownloadEnable : Bool
  (xtraIntegrityDownloadIntervalMinute xtraDaemonDiagLoggingStatus : UInt32)
  ntsKeServerURL : List UInt8
  deriving Inhabited

variable {h : Header}

def convertXtraConfigParamsToPB (xtraParams : XtraConfigParams h) : PBXtraConfigParams where
  xtraDownloadIntervalMinute := xtraParams.xtraDownloadIntervalMinute
  xtraDownloadTimeoutSec := xtraParams.xtraDownloadTimeoutSec
  xtraDownloadRetryIntervalMinute := xtraParams.xtraDownloadRetryIntervalMinute
  xtraDownloadRetryAttempts := xtraParams.xtraDownloadRetryAttempts
  xtraCaPath := cString xtraParams.xtraCaPath.toList
  xtraServerURLs := ServerURLs.toPB xtraParams.xtraServerURLs
  ntpServerURLs := ServerURLs.toPB xtraParams.ntpServerURLs
  ntsKeServerURL := cString xtraParams.ntsKeServerURL.toList
  xtraDaemonDebugLogLevel := getPBEnumForDebugLogLevel xtraParams.xtraDaemonDebugLogLevel
  xtraIntegrityDownloadEnable := xtraParams.xtraIntegrityDownloadEnable
  xtraIntegrityDownloadIntervalMinute := xtraParams.xtraIntegrityDownloadIntervalMinute
  xtraDaemonDiagLoggingStatus := xtraParams.xtraDaemonDiagLoggingStatus

def pbConvertToXtraConfig (pb : PBXtraConfigParams) (xtraParams : XtraConfigParams h) :
    Logged (XtraConfigParams h) := do
  let xtraCaPath ← strlcpy xtraParams.xtraCaPath pb.xtraCaPath
  let xtraServerURLs ← ServerURLs.ofPB pb.xtraServerURLs xtraParams.xtraServerURLs
  let ntpServerURLs ← ServerURLs.ofPB pb.ntpServerURLs xtraParams.ntpServerURLs
  let ntsKeServerURL ← strlcpy xtraParams.ntsKeServerURL pb.ntsKeServerURL
  pure
    { xtraDownloadIntervalMinute := pb.xtraDownloadIntervalMinute
      xtraDownloadTimeoutSec := pb.xtraDownloadTimeoutSec
      xtraDownloadRetryIntervalMinute := pb.xtraDownloadRetryIntervalMinute
      xtraDownloadRetryAttempts := pb.xtraDownloadRetryAttempts
      xtraCaPath
      xtraServerURLs
      ntpServerURLs
      ntsKeServerURL
      xtraDaemonDebugLogLevel := getDebugLogLevelFromPB pb.xtraDaemonDebugLogLevel
      xtraIntegrityDownloadEnable := pb.xtraIntegrityDownloadEnable
      xtraIntegrityDownloadIntervalMinute := pb.xtraIntegrityDownloadIntervalMinute
      xtraDaemonDiagLoggingStatus := pb.xtraDaemonDiagLoggingStatus }

/-- There is room for both lists of servers. -/
structure PBXtraConfigParams.Fits (h : Header) (pb : PBXtraConfigParams) : Prop where
  xtraServerURLs : uint32Size pb.xtraServerURLs.length ≤ h.xtraServerURLs
  ntpServerURLs : uint32Size pb.ntpServerURLs.length ≤ h.ntpServerURLs

theorem inBounds_pbConvertToXtraConfig (pb : PBXtraConfigParams) (xtraParams : XtraConfigParams h) :
    (pbConvertToXtraConfig pb xtraParams).InBounds ↔ pb.Fits h := by
  simp only [pbConvertToXtraConfig, Logged.inBounds_bind, Logged.inBounds_pure, inBounds_strlcpy,
    ServerURLs.inBounds_ofPB, true_and, and_true]
  constructor
  · rintro ⟨hxtra, hntp⟩
    exact ⟨hxtra, hntp⟩
  · rintro ⟨hxtra, hntp⟩
    exact ⟨hxtra, hntp⟩

/-- There is room for the servers, and each string has a NUL. -/
structure XtraConfigParams.WithinCapacity (xtraParams : XtraConfigParams h) : Prop where
  xtraCaPath : (cString xtraParams.xtraCaPath.toList).length < h.xtraCaPath
  xtraServerURLs : ServerURLs.WithinCapacity xtraParams.xtraServerURLs
  ntpServerURLs : ServerURLs.WithinCapacity xtraParams.ntpServerURLs
  ntsKeServerURL : (cString xtraParams.ntsKeServerURL.toList).length < h.ntsKeServerURL

/-- The same parameters: the same strings and servers, and the other fields are equal. -/
structure XtraConfigParams.Same (r r' : XtraConfigParams h) : Prop where
  xtraDownloadIntervalMinute : r'.xtraDownloadIntervalMinute = r.xtraDownloadIntervalMinute
  xtraDownloadTimeoutSec : r'.xtraDownloadTimeoutSec = r.xtraDownloadTimeoutSec
  xtraDownloadRetryIntervalMinute :
    r'.xtraDownloadRetryIntervalMinute = r.xtraDownloadRetryIntervalMinute
  xtraDownloadRetryAttempts : r'.xtraDownloadRetryAttempts = r.xtraDownloadRetryAttempts
  xtraCaPath : cString r'.xtraCaPath.toList = cString r.xtraCaPath.toList
  xtraServerURLs : ServerURLs.Same r.xtraServerURLs r'.xtraServerURLs
  ntpServerURLs : ServerURLs.Same r.ntpServerURLs r'.ntpServerURLs
  ntsKeServerURL : cString r'.ntsKeServerURL.toList = cString r.ntsKeServerURL.toList
  xtraDaemonDebugLogLevel : r'.xtraDaemonDebugLogLevel = r.xtraDaemonDebugLogLevel
  xtraIntegrityDownloadEnable : r'.xtraIntegrityDownloadEnable = r.xtraIntegrityDownloadEnable
  xtraIntegrityDownloadIntervalMinute :
    r'.xtraIntegrityDownloadIntervalMinute = r.xtraIntegrityDownloadIntervalMinute
  xtraDaemonDiagLoggingStatus : r'.xtraDaemonDiagLoggingStatus = r.xtraDaemonDiagLoggingStatus

/-- **The parameters of XTRA survive.** -/
theorem pbConvertToXtraConfig_same {xtraParams : XtraConfigParams h}
    (hparams : xtraParams.WithinCapacity) (old : XtraConfigParams h) :
    xtraParams.Same (pbConvertToXtraConfig (convertXtraConfigParamsToPB xtraParams) old).value where
  xtraDownloadIntervalMinute := rfl
  xtraDownloadTimeoutSec := rfl
  xtraDownloadRetryIntervalMinute := rfl
  xtraDownloadRetryAttempts := rfl
  xtraCaPath := cString_strlcpy_cString hparams.xtraCaPath _
  xtraServerURLs := ServerURLs.ofPB_toPB_same h.xtraServerURLs_lt hparams.xtraServerURLs _
  ntpServerURLs := ServerURLs.ofPB_toPB_same h.ntpServerURLs_lt hparams.ntpServerURLs _
  ntsKeServerURL := cString_strlcpy_cString hparams.ntsKeServerURL _
  xtraDaemonDebugLogLevel := getDebugLogLevelFromPB_getPBEnumForDebugLogLevel _
  xtraIntegrityDownloadEnable := rfl
  xtraIntegrityDownloadIntervalMinute := rfl
  xtraDaemonDiagLoggingStatus := rfl

/-! ## Request -/

structure LocConfigXtraReqMsg (h : Header) where
  mEnable : Bool
  mXtraParams : XtraConfigParams h
  deriving Inhabited

/-- A field that is a message may be absent. -/
structure PBLocConfigXtraReqMsg where
  enable : Bool
  xtraParams : Option PBXtraConfigParams
  deriving Inhabited

def convertLocConfigXtraReqMsgToPB (msg : LocConfigXtraReqMsg h) : PBLocConfigXtraReqMsg where
  enable := msg.mEnable
  xtraParams := some (convertXtraConfigParamsToPB msg.mXtraParams)

/-- The parameters are set to zero first. -/
def pbConvertToLocConfigXtraReqMsg (pb : PBLocConfigXtraReqMsg) :
    Logged (LocConfigXtraReqMsg h) := do
  let mXtraParams ← match pb.xtraParams with
    | some xtraParams => pbConvertToXtraConfig xtraParams default
    | none => pure default
  pure { mEnable := pb.enable, mXtraParams }

def PBLocConfigXtraReqMsg.Fits (h : Header) (pb : PBLocConfigXtraReqMsg) : Prop :=
  ∀ xtraParams ∈ pb.xtraParams, xtraParams.Fits h

theorem inBounds_pbConvertToLocConfigXtraReqMsg (pb : PBLocConfigXtraReqMsg) :
    (pbConvertToLocConfigXtraReqMsg pb : Logged (LocConfigXtraReqMsg h)).InBounds ↔ pb.Fits h := by
  obtain ⟨enable, xtraParams⟩ := pb
  cases xtraParams with
  | some xtraParams =>
    simp only [pbConvertToLocConfigXtraReqMsg, PBLocConfigXtraReqMsg.Fits, Logged.inBounds_bind,
      Logged.inBounds_pure, and_true, inBounds_pbConvertToXtraConfig, Option.mem_def,
      Option.some.injEq, forall_eq']
  | none =>
    simp [pbConvertToLocConfigXtraReqMsg, PBLocConfigXtraReqMsg.Fits]

/-- The same request. -/
structure LocConfigXtraReqMsg.Same (r r' : LocConfigXtraReqMsg h) : Prop where
  mEnable : r'.mEnable = r.mEnable
  mXtraParams : r.mXtraParams.Same r'.mXtraParams

theorem pbConvertToLocConfigXtraReqMsg_same {msg : LocConfigXtraReqMsg h}
    (hmsg : msg.mXtraParams.WithinCapacity) :
    msg.Same (pbConvertToLocConfigXtraReqMsg (convertLocConfigXtraReqMsgToPB msg)).value :=
  ⟨rfl, pbConvertToXtraConfig_same hmsg default⟩

/-! ## Status -/

structure XtraStatus where
  featureEnabled : Bool
  xtraDataStatus : XtraDataStatus
  xtraValidForHours : UInt32
  userConsentStatus : Bool
  deriving Inhabited

structure PBXtraStatus where
  featureEnabled : Bool
  xtraDataStatus : PBXtraDataStatus
  xtraValidForHours : UInt32
  userConsentStatus : Bool
  deriving Inhabited

/-- What is not set has the value zero. -/
def convertXtraStatusToPB (xtraStatus : XtraStatus) : PBXtraStatus :=
  if xtraStatus.featureEnabled then
    { featureEnabled := xtraStatus.featureEnabled
      xtraDataStatus := getPBEnumForXtraDataStatus xtraStatus.xtraDataStatus
      xtraValidForHours := xtraStatus.xtraValidForHours
      userConsentStatus := xtraStatus.userConsentStatus }
  else
    { featureEnabled := xtraStatus.featureEnabled
      xtraDataStatus := .unknown
      xtraValidForHours := 0
      userConsentStatus := false }

def pbConvertToXtraStatus (pb : PBXtraStatus) : XtraStatus where
  featureEnabled := pb.featureEnabled
  xtraDataStatus := getXtraDataStatusFromPB pb.xtraDataStatus
  xtraValidForHours := pb.xtraValidForHours
  userConsentStatus := pb.userConsentStatus

/-- The feature is enabled, or the rest of the status says nothing. -/
def XtraStatus.Carried (xtraStatus : XtraStatus) : Prop :=
  xtraStatus.featureEnabled = true ∨
    xtraStatus.xtraDataStatus = .unknown ∧ xtraStatus.xtraValidForHours = 0 ∧
      xtraStatus.userConsentStatus = false

theorem pbConvertToXtraStatus_iff (xtraStatus : XtraStatus) :
    pbConvertToXtraStatus (convertXtraStatusToPB xtraStatus) = xtraStatus ↔
      xtraStatus.Carried := by
  obtain ⟨featureEnabled, xtraDataStatus, xtraValidForHours, userConsentStatus⟩ := xtraStatus
  cases featureEnabled with
  | true => simp [convertXtraStatusToPB, pbConvertToXtraStatus, XtraStatus.Carried]
  | false =>
    simp only [convertXtraStatusToPB, pbConvertToXtraStatus, XtraStatus.Carried,
      getXtraDataStatusFromPB, XtraStatus.mk.injEq, Bool.false_eq_true, if_false, false_or,
      true_and]
    exact and_congr eq_comm (and_congr eq_comm eq_comm)

structure LocConfigGetXtraStatusRespMsg where
  mUpdateType : XtraStatusUpdateType
  mXtraStatus : XtraStatus
  deriving Inhabited

structure PBLocConfigGetXtraStatusRespMsg where
  mUpdateType : PBXtraStatusUpdateType
  mXtraStatus : Option PBXtraStatus
  deriving Inhabited

def convertLocConfigGetXtraStatusRespMsgToPB (msg : LocConfigGetXtraStatusRespMsg) :
    PBLocConfigGetXtraStatusRespMsg where
  mUpdateType := getPBEnumForXtraStatusUpdateType msg.mUpdateType
  mXtraStatus := some (convertXtraStatusToPB msg.mXtraStatus)

/-- Where the message has no status, it is left as it is. -/
def pbConvertToLocConfigGetXtraStatusRespMsg (pb : PBLocConfigGetXtraStatusRespMsg)
    (msg : LocConfigGetXtraStatusRespMsg) : LocConfigGetXtraStatusRespMsg where
  mUpdateType := getXtraStatusUpdateTypeFromPB pb.mUpdateType
  mXtraStatus := (pb.mXtraStatus.map pbConvertToXtraStatus).getD msg.mXtraStatus

theorem pbConvertToLocConfigGetXtraStatusRespMsg_iff (msg old : LocConfigGetXtraStatusRespMsg) :
    pbConvertToLocConfigGetXtraStatusRespMsg (convertLocConfigGetXtraStatusRespMsgToPB msg) old =
      msg ↔ msg.mXtraStatus.Carried := by
  obtain ⟨mUpdateType, mXtraStatus⟩ := msg
  simp only [pbConvertToLocConfigGetXtraStatusRespMsg, convertLocConfigGetXtraStatusRespMsgToPB,
    LocConfigGetXtraStatusRespMsg.mk.injEq, Option.map_some, Option.getD_some,
    getXtraStatusUpdateTypeFromPB_getPBEnumForXtraStatusUpdateType, true_and,
    pbConvertToXtraStatus_iff]

end PbConv
end LocationStack
