import Mathlib.Tactic.Common

/-! # Modifying a geofence

The modem has one message that adds a geofence and another that edits one it has.  `addGeofence`
puts into the first message the breach mask, the confidence, the responsiveness in seconds and, if
there is one, the dwell time with its mask.  The second message has no field for most of these:
`modifyGeofence` puts into it the breach mask, and the responsiveness as one of three levels.

A modem is taken as the state it keeps and its two answers.  All that is asked of it is that it
holds what it says it added, and that an edit it says it made changes the fields that came with
the edit.  The doubles of a circle are passed on and nothing computes with them, so a circle is of
any type.
-/
namespace LocationStack.LocApi

/-! ## Options -/

/-- The confidences that `addGeofence` has a case for. -/
inductive GeofenceConfidence
  | low | medium | high
  deriving DecidableEq

/-- `GeofenceOption`; a confidence of another value is `none`. -/
structure GeofenceOption where
  breachTypeMask : UInt32
  responsiveness : UInt32
  dwellTime : UInt32
  confidence : Option GeofenceConfidence
  deriving DecidableEq

def GEOFENCE_BREACH_ENTER_BIT : UInt32 := 1
def GEOFENCE_BREACH_EXIT_BIT : UInt32 := 2
def GEOFENCE_BREACH_DWELL_IN_BIT : UInt32 := 4
def GEOFENCE_BREACH_DWELL_OUT_BIT : UInt32 := 8

/-! ## Messages -/

/-- `qmiLocGeofenceResponsivenessEnumT_v02`, as far as it is sent. -/
inductive GeofenceResponsiveness
  | low | med | high
  deriving DecidableEq

/-- `qmiLocAddCircularGeofenceReqMsgT_v02`; a field with a `_valid` of 0 is `none`. -/
structure AddCircularGeofenceReq (Circle : Type) where
  transactionId : UInt32
  circularGeofenceArgs : Circle
  breachMask : UInt8
  includePosition : Bool
  responsiveness : Option GeofenceResponsiveness
  confidence : Option GeofenceConfidence
  customResponsivenessValue : Option UInt32
  dwellTime : Option UInt32
  dwellTypeMask : Option UInt8

/-- `qmiLocAddCircularGeofenceIndMsgT_v02` -/
structure AddCircularGeofenceInd where
  status : Nat
  geofenceId : Option UInt32
  deriving DecidableEq

/-- `qmiLocEditGeofenceReqMsgT_v02`; `geofenceState` is left to `pauseGeofence` and
`resumeGeofence`. -/
structure EditGeofenceReq where
  geofenceId : UInt32
  transactionId : UInt32
  breachMask : Option UInt8
  responsiveness : Option GeofenceResponsiveness

def eQMI_LOC_SUCCESS_V02 : Nat := 0
def eQMI_LOC_MAX_GEOFENCE_PROGRAMMED_V02 : Nat := 9

/-- `breachMask`, the same in both functions. -/
def breachMaskOf (options : GeofenceOption) : UInt8 :=
  (if options.breachTypeMask &&& GEOFENCE_BREACH_ENTER_BIT ≠ 0 then 0x01 else 0) |||
    (if options.breachTypeMask &&& GEOFENCE_BREACH_EXIT_BIT ≠ 0 then 0x02 else 0)

/-- Seconds, of which the modem takes 1 to 65535. -/
def customResponsivenessOf (options : GeofenceOption) : UInt32 :=
  if options.responsiveness < 1000 then 1 else min (options.responsiveness / 1000) 65535

/-- With no dwell time there is no mask for it either. -/
def dwellTypeMaskOf (options : GeofenceOption) : UInt8 :=
  (if options.breachTypeMask &&& GEOFENCE_BREACH_DWELL_IN_BIT ≠ 0 then 0x01 else 0) |||
    (if options.breachTypeMask &&& GEOFENCE_BREACH_DWELL_OUT_BIT ≠ 0 then 0x02 else 0)

/-- What `addGeofence` sends. -/
def addReq {Circle : Type} (clientId : UInt32) (options : GeofenceOption) (info : Circle) :
    AddCircularGeofenceReq Circle where
  transactionId := clientId
  circularGeofenceArgs := info
  breachMask := breachMaskOf options
  includePosition := true
  responsiveness := none
  confidence := some (options.confidence.getD .high)
  customResponsivenessValue := some (customResponsivenessOf options)
  dwellTime := if 0 < options.dwellTime then some options.dwellTime else none
  dwellTypeMask := if 0 < options.dwellTime then some (dwellTypeMaskOf options) else none

def GF_RESPONSIVENESS_THRESHOLD_MSEC_HIGH : UInt32 := 120000
def GF_RESPONSIVENESS_THRESHOLD_MSEC_MEDIUM : UInt32 := 900000

def responsivenessOf (options : GeofenceOption) : GeofenceResponsiveness :=
  if options.responsiveness ≤ GF_RESPONSIVENESS_THRESHOLD_MSEC_HIGH then .high
  else if options.responsiveness ≤ GF_RESPONSIVENESS_THRESHOLD_MSEC_MEDIUM then .med
  else .low

/-- What `modifyGeofence` sends. -/
def editReq (hwId clientId : UInt32) (options : GeofenceOption) : EditGeofenceReq where
  geofenceId := hwId
  transactionId := clientId
  breachMask := some (breachMaskOf options)
  responsiveness := some (responsivenessOf options)

/-! ## The modem -/

/-- The parameters of a geofence, as the two messages can set them. -/
structure GeofenceParams (Circle : Type) where
  circularGeofenceArgs : Circle
  breachMask : UInt8
  includePosition : Bool
  responsiveness : Option GeofenceResponsiveness
  confidence : Option GeofenceConfidence
  customResponsivenessValue : Option UInt32
  dwellTime : Option UInt32
  dwellTypeMask : Option UInt8
  deriving DecidableEq

variable {Circle : Type}

def AddCircularGeofenceReq.params (req : AddCircularGeofenceReq Circle) : GeofenceParams Circle where
  circularGeofenceArgs := req.circularGeofenceArgs
  breachMask := req.breachMask
  includePosition := req.includePosition
  responsiveness := req.responsiveness
  confidence := req.confidence
  customResponsivenessValue := req.customResponsivenessValue
  dwellTime := req.dwellTime
  dwellTypeMask := req.dwellTypeMask

/-- The fields that came with the edit are set, the others stay. -/
def GeofenceParams.edit (params : GeofenceParams Circle) (req : EditGeofenceReq) :
    GeofenceParams Circle :=
  { params with
    breachMask := req.breachMask.getD params.breachMask
    responsiveness := req.responsiveness.or params.responsiveness }

/-- What `locSyncSendReq` comes back with; `st` tells if it was a success. -/
structure SyncAnswer (Ind : Type) where
  st : Bool
  ind : Ind
  deriving DecidableEq

/-- **A modem**, and the way to it. -/
structure GeofenceModem (Circle : Type) where
  State : Type
  /-- The parameters it holds for the geofence of an id. -/
  held : State → UInt32 → Option (GeofenceParams Circle)
  addCircularGeofence :
    State → AddCircularGeofenceReq Circle → State × SyncAnswer AddCircularGeofenceInd
  /-- The indication has a status, and nothing else that is looked at. -/
  editGeofence : State → EditGeofenceReq → State × SyncAnswer Nat
  held_of_added : ∀ s req hwId,
    (addCircularGeofence s req).2 = ⟨true, eQMI_LOC_SUCCESS_V02, some hwId⟩ →
    held (addCircularGeofence s req).1 hwId = some req.params
  held_of_edited : ∀ s req params, held s req.geofenceId = some params →
    (editGeofence s req).2 = ⟨true, eQMI_LOC_SUCCESS_V02⟩ →
    held (editGeofence s req).1 req.geofenceId = some (params.edit req)

/-! ## The code -/

/-- What an adapter is answered. -/
inductive GeofenceError
  | success | generalFailure | geofencesAtMax
  deriving DecidableEq

namespace GeofenceModem

variable (modem : GeofenceModem Circle)

/-- `addGeofence`, with the error and the id it answers; an id that was not set is 0. -/
def addGeofence (s : modem.State) (clientId : UInt32) (options : GeofenceOption) (info : Circle) :
    modem.State × GeofenceError × UInt32 :=
  let (s, answer) := modem.addCircularGeofence s (addReq clientId options info)
  let rv := answer.st && answer.ind.status == eQMI_LOC_SUCCESS_V02
  match rv, answer.ind.geofenceId with
  | true, some hwId => (s, .success, hwId)
  | _, _ =>
    if answer.ind.status = eQMI_LOC_MAX_GEOFENCE_PROGRAMMED_V02 then (s, .geofencesAtMax, 0)
    else (s, .generalFailure, 0)

def modifyGeofence (s : modem.State) (hwId clientId : UInt32) (options : GeofenceOption) :
    modem.State × GeofenceError :=
  let (s, answer) := modem.editGeofence s (editReq hwId clientId options)
  let rv := answer.st && answer.ind == eQMI_LOC_SUCCESS_V02
  if rv then (s, .success) else (s, .generalFailure)

end GeofenceModem

/-! ## Past the level -/

/-- The dwell time and its mask, which are set together. -/
def dwellOf (options : GeofenceOption) : Option (UInt32 × UInt8) :=
  if 0 < options.dwellTime then some (options.dwellTime, dwellTypeMaskOf options) else none

theorem addReq_dwell (clientId : UInt32) (options : GeofenceOption) (info : Circle) :
    (addReq clientId options info).dwellTime = (dwellOf options).map Prod.fst ∧
      (addReq clientId options info).dwellTypeMask = (dwellOf options).map Prod.snd := by
  unfold addReq dwellOf
  split <;> simp

/-- What the second message has no field for. -/
def KeptAlike (o₁ o₂ : GeofenceOption) : Prop :=
  o₁.confidence.getD .high = o₂.confidence.getD .high ∧
    customResponsivenessOf o₁ = customResponsivenessOf o₂ ∧ dwellOf o₁ = dwellOf o₂

namespace GeofenceModem

/-! ## What is held -/

variable {modem : GeofenceModem Circle}

theorem held_of_addGeofence {s s' : modem.State} {clientId hwId : UInt32}
    {options : GeofenceOption} {info : Circle}
    (h : modem.addGeofence s clientId options info = (s', .success, hwId)) :
    modem.held s' hwId = some (addReq clientId options info).params := by
  have hadded := modem.held_of_added s (addReq clientId options info)
  unfold addGeofence at h
  generalize modem.addCircularGeofence s (addReq clientId options info) = answered at h hadded
  obtain ⟨s'', st, status, geofenceId⟩ := answered
  dsimp only at h
  split at h
  case h_1 hrv =>
    cases h
    obtain ⟨hst, hstatus⟩ : st = true ∧ status = eQMI_LOC_SUCCESS_V02 := by simpa using hrv
    exact hadded hwId (by rw [hst, hstatus])
  case h_2 => split at h <;> simp at h

theorem held_of_modifyGeofence {s s' : modem.State} {hwId clientId : UInt32}
    {options : GeofenceOption} {params : GeofenceParams Circle}
    (hheld : modem.held s hwId = some params)
    (h : modem.modifyGeofence s hwId clientId options = (s', .success)) :
    modem.held s' hwId = some (params.edit (editReq hwId clientId options)) := by
  have hedited := modem.held_of_edited s (editReq hwId clientId options) params hheld
  unfold modifyGeofence at h
  generalize modem.editGeofence s (editReq hwId clientId options) = answered at h hedited
  obtain ⟨s'', st, status⟩ := answered
  dsimp only at h
  split at h
  case isTrue hrv =>
    cases h
    obtain ⟨hst, hstatus⟩ : st = true ∧ status = eQMI_LOC_SUCCESS_V02 := by simpa using hrv
    exact hedited (by rw [hst, hstatus])
  case isFalse => simp at h

/-- **What is left of both options.**  The breach mask is that of the second, the level comes with
it, and the rest is of the first. -/
theorem held_of_modified {s s₁ s₂ : modem.State} {clientId clientId' hwId : UInt32}
    {o₁ o₂ : GeofenceOption} {info : Circle}
    (hadd : modem.addGeofence s clientId o₁ info = (s₁, .success, hwId))
    (hmodify : modem.modifyGeofence s₁ hwId clientId' o₂ = (s₂, .success)) :
    modem.held s₂ hwId = some ({ (addReq clientId o₁ info).params with
      breachMask := breachMaskOf o₂
      responsiveness := some (responsivenessOf o₂) } : GeofenceParams Circle) :=
  held_of_modifyGeofence (held_of_addGeofence hadd) hmodify

/-- **A modified geofence is never as one that was added.**  An edit gives it a level of
responsiveness, and `addGeofence` never does. -/
theorem modified_ne_added {s s₁ s₂ t t₁ : modem.State}
    {clientId clientId' clientId'' hwId hwId' : UInt32} {o₁ o₂ : GeofenceOption} {info : Circle}
    (hadd₁ : modem.addGeofence s clientId o₁ info = (s₁, .success, hwId))
    (hmodify : modem.modifyGeofence s₁ hwId clientId' o₂ = (s₂, .success))
    (hadd₂ : modem.addGeofence t clientId'' o₂ info = (t₁, .success, hwId')) :
    modem.held s₂ hwId ≠ modem.held t₁ hwId' := by
  rw [held_of_modified hadd₁ hmodify, held_of_addGeofence hadd₂]
  intro heq
  have hlevel : some (responsivenessOf o₂) = none :=
    congrArg GeofenceParams.responsiveness (Option.some.inj heq)
  exact nomatch hlevel

/-- **But for the level**, a modified geofence is as one that was added exactly if both options
have one confidence, one responsiveness in seconds and one dwell. -/
theorem modified_eq_added_but_level_iff {s s₁ s₂ t t₁ : modem.State}
    {clientId clientId' clientId'' hwId hwId' : UInt32} {o₁ o₂ : GeofenceOption} {info : Circle}
    (hadd₁ : modem.addGeofence s clientId o₁ info = (s₁, .success, hwId))
    (hmodify : modem.modifyGeofence s₁ hwId clientId' o₂ = (s₂, .success))
    (hadd₂ : modem.addGeofence t clientId'' o₂ info = (t₁, .success, hwId')) :
    (modem.held s₂ hwId).map (fun params => { params with responsiveness := none }) =
      modem.held t₁ hwId' ↔ KeptAlike o₁ o₂ := by
  obtain ⟨htime₁, hmask₁⟩ := addReq_dwell clientId o₁ info
  obtain ⟨htime₂, hmask₂⟩ := addReq_dwell clientId'' o₂ info
  have hdwell : dwellOf o₁ = dwellOf o₂ ↔
      (addReq clientId o₁ info).dwellTime = (addReq clientId'' o₂ info).dwellTime ∧
        (addReq clientId o₁ info).dwellTypeMask = (addReq clientId'' o₂ info).dwellTypeMask := by
    rw [htime₁, htime₂, hmask₁, hmask₂]
    cases dwellOf o₁ <;> cases dwellOf o₂ <;> simp [Prod.ext_iff]
  rw [held_of_modified hadd₁ hmodify, held_of_addGeofence hadd₂, KeptAlike, hdwell]
  simp [AddCircularGeofenceReq.params, addReq]

end GeofenceModem

/-! ## A modem with one geofence -/

/-- It adds under the id 0 whatever it is asked to, and edits it. -/
def oneGeofence (Circle : Type) : GeofenceModem Circle where
  State := Option (GeofenceParams Circle)
  held params hwId := if hwId = 0 then params else none
  addCircularGeofence _ req := (some req.params, ⟨true, eQMI_LOC_SUCCESS_V02, some 0⟩)
  editGeofence params req :=
    if req.geofenceId = 0 then (params.map (·.edit req), ⟨true, eQMI_LOC_SUCCESS_V02⟩)
    else (params, ⟨true, 3⟩)
  held_of_added s req hwId h := by
    have hid : 0 = hwId := by simpa using h
    simp [← hid]
  held_of_edited s req params hheld h := by
    by_cases hid : req.geofenceId = 0
    · simp_all
    · simp [hid, eQMI_LOC_SUCCESS_V02] at h

/-- An hour inside is told of, within 4 seconds. -/
def hourInside : GeofenceOption where
  breachTypeMask := GEOFENCE_BREACH_DWELL_IN_BIT
  responsiveness := 4000
  dwellTime := 3600
  confidence := some .high

/-- Entering is told of, and nothing else. -/
def enterOnly : GeofenceOption where
  breachTypeMask := GEOFENCE_BREACH_ENTER_BIT
  responsiveness := 4000
  dwellTime := 0
  confidence := some .high

/-- The geofence that was to tell of entering only still has an hour inside it. -/
theorem dwell_outlives_edit :
    let modem := oneGeofence Unit
    let (added, _) := modem.addGeofence none 1 hourInside ()
    let (modified, error) := modem.modifyGeofence added 0 1 enterOnly
    let (asked, _) := modem.addGeofence none 1 enterOnly ()
    error = .success ∧ modem.held modified 0 ≠ modem.held asked 0 ∧
      (modem.held modified 0).map (·.dwellTime) = some (some 3600) ∧
      (modem.held asked 0).map (·.dwellTime) = some none := by
  decide

theorem modified_ne_added_oneGeofence :
    let modem := oneGeofence Unit
    let (added, _) := modem.addGeofence none 1 hourInside ()
    let (modified, _) := modem.modifyGeofence added 0 1 enterOnly
    let (asked, _) := modem.addGeofence none 1 enterOnly ()
    modem.held modified 0 ≠ modem.held asked 0 :=
  have hadd₁ : (oneGeofence Unit).addGeofence none 1 hourInside () =
      (some (addReq 1 hourInside ()).params, .success, 0) := rfl
  have hadd₂ : (oneGeofence Unit).addGeofence none 1 enterOnly () =
      (some (addReq 1 enterOnly ()).params, .success, 0) := rfl
  GeofenceModem.modified_ne_added hadd₁ rfl hadd₂

end LocationStack.LocApi
