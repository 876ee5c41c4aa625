import LocationStack.Ipc.Messages
import LocationStack.PbConv.Location

/-! # Geofence requests and their answers

A request holds its geofences, or their ids, in an array with a count.  The answer holds one
response for each geofence, in a vector.
-/
namespace LocationStack
namespace PbConv

/-! ## Errors -/

instance : Inhabited Ipc.LocationError := ⟨.success⟩

inductive PBLocationError
  | success | invalidParameter | notSupported | generalFailure | timeout
  | unrecognized (value : BitVec 32)
  deriving Repr, DecidableEq, Inhabited

/-- What has no case becomes a general failure. -/
def getPBEnumForLocationError : Ipc.LocationError → PBLocationError
  | .success => .success
  | .invalidParameter => .invalidParameter
  | .notSupported => .notSupported
  | .timeout => .timeout
  | _ => .generalFailure

def getEnumForPBLocationError : PBLocationError → Ipc.LocationError
  | .success => .success
  | .invalidParameter => .invalidParameter
  | .notSupported => .notSupported
  | .timeout => .timeout
  | _ => .generalFailure

/-- The errors that the message has. -/
def LocationErrorCarried (e : Ipc.LocationError) : Prop :=
  e ∈ [.success, .invalidParameter, .notSupported, .timeout, .generalFailure]

instance (e : Ipc.LocationError) : Decidable (LocationErrorCarried e) :=
  inferInstanceAs (Decidable (e ∈ _))

@[simp] theorem getEnumForPBLocationError_getPBEnum_iff (e : Ipc.LocationError) :
    getEnumForPBLocationError (getPBEnumForLocationError e) = e ↔ LocationErrorCarried e := by
  cases e <;> decide

/-! ## Geofences -/

/-- `MAX_GEOFENCE_ENTRY` -/
def maxGeofenceEntry : Nat := 20

def getPBMaskForGeofenceBreachTypeMask : Flags GeofenceBreachTypeFlag → BitVec 32 :=
  geofenceBreachTypes.write

@[simp] theorem getGfBreachTypeMaskFromPB_getPBMaskForGeofenceBreachTypeMask
    (m : Flags GeofenceBreachTypeFlag) :
    getGfBreachTypeMaskFromPB (getPBMaskForGeofenceBreachTypeMask m) = m :=
  geofenceBreachTypes.read_write (fun f => by cases f <;> decide) m

structure GeofenceOption where
  breachTypeMask : Flags GeofenceBreachTypeFlag
  (responsiveness dwellTime : UInt32)
  deriving Inhabited

structure PBGeofenceOption where
  breachTypeMask : BitVec 32
  (responsiveness dwellTime : UInt32)
  deriving Inhabited

def convertGeofenceOptionToPB (gfOpt : GeofenceOption) : PBGeofenceOption where
  breachTypeMask := getPBMaskForGeofenceBreachTypeMask gfOpt.breachTypeMask
  responsiveness := gfOpt.responsiveness
  dwellTime := gfOpt.dwellTime

def pbConvertToGeofenceOption (pb : PBGeofenceOption) : GeofenceOption where
  breachTypeMask := getGfBreachTypeMaskFromPB pb.breachTypeMask
  responsiveness := pb.responsiveness
  dwellTime := pb.dwellTime

@[simp] theorem pbConvertToGeofenceOption_convertGeofenceOptionToPB (gfOpt : GeofenceOption) :
    pbConvertToGeofenceOption (convertGeofenceOptionToPB gfOpt) = gfOpt := by
  simp only [pbConvertToGeofenceOption, convertGeofenceOptionToPB,
    getGfBreachTypeMaskFromPB_getPBMaskForGeofenceBreachTypeMask]

structure GeofenceInfo where
  (latitude longitude radius : Double)
  deriving Inhabited

structure PBGeofenceInfo where
  (latitude longitude radius : Double)
  deriving Inhabited

def convertGeofenceInfoToPB (gfInfo : GeofenceInfo) : PBGeofenceInfo where
  latitude := gfInfo.latitude
  longitude := gfInfo.longitude
  radius := gfInfo.radius

def pbConvertToGeofenceInfo (pb : PBGeofenceInfo) : GeofenceInfo where
  latitude := pb.latitude
  longitude := pb.longitude
  radius := pb.radius

@[simp] theorem pbConvertToGeofenceInfo_convertGeofenceInfoToPB (gfInfo : GeofenceInfo) :
    pbConvertToGeofenceInfo (convertGeofenceInfoToPB gfInfo) = gfInfo := by
  simp only [pbConvertToGeofenceInfo, convertGeofenceInfoToPB]

structure GeofencePayload where
  gfClientId : UInt32
  gfOption : GeofenceOption
  gfInfo : GeofenceInfo
  deriving Inhabited

structure PBGeofencePayload where
  gfClientId : UInt32
  gfOption : PBGeofenceOption
  gfInfo : PBGeofenceInfo
  deriving Inhabited

def convertGeofencePayloadToPB (gfPayload : GeofencePayload) : PBGeofencePayload where
  gfClientId := gfPayload.gfClientId
  gfOption := convertGeofenceOptionToPB gfPayload.gfOption
  gfInfo := convertGeofenceInfoToPB gfPayload.gfInfo

def pbConvertToGeofencePayload (pb : PBGeofencePayload) : GeofencePayload where
  gfClientId := pb.gfClientId
  gfOption := pbConvertToGeofenceOption pb.gfOption
  gfInfo := pbConvertToGeofenceInfo pb.gfInfo

@[simp] theorem pbConvertToGeofencePayload_convertGeofencePayloadToPB
    (gfPayload : GeofencePayload) :
    pbConvertToGeofencePayload (convertGeofencePayloadToPB gfPayload) = gfPayload := by
  simp only [pbConvertToGeofencePayload, convertGeofencePayloadToPB,
    pbConvertToGeofenceOption_convertGeofenceOptionToPB,
    pbConvertToGeofenceInfo_convertGeofenceInfoToPB]

/-! ## Requests -/

/-- `count` and `gfPayload` -/
abbrev GeofencesAddedReqPayload := Counted GeofencePayload maxGeofenceEntry

structure PBGeofencesAddedReqPayload where
  gfPayload : List PBGeofencePayload
  deriving Inhabited

def convertGfAddedReqPayloadToPB (gfAddReqPayload : GeofencesAddedReqPayload) :
    PBGeofencesAddedReqPayload where
  gfPayload := gfAddReqPayload.toPB convertGeofencePayloadToPB

def pbConvertToGfAddReqPayload (pb : PBGeofencesAddedReqPayload) :
    GeofencesAddedReqPayload → Logged GeofencesAddedReqPayload :=
  Counted.ofPB pb.gfPayload pbConvertToGeofencePayload

theorem pbConvertToGfAddReqPayload_same {gfAddReqPayload : GeofencesAddedReqPayload}
    (hcap : gfAddReqPayload.WithinCapacity) (old : GeofencesAddedReqPayload) :
    gfAddReqPayload.Same
      (pbConvertToGfAddReqPayload (convertGfAddedReqPayloadToPB gfAddReqPayload) old).value :=
  (Counted.same_iff hcap old).mpr fun _ _ _ =>
    pbConvertToGeofencePayload_convertGeofencePayloadToPB _

/-- `count` and `gfIds` -/
abbrev GeofencesReqClientIdPayload := Counted UInt32 maxGeofenceEntry

structure PBGeofencesReqClientIdPayload where
  gfIds : List UInt32
  deriving Inhabited

def convertGfReqClientIdPayloadToPB (gfReqClntIdPayload : GeofencesReqClientIdPayload) :
    PBGeofencesReqClientIdPayload where
  gfIds := gfReqClntIdPayload.toPB id

def pbConvertToGfReqClientIdPayload (pb : PBGeofencesReqClientIdPayload) :
    GeofencesReqClientIdPayload → Logged GeofencesReqClientIdPayload :=
  Counted.ofPB pb.gfIds id

theorem pbConvertToGfReqClientIdPayload_same {gfReqClntIdPayload : GeofencesReqClientIdPayload}
    (hcap : gfReqClntIdPayload.WithinCapacity) (old : GeofencesReqClientIdPayload) :
    gfReqClntIdPayload.Same (pbConvertToGfReqClientIdPayload
      (convertGfReqClientIdPayloadToPB gfReqClntIdPayload) old).value :=
  (Counted.same_iff hcap old).mpr fun _ _ _ => rfl

/-! ## Answers -/

structure GeofenceResponse where
  clientId : UInt32
  error : Ipc.LocationError
  deriving Inhabited

structure PBGeofenceResponse where
  clientId : UInt32
  error : PBLocationError
  deriving Inhabited

def convertGeofenceResponseToPB (gfResp : GeofenceResponse) : PBGeofenceResponse where
  clientId := gfResp.clientId
  error := getPBEnumForLocationError gfResp.error

def pbConvertToGeofenceResponse (pb : PBGeofenceResponse) : GeofenceResponse where
  clientId := pb.clientId
  error := getEnumForPBLocationError pb.error

theorem pbConvertToGeofenceResponse_iff (gfResp : GeofenceResponse) :
    pbConvertToGeofenceResponse (convertGeofenceResponseToPB gfResp) = gfResp ↔
      LocationErrorCarried gfResp.error := by
  obtain ⟨⟩ := gfResp
  simp only [pbConvertToGeofenceResponse, convertGeofenceResponseToPB, GeofenceResponse.mk.injEq,
    getEnumForPBLocationError_getPBEnum_iff, true_and]

structure CollectiveResPayload where
  resp : List GeofenceResponse
  deriving Inhabited

structure PBCollectiveResPayload where
  resp : List PBGeofenceResponse
  deriving Inhabited

def convertCollectiveResPayloadToPB (collctResPload : CollectiveResPayload) :
    PBCollectiveResPayload where
  resp := (collctResPload.resp.take (intRounds collctResPload.resp.length)).map
    convertGeofenceResponseToPB

/-- The responses are appended to those that the structure holds. -/
def pbConvertToCollectiveResPayload (pb : PBCollectiveResPayload)
    (clctResPayload : CollectiveResPayload) : Logged CollectiveResPayload := do
  let count := uint32Size pb.resp.length
  let resp ← Logged.append count pb.resp (fun pbResp => pure (pbConvertToGeofenceResponse pbResp))
    clctResPayload.resp
  pure { resp }

theorem inBounds_pbConvertToCollectiveResPayload (pb : PBCollectiveResPayload)
    (clctResPayload : CollectiveResPayload) :
    (pbConvertToCollectiveResPayload pb clctResPayload).InBounds := by
  have hconv : ∀ pbResp : PBGeofenceResponse,
      (pure (pbConvertToGeofenceResponse pbResp) : Logged GeofenceResponse).InBounds ↔ True :=
    fun _ => iff_true_intro (Logged.inBounds_pure _)
  rw [pbConvertToCollectiveResPayload, Logged.inBounds_bind, Logged.inBounds_append hconv]
  exact ⟨⟨uint32Size_le _, fun _ _ => trivial⟩, Logged.inBounds_pure _⟩

/-- An answer survives exactly if the message has each of its errors. -/
theorem pbConvertToCollectiveResPayload_iff {collctResPload : CollectiveResPayload}
    (hlen : collctResPload.resp.length < 2 ^ 31) :
    (pbConvertToCollectiveResPayload (convertCollectiveResPayloadToPB collctResPload)
        ⟨[]⟩).value = collctResPload ↔
      ∀ gfResp ∈ collctResPload.resp, LocationErrorCarried gfResp.error := by
  obtain ⟨resp⟩ := collctResPload
  have hencode : convertCollectiveResPayloadToPB ⟨resp⟩ =
      ⟨resp.map convertGeofenceResponseToPB⟩ := by
    rw [convertCollectiveResPayloadToPB, intRounds_of_lt hlen, List.take_length]
  have hcount : uint32Size (resp.map convertGeofenceResponseToPB).length = resp.length := by
    rw [List.length_map, uint32Size_of_lt (Nat.lt_trans hlen (by decide))]
  rw [hencode, pbConvertToCollectiveResPayload]
  simp only [Logged.value_bind, Logged.value_pure, hcount, CollectiveResPayload.mk.injEq,
    Logged.value_append_map_iff, pbConvertToGeofenceResponse_iff]

end PbConv
end LocationStack
