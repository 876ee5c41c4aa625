import LocationStack.Ipc.Messages
import LocationStack.Lib.EventRun
import LocationStack.Lib.FlagTable
import LocationStack.LocApi.Measurements
import LocationStack.SyncReq.Calls

/-! # Deleting aiding data

`deleteAidingData` has two messages for the modem.  The new one has a mask of kinds of data beside
a mask of constellations; the legacy one has a list of satellites, and a mask that has a bit for
some kinds of data of some constellations.  The new message is sent until it has failed once, in a
way that is taken for "not supported", and from then on only the legacy one is.

A message asks for the deletion of a kind of data of a constellation, as far as its words are read
by the tables of the modem.  The bits of the legacy mask that name no constellation are sent with
GPS only, and stand for data of GPS.  The identifiers of satellites that a constellation has are
those of the header of the modem.
-/
namespace LocationStack.LocApi

open EventRun Ipc SyncReq

/-! ## Requests -/

/-- `GnssAidingDataSvMask` -/
inductive AidingSvData
  | ephemeris | almanac | health | direction | steer | almanacCorr | blacklist | saData | noExist
  | ionosphere | time | mbData
  deriving DecidableEq

/-- `GnssAidingDataSvTypeMask` -/
inductive AidingSvType
  | gps | glonass | qzss | beidou | galileo | navic
  deriving DecidableEq

/-- `GnssAidingDataCommonMask` -/
inductive AidingCommonData
  | position | time | utc | rti | freqBiasEst | cellDb
  deriving DecidableEq

/-- `GnssAidingData`, what is for the modem of it. -/
structure AidingData where
  deleteAll : Bool
  svMask : Flags AidingSvData
  svTypeMask : Flags AidingSvType
  common : Flags AidingCommonData

namespace AidingData

variable (data : AidingData)

/-- A kind of data of a constellation is to be deleted. -/
def Requests (kind : AidingSvData) (svType : AidingSvType) : Prop :=
  data.deleteAll ∨ data.svMask kind ∧ data.svTypeMask svType

def RequestsCommon (kind : AidingCommonData) : Prop := data.deleteAll ∨ data.common kind

end AidingData

/-! ## Messages -/

/-- `qmiLocDeleteGNSSServiceDataReqMsgT_v02` -/
structure DeleteGnssServiceDataReq where
  deleteAllFlag : Bool
  deleteSatelliteData_valid : Bool
  system : BitVec 32
  deleteSatelliteDataMask : BitVec 32
  deleteCommonDataMask_valid : Bool
  deleteCommonDataMask : BitVec 32
  deleteCellDbDataMask_valid : Bool
  deleteCellDbDataMask : BitVec 32

/-- `qmiLocDeleteSvInfoStructT_v02` -/
structure DeleteSvInfo where
  gnssSvId : UInt16
  system : QmiLocSvSystem
  deleteSvInfoMask : BitVec 8

/-- `qmiLocDeleteAssistDataReqMsgT_v02` -/
structure DeleteAssistDataReq where
  deleteAllFlag : Bool
  deleteSvInfoList_valid : Bool
  deleteSvInfoList : List DeleteSvInfo
  deleteGnssDataMask_valid : Bool
  deleteGnssDataMask : BitVec 64
  deleteCellDbDataMask_valid : Bool
  deleteCellDbDataMask : BitVec 32

/-- What a bit of `deleteGnssDataMask` stands for. -/
inductive AssistData
  | satellite (kind : AidingSvData) (svType : AidingSvType)
  | common (kind : AidingCommonData)
  deriving DecidableEq

/-- `QMI_LOC_DELETE_DATA_MASK_*` -/
def satelliteData : FlagTable AidingSvData 32 where
  rows := [(.ephemeris, 1), (.almanac, 2), (.health, 4), (.direction, 8), (.steer, 0x10),
    (.almanacCorr, 0x20), (.blacklist, 0x40), (.saData, 0x80), (.noExist, 0x100),
    (.ionosphere, 0x200), (.time, 0x400), (.mbData, 0x800)]
  nonzero := by decide
  disjoint := by decide

/-- `QMI_LOC_SYSTEM_*` -/
def systems : FlagTable AidingSvType 32 where
  rows := [(.gps, 1), (.glonass, 2), (.beidou, 4), (.galileo, 8), (.qzss, 0x10), (.navic, 0x20)]
  nonzero := by decide
  disjoint := by decide

/-- `QMI_LOC_DELETE_COMMON_MASK_*` -/
def commonData : FlagTable AidingCommonData 32 where
  rows := [(.position, 1), (.time, 2), (.utc, 4), (.rti, 8), (.freqBiasEst, 0x10)]
  nonzero := by decide
  disjoint := by decide

/-- `QMI_LOC_MASK_DELETE_CELLDB_*`, all of them. -/
def cellDbAll : BitVec 32 := 0x3FF

/-- `QMI_LOC_MASK_DELETE_EPHEMERIS_V02` and `QMI_LOC_MASK_DELETE_ALMANAC_V02` -/
def svInfoData : FlagTable AidingSvData 8 where
  rows := [(.ephemeris, 1), (.almanac, 2)]
  nonzero := by decide
  disjoint := by decide

/-- `QMI_LOC_MASK_DELETE_*`, the bits that are ever set. -/
def assistData : FlagTable AssistData 64 where
  rows := [(.common .position, 0x400), (.common .time, 0x800),
    (.satellite .ionosphere .gps, 0x1000), (.common .utc, 0x2000),
    (.satellite .health .gps, 0x4000), (.satellite .direction .gps, 1),
    (.satellite .saData .gps, 0x8000), (.common .rti, 0x10000)]
  nonzero := by decide
  disjoint := by decide

/-! ## The code -/

/-- The bits that are set for the constellations of a request. -/
def systemsSet : FlagTable AidingSvType 32 where
  rows := [(.gps, 1), (.glonass, 2), (.qzss, 4), (.beidou, 8), (.galileo, 0x10), (.navic, 0x20)]
  nonzero := by decide
  disjoint := by decide

/-- The new message. -/
def deleteGnssServiceDataReq (data : AidingData) : DeleteGnssServiceDataReq :=
  if data.deleteAll then ⟨true, false, 0, 0, false, 0, false, 0⟩
  else
    let satellites := satelliteData.rows.any fun row => data.svMask row.1
    { deleteAllFlag := false
      deleteSatelliteData_valid := satellites
      system := if satellites then systemsSet.write data.svTypeMask else 0
      deleteSatelliteDataMask := satelliteData.write data.svMask
      deleteCommonDataMask_valid := commonData.rows.any fun row => data.common row.1
      deleteCommonDataMask := commonData.write data.common
      deleteCellDbDataMask_valid := data.common .cellDb
      deleteCellDbDataMask := if data.common .cellDb then cellDbAll else 0 }

/-- `GPS_SV_ID_OFFSET` -/
def gpsSvIdOffset : Nat := 1

/-- `SV_ID_RANGE` -/
def svIdRange : Nat := 32

/-- The data of a request, as far as the legacy mask has bits for it. -/
def AidingData.assist (data : AidingData) : Flags AssistData
  | .satellite kind svType => data.svMask kind && data.svTypeMask svType
  | .common kind => data.common kind

/-- The legacy message. -/
def deleteAssistDataReq (data : AidingData) : DeleteAssistDataReq :=
  if data.deleteAll then ⟨true, false, [], false, 0, false, 0⟩
  else
    let satellites := (data.svMask .ephemeris || data.svMask .almanac) && data.svTypeMask .gps
    { deleteAllFlag := false
      deleteSvInfoList_valid := satellites
      deleteSvInfoList :=
        if satellites then
          (List.range svIdRange).map fun i =>
            ⟨UInt16.ofNat (gpsSvIdOffset + i), .gps, svInfoData.write data.svMask⟩
        else []
      deleteGnssDataMask_valid := assistData.rows.any fun row => data.assist row.1
      deleteGnssDataMask := assistData.write data.assist
      deleteCellDbDataMask_valid := data.common .cellDb
      deleteCellDbDataMask := if data.common .cellDb then cellDbAll else 0 }

/-- What comes back for a message: the status of the call, and the status of the indication, which
is cleared before. -/
structure DeleteReply where
  status : LocClientStatus
  indStatus : UInt32

/-- `eQMI_LOC_SUCCESS_V02` for a message that was sent. -/
def DeleteReply.acknowledged (reply : DeleteReply) : Bool :=
  reply.status == .success && reply.indStatus == 0

inductive DeleteMsg
  | gnssServiceData (req : DeleteGnssServiceDataReq)
  | assistData (req : DeleteAssistDataReq)

/-- What a request comes to: `isNewApiSupported` for the next one, what the adapter is told, and
the messages that were acknowledged. -/
structure Deletion where
  isNewApiSupported : Bool
  err : LocationError
  acknowledged : List DeleteMsg

/-- The test of the reply to the new message. -/
def takenForUnsupported (reply : DeleteReply) : Bool :=
  reply.status == .failureUnsupported || reply.status == .failureInternal || reply.indStatus != 0

/-- The legacy message is sent. -/
def deleteByLegacy (data : AidingData) (assistReply : DeleteReply) : Deletion where
  isNewApiSupported := false
  err := if assistReply.acknowledged then .success else .generalFailure
  acknowledged :=
    if assistReply.acknowledged then [.assistData (deleteAssistDataReq data)] else []

/-- `deleteAidingData`, with the replies to the messages that it may send. -/
def deleteAidingData (isNewApiSupported : Bool) (data : AidingData)
    (serviceReply assistReply : DeleteReply) : Deletion :=
  if isNewApiSupported then
    if takenForUnsupported serviceReply then deleteByLegacy data assistReply
    else
      { isNewApiSupported := true
        err := .success
        acknowledged :=
          if serviceReply.acknowledged then [.gnssServiceData (deleteGnssServiceDataReq data)]
          else [] }
  else deleteByLegacy data assistReply

/-! ## What a message asks for -/

/-- `system` of a satellite. -/
def AidingSvType.system : AidingSvType → QmiLocSvSystem
  | .gps => .gps
  | .glonass => .glonass
  | .qzss => .qzss
  | .beidou => .bds
  | .galileo => .galileo
  | .navic => .navic

/-- The identifiers that the satellites of a constellation have, the first and the last. -/
def AidingSvType.svIds : AidingSvType → Nat × Nat
  | .gps => (1, 32)
  | .glonass => (65, 96)
  | .qzss => (193, 197)
  | .beidou => (201, 263)
  | .galileo => (301, 336)
  | .navic => (401, 420)

namespace DeleteGnssServiceDataReq

variable (req : DeleteGnssServiceDataReq)

/-- A kind of data of a constellation is to be deleted. -/
def Asks (kind : AidingSvData) (svType : AidingSvType) : Prop :=
  req.deleteAllFlag ∨ req.deleteSatelliteData_valid ∧
    satelliteData.read req.deleteSatelliteDataMask kind ∧ systems.read req.system svType

def AsksCommon (kind : AidingCommonData) : Prop :=
  req.deleteAllFlag ∨
    if kind = .cellDb then req.deleteCellDbDataMask_valid ∧ req.deleteCellDbDataMask = cellDbAll
    else req.deleteCommonDataMask_valid ∧ commonData.read req.deleteCommonDataMask kind

/-- Some data of a constellation is to be deleted. -/
def Touches (svType : AidingSvType) : Prop :=
  req.deleteAllFlag ∨ req.deleteSatelliteData_valid ∧ req.deleteSatelliteDataMask ≠ 0 ∧
    systems.read req.system svType

end DeleteGnssServiceDataReq

namespace DeleteAssistDataReq

variable (req : DeleteAssistDataReq)

/-- A kind of data of all the satellites of a constellation is to be deleted. -/
def Asks (kind : AidingSvData) (svType : AidingSvType) : Prop :=
  req.deleteAllFlag ∨
    (req.deleteSvInfoList_valid ∧ ∀ id, svType.svIds.1 ≤ id → id ≤ svType.svIds.2 →
      ∃ sv ∈ req.deleteSvInfoList, sv.gnssSvId.toNat = id ∧ sv.system = svType.system ∧
        svInfoData.read sv.deleteSvInfoMask kind) ∨
    req.deleteGnssDataMask_valid ∧ assistData.read req.deleteGnssDataMask (.satellite kind svType)

def AsksCommon (kind : AidingCommonData) : Prop :=
  req.deleteAllFlag ∨
    if kind = .cellDb then req.deleteCellDbDataMask_valid ∧ req.deleteCellDbDataMask = cellDbAll
    else req.deleteGnssDataMask_valid ∧ assistData.read req.deleteGnssDataMask (.common kind)

/-- Some data of a constellation is to be deleted. -/
def Touches (svType : AidingSvType) : Prop :=
  req.deleteAllFlag ∨
    (req.deleteSvInfoList_valid ∧ ∃ sv ∈ req.deleteSvInfoList, sv.system = svType.system) ∨
    req.deleteGnssDataMask_valid ∧
      ∃ kind, assistData.read req.deleteGnssDataMask (.satellite kind svType)

end DeleteAssistDataReq

namespace DeleteMsg

def Asks : DeleteMsg → AidingSvData → AidingSvType → Prop
  | .gnssServiceData req => req.Asks
  | .assistData req => req.Asks

def AsksCommon : DeleteMsg → AidingCommonData → Prop
  | .gnssServiceData req => req.AsksCommon
  | .assistData req => req.AsksCommon

def Touches : DeleteMsg → AidingSvType → Prop
  | .gnssServiceData req => req.Touches
  | .assistData req => req.Touches

/-- A message asks for all that is requested. -/
def Covers (msg : DeleteMsg) (data : AidingData) : Prop :=
  (∀ kind svType, data.Requests kind svType → msg.Asks kind svType) ∧
    ∀ kind, data.RequestsCommon kind → msg.AsksCommon kind

/-- It asks for no data of a constellation that is not requested. -/
def KeepsTo (msg : DeleteMsg) (data : AidingData) : Prop :=
  ∀ svType, msg.Touches svType → data.deleteAll ∨ data.svTypeMask svType

end DeleteMsg

/-- Success is told only if a message that was acknowledged asks for all that was requested, and no
such message asks for data of another constellation. -/
def Deletion.NeverUnderReports (deletion : Deletion) (data : AidingData) : Prop :=
  (deletion.err = .success → ∃ msg ∈ deletion.acknowledged, msg.Covers data) ∧
    ∀ msg ∈ deletion.acknowledged, msg.KeepsTo data

/-! ## The new message -/

/-- The constellation of a request that the bit of a constellation is set for. -/
def AidingSvType.setFor : AidingSvType → AidingSvType
  | .beidou => .qzss
  | .galileo => .beidou
  | .qzss => .galileo
  | svType => svType

/-- **The constellations of the new message** are not those of the request. -/
theorem read_systemsSet (m : Flags AidingSvType) (svType : AidingSvType) :
    systems.read (systemsSet.write m) svType = m svType.setFor := by
  have hbit : ∀ row ∈ systemsSet.rows, (systemsSet.write m &&& row.2 != 0) = m row.1 := by
    intro row hrow
    rw [Bool.eq_iff_iff, bne_iff_ne]
    exact FlagTable.writeRows_and_ne_zero systemsSet.nonzero systemsSet.disjoint hrow m
  cases svType with
  | gps =>
    simpa [FlagTable.read, FlagTable.readRows, systems, AidingSvType.setFor]
      using hbit (.gps, 1) (by decide)
  | glonass =>
    simpa [FlagTable.read, FlagTable.readRows, systems, AidingSvType.setFor]
      using hbit (.glonass, 2) (by decide)
  | qzss =>
    simpa [FlagTable.read, FlagTable.readRows, systems, AidingSvType.setFor]
      using hbit (.galileo, 0x10) (by decide)
  | beidou =>
    simpa [FlagTable.read, FlagTable.readRows, systems, AidingSvType.setFor]
      using hbit (.qzss, 4) (by decide)
  | galileo =>
    simpa [FlagTable.read, FlagTable.readRows, systems, AidingSvType.setFor]
      using hbit (.beidou, 8) (by decide)
  | navic =>
    simpa [FlagTable.read, FlagTable.readRows, systems, AidingSvType.setFor]
      using hbit (.navic, 0x20) (by decide)

/-- Every kind of data has its bit in the new message. -/
theorem read_satelliteData (m : Flags AidingSvData) :
    satelliteData.read (satelliteData.write m) = m :=
  satelliteData.read_write (fun kind => by cases kind <;> decide) m

theorem any_satelliteData (m : Flags AidingSvData) :
    (satelliteData.rows.any fun row => m row.1) = true ↔ ∃ kind, m kind = true := by
  rw [List.any_eq_true]
  constructor
  · rintro ⟨row, -, hrow⟩
    exact ⟨row.1, hrow⟩
  · rintro ⟨kind, hkind⟩
    have hrow : ∃ row ∈ satelliteData.rows, row.1 = kind := by cases kind <;> decide
    obtain ⟨row, hmem, rfl⟩ := hrow
    exact ⟨row, hmem, hkind⟩

theorem satelliteData_write_ne_zero {m : Flags AidingSvData} {kind : AidingSvData}
    (h : m kind = true) : satelliteData.write m ≠ 0 := by
  intro hzero
  have hread := congrFun (read_satelliteData m) kind
  rw [hzero, h] at hread
  revert hread
  cases kind <;> decide

section

variable {data : AidingData} {kind : AidingSvData} {svType : AidingSvType}

/-- What the new message asks for. -/
theorem deleteGnssServiceDataReq_asks (hall : data.deleteAll = false) :
    (deleteGnssServiceDataReq data).Asks kind svType ↔
      data.svMask kind = true ∧ data.svTypeMask svType.setFor = true := by
  simp only [DeleteGnssServiceDataReq.Asks, deleteGnssServiceDataReq, hall, Bool.false_eq_true,
    if_false, false_or, read_satelliteData, any_satelliteData]
  constructor
  · rintro ⟨hsome, hkind, hsystem⟩
    rw [if_pos ((any_satelliteData data.svMask).mpr hsome), read_systemsSet] at hsystem
    exact ⟨hkind, hsystem⟩
  · rintro ⟨hkind, hsystem⟩
    rw [if_pos ((any_satelliteData data.svMask).mpr ⟨kind, hkind⟩), read_systemsSet]
    exact ⟨⟨kind, hkind⟩, hkind, hsystem⟩

theorem deleteGnssServiceDataReq_touches (hall : data.deleteAll = false) :
    (deleteGnssServiceDataReq data).Touches svType ↔
      (∃ kind, data.svMask kind = true) ∧ data.svTypeMask svType.setFor = true := by
  simp only [DeleteGnssServiceDataReq.Touches, deleteGnssServiceDataReq, hall,
    Bool.false_eq_true, if_false, false_or, any_satelliteData]
  constructor
  · rintro ⟨hsome, -, hsystem⟩
    rw [if_pos ((any_satelliteData data.svMask).mpr hsome), read_systemsSet] at hsystem
    exact ⟨hsome, hsystem⟩
  · rintro ⟨hsome, hsystem⟩
    rw [if_pos ((any_satelliteData data.svMask).mpr hsome), read_systemsSet]
    obtain ⟨kind, hkind⟩ := hsome
    exact ⟨⟨kind, hkind⟩, satelliteData_write_ne_zero hkind, hsystem⟩

/-- It asks for all the common data that is requested. -/
theorem deleteGnssServiceDataReq_asksCommon (hall : data.deleteAll = false)
    {kind : AidingCommonData} (h : data.common kind = true) :
    (deleteGnssServiceDataReq data).AsksCommon kind := by
  simp only [DeleteGnssServiceDataReq.AsksCommon, deleteGnssServiceDataReq, hall,
    Bool.false_eq_true, if_false, false_or]
  by_cases hcell : kind = .cellDb
  · subst hcell
    simp [h]
  · have hrow : ∃ row ∈ commonData.rows, row.1 = kind := by
      cases kind <;> first | decide | exact absurd rfl hcell
    obtain ⟨row, hmem, rfl⟩ := hrow
    rw [if_neg hcell]
    refine ⟨List.any_eq_true.mpr ⟨row, hmem, h⟩, ?_⟩
    rw [FlagTable.read, FlagTable.readRows_write (fun _ hr => hr), h, Bool.true_and,
      List.any_eq_true]
    exact ⟨row, hmem, decide_eq_true rfl⟩

/-! ## The legacy message -/

/-- The kinds of data of GPS that the legacy message has, in its list or in its mask. -/
def AidingSvData.inLegacy : AidingSvData → Bool
  | .ephemeris | .almanac | .ionosphere | .health | .direction | .saData => true
  | _ => false

theorem read_assistData (m : Flags AssistData) (kind : AidingSvData) (svType : AidingSvType) :
    assistData.read (assistData.write m) (.satellite kind svType) =
      (m (.satellite kind svType) &&
        assistData.rows.any fun row => decide (row.1 = .satellite kind svType)) :=
  FlagTable.readRows_write (fun _ hr => hr) m _

/-- The list has each satellite of GPS, with the bits of the request. -/
theorem mem_deleteSvInfoList (hall : data.deleteAll = false)
    (hvalid : (deleteAssistDataReq data).deleteSvInfoList_valid = true) {sv : DeleteSvInfo} :
    sv ∈ (deleteAssistDataReq data).deleteSvInfoList ↔
      ∃ i < 32, sv = ⟨UInt16.ofNat (1 + i), .gps, svInfoData.write data.svMask⟩ := by
  simp only [deleteAssistDataReq, hall, Bool.false_eq_true, if_false] at hvalid ⊢
  simp only [hvalid, if_true, List.mem_map, List.mem_range, svIdRange, gpsSvIdOffset]
  exact exists_congr fun i => and_congr_right fun _ => eq_comm

theorem deleteSvInfoList_valid_iff (hall : data.deleteAll = false) :
    (deleteAssistDataReq data).deleteSvInfoList_valid = true ↔
      (data.svMask .ephemeris = true ∨ data.svMask .almanac = true) ∧
        data.svTypeMask .gps = true := by
  simp [deleteAssistDataReq, hall]

theorem svType_eq_gps (h : QmiLocSvSystem.gps = svType.system) : svType = .gps := by
  cases svType <;> first | rfl | cases h

/-- The kinds of data that the entries of the list have bits for. -/
theorem read_svInfoData (m : Flags AidingSvData) :
    svInfoData.read (svInfoData.write m) kind = true ↔
      m kind = true ∧ (kind = .ephemeris ∨ kind = .almanac) := by
  have hread : svInfoData.read (svInfoData.write m) kind =
      (m kind && svInfoData.rows.any fun row => decide (row.1 = kind)) :=
    FlagTable.readRows_write (fun _ hr => hr) m kind
  rw [hread, Bool.and_eq_true]
  refine and_congr_right fun _ => ?_
  cases kind <;> decide

/-- What the list asks for: the ephemeris and the almanac of GPS. -/
theorem deleteSvInfoList_asks_iff (hall : data.deleteAll = false) :
    ((deleteAssistDataReq data).deleteSvInfoList_valid = true ∧
      ∀ id, svType.svIds.1 ≤ id → id ≤ svType.svIds.2 →
        ∃ sv ∈ (deleteAssistDataReq data).deleteSvInfoList, sv.gnssSvId.toNat = id ∧
          sv.system = svType.system ∧ svInfoData.read sv.deleteSvInfoMask kind = true) ↔
      data.svMask kind = true ∧ data.svTypeMask .gps = true ∧ svType = .gps ∧
        (kind = .ephemeris ∨ kind = .almanac) := by
  constructor
  · rintro ⟨hvalid, hids⟩
    have hsome : svType.svIds.1 ≤ svType.svIds.2 := by cases svType <;> decide
    obtain ⟨sv, hmem, -, hsystem, hread⟩ := hids _ (Nat.le_refl _) hsome
    obtain ⟨i, -, rfl⟩ := (mem_deleteSvInfoList hall hvalid).mp hmem
    obtain ⟨hkind, hlisted⟩ := (read_svInfoData _).mp hread
    exact ⟨hkind, ((deleteSvInfoList_valid_iff hall).mp hvalid).2, svType_eq_gps hsystem, hlisted⟩
  · rintro ⟨hkind, hgps, rfl, hlisted⟩
    have hvalid : (deleteAssistDataReq data).deleteSvInfoList_valid = true := by
      refine (deleteSvInfoList_valid_iff hall).mpr ⟨?_, hgps⟩
      rcases hlisted with rfl | rfl
      · exact .inl hkind
      · exact .inr hkind
    refine ⟨hvalid, fun id hlow hhigh => ⟨⟨UInt16.ofNat id, .gps, svInfoData.write data.svMask⟩,
      ?_, ?_, rfl, (read_svInfoData _).mpr ⟨hkind, hlisted⟩⟩⟩
    · have hid : id = 1 + (id - 1) := by
        have hone : (1 : Nat) ≤ id := hlow
        omega
      have hlt : id - 1 < 32 := by
        have hlast : id ≤ 32 := hhigh
        omega
      exact (mem_deleteSvInfoList hall hvalid).mpr ⟨id - 1, hlt, by rw [← hid]⟩
    · have hlast : id ≤ 32 := hhigh
      exact UInt16.toNat_ofNat_of_lt' (Nat.lt_of_le_of_lt hlast (by decide))

/-- What the mask asks for. -/
theorem deleteGnssDataMask_asks_iff (hall : data.deleteAll = false) :
    ((deleteAssistDataReq data).deleteGnssDataMask_valid = true ∧
      assistData.read (deleteAssistDataReq data).deleteGnssDataMask (.satellite kind svType) =
        true) ↔
      data.svMask kind = true ∧ data.svTypeMask .gps = true ∧ svType = .gps ∧
        kind.inLegacy = true ∧ kind ≠ .ephemeris ∧ kind ≠ .almanac := by
  have hrows : (assistData.rows.any fun row => decide (row.1 = .satellite kind svType)) = true ↔
      svType = .gps ∧ kind.inLegacy = true ∧ kind ≠ .ephemeris ∧ kind ≠ .almanac := by
    cases svType <;> cases kind <;> decide
  simp only [deleteAssistDataReq, hall, Bool.false_eq_true, if_false, read_assistData,
    Bool.and_eq_true, hrows, AidingData.assist]
  constructor
  · rintro ⟨-, ⟨hkind, hsvType⟩, rfl, hlegacy⟩
    exact ⟨hkind, hsvType, rfl, hlegacy⟩
  · rintro ⟨hkind, hsvType, rfl, hlegacy⟩
    obtain ⟨row, hrow, heq⟩ := List.any_eq_true.mp (hrows.mpr ⟨rfl, hlegacy⟩)
    have hassist : data.assist (.satellite kind .gps) = true := by
      simp [AidingData.assist, hkind, hsvType]
    refine ⟨List.any_eq_true.mpr ⟨row, hrow, ?_⟩, ⟨hkind, hsvType⟩, rfl, hlegacy⟩
    rw [of_decide_eq_true heq]
    exact hassist

/-- What the legacy message asks for: data of GPS, and not of each kind. -/
theorem deleteAssistDataReq_asks (hall : data.deleteAll = false) :
    (deleteAssistDataReq data).Asks kind svType ↔
      data.svMask kind = true ∧ data.svTypeMask .gps = true ∧ svType = .gps ∧
        kind.inLegacy = true := by
  have hflag : (deleteAssistDataReq data).deleteAllFlag = false := by
    simp [deleteAssistDataReq, hall]
  simp only [DeleteAssistDataReq.Asks, hflag, Bool.false_eq_true, false_or]
  rw [deleteSvInfoList_asks_iff hall, deleteGnssDataMask_asks_iff hall]
  constructor
  · rintro (⟨hkind, hgps, heq, rfl | rfl⟩ | ⟨hkind, hgps, heq, hlegacy, -, -⟩)
    · exact ⟨hkind, hgps, heq, rfl⟩
    · exact ⟨hkind, hgps, heq, rfl⟩
    · exact ⟨hkind, hgps, heq, hlegacy⟩
  · rintro ⟨hkind, hgps, heq, hlegacy⟩
    by_cases hlisted : kind = .ephemeris ∨ kind = .almanac
    · exact .inl ⟨hkind, hgps, heq, hlisted⟩
    · rw [not_or] at hlisted
      exact .inr ⟨hkind, hgps, heq, hlegacy, hlisted⟩

/-- It touches no data but that of GPS, and that only if it is requested. -/
theorem deleteAssistDataReq_touches (hall : data.deleteAll = false)
    (h : (deleteAssistDataReq data).Touches svType) : data.svTypeMask svType = true := by
  have hflag : (deleteAssistDataReq data).deleteAllFlag = false := by
    simp [deleteAssistDataReq, hall]
  simp only [DeleteAssistDataReq.Touches, hflag, Bool.false_eq_true, false_or] at h
  rcases h with ⟨hvalid, sv, hmem, hsystem⟩ | ⟨hvalid, kind, hread⟩
  · obtain ⟨i, -, rfl⟩ := (mem_deleteSvInfoList hall hvalid).mp hmem
    rw [svType_eq_gps hsystem]
    exact ((deleteSvInfoList_valid_iff hall).mp hvalid).2
  · obtain ⟨-, hgps, rfl, -⟩ := (deleteGnssDataMask_asks_iff hall).mp ⟨hvalid, hread⟩
    exact hgps

/-- It asks for the common data that is requested, but not for the bias of the frequency. -/
theorem deleteAssistDataReq_asksCommon (hall : data.deleteAll = false)
    {kind : AidingCommonData} (h : data.common kind = true) :
    (deleteAssistDataReq data).AsksCommon kind ↔ kind ≠ .freqBiasEst := by
  have hread : assistData.read (assistData.write data.assist) (.common kind) =
      (data.assist (.common kind) &&
        assistData.rows.any fun row => decide (row.1 = .common kind)) :=
    FlagTable.readRows_write (fun _ hr => hr) _ _
  simp only [DeleteAssistDataReq.AsksCommon, deleteAssistDataReq, hall, Bool.false_eq_true,
    if_false, false_or]
  by_cases hcell : kind = .cellDb
  · subst hcell
    simp [h]
  · have hrows : (assistData.rows.any fun row => decide (row.1 = .common kind)) = true ↔
        kind ≠ .freqBiasEst := by
      revert hcell
      cases kind <;> decide
    rw [if_neg hcell, hread, Bool.and_eq_true, hrows]
    constructor
    · exact fun hasks => hasks.2.2
    · intro hne
      obtain ⟨row, hrow, heq⟩ := List.any_eq_true.mp (hrows.mpr hne)
      refine ⟨List.any_eq_true.mpr ⟨row, hrow, ?_⟩, h, hne⟩
      rw [of_decide_eq_true heq]
      exact h

end

/-! ## Coverage -/

namespace AidingData

variable (data : AidingData)

/-- The new message is right for a request: of QZSS, BeiDou and Galileo it has all or none, if it is
about constellations at all. -/
def NewRight : Prop :=
  data.deleteAll = true ∨ (∀ kind, data.svMask kind = false) ∨
    data.svTypeMask .qzss = data.svTypeMask .beidou ∧
      data.svTypeMask .beidou = data.svTypeMask .galileo

/-- The legacy message is right for a request: it is about GPS only, about the kinds that the
message has, and not about the bias of the frequency. -/
def LegacyRight : Prop :=
  data.deleteAll = true ∨
    (∀ kind svType, data.svMask kind = true → data.svTypeMask svType = true →
      svType = .gps ∧ kind.inLegacy = true) ∧ data.common .freqBiasEst = false

variable {data}

/-- **The new message** asks for what is requested, and for no more, if it is right for it. -/
theorem newRight_iff :
    ((DeleteMsg.gnssServiceData (deleteGnssServiceDataReq data)).Covers data ∧
      (DeleteMsg.gnssServiceData (deleteGnssServiceDataReq data)).KeepsTo data) ↔
      data.NewRight := by
  cases hall : data.deleteAll with
  | true =>
    have hflag : (deleteGnssServiceDataReq data).deleteAllFlag = true := by
      simp [deleteGnssServiceDataReq, hall]
    exact ⟨fun _ => .inl hall, fun _ => ⟨⟨fun _ _ _ => .inl hflag, fun _ _ => .inl hflag⟩,
      fun _ _ => .inl hall⟩⟩
  | false =>
    have hnot : ¬ data.deleteAll = true := by simp [hall]
    constructor
    · rintro ⟨⟨hcovers, -⟩, hkeeps⟩
      by_cases hnone : ∀ kind, data.svMask kind = false
      · exact .inr (.inl hnone)
      · simp only [Bool.eq_false_iff, not_forall, not_not] at hnone
        obtain ⟨kind, hkind⟩ := hnone
        -- The constellations that are sent are just those that are requested.
        have hsame : ∀ svType, data.svTypeMask svType = data.svTypeMask svType.setFor := by
          intro svType
          rw [Bool.eq_iff_iff]
          constructor
          · intro hsvType
            exact ((deleteGnssServiceDataReq_asks hall).mp
              (hcovers kind svType (.inr ⟨hkind, hsvType⟩))).2
          · intro hset
            exact (hkeeps svType ((deleteGnssServiceDataReq_touches hall).mpr
              ⟨⟨kind, hkind⟩, hset⟩)).resolve_left hnot
        exact .inr (.inr ⟨(hsame .beidou).symm, (hsame .galileo).symm⟩)
    · intro hright
      have hsame : ∀ kind, data.svMask kind = true →
          ∀ svType, data.svTypeMask svType = data.svTypeMask svType.setFor := by
        intro kind hkind svType
        rcases hright with hdelete | hnone | ⟨hqzss, hbeidou⟩
        · exact absurd hdelete hnot
        · rw [hnone kind] at hkind
          cases hkind
        · cases svType with
          | qzss => exact hqzss.trans hbeidou
          | beidou => exact hqzss.symm
          | galileo => exact hbeidou.symm
          | gps | glonass | navic => rfl
      refine ⟨⟨fun kind svType hrequest => ?_, fun kind hrequest => ?_⟩, fun svType htouch => ?_⟩
      · obtain ⟨hkind, hsvType⟩ := hrequest.resolve_left hnot
        exact (deleteGnssServiceDataReq_asks hall).mpr ⟨hkind, hsame kind hkind svType ▸ hsvType⟩
      · exact deleteGnssServiceDataReq_asksCommon hall (hrequest.resolve_left hnot)
      · obtain ⟨⟨kind, hkind⟩, hset⟩ := (deleteGnssServiceDataReq_touches hall).mp htouch
        exact .inr ((hsame kind hkind svType).trans hset)

/-- **The legacy message** asks for what is requested if it is right for it, and never for more. -/
theorem legacyRight_iff :
    ((DeleteMsg.assistData (deleteAssistDataReq data)).Covers data ∧
      (DeleteMsg.assistData (deleteAssistDataReq data)).KeepsTo data) ↔
      data.LegacyRight := by
  cases hall : data.deleteAll with
  | true =>
    have hflag : (deleteAssistDataReq data).deleteAllFlag = true := by
      simp [deleteAssistDataReq, hall]
    exact ⟨fun _ => .inl hall, fun _ => ⟨⟨fun _ _ _ => .inl hflag, fun _ _ => .inl hflag⟩,
      fun _ _ => .inl hall⟩⟩
  | false =>
    have hnot : ¬ data.deleteAll = true := by simp [hall]
    constructor
    · rintro ⟨⟨hcovers, hcommon⟩, -⟩
      refine .inr ⟨fun kind svType hkind hsvType => ?_, Bool.eq_false_iff.mpr fun hbias => ?_⟩
      · exact ((deleteAssistDataReq_asks hall).mp
          (hcovers kind svType (.inr ⟨hkind, hsvType⟩))).2.2
      · exact (deleteAssistDataReq_asksCommon hall hbias).mp (hcommon _ (.inr hbias)) rfl
    · intro hright
      obtain ⟨hkinds, hbias⟩ := hright.resolve_left hnot
      refine ⟨⟨fun kind svType hrequest => ?_, fun kind hrequest => ?_⟩, fun svType htouch =>
        .inr (deleteAssistDataReq_touches hall htouch)⟩
      · obtain ⟨hkind, hsvType⟩ := hrequest.resolve_left hnot
        obtain ⟨rfl, hlegacy⟩ := hkinds kind svType hkind hsvType
        exact (deleteAssistDataReq_asks hall).mpr ⟨hkind, hsvType, rfl, hlegacy⟩
      · have hkind := hrequest.resolve_left hnot
        refine (deleteAssistDataReq_asksCommon hall hkind).mpr ?_
        rintro rfl
        rw [hbias] at hkind
        cases hkind

end AidingData

/-! ## Requests in a row -/

/-- A request, with the replies to the messages that it may send. -/
structure DeleteRequest where
  data : AidingData
  serviceReply : DeleteReply
  assistReply : DeleteReply

/-- A request is made, and `isNewApiSupported` is kept. -/
def deleteStep (isNewApiSupported : Bool) (request : DeleteRequest) : Bool :=
  (deleteAidingData isNewApiSupported request.data request.serviceReply
    request.assistReply).isNewApiSupported

/-- What a request comes to never under-reports. -/
def ReportsRight (isNewApiSupported : Bool) (request : DeleteRequest) : Prop :=
  (deleteAidingData isNewApiSupported request.data request.serviceReply
    request.assistReply).NeverUnderReports request.data

/-- A request is **answered right**: the new message, where it is sent, is acknowledged and right
for the request, or it is taken for unsupported; the legacy message, where it is sent, is right for
the request or not acknowledged. -/
def AnsweredRight (isNewApiSupported : Bool) (request : DeleteRequest) : Prop :=
  if isNewApiSupported = true ∧ takenForUnsupported request.serviceReply = false then
    request.serviceReply.acknowledged = true ∧ request.data.NewRight
  else request.assistReply.acknowledged = true → request.data.LegacyRight

/-- A deletion by the legacy message. -/
theorem deleteByLegacy_neverUnderReports_iff (data : AidingData) (assistReply : DeleteReply) :
    (deleteByLegacy data assistReply).NeverUnderReports data ↔
      (assistReply.acknowledged = true → data.LegacyRight) := by
  rw [← AidingData.legacyRight_iff]
  cases hack : assistReply.acknowledged with
  | true => simp [Deletion.NeverUnderReports, deleteByLegacy, hack]
  | false => simp [Deletion.NeverUnderReports, deleteByLegacy, hack]

/-- **One request** never under-reports exactly if it is answered right. -/
theorem reportsRight_iff (isNewApiSupported : Bool) (request : DeleteRequest) :
    ReportsRight isNewApiSupported request ↔ AnsweredRight isNewApiSupported request := by
  rw [ReportsRight, AnsweredRight, deleteAidingData]
  cases isNewApiSupported with
  | false => simpa using deleteByLegacy_neverUnderReports_iff _ _
  | true =>
    cases htaken : takenForUnsupported request.serviceReply with
    | true => simpa using deleteByLegacy_neverUnderReports_iff _ _
    | false =>
      rw [← AidingData.newRight_iff]
      cases hack : request.serviceReply.acknowledged with
      | true => simp [Deletion.NeverUnderReports]
      | false => simp [Deletion.NeverUnderReports]

/-- A request for the ephemeris of BeiDou. -/
def beidouEphemeris : AidingData where
  deleteAll := false
  svMask := fun kind => kind == .ephemeris
  svTypeMask := fun svType => svType == .beidou
  common := fun _ => false

end LocationStack.LocApi
