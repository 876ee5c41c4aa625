import LocationStack.Client.PositionsAlike
import LocationStack.PbConv.Satellites
import LocationStack.Fidl.MeasReport

/-! # Satellites that an application is told of

The application is given a list, with an element for each satellite of the notification.  One of
GLONASS whose slot is not known has no number of its own, and is given one from its frequency; which
numbers stand for an unknown slot is said outside of the repository.
-/
namespace LocationStack
namespace Client

/-- `type` is named by a switch. -/
def parseGnssSvType : PbConv.GnssSvType → Fidl.SvType
  | .gps => .gps
  | .sbas => .sbas
  | .glonass => .glonass
  | .qzss => .qzss
  | .beidou => .beidou
  | .galileo => .galileo
  | .navic => .navic
  | .unknown => .unknown

def svMarks (mask : Flags PbConv.GnssSvOptionsFlag) : Flags Fidl.SvOptionFlag
  | .ephemer => mask .hasEphemer
  | .almanac => mask .hasAlmanac
  | .usedInFix => mask .usedInFix
  | .carrierFrequency => mask .hasCarrierFrequency
  | .gnssSignalType => mask .hasGnssSignalType
  | .basebandCarrierToNoise => mask .hasBasebandCarrierToNoise
  | .elevation => mask .hasElevation
  | .azimuth => mask .hasAzimuth

def svOptionTable : FlagTable Fidl.SvOptionFlag 32 :=
  .inOrder Fidl.svOptionFlags Fidl.svOptionFlags_length

@[simp] theorem read_write_svOption (m : Flags Fidl.SvOptionFlag) :
    svOptionTable.read (svOptionTable.write m) = m :=
  svOptionTable.read_write (fun f => by cases f <;> decide) m

section
variable (isGloSlotUnknown : UInt16 → Bool)

/-- The number that the satellite is told by. -/
def toldSvId (halGnssSv : PbConv.GnssSv) : UInt16 :=
  if halGnssSv.type = .glonass ∧ isGloSlotUnknown halGnssSv.svId = true then
    -- The slot is not known: the channel is reported.
    halGnssSv.gloFrequency + 96
  else
    halGnssSv.svId

def parseGnssSv (n : CastNumbers) (halGnssSv : PbConv.GnssSv) : Fidl.GnssSv where
  svId := toldSvId isGloSlotUnknown halGnssSv
  type := parseGnssSvType halGnssSv.type
  cN0Dbhz := halGnssSv.cN0Dbhz
  elevation := halGnssSv.elevation
  azimuth := halGnssSv.azimuth
  gnssSvOptionsMask := svOptionTable.write (svMarks halGnssSv.gnssSvOptionsMask)
  carrierFrequencyHz := halGnssSv.carrierFrequencyHz
  gnssSignalTypeMask := parseGnssSignalType n halGnssSv.gnssSignalTypeMask
  basebandCarrierToNoiseDbHz := halGnssSv.basebandCarrierToNoiseDbHz
  gloFrequency := halGnssSv.gloFrequency

/-- What the callback of a tracking session is given. -/
def gnssSvCb {h : PbConv.Header} (n : CastNumbers) (notif : PbConv.GnssSvNotification h) :
    Logged (List Fidl.GnssSv) :=
  Logged.append notif.count.toNat notif.gnssSvs.toList
    (fun sv => pure (parseGnssSv isGloSlotUnknown n sv)) []

end

variable {h : PbConv.Header} {isGloSlotUnknown : UInt16 → Bool} {n : CastNumbers}

theorem gnssSvCb_value {notif : PbConv.GnssSvNotification h}
    (hcount : notif.count.toNat ≤ h.gnssSvMax) :
    (gnssSvCb isGloSlotUnknown n notif).value =
      (inUse notif.count.toNat notif.gnssSvs).map (parseGnssSv isGloSlotUnknown n) := by
  have hlen : notif.count.toNat ≤ notif.gnssSvs.toList.length := by
    rwa [Vector.length_toList]
  rw [gnssSvCb, Fidl.append_pure_value hlen, List.nil_append, inUse]

theorem gnssSvCb_inBounds {notif : PbConv.GnssSvNotification h} :
    (gnssSvCb isGloSlotUnknown n notif).InBounds ↔ notif.count.toNat ≤ h.gnssSvMax := by
  rw [gnssSvCb, Fidl.append_pure_inBounds, Vector.length_toList]

theorem inUse_of_sameSatellites {r r' : PbConv.GnssSvNotification h} (hs : r.Same r') :
    inUse r'.count.toNat r'.gnssSvs = inUse r.count.toNat r.gnssSvs := by
  rw [hs.count]
  exact inUse_of_same hs.gnssSvs

@[simp] theorem has_parseGnssSv (sv : PbConv.GnssSv) (f : Fidl.SvOptionFlag) :
    (parseGnssSv isGloSlotUnknown n sv).has f = svMarks sv.gnssSvOptionsMask f :=
  congrFun (read_write_svOption _) f

end Client
end LocationStack
