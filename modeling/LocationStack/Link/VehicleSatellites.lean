import LocationStack.Client.SatelliteReports
import LocationStack.Link.VehicleReports

/-! # Satellites on their way to the vehicle

The service that offers them to the vehicle is told of the satellites by the client API, which is
told of them by a message of the daemon.  The vehicle has a list of them that is no longer than it
declares, and one signal for each.
-/
namespace LocationStack
namespace Link

open Client PbConv
open Fidl (Carried GnssSvDataT OneSignal SignalNamed maxSvs handleGnssSvReport parseSvReport)

/-- **The vehicle is told of the satellite.** -/
structure SvReaches (isGloSlotUnknown : UInt16 → Bool) (s : PbConv.GnssSv) (t : GnssSvDataT) :
    Prop where
  svId : t.svId.toNat = (toldSvId isGloSlotUnknown s).toNat
  type : t.type = parseGnssSvType s.type
  cN0DbHz : t.cN0DbHz = s.cN0Dbhz
  options : ∀ f, svOptionTable.read t.gnssSvOptionsMask f = svMarks s.gnssSvOptionsMask f
  elevation : Carried (s.gnssSvOptionsMask .hasElevation) s.elevation t.elevation
  azimuth : Carried (s.gnssSvOptionsMask .hasAzimuth) s.azimuth t.azimuth
  carrierFrequencyHz : Carried (s.gnssSvOptionsMask .hasCarrierFrequency)
    s.carrierFrequencyHz t.carrierFrequencyHz
  gnssSignalType : s.gnssSvOptionsMask .hasGnssSignalType = true →
    ∀ f, signalMarks s.gnssSignalTypeMask f = true ↔ t.gnssSignalType = some f
  basebandCarrierToNoiseDbHz : Carried (s.gnssSvOptionsMask .hasBasebandCarrierToNoise)
    s.basebandCarrierToNoiseDbHz t.basebandCarrierToNoiseDbHz
  gloFrequency : t.gloFrequency.toNat = s.gloFrequency.toNat

/-- Its signal, if it has one, is one. -/
def OneSignalSeen (s : PbConv.GnssSv) : Prop :=
  s.gnssSvOptionsMask .hasGnssSignalType = true →
    ∀ f f', signalMarks s.gnssSignalTypeMask f = true →
      signalMarks s.gnssSignalTypeMask f' = true → f = f'

variable {isGloSlotUnknown : UInt16 → Bool} {n : CastNumbers}

theorem signalNamed_iff (hnum : n.SameNumbers) (mask : Flags GnssSignalTypeFlag)
    (signal : Option Fidl.SignalType) :
    SignalNamed (parseGnssSignalType n mask) signal ↔
      ∀ f, signalMarks mask f = true ↔ signal = some f := by
  simp only [SignalNamed, read_parseGnssSignalType hnum]

theorem oneSignal_iff (hnum : n.SameNumbers) (mask : Flags GnssSignalTypeFlag) :
    OneSignal (parseGnssSignalType n mask) ↔
      ∀ f f', signalMarks mask f = true → signalMarks mask f' = true → f = f' := by
  simp only [OneSignal, read_parseGnssSignalType hnum]

/-- One satellite. -/
theorem parseSvReport_reaches_iff (hnum : n.SameNumbers) (s : PbConv.GnssSv) :
    SvReaches isGloSlotUnknown s (parseSvReport (parseGnssSv isGloSlotUnknown n s)) ↔
      OneSignalSeen s := by
  have hsignal := Fidl.parseIDLSignalType_iff (parseGnssSignalType n s.gnssSignalTypeMask)
  rw [signalNamed_iff hnum, oneSignal_iff hnum] at hsignal
  constructor
  · intro h hon
    exact hsignal.mp (h.gnssSignalType hon)
  · intro h
    exact {
      svId := UInt16.toNat_toUInt32 _
      type := Fidl.parseIDLSvType_eq _
      cN0DbHz := rfl
      options := by
        -- What the application was given is read and written once more.
        intro f
        have hword : (parseSvReport (parseGnssSv isGloSlotUnknown n s)).gnssSvOptionsMask =
            svOptionTable.write (svOptionTable.read
              (svOptionTable.write (svMarks s.gnssSvOptionsMask))) := Fidl.copyFlags_eq _ _ _
        rw [hword, read_write_svOption, read_write_svOption]
      elevation := fun _ => rfl
      azimuth := fun _ => rfl
      carrierFrequencyHz := fun _ => rfl
      gnssSignalType := fun hon => hsignal.mpr (h hon)
      basebandCarrierToNoiseDbHz := fun _ => rfl
      gloFrequency := UInt16.toNat_toUInt32 _ }

variable {h : Header}

/-- **The satellites of the daemon reach the vehicle**, through the message, the client API and the
FIDL, exactly if the list of the vehicle is long enough and each of them has one signal; nothing is
read past the end of an array. -/
theorem satellites_reach_vehicle_iff (hnum : n.SameNumbers) {r : GnssSvNotification h}
    (hr : r.count.toNat ≤ h.gnssSvMax) (old : GnssSvNotification h) {told : GnssSvNotification h}
    (htold : told = (pbConvertToGnssSvNotif (convertGnssSvNotifToPB r) old).value) :
    (gnssSvCb isGloSlotUnknown n told).InBounds ∧
      (Fidl.ListFaithful (SvReaches isGloSlotUnknown) maxSvs (inUse r.count.toNat r.gnssSvs)
          (handleGnssSvReport (gnssSvCb isGloSlotUnknown n told).value) ↔
        r.count.toNat ≤ maxSvs ∧ ∀ s ∈ inUse r.count.toNat r.gnssSvs, OneSignalSeen s) := by
  have hsame : r.Same told := htold ▸ pbConvertToGnssSvNotif_same hr old
  have hcount : told.count.toNat ≤ h.gnssSvMax := by
    rwa [hsame.count]
  have hlen : (inUse r.count.toNat r.gnssSvs).length = r.count.toNat := by
    rw [inUse, List.length_take, Vector.length_toList]
    omega
  refine ⟨gnssSvCb_inBounds.mpr hcount, ?_⟩
  rw [gnssSvCb_value hcount, inUse_of_sameSatellites hsame, handleGnssSvReport, List.map_map,
    Fidl.listFaithful_uncut, hlen]
  exact and_congr_right fun _ => forall₂_congr fun s _ => parseSvReport_reaches_iff hnum s

/-- A satellite of GPS, and one of GLONASS whose slot is not known. -/
def sampleSatellites : GnssSvNotification Header.small where
  gnssSignalTypeMaskValid := true
  count := 2
  gnssSvs := #v[
    { (default : PbConv.GnssSv) with
      svId := 7
      type := .gps
      gnssSvOptionsMask := fun f => f == .hasGnssSignalType
      gnssSignalTypeMask := fun f => f == .gpsL5 },
    { (default : PbConv.GnssSv) with
      svId := 255
      type := .glonass
      gloFrequency := 8 }]

theorem satellites_reach_vehicle_sample :
    Fidl.ListFaithful (SvReaches (· == 255)) maxSvs (inUse 2 sampleSatellites.gnssSvs)
      (handleGnssSvReport (gnssSvCb (· == 255) sampleNumbers
        (pbConvertToGnssSvNotif (convertGnssSvNotifToPB sampleSatellites)
          (default : GnssSvNotification Header.small)).value).value) := by
  refine (satellites_reach_vehicle_iff sampleNumbers_sameNumbers
    (by decide : sampleSatellites.count.toNat ≤ Header.small.gnssSvMax) default rfl).2.mpr
    ⟨by decide, ?_⟩
  intro s hs hon
  rcases List.mem_cons.mp hs with rfl | hs
  · intro f f' hf hf'
    have hfirst : f = .gpsL5 := by cases f <;> first | rfl | cases hf
    have hsecond : f' = .gpsL5 := by cases f' <;> first | rfl | cases hf'
    rw [hfirst, hsecond]
  · rcases List.mem_cons.mp hs with rfl | hs
    · cases hon
    · cases hs

end Link
end LocationStack
