import LocationStack.Client.PositionsAlike
import LocationStack.Fidl.LocFaithful

/-! # Position reports on their way to the vehicle

The service that offers positions to the vehicle is an application of the client API.  A position
report of the daemon comes to it in a message, is made a report of the client API, and that is made
a report of the FIDL.  Each of the three steps loses something, and what comes out says what went in
exactly if the report has none of it.

The FIDL is only followed for constellations that have a name in the client API.
-/
namespace LocationStack
namespace Link

open Client PbConv
open Fidl (LocConvertible InfoConvertible LocFaithful OneSignal maxGnssMeas)

variable {h : Header}

/-- Every constellation of the report has a name. -/
structure ConstellationsNamed (r : GnssLocationInfoNotification h) : Prop where
  time : r.gnssSystemTime.gnssSystemTimeSrc ≠ .unknown
  usage : ∀ u ∈ inUse r.numOfMeasReceived.toNat r.measUsageInfo, u.gnssConstellation ≠ .unknown

structure AllNamed (c : ClientReport) : Prop where
  time : c.timeNamed = true
  usage : ∀ named ∈ c.usageNamed, named = true

/-- A measurement is of one signal. -/
def OneSignalUsed (u : GnssMeasUsageInfo) : Prop :=
  ∀ s s', signalMarks u.gnssSignalType s = true → signalMarks u.gnssSignalType s' = true → s = s'

/-- What the FIDL can say of a report. -/
structure VehicleConvertible (r : GnssLocationInfoNotification h) : Prop where
  northVelUnc : r.flags .northVelUnc = false
  horReliability : r.flags .horReliability = true → r.horReliability ≠ .low
  verReliability : r.flags .verReliability = true → r.verReliability ≠ .low
  gptpTime : r.location.flags .gptpTime = r.location.flags .gptpTimeUnc
  svUsed : r.flags .gnssSvUsedData = true →
    r.flags .numSvUsedInPosition = true ∨ parseLocationSvUsedInPosition r.svUsedInPosition = .none
  drSolution : r.flags .drSolutionStatusMask = true →
    r.drSolutionStatusMask .dreWarningInitPositionUnreliable = false
  signals : r.flags .gnssSvUsedData = true →
    ∀ u ∈ (inUse r.numOfMeasReceived.toNat r.measUsageInfo).take maxGnssMeas, OneSignalUsed u
  stations : r.flags .dgnssStationId = true →
    3 ≤ (inUse r.numOfDgnssStationId.toNat r.dgnssStationId).length

/-! ## Reports alike -/

section
variable {α β : Type}

theorem forall₂_of_zip {R : α → β × Bool → Prop} {l : List α} {xs : List β} {ys : List Bool}
    (hlen : ys.length = xs.length) (hall : List.Forall₂ R l (xs.zip ys)) :
    List.Forall₂ (fun a x => ∃ y, R a (x, y)) l xs := by
  have hpairs : List.Forall₂ (fun a p => ∃ y, R a (p.1, y)) l (xs.zip ys) :=
    hall.imp fun a p hp => ⟨p.2, hp⟩
  have hmap : List.Forall₂ (fun a x => ∃ y, R a (x, y)) l ((xs.zip ys).map Prod.fst) :=
    List.forall₂_map_right_iff.mpr hpairs
  rwa [List.map_fst_zip (Nat.le_of_eq hlen.symm)] at hmap

theorem forall₂_marks_of_zip {R : α → β × Bool → Prop} {l : List α} {xs : List β} {ys : List Bool}
    (hlen : ys.length = xs.length) (hall : List.Forall₂ R l (xs.zip ys)) :
    List.Forall₂ (fun a y => ∃ x, R a (x, y)) l ys := by
  have hpairs : List.Forall₂ (fun a p => ∃ x, R a (x, p.2)) l (xs.zip ys) :=
    hall.imp fun a p hp => ⟨p.1, hp⟩
  have hmap : List.Forall₂ (fun a y => ∃ x, R a (x, y)) l ((xs.zip ys).map Prod.snd) :=
    List.forall₂_map_right_iff.mpr hpairs
  rwa [List.map_snd_zip (Nat.le_of_eq hlen)] at hmap

/-- Two lists whose elements agree on a property. -/
theorem forall_mem_iff_of_forall₂ {P : α → Prop} {Q : β → Prop} {l : List α} {l' : List β}
    (hall : List.Forall₂ (fun a b => P a ↔ Q b) l l') : (∀ a ∈ l, P a) ↔ ∀ b ∈ l', Q b := by
  induction hall with
  | nil => simp
  | cons hab _ ih => rw [List.forall_mem_cons, List.forall_mem_cons, hab, ih]

end

variable {r : GnssLocationInfoNotification h} {c : ClientReport}

theorem signals_iff (halike : Alike r c) :
    (∀ v ∈ c.location.measUsageInfo.take maxGnssMeas, OneSignal v.gnssSignalType) ↔
      ∀ u ∈ (inUse r.numOfMeasReceived.toNat r.measUsageInfo).take maxGnssMeas,
        OneSignalUsed u := by
  have hpairs := forall₂_of_zip halike.usageNamed halike.measUsageInfo
  refine (forall_mem_iff_of_forall₂ ((List.forall₂_take maxGnssMeas hpairs).imp ?_)).symm
  rintro u v ⟨named, husage⟩
  simp only [OneSignalUsed, OneSignal, husage.gnssSignalType]

theorem infoConvertible_iff (halike : Alike r c) :
    InfoConvertible c.location ↔
      r.flags .northVelUnc = false ∧
      (r.flags .horReliability = true → r.horReliability ≠ .low) ∧
      (r.flags .verReliability = true → r.verReliability ≠ .low) ∧
      r.location.flags .gptpTime = r.location.flags .gptpTimeUnc ∧
      (r.flags .gnssSvUsedData = true → r.flags .numSvUsedInPosition = true ∨
        parseLocationSvUsedInPosition r.svUsedInPosition = .none) ∧
      (r.flags .drSolutionStatusMask = true →
        r.drSolutionStatusMask .dreWarningInitPositionUnreliable = false) := by
  have hlow (rel : LocationReliability) : parseLocationReliability rel ≠ .low ↔ rel ≠ .low := by
    cases rel <;> decide
  have hinfo (f : Fidl.InfoFlag) : c.location.hasInfo f = infoMarks r f := halike.infoFlags f
  have hflag (f : Fidl.LocationFlag) : c.location.has f = locationMarks r.location f :=
    halike.location.flags f
  constructor
  · intro hc
    refine ⟨?_, ?_, ?_, ?_, ?_, ?_⟩
    · exact (hinfo .northVelUnc).symm.trans hc.northVelUnc
    · intro hon
      rw [← hlow, ← halike.fields.horReliability hon]
      exact hc.horReliability ((hinfo .horReliability).trans hon)
    · intro hon
      rw [← hlow, ← halike.fields.verReliability hon]
      exact hc.verReliability ((hinfo .verReliability).trans hon)
    · exact (hflag .gptpTime).symm.trans (hc.gptpTime.trans (hflag .gptpTimeUnc))
    · intro hon
      rw [← halike.fields.svUsedInPosition hon]
      exact (hc.svUsed ((hinfo .gnssSvUsedData).trans hon)).imp_left
        (hinfo .numSvUsedInPosition).symm.trans
    · intro hon
      have hoff := hc.drSolution ((hinfo .drSolutionStatusMask).trans hon)
      rwa [halike.fields.drSolutionStatusMask hon] at hoff
  · rintro ⟨hnorth, hhor, hver, hgptp, hsv, hdr⟩
    exact {
      northVelUnc := (hinfo .northVelUnc).trans hnorth
      horReliability := by
        intro hon
        have hon' := (hinfo .horReliability).symm.trans hon
        rw [halike.fields.horReliability hon']
        exact (hlow _).mpr (hhor hon')
      verReliability := by
        intro hon
        have hon' := (hinfo .verReliability).symm.trans hon
        rw [halike.fields.verReliability hon']
        exact (hlow _).mpr (hver hon')
      gptpTime := (hflag .gptpTime).trans (hgptp.trans (hflag .gptpTimeUnc).symm)
      sessionStatus := by
        -- The two flags are set by the same one.
        intro hon
        exact (hinfo .sessionStatus).trans ((hflag .sessionStatus).symm.trans hon)
      timeUnc := by
        intro hon
        cases (hinfo .timeUnc).symm.trans hon
      svUsed := by
        intro hon
        have hon' := (hinfo .gnssSvUsedData).symm.trans hon
        rw [halike.fields.svUsedInPosition hon']
        exact (hsv hon').imp_left (hinfo .numSvUsedInPosition).trans
      drSolution := by
        intro hon
        have hon' := (hinfo .drSolutionStatusMask).symm.trans hon
        rw [halike.fields.drSolutionStatusMask hon']
        exact hdr hon' }

theorem locConvertible_iff (halike : Alike r c) :
    LocConvertible c.location ↔ VehicleConvertible r := by
  have hsv : c.location.hasInfo .gnssSvUsedData = r.flags .gnssSvUsedData :=
    halike.infoFlags .gnssSvUsedData
  have hids : c.location.hasInfo .dgnssStationId = r.flags .dgnssStationId :=
    halike.infoFlags .dgnssStationId
  constructor
  · intro hc
    obtain ⟨hnorth, hhor, hver, hgptp, hsvUsed, hdr⟩ := (infoConvertible_iff halike).mp hc.info
    refine ⟨hnorth, hhor, hver, hgptp, hsvUsed, hdr, fun hon => ?_, fun hon => ?_⟩
    · exact (signals_iff halike).mp (hc.signals (hsv.trans hon))
    · rw [← halike.dgnssStationId]
      exact hc.stations (hids.trans hon)
  · intro hr
    refine ⟨(infoConvertible_iff halike).mpr ⟨hr.northVelUnc, hr.horReliability, hr.verReliability,
      hr.gptpTime, hr.svUsed, hr.drSolution⟩, fun hon => ?_, fun hon => ?_⟩
    · exact (signals_iff halike).mpr (hr.signals (hsv.symm.trans hon))
    · rw [halike.dgnssStationId]
      exact hr.stations (hids.symm.trans hon)

theorem timeNamed_iff {t : GnssSystemTime} {named : Bool} {time : Fidl.GnssSystemTime}
    (halike : TimeAlike t (if named then some time else none)) :
    named = true ↔ t.gnssSystemTimeSrc ≠ .unknown := by
  obtain ⟨src, u⟩ := t
  cases named with
  | true => cases src <;> simp_all [TimeAlike]
  | false => cases src <;> simp_all [TimeAlike]

theorem allNamed_iff (halike : Alike r c) : AllNamed c ↔ ConstellationsNamed r := by
  have hname (system : GnssLocSvSystemEnumType) :
      (svSystemName system).isSome = true ↔ system ≠ .unknown := by
    cases system <;> decide
  have htime := timeNamed_iff halike.gnssSystemTime
  have husage : (∀ u ∈ inUse r.numOfMeasReceived.toNat r.measUsageInfo,
      u.gnssConstellation ≠ .unknown) ↔ ∀ named ∈ c.usageNamed, named = true := by
    refine forall_mem_iff_of_forall₂
      ((forall₂_marks_of_zip halike.usageNamed halike.measUsageInfo).imp ?_)
    rintro u named ⟨v, hv⟩
    have hnamed : named = (svSystemName u.gnssConstellation).isSome := hv.named
    rw [hnamed, hname]
  constructor
  · rintro ⟨ht, hu⟩
    exact ⟨htime.mp ht, husage.mpr hu⟩
  · rintro ⟨ht, hu⟩
    exact ⟨htime.mpr ht, husage.mp hu⟩

/-! ## The whole way -/

variable {n : CastNumbers}

/-- The engines of the client's header, in the order of their bits. -/
def sampleEngines : List PositioningEngineFlag :=
  [.standardPositioning, .deadReckoning, .precisePositioning, .vpPositioning]

theorem sampleEngines_length : sampleEngines.length ≤ 32 := by decide

/-- Numbers that agree. -/
def sampleNumbers : CastNumbers where
  sessionStatus := sessionStatusName
  locOutputEngType := engineName
  svSystem := svSystemName
  locOutputEngMask := .inOrder sampleEngines sampleEngines_length
  drSolutionStatusMask := drSolutionStatusFlags
  beidouB1 := 0x200
  beidouB2 := 0x400

theorem sampleNumbers_sameNumbers : sampleNumbers.SameNumbers where
  sessionStatus := rfl
  locOutputEngType := rfl
  svSystem := rfl
  locOutputEngMask := fun _ => rfl
  drSolutionStatusMask := fun _ => rfl
  beidouB1 := rfl
  beidouB2 := rfl

theorem small_sameNumbers : Header.small.SameNumbers where
  geofenceBreachTypes := rfl
  gnssDataFlags := rfl
  gnssMeasurementsStates := fun _ hr => hr
  drCalibrationStatuses := rfl

/-- A position of GPS with its height. -/
def sampleReport : GnssLocationInfoNotification Header.small :=
  { (default : GnssLocationInfoNotification Header.small) with
    location := { (default : Location) with
      flags := fun f => f == .latLong || f == .altitude
      latitude := 7
      altitude := 3 }
    gnssSystemTime := { (default : GnssSystemTime) with
      gnssSystemTimeSrc := .gps
      u := { (default : SystemTimeStructUnion) with
        gpsSystemTime := { (default : GnssSystemTimeStructType) with
          validityMask := fun f => f == .weekValid
          systemWeek := 2200 } } }
    numOfMeasReceived := 1
    measUsageInfo := .replicate 2 { (default : GnssMeasUsageInfo) with
      gnssConstellation := .gps
      gnssSignalType := fun f => f == .gpsL1ca } }

/-- The report that the service makes of it. -/
def sampleTold : ClientReport :=
  (parseLocationInfo sampleNumbers
    (pbConvertToGnssLocInfoNotif (convertGnssLocInfoNotifToPB sampleReport)
      (default : GnssLocationInfoNotification Header.small)).value).value

end Link
end LocationStack
