import LocationStack.LocApi.ClockArithmetic

/-! # The time of an injected position

`injectPosition` gives the modem a position that was found elsewhere, with the week of GPS and the
milliseconds of the week of its fix.  The fix has the time of one of the systems, each with an
epoch of its own.  For GLONASS the milliseconds since the epoch of GPS are computed; what the other
systems have is taken as it is.

The numbers with a point are rational numbers here, and a field whose bit is not set is absent.
-/
namespace LocationStack.LocApi

/-! ## The code -/

/-- `GPS_GLONASS_DAYS_DIFF`. -/
def gpsGlonassDaysDiff : Nat := 5838
/-- `GLONASS_DAYS_IN_4YEARS`. -/
def glonassDaysIn4Years : Nat := 1461
/-- `GLONASS_UTC_OFFSET_HOURS`. -/
def glonassUtcOffsetHours : Nat := 3

/-- `GnssSystemTimeStructType`. -/
structure GnssSystemTimeStruct where
  systemWeek : UInt16
  systemMsec : UInt32
  deriving Repr, DecidableEq

/-- `GnssGloTimeStructType`. -/
structure GnssGloTimeStruct where
  gloFourYear : UInt8
  gloDays : UInt16
  gloMsec : UInt32
  deriving Repr, DecidableEq

/-- `GnssSystemTime`.  The members of the union for systems with weeks have the same place and the
same fields: what is written as one may be read as another. -/
structure GnssSystemTime where
  gnssSystemTimeSrc : GnssLocSvSystem
  systemTime : GnssSystemTimeStruct
  gloSystemTime : GnssGloTimeStruct
  deriving Repr, DecidableEq

/-- `Location`. -/
structure FixLocation where
  timestamp : UInt64
  timeUncMs : Option ℚ
  latitudeLongitude : Option (ℚ × ℚ)
  accuracy : Option ℚ
  altitude : Option ℚ
  verticalAccuracy : Option ℚ
  /-- `LOCATION_TECHNOLOGY_SENSORS_BIT` -/
  sensors : Bool

/-- `GnssLocationInfoNotification`. -/
structure GnssLocationInfo where
  location : FixLocation
  gnssSystemTime : GnssSystemTime
  leapSeconds : Option UInt8
  eastVelocity : Option ℚ
  northVelocity : Option ℚ
  upVelocity : Option ℚ
  eastVelocityStdDeviation : Option ℚ
  northVelocityStdDeviation : Option ℚ
  upVelocityStdDeviation : Option ℚ
  numSvUsedInPosition : Option UInt16

/-- `qmiLocGPSTimeStructT_v02`. -/
structure GpsTimeStruct where
  gpsWeek : UInt16
  gpsTimeOfWeekMs : UInt32
  deriving Repr, DecidableEq

/-- `qmiLocInjectPositionReqMsgT_v02`. -/
structure InjectPositionReq where
  timestampUtc : Option UInt64
  timeUnc : Option ℚ
  latitudeLongitude : Option (ℚ × ℚ)
  horUncCircular : Option ℚ
  horConfidence : Option Nat
  rawHorUncCircular : Option ℚ
  rawHorConfidence : Option Nat
  altitudeWrtEllipsoid : Option ℚ
  vertUnc : Option ℚ
  vertConfidence : Option Nat
  gpsTime : Option GpsTimeStruct
  velEnu : Option (ℚ × ℚ × ℚ)
  velUncEnu : Option (ℚ × ℚ × ℚ)
  numSvInFix : Option UInt16
  /-- `eQMI_LOC_POSITION_SRC_DRE` -/
  positionSrcDre : Bool
  onDemandCpi : Bool

/-- Three velocities, if all are there. -/
def allThree (east north up : Option ℚ) : Option (ℚ × ℚ × ℚ) := do
  let east ← east
  let north ← north
  let up ← up
  return (east, north, up)

/-- `msecTotal`, the milliseconds since the epoch of GPS, in 64 bits. -/
def GnssGloTimeStruct.msecTotal (t : GnssGloTimeStruct) (leapSeconds : UInt8) : Nat :=
  (t.gloFourYear.toNat * glonassDaysIn4Years * dayMsecs.toNat + t.gloDays.toNat * dayMsecs.toNat +
    t.gloMsec.toNat + (gpsGlonassDaysDiff * dayMsecs.toNat - glonassUtcOffsetHours * 3600 * 1000 +
      leapSeconds.toNat * 1000)) % 2 ^ 64

/-- The GPS time of a request. -/
def GnssSystemTime.gpsTime (t : GnssSystemTime) (leapSeconds : Option UInt8) :
    Option GpsTimeStruct :=
  match t.gnssSystemTimeSrc with
  | .gps | .galileo | .bds | .qzss | .navic =>
    some ⟨t.systemTime.systemWeek, t.systemTime.systemMsec⟩
  | .glonass =>
    leapSeconds.map fun leapSeconds =>
      let msecTotal := t.gloSystemTime.msecTotal leapSeconds
      ⟨UInt16.ofNat (msecTotal / weekMsecs.toNat), UInt32.ofNat (msecTotal % weekMsecs.toNat)⟩
  | .sbas | .unknown => none

/-- `injectPosition`, the request that is sent. -/
def injectPosition (info : GnssLocationInfo) (onDemandCpi : Bool) : InjectPositionReq where
  timestampUtc := if 0 < info.location.timestamp then some info.location.timestamp else none
  timeUnc := info.location.timeUncMs
  latitudeLongitude := info.location.latitudeLongitude
  -- We don't wish to advertise accuracy better than 1000 meters to Modem
  horUncCircular := info.location.accuracy.map fun accuracy =>
    if accuracy < 1000 then 1000 else accuracy
  horConfidence := info.location.accuracy.map fun _ => 68
  rawHorUncCircular := info.location.accuracy
  rawHorConfidence := info.location.accuracy.map fun _ => 68
  altitudeWrtEllipsoid := info.location.altitude
  vertUnc := info.location.verticalAccuracy
  vertConfidence := info.location.verticalAccuracy.map fun _ => 68
  gpsTime := info.gnssSystemTime.gpsTime info.leapSeconds
  velEnu := allThree info.eastVelocity info.northVelocity info.upVelocity
  velUncEnu := allThree info.eastVelocityStdDeviation info.northVelocityStdDeviation
    info.upVelocityStdDeviation
  numSvInFix := info.numSvUsedInPosition
  positionSrcDre := info.location.sensors
  onDemandCpi := onDemandCpi

/-- No accuracy better than 1000 meters is advertised, and the raw one is what the fix has. -/
theorem injectPosition_horUncCircular (info : GnssLocationInfo) (onDemandCpi : Bool) :
    (injectPosition info onDemandCpi).rawHorUncCircular = info.location.accuracy ∧
      ∀ unc, (injectPosition info onDemandCpi).horUncCircular = some unc → 1000 ≤ unc := by
  refine ⟨rfl, fun unc h => ?_⟩
  obtain ⟨accuracy, -, rfl⟩ := Option.map_eq_some_iff.mp h
  split
  next => exact le_rfl
  next hle => exact not_lt.mp hle

/-! ## The scales -/

def leapYear (year : Nat) : Bool := year % 4 == 0 && (year % 100 != 0 || year % 400 == 0)

def daysInMonth (year month : Nat) : Nat :=
  if month = 2 then if leapYear year then 29 else 28
  else if month = 4 ∨ month = 6 ∨ month = 9 ∨ month = 11 then 30 else 31

/-- The days of the calendar, from the first of the year 1. -/
def dayNumber (year month day : Nat) : Int :=
  let before := year - 1
  (365 * before + before / 4 - before / 100 + before / 400 +
    ((List.range (month - 1)).map fun m => daysInMonth year (m + 1)).sum + day : Nat)

/-- 6 January 1980. -/
def gpsEpochDay : Int := dayNumber 1980 1 6
/-- 22 August 1999. -/
def galileoEpochDay : Int := dayNumber 1999 8 22
/-- 1 January 2006. -/
def bdsEpochDay : Int := dayNumber 2006 1 1
/-- 1 January 1996. -/
def glonassEpochDay : Int := dayNumber 1996 1 1

/-- The milliseconds of whole weeks from an epoch, and of the week, on the scale of GPS. -/
def GnssSystemTimeStruct.sinceGps (t : GnssSystemTimeStruct) (epochDay : Int) : Int :=
  (epochDay - gpsEpochDay) * 86400000 + t.systemWeek.toNat * 604800000 + t.systemMsec.toNat

/-- The instant of a time, in milliseconds from the epoch of GPS.  BDS is 14 seconds behind.  The
days of GLONASS are counted from 1 in each four years, and begin three hours before those of UTC,
which is behind by the leap seconds. -/
def GnssSystemTime.instantMs (t : GnssSystemTime) (leapSeconds : UInt8) : Int :=
  match t.gnssSystemTimeSrc with
  | .galileo => t.systemTime.sinceGps galileoEpochDay
  | .bds => t.systemTime.sinceGps bdsEpochDay + 14000
  | .glonass =>
    let t := t.gloSystemTime
    (glonassEpochDay - gpsEpochDay + t.gloFourYear.toNat * (4 * 365 + 1) +
        ((t.gloDays.toNat : Int) - 1)) * 86400000 +
      t.gloMsec.toNat - 3 * 3600000 + leapSeconds.toNat * 1000
  | _ => t.systemTime.sinceGps gpsEpochDay

/-- A time of GPS, Galileo, BDS, QZSS or GLONASS, within a week or a day; GLONASS with the leap
seconds. -/
def GnssSystemTime.Valid (t : GnssSystemTime) (leapSeconds : Option UInt8) : Prop :=
  match t.gnssSystemTimeSrc with
  | .gps | .galileo | .bds | .qzss => t.systemTime.systemMsec.toNat < 604800000
  | .glonass =>
    leapSeconds.isSome = true ∧ (1 ≤ t.gloSystemTime.gloDays.toNat ∧
      t.gloSystemTime.gloDays.toNat ≤ 1461) ∧ t.gloSystemTime.gloMsec.toNat < 86400000
  | .unknown | .sbas | .navic => False

/-- The request has the instant of the fix, in a week and less than a week. -/
def SameInstant (info : GnssLocationInfo) (req : InjectPositionReq) : Prop :=
  ∃ t, req.gpsTime = some t ∧ t.gpsTimeOfWeekMs.toNat < 604800000 ∧
    (t.gpsWeek.toNat * 604800000 + t.gpsTimeOfWeekMs.toNat : Int) =
      info.gnssSystemTime.instantMs (info.leapSeconds.getD 0)

/-! ## The instants -/

theorem epochs :
    galileoEpochDay - gpsEpochDay = 1024 * 7 ∧ bdsEpochDay - gpsEpochDay = 1356 * 7 ∧
      glonassEpochDay - gpsEpochDay = 5839 := by
  decide +kernel

theorem sinceGps_gps (t : GnssSystemTimeStruct) :
    t.sinceGps gpsEpochDay = t.systemWeek.toNat * 604800000 + t.systemMsec.toNat := by
  rw [GnssSystemTimeStruct.sinceGps, Int.sub_self, Int.zero_mul, Int.zero_add]

/-- The milliseconds of a GLONASS time fit, and so do their weeks. -/
theorem msecTotal_eq (t : GnssGloTimeStruct) (leapSeconds : UInt8) :
    t.msecTotal leapSeconds =
        t.gloFourYear.toNat * 1461 * 86400000 + t.gloDays.toNat * 86400000 + t.gloMsec.toNat +
          (504392400000 + leapSeconds.toNat * 1000) ∧
      t.msecTotal leapSeconds / 604800000 < 2 ^ 16 := by
  have hfour := t.gloFourYear.toNat_lt
  have hdays := t.gloDays.toNat_lt
  have hmsec := t.gloMsec.toNat_lt
  have hleap := leapSeconds.toNat_lt
  have hday : dayMsecs.toNat = 86400000 := rfl
  have htotal : t.msecTotal leapSeconds =
      t.gloFourYear.toNat * 1461 * 86400000 + t.gloDays.toNat * 86400000 + t.gloMsec.toNat +
        (504392400000 + leapSeconds.toNat * 1000) := by
    unfold GnssGloTimeStruct.msecTotal gpsGlonassDaysDiff glonassDaysIn4Years glonassUtcOffsetHours
    rw [hday, Nat.mod_eq_of_lt (by omega)]
  refine ⟨htotal, ?_⟩
  rw [htotal]
  omega

/-- **GLONASS** is right: the milliseconds are those of the instant, and the week and what is left
of them are those of the milliseconds. -/
theorem glonass_instant (t : GnssSystemTime) (h : t.gnssSystemTimeSrc = .glonass)
    (leapSeconds : UInt8) :
    ∃ gps, t.gpsTime (some leapSeconds) = some gps ∧ gps.gpsTimeOfWeekMs.toNat < 604800000 ∧
      (gps.gpsWeek.toNat * 604800000 + gps.gpsTimeOfWeekMs.toNat : Int) =
        t.instantMs leapSeconds := by
  obtain ⟨htotal, hweek⟩ := msecTotal_eq t.gloSystemTime leapSeconds
  have hmod : t.gloSystemTime.msecTotal leapSeconds % 604800000 < 604800000 :=
    Nat.mod_lt _ (by decide)
  refine ⟨⟨UInt16.ofNat (t.gloSystemTime.msecTotal leapSeconds / 604800000),
    UInt32.ofNat (t.gloSystemTime.msecTotal leapSeconds % 604800000)⟩, ?_, ?_, ?_⟩
  · rw [GnssSystemTime.gpsTime, h]
    rfl
  · rwa [UInt32.toNat_ofNat_of_lt' (hmod.trans (by decide))]
  · have hinstant : t.instantMs leapSeconds = t.gloSystemTime.msecTotal leapSeconds := by
      rw [GnssSystemTime.instantMs, h, htotal, epochs.2.2]
      push_cast
      omega
    rw [hinstant, UInt16.toNat_ofNat_of_lt' hweek,
      UInt32.toNat_ofNat_of_lt' (hmod.trans (by decide))]
    omega

/-- A system with weeks. -/
def GnssLocSvSystem.HasWeeks (src : GnssLocSvSystem) : Prop :=
  src = .gps ∨ src = .galileo ∨ src = .bds ∨ src = .qzss

/-- The others are told as they are. -/
theorem gpsTime_of_weeks (t : GnssSystemTime) (h : t.gnssSystemTimeSrc.HasWeeks)
    (leapSeconds : Option UInt8) :
    t.gpsTime leapSeconds = some ⟨t.systemTime.systemWeek, t.systemTime.systemMsec⟩ := by
  unfold GnssSystemTime.gpsTime
  rcases h with h | h | h | h <;> rw [h]

/-- So they are right only where the epoch is the one of GPS. -/
theorem weeks_instant_iff (t : GnssSystemTime) (h : t.gnssSystemTimeSrc.HasWeeks)
    (leapSeconds : UInt8) :
    (t.systemTime.systemWeek.toNat * 604800000 + t.systemTime.systemMsec.toNat : Int) =
        t.instantMs leapSeconds ↔
      t.gnssSystemTimeSrc ≠ .galileo ∧ t.gnssSystemTimeSrc ≠ .bds := by
  rcases h with h | h | h | h
  · simp [GnssSystemTime.instantMs, h, sinceGps_gps]
  · simp only [GnssSystemTime.instantMs, h, GnssSystemTimeStruct.sinceGps, epochs.1]
    refine ⟨fun heq => ?_, fun hne => absurd rfl hne.1⟩
    omega
  · simp only [GnssSystemTime.instantMs, h, GnssSystemTimeStruct.sinceGps, epochs.2.1]
    refine ⟨fun heq => ?_, fun hne => absurd rfl hne.2⟩
    omega
  · simp [GnssSystemTime.instantMs, h, sinceGps_gps]

/-- A valid time is one of a system with weeks, or of GLONASS. -/
theorem GnssSystemTime.Valid.cases {t : GnssSystemTime} {leapSeconds : Option UInt8}
    (h : t.Valid leapSeconds) :
    (t.gnssSystemTimeSrc.HasWeeks ∧ t.systemTime.systemMsec.toNat < 604800000) ∨
      (t.gnssSystemTimeSrc = .glonass ∧ ∃ leap, leapSeconds = some leap) := by
  unfold Valid at h
  cases hsrc : t.gnssSystemTimeSrc with
  | gps => exact .inl ⟨.inl rfl, by rwa [hsrc] at h⟩
  | galileo => exact .inl ⟨.inr (.inl rfl), by rwa [hsrc] at h⟩
  | bds => exact .inl ⟨.inr (.inr (.inl rfl)), by rwa [hsrc] at h⟩
  | qzss => exact .inl ⟨.inr (.inr (.inr rfl)), by rwa [hsrc] at h⟩
  | glonass =>
    rw [hsrc] at h
    exact .inr ⟨rfl, Option.isSome_iff_exists.mp h.1⟩
  | unknown | sbas | navic =>
    rw [hsrc] at h
    exact h.elim

/-- **The time of an injected position** is the instant of the fix, unless the fix has a time of
Galileo or of BDS: these are taken for times of GPS. -/
theorem injected_instant_iff (info : GnssLocationInfo) (onDemandCpi : Bool)
    (h : info.gnssSystemTime.Valid info.leapSeconds) :
    SameInstant info (injectPosition info onDemandCpi) ↔
      info.gnssSystemTime.gnssSystemTimeSrc ≠ .galileo ∧
        info.gnssSystemTime.gnssSystemTimeSrc ≠ .bds := by
  rcases h.cases with ⟨hweeks, hmsec⟩ | ⟨hglonass, leapSeconds, hleap⟩
  · have hgps : (injectPosition info onDemandCpi).gpsTime = some
        ⟨info.gnssSystemTime.systemTime.systemWeek, info.gnssSystemTime.systemTime.systemMsec⟩ :=
      gpsTime_of_weeks _ hweeks _
    rw [← weeks_instant_iff _ hweeks (info.leapSeconds.getD 0)]
    constructor
    · rintro ⟨t, ht, -, hinstant⟩
      obtain rfl := Option.some.inj (hgps.symm.trans ht)
      exact hinstant
    · intro hinstant
      exact ⟨_, hgps, hmsec, hinstant⟩
  · refine ⟨fun _ => by rw [hglonass]; exact ⟨nofun, nofun⟩, fun _ => ?_⟩
    obtain ⟨gps, hgps, hless, hinstant⟩ := glonass_instant _ hglonass leapSeconds
    refine ⟨gps, ?_, hless, ?_⟩
    · rw [← hgps, ← hleap]
      rfl
    · rw [hinstant, hleap]
      rfl

/-! ## A fix in Galileo time -/

/-- A fix with a time, and nothing else. -/
def fixAt (t : GnssSystemTime) (leapSeconds : Option UInt8) : GnssLocationInfo :=
  ⟨⟨0, none, none, none, none, none, false⟩, t, leapSeconds, none, none, none, none, none, none,
    none⟩

/-- The first week of Galileo is taken for the first one of GPS. -/
theorem galileo_for_gps :
    ¬SameInstant (fixAt ⟨.galileo, ⟨0, 0⟩, ⟨0, 0, 0⟩⟩ none)
      (injectPosition (fixAt ⟨.galileo, ⟨0, 0⟩, ⟨0, 0, 0⟩⟩ none) false) := by
  rintro ⟨t, ht, -, hinstant⟩
  obtain rfl := Option.some.inj ht
  revert hinstant
  decide +kernel

/-- The first day of GLONASS. -/
theorem injected_instant_sample :
    SameInstant (fixAt ⟨.glonass, ⟨0, 0⟩, ⟨0, 1, 0⟩⟩ (some 11))
      (injectPosition (fixAt ⟨.glonass, ⟨0, 0⟩, ⟨0, 1, 0⟩⟩ (some 11)) false) :=
  (injected_instant_iff (fixAt ⟨.glonass, ⟨0, 0⟩, ⟨0, 1, 0⟩⟩ (some 11)) false
    ⟨rfl, by decide, by decide⟩).mpr ⟨nofun, nofun⟩

end LocationStack.LocApi
