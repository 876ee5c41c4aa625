import LocationStack.Fidl.LocFaithful
import LocationStack.Fidl.MeasReport

/-! # The conversion of reports

The four reports that `LocLcaIdlConverter` makes are faithful exactly if what the client reports has
none of what the converter loses (`reports_faithful_iff`).
-/
namespace LocationStack
namespace Fidl

/-- **The reports of the FIDL are faithful** to those of the client exactly if these can be
converted; one of signals always can. -/
theorem reports_faithful_iff (loc : GnssLocation) (svs : List GnssSv) (meas : GnssMeasurements)
    (data : GnssData) :
    (LocFaithful loc (parseLocReport loc) ↔ LocConvertible loc) ∧
      (ListFaithful SvFaithful maxSvs svs (handleGnssSvReport svs) ↔ SvsConvertible svs) ∧
      (MeasurementsFaithful meas (parseMeasurements meas) ↔ MeasurementsConvertible meas) ∧
      DataFaithful data (parseGnssData data) :=
  ⟨parseLocReport_faithful_iff loc, handleGnssSvReport_faithful_iff svs,
    parseMeasurements_faithful_iff meas, parseGnssData_faithful data⟩

/-- A report with one flag, that of the northern velocity's deviation. -/
def northVelUncReport : GnssLocation :=
  { (default : GnssLocation) with gnssInfoFlags := 1#64 <<< 19 }

/-- The report of the FIDL marks the deviation of the upward velocity. -/
theorem northVelUnc_lost :
    (parseLocReport northVelUncReport).value.locationInfoFlags = 1#32 <<< 20 ∧
      ¬∀ (loc : GnssLocation) (svs : List GnssSv) (meas : GnssMeasurements) (data : GnssData),
        LocFaithful loc (parseLocReport loc) ∧
          ListFaithful SvFaithful maxSvs svs (handleGnssSvReport svs) ∧
          MeasurementsFaithful meas (parseMeasurements meas) ∧
          DataFaithful data (parseGnssData data) := by
  refine ⟨by decide, fun h => ?_⟩
  have hloc := (h northVelUncReport [] ⟨⟨0, 0, 0, 0, 0, 0, 0, 0, 0, 0, 0, 0, 0, 0⟩, [], false⟩
    ⟨default, default, default⟩).1
  have hflag := ((parseLocReport_faithful_iff northVelUncReport).mp hloc).info.northVelUnc
  exact absurd hflag (by decide)

end Fidl
end LocationStack
