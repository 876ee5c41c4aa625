import LocationStack.PbConv.Antenna
import LocationStack.PbConv.EphReports

/-! # What was encoded is decoded again

The protobuf library carries the fields as they are.  What can get lost is lost in the
converters: an enumerator or a flag without a counterpart, a number that does not fit its field,
a size that does not fit the integer it is counted with.
-/
namespace LocationStack
namespace PbConv

/-! ## Ephemeris and antenna reports -/

/-- **Ephemeris and antenna reports survive.**  The ephemerides of the constellation come back in
order, with their numbers and the time; the antennas come back with every entry of their
matrices. -/
theorem ephemeris_and_antenna_reports_survive {h : Header} {r : GnssSvEphemerisReport h}
    (hr : r.WithinCapacity) (old : GnssSvEphemerisReport h) {a : AntennaInformation}
    (ha : a.Fits) :
    r.Same (pbConvertToGnssEphNotif (convertGnssEphNotifToPB r) old).value ∧
      (pbConvertToAntennaInfo (convertAntennaInfoToPB a) ⟨[]⟩).value = a :=
  ⟨hr.same old, ha.value_convert ⟨[]⟩⟩

/-- One GLONASS satellite, and an antenna with a matrix of two rows and one column. -/
theorem ephemeris_and_antenna_reports_survive_sample :
    let r : GnssSvEphemerisReport Header.small :=
      { (default : GnssSvEphemerisReport Header.small) with
        gnssConstellation := .glonass
        ephInfo := { (default : EphInfo Header.small) with
          glonassEphemeris := ⟨1, .replicate 2 default⟩ } }
    let a : AntennaInformation :=
      ⟨[{ (default : GnssAntennaInformation) with signalGainCorrectionDbi := [[1], [2]] }]⟩
    r.Same (pbConvertToGnssEphNotif (convertGnssEphNotifToPB r) default).value ∧
      (pbConvertToAntennaInfo (convertAntennaInfoToPB a) ⟨[]⟩).value = a := by
  intro r a
  have hempty : MatrixFits [] := ⟨⟨0, by simp [Rectangular]⟩, by decide, by decide⟩
  have hmatrix : MatrixFits [[1], [2]] := ⟨⟨1, by simp [Rectangular]⟩, by decide, by decide⟩
  have hr : r.WithinCapacity := by
    change (1 : BitVec 16).toNat ≤ 2
    decide
  have ha : a.Fits := by
    refine ⟨by decide, fun x hx => ?_⟩
    rw [List.mem_singleton.mp hx]
    exact ⟨hempty, hempty, hmatrix, hempty⟩
  exact ephemeris_and_antenna_reports_survive hr default ha

/-- An antenna with one matrix. -/
def oneMatrix (doubleArrays : List (List Double)) : AntennaInformation :=
  ⟨[{ (default : GnssAntennaInformation) with signalGainCorrectionDbi := doubleArrays }]⟩

/-- Rows whose number is zero in 32 bits are lost. -/
theorem value_convert_of_rows {doubleArrays : List (List Double)}
    (h : uint32Size doubleArrays.length = 0) :
    (pbConvertTo2DimensionDoubleVector (convert2DimensionDoubleVectorToPB doubleArrays) []).value =
      [] := by
  have hencode : convert2DimensionDoubleVectorToPB doubleArrays = ⟨0, 0, []⟩ := by
    rw [convert2DimensionDoubleVectorToPB, h]
    rfl
  rw [hencode]
  rfl

/-- So are the entries of a row whose length is zero in 32 bits. -/
theorem value_convert_of_columns {doubles : List Double} (h : uint32Size doubles.length = 0) :
    (pbConvertTo2DimensionDoubleVector (convert2DimensionDoubleVectorToPB [doubles]) []).value =
      [[]] := by
  have hencode : convert2DimensionDoubleVectorToPB [doubles] = ⟨1, 0, []⟩ := by
    have hrow : addRow (0, []) doubles = (0, []) := by
      rw [addRow, h]
      rfl
    change (⟨1, UInt32.ofNat (addRow (0, []) doubles).1, (addRow (0, []) doubles).2⟩ :
      PB2DimensionDoubleVector) = _
    rw [hrow]
    rfl
  rw [hencode]
  rfl

theorem value_convert_oneMatrix (doubleArrays : List (List Double)) :
    (pbConvertToAntennaInfo (convertAntennaInfoToPB (oneMatrix doubleArrays)) ⟨[]⟩).value =
      oneMatrix (pbConvertTo2DimensionDoubleVector
        (convert2DimensionDoubleVectorToPB doubleArrays) []).value := rfl

theorem oneMatrix_inj {m m' : List (List Double)} (h : oneMatrix m = oneMatrix m') : m = m' := by
  have hhead := congrArg (fun a => (a.antennaInfos.headD default).signalGainCorrectionDbi) h
  exact hhead

theorem value_convert_of_antennas {antennaInfos : List GnssAntennaInformation}
    (h : intRounds antennaInfos.length = 0) :
    (pbConvertToAntennaInfo (convertAntennaInfoToPB ⟨antennaInfos⟩) ⟨[]⟩).value = ⟨[]⟩ := by
  have hencode : convertAntennaInfoToPB ⟨antennaInfos⟩ = ⟨[]⟩ := by
    rw [convertAntennaInfoToPB, h]
    rfl
  rw [hencode]
  rfl

theorem replicate_ne_nil {α : Type} {n : Nat} {x : α} (hn : n ≠ 0) : List.replicate n x ≠ [] := by
  intro h
  have hlen := congrArg List.length h
  rw [List.length_replicate] at hlen
  exact hn hlen

/-- The sizes are cut to the integers that count them: `2 ^ 31` antennas are none to an `int`;
`2 ^ 32` rows, or as many columns, are none to a `uint32_t`. -/
theorem antenna_reports_lost :
    (pbConvertToAntennaInfo (convertAntennaInfoToPB ⟨List.replicate (2 ^ 31) default⟩) ⟨[]⟩).value ≠
        ⟨List.replicate (2 ^ 31) default⟩ ∧
      (pbConvertToAntennaInfo (convertAntennaInfoToPB (oneMatrix (List.replicate (2 ^ 32) [])))
        ⟨[]⟩).value ≠ oneMatrix (List.replicate (2 ^ 32) []) ∧
      (pbConvertToAntennaInfo (convertAntennaInfoToPB (oneMatrix [List.replicate (2 ^ 32) 0]))
        ⟨[]⟩).value ≠ oneMatrix [List.replicate (2 ^ 32) 0] := by
  refine ⟨?_, ?_, ?_⟩
  · rw [value_convert_of_antennas (by rw [List.length_replicate]; decide)]
    intro h
    exact replicate_ne_nil (by decide) (congrArg AntennaInformation.antennaInfos h).symm
  · rw [value_convert_oneMatrix, value_convert_of_rows (by rw [List.length_replicate]; decide)]
    intro h
    exact replicate_ne_nil (by decide) (oneMatrix_inj h).symm
  · rw [value_convert_oneMatrix, value_convert_of_columns (by rw [List.length_replicate]; decide)]
    intro h
    exact replicate_ne_nil (by decide) (List.head_eq_of_cons_eq (oneMatrix_inj h)).symm

end PbConv
end LocationStack
