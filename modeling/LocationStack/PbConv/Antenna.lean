import LocationStack.PbConv.Common

/-! # Antenna reports

A report describes the antennas of the receiver, each with four matrices of corrections.  In the
message the entries of a matrix are one repeated field, row after row, beside the number of the
rows and that of the columns, which is the length of the last row.  The decoder takes the entry
of row `i` and column `j` from `i * column + j`, computed in 32 bits.
-/
namespace LocationStack
namespace PbConv

structure GnssCoordinate where
  x : Double
  xUncertainty : Double
  y : Double
  yUncertainty : Double
  z : Double
  zUncertainty : Double
  deriving Inhabited

/-- The message has the fields of the structure. -/
abbrev PBGnssCoordinate := GnssCoordinate

def convertGnssCoordinateToPB (gnssCoordinate : GnssCoordinate) : PBGnssCoordinate where
  x := gnssCoordinate.x
  xUncertainty := gnssCoordinate.xUncertainty
  y := gnssCoordinate.y
  yUncertainty := gnssCoordinate.yUncertainty
  z := gnssCoordinate.z
  zUncertainty := gnssCoordinate.zUncertainty

def pbConvertToGnssCoordinate (pb : PBGnssCoordinate) : GnssCoordinate where
  x := pb.x
  xUncertainty := pb.xUncertainty
  y := pb.y
  yUncertainty := pb.yUncertainty
  z := pb.z
  zUncertainty := pb.zUncertainty

/-! ## Matrices -/

structure PB2DimensionDoubleVector where
  row : UInt32
  column : UInt32
  value : List Double
  deriving Inhabited

/-- The column number and the entries after one more row. -/
def addRow (acc : Nat × List Double) (doubles : List Double) : Nat × List Double :=
  let column := uint32Size doubles.length
  (column, acc.2 ++ doubles.take column)

def convert2DimensionDoubleVectorToPB (doubleArrays : List (List Double)) :
    PB2DimensionDoubleVector :=
  let row := uint32Size doubleArrays.length
  let acc := (doubleArrays.take row).foldl addRow (0, [])
  { row := UInt32.ofNat row, column := UInt32.ofNat acc.1, value := acc.2 }

/-- The round `i` of the outer loop. -/
def pbConvertToDoubleVector (pb : PB2DimensionDoubleVector) (i : Nat) : Logged (List Double) :=
  Logged.push pb.column.toNat
    (fun j => Logged.read pb.value ((i * pb.column.toNat + j) % 2 ^ 32)) []

def pbConvertTo2DimensionDoubleVector (pb : PB2DimensionDoubleVector) :
    List (List Double) → Logged (List (List Double)) :=
  Logged.push pb.row.toNat (pbConvertToDoubleVector pb)

/-- There is an entry for each row and column.  More than `2 ^ 32` would be asked for more than
once, and a message does not hold as many. -/
def PB2DimensionDoubleVector.Fits (pb : PB2DimensionDoubleVector) : Prop :=
  min (pb.row.toNat * pb.column.toNat) (2 ^ 32) ≤ pb.value.length

/-- The places of the entries are those below the product. -/
theorem forall_entry_iff {row column : Nat} {P : Nat → Prop} :
    (∀ i < row, ∀ j < column, P (i * column + j)) ↔ ∀ k < row * column, P k := by
  constructor
  · intro h k hk
    have hpos : 0 < column := by
      rcases Nat.eq_zero_or_pos column with rfl | hpos
      · simp at hk
      · exact hpos
    have hplace := h (k / column) (Nat.div_lt_of_lt_mul (by rwa [Nat.mul_comm])) (k % column)
      (Nat.mod_lt k hpos)
    rwa [Nat.mul_comm, Nat.div_add_mod] at hplace
  · intro h i hi j hj
    refine h _ ?_
    calc i * column + j < i * column + column := Nat.add_lt_add_left hj _
      _ = (i + 1) * column := (Nat.succ_mul i column).symm
      _ ≤ row * column := Nat.mul_le_mul_right column hi

theorem forall_mod_lt_iff {n m size : Nat} (hm : 0 < m) :
    (∀ k < n, k % m < size) ↔ min n m ≤ size := by
  constructor
  · intro h
    refine Nat.le_of_not_lt fun hlt => ?_
    have hn : size < n := Nat.lt_of_lt_of_le hlt (Nat.min_le_left n m)
    have hsize : size < m := Nat.lt_of_lt_of_le hlt (Nat.min_le_right n m)
    have hat := h size hn
    rw [Nat.mod_eq_of_lt hsize] at hat
    exact absurd hat (Nat.lt_irrefl size)
  · intro h k hk
    refine Nat.lt_of_lt_of_le ?_ h
    exact Nat.lt_min.mpr ⟨Nat.lt_of_le_of_lt (Nat.mod_le k m) hk, Nat.mod_lt k hm⟩

theorem inBounds_pbConvertTo2DimensionDoubleVector (pb : PB2DimensionDoubleVector)
    (doubleArrays : List (List Double)) :
    (pbConvertTo2DimensionDoubleVector pb doubleArrays).InBounds ↔ pb.Fits := by
  simp only [pbConvertTo2DimensionDoubleVector, pbConvertToDoubleVector, Logged.inBounds_push,
    Logged.inBounds_read]
  calc (∀ i < pb.row.toNat, ∀ j < pb.column.toNat,
          (i * pb.column.toNat + j) % 2 ^ 32 < pb.value.length)
      ↔ ∀ k < pb.row.toNat * pb.column.toNat, k % 2 ^ 32 < pb.value.length :=
        forall_entry_iff (P := fun k => k % 2 ^ 32 < pb.value.length)
    _ ↔ pb.Fits := forall_mod_lt_iff (by decide)

/-! ## Antennas -/

structure GnssAntennaInformation where
  carrierFrequencyMHz : Double
  phaseCenterOffsetCoordinateMillimeters : GnssCoordinate
  phaseCenterVariationCorrectionMillimeters : List (List Double)
  phaseCenterVariationCorrectionUncertaintyMillimeters : List (List Double)
  signalGainCorrectionDbi : List (List Double)
  signalGainCorrectionUncertaintyDbi : List (List Double)
  deriving Inhabited

structure PBGnssAntennaInformation where
  carrierFrequencyMHz : Double
  phaseCenterOffsetCoordinateMillimeters : PBGnssCoordinate
  phaseCenterVariationCorrectionMillimeters : PB2DimensionDoubleVector
  phaseCenterVariationCorrectionUncertaintyMillimeters : PB2DimensionDoubleVector
  signalGainCorrectionDbi : PB2DimensionDoubleVector
  signalGainCorrectionUncertaintyDbi : PB2DimensionDoubleVector
  deriving Inhabited

structure AntennaInformation where
  antennaInfos : List GnssAntennaInformation
  deriving Inhabited

structure PBAntennaInformation where
  antennaInfos : List PBGnssAntennaInformation
  deriving Inhabited

def convertGnssAntennaInformationToPB (gnssAntennaInfo : GnssAntennaInformation) :
    PBGnssAntennaInformation where
  carrierFrequencyMHz := gnssAntennaInfo.carrierFrequencyMHz
  phaseCenterOffsetCoordinateMillimeters :=
    convertGnssCoordinateToPB gnssAntennaInfo.phaseCenterOffsetCoordinateMillimeters
  phaseCenterVariationCorrectionMillimeters :=
    convert2DimensionDoubleVectorToPB gnssAntennaInfo.phaseCenterVariationCorrectionMillimeters
  phaseCenterVariationCorrectionUncertaintyMillimeters :=
    convert2DimensionDoubleVectorToPB
      gnssAntennaInfo.phaseCenterVariationCorrectionUncertaintyMillimeters
  signalGainCorrectionDbi :=
    convert2DimensionDoubleVectorToPB gnssAntennaInfo.signalGainCorrectionDbi
  signalGainCorrectionUncertaintyDbi :=
    convert2DimensionDoubleVectorToPB gnssAntennaInfo.signalGainCorrectionUncertaintyDbi

def convertAntennaInfoToPB (antennaInfo : AntennaInformation) : PBAntennaInformation where
  antennaInfos :=
    (antennaInfo.antennaInfos.take (intRounds antennaInfo.antennaInfos.length)).map
      convertGnssAntennaInformationToPB

/-- The structure is a new one, with empty matrices. -/
def pbConvertToGnssAntennaInformaiton (pb : PBGnssAntennaInformation) :
    Logged GnssAntennaInformation := do
  let phaseCenterVariationCorrectionMillimeters ←
    pbConvertTo2DimensionDoubleVector pb.phaseCenterVariationCorrectionMillimeters []
  let phaseCenterVariationCorrectionUncertaintyMillimeters ←
    pbConvertTo2DimensionDoubleVector pb.phaseCenterVariationCorrectionUncertaintyMillimeters []
  let signalGainCorrectionDbi ← pbConvertTo2DimensionDoubleVector pb.signalGainCorrectionDbi []
  let signalGainCorrectionUncertaintyDbi ←
    pbConvertTo2DimensionDoubleVector pb.signalGainCorrectionUncertaintyDbi []
  pure
    { carrierFrequencyMHz := pb.carrierFrequencyMHz
      phaseCenterOffsetCoordinateMillimeters :=
        pbConvertToGnssCoordinate pb.phaseCenterOffsetCoordinateMillimeters
      phaseCenterVariationCorrectionMillimeters
      phaseCenterVariationCorrectionUncertaintyMillimeters
      signalGainCorrectionDbi
      signalGainCorrectionUncertaintyDbi }

def pbConvertToAntennaInfo (pb : PBAntennaInformation) (antennaInfo : AntennaInformation) :
    Logged AntennaInformation := do
  let antennaInfos ← Logged.append (intRounds pb.antennaInfos.length) pb.antennaInfos
    pbConvertToGnssAntennaInformaiton antennaInfo.antennaInfos
  pure { antennaInfos }

/-- The four matrices fit. -/
structure PBGnssAntennaInformation.Fits (pb : PBGnssAntennaInformation) : Prop where
  phaseCenterVariationCorrection : pb.phaseCenterVariationCorrectionMillimeters.Fits
  phaseCenterVariationCorrectionUncertainty :
    pb.phaseCenterVariationCorrectionUncertaintyMillimeters.Fits
  signalGainCorrection : pb.signalGainCorrectionDbi.Fits
  signalGainCorrectionUncertainty : pb.signalGainCorrectionUncertaintyDbi.Fits

def PBAntennaInformation.Fits (pb : PBAntennaInformation) : Prop :=
  ∀ x ∈ pb.antennaInfos.take (intRounds pb.antennaInfos.length), x.Fits

theorem inBounds_pbConvertToGnssAntennaInformaiton (pb : PBGnssAntennaInformation) :
    (pbConvertToGnssAntennaInformaiton pb).InBounds ↔ pb.Fits := by
  simp only [pbConvertToGnssAntennaInformaiton, Logged.inBounds_bind, Logged.inBounds_pure,
    inBounds_pbConvertTo2DimensionDoubleVector, and_true]
  constructor
  · rintro ⟨h, h', h'', h'''⟩
    exact ⟨h, h', h'', h'''⟩
  · rintro ⟨h, h', h'', h'''⟩
    exact ⟨h, h', h'', h'''⟩

theorem inBounds_pbConvertToAntennaInfo (pb : PBAntennaInformation)
    (antennaInfo : AntennaInformation) :
    (pbConvertToAntennaInfo pb antennaInfo).InBounds ↔ pb.Fits := by
  rw [pbConvertToAntennaInfo, Logged.inBounds_bind,
    Logged.inBounds_append inBounds_pbConvertToGnssAntennaInformaiton]
  simp only [Logged.inBounds_pure, and_true]
  exact and_iff_right (intRounds_le _)

/-! ## Round trip -/

/-- The rows have one length. -/
def Rectangular (column : Nat) (doubleArrays : List (List Double)) : Prop :=
  ∀ doubles ∈ doubleArrays, doubles.length = column

theorem getElem?_flatten_of_rectangular {column : Nat} {doubleArrays : List (List Double)}
    (h : Rectangular column doubleArrays) (i : Nat) {j : Nat} (hj : j < column) :
    doubleArrays.flatten[i * column + j]? = doubleArrays[i]?.bind (·[j]?) := by
  induction doubleArrays generalizing i with
  | nil => simp
  | cons doubles doubleArrays ih =>
    have hlen : doubles.length = column := h doubles List.mem_cons_self
    have hrest : Rectangular column doubleArrays :=
      fun d hd => h d (List.mem_cons_of_mem doubles hd)
    rw [List.flatten_cons]
    cases i with
    | zero =>
      rw [Nat.zero_mul, Nat.zero_add, List.getElem?_append_left (by omega)]
      rfl
    | succ i =>
      have hplace : (i + 1) * column + j - doubles.length = i * column + j := by
        rw [hlen, Nat.succ_mul]
        omega
      have hle : doubles.length ≤ (i + 1) * column + j := by
        rw [hlen, Nat.succ_mul]
        omega
      rw [List.getElem?_append_right hle, hplace, ih hrest]
      rfl

theorem length_flatten_of_rectangular {column : Nat} {doubleArrays : List (List Double)}
    (h : Rectangular column doubleArrays) :
    doubleArrays.flatten.length = doubleArrays.length * column := by
  induction doubleArrays with
  | nil => simp
  | cons doubles doubleArrays ih =>
    have hlen : doubles.length = column := h doubles List.mem_cons_self
    have hrest := ih fun d hd => h d (List.mem_cons_of_mem doubles hd)
    rw [List.flatten_cons, List.length_append, hrest, hlen, List.length_cons, Nat.succ_mul,
      Nat.add_comm]

theorem foldl_addRow {column : Nat} (hcolumn : column < 2 ^ 32) {doubleArrays : List (List Double)}
    (h : Rectangular column doubleArrays) (acc : Nat × List Double) :
    doubleArrays.foldl addRow acc =
      (if doubleArrays = [] then acc.1 else column, acc.2 ++ doubleArrays.flatten) := by
  induction doubleArrays generalizing acc with
  | nil => simp
  | cons doubles doubleArrays ih =>
    have hlen : doubles.length = column := h doubles List.mem_cons_self
    have hrow : addRow acc doubles = (column, acc.2 ++ doubles) := by
      rw [addRow, hlen, uint32Size_of_lt hcolumn, ← hlen, List.take_length]
    rw [List.foldl_cons, hrow, ih fun d hd => h d (List.mem_cons_of_mem doubles hd)]
    simp

/-- **A matrix that was encoded is decoded again**, entry by entry, if its rows have one length and
32 bits are enough for the numbers of its rows and of its entries. -/
theorem pbConvertTo2DimensionDoubleVector_convertToPB {column : Nat}
    {doubleArrays : List (List Double)} (h : Rectangular column doubleArrays)
    (hrows : doubleArrays.length < 2 ^ 32) (hentries : doubleArrays.flatten.length < 2 ^ 32) :
    (pbConvertTo2DimensionDoubleVector (convert2DimensionDoubleVectorToPB doubleArrays) []).value =
      doubleArrays := by
  rcases eq_or_ne doubleArrays [] with rfl | hpos
  · rfl
  have hlen := length_flatten_of_rectangular h
  have hcolumn : column < 2 ^ 32 := by
    have hle : column ≤ doubleArrays.length * column :=
      Nat.le_mul_of_pos_left column (List.length_pos_of_ne_nil hpos)
    omega
  have hencode : convert2DimensionDoubleVectorToPB doubleArrays =
      ⟨UInt32.ofNat doubleArrays.length, UInt32.ofNat column, doubleArrays.flatten⟩ := by
    rw [convert2DimensionDoubleVectorToPB, uint32Size_of_lt hrows, List.take_length,
      foldl_addRow hcolumn h, if_neg hpos]
    rfl
  have hrow : (UInt32.ofNat doubleArrays.length).toNat = doubleArrays.length :=
    UInt32.toNat_ofNat_of_lt' hrows
  have hcol : (UInt32.ofNat column).toNat = column := UInt32.toNat_ofNat_of_lt' hcolumn
  rw [hencode, pbConvertTo2DimensionDoubleVector, Logged.value_push, List.nil_append, hrow]
  apply List.ext_getElem
  · simp
  intro i hi hi'
  simp only [List.getElem_map, List.getElem_range, pbConvertToDoubleVector, Logged.value_push,
    List.nil_append, hcol, Logged.value_read]
  have hwidth : doubleArrays[i].length = column := h _ (List.getElem_mem hi')
  apply List.ext_getElem
  · simp [hwidth]
  intro j hj hj'
  have hlt : j < column := by omega
  have hplace : i * column + j < 2 ^ 32 := by
    have hnext : i * column + j < (i + 1) * column := by
      rw [Nat.succ_mul]
      omega
    have hle : (i + 1) * column ≤ doubleArrays.length * column := Nat.mul_le_mul_right column hi'
    omega
  have hget := getElem?_flatten_of_rectangular h i hlt
  simp only [List.getElem_map, List.getElem_range, Nat.mod_eq_of_lt hplace,
    List.getD_eq_getElem?_getD, hget]
  simp [hi', hj']

/-- The rows have one length, and 32 bits are enough for the numbers of rows and of entries. -/
structure MatrixFits (doubleArrays : List (List Double)) : Prop where
  rectangular : ∃ column, Rectangular column doubleArrays
  row : doubleArrays.length < 2 ^ 32
  value : doubleArrays.flatten.length < 2 ^ 32

structure GnssAntennaInformation.Fits (a : GnssAntennaInformation) : Prop where
  phaseCenterVariationCorrection : MatrixFits a.phaseCenterVariationCorrectionMillimeters
  phaseCenterVariationCorrectionUncertainty :
    MatrixFits a.phaseCenterVariationCorrectionUncertaintyMillimeters
  signalGainCorrection : MatrixFits a.signalGainCorrectionDbi
  signalGainCorrectionUncertainty : MatrixFits a.signalGainCorrectionUncertaintyDbi

structure AntennaInformation.Fits (a : AntennaInformation) : Prop where
  length_lt : a.antennaInfos.length < 2 ^ 31
  antennaInfos : ∀ x ∈ a.antennaInfos, x.Fits

theorem MatrixFits.value_convert {doubleArrays : List (List Double)} (h : MatrixFits doubleArrays) :
    (pbConvertTo2DimensionDoubleVector (convert2DimensionDoubleVectorToPB doubleArrays) []).value =
      doubleArrays := by
  obtain ⟨column, hrectangular⟩ := h.rectangular
  exact pbConvertTo2DimensionDoubleVector_convertToPB hrectangular h.row h.value

theorem GnssAntennaInformation.Fits.value_convert {a : GnssAntennaInformation} (h : a.Fits) :
    (pbConvertToGnssAntennaInformaiton (convertGnssAntennaInformationToPB a)).value = a := by
  simp only [pbConvertToGnssAntennaInformaiton, convertGnssAntennaInformationToPB,
    Logged.value_bind, Logged.value_pure, h.phaseCenterVariationCorrection.value_convert,
    h.phaseCenterVariationCorrectionUncertainty.value_convert,
    h.signalGainCorrection.value_convert, h.signalGainCorrectionUncertainty.value_convert]
  rfl

/-- **The antennas that were encoded are decoded again**, behind those that the structure held
before. -/
theorem AntennaInformation.Fits.value_convert {a : AntennaInformation} (h : a.Fits)
    (old : AntennaInformation) :
    (pbConvertToAntennaInfo (convertAntennaInfoToPB a) old).value =
      ⟨old.antennaInfos ++ a.antennaInfos⟩ := by
  have hencode : (convertAntennaInfoToPB a).antennaInfos =
      a.antennaInfos.map convertGnssAntennaInformationToPB := by
    rw [convertAntennaInfoToPB, intRounds_of_lt h.length_lt, List.take_length]
  have hlen : (convertAntennaInfoToPB a).antennaInfos.length < 2 ^ 31 := by
    rw [hencode, List.length_map]
    exact h.length_lt
  have hall : a.antennaInfos.map (fun x =>
      (pbConvertToGnssAntennaInformaiton (convertGnssAntennaInformationToPB x)).value) =
        a.antennaInfos :=
    (List.map_congr_left fun x hx => (h.antennaInfos x hx).value_convert).trans (List.map_id' _)
  rw [pbConvertToAntennaInfo, Logged.value_bind, intRounds_of_lt hlen,
    Logged.value_append (Nat.le_refl _), List.take_length, hencode, List.map_map]
  exact congrArg (fun l => (⟨old.antennaInfos ++ l⟩ : AntennaInformation)) hall


end PbConv
end LocationStack
