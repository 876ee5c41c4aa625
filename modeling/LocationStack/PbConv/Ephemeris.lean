import LocationStack.PbConv.Common

/-! # Ephemerides

A report is of one constellation and holds an ephemeris for each of its satellites.  Most of an
ephemeris is common to the constellations.  The integers of a structure are often narrower than
those of the message, which has none below 32 bits.

Here are the conversions of one ephemeris.  Those of GPS also serve for QZSS.
-/
namespace LocationStack
namespace PbConv

/-! ## What is done with an ephemeris -/

inductive GnssEphAction
  | updateSrcUnknown | updateSrcOta | updateSrcNetwork | updateMax
  | deleteSrcUnknown | deleteSrcNetwork | deleteSrcOta | deleteMax
  deriving Repr, DecidableEq, Inhabited

inductive PBGnssEphAction
  | updateSrcUnknown | updateSrcOta | updateSrcNetwork | updateMax
  | deleteSrcUnknown | deleteSrcNetwork | deleteSrcOta | deleteMax
  | unrecognized (value : BitVec 32)
  deriving Repr, DecidableEq, Inhabited

def getPBEphAction : GnssEphAction → PBGnssEphAction
  | .updateSrcUnknown => .updateSrcUnknown
  | .updateSrcOta => .updateSrcOta
  | .updateSrcNetwork => .updateSrcNetwork
  | .updateMax => .updateMax
  | .deleteSrcUnknown => .deleteSrcUnknown
  | .deleteSrcNetwork => .deleteSrcNetwork
  | .deleteSrcOta => .deleteSrcOta
  | .deleteMax => .deleteMax

def pbConvertToEphAction : PBGnssEphAction → GnssEphAction
  | .updateSrcUnknown => .updateSrcUnknown
  | .updateSrcOta => .updateSrcOta
  | .updateSrcNetwork => .updateSrcNetwork
  | .updateMax => .updateMax
  | .deleteSrcUnknown => .deleteSrcUnknown
  | .deleteSrcNetwork => .deleteSrcNetwork
  | .deleteSrcOta => .deleteSrcOta
  | .deleteMax => .deleteMax
  | .unrecognized _ => .updateSrcUnknown

@[simp] theorem pbConvertToEphAction_getPBEphAction (a : GnssEphAction) :
    pbConvertToEphAction (getPBEphAction a) = a := by
  cases a <;> rfl

/-! ## The elements common to the constellations -/

structure GnssEphCommon where
  gnssSvId : UInt32
  updateAction : GnssEphAction
  IODE : UInt16
  aSqrt : Double
  deltaN : Double
  m0 : Double
  eccentricity : Double
  omega0 : Double
  i0 : Double
  omega : Double
  omegaDot : Double
  iDot : Double
  cUc : Double
  cUs : Double
  cRc : Double
  cRs : Double
  cIc : Double
  cIs : Double
  toe : UInt32
  toc : UInt32
  af0 : Double
  af1 : Double
  af2 : Double
  deriving Inhabited

structure PBGnssEphCommon where
  gnssSvId : UInt32
  ephAction : PBGnssEphAction
  IODE : UInt32
  aSqrt : Double
  deltaN : Double
  m0 : Double
  eccentricity : Double
  omega0 : Double
  i0 : Double
  omega : Double
  omegaDot : Double
  iDot : Double
  cUc : Double
  cUs : Double
  cRc : Double
  cRs : Double
  cIc : Double
  cIs : Double
  toe : UInt32
  toc : UInt32
  af0 : Double
  af1 : Double
  af2 : Double
  deriving Inhabited

def convertCommanEphToPB (commanEph : GnssEphCommon) : PBGnssEphCommon where
  gnssSvId := commanEph.gnssSvId
  ephAction := getPBEphAction commanEph.updateAction
  IODE := commanEph.IODE.toUInt32
  aSqrt := commanEph.aSqrt
  deltaN := commanEph.deltaN
  m0 := commanEph.m0
  eccentricity := commanEph.eccentricity
  omega0 := commanEph.omega0
  i0 := commanEph.i0
  omega := commanEph.omega
  omegaDot := commanEph.omegaDot
  iDot := commanEph.iDot
  cUc := commanEph.cUc
  cUs := commanEph.cUs
  cRc := commanEph.cRc
  cRs := commanEph.cRs
  cIc := commanEph.cIc
  cIs := commanEph.cIs
  toe := commanEph.toe
  toc := commanEph.toc
  af0 := commanEph.af0
  af1 := commanEph.af1
  af2 := commanEph.af2

def pbConvertToCommanEph (pb : PBGnssEphCommon) : GnssEphCommon where
  gnssSvId := pb.gnssSvId
  updateAction := pbConvertToEphAction pb.ephAction
  IODE := pb.IODE.toUInt16
  aSqrt := pb.aSqrt
  deltaN := pb.deltaN
  m0 := pb.m0
  eccentricity := pb.eccentricity
  omega0 := pb.omega0
  i0 := pb.i0
  omega := pb.omega
  omegaDot := pb.omegaDot
  iDot := pb.iDot
  cUc := pb.cUc
  cUs := pb.cUs
  cRc := pb.cRc
  cRs := pb.cRs
  cIc := pb.cIc
  cIs := pb.cIs
  toe := pb.toe
  toc := pb.toc
  af0 := pb.af0
  af1 := pb.af1
  af2 := pb.af2

@[simp] theorem pbConvertToCommanEph_convertCommanEphToPB (e : GnssEphCommon) :
    pbConvertToCommanEph (convertCommanEphToPB e) = e := by
  simp only [pbConvertToCommanEph, convertCommanEphToPB, pbConvertToEphAction_getPBEphAction,
    UInt16.toUInt16_toUInt32]

/-! ## GPS -/

structure GpsEphemeris where
  commonEphemerisData : GnssEphCommon
  signalHealth : UInt8
  URAI : UInt8
  codeL2 : UInt8
  dataFlagL2P : UInt8
  tgd : Double
  fitInterval : UInt8
  IODC : UInt16
  deriving Inhabited

structure PBGpsEphemeris where
  commonEphemerisData : PBGnssEphCommon
  signalHealth : UInt32
  URAI : UInt32
  codeL2 : UInt32
  dataFlagL2P : UInt32
  tgd : Double
  fitInterval : UInt32
  IODC : UInt32
  deriving Inhabited

def convertGpsEphDataToPB (halEphInfo : GpsEphemeris) : PBGpsEphemeris where
  commonEphemerisData := convertCommanEphToPB halEphInfo.commonEphemerisData
  signalHealth := halEphInfo.signalHealth.toUInt32
  URAI := halEphInfo.URAI.toUInt32
  codeL2 := halEphInfo.codeL2.toUInt32
  dataFlagL2P := halEphInfo.dataFlagL2P.toUInt32
  tgd := halEphInfo.tgd
  fitInterval := halEphInfo.fitInterval.toUInt32
  IODC := halEphInfo.IODC.toUInt32

def pbConvertToGpsEphData (pb : PBGpsEphemeris) : GpsEphemeris where
  commonEphemerisData := pbConvertToCommanEph pb.commonEphemerisData
  signalHealth := pb.signalHealth.toUInt8
  URAI := pb.URAI.toUInt8
  codeL2 := pb.codeL2.toUInt8
  dataFlagL2P := pb.dataFlagL2P.toUInt8
  tgd := pb.tgd
  fitInterval := pb.fitInterval.toUInt8
  IODC := pb.IODC.toUInt16

@[simp] theorem pbConvertToGpsEphData_convertGpsEphDataToPB (e : GpsEphemeris) :
    pbConvertToGpsEphData (convertGpsEphDataToPB e) = e := by
  simp only [pbConvertToGpsEphData, convertGpsEphDataToPB,
    pbConvertToCommanEph_convertCommanEphToPB, UInt8.toUInt8_toUInt32, UInt16.toUInt16_toUInt32]

structure GpsExtendedEphemeris where
  gnssSvId : UInt32
  validityMask : UInt32
  iscL1ca : Single
  iscL2c : Single
  iscL5I5 : Single
  iscL5Q5 : Single
  alert : UInt32
  uraNed0 : UInt32
  uraNed1 : UInt32
  uraNed2 : UInt32
  top : Double
  topClock : UInt32
  validityPeriod : UInt32
  deltaNdot : Double
  deltaA : Double
  adot : Double
  deriving Inhabited

/-- The message has the fields of the structure. -/
abbrev PBGpsExtendedEphemeris := GpsExtendedEphemeris

def convertGpsExtendedEphToPB (extEph : GpsExtendedEphemeris) : PBGpsExtendedEphemeris where
  gnssSvId := extEph.gnssSvId
  validityMask := extEph.validityMask
  iscL1ca := extEph.iscL1ca
  iscL2c := extEph.iscL2c
  iscL5I5 := extEph.iscL5I5
  iscL5Q5 := extEph.iscL5Q5
  alert := extEph.alert
  uraNed0 := extEph.uraNed0
  uraNed1 := extEph.uraNed1
  uraNed2 := extEph.uraNed2
  top := extEph.top
  topClock := extEph.topClock
  validityPeriod := extEph.validityPeriod
  deltaNdot := extEph.deltaNdot
  deltaA := extEph.deltaA
  adot := extEph.adot

def pbConvertToGpsExtendedEph (pb : PBGpsExtendedEphemeris) : GpsExtendedEphemeris where
  gnssSvId := pb.gnssSvId
  validityMask := pb.validityMask
  iscL1ca := pb.iscL1ca
  iscL2c := pb.iscL2c
  iscL5I5 := pb.iscL5I5
  iscL5Q5 := pb.iscL5Q5
  alert := pb.alert
  uraNed0 := pb.uraNed0
  uraNed1 := pb.uraNed1
  uraNed2 := pb.uraNed2
  top := pb.top
  topClock := pb.topClock
  validityPeriod := pb.validityPeriod
  deltaNdot := pb.deltaNdot
  deltaA := pb.deltaA
  adot := pb.adot

/-! ## BDS -/

structure BdsExtendedEphemeris where
  gnssSvId : UInt32
  validityMask : UInt32
  tgdB2a : Single
  iscB2a : Single
  tgdB1c : Single
  iscB1c : Single
  svType : UInt32
  validityPeriod : UInt32
  integrityFlags : UInt32
  deltaNdot : Double
  deltaA : Double
  adot : Double
  deriving Inhabited

/-- The message has the fields of the structure. -/
abbrev PBBdsExtendedEphemeris := BdsExtendedEphemeris

def convertBdsExtendedEphToPB (extEph : BdsExtendedEphemeris) : PBBdsExtendedEphemeris where
  gnssSvId := extEph.gnssSvId
  validityMask := extEph.validityMask
  tgdB2a := extEph.tgdB2a
  iscB2a := extEph.iscB2a
  tgdB1c := extEph.tgdB1c
  iscB1c := extEph.iscB1c
  svType := extEph.svType
  validityPeriod := extEph.validityPeriod
  integrityFlags := extEph.integrityFlags
  deltaNdot := extEph.deltaNdot
  deltaA := extEph.deltaA
  adot := extEph.adot

def pbConvertToBdsExtendedEph (pb : PBBdsExtendedEphemeris) : BdsExtendedEphemeris where
  gnssSvId := pb.gnssSvId
  validityMask := pb.validityMask
  tgdB2a := pb.tgdB2a
  iscB2a := pb.iscB2a
  tgdB1c := pb.tgdB1c
  iscB1c := pb.iscB1c
  svType := pb.svType
  validityPeriod := pb.validityPeriod
  integrityFlags := pb.integrityFlags
  deltaNdot := pb.deltaNdot
  deltaA := pb.deltaA
  adot := pb.adot

structure BdsEphemeris where
  commonEphemerisData : GnssEphCommon
  svHealth : UInt8
  AODC : UInt8
  tgd1 : Double
  tgd2 : Double
  URAI : UInt8
  deriving Inhabited

structure PBBdsEphemeris where
  commonEphemerisData : PBGnssEphCommon
  svHealth : UInt32
  AODC : UInt32
  tgd1 : Double
  tgd2 : Double
  URAI : UInt32
  deriving Inhabited

def convertBdsEphDataToPB (halEphInfo : BdsEphemeris) : PBBdsEphemeris where
  commonEphemerisData := convertCommanEphToPB halEphInfo.commonEphemerisData
  svHealth := halEphInfo.svHealth.toUInt32
  AODC := halEphInfo.AODC.toUInt32
  tgd1 := halEphInfo.tgd1
  tgd2 := halEphInfo.tgd2
  URAI := halEphInfo.URAI.toUInt32

def pbConvertToBdsEphData (pb : PBBdsEphemeris) : BdsEphemeris where
  commonEphemerisData := pbConvertToCommanEph pb.commonEphemerisData
  svHealth := pb.svHealth.toUInt8
  AODC := pb.AODC.toUInt8
  tgd1 := pb.tgd1
  tgd2 := pb.tgd2
  URAI := pb.URAI.toUInt8

@[simp] theorem pbConvertToBdsEphData_convertBdsEphDataToPB (e : BdsEphemeris) :
    pbConvertToBdsEphData (convertBdsEphDataToPB e) = e := by
  simp only [pbConvertToBdsEphData, convertBdsEphDataToPB,
    pbConvertToCommanEph_convertCommanEphToPB, UInt8.toUInt8_toUInt32]

/-! ## GLONASS -/

structure GlonassEphemeris where
  gnssSvId : UInt16
  updateAction : GnssEphAction
  bnHealth : UInt8
  lnHealth : UInt8
  tb : UInt8
  ft : UInt8
  gloM : UInt8
  enAge : UInt8
  gloFrequency : UInt8
  p1 : UInt8
  p2 : UInt8
  deltaTau : Single
  position : Vector Double 3
  velocity : Vector Double 3
  acceleration : Vector Double 3
  tauN : Single
  gamma : Single
  toe : Double
  nt : UInt16
  deriving Inhabited

structure PBGlonassEphemeris where
  gnssSvId : UInt32
  ephAction : PBGnssEphAction
  bnHealth : UInt32
  lnHealth : UInt32
  tb : UInt32
  ft : UInt32
  gloM : UInt32
  enAge : UInt32
  gloFrequency : UInt32
  p1 : UInt32
  p2 : UInt32
  deltaTau : Single
  position : List Double
  velocity : List Double
  acceleration : List Double
  tauN : Single
  gamma : Single
  toe : Double
  nt : UInt32
  deriving Inhabited

def convertGlonassEphDataToPB (halEphInfo : GlonassEphemeris) : PBGlonassEphemeris where
  gnssSvId := halEphInfo.gnssSvId.toUInt32
  ephAction := getPBEphAction halEphInfo.updateAction
  bnHealth := halEphInfo.bnHealth.toUInt32
  lnHealth := halEphInfo.lnHealth.toUInt32
  tb := halEphInfo.tb.toUInt32
  ft := halEphInfo.ft.toUInt32
  gloM := halEphInfo.gloM.toUInt32
  enAge := halEphInfo.enAge.toUInt32
  gloFrequency := halEphInfo.gloFrequency.toUInt32
  p1 := halEphInfo.p1.toUInt32
  p2 := halEphInfo.p2.toUInt32
  deltaTau := halEphInfo.deltaTau
  position := halEphInfo.position.toList
  velocity := halEphInfo.velocity.toList
  acceleration := halEphInfo.acceleration.toList
  tauN := halEphInfo.tauN
  gamma := halEphInfo.gamma
  toe := halEphInfo.toe
  nt := halEphInfo.nt.toUInt32

/-- The round `i` of the loop over the coordinates. -/
def pbConvertToGlonassCoordinates (pb : PBGlonassEphemeris) (i : Nat)
    (halEphInfo : GlonassEphemeris) : Logged GlonassEphemeris := do
  let position ← Logged.write halEphInfo.position i (← Logged.read pb.position i)
  let velocity ← Logged.write halEphInfo.velocity i (← Logged.read pb.velocity i)
  let acceleration ← Logged.write halEphInfo.acceleration i (← Logged.read pb.acceleration i)
  pure { halEphInfo with position, velocity, acceleration }

def pbConvertToGlonassEphData (pb : PBGlonassEphemeris) (halEphInfo : GlonassEphemeris) :
    Logged GlonassEphemeris := do
  let halEphInfo ← Logged.upTo 3 (pbConvertToGlonassCoordinates pb)
    { halEphInfo with
      gnssSvId := pb.gnssSvId.toUInt16
      updateAction := pbConvertToEphAction pb.ephAction
      bnHealth := pb.bnHealth.toUInt8
      lnHealth := pb.lnHealth.toUInt8
      tb := pb.tb.toUInt8
      ft := pb.ft.toUInt8
      gloM := pb.gloM.toUInt8
      enAge := pb.enAge.toUInt8
      gloFrequency := pb.gloFrequency.toUInt8
      p1 := pb.p1.toUInt8
      p2 := pb.p2.toUInt8
      deltaTau := pb.deltaTau }
  pure { halEphInfo with
    tauN := pb.tauN
    gamma := pb.gamma
    toe := pb.toe
    nt := pb.nt.toUInt16 }

/-- The message has the three coordinates of each vector. -/
structure PBGlonassEphemeris.Fits (pb : PBGlonassEphemeris) : Prop where
  position : 3 ≤ pb.position.length
  velocity : 3 ≤ pb.velocity.length
  acceleration : 3 ≤ pb.acceleration.length

theorem inBounds_pbConvertToGlonassEphData (pb : PBGlonassEphemeris)
    (halEphInfo : GlonassEphemeris) :
    (pbConvertToGlonassEphData pb halEphInfo).InBounds ↔ pb.Fits := by
  have hround : ∀ i (e : GlonassEphemeris), (pbConvertToGlonassCoordinates pb i e).InBounds ↔
      i < 3 ∧ i < pb.position.length ∧ i < pb.velocity.length ∧ i < pb.acceleration.length := by
    intro i e
    simp only [pbConvertToGlonassCoordinates, Logged.inBounds_bind, Logged.inBounds_read,
      Logged.inBounds_write, Logged.inBounds_pure]
    tauto
  simp only [pbConvertToGlonassEphData, Logged.inBounds_bind, Logged.inBounds_pure, and_true,
    Logged.inBounds_upTo_iff hround]
  constructor
  · intro h
    have hlast := (h 2 (by decide)).2
    exact ⟨hlast.1, hlast.2.1, hlast.2.2⟩
  · intro h i hi
    exact ⟨hi, Nat.lt_of_lt_of_le hi h.position, Nat.lt_of_lt_of_le hi h.velocity,
      Nat.lt_of_lt_of_le hi h.acceleration⟩

theorem setIfInBounds_three (v old : Vector Double 3) :
    ((old.setIfInBounds 0 (v.toList.getD 0 default)).setIfInBounds 1
      (v.toList.getD 1 default)).setIfInBounds 2 (v.toList.getD 2 default) = v := by
  ext i hi
  have hcases : i = 0 ∨ i = 1 ∨ i = 2 := by omega
  rcases hcases with rfl | rfl | rfl <;> simp

@[simp] theorem pbConvertToGlonassEphData_convertGlonassEphDataToPB
    (e halEphInfo : GlonassEphemeris) :
    (pbConvertToGlonassEphData (convertGlonassEphDataToPB e) halEphInfo).value = e := by
  simp only [pbConvertToGlonassEphData, pbConvertToGlonassCoordinates, Logged.upTo_succ,
    Logged.upTo_zero, Logged.value_bind, Logged.value_pure, Logged.value_write, Logged.value_read,
    convertGlonassEphDataToPB, setIfInBounds_three, pbConvertToEphAction_getPBEphAction,
    UInt8.toUInt8_toUInt32, UInt16.toUInt16_toUInt32]

/-! ## Galileo -/

inductive GalEphSignalSource
  | unknown | e1b | e5a | e5b
  deriving Repr, DecidableEq, Inhabited

inductive PBGalEphSignalSource
  | unknown | e1b | e5a | e5b
  | unrecognized (value : BitVec 32)
  deriving Repr, DecidableEq, Inhabited

def convertDataSignalSourceToPB : GalEphSignalSource → PBGalEphSignalSource
  | .e1b => .e1b
  | .e5a => .e5a
  | .e5b => .e5b
  | .unknown => .unknown

def pbConvertToDataSourceSignal : PBGalEphSignalSource → GalEphSignalSource
  | .e1b => .e1b
  | .e5a => .e5a
  | .e5b => .e5b
  | .unknown | .unrecognized _ => .unknown

@[simp] theorem pbConvertToDataSourceSignal_convertToPB (s : GalEphSignalSource) :
    pbConvertToDataSourceSignal (convertDataSignalSourceToPB s) = s := by
  cases s <;> rfl

structure GalileoEphemeris where
  commonEphemerisData : GnssEphCommon
  dataSourceSignal : GalEphSignalSource
  sisIndex : UInt8
  bgdE1E5a : Double
  bgdE1E5b : Double
  svHealth : UInt8
  deriving Inhabited

structure PBGalileoEphemeris where
  commonEphemerisData : PBGnssEphCommon
  dataSourceSignal : PBGalEphSignalSource
  sisIndex : UInt32
  bgdE1E5a : Double
  bgdE1E5b : Double
  svHealth : UInt32
  deriving Inhabited

def convertGalileoEphDataToPB (halEphInfo : GalileoEphemeris) : PBGalileoEphemeris where
  commonEphemerisData := convertCommanEphToPB halEphInfo.commonEphemerisData
  dataSourceSignal := convertDataSignalSourceToPB halEphInfo.dataSourceSignal
  sisIndex := halEphInfo.sisIndex.toUInt32
  bgdE1E5a := halEphInfo.bgdE1E5a
  bgdE1E5b := halEphInfo.bgdE1E5b
  svHealth := halEphInfo.svHealth.toUInt32

def pbConvertToGalileoEphData (pb : PBGalileoEphemeris) : GalileoEphemeris where
  commonEphemerisData := pbConvertToCommanEph pb.commonEphemerisData
  dataSourceSignal := pbConvertToDataSourceSignal pb.dataSourceSignal
  sisIndex := pb.sisIndex.toUInt8
  bgdE1E5a := pb.bgdE1E5a
  bgdE1E5b := pb.bgdE1E5b
  svHealth := pb.svHealth.toUInt8

@[simp] theorem pbConvertToGalileoEphData_convertGalileoEphDataToPB (e : GalileoEphemeris) :
    pbConvertToGalileoEphData (convertGalileoEphDataToPB e) = e := by
  simp only [pbConvertToGalileoEphData, convertGalileoEphDataToPB,
    pbConvertToCommanEph_convertCommanEphToPB, pbConvertToDataSourceSignal_convertToPB,
    UInt8.toUInt8_toUInt32]

/-! ## NAVIC -/

structure NavicEphemeris where
  commonEphemerisData : GnssEphCommon
  weekNum : UInt32
  iodec : UInt32
  l5Health : UInt32
  sHealth : UInt32
  inclinationAngleRad : Double
  urai : UInt32
  tgd : Double
  deriving Inhabited

structure PBNavicEphemeris where
  commonEphemerisData : PBGnssEphCommon
  weekNum : UInt32
  iodec : UInt32
  l5Health : UInt32
  sHealth : UInt32
  inclinationAngleRad : Double
  urai : UInt32
  tgd : Double
  deriving Inhabited

def convertNavicEphDataToPB (halEphInfo : NavicEphemeris) : PBNavicEphemeris where
  commonEphemerisData := convertCommanEphToPB halEphInfo.commonEphemerisData
  weekNum := halEphInfo.weekNum
  iodec := halEphInfo.iodec
  l5Health := halEphInfo.l5Health
  sHealth := halEphInfo.sHealth
  inclinationAngleRad := halEphInfo.inclinationAngleRad
  urai := halEphInfo.urai
  tgd := halEphInfo.tgd

def pbConvertToNavicEphData (pb : PBNavicEphemeris) : NavicEphemeris where
  commonEphemerisData := pbConvertToCommanEph pb.commonEphemerisData
  weekNum := pb.weekNum
  iodec := pb.iodec
  l5Health := pb.l5Health
  sHealth := pb.sHealth
  inclinationAngleRad := pb.inclinationAngleRad
  urai := pb.urai
  tgd := pb.tgd

@[simp] theorem pbConvertToNavicEphData_convertNavicEphDataToPB (e : NavicEphemeris) :
    pbConvertToNavicEphData (convertNavicEphDataToPB e) = e := by
  simp only [pbConvertToNavicEphData, convertNavicEphDataToPB,
    pbConvertToCommanEph_convertCommanEphToPB]

end PbConv
end LocationStack
