import LocationStack.LocApi.CarrierPhase

/-! # Carrier phases over the epochs

The reports that are handed over are the epochs, each of one rate.  The maps hold the notes of the
last report of a rate and of what is collected (`Noted`), as long as a message that measurements
are taken from has the rate of the epoch that they are collected for: the maps of a measurement are
chosen by `nHzMeasurement`, those of a report by `nHzMeasurement_valid` as well, and by the message
that has begun it.
-/
namespace LocationStack.LocApi

open EventRun

section Epochs

variable {D G X H : Type}

/-- The carrier phases of a report. -/
def GnssMeasurements.adrs (meas : GnssMeasurements (D × Adr) G X H) : List Adr :=
  meas.measurements.map fun m => m.data.2

/-- The last epoch of a rate, or no measurements before the first. -/
def previousEpoch (reported : List (GnssMeasurements (D × Adr) G X H)) (nHz : Bool) : List Adr :=
  (reported.filter fun r => r.isNhz == nHz).getLast?.elim [] GnssMeasurements.adrs

theorem previousEpoch_concat (reported : List (GnssMeasurements (D × Adr) G X H))
    (r : GnssMeasurements (D × Adr) G X H) (nHz : Bool) :
    previousEpoch (reported ++ [r]) nHz =
      if r.isNhz = nHz then r.adrs else previousEpoch reported nHz := by
  rw [previousEpoch, List.filter_append]
  by_cases hrate : r.isNhz = nHz
  · rw [if_pos hrate, List.filter_cons_of_pos (by simpa using hrate), List.filter_nil,
      List.getLast?_concat]
    rfl
  · rw [if_neg hrate, List.filter_cons_of_neg (by simpa using hrate), List.filter_nil,
      List.append_nil]
    rfl

/-- Every report is as it is to be after those before it. -/
def EachEpoch (P : List Adr → Bool → Adr → Prop)
    (reported : List (GnssMeasurements (D × Adr) G X H)) : Prop :=
  ∀ before r, before ++ [r] <+: reported →
    ∀ m ∈ r.adrs, m.info.hasPhase = true → P (previousEpoch before r.isNhz) r.isNhz m

theorem EachEpoch.concat {P : List Adr → Bool → Adr → Prop}
    {reported : List (GnssMeasurements (D × Adr) G X H)} {r : GnssMeasurements (D × Adr) G X H}
    (h : EachEpoch P reported)
    (hr : ∀ m ∈ r.adrs, m.info.hasPhase = true →
      P (previousEpoch reported r.isNhz) r.isNhz m) : EachEpoch P (reported ++ [r]) := by
  intro before r' hprefix
  rcases List.prefix_concat_iff.mp hprefix with heq | hold
  · obtain ⟨rfl, hlast⟩ := List.append_inj' heq rfl
    cases hlast
    exact hr
  · exact h before r' hold

end Epochs

/-! ## What the maps hold -/

namespace MeasState

variable {R D G X H M : Type}

def maps (s : MeasState (D × Adr) G X H (M × CycleSlipMaps)) : CycleSlipMaps := s.api.members.2

def isNhz (s : MeasState (D × Adr) G X H (M × CycleSlipMaps)) : Bool :=
  s.api.mGnssMeasurements.isNhz

def adrs (s : MeasState (D × Adr) G X H (M × CycleSlipMaps)) : List Adr :=
  s.api.mGnssMeasurements.adrs

/-- The maps hold the notes of the last report of each rate, and those of what is collected under
its rate; the flags are those of the notes. -/
structure Noted (s : MeasState (D × Adr) G X H (M × CycleSlipMaps)) : Prop where
  prev : ∀ nHz, s.maps.prev nHz = Adr.notes (previousEpoch s.api.reported nHz)
  current : s.maps.current s.isNhz = Adr.notes s.adrs
  other : s.maps.current (!s.isNhz) = fun _ => none
  collected : ∀ m ∈ s.adrs, m.Flagged (previousEpoch s.api.reported s.isNhz) s.isNhz
  reported : EachEpoch (fun previous nHz m => m.Flagged previous nHz) s.api.reported
  idle : s.statics.newMeasProcessed = false → s.adrs = []
  unallocated : s.api.allocated = false → s.adrs = []

/-- A step that leaves alone what `Noted` looks at; it may set the flag that something was
processed. -/
structure Leaves (s s' : MeasState (D × Adr) G X H (M × CycleSlipMaps)) : Prop where
  maps : s'.maps = s.maps
  isNhz : s'.isNhz = s.isNhz
  adrs : s'.adrs = s.adrs
  reported : s'.api.reported = s.api.reported
  allocated : s'.api.allocated = s.api.allocated
  newMeasProcessed : s.statics.newMeasProcessed = true → s'.statics.newMeasProcessed = true

variable {s s' : MeasState (D × Adr) G X H (M × CycleSlipMaps)}

theorem Leaves.trans {s'' : MeasState (D × Adr) G X H (M × CycleSlipMaps)} (h : Leaves s s')
    (h' : Leaves s' s'') : Leaves s s'' :=
  ⟨h'.maps.trans h.maps, h'.isNhz.trans h.isNhz, h'.adrs.trans h.adrs,
    h'.reported.trans h.reported, h'.allocated.trans h.allocated,
    fun hnew => h'.newMeasProcessed (h.newMeasProcessed hnew)⟩

theorem Noted.leaves (h : Noted s) (hleaves : Leaves s s')
    (hidle : s'.statics.newMeasProcessed = false → s.adrs = []) : Noted s' := by
  refine ⟨?_, ?_, ?_, ?_, ?_, ?_, ?_⟩
  · rw [hleaves.maps, hleaves.reported]
    exact h.prev
  · rw [hleaves.maps, hleaves.isNhz, hleaves.adrs]
    exact h.current
  · rw [hleaves.maps, hleaves.isNhz]
    exact h.other
  · rw [hleaves.adrs, hleaves.reported, hleaves.isNhz]
    exact h.collected
  · rw [hleaves.reported]
    exact h.reported
  · rw [hleaves.adrs]
    exact hidle
  · rw [hleaves.adrs, hleaves.allocated]
    exact h.unallocated

/-- What is collected while nothing is: the maps of both rates are clear. -/
theorem Noted.clear (h : Noted s) (hnone : s.adrs = []) (nHz : Bool) :
    s.maps.current nHz = fun _ => none := by
  by_cases hrate : nHz = s.isNhz
  · rw [hrate, h.current, hnone]
    rfl
  · rw [Bool.eq_not.mpr hrate]
    exact h.other

theorem rate_cases (nHz nHz' : Bool) : nHz = nHz' ∨ nHz = !nHz' := by
  cases nHz <;> cases nHz' <;> decide

section Steps

variable (conv : Converters R D G X H M) (info : R → Bool → Nat → CarrierInfo)
  (capacity : Capacity) {ind : GnssSvMeasInfoInd R}

/-- A measurement is converted for an epoch of its rate. -/
theorem Noted.convert (h : Noted s) (hnew : s.statics.newMeasProcessed = true)
    (hallocated : s.api.allocated = true) (hrate : (ind.nHzMeasurement != 0) = s.isNhz)
    (isExt : Bool) (index : Nat) :
    Noted (s.convertGnssMeasurements (conv.withAdr info) ind isExt index) := by
  set adr := s.maps.convertAdr (ind.nHzMeasurement != 0) ind.gnssSignalType ind.refFCount
    (info ind.rest isExt index) (ind.measurement isExt index).lockPoint with hadr
  have hadrs : (s.convertGnssMeasurements (conv.withAdr info) ind isExt index).adrs =
      s.adrs ++ [adr.1] := List.map_append
  have hmaps : (s.convertGnssMeasurements (conv.withAdr info) ind isExt index).maps = adr.2 :=
    rfl
  have hisNhz : (s.convertGnssMeasurements (conv.withAdr info) ind isExt index).isNhz = s.isNhz :=
    rfl
  have hreported : (s.convertGnssMeasurements (conv.withAdr info) ind isExt index).api.reported =
      s.api.reported := rfl
  rw [hrate] at hadr
  have hspec : (∀ nHz, adr.2.prev nHz = s.maps.prev nHz) ∧
      adr.2.current s.isNhz = Adr.notes (s.adrs ++ [adr.1]) ∧
      adr.2.current (!s.isNhz) = s.maps.current (!s.isNhz) ∧
      adr.1.Flagged (previousEpoch s.api.reported s.isNhz) s.isNhz := by
    by_cases hphase : (info ind.rest isExt index).hasPhase = true
    · have hnoted : adr.2 = s.maps.note s.isNhz adr.1.key adr.1.cache := by
        rw [hadr, CycleSlipMaps.convertAdr, if_pos hphase]
        rfl
      have hphase' : adr.1.info.hasPhase = true := by
        rw [hadr, CycleSlipMaps.convertAdr, if_pos hphase]
        exact hphase
      refine ⟨fun nHz => ?_, ?_, ?_, fun _ => ⟨(ind.measurement isExt index).lockPoint, ?_⟩⟩
      · rw [hnoted, CycleSlipMaps.note_prev]
      · rw [hnoted, CycleSlipMaps.note_current, h.current, Adr.notes_concat, if_pos hphase']
      · rw [hnoted, CycleSlipMaps.note_current_other]
      · rw [← h.prev, hadr, CycleSlipMaps.convertAdr, if_pos hphase]
        rfl
    · have hsame : adr.2 = s.maps := by
        rw [hadr, CycleSlipMaps.convertAdr, if_neg hphase]
      have hphase' : ¬ adr.1.info.hasPhase = true := by
        rw [hadr, CycleSlipMaps.convertAdr, if_neg hphase]
        exact hphase
      rw [hsame, Adr.notes_concat, if_neg hphase']
      exact ⟨fun _ => rfl, h.current, rfl, fun hyes => absurd hyes hphase'⟩
  obtain ⟨hprev, hcurrent, hother, hflagged⟩ := hspec
  refine ⟨?_, ?_, ?_, ?_, h.reported, fun hno => ?_, fun hno => ?_⟩
  · rw [hmaps, hreported]
    exact fun nHz => (hprev nHz).trans (h.prev nHz)
  · rw [hmaps, hisNhz, hadrs]
    exact hcurrent
  · rw [hmaps, hisNhz, hother]
    exact h.other
  · rw [hadrs, hreported, hisNhz]
    intro m hm
    rcases List.mem_append.mp hm with hold | hlast
    · exact h.collected m hold
    · rw [List.mem_singleton.mp hlast]
      exact hflagged
  · exact absurd (hnew.symm.trans hno) nofun
  · exact absurd (hallocated.symm.trans hno) nofun

/-- A report is handed over. -/
theorem Noted.flush (h : Noted s) (ind : GnssSvMeasInfoInd R) :
    Noted (s.flush (conv.withAdr info) ind) ∧
      (s.flush (conv.withAdr info) ind).adrs = [] ∧
      (s.flush (conv.withAdr info) ind).api.allocated = s.api.allocated := by
  have hhanded : (s.handedOver (conv.withAdr info) ind).adrs = s.adrs := by
    simp only [handedOver, GnssMeasurements.adrs, adrs, List.map_map]
    rfl
  have hisNhz : (s.handedOver (conv.withAdr info) ind).isNhz = s.isNhz := rfl
  have hreported : (s.flush (conv.withAdr info) ind).api.reported =
      s.api.reported ++ [s.handedOver (conv.withAdr info) ind] := rfl
  have hmaps : (s.flush (conv.withAdr info) ind).maps = s.maps.rotate s.isNhz := rfl
  have hadrs : (s.flush (conv.withAdr info) ind).adrs = [] := rfl
  have hclear : (s.flush (conv.withAdr info) ind).isNhz = false := rfl
  have hcurrent : ∀ nHz, (s.maps.rotate s.isNhz).current nHz = fun _ => none := by
    intro nHz
    rcases rate_cases nHz s.isNhz with rfl | rfl
    · exact CycleSlipMaps.rotate_current _ _
    · rw [CycleSlipMaps.rotate_current_other]
      exact h.other
  refine ⟨⟨fun nHz => ?_, ?_, ?_, ?_, ?_, fun _ => hadrs, fun _ => hadrs⟩, hadrs, rfl⟩
  · rw [hmaps, hreported, previousEpoch_concat, hisNhz, hhanded]
    rcases rate_cases nHz s.isNhz with rfl | rfl
    · rw [if_pos rfl, CycleSlipMaps.rotate_prev]
      exact h.current
    · rw [if_neg (by cases s.isNhz <;> decide), CycleSlipMaps.rotate_prev_other]
      exact h.prev _
  · rw [hmaps, hcurrent, hadrs]
    rfl
  · rw [hmaps, hcurrent]
  · rw [hadrs]
    exact fun _ ha => absurd ha List.not_mem_nil
  · rw [hreported]
    refine h.reported.concat ?_
    rw [hhanded, hisNhz]
    exact fun m hm _ => h.collected m hm

/-- The epoch that begins has no measurements yet. -/
theorem Noted.noteEpoch (h : Noted s) (hnone : s.adrs = []) (ind : GnssSvMeasInfoInd R) :
    Noted (s.noteEpoch ind) := by
  have hadrs : (s.noteEpoch ind).adrs = [] := hnone
  refine ⟨h.prev, ?_, h.clear hnone _, ?_, h.reported, fun _ => hadrs, fun _ => hadrs⟩
  · rw [hadrs]
    exact h.clear hnone _
  · rw [hadrs]
    exact nofun

theorem Noted.allocate (h : Noted s) :
    Noted (s.allocate (conv.withAdr info)) ∧
      (s.allocate (conv.withAdr info)).api.allocated = true := by
  rw [MeasState.allocate]
  by_cases hallocated : s.api.allocated = true
  · rw [if_pos hallocated]
    exact ⟨h, hallocated⟩
  · rw [if_neg hallocated]
    have hclear := h.clear (h.unallocated (Bool.eq_false_iff.mpr hallocated))
    exact ⟨⟨h.prev, hclear _, hclear _, fun _ ha => absurd ha List.not_mem_nil, h.reported,
      fun _ => rfl, fun _ => rfl⟩, rfl⟩

theorem Noted.beginEpoch (h : Noted s) (hallocated : s.api.allocated = true)
    (ind : GnssSvMeasInfoInd R) :
    Noted (s.beginEpoch (conv.withAdr info) ind) ∧
      (s.beginEpoch (conv.withAdr info) ind).api.allocated = true := by
  rw [MeasState.beginEpoch]
  split
  · split
    · obtain ⟨hflushed, hnone, hkept⟩ := h.flush conv info ind
      exact ⟨hflushed.noteEpoch hnone ind, hkept.trans hallocated⟩
    · case isFalse hnew =>
      exact ⟨h.noteEpoch (h.idle (Bool.eq_false_iff.mpr hnew)) ind, hallocated⟩
  · exact ⟨h, hallocated⟩

/-- The loop over a list, of a message that has the rate of the epoch. -/
theorem Noted.convertList (isExt : Bool) (indices : List Nat) (h : Noted s)
    (hnew : s.statics.newMeasProcessed = true) (hallocated : s.api.allocated = true)
    (hrate : ∀ index ∈ indices, ind.reports isExt index = true →
      (ind.nHzMeasurement != 0) = s.isNhz) :
    let s' := MeasState.convertList (conv.withAdr info) capacity ind isExt indices s
    Noted s' ∧ s'.statics.newMeasProcessed = true ∧ s'.api.allocated = true ∧
      s'.isNhz = s.isNhz := by
  induction indices generalizing s with
  | nil => exact ⟨h, hnew, hallocated, rfl⟩
  | cons index rest ih =>
    rw [MeasState.convertList]
    by_cases hroom : s.count < capacity.measurementsMax
    · rw [if_pos hroom]
      by_cases htest : ind.reports isExt index = true
      · rw [if_pos htest]
        exact ih (h.convert conv info hnew hallocated (hrate index List.mem_cons_self htest)
          isExt index) hnew hallocated
          fun index' hmem => hrate index' (List.mem_cons_of_mem _ hmem)
      · rw [if_neg htest]
        exact ih h hnew hallocated fun index' hmem => hrate index' (List.mem_cons_of_mem _ hmem)
    · rw [if_neg hroom]
      exact ⟨h, hnew, hallocated, rfl⟩

theorem converted_ne_nil (isExt : Bool) {index : Nat} (hlisted : ind.listed false = true)
    (hlist : isExt = true → ind.listed true = true) (hindex : index < ind.len isExt)
    (htest : ind.reports isExt index = true) : ind.converted ≠ [] := by
  have hselected : ind.measured isExt index ∈ ind.select (ind.reports isExt) isExt :=
    List.mem_map_of_mem (List.mem_filter.mpr ⟨List.mem_range.mpr hindex, htest⟩)
  refine List.ne_nil_of_mem (a := ind.measured isExt index) ?_
  rw [GnssSvMeasInfoInd.converted, if_pos hlisted]
  cases isExt with
  | false => exact List.mem_append_left _ hselected
  | true =>
    rw [if_pos (hlist rfl)]
    exact List.mem_append_right _ hselected

theorem Noted.convertLists (h : Noted s) (hnew : s.statics.newMeasProcessed = true)
    (hallocated : s.api.allocated = true)
    (hrate : ind.converted ≠ [] → (ind.nHzMeasurement != 0) = s.isNhz) :
    let s' := s.convertLists (conv.withAdr info) capacity ind
    Noted s' ∧ s'.statics.newMeasProcessed = true ∧ s'.api.allocated = true := by
  rw [MeasState.convertLists]
  split
  · case isTrue hlisted =>
    obtain ⟨hfirst, hnew', hallocated', hsame⟩ := h.convertList conv info capacity false
      (List.range ind.svMeasurement_len) hnew hallocated fun index hindex htest =>
        hrate (converted_ne_nil false hlisted (fun hno => absurd hno Bool.false_ne_true)
          (List.mem_range.mp hindex) htest)
    split
    · case isTrue hext =>
      obtain ⟨hsecond, hnew'', hallocated'', -⟩ := hfirst.convertList conv info capacity true
        (List.range ind.extSvMeasurement_len) hnew' hallocated' fun index hindex htest =>
          (hrate (converted_ne_nil true hlisted (fun _ => hext) (List.mem_range.mp hindex)
            htest)).trans hsame.symm
      exact ⟨hsecond, hnew'', hallocated''⟩
    · exact ⟨hfirst, hnew', hallocated'⟩
  · exact ⟨h, hnew, hallocated⟩

theorem convertClockOfPreferred_leaves (s : MeasState (D × Adr) G X H (M × CycleSlipMaps))
    (ind : GnssSvMeasInfoInd R) :
    Leaves s (s.convertClockOfPreferred (conv.withAdr info) ind) := by
  rw [MeasState.convertClockOfPreferred]
  split
  · rw [MeasState.convertGnssClock]
    split <;> exact ⟨rfl, rfl, rfl, rfl, rfl, id⟩
  · exact ⟨rfl, rfl, rfl, rfl, rfl, id⟩

theorem convertGnssMeasurementsHeader_leaves
    (s : MeasState (D × Adr) G X H (M × CycleSlipMaps)) (ind : GnssSvMeasInfoInd R) :
    Leaves s (s.convertGnssMeasurementsHeader (conv.withAdr info) ind) := by
  rw [MeasState.convertGnssMeasurementsHeader]
  split <;> exact ⟨rfl, rfl, rfl, rfl, rfl, id⟩

theorem keep1Hz_leaves (s : MeasState (D × Adr) G X H (M × CycleSlipMaps))
    (ind : GnssSvMeasInfoInd R) : Leaves s (s.keep1Hz (conv.withAdr info) ind) := by
  rw [MeasState.keep1Hz]
  split <;> exact ⟨rfl, rfl, rfl, rfl, rfl, id⟩

/-- The measurements of a message are collected, if it has the rate of the epoch. -/
theorem Noted.collect (h : Noted s) (hallocated : s.api.allocated = true)
    (hrate : ind.converted ≠ [] → (ind.nHzMeasurement != 0) = s.isNhz) :
    Noted (s.collect (conv.withAdr info) capacity ind) := by
  -- up to the lists nothing changes but the flag that something was processed
  set started : MeasState (D × Adr) G X H (M × CycleSlipMaps) :=
    { s with statics := { s.statics with newMeasProcessed := true } } with hdef
  have hstart : Leaves s started := ⟨rfl, rfl, rfl, rfl, rfl, fun _ => rfl⟩
  have hconverted := (convertClockOfPreferred_leaves conv info started ind).trans
    (convertGnssMeasurementsHeader_leaves conv info _ ind)
  set head := (started.convertClockOfPreferred
    (conv.withAdr info) ind).convertGnssMeasurementsHeader (conv.withAdr info) ind
  have hnew : head.statics.newMeasProcessed = true := hconverted.newMeasProcessed rfl
  have hhead : Noted head := h.leaves (hstart.trans hconverted) fun hno =>
    absurd (hnew.symm.trans hno) nofun
  obtain ⟨hlists, hnew', -⟩ := hhead.convertLists conv info capacity hnew
    ((hstart.trans hconverted).allocated.trans hallocated)
    fun hne => (hrate hne).trans (hstart.trans hconverted).isNhz.symm
  have hagc : Leaves (head.convertLists (conv.withAdr info) capacity ind)
      ((head.convertLists (conv.withAdr info) capacity ind).convertAgc (conv.withAdr info) ind) :=
    ⟨rfl, rfl, rfl, rfl, rfl, id⟩
  have htail := hagc.trans (keep1Hz_leaves conv info _ ind)
  exact hlists.leaves htail fun hno => absurd ((htail.newMeasProcessed hnew').symm.trans hno) nofun

theorem Noted.finish (h : Noted s) (ind : GnssSvMeasInfoInd R) :
    Noted (s.finish (conv.withAdr info) ind) := by
  rw [MeasState.finish]
  split
  · have hclosed : Leaves s (s.closeEpoch (conv.withAdr info) ind) :=
      ⟨rfl, rfl, rfl, rfl, rfl, id⟩
    exact ((h.leaves hclosed h.idle).flush conv info ind).1
  · exact h

/-- The message has the rate of the epoch that its measurements are collected for. -/
def AgreesInRate (s : MeasState (D × Adr) G X H (M × CycleSlipMaps))
    (ind : GnssSvMeasInfoInd R) : Prop :=
  ind.taken = true → ind.converted ≠ [] → (ind.nHzMeasurement != 0) =
    ((s.allocate (conv.withAdr info)).beginEpoch (conv.withAdr info) ind).isNhz

instance (s : MeasState (D × Adr) G X H (M × CycleSlipMaps)) (ind : GnssSvMeasInfoInd R) :
    Decidable (AgreesInRate conv info s ind) :=
  inferInstanceAs (Decidable (_ → _ → _))

theorem Noted.step (h : Noted s) (hrate : AgreesInRate conv info s ind) :
    Noted (s.reportGnssMeasurementData (conv.withAdr info) capacity ind) := by
  obtain ⟨hallocate, hallocated⟩ := h.allocate conv info
  obtain ⟨hbegun, hallocated'⟩ := hallocate.beginEpoch conv info hallocated ind
  rw [MeasState.reportGnssMeasurementData]
  by_cases hinvalid : ind.invalid = true
  · simp only [hinvalid, if_true]
    exact hallocate
  · simp only [hinvalid, Bool.false_eq_true, if_false]
    by_cases hunknown : (getLocApiSvSystemType ind.system == .unknown) = true
    · rw [if_pos hunknown]
      exact hbegun
    · rw [if_neg hunknown]
      refine (hbegun.collect conv info capacity hallocated' (hrate ?_)).finish conv info ind
      rw [GnssSvMeasInfoInd.taken, Bool.eq_false_iff.mpr hinvalid, bne,
        Bool.eq_false_iff.mpr hunknown]
      rfl

end Steps

/-- An object that has received nothing. -/
def initial (conv : Converters R D G X H M) (info : R → Bool → Nat → CarrierInfo)
    (mPreferredSignalType : UInt64) (fullPower : Bool) (members : M) :
    MeasState (D × Adr) G X H (M × CycleSlipMaps) :=
  ⟨.init, .new (conv.withAdr info) mPreferredSignalType fullPower (members, .init)⟩

theorem noted_initial (conv : Converters R D G X H M) (info : R → Bool → Nat → CarrierInfo)
    (mPreferredSignalType : UInt64) (fullPower : Bool) (members : M) :
    Noted (initial conv info mPreferredSignalType fullPower members) where
  prev := fun nHz => by cases nHz <;> rfl
  current := rfl
  other := rfl
  collected := nofun
  reported := fun before r hprefix => by
    have hnil := List.prefix_nil.mp hprefix
    exact absurd hnil (List.append_ne_nil_of_right_ne_nil _ (List.cons_ne_nil _ _))
  idle := fun _ => rfl
  unallocated := fun _ => rfl

end MeasState

/-- Conversions to nothing, beside that of the carrier phase. -/
def carrierConverters : Converters CarrierInfo Unit Unit Unit Unit Unit where
  zeroClock := ()
  zeroHeader := ()
  measurement := fun _ _ _ _ => ((), ())
  clock := fun _ _ _ _ => ((), ())
  header := fun _ _ _ => ((), ())
  agc := fun _ => ()
  keep1Hz := fun _ _ => ()
  last := fun _ _ _ => ((), (), ())
  biases := fun _ _ => ()
  stamp := fun _ _ => ()
  cycleSlips := fun _ _ => ()
  reset := fun _ => ()

/-- An epoch of 1 Hz with one satellite, in one message. -/
def carrierInd (epochNumber : Nat) (refFCount : UInt32) (cycleSlipCount : UInt8) :
    GnssSvMeasInfoInd CarrierInfo where
  epochNumber := epochNumber
  seqNum := 1
  maxMessageNum := 1
  subSeqNum := some 1
  maxSubSeqNum := some 1
  system := .gps
  gnssSignalType := 1
  nHzMeasurement_valid := false
  nHzMeasurement := 0
  systemTimeExt_valid := true
  refFCount := refFCount
  numClockResets_valid := true
  numClockResets := 0
  svMeasurement_valid := true
  svMeasurement_len := 1
  svMeasurement := fun _ => freshMeasurement
  extSvMeasurement_valid := false
  extSvMeasurement_len := 0
  extSvMeasurement := fun _ => freshMeasurement
  rest := ⟨5, svCarrierPhaseValid ||| svCycleSlipCountValid, 0x4059000000000000, cycleSlipCount⟩

/-- An object that has received these epochs. -/
def carrierRun (stream : List (GnssSvMeasInfoInd CarrierInfo)) :
    MeasState (Unit × Adr) Unit Unit Unit (Unit × CycleSlipMaps) :=
  run (MeasState.reportGnssMeasurementData (carrierConverters.withAdr fun info _ _ => info)
      sampleCapacity)
    (MeasState.initial carrierConverters (fun info _ _ => info) 1 true ()) stream

end LocationStack.LocApi
