import LocationStack.LocApi.Measurements

/-! # What a message adds to a report

A message hands over what was collected before, or adds to it, or both.  Which measurements it adds
is decided by its lists alone, and by how many there is room for.
-/
namespace LocationStack.LocApi

namespace GnssSvMeasInfoInd

variable {R : Type} (ind : GnssSvMeasInfoInd R)

def len : Bool → Nat
  | false => ind.svMeasurement_len
  | true => ind.extSvMeasurement_len

/-- The measurements of a list that a test lets through. -/
def select (test : Nat → Bool) (isExt : Bool) : List Measured :=
  ((List.range (ind.len isExt)).filter test).map (ind.measured isExt)

/-- What the loops convert, were there room for all. -/
def converted : List Measured :=
  if ind.listed false then
    ind.select (ind.reports false) false ++
      (if ind.listed true then ind.select (ind.reports true) true else [])
  else []

end GnssSvMeasInfoInd

namespace GnssMeasurements

variable {D G X H : Type}

def sources (meas : GnssMeasurements D G X H) : List Measured :=
  meas.measurements.map (·.measured)

end GnssMeasurements

/-- A clock that was converted from a message. -/
structure GnssMeasurementsClock.From {R X : Type} (clock : GnssMeasurementsClock X)
    (part : GnssSvMeasInfoInd R) : Prop where
  epoch : clock.epoch = some part.epoch
  timed : clock.timed = MeasState.timed part
  timeNs : MeasState.timed part = true → clock.timeNs = part.refFCount.toNat * 1000000

namespace MeasState

variable {R D G X H M : Type} (conv : Converters R D G X H M) (capacity : Capacity)

def sources (s : MeasState D G X H M) : List Measured := s.api.mGnssMeasurements.sources

theorem length_sources (s : MeasState D G X H M) : s.sources.length = s.count :=
  List.length_map _

/-- A step that only adds measurements. -/
structure Collects (new : List Measured) (s s' : MeasState D G X H M) : Prop where
  newMeasProcessed : s'.statics.newMeasProcessed = s.statics.newMeasProcessed
  reported : s'.api.reported = s.api.reported
  preferred : s'.api.mPreferredSignalType = s.api.mPreferredSignalType
  allocated : s'.api.allocated = s.api.allocated
  clock : s'.api.mGnssMeasurements.clock = s.api.mGnssMeasurements.clock
  sources : s'.sources = s.sources ++ new

theorem Collects.refl (s : MeasState D G X H M) : Collects [] s s where
  newMeasProcessed := rfl
  reported := rfl
  preferred := rfl
  allocated := rfl
  clock := rfl
  sources := (List.append_nil _).symm

theorem Collects.trans {new new' : List Measured} {s s' s'' : MeasState D G X H M}
    (h : Collects new s s') (h' : Collects new' s' s'') : Collects (new ++ new') s s'' where
  newMeasProcessed := h'.newMeasProcessed.trans h.newMeasProcessed
  reported := h'.reported.trans h.reported
  preferred := h'.preferred.trans h.preferred
  allocated := h'.allocated.trans h.allocated
  clock := h'.clock.trans h.clock
  sources := by rw [h'.sources, h.sources, List.append_assoc]

theorem Collects.count {new : List Measured} {s s' : MeasState D G X H M}
    (h : Collects new s s') : s'.count = s.count + new.length := by
  rw [← length_sources, h.sources, List.length_append, length_sources]

theorem convertGnssMeasurements_collects (s : MeasState D G X H M) (ind : GnssSvMeasInfoInd R)
    (isExt : Bool) (index : Nat) :
    Collects [ind.measured isExt index] s (s.convertGnssMeasurements conv ind isExt index) where
  newMeasProcessed := rfl
  reported := rfl
  preferred := rfl
  allocated := rfl
  clock := rfl
  sources := List.map_append

/-- A loop adds what its test lets through, while there is room. -/
theorem convertList_collects (ind : GnssSvMeasInfoInd R) (isExt : Bool) (indices : List Nat)
    (s : MeasState D G X H M) :
    Collects (((indices.filter (ind.reports isExt)).map (ind.measured isExt)).take
        (capacity.measurementsMax - s.count)) s
      (convertList conv capacity ind isExt indices s) := by
  induction indices generalizing s with
  | nil =>
    rw [List.filter_nil, List.map_nil, List.take_nil]
    exact Collects.refl s
  | cons index rest ih =>
    rw [convertList]
    by_cases hroom : s.count < capacity.measurementsMax
    · rw [if_pos hroom]
      by_cases htest : ind.reports isExt index = true
      · rw [if_pos htest, List.filter_cons_of_pos htest, List.map_cons]
        have hone := s.convertGnssMeasurements_collects conv ind isExt index
        have hcount : capacity.measurementsMax - s.count =
            (capacity.measurementsMax -
              (s.convertGnssMeasurements conv ind isExt index).count) + 1 := by
          rw [hone.count, List.length_singleton]
          omega
        rw [hcount, List.take_succ_cons]
        exact hone.trans (ih _)
      · rw [if_neg htest, List.filter_cons_of_neg htest]
        exact ih s
    · rw [if_neg hroom, Nat.sub_eq_zero_of_le (Nat.le_of_not_lt hroom), List.take_zero]
      exact Collects.refl s

theorem convertLists_collects (s : MeasState D G X H M) (ind : GnssSvMeasInfoInd R) :
    Collects (ind.converted.take (capacity.measurementsMax - s.count)) s
      (s.convertLists conv capacity ind) := by
  rw [convertLists, GnssSvMeasInfoInd.converted]
  split
  · have hfirst := convertList_collects conv capacity ind false
      (List.range ind.svMeasurement_len) s
    split
    · have hsecond := convertList_collects conv capacity ind true
        (List.range ind.extSvMeasurement_len)
        (convertList conv capacity ind false (List.range ind.svMeasurement_len) s)
      have hcount := hfirst.count
      rw [List.length_take] at hcount
      have hroom : capacity.measurementsMax -
          (convertList conv capacity ind false (List.range ind.svMeasurement_len) s).count =
          capacity.measurementsMax - s.count -
            (ind.select (ind.reports false) false).length := by
        rw [GnssSvMeasInfoInd.select, GnssSvMeasInfoInd.len]
        omega
      rw [List.take_append, ← hroom]
      exact hfirst.trans hsecond
    · rw [List.append_nil]
      exact hfirst
  · rw [List.take_nil]
    exact Collects.refl s

/-- The clock is as it was, but for what depends on the other fields of a message. -/
structure SameClock (clock clock' : GnssMeasurementsClock X) : Prop where
  epoch : clock'.epoch = clock.epoch
  timed : clock'.timed = clock.timed
  timeNs : clock'.timeNs = clock.timeNs

/-- A step that hands over what was collected. -/
structure Flushes (s s' : MeasState D G X H M) : Prop where
  reported : ∃ r, r.sources = s.sources ∧ SameClock s.api.mGnssMeasurements.clock r.clock ∧
    s'.api.reported = s.api.reported ++ [r]
  newMeasProcessed : s'.statics.newMeasProcessed = false
  sources : s'.sources = []
  clock : s'.api.mGnssMeasurements.clock.epoch = none
  preferred : s'.api.mPreferredSignalType = s.api.mPreferredSignalType
  allocated : s'.api.allocated = s.api.allocated

theorem sources_handedOver (s : MeasState D G X H M) (ind : GnssSvMeasInfoInd R) :
    (s.handedOver conv ind).sources = s.sources := by
  simp [handedOver, GnssMeasurements.sources, sources]

/-- The last message hands over what was collected. -/
theorem finish_flushes (s : MeasState D G X H M) {ind : GnssSvMeasInfoInd R}
    (hlast : ind.isLast = true) : Flushes s (s.finish conv ind) := by
  rw [finish, if_pos hlast]
  exact ⟨⟨(s.closeEpoch conv ind).handedOver conv ind,
    (s.closeEpoch conv ind).sources_handedOver conv ind, ⟨rfl, rfl, rfl⟩, rfl⟩,
    rfl, rfl, rfl, rfl, rfl⟩

/-- A message that begins an epoch hands over what was collected before, if any was. -/
theorem beginEpoch_flushes {s : MeasState D G X H M} {ind : GnssSvMeasInfoInd R}
    (hbegins : begins s.statics ind = true) (hnew : s.statics.newMeasProcessed = true) :
    Flushes s (s.beginEpoch conv ind) := by
  rw [beginEpoch, if_pos hbegins, if_pos hnew]
  exact ⟨⟨s.handedOver conv ind, s.sources_handedOver conv ind, ⟨rfl, rfl, rfl⟩, rfl⟩,
    rfl, rfl, rfl, rfl, rfl⟩

theorem beginEpoch_collects {s : MeasState D G X H M} {ind : GnssSvMeasInfoInd R}
    (h : begins s.statics ind = false ∨ s.statics.newMeasProcessed = false) :
    Collects [] s (s.beginEpoch conv ind) := by
  rw [beginEpoch]
  split
  · case isTrue hbegins =>
    have hnew : s.statics.newMeasProcessed = false :=
      h.resolve_left fun hno => Bool.false_ne_true (hno.symm.trans hbegins)
    rw [hnew, if_neg Bool.false_ne_true]
    exact ⟨rfl, rfl, rfl, rfl, rfl, (List.append_nil _).symm⟩
  · exact Collects.refl s

theorem convertGnssMeasurementsHeader_collects (s : MeasState D G X H M)
    (ind : GnssSvMeasInfoInd R) : Collects [] s (s.convertGnssMeasurementsHeader conv ind) := by
  rw [convertGnssMeasurementsHeader]
  split
  · exact ⟨rfl, rfl, rfl, rfl, rfl, (List.append_nil _).symm⟩
  · exact Collects.refl s

theorem convertAgc_collects (s : MeasState D G X H M) (ind : GnssSvMeasInfoInd R) :
    Collects [] s (s.convertAgc conv ind) :=
  ⟨rfl, rfl, rfl, rfl, rfl, (List.append_nil _).symm⟩

theorem keep1Hz_collects (s : MeasState D G X H M) (ind : GnssSvMeasInfoInd R) :
    Collects [] s (s.keep1Hz conv ind) := by
  rw [keep1Hz]
  split
  · exact ⟨rfl, rfl, rfl, rfl, rfl, (List.append_nil _).symm⟩
  · exact Collects.refl s

theorem convertGnssClock_from (s : MeasState D G X H M) (ind : GnssSvMeasInfoInd R) :
    (s.convertGnssClock conv ind).api.mGnssMeasurements.clock.From ind :=
  ⟨rfl, rfl, fun htimed => if_pos htimed⟩

/-- What a clock is converted to, the rest unchanged. -/
theorem convertClockOfPreferred_spec (s : MeasState D G X H M) (ind : GnssSvMeasInfoInd R) :
    let s' := s.convertClockOfPreferred conv ind
    s'.statics.newMeasProcessed = s.statics.newMeasProcessed ∧
      s'.api.reported = s.api.reported ∧
      s'.api.mPreferredSignalType = s.api.mPreferredSignalType ∧
      s'.api.allocated = s.api.allocated ∧ s'.sources = s.sources ∧
      if s.api.mPreferredSignalType = ind.gnssSignalType ∧ ind.sub = 1 then
        s'.api.mGnssMeasurements.clock.From ind
      else s'.api.mGnssMeasurements.clock = s.api.mGnssMeasurements.clock := by
  intro s'
  simp only [s', convertClockOfPreferred, Bool.and_eq_true, beq_iff_eq]
  split
  · have hfrom := s.convertGnssClock_from conv ind
    have hframe : ∀ s₀ : MeasState D G X H M, s₀ = (if timed ind then s.countDiscontinuity ind
        else s) → s₀.statics.newMeasProcessed = s.statics.newMeasProcessed ∧
          s₀.api.reported = s.api.reported ∧
          s₀.api.mPreferredSignalType = s.api.mPreferredSignalType ∧
          s₀.api.allocated = s.api.allocated ∧ s₀.sources = s.sources := by
      rintro s₀ rfl
      split <;> exact ⟨rfl, rfl, rfl, rfl, rfl⟩
    obtain ⟨hnew, hreported, hpreferred, hallocated, hsources⟩ := hframe _ rfl
    exact ⟨hnew, hreported, hpreferred, hallocated, hsources, hfrom⟩
  · exact ⟨rfl, rfl, rfl, rfl, rfl, rfl⟩

/-- **What a message adds.** -/
theorem collect_spec (s : MeasState D G X H M) (ind : GnssSvMeasInfoInd R) :
    let s' := s.collect conv capacity ind
    s'.statics.newMeasProcessed = true ∧ s'.api.reported = s.api.reported ∧
      s'.api.mPreferredSignalType = s.api.mPreferredSignalType ∧
      s'.api.allocated = s.api.allocated ∧
      s'.sources = s.sources ++ ind.converted.take (capacity.measurementsMax - s.count) ∧
      if s.api.mPreferredSignalType = ind.gnssSignalType ∧ ind.sub = 1 then
        s'.api.mGnssMeasurements.clock.From ind
      else s'.api.mGnssMeasurements.clock = s.api.mGnssMeasurements.clock := by
  intro s'
  let s₀ : MeasState D G X H M :=
    { s with statics := { s.statics with newMeasProcessed := true } }
  obtain ⟨hnew, hreported, hpreferred, hallocated, hsources, hclock⟩ :=
    s₀.convertClockOfPreferred_spec conv ind
  have hcount : (s₀.convertClockOfPreferred conv ind).count = s.count := by
    rw [← length_sources, hsources]
    exact s.length_sources
  have hrest := (((convertGnssMeasurementsHeader_collects conv
    (s₀.convertClockOfPreferred conv ind) ind).trans
      (convertLists_collects conv capacity _ ind)).trans (convertAgc_collects conv _ ind)).trans
        (keep1Hz_collects conv _ ind)
  rw [(convertGnssMeasurementsHeader_collects conv _ ind).count, hcount] at hrest
  refine ⟨hrest.newMeasProcessed.trans hnew, hrest.reported.trans hreported,
    hrest.preferred.trans hpreferred, hrest.allocated.trans hallocated, ?_, ?_⟩
  · rw [show s'.sources = _ from hrest.sources, hsources]
    simp
    rfl
  · rw [show s'.api.mGnssMeasurements.clock = _ from hrest.clock]
    exact hclock

end MeasState

end LocationStack.LocApi
