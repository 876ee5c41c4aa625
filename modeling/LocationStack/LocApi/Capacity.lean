import LocationStack.LocApi.Collecting

/-! # Writes to the arrays of a report

The loops over the measurements stop when `measurements` is full, and `svMeas` has room for as
many.  The array of the AGC gets an entry from every message that is used, and nothing stops that:
it stays within its bounds exactly as long as every such message finds room in it.
-/
namespace LocationStack.LocApi

open EventRun

/-- An index that the array has. -/
def ArrayWrite.InBounds (capacity : Capacity) : ArrayWrite → Prop
  | measurements index => index < capacity.measurementsMax
  | svMeas index => index < capacity.svMeasMax
  | gnssAgc index => index < capacity.gnssAgcMax

/-- Counts that the arrays have room for. -/
structure GnssMeasurements.Fits {D G X H : Type} (capacity : Capacity)
    (meas : GnssMeasurements D G X H) : Prop where
  count : meas.measurements.length ≤ capacity.measurementsMax
  svMeasCount : meas.measurements.length ≤ capacity.svMeasMax
  agcCount : meas.gnssAgc.length ≤ capacity.gnssAgcMax

namespace MeasState

variable {R D G X H M : Type} (conv : Converters R D G X H M) {capacity : Capacity}

/-- **All writes are within bounds**, and all reported counts. -/
structure InBounds (capacity : Capacity) (s : MeasState D G X H M) : Prop where
  written : ∀ w ∈ s.api.written, w.InBounds capacity
  reported : ∀ r ∈ s.api.reported, r.Fits capacity

/-- The number of AGC entries that a message finds. -/
def agcCountAt (s : MeasState D G X H M) (ind : GnssSvMeasInfoInd R) : Nat :=
  if !s.api.allocated || begins s.statics ind && s.statics.newMeasProcessed then 0 else s.agcCount

/-- A message that is used finds room for its AGC entry. -/
def AgcRoom (capacity : Capacity) (s : MeasState D G X H M) (ind : GnssSvMeasInfoInd R) : Prop :=
  ind.invalid = false → getLocApiSvSystemType ind.system ≠ .unknown →
    s.agcCountAt ind < capacity.gnssAgcMax

instance (s : MeasState D G X H M) (ind : GnssSvMeasInfoInd R) :
    Decidable (s.AgcRoom capacity ind) :=
  inferInstanceAs (Decidable (_ → _ → _))

/-! ## The invariant -/

/-- The measurements fit, and an AGC entry was written at every index below their number. -/
structure Filled (capacity : Capacity) (s : MeasState D G X H M) : Prop where
  count : s.count ≤ capacity.measurementsMax
  agc : ∀ index < s.agcCount, .gnssAgc index ∈ s.api.written
  unallocated : s.api.allocated = false → s.agcCount = 0

theorem Filled.fits {s : MeasState D G X H M} (h : s.Filled capacity)
    (hsize : capacity.measurementsMax ≤ capacity.svMeasMax) (hbounds : s.InBounds capacity) :
    s.api.mGnssMeasurements.Fits capacity where
  count := h.count
  svMeasCount := h.count.trans hsize
  agcCount := by
    by_contra hmore
    exact absurd (hbounds.written _ (h.agc capacity.gnssAgcMax (Nat.lt_of_not_le hmore)))
      (Nat.lt_irrefl _)

/-- A step that writes measurements only. -/
structure WritesMeasurements (capacity : Capacity) (s s' : MeasState D G X H M) : Prop where
  reported : s'.api.reported = s.api.reported
  allocated : s'.api.allocated = s.api.allocated
  gnssAgc : s'.api.mGnssMeasurements.gnssAgc = s.api.mGnssMeasurements.gnssAgc
  count : s.count ≤ capacity.measurementsMax → s'.count ≤ capacity.measurementsMax
  written : ∃ new, s'.api.written = s.api.written ++ new ∧
    (capacity.measurementsMax ≤ capacity.svMeasMax → ∀ w ∈ new, w.InBounds capacity)

theorem WritesMeasurements.refl (s : MeasState D G X H M) : WritesMeasurements capacity s s :=
  ⟨rfl, rfl, rfl, id, [], (List.append_nil _).symm, fun _ _ hw => absurd hw List.not_mem_nil⟩

theorem WritesMeasurements.trans {s s' s'' : MeasState D G X H M}
    (h : WritesMeasurements capacity s s') (h' : WritesMeasurements capacity s' s'') :
    WritesMeasurements capacity s s'' := by
  obtain ⟨new, hwritten, hnew⟩ := h.written
  obtain ⟨new', hwritten', hnew'⟩ := h'.written
  refine ⟨h'.reported.trans h.reported, h'.allocated.trans h.allocated,
    h'.gnssAgc.trans h.gnssAgc, h'.count ∘ h.count, new ++ new', ?_, fun hsize w hw => ?_⟩
  · rw [hwritten', hwritten, List.append_assoc]
  · rcases List.mem_append.mp hw with hw | hw
    · exact hnew hsize w hw
    · exact hnew' hsize w hw

/-- A step that writes nothing. -/
theorem WritesMeasurements.of_same {s s' : MeasState D G X H M}
    (hreported : s'.api.reported = s.api.reported) (hallocated : s'.api.allocated = s.api.allocated)
    (hagc : s'.api.mGnssMeasurements.gnssAgc = s.api.mGnssMeasurements.gnssAgc)
    (hcount : s'.count = s.count) (hwritten : s'.api.written = s.api.written) :
    WritesMeasurements capacity s s' :=
  ⟨hreported, hallocated, hagc, fun h => hcount ▸ h, [], hwritten.trans (List.append_nil _).symm,
    fun _ _ hw => absurd hw List.not_mem_nil⟩

theorem convertGnssMeasurements_writes {s : MeasState D G X H M} (ind : GnssSvMeasInfoInd R)
    (isExt : Bool) (index : Nat) (hroom : s.count < capacity.measurementsMax) :
    WritesMeasurements capacity s (s.convertGnssMeasurements conv ind isExt index) where
  reported := rfl
  allocated := rfl
  gnssAgc := rfl
  count := fun _ => by
    rw [(convertGnssMeasurements_collects conv s ind isExt index).count]
    exact hroom
  written := by
    refine ⟨[.measurements s.count, .svMeas s.count], rfl, fun hsize w hw => ?_⟩
    rcases List.mem_cons.mp hw with rfl | hw
    · exact hroom
    · rw [List.mem_singleton.mp hw]
      exact Nat.lt_of_lt_of_le hroom hsize

/-- A loop writes while there is room. -/
theorem convertList_writes (ind : GnssSvMeasInfoInd R) (isExt : Bool) (indices : List Nat)
    (s : MeasState D G X H M) :
    WritesMeasurements capacity s (convertList conv capacity ind isExt indices s) := by
  induction indices generalizing s with
  | nil => exact WritesMeasurements.refl s
  | cons index rest ih =>
    rw [convertList]
    by_cases hroom : s.count < capacity.measurementsMax
    · rw [if_pos hroom]
      refine WritesMeasurements.trans ?_ (ih _)
      split
      · exact convertGnssMeasurements_writes conv ind isExt index hroom
      · exact WritesMeasurements.refl s
    · rw [if_neg hroom]
      exact WritesMeasurements.refl s

theorem convertLists_writes (s : MeasState D G X H M) (ind : GnssSvMeasInfoInd R) :
    WritesMeasurements capacity s (s.convertLists conv capacity ind) := by
  rw [convertLists]
  split
  · have hfirst : WritesMeasurements capacity s _ :=
      convertList_writes conv ind false (List.range ind.svMeasurement_len) s
    split
    · exact hfirst.trans (convertList_writes conv ind true _ _)
    · exact hfirst
  · exact WritesMeasurements.refl s

theorem convertClockOfPreferred_writes (s : MeasState D G X H M) (ind : GnssSvMeasInfoInd R) :
    WritesMeasurements capacity s (s.convertClockOfPreferred conv ind) := by
  rw [convertClockOfPreferred]
  split
  · have hcount : WritesMeasurements capacity s
        (if timed ind then s.countDiscontinuity ind else s) := by
      split
      · exact .of_same rfl rfl rfl rfl rfl
      · exact .refl s
    exact hcount.trans (.of_same rfl rfl rfl rfl rfl)
  · exact .refl s

theorem convertGnssMeasurementsHeader_writes (s : MeasState D G X H M)
    (ind : GnssSvMeasInfoInd R) :
    WritesMeasurements capacity s (s.convertGnssMeasurementsHeader conv ind) := by
  rw [convertGnssMeasurementsHeader]
  split
  · exact .of_same rfl rfl rfl rfl rfl
  · exact .refl s

theorem keep1Hz_writes (s : MeasState D G X H M) (ind : GnssSvMeasInfoInd R) :
    WritesMeasurements capacity s (s.keep1Hz conv ind) := by
  rw [keep1Hz]
  split
  · exact .of_same rfl rfl rfl rfl rfl
  · exact .refl s

/-! ## Stages -/

theorem Filled.writes {s s' : MeasState D G X H M} (h : s.Filled capacity)
    (hwrites : WritesMeasurements capacity s s') : s'.Filled capacity where
  count := hwrites.count h.count
  agc := fun index hindex => by
    obtain ⟨new, hwritten, -⟩ := hwrites.written
    rw [agcCount, hwrites.gnssAgc] at hindex
    rw [hwritten]
    exact List.mem_append_left _ (h.agc index hindex)
  unallocated := fun hno => by
    rw [agcCount, hwrites.gnssAgc]
    exact h.unallocated (hwrites.allocated.symm.trans hno)

theorem InBounds.writes {s s' : MeasState D G X H M} (h : s.InBounds capacity)
    (hsize : capacity.measurementsMax ≤ capacity.svMeasMax)
    (hwrites : WritesMeasurements capacity s s') : s'.InBounds capacity where
  written := fun w hw => by
    obtain ⟨new, hwritten, hnew⟩ := hwrites.written
    rw [hwritten] at hw
    rcases List.mem_append.mp hw with hw | hw
    · exact h.written w hw
    · exact hnew hsize w hw
  reported := fun r hr => h.reported r (hwrites.reported ▸ hr)

/-- A step that hands over what was collected. -/
structure HandsOver (s s' : MeasState D G X H M) : Prop where
  reported : ∃ r, s'.api.reported = s.api.reported ++ [r] ∧
    r.measurements.length = s.count ∧ r.gnssAgc.length = s.agcCount
  written : s'.api.written = s.api.written
  allocated : s'.api.allocated = s.api.allocated
  count : s'.count = 0
  agcCount : s'.agcCount = 0

theorem flush_handsOver (s : MeasState D G X H M) (ind : GnssSvMeasInfoInd R) :
    HandsOver s (s.flush conv ind) where
  reported := ⟨s.handedOver conv ind, rfl, List.length_map _, rfl⟩
  written := rfl
  allocated := rfl
  count := rfl
  agcCount := rfl

theorem HandsOver.filled {s s' : MeasState D G X H M} (h : HandsOver s s') :
    s'.Filled capacity where
  count := h.count ▸ Nat.zero_le _
  agc := fun index hindex => absurd (h.agcCount ▸ hindex) (Nat.not_lt_zero index)
  unallocated := fun _ => h.agcCount

/-- Handing over goes wrong only if something was written wrong before. -/
theorem HandsOver.inBounds_iff {s s' : MeasState D G X H M} (h : HandsOver s s')
    (hsize : capacity.measurementsMax ≤ capacity.svMeasMax) (hfilled : s.Filled capacity) :
    s'.InBounds capacity ↔ s.InBounds capacity := by
  obtain ⟨r, hreported, hcount, hagc⟩ := h.reported
  constructor
  · intro hbounds
    refine ⟨fun w hw => hbounds.written w (h.written ▸ hw), fun r' hr' => ?_⟩
    exact hbounds.reported r' (hreported ▸ List.mem_append_left _ hr')
  · intro hbounds
    refine ⟨fun w hw => hbounds.written w (h.written ▸ hw), fun r' hr' => ?_⟩
    rw [hreported] at hr'
    rcases List.mem_append.mp hr' with hr' | hr'
    · exact hbounds.reported r' hr'
    · have hfits := hfilled.fits hsize hbounds
      rw [List.mem_singleton.mp hr']
      exact ⟨hcount ▸ hfits.count, hcount ▸ hfits.svMeasCount, hagc ▸ hfits.agcCount⟩

theorem allocate_filled {s : MeasState D G X H M} (h : s.Filled capacity) :
    (s.allocate conv).Filled capacity := by
  rw [allocate]
  split
  · exact h
  · exact ⟨Nat.zero_le _, fun index hindex => absurd hindex (Nat.not_lt_zero index),
      fun _ => rfl⟩

theorem allocate_inBounds {s : MeasState D G X H M} (h : s.InBounds capacity) :
    (s.allocate conv).InBounds capacity := by
  rw [allocate]
  split
  · exact h
  · exact ⟨h.written, h.reported⟩

theorem noteEpoch_writes (s : MeasState D G X H M) (capacity : Capacity)
    (ind : GnssSvMeasInfoInd R) : WritesMeasurements capacity s (s.noteEpoch ind) :=
  .of_same rfl rfl rfl rfl rfl

/-- What a message finds after the epoch has begun. -/
theorem beginEpoch_spec {s : MeasState D G X H M} (ind : GnssSvMeasInfoInd R)
    (hsize : capacity.measurementsMax ≤ capacity.svMeasMax) (hfilled : s.Filled capacity) :
    (s.beginEpoch conv ind).Filled capacity ∧
      (s.InBounds capacity → (s.beginEpoch conv ind).InBounds capacity) ∧
      (s.beginEpoch conv ind).agcCount =
        if begins s.statics ind && s.statics.newMeasProcessed then 0 else s.agcCount := by
  rw [beginEpoch]
  cases hbegins : begins s.statics ind with
  | false => exact ⟨hfilled, id, rfl⟩
  | true =>
    cases hnew : s.statics.newMeasProcessed with
    | false =>
      have hwrites := s.noteEpoch_writes capacity ind
      exact ⟨hfilled.writes hwrites, fun hbounds => hbounds.writes hsize hwrites, rfl⟩
    | true =>
      have hflush := s.flush_handsOver conv ind
      have hwrites := (s.flush conv ind).noteEpoch_writes capacity ind
      exact ⟨hflush.filled.writes hwrites, fun hbounds =>
        ((hflush.inBounds_iff hsize hfilled).mpr hbounds).writes hsize hwrites, rfl⟩

/-- **The AGC entry decides** whether a message that is used writes within bounds. -/
theorem collect_inBounds_iff {s : MeasState D G X H M} (ind : GnssSvMeasInfoInd R)
    (hsize : capacity.measurementsMax ≤ capacity.svMeasMax) (hfilled : s.Filled capacity)
    (hallocated : s.api.allocated = true) :
    (s.collect conv capacity ind).Filled capacity ∧ (s.InBounds capacity →
      ((s.collect conv capacity ind).InBounds capacity ↔ s.agcCount < capacity.gnssAgcMax)) := by
  let s₀ : MeasState D G X H M :=
    { s with statics := { s.statics with newMeasProcessed := true } }
  have hlists : WritesMeasurements capacity s (((s₀.convertClockOfPreferred conv
      ind).convertGnssMeasurementsHeader conv ind).convertLists conv capacity ind) :=
    ((WritesMeasurements.of_same rfl rfl rfl rfl rfl : WritesMeasurements capacity s s₀).trans
      (convertClockOfPreferred_writes conv s₀ ind)).trans
        ((convertGnssMeasurementsHeader_writes conv _ ind).trans
          (convertLists_writes conv _ ind))
  rw [collect]
  generalize ((s₀.convertClockOfPreferred conv ind).convertGnssMeasurementsHeader conv
    ind).convertLists conv capacity ind = s₁ at hlists ⊢
  have hfilled₁ := hfilled.writes hlists
  have hagc : s₁.agcCount = s.agcCount := congrArg List.length hlists.gnssAgc
  have hkeep : WritesMeasurements capacity (s₁.convertAgc conv ind)
      ((s₁.convertAgc conv ind).keep1Hz conv ind) := keep1Hz_writes conv _ ind
  have hentry : (s₁.convertAgc conv ind).api.written =
      s₁.api.written ++ [.gnssAgc s.agcCount] := by
    rw [← hagc]
    rfl
  have hfilled₂ : (s₁.convertAgc conv ind).Filled capacity := by
    refine ⟨hfilled₁.count, fun index hindex => ?_, fun hno => ?_⟩
    · have hcount : (s₁.convertAgc conv ind).agcCount = s.agcCount + 1 := by
        rw [← hagc]
        exact List.length_append
      rw [hcount] at hindex
      rw [hentry]
      by_cases hlast : index = s.agcCount
      · subst hlast
        exact List.mem_append_right _ (List.mem_singleton.mpr rfl)
      · exact List.mem_append_left _ (hfilled₁.agc index (by omega))
    · exact absurd (hno.symm.trans (hlists.allocated.trans hallocated)) nofun
  refine ⟨hfilled₂.writes hkeep, fun hbounds => ⟨fun hin => ?_, fun hroom => ?_⟩⟩
  · obtain ⟨new, hwritten, -⟩ := hkeep.written
    have hmem : .gnssAgc s.agcCount ∈ ((s₁.convertAgc conv ind).keep1Hz conv ind).api.written := by
      rw [hwritten, hentry]
      exact List.mem_append_left _ (List.mem_append_right _ (List.mem_singleton.mpr rfl))
    exact hin.written _ hmem
  · have hbounds₁ := hbounds.writes hsize hlists
    have hbounds₂ : (s₁.convertAgc conv ind).InBounds capacity := by
      refine ⟨fun w hw => ?_, hbounds₁.reported⟩
      rw [hentry] at hw
      rcases List.mem_append.mp hw with hw | hw
      · exact hbounds₁.written w hw
      · rw [List.mem_singleton.mp hw]
        exact hroom
    exact hbounds₂.writes hsize hkeep

theorem finish_spec {s : MeasState D G X H M} (ind : GnssSvMeasInfoInd R)
    (hsize : capacity.measurementsMax ≤ capacity.svMeasMax) (hfilled : s.Filled capacity) :
    (s.finish conv ind).Filled capacity ∧
      ((s.finish conv ind).InBounds capacity ↔ s.InBounds capacity) := by
  rw [finish]
  split
  · have hflush := (s.closeEpoch conv ind).flush_handsOver conv ind
    have hfilled' : (s.closeEpoch conv ind).Filled capacity :=
      hfilled.writes (.of_same rfl rfl rfl rfl rfl)
    refine ⟨hflush.filled, (hflush.inBounds_iff hsize hfilled').trans ⟨fun h => ?_, fun h => ?_⟩⟩
    · exact ⟨h.written, h.reported⟩
    · exact ⟨h.written, h.reported⟩
  · exact ⟨hfilled, Iff.rfl⟩

/-! ## Messages -/

/-- What a message finds after the object is allocated. -/
theorem allocate_spec (s : MeasState D G X H M) (ind : GnssSvMeasInfoInd R) :
    (s.allocate conv).api.allocated = true ∧
      (if begins (s.allocate conv).statics ind && (s.allocate conv).statics.newMeasProcessed then 0
        else (s.allocate conv).agcCount) = s.agcCountAt ind := by
  cases hallocated : s.api.allocated with
  | true =>
    rw [show s.allocate conv = s from if_pos hallocated, agcCountAt, hallocated, Bool.not_true,
      Bool.false_or]
    exact ⟨rfl, rfl⟩
  | false =>
    have hagc : (s.allocate conv).agcCount = 0 := by
      rw [allocate, hallocated]
      rfl
    refine ⟨?_, ?_⟩
    · rw [allocate, hallocated]
      rfl
    · rw [hagc, ite_self, agcCountAt, hallocated]
      rfl

/-- **A message writes within bounds** exactly if there is room for its AGC entry. -/
theorem report_spec {s : MeasState D G X H M} (ind : GnssSvMeasInfoInd R)
    (hsize : capacity.measurementsMax ≤ capacity.svMeasMax) (hfilled : s.Filled capacity) :
    (s.reportGnssMeasurementData conv capacity ind).Filled capacity ∧ (s.InBounds capacity →
      ((s.reportGnssMeasurementData conv capacity ind).InBounds capacity ↔
        s.AgcRoom capacity ind)) := by
  obtain ⟨hallocated, hagcAt⟩ := s.allocate_spec conv ind
  have hfilled₁ := allocate_filled conv hfilled
  have hbounds₁ : s.InBounds capacity → (s.allocate conv).InBounds capacity :=
    allocate_inBounds conv
  rw [reportGnssMeasurementData]
  simp only []
  generalize s.allocate conv = s₁ at *
  cases hinvalid : ind.invalid with
  | true =>
    rw [if_pos rfl]
    exact ⟨hfilled₁, fun hbounds =>
      ⟨fun _ hno => absurd (hno.symm.trans hinvalid) nofun, fun _ => hbounds₁ hbounds⟩⟩
  | false =>
    rw [if_neg Bool.false_ne_true]
    obtain ⟨hfilled₂, hbounds₂, hagc⟩ := beginEpoch_spec conv ind hsize hfilled₁
    have hallocated₂ : (s₁.beginEpoch conv ind).api.allocated = true := by
      rw [beginEpoch]
      split
      · split <;> exact hallocated
      · exact hallocated
    cases hsystem : getLocApiSvSystemType ind.system == .unknown with
    | true =>
      rw [if_pos rfl]
      exact ⟨hfilled₂, fun hbounds => ⟨fun _ _ hknown => absurd (beq_iff_eq.mp hsystem) hknown,
        fun _ => hbounds₂ (hbounds₁ hbounds)⟩⟩
    | false =>
      rw [if_neg Bool.false_ne_true]
      obtain ⟨hfilled₃, hroom⟩ := collect_inBounds_iff conv ind hsize hfilled₂ hallocated₂
      obtain ⟨hfilled₄, hfinish⟩ := finish_spec conv ind hsize hfilled₃
      refine ⟨hfilled₄, fun hbounds => hfinish.trans ((hroom (hbounds₂ (hbounds₁ hbounds))).trans
        ?_)⟩
      rw [hagc, hagcAt]
      exact ⟨fun h _ _ => h, fun h => h hinvalid (beq_eq_false_iff_ne.mp hsystem)⟩

theorem new_filled (capacity : Capacity) (statics : Statics) (mPreferredSignalType : UInt64)
    (fullPower : Bool) (members : M) :
    (⟨statics, .new conv mPreferredSignalType fullPower members⟩ :
      MeasState D G X H M).Filled capacity :=
  ⟨Nat.zero_le _, fun index hindex => absurd hindex (Nat.not_lt_zero index), fun _ => rfl⟩

/-- A message of an epoch that is neither the first nor the last. -/
def middleInd : GnssSvMeasInfoInd Unit :=
  { sampleInd 1 2 3 1 freshMeasurement with
    subSeqNum := none, maxSubSeqNum := none, svMeasurement_valid := false }

theorem collect_middleInd (capacity : Capacity) (s : MeasState Unit Unit Unit Unit Unit) :
    let s' := s.collect unitConverters capacity middleInd
    s'.api.allocated = s.api.allocated ∧ s'.statics.prevRefFCount = s.statics.prevRefFCount ∧
      s'.agcCount = s.agcCount + 1 := by
  intro s'
  have hclock : ∀ s₀ : MeasState Unit Unit Unit Unit Unit,
      s₀.convertClockOfPreferred unitConverters middleInd = s₀ :=
    fun s₀ => if_neg (by rw [Bool.and_eq_true]; exact fun h => absurd h.2 (by decide))
  simp only [s', collect, hclock]
  exact ⟨rfl, rfl, List.length_append⟩

/-- The message begins nothing when it comes again. -/
theorem run_middleInd (capacity : Capacity) (n : Nat) {s : MeasState Unit Unit Unit Unit Unit}
    (hallocated : s.api.allocated = true)
    (hprev : s.statics.prevRefFCount = middleInd.refFCount) :
    (run (fun s ind => s.reportGnssMeasurementData unitConverters capacity ind) s
      (List.replicate n middleInd)).agcCount = s.agcCount + n := by
  induction n generalizing s with
  | zero => rfl
  | succ n ih =>
    have hbegins : begins s.statics middleInd = false := by
      rw [begins, hprev, bne_self_eq_false]
      rfl
    have hstep : s.reportGnssMeasurementData unitConverters capacity middleInd =
        s.collect unitConverters capacity middleInd := by
      show ((s.allocate unitConverters).beginEpoch unitConverters middleInd).collect
        unitConverters capacity middleInd = _
      rw [show s.allocate unitConverters = s from if_pos hallocated, beginEpoch, hbegins]
      rfl
    obtain ⟨hallocated', hprev', hagc⟩ := collect_middleInd capacity s
    rw [List.replicate_succ, run_cons, hstep,
      ih (hallocated'.trans hallocated) (hprev'.trans hprev), hagc]
    omega

end MeasState

end LocationStack.LocApi
