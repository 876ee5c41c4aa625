import Mathlib.Logic.Function.Basic
import LocationStack.LocApi.Measurements

/-! # Objects that share static variables

What begins an epoch, whether there is anything to report, and how many discontinuities of the
clock there were is kept in static variables.  Objects that get messages in turn write over each
other's.  Each one reports what it would alone as long as every message sees in the static
variables what it would see then.
-/
namespace LocationStack.LocApi

open EventRun

/-- The objects and their static variables.  `own` are the static variables as each object would
have left them alone. -/
structure Objects (ι D G X H M : Type) where
  statics : Statics
  inst : ι → MeasApi D G X H M
  own : ι → Statics

namespace Objects

variable {ι R D G X H M : Type} [DecidableEq ι] (conv : Converters R D G X H M)
  (capacity : Capacity)

/-- An object gets a message. -/
def step (s : Objects ι D G X H M) (e : ι × GnssSvMeasInfoInd R) : Objects ι D G X H M :=
  let next := MeasState.reportGnssMeasurementData conv capacity ⟨s.statics, s.inst e.1⟩ e.2
  let alone := MeasState.reportGnssMeasurementData conv capacity ⟨s.own e.1, s.inst e.1⟩ e.2
  { statics := next.statics
    inst := Function.update s.inst e.1 next.api
    own := Function.update s.own e.1 alone.statics }

def init (inst : ι → MeasApi D G X H M) : Objects ι D G X H M := ⟨.init, inst, fun _ => .init⟩

/-- The messages of an object. -/
def messagesOf (i : ι) (stream : List (ι × GnssSvMeasInfoInd R)) : List (GnssSvMeasInfoInd R) :=
  (stream.filter (·.1 = i)).map (·.2)

/-! ## What a message sees -/

/-- The message has the clock that is taken. -/
def takesClock (api : MeasApi D G X H M) (ind : GnssSvMeasInfoInd R) : Bool :=
  (api.mPreferredSignalType == ind.gnssSignalType && ind.sub == 1) && MeasState.timed ind

/-- Two values of the counts that the clock of a message does not tell apart: the reference count
has gone back, or has not, the number of clock resets is another one, or is not, and the
discontinuities that were counted are as many. -/
def ClockAlike (statics own : Statics) (ind : GnssSvMeasInfoInd R) : Prop :=
  (ind.refFCount ≤ statics.oldRefFCount ↔ ind.refFCount ≤ own.oldRefFCount) ∧
    (ind.numClockResets = statics.oldDiscCount ↔ ind.numClockResets = own.oldDiscCount) ∧
    statics.localDiscCount = own.localDiscCount

instance (statics own : Statics) (ind : GnssSvMeasInfoInd R) :
    Decidable (ClockAlike statics own ind) :=
  inferInstanceAs (Decidable (_ ∧ _ ∧ _))

/-- Two values of the static variables that a message does not tell apart. -/
structure Alike (statics own : Statics) (api : MeasApi D G X H M) (ind : GnssSvMeasInfoInd R) :
    Prop where
  /-- It begins an epoch, or does not. -/
  begins : ind.invalid = false → MeasState.begins statics ind = MeasState.begins own ind
  /-- What was collected before is handed over, or there is nothing. -/
  newMeasProcessed : api.allocated = true → ind.invalid = false →
    MeasState.begins own ind = true → statics.newMeasProcessed = own.newMeasProcessed
  clock : ind.invalid = false → getLocApiSvSystemType ind.system ≠ .unknown →
    takesClock api ind = true → ClockAlike statics own ind

instance (statics own : Statics) (api : MeasApi D G X H M) (ind : GnssSvMeasInfoInd R) :
    Decidable (Alike statics own api ind) :=
  decidable_of_iff
    ((ind.invalid = false → MeasState.begins statics ind = MeasState.begins own ind) ∧
      (api.allocated = true → ind.invalid = false → MeasState.begins own ind = true →
        statics.newMeasProcessed = own.newMeasProcessed) ∧
      (ind.invalid = false → getLocApiSvSystemType ind.system ≠ .unknown →
        takesClock api ind = true → ClockAlike statics own ind))
    ⟨fun ⟨hbegins, hnew, hclock⟩ => ⟨hbegins, hnew, hclock⟩,
      fun h => ⟨h.begins, h.newMeasProcessed, h.clock⟩⟩

/-- The message sees what it would see if the object were alone. -/
def SeesOwn (s : Objects ι D G X H M) (e : ι × GnssSvMeasInfoInd R) : Prop :=
  Alike s.statics (s.own e.1) (s.inst e.1) e.2

instance (s : Objects ι D G X H M) (e : ι × GnssSvMeasInfoInd R) : Decidable (s.SeesOwn e) :=
  inferInstanceAs (Decidable (Alike _ _ _ _))

end Objects

/-! ## Steps that leave the static variables alone -/

namespace MeasState

variable {R D G X H M : Type} (conv : Converters R D G X H M) (capacity : Capacity)

/-- A step that neither reads nor writes a static variable. -/
def Local (f : MeasState D G X H M → MeasState D G X H M) : Prop :=
  ∀ statics own api, f ⟨statics, api⟩ = ⟨statics, (f ⟨own, api⟩).api⟩

theorem Local.comp {f g : MeasState D G X H M → MeasState D G X H M} (hf : Local f)
    (hg : Local g) : Local fun s => g (f s) := by
  intro statics own api
  show g (f ⟨statics, api⟩) = ⟨statics, (g (f ⟨own, api⟩)).api⟩
  rw [hf statics own api, hg statics (f ⟨own, api⟩).statics]

theorem Local.ite {f g : MeasState D G X H M → MeasState D G X H M}
    (test : MeasApi D G X H M → Prop) [DecidablePred test] (hf : Local f) (hg : Local g) :
    Local fun s => if test s.api then f s else g s := by
  intro statics own api
  by_cases htest : test api
  · simp only [if_pos htest]
    exact hf statics own api
  · simp only [if_neg htest]
    exact hg statics own api

theorem Local.id : Local fun s : MeasState D G X H M => s := fun _ _ _ => rfl

theorem convertGnssMeasurementsHeader_local (ind : GnssSvMeasInfoInd R) :
    Local fun s => convertGnssMeasurementsHeader conv s ind :=
  Local.ite (fun _ => (ind.sub == 1) = true) (fun _ _ _ => rfl) Local.id

theorem convertList_local (ind : GnssSvMeasInfoInd R) (isExt : Bool) (indices : List Nat) :
    Local (convertList conv capacity ind isExt indices) := by
  induction indices with
  | nil => exact Local.id
  | cons index rest ih =>
    have hone : Local fun s => if ind.reports isExt index then
        convertGnssMeasurements conv s ind isExt index else s :=
      Local.ite (fun _ => ind.reports isExt index = true) (fun _ _ _ => rfl) Local.id
    exact Local.ite
      (fun api => api.mGnssMeasurements.measurements.length < capacity.measurementsMax)
      (hone.comp ih) Local.id

theorem convertLists_local (ind : GnssSvMeasInfoInd R) :
    Local fun s => convertLists conv capacity s ind := by
  have hsecond := Local.ite (fun _ => ind.listed true = true)
    (convertList_local conv capacity ind true (List.range ind.extSvMeasurement_len)) Local.id
  exact Local.ite (fun _ => ind.listed false = true)
    ((convertList_local conv capacity ind false _).comp hsecond) Local.id

theorem convertAgc_local (ind : GnssSvMeasInfoInd R) :
    Local fun s => convertAgc conv s ind := fun _ _ _ => rfl

theorem keep1Hz_local (ind : GnssSvMeasInfoInd R) : Local fun s => keep1Hz conv s ind :=
  Local.ite (fun api => (ind.maxMessageNum == ind.seqNum && !api.mGnssMeasurements.isNhz) = true)
    (fun _ _ _ => rfl) Local.id

/-! ## One message -/

/-- The counts of discontinuities after a message that begins an epoch. -/
structure SameCounts (statics statics' : Statics) : Prop where
  oldRefFCount : statics'.oldRefFCount = statics.oldRefFCount
  oldDiscCount : statics'.oldDiscCount = statics.oldDiscCount
  localDiscCount : statics'.localDiscCount = statics.localDiscCount

theorem beginEpoch_counts (s : MeasState D G X H M) (ind : GnssSvMeasInfoInd R) :
    SameCounts s.statics (s.beginEpoch conv ind).statics := by
  rw [beginEpoch]
  split
  · split <;> exact ⟨rfl, rfl, rfl⟩
  · exact ⟨rfl, rfl, rfl⟩

theorem beginEpoch_api (statics own : Statics) (api : MeasApi D G X H M)
    {ind : GnssSvMeasInfoInd R} (hbegins : begins statics ind = begins own ind)
    (hnew : begins own ind = true → statics.newMeasProcessed = own.newMeasProcessed) :
    (beginEpoch conv ⟨statics, api⟩ ind).api = (beginEpoch conv ⟨own, api⟩ ind).api := by
  simp only [beginEpoch, hbegins]
  split
  · case isTrue h =>
    rw [hnew h]
    split <;> rfl
  · rfl

/-- The clock is the same, if the message does not tell the counts apart. -/
theorem convertClockOfPreferred_api (statics own : Statics) (api : MeasApi D G X H M)
    {ind : GnssSvMeasInfoInd R}
    (hclock : Objects.takesClock api ind = true → Objects.ClockAlike statics own ind) :
    (convertClockOfPreferred conv ⟨statics, api⟩ ind).api =
      (convertClockOfPreferred conv ⟨own, api⟩ ind).api := by
  simp only [convertClockOfPreferred]
  split
  · case isTrue hpreferred =>
    simp only [convertGnssClock]
    cases htimed : timed ind with
    | false => simp [setClock, htimed]
    | true =>
      obtain ⟨href, hdisc, hlocal⟩ := hclock (by
        rw [Objects.takesClock, hpreferred, htimed]
        rfl)
      have hchanged : (ind.numClockResets != statics.oldDiscCount) =
          (ind.numClockResets != own.oldDiscCount) := by
        rw [Bool.eq_iff_iff, bne_iff_ne, bne_iff_ne]
        exact not_congr hdisc
      simp only [setClock, htimed, countDiscontinuity, if_true, hlocal, href, hchanged]
  · rfl

/-- What a message adds is the same, if the message does not tell the counts apart. -/
theorem collect_api (statics own : Statics) (api : MeasApi D G X H M)
    {ind : GnssSvMeasInfoInd R}
    (hclock : Objects.takesClock api ind = true → Objects.ClockAlike statics own ind) :
    (collect conv capacity ⟨statics, api⟩ ind).api =
      (collect conv capacity ⟨own, api⟩ ind).api := by
  have hrest : Local fun s => keep1Hz conv (convertAgc conv (convertLists conv capacity
      (convertGnssMeasurementsHeader conv s ind) ind) ind) ind :=
    (((convertGnssMeasurementsHeader_local conv ind).comp
      (convertLists_local conv capacity ind)).comp (convertAgc_local conv ind)).comp
        (keep1Hz_local conv ind)
  have hclock' := convertClockOfPreferred_api conv { statics with newMeasProcessed := true }
    { own with newMeasProcessed := true } api hclock
  simp only [collect]
  generalize convertClockOfPreferred conv ⟨{ statics with newMeasProcessed := true }, api⟩ ind =
    s at hclock' ⊢
  generalize convertClockOfPreferred conv ⟨{ own with newMeasProcessed := true }, api⟩ ind =
    s' at hclock' ⊢
  exact (congrArg MeasState.api (hrest s.statics s'.statics s.api)).trans
    (by rw [show s.api = s'.api from hclock'])

theorem finish_api (statics own : Statics) (api : MeasApi D G X H M) (ind : GnssSvMeasInfoInd R) :
    (finish conv ⟨statics, api⟩ ind).api = (finish conv ⟨own, api⟩ ind).api := by
  simp only [finish]
  split <;> rfl

theorem allocate_eq (statics own : Statics) (api : MeasApi D G X H M) :
    allocate conv ⟨statics, api⟩ =
      ⟨{ statics with newMeasProcessed := api.allocated && statics.newMeasProcessed },
        (allocate conv ⟨own, api⟩).api⟩ := by
  simp only [allocate]
  cases hallocated : api.allocated <;> rfl

theorem allocate_preferred (s : MeasState D G X H M) :
    (s.allocate conv).api.mPreferredSignalType = s.api.mPreferredSignalType := by
  rw [allocate]
  split <;> rfl

theorem beginEpoch_preferred (s : MeasState D G X H M) (ind : GnssSvMeasInfoInd R) :
    (s.beginEpoch conv ind).api.mPreferredSignalType = s.api.mPreferredSignalType := by
  rw [beginEpoch]
  split
  · split <;> rfl
  · rfl

/-- **A message has the same effect on the object**, if the static variables are alike for it. -/
theorem report_api {statics own : Statics} {api : MeasApi D G X H M} {ind : GnssSvMeasInfoInd R}
    (h : Objects.Alike statics own api ind) :
    (reportGnssMeasurementData conv capacity ⟨statics, api⟩ ind).api =
      (reportGnssMeasurementData conv capacity ⟨own, api⟩ ind).api := by
  have hpreferred := allocate_preferred conv (⟨own, api⟩ : MeasState D G X H M)
  simp only [reportGnssMeasurementData]
  rw [allocate_eq conv statics own, allocate_eq conv own own]
  generalize (allocate conv ⟨own, api⟩).api = api₁ at hpreferred ⊢
  cases hinvalid : ind.invalid with
  | true => rfl
  | false =>
    simp only [Bool.false_eq_true, if_false]
    let statics₁ : Statics :=
      { statics with newMeasProcessed := api.allocated && statics.newMeasProcessed }
    let own₁ : Statics := { own with newMeasProcessed := api.allocated && own.newMeasProcessed }
    have hnew : begins own₁ ind = true → statics₁.newMeasProcessed = own₁.newMeasProcessed := by
      intro hbegins
      cases hallocated : api.allocated with
      | false => simp [statics₁, own₁, hallocated]
      | true => simp [statics₁, own₁, hallocated, h.newMeasProcessed hallocated hinvalid hbegins]
    have hbegin := beginEpoch_api conv statics₁ own₁ api₁
      (h.begins hinvalid) hnew
    have hcounts := beginEpoch_counts conv ⟨statics₁, api₁⟩ ind
    have hcounts' := beginEpoch_counts conv ⟨own₁, api₁⟩ ind
    have hpreferred' := (beginEpoch_preferred conv ⟨own₁, api₁⟩ ind).trans hpreferred
    show MeasState.api (if _ then beginEpoch conv ⟨statics₁, api₁⟩ ind else finish conv
      (collect conv capacity (beginEpoch conv ⟨statics₁, api₁⟩ ind) ind) ind) =
        MeasState.api (if _ then beginEpoch conv ⟨own₁, api₁⟩ ind else finish conv
          (collect conv capacity (beginEpoch conv ⟨own₁, api₁⟩ ind) ind) ind)
    generalize beginEpoch conv ⟨statics₁, api₁⟩ ind = s at hbegin hcounts ⊢
    generalize beginEpoch conv ⟨own₁, api₁⟩ ind = s' at hbegin hcounts' hpreferred' ⊢
    cases hsystem : getLocApiSvSystemType ind.system == .unknown with
    | true => exact hbegin
    | false =>
      have hknown := beq_eq_false_iff_ne.mp hsystem
      have hclock : Objects.takesClock s'.api ind = true →
          Objects.ClockAlike s.statics s'.statics ind := by
        intro htakes
        have htakes' : Objects.takesClock api ind = true := by
          rw [Objects.takesClock, hpreferred'] at htakes
          exact htakes
        rw [Objects.ClockAlike, hcounts.oldRefFCount, hcounts.oldDiscCount,
          hcounts.localDiscCount, hcounts'.oldRefFCount, hcounts'.oldDiscCount,
          hcounts'.localDiscCount]
        exact h.clock hinvalid hknown htakes'
      have hcollect := collect_api conv capacity s.statics s'.statics s'.api hclock
      rw [← show s.api = s'.api from hbegin] at hcollect
      show MeasState.api (finish conv (collect conv capacity s ind) ind) =
        MeasState.api (finish conv (collect conv capacity ⟨s'.statics, s'.api⟩ ind) ind)
      rw [← show s.api = s'.api from hbegin]
      generalize collect conv capacity ⟨s'.statics, s.api⟩ ind = c' at hcollect ⊢
      replace hcollect : (collect conv capacity s ind).api = c'.api := hcollect
      generalize collect conv capacity s ind = c at hcollect ⊢
      refine (finish_api conv c.statics c'.statics c.api ind).trans ?_
      rw [hcollect]

end MeasState

/-! ## Runs -/

namespace Objects

variable {ι R D G X H M : Type} [DecidableEq ι] (conv : Converters R D G X H M)
  (capacity : Capacity)

theorem messagesOf_cons_same (i : ι) (ind : GnssSvMeasInfoInd R)
    (stream : List (ι × GnssSvMeasInfoInd R)) :
    messagesOf i ((i, ind) :: stream) = ind :: messagesOf i stream := by
  simp [messagesOf]

theorem messagesOf_cons_other {i j : ι} (hij : j ≠ i) (ind : GnssSvMeasInfoInd R)
    (stream : List (ι × GnssSvMeasInfoInd R)) :
    messagesOf i ((j, ind) :: stream) = messagesOf i stream := by
  simp [messagesOf, hij]

/-- **An object does what it would do alone**, if its messages see what they would see alone. -/
theorem run_alone {s : Objects ι D G X H M} {stream : List (ι × GnssSvMeasInfoInd R)}
    (hmeets : Meets (step conv capacity) SeesOwn s stream) (i : ι) :
    (run (step conv capacity) s stream).inst i =
      (run (fun s ind => MeasState.reportGnssMeasurementData conv capacity s ind)
        ⟨s.own i, s.inst i⟩ (messagesOf i stream)).api := by
  induction stream generalizing s with
  | nil => rfl
  | cons e stream ih =>
    obtain ⟨j, ind⟩ := e
    obtain ⟨hsees, hrest⟩ := hmeets
    rw [run_cons, ih hrest]
    by_cases hij : j = i
    · subst hij
      rw [messagesOf_cons_same, run_cons]
      congr 2
      show MeasState.mk (Function.update s.own j _ j) (Function.update s.inst j _ j) = _
      rw [Function.update_self, Function.update_self, MeasState.report_api conv capacity hsees]
    · rw [messagesOf_cons_other hij]
      congr 2
      show MeasState.mk (Function.update s.own j _ i) (Function.update s.inst j _ i) = _
      rw [Function.update_of_ne (Ne.symm hij), Function.update_of_ne (Ne.symm hij)]

/-- **The objects do not influence each other's reports**, as long as every message sees what it
would see if its object were alone. -/
theorem reports_isolated (inst : ι → MeasApi D G X H M)
    {stream : List (ι × GnssSvMeasInfoInd R)}
    (hmeets : Meets (step conv capacity) SeesOwn (init inst) stream) (i : ι) :
    ((run (step conv capacity) (init inst) stream).inst i).reported =
      (run (fun s ind => MeasState.reportGnssMeasurementData conv capacity s ind)
        ⟨.init, inst i⟩ (messagesOf i stream)).api.reported :=
  congrArg MeasApi.reported (run_alone conv capacity hmeets i)

/-- Two objects with full power, and an epoch after the other. -/
theorem reports_isolated_sample :
    let inst := fun _ : Bool => MeasApi.new unitConverters 1 true ()
    let stream := [(false, sampleInd 1 1 1 1 freshMeasurement),
      (true, sampleInd 3 1 1 1 freshMeasurement), (false, sampleInd 4 1 1 1 freshMeasurement)]
    ((run (step unitConverters sampleCapacity) (init inst) stream).inst false).reported =
      (run (fun s ind => MeasState.reportGnssMeasurementData unitConverters sampleCapacity s ind)
        ⟨.init, inst false⟩ (messagesOf false stream)).api.reported :=
  reports_isolated unitConverters sampleCapacity _ (by decide +kernel) false

/-- Two objects that get the same messages: the second one finds that the reference count has not
advanced, and takes that for a discontinuity. -/
theorem discontinuity_of_other :
    let inst := fun _ : Bool => MeasApi.new unitConverters 1 false ()
    let stream := [(false, sampleInd 1 1 1 1 freshMeasurement),
      (true, sampleInd 1 1 1 1 freshMeasurement), (false, sampleInd 2 1 1 1 freshMeasurement),
      (true, sampleInd 2 1 1 1 freshMeasurement)]
    ((run (step unitConverters sampleCapacity) (init inst) stream).inst true).reported ≠
      (run (fun s ind => MeasState.reportGnssMeasurementData unitConverters sampleCapacity s ind)
        ⟨.init, inst true⟩ (messagesOf true stream)).api.reported := by
  intro inst stream h
  have hcounts := congrArg
    (List.map fun r => r.clock.hwClockDiscontinuityCount) h
  revert hcounts
  decide +kernel

end Objects

end LocationStack.LocApi
