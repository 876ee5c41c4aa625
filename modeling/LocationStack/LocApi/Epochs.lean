import Mathlib.Data.List.Nodup
import LocationStack.LocApi.Collecting

/-! # A report has the measurements of one epoch

Every measurement that is fresh and may be used is to be in one report, with the others of its
epoch, in the order that they arrive in and as far as there is room; the clock of the report is to
be that of the epoch.

The object does not know the epochs.  It collects until a message seems to begin another epoch or
to be the last one, so that what it reports depends on messages that arrive again or between those
of another epoch.  The loop over the second list looks at the status of the first list, and the
second list is looked at only if there is a first.  A clock without a sub-sequence number is never
taken.
-/
namespace LocationStack.LocApi

open EventRun

/-! ## What is to be reported -/

namespace GnssSvMeasInfoInd

variable {R : Type} (ind : GnssSvMeasInfoInd R)

def measurement : Bool → Nat → SvMeasurement
  | false => ind.svMeasurement
  | true => ind.extSvMeasurement

/-- The measurements of a list that a report is to hold. -/
def usableOf (isExt : Bool) : List Measured :=
  if ind.listed isExt then ind.select (fun index => (ind.measurement isExt index).usable) isExt
  else []

def usable : List Measured := ind.usableOf false ++ ind.usableOf true

/-- The message that has the clock of its epoch: the first one of the preferred signal. -/
def CarriesClock (preferred : UInt64) : Prop := preferred = ind.gnssSignalType ∧ ind.sub ≤ 1

instance (preferred : UInt64) : Decidable (ind.CarriesClock preferred) :=
  inferInstanceAs (Decidable (_ ∧ _))

/-- The message is used: its numbers are possible and its system is known. -/
def taken : Bool := !ind.invalid && getLocApiSvSystemType ind.system != .unknown

end GnssSvMeasInfoInd

/-- The object, and the messages that have arrived. -/
structure Assembly (R D G X H M : Type) where
  state : MeasState D G X H M
  arrived : List (GnssSvMeasInfoInd R)

/-- How the messages arrive: each has a reference count, those of an epoch are in order, and an
epoch that has the reference count of another of its rate starts with the number 1. -/
structure Arrives {R : Type} (stream : List (GnssSvMeasInfoInd R)) : Prop where
  refFCount : ∀ part ∈ stream, part.systemTimeExt_valid = true
  ordered : stream.Pairwise fun part later => part.epoch = later.epoch →
    part.seqNum < later.seqNum ∨ part.seqNum = later.seqNum ∧ part.sub ≤ later.sub
  distinct : ∀ before part after, stream = before ++ part :: after →
    (∀ earlier ∈ before, earlier.epoch ≠ part.epoch) →
      ∀ earlier ∈ before, earlier.isNhz = part.isNhz →
        earlier.refFCount ≠ part.refFCount ∨ part.seqNum = 1

/-- What is to be reported of an epoch, were there room for all. -/
def ofEpoch {R : Type} (arrived : List (GnssSvMeasInfoInd R)) (e : Epoch) : List Measured :=
  (arrived.filter (·.epoch = e)).flatMap (·.usable)

/-- The clock of an epoch, or none if no message with it has arrived. -/
def ClockOf {R X : Type} (preferred : UInt64) (arrived : List (GnssSvMeasInfoInd R)) (e : Epoch)
    (clock : GnssMeasurementsClock X) : Prop :=
  (∃ part ∈ arrived, part.epoch = e ∧ part.CarriesClock preferred ∧ clock.From part) ∨
    (∀ part ∈ arrived, part.epoch = e → ¬ part.CarriesClock preferred) ∧ clock.epoch = none

namespace Assembly

variable {R D G X H M : Type} (conv : Converters R D G X H M) (capacity : Capacity)

/-- A message arrives. -/
def step (s : Assembly R D G X H M) (ind : GnssSvMeasInfoInd R) : Assembly R D G X H M :=
  ⟨s.state.reportGnssMeasurementData conv capacity ind, s.arrived ++ [ind]⟩

def init (mPreferredSignalType : UInt64) (fullPower : Bool) (members : M) :
    Assembly R D G X H M :=
  ⟨⟨.init, .new conv mPreferredSignalType fullPower members⟩, []⟩

def preferred (s : Assembly R D G X H M) : UInt64 := s.state.api.mPreferredSignalType

/-- What is collected and not yet reported. -/
def pending (s : Assembly R D G X H M) : List Measured := s.state.api.mGnssMeasurements.sources

/-- All that is or will be reported. -/
def collected (s : Assembly R D G X H M) : List Measured :=
  s.state.api.reported.flatMap (·.sources) ++ s.pending

/-- The measurements of an epoch that there is room for. -/
def roomFor (s : Assembly R D G X H M) (e : Epoch) : List Measured :=
  (ofEpoch s.arrived e).take capacity.measurementsMax

/-- **Every report has the measurements of an epoch**, in the order of their arrival, and its
clock; every measurement that there is room for is collected once, and nothing else is. -/
structure Assembled (s : Assembly R D G X H M) : Prop where
  report : ∀ r ∈ s.state.api.reported, ∃ e, r.sources = s.roomFor capacity e ∧
    ClockOf s.preferred s.arrived e r.clock
  once : ∀ part ∈ s.arrived, ∀ m ∈ part.usable, m ∈ s.roomFor capacity part.epoch →
    s.collected.count m = 1
  usable : ∀ m ∈ s.collected, ∃ part ∈ s.arrived, m ∈ part.usable

/-! ## When it is -/

/-- The epoch of the message that was used last. -/
def lastTaken (s : Assembly R D G X H M) : Option Epoch :=
  (s.arrived.filter (·.taken)).getLast?.map (·.epoch)

/-- What was collected before is not added to. -/
def Begins (s : Assembly R D G X H M) (ind : GnssSvMeasInfoInd R) : Prop :=
  MeasState.begins s.state.statics ind = true ∨ s.state.statics.newMeasProcessed = false

/-- A message that is used as it should be. -/
structure CleanPart (s : Assembly R D G X H M) (ind : GnssSvMeasInfoInd R) : Prop where
  /-- The status of a fresh measurement of the second list is that of the first list. -/
  ext : ind.listed true = true → ∀ index < ind.extSvMeasurement_len,
    (ind.extSvMeasurement index).fresh = true →
      (ind.extSvMeasurement index).dontUse = (ind.svMeasurement index).dontUse
  /-- There is no second list without a first. -/
  listed : ind.usableOf true ≠ [] → ind.listed false = true
  /-- The clock comes with a sub-sequence number. -/
  clock : ind.CarriesClock s.preferred → ind.sub = 1
  /-- A message begins a report exactly if it is the first one of its epoch. -/
  first : s.Begins ind → ∀ part ∈ s.arrived, part.taken = true → part.epoch ≠ ind.epoch
  /-- A message that does not is of the epoch that is collected. -/
  same : ¬ s.Begins ind → s.lastTaken = some ind.epoch
  /-- Nothing is collected again. -/
  unseen : ∀ m ∈ ind.usable, m ∉ s.pending

instance (s : Assembly R D G X H M) (ind : GnssSvMeasInfoInd R) :
    Decidable (s.CleanPart ind) :=
  have : Decidable (s.Begins ind) := inferInstanceAs (Decidable (_ ∨ _))
  decidable_of_iff
    ((ind.listed true = true → ∀ index < ind.extSvMeasurement_len,
        (ind.extSvMeasurement index).fresh = true →
          (ind.extSvMeasurement index).dontUse = (ind.svMeasurement index).dontUse) ∧
      (ind.usableOf true ≠ [] → ind.listed false = true) ∧
      (ind.CarriesClock s.preferred → ind.sub = 1) ∧
      (s.Begins ind → ∀ part ∈ s.arrived, part.taken = true → part.epoch ≠ ind.epoch) ∧
      (¬ s.Begins ind → s.lastTaken = some ind.epoch) ∧ ∀ m ∈ ind.usable, m ∉ s.pending)
    ⟨fun ⟨hext, hlisted, hclock, hfirst, hsame, hunseen⟩ =>
        ⟨hext, hlisted, hclock, hfirst, hsame, hunseen⟩,
      fun h => ⟨h.ext, h.listed, h.clock, h.first, h.same, h.unseen⟩⟩

/-- What a message must not do. -/
def Clean (s : Assembly R D G X H M) (ind : GnssSvMeasInfoInd R) : Prop :=
  if ind.taken then s.CleanPart ind else ind.usable = [] ∧ ¬ ind.CarriesClock s.preferred

instance (s : Assembly R D G X H M) (ind : GnssSvMeasInfoInd R) : Decidable (s.Clean ind) :=
  inferInstanceAs (Decidable (if ind.taken = true then _ else _ ∧ _))

end Assembly

/-! ## Collecting -/

namespace GnssSvMeasInfoInd

variable {R : Type} (ind : GnssSvMeasInfoInd R)

theorem mem_usableOf {isExt : Bool} {m : Measured} (h : m ∈ ind.usableOf isExt) :
    ∃ index, m = ind.measured isExt index := by
  rw [usableOf] at h
  split at h
  · rw [select] at h
    obtain ⟨index, -, rfl⟩ := List.mem_map.mp h
    exact ⟨index, rfl⟩
  · exact absurd h List.not_mem_nil

theorem epoch_of_mem_usable {m : Measured} (h : m ∈ ind.usable) : m.epoch = ind.epoch := by
  rcases List.mem_append.mp h with h | h <;>
  · obtain ⟨index, rfl⟩ := ind.mem_usableOf h
    rfl

theorem usableOf_nodup (isExt : Bool) : (ind.usableOf isExt).Nodup := by
  rw [usableOf]
  split
  · have hinjective : Function.Injective (ind.measured isExt) :=
      fun i j hij => congrArg Measured.index hij
    exact List.Nodup.map hinjective (List.nodup_range.filter _)
  · exact List.nodup_nil

theorem usable_nodup : ind.usable.Nodup := by
  refine List.Nodup.append (ind.usableOf_nodup false) (ind.usableOf_nodup true) ?_
  intro m hfirst hsecond
  obtain ⟨i, rfl⟩ := ind.mem_usableOf hfirst
  obtain ⟨j, hij⟩ := ind.mem_usableOf hsecond
  exact Bool.false_ne_true (congrArg Measured.isExt hij)

/-- The loops convert what is to be reported. -/
theorem converted_eq_usable
    (hext : ind.listed true = true → ∀ index < ind.extSvMeasurement_len,
      (ind.extSvMeasurement index).fresh = true →
        (ind.extSvMeasurement index).dontUse = (ind.svMeasurement index).dontUse)
    (hlisted : ind.usableOf true ≠ [] → ind.listed false = true) : ind.converted = ind.usable := by
  have hsecond : ind.usableOf true =
      if ind.listed true then ind.select (ind.reports true) true else [] := by
    rw [usableOf]
    split
    · case isTrue hext' =>
      refine congrArg (List.map _) (List.filter_congr fun index hindex => ?_)
      cases hfresh : (ind.extSvMeasurement index).fresh with
      | false => simp [reports, measurement, SvMeasurement.usable, hfresh]
      | true =>
        have hstatus := hext hext' index (List.mem_range.mp hindex) hfresh
        simp [reports, measurement, SvMeasurement.usable, hfresh, hstatus]
    · rfl
  rw [converted, usable, ← hsecond]
  by_cases hfirst : ind.listed false = true
  · rw [if_pos hfirst]
    show _ = (if ind.listed false then ind.select (ind.reports false) false else []) ++ _
    rw [if_pos hfirst]
  · have hnone : ind.usableOf true = [] := by
      by_contra h
      exact hfirst (hlisted h)
    rw [if_neg hfirst, hnone, usableOf, if_neg hfirst]
    rfl

end GnssSvMeasInfoInd

/-! ## The invariant -/

section OfEpoch

variable {R X : Type} {arrived : List (GnssSvMeasInfoInd R)} {ind : GnssSvMeasInfoInd R}
  {e : Epoch}

theorem ofEpoch_append_same (arrived : List (GnssSvMeasInfoInd R)) (ind : GnssSvMeasInfoInd R) :
    ofEpoch (arrived ++ [ind]) ind.epoch = ofEpoch arrived ind.epoch ++ ind.usable := by
  simp [ofEpoch]

theorem ofEpoch_append_other (h : ind.epoch ≠ e ∨ ind.usable = []) :
    ofEpoch (arrived ++ [ind]) e = ofEpoch arrived e := by
  rcases h with h | h
  · simp [ofEpoch, h]
  · by_cases he : ind.epoch = e <;> simp [ofEpoch, he, h]

theorem mem_ofEpoch {m : Measured} (h : m ∈ ofEpoch arrived e) :
    ∃ part ∈ arrived, part.epoch = e ∧ m ∈ part.usable := by
  obtain ⟨part, hpart, hm⟩ := List.mem_flatMap.mp h
  obtain ⟨harrived, he⟩ := List.mem_filter.mp hpart
  exact ⟨part, harrived, of_decide_eq_true he, hm⟩

theorem ofEpoch_eq_nil (h : ∀ part ∈ arrived, part.epoch = e → part.usable = []) :
    ofEpoch arrived e = [] := by
  refine List.flatMap_eq_nil_iff.mpr fun part hpart => ?_
  obtain ⟨harrived, he⟩ := List.mem_filter.mp hpart
  exact h part harrived (of_decide_eq_true he)

variable {preferred : UInt64} {clock clock' : GnssMeasurementsClock X}

theorem ClockOf.same (h : ClockOf preferred arrived e clock)
    (hsame : MeasState.SameClock clock clock') : ClockOf preferred arrived e clock' := by
  rcases h with ⟨part, harrived, he, hcarries, hfrom⟩ | ⟨hnone, hclock⟩
  · refine Or.inl ⟨part, harrived, he, hcarries, ?_⟩
    exact ⟨hsame.epoch.trans hfrom.epoch, hsame.timed.trans hfrom.timed,
      fun htimed => hsame.timeNs.trans (hfrom.timeNs htimed)⟩
  · exact Or.inr ⟨hnone, hsame.epoch.trans hclock⟩

/-- Another message leaves the clock of an epoch as it is. -/
theorem ClockOf.append (h : ClockOf preferred arrived e clock)
    (hind : ind.epoch = e → ¬ ind.CarriesClock preferred) :
    ClockOf preferred (arrived ++ [ind]) e clock := by
  rcases h with ⟨part, harrived, hrest⟩ | ⟨hnone, hclock⟩
  · exact Or.inl ⟨part, List.mem_append_left _ harrived, hrest⟩
  · refine Or.inr ⟨fun part hpart => ?_, hclock⟩
    rcases List.mem_append.mp hpart with hpart | hpart
    · exact hnone part hpart
    · rw [List.mem_singleton.mp hpart]
      exact hind

theorem ClockOf.of_from (hcarries : ind.CarriesClock preferred) (hfrom : clock.From ind) :
    ClockOf preferred (arrived ++ [ind]) ind.epoch clock :=
  Or.inl ⟨ind, List.mem_append_right _ (List.mem_singleton.mpr rfl), rfl, hcarries, hfrom⟩

end OfEpoch

namespace Assembly

variable {R D G X H M : Type} (conv : Converters R D G X H M) {capacity : Capacity}
  {s : Assembly R D G X H M} {ind : GnssSvMeasInfoInd R}

def newMeasProcessed (s : Assembly R D G X H M) : Bool := s.state.statics.newMeasProcessed

/-- An epoch that nothing more is reported of. -/
structure Closed (s : Assembly R D G X H M) (e : Epoch) : Prop where
  taken : ∃ part ∈ s.arrived, part.taken = true ∧ part.epoch = e
  current : s.newMeasProcessed = true → s.lastTaken ≠ some e

/-- What is collected is of the epoch of the message that was used last. -/
structure Inv (capacity : Capacity) (s : Assembly R D G X H M) : Prop where
  report : ∀ r ∈ s.state.api.reported, ∃ e, s.Closed e ∧ r.sources = s.roomFor capacity e ∧
    ClockOf s.preferred s.arrived e r.clock
  current : s.newMeasProcessed = true → ∃ e, s.lastTaken = some e ∧
    s.pending = s.roomFor capacity e ∧
      ClockOf s.preferred s.arrived e s.state.api.mGnssMeasurements.clock
  idle : s.newMeasProcessed = false →
    s.pending = [] ∧ s.state.api.mGnssMeasurements.clock.epoch = none
  nodup : s.collected.Nodup
  complete : ∀ m, m ∈ s.collected ↔ m ∈ s.roomFor capacity m.epoch
  untaken : ∀ part ∈ s.arrived, part.taken = false →
    part.usable = [] ∧ ¬ part.CarriesClock s.preferred
  unallocated : s.state.api.allocated = false → s.newMeasProcessed = false

theorem Inv.assembled (h : s.Inv capacity) : s.Assembled capacity where
  report := fun r hr => by
    obtain ⟨e, -, hrest⟩ := h.report r hr
    exact ⟨e, hrest⟩
  once := fun part _ m hm hroom => by
    have hepoch := part.epoch_of_mem_usable hm
    exact List.count_eq_one_of_mem h.nodup ((h.complete m).mpr (hepoch ▸ hroom))
  usable := fun m hm => by
    obtain ⟨part, harrived, -, hm'⟩ :=
      mem_ofEpoch (List.mem_of_mem_take ((h.complete m).mp hm))
    exact ⟨part, harrived, hm'⟩

theorem mem_of_lastTaken {e : Epoch} (h : s.lastTaken = some e) :
    ∃ part ∈ s.arrived, part.taken = true ∧ part.epoch = e := by
  obtain ⟨part, hpart, he⟩ := Option.map_eq_some_iff.mp h
  obtain ⟨harrived, htaken⟩ := List.mem_filter.mp (List.mem_of_getLast? hpart)
  exact ⟨part, harrived, htaken, he⟩

/-- A step of the object, with no message. -/
def withState (s : Assembly R D G X H M) (state : MeasState D G X H M) : Assembly R D G X H M :=
  { s with state := state }

theorem Inv.flushes (h : s.Inv capacity) (hnew : s.newMeasProcessed = true)
    {state : MeasState D G X H M} (hflush : MeasState.Flushes s.state state) :
    (s.withState state).Inv capacity := by
  obtain ⟨r, hsources, hclock, hreported⟩ := hflush.reported
  have hnew' : (s.withState state).newMeasProcessed = false := hflush.newMeasProcessed
  have hpreferred : (s.withState state).preferred = s.preferred := hflush.preferred
  have hpending : (s.withState state).pending = [] := hflush.sources
  have hcollected : (s.withState state).collected = s.collected := by
    rw [collected, hpending, List.append_nil,
      show (s.withState state).state.api.reported = _ from hreported, List.flatMap_append,
      List.flatMap_singleton, hsources]
    rfl
  refine ⟨fun r' hr' => ?_, fun hno => ?_, fun _ => ⟨hpending, hflush.clock⟩, ?_, ?_, ?_, ?_⟩
  · rw [show (s.withState state).state.api.reported = _ from hreported] at hr'
    rw [hpreferred]
    rcases List.mem_append.mp hr' with hr' | hr'
    · obtain ⟨e, hclosed, hrest⟩ := h.report r' hr'
      exact ⟨e, ⟨hclosed.taken, fun hno => absurd (hnew'.symm.trans hno) nofun⟩, hrest⟩
    · obtain ⟨e, hlast, hroom, hclockOf⟩ := h.current hnew
      rw [List.mem_singleton.mp hr']
      refine ⟨e, ⟨mem_of_lastTaken hlast, fun hno => absurd (hnew'.symm.trans hno) nofun⟩, ?_, ?_⟩
      · exact hsources.trans hroom
      · exact hclockOf.same hclock
  · exact absurd (hnew'.symm.trans hno) nofun
  · rw [hcollected]
    exact h.nodup
  · rw [hcollected]
    exact h.complete
  · rw [hpreferred]
    exact h.untaken
  · exact fun _ => hnew'

theorem Inv.collects_nil (h : s.Inv capacity) {state : MeasState D G X H M}
    (hcollects : MeasState.Collects [] s.state state) : (s.withState state).Inv capacity := by
  have hnew : (s.withState state).newMeasProcessed = s.newMeasProcessed :=
    hcollects.newMeasProcessed
  have hpreferred : (s.withState state).preferred = s.preferred := hcollects.preferred
  have hreported : (s.withState state).state.api.reported = s.state.api.reported :=
    hcollects.reported
  have hpending : (s.withState state).pending = s.pending :=
    hcollects.sources.trans (List.append_nil _)
  have hclock : (s.withState state).state.api.mGnssMeasurements.clock =
      s.state.api.mGnssMeasurements.clock := hcollects.clock
  have hcollected : (s.withState state).collected = s.collected := by
    rw [collected, hreported, hpending]
    rfl
  refine ⟨fun r hr => ?_, ?_, ?_, ?_, ?_, ?_, ?_⟩
  · rw [hreported] at hr
    obtain ⟨e, hclosed, hrest⟩ := h.report r hr
    rw [hpreferred]
    exact ⟨e, ⟨hclosed.taken, fun hno => hclosed.current (hnew.symm.trans hno)⟩, hrest⟩
  · rw [hnew, hpending, hpreferred, hclock]
    exact h.current
  · rw [hnew, hpending, hclock]
    exact h.idle
  · rw [hcollected]
    exact h.nodup
  · rw [hcollected]
    exact h.complete
  · rw [hpreferred]
    exact h.untaken
  · rw [hnew]
    exact fun hno => h.unallocated (hcollects.allocated.symm.trans hno)

/-! ## Steps -/

/-- The first message allocates, and nothing was collected before. -/
theorem Inv.allocate (h : s.Inv capacity) :
    (s.withState (s.state.allocate conv)).Inv capacity ∧
      (s.state.allocate conv).statics = s.state.statics ∧
      (s.state.allocate conv).sources = s.state.sources ∧
      (s.state.allocate conv).api.mPreferredSignalType = s.state.api.mPreferredSignalType := by
  rw [MeasState.allocate]
  split
  · exact ⟨h, rfl, rfl, rfl⟩
  · case isFalse hno =>
    have hnew : s.newMeasProcessed = false := h.unallocated (Bool.eq_false_iff.mpr hno)
    obtain ⟨hpending, hclock⟩ := h.idle hnew
    have hstatics : ({ s.state.statics with newMeasProcessed := false } : Statics) =
        s.state.statics := by
      rw [← show s.state.statics.newMeasProcessed = false from hnew]
    refine ⟨⟨fun r hr => ?_, fun hno => absurd hno nofun, fun _ => ⟨rfl, rfl⟩, ?_, ?_, h.untaken,
      fun _ => rfl⟩, hstatics, hpending.symm, rfl⟩
    · obtain ⟨e, hclosed, hrest⟩ := h.report r hr
      exact ⟨e, ⟨hclosed.taken, fun hno => absurd hno nofun⟩, hrest⟩
    · have hcollected := h.nodup
      rw [collected, hpending] at hcollected
      exact hcollected
    · have hcomplete := h.complete
      rw [collected, hpending] at hcomplete
      exact hcomplete

/-- A message that is not used. -/
theorem Inv.untakenPart (h : s.Inv capacity) (htaken : ind.taken = false)
    (husable : ind.usable = []) (hclock : ¬ ind.CarriesClock s.preferred) :
    Inv capacity (⟨s.state, s.arrived ++ [ind]⟩ : Assembly R D G X H M) := by
  have hlast : (⟨s.state, s.arrived ++ [ind]⟩ : Assembly R D G X H M).lastTaken = s.lastTaken := by
    rw [lastTaken, List.filter_append, List.filter_cons_of_neg (by rw [htaken]; nofun)]
    simp [lastTaken]
  have hroom : ∀ e, (⟨s.state, s.arrived ++ [ind]⟩ : Assembly R D G X H M).roomFor capacity e =
      s.roomFor capacity e :=
    fun e => congrArg (List.take _) (ofEpoch_append_other (Or.inr husable))
  refine ⟨fun r hr => ?_, fun hnew => ?_, h.idle, h.nodup, fun m => ?_, fun part hpart => ?_,
    h.unallocated⟩
  · obtain ⟨e, ⟨⟨part, harrived, hpart⟩, hcurrent⟩, hsources, hclockOf⟩ := h.report r hr
    refine ⟨e, ⟨⟨part, List.mem_append_left _ harrived, hpart⟩, ?_⟩, ?_, ?_⟩
    · rw [hlast]
      exact hcurrent
    · rw [hroom]
      exact hsources
    · exact hclockOf.append fun _ => hclock
  · obtain ⟨e, hlastTaken, hpending, hclockOf⟩ := h.current hnew
    refine ⟨e, hlast.trans hlastTaken, ?_, hclockOf.append fun _ => hclock⟩
    rw [hroom]
    exact hpending
  · rw [hroom]
    exact h.complete m
  · rcases List.mem_append.mp hpart with hpart | hpart
    · exact h.untaken part hpart
    · rw [List.mem_singleton.mp hpart]
      exact fun _ => ⟨husable, hclock⟩

theorem lastTaken_append (state : MeasState D G X H M) (htaken : ind.taken = true) :
    (⟨state, s.arrived ++ [ind]⟩ : Assembly R D G X H M).lastTaken = some ind.epoch := by
  rw [lastTaken, List.filter_append, List.filter_cons_of_pos htaken]
  simp

/-- What is collected is of the epoch of the message, if it begins or goes on as it should. -/
theorem Inv.ready (h : s.Inv capacity)
    (hfirst : s.newMeasProcessed = false →
      ∀ part ∈ s.arrived, part.taken = true → part.epoch ≠ ind.epoch)
    (hsame : s.newMeasProcessed = true → s.lastTaken = some ind.epoch) :
    s.pending = s.roomFor capacity ind.epoch ∧
      ClockOf s.preferred s.arrived ind.epoch s.state.api.mGnssMeasurements.clock := by
  cases hnew : s.newMeasProcessed with
  | true =>
    obtain ⟨e, hlast, hrest⟩ := h.current hnew
    rw [hsame hnew, Option.some.injEq] at hlast
    rw [hlast]
    exact hrest
  | false =>
    -- No message of the epoch was used.
    have huntaken : ∀ part ∈ s.arrived, part.epoch = ind.epoch → part.taken = false :=
      fun part hpart he => by
        by_contra htaken
        exact hfirst hnew part hpart (Bool.of_not_eq_false htaken) he
    obtain ⟨hpending, hclock⟩ := h.idle hnew
    constructor
    · rw [hpending, roomFor, ofEpoch_eq_nil fun part hpart he =>
        (h.untaken part hpart (huntaken part hpart he)).1, List.take_nil]
    · exact Or.inr ⟨fun part hpart he =>
        (h.untaken part hpart (huntaken part hpart he)).2, hclock⟩

/-- **A message that is used as it should be** adds what it has to its epoch. -/
theorem Inv.collect (h : s.Inv capacity) (hallocated : s.state.api.allocated = true)
    (htaken : ind.taken = true) (hconverted : ind.converted = ind.usable)
    (hsub : ind.CarriesClock s.preferred → ind.sub = 1)
    (hfirst : s.newMeasProcessed = false →
      ∀ part ∈ s.arrived, part.taken = true → part.epoch ≠ ind.epoch)
    (hsame : s.newMeasProcessed = true → s.lastTaken = some ind.epoch)
    (hunseen : ∀ m ∈ ind.usable, m ∉ s.pending) :
    Inv capacity (⟨s.state.collect conv capacity ind, s.arrived ++ [ind]⟩ :
      Assembly R D G X H M) := by
  obtain ⟨hpending, hclockOf⟩ := h.ready hfirst hsame
  obtain ⟨hnew', hreported, hpreferred, hallocated', hsources, hclock⟩ :=
    s.state.collect_spec conv capacity ind
  generalize hs' : (⟨s.state.collect conv capacity ind, s.arrived ++ [ind]⟩ :
    Assembly R D G X H M) = s'
  have harrived : s'.arrived = s.arrived ++ [ind] := by rw [← hs']
  have hlast : s'.lastTaken = some ind.epoch := by rw [← hs']; exact lastTaken_append _ htaken
  replace hnew' : s'.newMeasProcessed = true := by rw [← hs']; exact hnew'
  replace hreported : s'.state.api.reported = s.state.api.reported := by rw [← hs']; exact hreported
  replace hpreferred : s'.preferred = s.preferred := by rw [← hs']; exact hpreferred
  replace hallocated' : s'.state.api.allocated = true := by
    rw [← hs']; exact hallocated'.trans hallocated
  -- What is added fills the room that there is for the epoch.
  have hpending' : s'.pending = s.pending ++
      ind.usable.take (capacity.measurementsMax - s.pending.length) := by
    rw [← hs', ← hconverted, show s.pending.length = s.state.count from s.state.length_sources]
    exact hsources
  have hroom : s'.roomFor capacity ind.epoch = s'.pending := by
    rw [hpending', hpending, roomFor, roomFor, harrived, ofEpoch_append_same, List.take_append,
      List.length_take]
    congr 2
    omega
  have hothers : ∀ e, e ≠ ind.epoch → s'.roomFor capacity e = s.roomFor capacity e := by
    intro e he
    rw [roomFor, roomFor, harrived, ofEpoch_append_other (Or.inl he.symm)]
  have hcollected : s'.collected = s.collected ++
      ind.usable.take (capacity.measurementsMax - s.pending.length) := by
    rw [collected, hreported, hpending', collected, List.append_assoc]
  have hclockOf' : ClockOf s.preferred s'.arrived ind.epoch
      s'.state.api.mGnssMeasurements.clock := by
    rw [harrived]
    by_cases hcarries : ind.CarriesClock s.preferred
    · have hpref : s.state.api.mPreferredSignalType = ind.gnssSignalType ∧ ind.sub = 1 :=
        ⟨hcarries.1, hsub hcarries⟩
      rw [if_pos hpref] at hclock
      rw [← hs']
      exact ClockOf.of_from hcarries hclock
    · have hpref : ¬ (s.state.api.mPreferredSignalType = ind.gnssSignalType ∧ ind.sub = 1) :=
        fun hpref => hcarries ⟨hpref.1, by rw [hpref.2]; decide⟩
      rw [if_neg hpref] at hclock
      rw [← hs', show _ = s.state.api.mGnssMeasurements.clock from hclock]
      exact hclockOf.append fun _ => hcarries
  refine ⟨fun r hr => ?_, fun _ => ⟨ind.epoch, hlast, hroom.symm, ?_⟩,
    fun hno => absurd (hnew'.symm.trans hno) nofun, ?_, fun m => ?_, fun part hpart => ?_,
    fun hno => absurd (hallocated'.symm.trans hno) nofun⟩
  · -- The epochs that were reported are others.
    rw [hreported] at hr
    obtain ⟨e, ⟨⟨part, hpart, hpartTaken, hepoch⟩, hcurrent⟩, hrest, hclockOf⟩ := h.report r hr
    have he : e ≠ ind.epoch := by
      cases hnew : s.newMeasProcessed with
      | false => exact hepoch ▸ hfirst hnew part hpart hpartTaken
      | true => exact fun he => hcurrent hnew (he ▸ hsame hnew)
    refine ⟨e, ⟨⟨part, ?_, hpartTaken, hepoch⟩, fun _ => ?_⟩, ?_, ?_⟩
    · rw [harrived]
      exact List.mem_append_left _ hpart
    · rw [hlast]
      exact fun hsome => he (Option.some.inj hsome).symm
    · rw [hothers e he]
      exact hrest
    · rw [hpreferred, harrived]
      exact hclockOf.append fun hind => absurd hind.symm he
  · rw [hpreferred]
    exact hclockOf'
  · rw [hcollected]
    refine List.Nodup.append h.nodup ((List.take_sublist _ _).nodup ind.usable_nodup) ?_
    intro m hm hnewm
    have husable := List.mem_of_mem_take hnewm
    have hin := (h.complete m).mp hm
    rw [ind.epoch_of_mem_usable husable, ← hpending] at hin
    exact hunseen m husable hin
  · rw [hcollected, List.mem_append, h.complete m]
    by_cases he : m.epoch = ind.epoch
    · rw [he, hroom, hpending', List.mem_append, ← hpending]
    · rw [hothers _ he]
      exact or_iff_left fun hm => he (ind.epoch_of_mem_usable (List.mem_of_mem_take hm))
  · rw [harrived] at hpart
    rw [hpreferred]
    rcases List.mem_append.mp hpart with hpart | hpart
    · exact h.untaken part hpart
    · rw [List.mem_singleton.mp hpart]
      exact fun hno => absurd (htaken.symm.trans hno) nofun

theorem allocate_allocated (s : MeasState D G X H M) :
    (s.allocate conv).api.allocated = true := by
  rw [MeasState.allocate]
  split
  · case isTrue h => exact h
  · rfl

/-- What was collected of another epoch is handed over, and only that. -/
theorem Inv.beginEpoch (h : s.Inv capacity) (ind : GnssSvMeasInfoInd R) :
    let s' := s.withState (s.state.beginEpoch conv ind)
    s'.Inv capacity ∧ (s'.newMeasProcessed = false ↔ s.Begins ind) ∧
      (∀ m, m ∈ s'.pending → m ∈ s.pending) ∧ s'.preferred = s.preferred ∧
      s'.state.api.allocated = s.state.api.allocated := by
  intro s'
  by_cases hflush : MeasState.begins s.state.statics ind = true ∧ s.newMeasProcessed = true
  · have hflushes := MeasState.beginEpoch_flushes conv hflush.1 hflush.2
    refine ⟨h.flushes hflush.2 hflushes, ⟨fun _ => Or.inl hflush.1, fun _ =>
      hflushes.newMeasProcessed⟩, fun m hm => ?_, hflushes.preferred, hflushes.allocated⟩
    rw [show s'.pending = [] from hflushes.sources] at hm
    exact absurd hm List.not_mem_nil
  · have hkeeps : MeasState.begins s.state.statics ind = false ∨ s.newMeasProcessed = false := by
      rw [not_and_or, Bool.not_eq_true, Bool.not_eq_true] at hflush
      exact hflush
    have hcollects := MeasState.beginEpoch_collects conv hkeeps
    refine ⟨h.collects_nil hcollects, ⟨fun hno => ?_, fun hbegins => ?_⟩, fun m hm => ?_,
      hcollects.preferred, hcollects.allocated⟩
    · exact Or.inr (hcollects.newMeasProcessed.symm.trans hno)
    · rcases hbegins with hbegins | hno
      · exact hcollects.newMeasProcessed.trans
          (hkeeps.resolve_left fun hno => Bool.false_ne_true (hno.symm.trans hbegins))
      · exact hcollects.newMeasProcessed.trans hno
    · rw [show s'.pending = s.pending ++ [] from hcollects.sources, List.append_nil] at hm
      exact hm

/-- The last message hands over what is collected. -/
theorem Inv.finish (h : s.Inv capacity) (hnew : s.newMeasProcessed = true)
    (ind : GnssSvMeasInfoInd R) : (s.withState (s.state.finish conv ind)).Inv capacity := by
  by_cases hlast : ind.isLast = true
  · exact h.flushes hnew (s.state.finish_flushes conv hlast)
  · rw [MeasState.finish, if_neg hlast]
    exact h

theorem Inv.step (h : s.Inv capacity) (hclean : s.Clean ind) :
    (s.step conv capacity ind).Inv capacity := by
  obtain ⟨hallocate, hstatics, hsources, hpreferred⟩ := h.allocate conv
  have hallocated := allocate_allocated conv s.state
  simp only [Assembly.step, MeasState.reportGnssMeasurementData]
  generalize s.state.allocate conv = allocated at *
  obtain ⟨hbegin, hbegins, hpending, hpreferred', hallocated'⟩ :=
    hallocate.beginEpoch conv ind
  replace hpreferred' := hpreferred'.trans (show _ = s.preferred from hpreferred)
  rw [Clean] at hclean
  cases hinvalid : ind.invalid with
  | true =>
    have htaken : ind.taken = false := by rw [GnssSvMeasInfoInd.taken, hinvalid]; rfl
    rw [if_neg (by rw [htaken]; exact Bool.false_ne_true)] at hclean
    refine hallocate.untakenPart htaken hclean.1 ?_
    rw [show (s.withState allocated).preferred = s.preferred from hpreferred]
    exact hclean.2
  | false =>
    cases hsystem : getLocApiSvSystemType ind.system == .unknown with
    | true =>
      have htaken : ind.taken = false := by
        rw [GnssSvMeasInfoInd.taken, bne, hsystem, Bool.not_true, Bool.and_false]
      rw [if_neg (by rw [htaken]; exact Bool.false_ne_true)] at hclean
      refine hbegin.untakenPart htaken hclean.1 ?_
      rw [hpreferred']
      exact hclean.2
    | false =>
      have htaken : ind.taken = true := by
        rw [GnssSvMeasInfoInd.taken, bne, hsystem, hinvalid]
        rfl
      rw [if_pos htaken] at hclean
      have hbegins' : (s.withState allocated).Begins ind ↔ s.Begins ind := by
        rw [Begins, show (s.withState allocated).state.statics = s.state.statics from hstatics]
        rfl
      rw [hbegins'] at hbegins
      have hcollect := hbegin.collect conv (hallocated'.trans hallocated) htaken
        (ind.converted_eq_usable hclean.ext hclean.listed)
        (by rw [hpreferred']; exact hclean.clock) (fun hno => hclean.first (hbegins.mp hno))
        (fun hno => hclean.same fun hyes => Bool.false_ne_true ((hbegins.mpr hyes).symm.trans hno))
        (fun m hm hin => hclean.unseen m hm (by
          have hin' := hpending m hin
          rw [show (s.withState allocated).pending = s.pending from hsources] at hin'
          exact hin'))
      have hnew := (MeasState.collect_spec conv capacity (allocated.beginEpoch conv ind) ind).1
      exact hcollect.finish conv hnew ind

theorem inv_init (mPreferredSignalType : UInt64) (fullPower : Bool) (members : M) :
    (init conv mPreferredSignalType fullPower members).Inv capacity where
  report := fun _ hr => absurd hr List.not_mem_nil
  current := fun hnew => absurd hnew nofun
  idle := fun _ => ⟨rfl, rfl⟩
  nodup := List.nodup_nil
  complete := fun m => by
    rw [roomFor, show (init conv mPreferredSignalType fullPower members).arrived = [] from rfl]
    simp [collected, pending, init, MeasApi.new, ofEpoch, GnssMeasurements.zero,
      GnssMeasurements.sources]
  untaken := fun _ hpart => absurd hpart List.not_mem_nil
  unallocated := fun _ => rfl

/-- **Reports are assembled**, if every message is used as it should be. -/
theorem epochs_assembled (capacity : Capacity) (mPreferredSignalType : UInt64) (fullPower : Bool)
    (members : M) {stream : List (GnssSvMeasInfoInd R)}
    (hclean : Meets (step conv capacity) Clean (init conv mPreferredSignalType fullPower members)
      stream) :
    Throughout (step conv capacity) (Assembled capacity)
      (init conv mPreferredSignalType fullPower members) stream :=
  (throughout_of_meets (fun _ _ h hstep => Inv.step conv h hstep)
    (inv_init conv mPreferredSignalType fullPower members) hclean).imp fun _ h => h.assembled

/-- Two epochs; the last message of the first one is lost. -/
theorem epochs_assembled_sample :
    let stream := [sampleInd 1 1 2 1 freshMeasurement, sampleInd 2 1 2 1 freshMeasurement,
      sampleInd 2 2 2 2 freshMeasurement]
    Throughout (step unitConverters sampleCapacity) (Assembled sampleCapacity)
        (init unitConverters 1 false ()) stream ∧
      ((run (step unitConverters sampleCapacity) (init unitConverters 1 false ())
        stream).state.api.reported.map fun r => (r.sources.length, r.clock.epoch)) =
        [(2, some ⟨false, 1⟩), (3, some ⟨false, 2⟩)] :=
  ⟨epochs_assembled unitConverters sampleCapacity 1 false () (by decide +kernel),
    by decide +kernel⟩

/-- A measurement that is not to be used is reported, for it is in the second list. -/
theorem ext_dont_use_reported :
    let stream := [sampleInd 1 1 1 1 dontUseMeasurement]
    Arrives stream ∧
      ¬ Throughout (step unitConverters sampleCapacity) (Assembled sampleCapacity)
        (init unitConverters 1 false ()) stream := by
  intro stream
  refine ⟨⟨by decide, List.pairwise_singleton _ _, fun before part after hstream _ => ?_⟩,
    fun h => ?_⟩
  · have hbefore : before = [] := by
      have hlength := congrArg List.length hstream
      simp only [stream, List.length_append, List.length_cons, List.length_nil] at hlength
      exact List.eq_nil_of_length_eq_zero (by omega)
    rw [hbefore]
    exact fun earlier hearlier => absurd hearlier List.not_mem_nil
  · have hreported : (⟨⟨false, 1⟩, 1, 1, true, 0⟩ : Measured) ∈
        (run (step unitConverters sampleCapacity) (init unitConverters 1 false ())
          stream).collected := by decide +kernel
    obtain ⟨part, hpart, hm⟩ := h.last.usable _ hreported
    rw [List.mem_singleton.mp hpart] at hm
    revert hm
    decide +kernel

end Assembly

end LocationStack.LocApi
