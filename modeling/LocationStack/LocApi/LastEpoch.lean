import Mathlib.Data.List.DropRight
import LocationStack.LocApi.Epochs
import LocationStack.LocApi.SvUsed

/-! # The measurements that positions are checked against

`m1HzMeasurementsInfo` is a copy of what was collected when the last message of an epoch of 1 Hz
came.  A position is compared with it, so it is to have the measurements of the epoch that was
complete last, and its clock.

Whether an epoch is one of 1 Hz is told by a flag of what is collected, not by the message.  The
flag is set with the message that begins an epoch, also if its system is not known and nothing is
collected of it, and it stays until something is handed over.
-/
namespace LocationStack.LocApi

open EventRun

/-- `GnssBasicMeasurementsInfo` -/
structure GnssBasicMeasurementsInfo where
  /-- `GNSS_MEASUREMENTS_CLOCK_FLAGS_BIAS_BIT` of `clock.flags` -/
  hasBias : Bool
  timeNs : Int
  fullBiasNs : Int
  measurements : List (UInt16 × Flags GnssSignal)

/-- `m1HzMeasurementsInfo = {}` -/
def GnssBasicMeasurementsInfo.zero : GnssBasicMeasurementsInfo := ⟨false, 0, 0, []⟩

/-- Where converted measurements and clocks have what is copied. -/
structure BasicFields (D X : Type) where
  svId : D → UInt16
  gnssSignalType : D → Flags GnssSignal
  hasBias : X → Bool
  fullBiasNs : X → Int

section Copy

variable {R D G X H M : Type}

/-- Copy only required information, of at most `GNSS_MEASUREMENTS_MAX` measurements. -/
def BasicFields.copy (fields : BasicFields D X) (measurementsMax : Nat)
    (measInfo : GnssMeasurements D G X H) : GnssBasicMeasurementsInfo where
  hasBias := fields.hasBias measInfo.clock.rest
  timeNs := measInfo.clock.timeNs
  fullBiasNs := fields.fullBiasNs measInfo.clock.rest
  measurements := (measInfo.measurements.take measurementsMax).map fun m =>
    (fields.svId m.data, fields.gnssSignalType m.data)

/-- The conversions, with `m1HzMeasurementsInfo` among the members. -/
def Converters.keeping (conv : Converters R D G X H M) (fields : BasicFields D X)
    (measurementsMax : Nat) : Converters R D G X H (M × GnssBasicMeasurementsInfo) where
  zeroClock := conv.zeroClock
  zeroHeader := conv.zeroHeader
  measurement m ind isExt index :=
    ((conv.measurement m.1 ind isExt index).1, (conv.measurement m.1 ind isExt index).2, m.2)
  clock m h x ind := ((conv.clock m.1 h x ind).1, (conv.clock m.1 h x ind).2, m.2)
  header m h ind := ((conv.header m.1 h ind).1, (conv.header m.1 h ind).2, m.2)
  agc := conv.agc
  keep1Hz meas m := (conv.keep1Hz meas m.1, fields.copy measurementsMax meas)
  last m meas ind :=
    ((conv.last m.1 meas ind).1, (conv.last m.1 meas ind).2.1, (conv.last m.1 meas ind).2.2, m.2)
  biases m d := conv.biases m.1 d
  stamp := conv.stamp
  cycleSlips nHz m := (conv.cycleSlips nHz m.1, m.2)
  reset m := (conv.reset m.1, m.2)

end Copy

/-! ## The epoch that was complete last -/

namespace GnssSvMeasInfoInd

variable {R : Type} (ind : GnssSvMeasInfoInd R)

/-- The last number of an epoch of 1 Hz, whatever the sub-sequence. -/
def closes1Hz : Bool := ind.taken && ind.maxMessageNum == ind.seqNum && !ind.isNhz

end GnssSvMeasInfoInd

/-- The messages up to the one that closed an epoch of 1 Hz last. -/
def upTo1Hz {R : Type} (arrived : List (GnssSvMeasInfoInd R)) : List (GnssSvMeasInfoInd R) :=
  arrived.rdropWhile fun ind => !ind.closes1Hz

/-- **A copy of the last epoch of 1 Hz**: the measurements that there was room for, and the
clock. -/
def CopyOfLast {R : Type} (D G X H : Type) (fields : BasicFields D X) (measurementsMax : Nat)
    (preferred : UInt64) (arrived : List (GnssSvMeasInfoInd R))
    (info : GnssBasicMeasurementsInfo) : Prop :=
  match (upTo1Hz arrived).getLast? with
  | none => info = .zero
  | some ind => ∃ measInfo : GnssMeasurements D G X H,
      info = fields.copy measurementsMax measInfo ∧
        measInfo.sources = (ofEpoch (upTo1Hz arrived) ind.epoch).take measurementsMax ∧
        ClockOf preferred (upTo1Hz arrived) ind.epoch measInfo.clock

section Last

variable {R D G X H : Type} {fields : BasicFields D X} {measurementsMax : Nat}
  {preferred : UInt64} {arrived : List (GnssSvMeasInfoInd R)} {ind : GnssSvMeasInfoInd R}
  {info : GnssBasicMeasurementsInfo}

/-- A message that closes nothing. -/
theorem CopyOfLast.append (h : CopyOfLast D G X H fields measurementsMax preferred arrived info)
    (hno : ind.closes1Hz = false) :
    CopyOfLast D G X H fields measurementsMax preferred (arrived ++ [ind]) info := by
  have hsame : upTo1Hz (arrived ++ [ind]) = upTo1Hz arrived := by
    rw [upTo1Hz, List.rdropWhile_concat, hno]
    rfl
  rw [CopyOfLast, hsame]
  exact h

/-- A message that closes an epoch. -/
theorem CopyOfLast.closed (hyes : ind.closes1Hz = true) (measInfo : GnssMeasurements D G X H)
    (hsources : measInfo.sources = (ofEpoch (arrived ++ [ind]) ind.epoch).take measurementsMax)
    (hclock : ClockOf preferred (arrived ++ [ind]) ind.epoch measInfo.clock) :
    CopyOfLast D G X H fields measurementsMax preferred (arrived ++ [ind])
      (fields.copy measurementsMax measInfo) := by
  have hall : upTo1Hz (arrived ++ [ind]) = arrived ++ [ind] := by
    rw [upTo1Hz, List.rdropWhile_concat, hyes]
    rfl
  rw [CopyOfLast, hall, List.getLast?_concat]
  exact ⟨measInfo, rfl, hsources, hclock⟩

end Last

/-! ## What a message does to the copy -/

namespace MeasState

variable {R D G X H M : Type} (conv : Converters R D G X H M) (fields : BasicFields D X)
  (max : Nat) (capacity : Capacity) (s : MeasState D G X H (M × GnssBasicMeasurementsInfo))
  (ind : GnssSvMeasInfoInd R)

/-- `m1HzMeasurementsInfo` -/
def info1Hz : GnssBasicMeasurementsInfo := s.api.members.2

def isNhz1 : Bool := s.api.mGnssMeasurements.isNhz

/-- A step that is not about the copy, and that goes on with the same rate. -/
structure Passes (s s' : MeasState D G X H (M × GnssBasicMeasurementsInfo)) : Prop where
  info1Hz : s'.info1Hz = s.info1Hz
  isNhz : s'.isNhz1 = s.isNhz1

variable {s} in
theorem Passes.trans {s' s'' : MeasState D G X H (M × GnssBasicMeasurementsInfo)}
    (h : Passes s s') (h' : Passes s' s'') : Passes s s'' :=
  ⟨h'.info1Hz.trans h.info1Hz, h'.isNhz.trans h.isNhz⟩

theorem allocate_info1Hz : (s.allocate (conv.keeping fields max)).info1Hz = s.info1Hz := by
  rw [allocate]
  split <;> rfl

/-- The rate is that of the message that begins, if nothing of another rate was begun before. -/
theorem beginEpoch_info1Hz :
    (s.beginEpoch (conv.keeping fields max) ind).info1Hz = s.info1Hz ∧
      (s.beginEpoch (conv.keeping fields max) ind).isNhz1 =
        if begins s.statics ind then
          (if s.statics.newMeasProcessed then ind.isNhz else s.isNhz1 || ind.isNhz)
        else s.isNhz1 := by
  rw [beginEpoch]
  by_cases hbegins : begins s.statics ind = true
  · rw [if_pos hbegins, if_pos hbegins]
    by_cases hnew : s.statics.newMeasProcessed = true
    · rw [if_pos hnew, if_pos hnew]
      refine ⟨rfl, ?_⟩
      show (false || ind.isNhz) = ind.isNhz
      rw [Bool.false_or]
    · rw [if_neg hnew, if_neg hnew]
      exact ⟨rfl, rfl⟩
  · rw [if_neg hbegins, if_neg hbegins]
    exact ⟨rfl, rfl⟩

theorem convertClockOfPreferred_passes :
    Passes s (s.convertClockOfPreferred (conv.keeping fields max) ind) := by
  rw [convertClockOfPreferred]
  split
  · rw [convertGnssClock]
    split <;> exact ⟨rfl, rfl⟩
  · exact ⟨rfl, rfl⟩

theorem convertGnssMeasurementsHeader_passes :
    Passes s (s.convertGnssMeasurementsHeader (conv.keeping fields max) ind) := by
  rw [convertGnssMeasurementsHeader]
  split <;> exact ⟨rfl, rfl⟩

theorem convertList_passes (isExt : Bool) (indices : List Nat) :
    Passes s (convertList (conv.keeping fields max) capacity ind isExt indices s) := by
  induction indices generalizing s with
  | nil => exact ⟨rfl, rfl⟩
  | cons index rest ih =>
    rw [convertList]
    split
    · split
      · have hone : Passes s
            (s.convertGnssMeasurements (conv.keeping fields max) ind isExt index) := ⟨rfl, rfl⟩
        exact hone.trans (ih _)
      · exact ih s
    · exact ⟨rfl, rfl⟩

theorem convertLists_passes :
    Passes s (s.convertLists (conv.keeping fields max) capacity ind) := by
  rw [convertLists]
  split
  · have hfirst := s.convertList_passes conv fields max capacity ind false
      (List.range ind.svMeasurement_len)
    split
    · exact hfirst.trans (convertList_passes conv fields max capacity _ ind true _)
    · exact hfirst
  · exact ⟨rfl, rfl⟩

/-- **The copy is made** of what is collected, if the rate is that of 1 Hz. -/
theorem collect_info1Hz :
    (s.collect (conv.keeping fields max) capacity ind).isNhz1 = s.isNhz1 ∧
      (s.collect (conv.keeping fields max) capacity ind).info1Hz =
        if ind.maxMessageNum == ind.seqNum && !s.isNhz1 then
          fields.copy max (s.collect (conv.keeping fields max) capacity ind).api.mGnssMeasurements
        else s.info1Hz := by
  rw [collect]
  set started : MeasState D G X H (M × GnssBasicMeasurementsInfo) :=
    { s with statics := { s.statics with newMeasProcessed := true } }
  have hstart : Passes s started := ⟨rfl, rfl⟩
  have hhead := (hstart.trans (convertClockOfPreferred_passes conv fields max started ind)).trans
    (convertGnssMeasurementsHeader_passes conv fields max _ ind)
  have hlists := hhead.trans (convertLists_passes conv fields max capacity _ ind)
  have hagc : Passes s (convertAgc (conv.keeping fields max) _ ind) :=
    ⟨hlists.info1Hz, hlists.isNhz⟩
  revert hagc
  generalize convertAgc (conv.keeping fields max) _ ind = kept
  intro hagc
  rw [keep1Hz]
  by_cases hcloses : (ind.maxMessageNum == ind.seqNum && !s.isNhz1) = true
  · rw [if_pos hcloses, if_pos (by rw [← hagc.isNhz] at hcloses; exact hcloses)]
    exact ⟨hagc.isNhz, rfl⟩
  · rw [if_neg hcloses, if_neg (by rw [← hagc.isNhz] at hcloses; exact hcloses)]
    exact ⟨hagc.isNhz, hagc.info1Hz⟩

theorem finish_info1Hz : (s.finish (conv.keeping fields max) ind).info1Hz = s.info1Hz ∧
    (s.finish (conv.keeping fields max) ind).isNhz1 = (!ind.isLast && s.isNhz1) := by
  rw [finish]
  by_cases hlast : ind.isLast = true
  · rw [if_pos hlast, hlast]
    exact ⟨rfl, rfl⟩
  · rw [if_neg hlast, Bool.eq_false_iff.mpr hlast]
    exact ⟨rfl, rfl⟩

end MeasState

/-! ## The run -/

namespace Assembly

variable {R D G X H M : Type} (conv : Converters R D G X H M) (fields : BasicFields D X)
  {capacity : Capacity} {s : Assembly R D G X H (M × GnssBasicMeasurementsInfo)}
  {ind : GnssSvMeasInfoInd R}

/-- The flag of what is collected is the rate of its epoch. -/
structure Rated (s : Assembly R D G X H (M × GnssBasicMeasurementsInfo)) : Prop where
  current : s.newMeasProcessed = true → ∀ e, s.lastTaken = some e → s.state.isNhz1 = e.nHz
  idle : s.newMeasProcessed = false → s.state.isNhz1 = false

/-- The flag is set with the messages that are used, and only with them. -/
def TellsRate (s : Assembly R D G X H (M × GnssBasicMeasurementsInfo))
    (ind : GnssSvMeasInfoInd R) : Prop :=
  if ind.taken then
    s.newMeasProcessed = false → MeasState.begins s.state.statics ind = true ∨ ind.isNhz = false
  else ind.invalid = false → MeasState.begins s.state.statics ind = true → ind.isNhz = false

instance (s : Assembly R D G X H (M × GnssBasicMeasurementsInfo)) (ind : GnssSvMeasInfoInd R) :
    Decidable (s.TellsRate ind) :=
  inferInstanceAs (Decidable (if ind.taken = true then _ → _ ∨ _ else _ → _ → _))

/-- The invariant: the reports are assembled, the rate is told, and the copy is that of the epoch
of 1 Hz that was complete last. -/
structure Keeps (capacity : Capacity)
    (s : Assembly R D G X H (M × GnssBasicMeasurementsInfo)) : Prop where
  inv : s.Inv capacity
  rated : s.Rated
  copy : CopyOfLast D G X H fields capacity.measurementsMax s.preferred s.arrived s.state.info1Hz

/-- Nothing is collected of a message that is not used. -/
theorem lastTaken_untaken (state : MeasState D G X H (M × GnssBasicMeasurementsInfo))
    (htaken : ind.taken = false) :
    (⟨state, s.arrived ++ [ind]⟩ :
      Assembly R D G X H (M × GnssBasicMeasurementsInfo)).lastTaken = s.lastTaken := by
  rw [lastTaken, List.filter_append,
    List.filter_cons_of_neg (by rw [htaken]; exact Bool.false_ne_true)]
  simp [lastTaken]

theorem closes1Hz_untaken (htaken : ind.taken = false) : ind.closes1Hz = false := by
  rw [GnssSvMeasInfoInd.closes1Hz, htaken, Bool.false_and, Bool.false_and]

theorem Rated.allocate (h : s.Rated) :
    (s.withState (s.state.allocate (conv.keeping fields capacity.measurementsMax))).Rated := by
  rw [MeasState.allocate]
  split
  · exact h
  · exact ⟨fun hyes => absurd (show false = true from hyes) Bool.false_ne_true, fun _ => rfl⟩

/-- After the epoch has begun the flag is the rate of a message that is used. -/
theorem Rated.begun (h : s.Rated) (hclean : s.CleanPart ind)
    (htells : s.newMeasProcessed = false →
      MeasState.begins s.state.statics ind = true ∨ ind.isNhz = false) :
    (s.state.beginEpoch (conv.keeping fields capacity.measurementsMax) ind).isNhz1 =
      ind.isNhz := by
  rw [(s.state.beginEpoch_info1Hz conv fields capacity.measurementsMax ind).2]
  by_cases hbegins : MeasState.begins s.state.statics ind = true
  · rw [if_pos hbegins]
    by_cases hnew : s.state.statics.newMeasProcessed = true
    · rw [if_pos hnew]
    · rw [if_neg hnew, h.idle (Bool.eq_false_iff.mpr hnew), Bool.false_or]
  · rw [if_neg hbegins]
    cases hnew : s.newMeasProcessed with
    | false =>
      rcases htells hnew with hyes | hrate
      · exact absurd hyes hbegins
      · rw [h.idle hnew, hrate]
    | true =>
      -- what is collected is of the epoch of the message
      have hsame : s.lastTaken = some ind.epoch := hclean.same fun hno => by
        rcases hno with hyes | hidle
        · exact hbegins hyes
        · exact Bool.false_ne_true (hidle.symm.trans hnew)
      exact h.current hnew _ hsame

/-- A message of an unknown system begins an epoch of 1 Hz, or none. -/
theorem Rated.beginUnknown (h : s.Rated)
    (htells : MeasState.begins s.state.statics ind = true → ind.isNhz = false) :
    (s.withState
      (s.state.beginEpoch (conv.keeping fields capacity.measurementsMax) ind)).Rated := by
  have hrate := (s.state.beginEpoch_info1Hz conv fields capacity.measurementsMax ind).2
  by_cases hbegins : MeasState.begins s.state.statics ind = true
  · rw [if_pos hbegins, htells hbegins] at hrate
    by_cases hnew : s.state.statics.newMeasProcessed = true
    · rw [if_pos hnew] at hrate
      have hflushes := MeasState.beginEpoch_flushes
        (conv.keeping fields capacity.measurementsMax) hbegins hnew
      exact ⟨fun hyes => absurd (hflushes.newMeasProcessed.symm.trans hyes) Bool.false_ne_true,
        fun _ => hrate⟩
    · rw [if_neg hnew, h.idle (Bool.eq_false_iff.mpr hnew)] at hrate
      have hcollects : MeasState.Collects [] s.state
          (s.state.beginEpoch (conv.keeping fields capacity.measurementsMax) ind) :=
        MeasState.beginEpoch_collects _ (Or.inr (Bool.eq_false_iff.mpr hnew))
      refine ⟨fun hyes => absurd ?_ hnew, fun _ => hrate⟩
      exact hcollects.newMeasProcessed.symm.trans hyes
  · rw [if_neg hbegins] at hrate
    have hcollects := MeasState.beginEpoch_collects
      (conv.keeping fields capacity.measurementsMax) (Or.inl (Bool.eq_false_iff.mpr hbegins))
    refine ⟨fun hyes e he => hrate.trans (h.current ?_ e he),
      fun hno => hrate.trans (h.idle ?_)⟩
    · exact hcollects.newMeasProcessed.symm.trans hyes
    · exact hcollects.newMeasProcessed.symm.trans hno

/-- What is collected after a message that is used. -/
theorem Inv.collected (h : s.Inv capacity) (hallocated : s.state.api.allocated = true)
    (htaken : ind.taken = true) (hclean : s.CleanPart ind) :
    Inv capacity (⟨(s.state.beginEpoch (conv.keeping fields capacity.measurementsMax) ind).collect
      (conv.keeping fields capacity.measurementsMax) capacity ind, s.arrived ++ [ind]⟩ :
        Assembly R D G X H (M × GnssBasicMeasurementsInfo)) := by
  obtain ⟨hbegin, hbegins, hpending, hpreferred, hallocated'⟩ :=
    h.beginEpoch (conv.keeping fields capacity.measurementsMax) ind
  refine hbegin.collect _ (hallocated'.trans hallocated) htaken
    (ind.converted_eq_usable hclean.ext hclean.listed) ?_ ?_ ?_ ?_
  · rw [hpreferred]
    exact hclean.clock
  · exact fun hno => hclean.first (hbegins.mp hno)
  · exact fun hyes => hclean.same fun hno =>
      Bool.false_ne_true ((hbegins.mpr hno).symm.trans hyes)
  · exact fun m hm hin => hclean.unseen m hm (hpending m hin)

/-- The first message allocates, and changes nothing that is looked at. -/
theorem Keeps.allocate (h : s.Keeps fields capacity) (hclean : s.Clean ind) :
    let s' := s.withState (s.state.allocate (conv.keeping fields capacity.measurementsMax))
    s'.Keeps fields capacity ∧ s'.Clean ind ∧ (s'.TellsRate ind ↔ s.TellsRate ind) := by
  intro s'
  obtain ⟨hinv, hstatics, hsources, hpreferred⟩ :=
    h.inv.allocate (conv.keeping fields capacity.measurementsMax)
  have hpreferred' : s'.preferred = s.preferred := hpreferred
  have hpending : s'.pending = s.pending := hsources
  have hbegins : s'.Begins ind ↔ s.Begins ind := by
    rw [Begins, Begins, show s'.state.statics = s.state.statics from hstatics]
  refine ⟨⟨hinv, h.rated.allocate conv fields, ?_⟩, ?_, ?_⟩
  · rw [hpreferred', show s'.state.info1Hz = s.state.info1Hz from
      s.state.allocate_info1Hz conv fields capacity.measurementsMax]
    exact h.copy
  · rw [Clean] at hclean ⊢
    split
    · case isTrue htaken =>
      rw [if_pos htaken] at hclean
      refine ⟨hclean.ext, hclean.listed, ?_, fun hyes => hclean.first (hbegins.mp hyes),
        fun hno => hclean.same fun hyes => hno (hbegins.mpr hyes), ?_⟩
      · rw [hpreferred']
        exact hclean.clock
      · rw [hpending]
        exact hclean.unseen
    · case isFalse htaken =>
      rw [if_neg htaken] at hclean
      rw [hpreferred']
      exact hclean
  · rw [TellsRate, TellsRate, newMeasProcessed, newMeasProcessed,
      show s'.state.statics = s.state.statics from hstatics]

/-- A message that is not used. -/
theorem Keeps.untaken (h : s.Keeps fields capacity) (htaken : ind.taken = false)
    (hclean : ind.usable = [] ∧ ¬ ind.CarriesClock s.preferred) :
    Keeps fields capacity (⟨s.state, s.arrived ++ [ind]⟩ :
      Assembly R D G X H (M × GnssBasicMeasurementsInfo)) where
  inv := h.inv.untakenPart htaken hclean.1 hclean.2
  rated := by
    refine ⟨fun hyes e he => h.rated.current hyes e ?_, h.rated.idle⟩
    rw [← lastTaken_untaken s.state htaken]
    exact he
  copy := h.copy.append (closes1Hz_untaken htaken)

/-- A message that is used. -/
theorem Keeps.taken (h : s.Keeps fields capacity) (hallocated : s.state.api.allocated = true)
    (htaken : ind.taken = true) (hclean : s.CleanPart ind)
    (htells : s.newMeasProcessed = false →
      MeasState.begins s.state.statics ind = true ∨ ind.isNhz = false) :
    Keeps fields capacity
      (⟨((s.state.beginEpoch (conv.keeping fields capacity.measurementsMax) ind).collect
        (conv.keeping fields capacity.measurementsMax) capacity ind).finish
          (conv.keeping fields capacity.measurementsMax) ind, s.arrived ++ [ind]⟩ :
        Assembly R D G X H (M × GnssBasicMeasurementsInfo)) := by
  have hrate : (s.state.beginEpoch (conv.keeping fields capacity.measurementsMax) ind).isNhz1 =
      ind.isNhz := h.rated.begun conv fields hclean htells
  have hpassed := (s.state.beginEpoch_info1Hz conv fields capacity.measurementsMax ind).1
  have hpreferred := (h.inv.beginEpoch
    (conv.keeping fields capacity.measurementsMax) ind).2.2.2.1
  have hinv := h.inv.collected conv fields hallocated htaken hclean
  replace hpreferred : (s.state.beginEpoch (conv.keeping fields capacity.measurementsMax)
    ind).api.mPreferredSignalType = s.preferred := hpreferred
  generalize s.state.beginEpoch (conv.keeping fields capacity.measurementsMax) ind = begun at *
  obtain ⟨hnew, -, hkept, -⟩ := MeasState.collect_spec
    (conv.keeping fields capacity.measurementsMax) capacity begun ind
  obtain ⟨hcollectedRate, hinfo⟩ :=
    begun.collect_info1Hz conv fields capacity.measurementsMax capacity ind
  obtain ⟨hinfo', hrate'⟩ := (begun.collect (conv.keeping fields capacity.measurementsMax)
    capacity ind).finish_info1Hz conv fields capacity.measurementsMax ind
  have hlast := lastTaken_append (s := s)
    (begun.collect (conv.keeping fields capacity.measurementsMax) capacity ind) htaken
  generalize begun.collect (conv.keeping fields capacity.measurementsMax) capacity ind =
    collected at *
  have hfinished := hinv.finish (conv.keeping fields capacity.measurementsMax) hnew ind
  have hpreferred' : (⟨collected.finish (conv.keeping fields capacity.measurementsMax) ind,
      s.arrived ++ [ind]⟩ : Assembly R D G X H (M × GnssBasicMeasurementsInfo)).preferred =
        s.preferred := by
    refine Eq.trans ?_ (hkept.trans hpreferred)
    show (collected.finish _ ind).api.mPreferredSignalType = collected.api.mPreferredSignalType
    rw [MeasState.finish]
    split <;> rfl
  refine ⟨hfinished, ⟨fun hyes e he => ?_, fun hno => ?_⟩, ?_⟩
  · have he' : ind.epoch = e := Option.some.inj (hlast.symm.trans he)
    have hgoes : ind.isLast = false := by
      by_contra hend
      have hflushes := collected.finish_flushes
        (conv.keeping fields capacity.measurementsMax) (Bool.of_not_eq_false hend)
      exact absurd (hflushes.newMeasProcessed.symm.trans hyes) Bool.false_ne_true
    show (collected.finish _ ind).isNhz1 = e.nHz
    rw [hrate', hgoes, hcollectedRate, hrate, ← he']
    rfl
  · have hend : ind.isLast = true := by
      by_contra hgoes
      have hsame : collected.finish (conv.keeping fields capacity.measurementsMax) ind =
          collected := if_neg hgoes
      rw [newMeasProcessed, hsame, hnew] at hno
      exact absurd hno.symm Bool.false_ne_true
    show (collected.finish _ ind).isNhz1 = false
    rw [hrate', hend]
    rfl
  · show CopyOfLast D G X H fields _ (preferred _) (s.arrived ++ [ind])
      (collected.finish _ ind).info1Hz
    rw [hpreferred', hinfo']
    rw [hrate] at hinfo
    by_cases hcloses : ind.closes1Hz = true
    · have hcopied : (ind.maxMessageNum == ind.seqNum && !ind.isNhz) = true := by
        rw [GnssSvMeasInfoInd.closes1Hz, htaken, Bool.true_and] at hcloses
        exact hcloses
      rw [hinfo, if_pos hcopied]
      obtain ⟨e, he, hpending, hclock⟩ := hinv.current hnew
      obtain rfl : ind.epoch = e := Option.some.inj (hlast.symm.trans he)
      have hclock' : ClockOf s.preferred (s.arrived ++ [ind]) ind.epoch
          collected.api.mGnssMeasurements.clock := by
        rw [← hpreferred, ← hkept]
        exact hclock
      exact CopyOfLast.closed hcloses _ hpending hclock'
    · have hnone : ind.closes1Hz = false := Bool.eq_false_iff.mpr hcloses
      have hnot : (ind.maxMessageNum == ind.seqNum && !ind.isNhz) = false := by
        rw [GnssSvMeasInfoInd.closes1Hz, htaken, Bool.true_and] at hnone
        exact hnone
      rw [hinfo, hnot, if_neg Bool.false_ne_true, hpassed]
      exact h.copy.append hnone

theorem Keeps.step (h : s.Keeps fields capacity) (hclean : s.Clean ind) (htells : s.TellsRate ind) :
    (s.step (conv.keeping fields capacity.measurementsMax) capacity ind).Keeps fields capacity := by
  obtain ⟨hkeeps, hclean', htells'⟩ := h.allocate conv fields hclean
  replace htells' := htells'.mpr htells
  have hallocated := allocate_allocated (conv.keeping fields capacity.measurementsMax) s.state
  simp only [Assembly.step, MeasState.reportGnssMeasurementData]
  generalize s.state.allocate (conv.keeping fields capacity.measurementsMax) = allocated at *
  rw [Clean] at hclean'
  rw [TellsRate] at htells'
  cases hinvalid : ind.invalid with
  | true =>
    have htaken : ind.taken = false := by rw [GnssSvMeasInfoInd.taken, hinvalid]; rfl
    rw [if_neg (by rw [htaken]; exact Bool.false_ne_true)] at hclean'
    exact hkeeps.untaken fields htaken hclean'
  | false =>
    cases hsystem : getLocApiSvSystemType ind.system == .unknown with
    | true =>
      have htaken : ind.taken = false := by
        rw [GnssSvMeasInfoInd.taken, bne, hsystem, Bool.not_true, Bool.and_false]
      rw [if_neg (by rw [htaken]; exact Bool.false_ne_true)] at hclean' htells'
      have hbegin := hkeeps.inv.beginEpoch (conv.keeping fields capacity.measurementsMax) ind
      have hpreferred := hbegin.2.2.2.1
      have hbegun : ((s.withState allocated).withState (allocated.beginEpoch
          (conv.keeping fields capacity.measurementsMax) ind)).Keeps fields capacity := by
        refine ⟨hbegin.1, hkeeps.rated.beginUnknown conv fields (htells' hinvalid), ?_⟩
        have hcopy := hkeeps.copy
        rw [← hpreferred] at hcopy
        have hinfo := (allocated.beginEpoch_info1Hz conv fields capacity.measurementsMax ind).1
        show CopyOfLast D G X H fields _ _ s.arrived (allocated.beginEpoch _ ind).info1Hz
        rw [hinfo]
        exact hcopy
      refine hbegun.untaken fields htaken ⟨hclean'.1, fun hcarries => hclean'.2 ?_⟩
      rw [← hpreferred]
      exact hcarries
    | false =>
      have htaken : ind.taken = true := by
        rw [GnssSvMeasInfoInd.taken, bne, hsystem, hinvalid]
        rfl
      rw [if_pos htaken] at hclean' htells'
      exact hkeeps.taken conv fields hallocated htaken hclean' htells'

/-- An object that has received nothing. -/
def start (conv : Converters R D G X H M) (fields : BasicFields D X) (capacity : Capacity)
    (mPreferredSignalType : UInt64) (fullPower : Bool) (members : M) :
    Assembly R D G X H (M × GnssBasicMeasurementsInfo) :=
  init (conv.keeping fields capacity.measurementsMax) mPreferredSignalType fullPower
    (members, .zero)

theorem keeps_start (conv : Converters R D G X H M) (fields : BasicFields D X)
    (capacity : Capacity) (mPreferredSignalType : UInt64) (fullPower : Bool) (members : M) :
    (start conv fields capacity mPreferredSignalType fullPower members).Keeps fields capacity where
  inv := inv_init _ _ _ _
  rated := ⟨fun hnew => absurd (show false = true from hnew) Bool.false_ne_true, fun _ => rfl⟩
  copy := rfl

/-- **Positions are checked against the last epoch of 1 Hz**, with the measurements of it that
there was room for, if every message is used as it should be and tells its rate. -/
theorem last_epoch_kept (conv : Converters R D G X H M) (fields : BasicFields D X)
    (capacity : Capacity) (mPreferredSignalType : UInt64) (fullPower : Bool) (members : M)
    {stream : List (GnssSvMeasInfoInd R)}
    (hclean : Meets (step (conv.keeping fields capacity.measurementsMax) capacity)
      (fun s ind => s.Clean ind ∧ s.TellsRate ind)
      (start conv fields capacity mPreferredSignalType fullPower members) stream) :
    Throughout (step (conv.keeping fields capacity.measurementsMax) capacity)
      (fun s => CopyOfLast D G X H fields capacity.measurementsMax s.preferred s.arrived
        s.state.info1Hz)
      (start conv fields capacity mPreferredSignalType fullPower members) stream :=
  (throughout_of_meets (fun _ _ h hstep => Keeps.step conv fields h hstep.1 hstep.2)
    (keeps_start conv fields capacity mPreferredSignalType fullPower members) hclean).imp
      fun _ h => h.copy

/-- No satellite, no signal and no bias. -/
def unitFields : BasicFields Unit Unit where
  svId := fun _ => 0
  gnssSignalType := fun _ _ => false
  hasBias := fun _ => false
  fullBiasNs := fun _ => 0

/-- Two epochs of 1 Hz, the second of which is not complete. -/
theorem last_epoch_kept_sample :
    let stream := [sampleInd 1 1 1 1 freshMeasurement, sampleInd 2 1 2 1 freshMeasurement]
    Throughout (step (unitConverters.keeping unitFields sampleCapacity.measurementsMax)
        sampleCapacity)
        (fun s => CopyOfLast Unit Unit Unit Unit unitFields sampleCapacity.measurementsMax
          s.preferred s.arrived s.state.info1Hz)
        (start unitConverters unitFields sampleCapacity 1 false ()) stream ∧
      (upTo1Hz stream).length = 1 ∧
      (run (step (unitConverters.keeping unitFields sampleCapacity.measurementsMax) sampleCapacity)
        (start unitConverters unitFields sampleCapacity 1 false ())
        stream).state.info1Hz.measurements.length = 2 :=
  ⟨last_epoch_kept unitConverters unitFields sampleCapacity 1 false () (by decide +kernel),
    by decide +kernel, by decide +kernel⟩

end Assembly

end LocationStack.LocApi
