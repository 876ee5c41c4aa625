import LocationStack.Lib.Guarded
import LocationStack.Lib.WordLoop
import Mathlib.Algebra.Order.BigOperators.Group.List
import Mathlib.Data.List.Induction
import Mathlib.Data.List.TakeDrop
import Mathlib.Data.UInt
import Mathlib.Tactic.Ring

/-! # Geofence batches

A batched breach and a batched dwell of the modem name their geofences twice over: one list has
ids, and the other has ranges of ids.  `geofenceBreachEvent` and `geofenceDwellEvent` expand both
lists to one array, for one breach.  They go over the lists twice: first the entries of the array
are counted, a range by a subtraction of words of 32 bits, and then they are stored, a range by a
loop over these words.  A store past the count is passed over.

The position and the time of the breach are left out, and an array is taken to be allocated
whenever it is asked for.
-/
namespace LocationStack.LocApi

open WordLoop

/-! ## Indications -/

/-- `qmiLocGeofenceIdContinuousStructT_v02` -/
structure GeofenceIdRange where
  idLow : UInt32
  idHigh : UInt32
  deriving DecidableEq

/-- The two lists of an indication, each with its `_valid`; a list has a length of 32 bits. -/
structure GeofenceIdLists where
  geofenceIdDiscreteList_valid : UInt8
  geofenceIdDiscreteList : List UInt32
  geofenceIdContinuousList_valid : UInt8
  geofenceIdContinuousList : List GeofenceIdRange
  discrete_len : geofenceIdDiscreteList.length < 2 ^ 32
  continuous_len : geofenceIdContinuousList.length < 2 ^ 32

/-- `qmiLocEventGeofenceBatchedBreachIndMsgT_v02` -/
structure BatchedBreachInd extends GeofenceIdLists where
  breachType : Int

/-- `qmiLocEventGeofenceBatchedDwellIndMsgT_v02` -/
structure BatchedDwellInd extends GeofenceIdLists where
  dwellType : Int

/-- `GeofenceBreachType` -/
inductive GeofenceBreachType
  | enter | exit | dwellIn | dwellOut | unknown
  deriving DecidableEq

/-- What `geofenceBreach` is called with; an entry of the array that nothing was stored to is
`none`. -/
structure GeofenceBreach where
  count : Nat
  hwIds : List (Option UInt32)
  breachType : GeofenceBreachType
  deriving DecidableEq

/-! ## The code -/

namespace GeofenceIdLists

variable (lists : GeofenceIdLists)

/-- The ids that the loops over the first list see. -/
def discrete : List UInt32 :=
  if lists.geofenceIdDiscreteList_valid = 1 then lists.geofenceIdDiscreteList else []

/-- The ranges that the loops over the second list see. -/
def ranges : List GeofenceIdRange :=
  if lists.geofenceIdContinuousList_valid = 1 then lists.geofenceIdContinuousList else []

/-- `count`; what is added for a range is a word of 32 bits, and the sum one of 64. -/
def count : UInt64 :=
  lists.ranges.foldl (fun count r => count + (r.idHigh - r.idLow + 1).toUInt64)
    (UInt64.ofNat lists.discrete.length)

end GeofenceIdLists

/-- `hwIds`, with `index`, a word of 32 bits. -/
structure HwIds where
  index : UInt32
  ids : List (Option UInt32)

/-- `new uint32_t[count]` -/
def HwIds.new (count : UInt64) : HwIds := ⟨0, List.replicate count.toNat none⟩

/-- `if (index < count) hwIds[index++] = id;` -/
def HwIds.store (count : UInt64) (hwIds : HwIds) (id : UInt32) : HwIds :=
  if hwIds.index.toUInt64 < count then
    ⟨hwIds.index + 1, hwIds.ids.set hwIds.index.toNat (some id)⟩
  else hwIds

/-- The stores of the ranges, each loop with so much fuel. -/
def storeRanges (fuel : Nat) (count : UInt64) (ranges : List GeofenceIdRange) (hwIds : HwIds) :
    Option HwIds :=
  ranges.foldlM (fun hwIds r => loop (HwIds.store count) r.idHigh fuel r.idLow hwIds) hwIds

/-- The end of both handlers, from `count` on: the breach, if there is one. -/
def reportBatch (fuel : Nat) (lists : GeofenceIdLists) (breachType : GeofenceBreachType) :
    Option (Option GeofenceBreach) :=
  let count := lists.count
  if count = 0 then some none
  else
    let hwIds := lists.discrete.foldl (HwIds.store count) (HwIds.new count)
    (storeRanges fuel count lists.ranges hwIds).map
      fun hwIds => some ⟨count.toNat, hwIds.ids, breachType⟩

/-- The switch on `breachType`. -/
def breachTypeOf (breachType : Int) : GeofenceBreachType :=
  if breachType = 1 then .enter else if breachType = 2 then .exit else .unknown

/-- The tests of `dwellType`. -/
def dwellBreachTypeOf (dwellType : Int) : GeofenceBreachType :=
  if dwellType = 1 then .dwellIn else if dwellType = 2 then .dwellOut else .unknown

/-- `geofenceBreachEvent` -/
def geofenceBreachEvent (fuel : Nat) (breachInfo : BatchedBreachInd) :
    Option (Option GeofenceBreach) :=
  reportBatch fuel breachInfo.toGeofenceIdLists (breachTypeOf breachInfo.breachType)

/-- `geofenceDwellEvent` -/
def geofenceDwellEvent (fuel : Nat) (dwellInfo : BatchedDwellInd) :
    Option (Option GeofenceBreach) :=
  reportBatch fuel dwellInfo.toGeofenceIdLists (dwellBreachTypeOf dwellInfo.dwellType)

/-! ## What the lists name -/

namespace GeofenceIdLists

variable (lists : GeofenceIdLists)

/-- The ids of the first list, and then those of each range in increasing order. -/
def ids : List UInt32 :=
  lists.discrete ++ lists.ranges.flatMap (fun r => between r.idLow r.idHigh)

/-- The breach of these ids; there is none if there are no ids. -/
def expansion (breachType : GeofenceBreachType) : Option GeofenceBreach :=
  if lists.ids = [] then none
  else some ⟨lists.ids.length, lists.ids.map some, breachType⟩

/-- A range is **counted right**: it does not reach to the greatest word, and it is not inverted
by more than one. -/
def CountedRight (r : GeofenceIdRange) : Prop :=
  r.idHigh.toNat + 1 < 2 ^ 32 ∧ r.idLow.toNat ≤ r.idHigh.toNat + 1

instance : DecidablePred CountedRight := fun _ => inferInstanceAs (Decidable (_ ∧ _))

/-- The two passes agree on the lists: each range is counted right, and the ids are not more than
an index can tell apart. -/
def Expandable : Prop :=
  (∀ r ∈ lists.ranges, CountedRight r) ∧ lists.ids.length ≤ 2 ^ 32

end GeofenceIdLists

/-! ## Counting -/

namespace GeofenceIdLists

/-- What is added to the count for a range. -/
def counted (r : GeofenceIdRange) : Nat := (r.idHigh - r.idLow + 1).toNat

/-- The number of words of a range. -/
theorem counted_eq (r : GeofenceIdRange) :
    counted r = (r.idHigh.toNat + 2 ^ 32 - r.idLow.toNat + 1) % 2 ^ 32 := by
  have hlow := r.idLow.toNat_lt
  rw [counted, UInt32.toNat_add, UInt32.toNat_sub, UInt32.toNat_one]
  omega

theorem counted_le (r : GeofenceIdRange) : counted r ≤ 2 ^ 32 - 1 :=
  Nat.le_sub_one_of_lt (UInt32.toNat_lt _)

/-- A range that does not reach to the greatest word is not counted too low. -/
theorem length_between_le_counted {r : GeofenceIdRange} (hmax : r.idHigh.toNat + 1 < 2 ^ 32) :
    (between r.idLow r.idHigh).length ≤ counted r := by
  have hlow := r.idLow.toNat_lt
  rw [length_between, counted_eq]
  omega

/-- And it is not counted too high if it is not inverted by more than one. -/
theorem counted_eq_length_iff {r : GeofenceIdRange} (hmax : r.idHigh.toNat + 1 < 2 ^ 32) :
    (between r.idLow r.idHigh).length = counted r ↔ CountedRight r := by
  have hlow := r.idLow.toNat_lt
  rw [length_between, counted_eq, CountedRight]
  omega

/-- Inverted by two. -/
example : counted ⟨5, 3⟩ = 2 ^ 32 - 1 := by decide

/-- A range that is counted as nothing has nothing, or everything. -/
theorem countedRight_of_counted_eq_zero {r : GeofenceIdRange} (hzero : counted r = 0)
    (hnil : between r.idLow r.idHigh = []) : CountedRight r := by
  have hlow := r.idLow.toNat_lt
  have hhigh := r.idHigh.toNat_lt
  have hlength : (between r.idLow r.idHigh).length = 0 := by rw [hnil, List.length_nil]
  rw [length_between] at hlength
  rw [counted_eq] at hzero
  rw [CountedRight]
  omega

/-- Sums of 64 bits: so many words of 32 bits do not make one wrap. -/
theorem foldl_add_toNat (ranges : List GeofenceIdRange) (start : UInt64)
    (h : start.toNat + ranges.length * (2 ^ 32 - 1) < 2 ^ 64) :
    (ranges.foldl (fun count r => count + (r.idHigh - r.idLow + 1).toUInt64) start).toNat =
      start.toNat + (ranges.map counted).sum := by
  induction ranges generalizing start with
  | nil => rfl
  | cons r ranges ih =>
    have hword := counted_le r
    rw [List.length_cons, Nat.succ_mul] at h
    have hadd : (start + (r.idHigh - r.idLow + 1).toUInt64).toNat = start.toNat + counted r := by
      rw [UInt64.toNat_add, UInt32.toNat_toUInt64, counted]
      rw [counted] at hword
      omega
    rw [List.foldl_cons, ih _ (by omega), hadd, List.map_cons, List.sum_cons, Nat.add_assoc]

variable {lists : GeofenceIdLists}

/-- **The count** is the ids of the first list, and what each range adds. -/
theorem count_toNat :
    lists.count.toNat = lists.discrete.length + (lists.ranges.map counted).sum := by
  have hdiscrete : lists.discrete.length < 2 ^ 32 := by
    rw [discrete]
    split
    · exact lists.discrete_len
    · exact Nat.two_pow_pos 32
  have hranges : lists.ranges.length ≤ 2 ^ 32 - 1 := by
    rw [ranges]
    split
    · exact Nat.le_sub_one_of_lt lists.continuous_len
    · exact Nat.zero_le _
  have hstart : (UInt64.ofNat lists.discrete.length).toNat = lists.discrete.length :=
    UInt64.toNat_ofNat_of_lt' (Nat.lt_trans hdiscrete (by decide))
  have hmul := Nat.mul_le_mul_right (2 ^ 32 - 1) hranges
  rw [count, foldl_add_toNat _ _ (by omega), hstart]

theorem ids_length : lists.ids.length = lists.discrete.length +
    (lists.ranges.map fun r => (between r.idLow r.idHigh).length).sum := by
  rw [ids, List.length_append, List.length_flatMap]

/-- Where no range reaches to the greatest word, the two passes agree on the number if each range is
counted right: what is too much for one is not made up for by another. -/
theorem sum_length_eq_sum_counted_iff {ranges : List GeofenceIdRange}
    (hmax : ∀ r ∈ ranges, r.idHigh.toNat + 1 < 2 ^ 32) :
    (ranges.map fun r => (between r.idLow r.idHigh).length).sum = (ranges.map counted).sum ↔
      ∀ r ∈ ranges, CountedRight r := by
  induction ranges with
  | nil => simp
  | cons r ranges ih =>
    obtain ⟨hfirst, hrest⟩ := List.forall_mem_cons.mp hmax
    have hle := length_between_le_counted hfirst
    have hsum : (ranges.map fun r => (between r.idLow r.idHigh).length).sum ≤
        (ranges.map counted).sum :=
      List.sum_le_sum fun r hr => length_between_le_counted (hrest r hr)
    rw [List.forall_mem_cons, ← ih hrest, ← counted_eq_length_iff hfirst, List.map_cons,
      List.map_cons, List.sum_cons, List.sum_cons]
    omega

/-- Nothing is counted of lists that name nothing if no range reaches to the greatest word or is
inverted by more than one. -/
theorem countedRight_of_count_eq_zero (hzero : lists.count = 0) (hids : lists.ids = []) :
    ∀ r ∈ lists.ranges, CountedRight r := by
  intro r hr
  have hsum : lists.discrete.length + (lists.ranges.map counted).sum = 0 := by
    rw [← count_toNat, hzero]
    rfl
  have hcounted : counted r ≤ (lists.ranges.map counted).sum :=
    List.le_sum_of_mem (List.mem_map_of_mem hr)
  rw [ids, List.append_eq_nil_iff, List.flatMap_eq_nil_iff] at hids
  exact countedRight_of_counted_eq_zero (by omega) (hids.2 r hr)

end GeofenceIdLists

/-! ## Storing -/

namespace HwIds

variable {count : UInt64}

/-- **The stores**, as long as there are not more than the array has room for and an index can tell
apart: the entries are stored one after the other. -/
theorem foldl_store {ids : List UInt32} (hcount : ids.length ≤ count.toNat)
    (hword : ids.length ≤ 2 ^ 32) :
    ids.foldl (store count) (new count) =
      ⟨UInt32.ofNat ids.length,
        ids.map some ++ List.replicate (count.toNat - ids.length) none⟩ := by
  induction ids using List.reverseRecOn with
  | nil => rfl
  | append_singleton ids id ih =>
    rw [List.length_append, List.length_singleton] at hcount hword
    have hindex : (UInt32.ofNat ids.length).toNat = ids.length := UInt32.toNat_ofNat_of_lt' hword
    have hguard : (UInt32.ofNat ids.length).toUInt64 < count := by
      rw [UInt64.lt_iff_toNat_lt, UInt32.toNat_toUInt64, hindex]
      exact hcount
    have hleft : count.toNat - ids.length = count.toNat - (ids.length + 1) + 1 := by omega
    rw [List.foldl_append, ih (by omega) (by omega), List.foldl_cons, List.foldl_nil, store,
      if_pos hguard, hindex, hleft, List.replicate_succ]
    simp [UInt32.ofNat_add]

/-- An entry that an index of 32 bits does not reach stays as it is. -/
theorem foldl_store_beyond (ids : List UInt32) (hwIds : HwIds) {i : Nat} (h : 2 ^ 32 ≤ i) :
    (ids.foldl (store count) hwIds).ids[i]? = hwIds.ids[i]? := by
  induction ids generalizing hwIds with
  | nil => rfl
  | cons id ids ih =>
    have hlt := hwIds.index.toNat_lt
    rw [List.foldl_cons, ih, store]
    split
    · exact List.getElem?_set_ne (by omega)
    · rfl

/-- **A full array** has the ids if an index can tell them apart. -/
theorem foldl_store_eq_map_iff {ids : List UInt32} (hcount : count.toNat = ids.length) :
    (ids.foldl (store count) (new count)).ids = ids.map some ↔ ids.length ≤ 2 ^ 32 := by
  constructor
  · intro h
    by_contra hword
    have hbeyond : (ids.foldl (store count) (new count)).ids[2 ^ 32]? =
        (new count).ids[2 ^ 32]? := foldl_store_beyond ids _ (Nat.le_refl _)
    rw [h, new, List.getElem?_map, List.getElem?_replicate, if_pos (by omega)] at hbeyond
    rw [List.getElem?_eq_getElem (by omega)] at hbeyond
    cases hbeyond
  · intro hword
    rw [foldl_store (Nat.le_of_eq hcount.symm) hword, hcount, Nat.sub_self]
    simp

end HwIds

/-- The loops of the ranges end if none reaches to the greatest word and there is fuel for each;
their stores are then those of the ids. -/
theorem storeRanges_eq_some_iff {fuel : Nat} {count : UInt64} {ranges : List GeofenceIdRange}
    {hwIds hwIds' : HwIds} :
    storeRanges fuel count ranges hwIds = some hwIds' ↔
      (∀ r ∈ ranges,
        r.idHigh.toNat + 1 < 2 ^ 32 ∧ r.idHigh.toNat + 1 - r.idLow.toNat < fuel) ∧
      (ranges.flatMap fun r => between r.idLow r.idHigh).foldl (HwIds.store count) hwIds =
        hwIds' := by
  have hguard : ∀ r ∈ ranges, Guarded.HasGuard
      (fun hwIds r => loop (HwIds.store count) r.idHigh fuel r.idLow hwIds)
      (fun r => r.idHigh.toNat + 1 < 2 ^ 32 ∧ r.idHigh.toNat + 1 - r.idLow.toNat < fuel)
      (fun hwIds r => (between r.idLow r.idHigh).foldl (HwIds.store count) hwIds) r :=
    fun _ _ _ _ => loop_eq_some_iff _
  rw [storeRanges, Guarded.foldlM_eq_some_iff hguard, List.foldl_flatMap]

/-! ## The breach -/

variable {lists : GeofenceIdLists} {breachType : GeofenceBreachType}

/-- The expansion of lists that both passes agree on. -/
theorem reportBatch_of_expandable (h : lists.Expandable) :
    ∃ fuel, reportBatch fuel lists breachType = some (lists.expansion breachType) := by
  obtain ⟨hright, hword⟩ := h
  have hmax : ∀ r ∈ lists.ranges, r.idHigh.toNat + 1 < 2 ^ 32 := fun r hr => (hright r hr).1
  have hcount : lists.count.toNat = lists.ids.length := by
    rw [GeofenceIdLists.count_toNat, GeofenceIdLists.ids_length,
      (GeofenceIdLists.sum_length_eq_sum_counted_iff hmax).mpr hright]
  -- No loop sees all the words.
  refine ⟨2 ^ 32 + 1, ?_⟩
  rw [reportBatch, GeofenceIdLists.expansion]
  by_cases hzero : lists.count = 0
  · have hids : lists.ids = [] := by
      rw [← List.length_eq_zero_iff, ← hcount, hzero]
      rfl
    rw [if_pos hzero, if_pos hids]
  · have hids : lists.ids ≠ [] := by
      intro hids
      rw [hids, List.length_nil] at hcount
      exact hzero (UInt64.toNat_inj.mp hcount)
    have hstored : storeRanges (2 ^ 32 + 1) lists.count lists.ranges
        (lists.discrete.foldl (HwIds.store lists.count) (HwIds.new lists.count)) =
        some (lists.ids.foldl (HwIds.store lists.count) (HwIds.new lists.count)) := by
      rw [storeRanges_eq_some_iff, GeofenceIdLists.ids, List.foldl_append]
      refine ⟨fun r hr => ⟨hmax r hr, ?_⟩, rfl⟩
      have hhigh := hmax r hr
      omega
    rw [if_neg hzero, if_neg hids]
    dsimp only
    rw [hstored, Option.map_some, hcount]
    exact congrArg (fun ids => some (some (GeofenceBreach.mk _ ids _)))
      ((HwIds.foldl_store_eq_map_iff hcount).mpr hword)

/-- Lists whose expansion is reported are lists that both passes agree on. -/
theorem expandable_of_reportBatch {fuel : Nat}
    (h : reportBatch fuel lists breachType = some (lists.expansion breachType)) :
    lists.Expandable := by
  rw [reportBatch, GeofenceIdLists.expansion] at h
  by_cases hzero : lists.count = 0
  · rw [if_pos hzero] at h
    have hids : lists.ids = [] := by
      by_contra hids
      rw [if_neg hids] at h
      cases h
    refine ⟨GeofenceIdLists.countedRight_of_count_eq_zero hzero hids, ?_⟩
    rw [hids]
    exact Nat.zero_le _
  · rw [if_neg hzero] at h
    obtain ⟨hwIds, hstored, hreport⟩ := Option.map_eq_some_iff.mp h
    obtain ⟨hfuel, hfold⟩ := storeRanges_eq_some_iff.mp hstored
    by_cases hids : lists.ids = []
    · rw [if_pos hids] at hreport
      cases hreport
    · rw [if_neg hids, Option.some_inj, GeofenceBreach.mk.injEq] at hreport
      obtain ⟨hcount, hmap, -⟩ := hreport
      rw [← List.foldl_append] at hfold
      have hmax : ∀ r ∈ lists.ranges, r.idHigh.toNat + 1 < 2 ^ 32 := fun r hr => (hfuel r hr).1
      constructor
      · rw [← GeofenceIdLists.sum_length_eq_sum_counted_iff hmax]
        rw [GeofenceIdLists.count_toNat, GeofenceIdLists.ids_length] at hcount
        omega
      · rw [← HwIds.foldl_store_eq_map_iff hcount, ← hmap, ← hfold, GeofenceIdLists.ids]

/-- **When a batch is expanded**: a handler ends with the breach of the ids that the lists name, or
with none if they name none, exactly for the lists that both passes agree on. -/
theorem batch_expanded_iff (breachInfo : BatchedBreachInd) (dwellInfo : BatchedDwellInd) :
    ((∃ fuel, geofenceBreachEvent fuel breachInfo =
        some (breachInfo.expansion (breachTypeOf breachInfo.breachType))) ↔
      breachInfo.Expandable) ∧
    ((∃ fuel, geofenceDwellEvent fuel dwellInfo =
        some (dwellInfo.expansion (dwellBreachTypeOf dwellInfo.dwellType))) ↔
      dwellInfo.Expandable) :=
  ⟨⟨fun ⟨_, h⟩ => expandable_of_reportBatch h, reportBatch_of_expandable⟩,
    ⟨fun ⟨_, h⟩ => expandable_of_reportBatch h, reportBatch_of_expandable⟩⟩

/-- The breach of one geofence, the one with the greatest id, named by a range. -/
def lastGeofence : BatchedBreachInd where
  geofenceIdDiscreteList_valid := 0
  geofenceIdDiscreteList := []
  geofenceIdContinuousList_valid := 1
  geofenceIdContinuousList := [⟨2 ^ 32 - 1, 2 ^ 32 - 1⟩]
  discrete_len := by decide
  continuous_len := by decide
  breachType := 1

/-- The loop over the ids from the greatest word to the greatest word does not end. -/
theorem last_geofence_runs_forever :
    lastGeofence.ids = [2 ^ 32 - 1] ∧ ∀ fuel, geofenceBreachEvent fuel lastGeofence = none := by
  refine ⟨by decide, fun fuel => Option.eq_none_iff_forall_ne_some.mpr fun breach h => ?_⟩
  have hcount : lastGeofence.count ≠ 0 := by decide
  rw [geofenceBreachEvent, reportBatch, if_neg hcount] at h
  obtain ⟨_, hstored, -⟩ := Option.map_eq_some_iff.mp h
  have hmax := (storeRanges_eq_some_iff.mp hstored).1 ⟨2 ^ 32 - 1, 2 ^ 32 - 1⟩ (by decide)
  exact absurd hmax.1 (by decide)

end LocationStack.LocApi
