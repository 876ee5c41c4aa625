import LocationStack.Lib.DoWhile
import LocationStack.Lib.Guarded
import Mathlib.Algebra.Group.Nat.Defs
import Mathlib.Data.List.Induction
import Mathlib.Data.Rat.Init

/-! # Reading a batch out of the modem

The modem keeps the fixes of a batching session, and gives a few of them for a read.
`getBatchedLocationsSync` and `getBatchedTripLocationsSync` read until they have what they were
asked for, or until a read gives nothing, and keep the locations in an array that is allocated
before.  The first fills its array from the end, because a read gives the newest fix first, and
has an entry more for a fix that comes in between; the second fills its array from the beginning.
What is left to read is a difference of words of 64 bits.

The modem is a function of a state of its own and of what it is asked for.  A fix is what its
report has; doubles and floats are rational numbers, and an array is taken to be allocated
whenever it is asked for.  Both sizes of a batch are what the modem has told in a word of 32 bits.
-/
namespace LocationStack.LocApi

/-! ## Fixes -/

/-- `qmiLocBatchedReportStructT_v02`, what is read of it. -/
structure BatchedReport where
  validFields : BitVec 64
  latitude : ℚ
  longitude : ℚ
  horUncCircular : ℚ
  speedHorizontal : ℚ
  speedUnc : ℚ
  altitudeWrtEllipsoid : ℚ
  heading : ℚ
  headingUnc : ℚ
  technologyMask : BitVec 32
  timestampUtc : UInt64
  vertUnc : ℚ
  deriving DecidableEq

/-- `Location`; a field with a flag is there if its flag is set. -/
structure Location where
  timestamp : UInt64
  latLong : Option (ℚ × ℚ)
  altitude : Option ℚ
  speed : Option ℚ
  bearing : Option ℚ
  accuracy : Option ℚ
  verticalAccuracy : Option ℚ
  speedAccuracy : Option ℚ
  bearingAccuracy : Option ℚ
  gnss : Bool
  cell : Bool
  wifi : Bool
  sensors : Bool
  deriving DecidableEq

namespace BatchedReport

variable (r : BatchedReport)

/-- A field that is there if its bit of `validFields` is. -/
def told (bit : Nat) (value : ℚ) : Option ℚ :=
  if r.validFields.getLsbD bit then some value else none

/-- A bit of the technologies, which are read only if they are there. -/
def usedTechnology (bit : Nat) : Bool := r.validFields.getLsbD 9 && r.technologyMask.getLsbD bit

/-- The body of the loop of `readModemLocations`. -/
def location : Location where
  timestamp := if r.validFields.getLsbD 10 then r.timestampUtc else 0
  latLong :=
    if r.validFields.getLsbD 0 && r.validFields.getLsbD 1 then some (r.latitude, r.longitude)
    else none
  altitude := r.told 5 r.altitudeWrtEllipsoid
  speed := r.told 3 r.speedHorizontal
  bearing := r.told 7 r.heading
  accuracy := r.told 2 r.horUncCircular
  verticalAccuracy := r.told 13 r.vertUnc
  speedAccuracy := r.told 4 r.speedUnc
  bearingAccuracy := r.told 8 r.headingUnc
  gnss := r.usedTechnology 0
  cell := r.usedTechnology 1
  wifi := r.usedTechnology 2
  sensors := r.usedTechnology 3

end BatchedReport

/-! ## The modem -/

/-- What comes back for a read, where no more than `max` reports have room: whether it did
(`rv`), and `qmiLocReadFromBatchIndMsgT_v02`. -/
structure ReadFromBatchInd (max : UInt32) where
  rv : Bool
  numberOfEntries_valid : UInt8
  numberOfEntries : UInt32
  batchedReportList_valid : UInt8
  batchedReportList : Nat → BatchedReport
  entries_le : numberOfEntries ≤ max

/-- `QMI_LOC_READ_FROM_BATCH_MAX_SIZE_V02` -/
def readFromBatchMaxSize : UInt32 := 5

/-- A modem answers a request for a number of entries. -/
abbrev BatchModem (max : UInt32) (σ : Type) := σ → UInt32 → ReadFromBatchInd max × σ

/-- A modem that has its answers in a row, whatever it is asked for. -/
def inARow {max : UInt32} (replies : Nat → ReadFromBatchInd max) : BatchModem max Nat :=
  fun k _ => (replies k, k + 1)

/-- The locations of an answer. -/
def ReadFromBatchInd.locations {max : UInt32} (ind : ReadFromBatchInd max) : List Location :=
  if !ind.rv then []
  else if ind.numberOfEntries_valid ≠ 0 ∧ ind.batchedReportList_valid ≠ 0 then
    (List.range ind.numberOfEntries.toNat).map fun i => (ind.batchedReportList i).location
  else []

theorem ReadFromBatchInd.length_locations_le {max : UInt32} (ind : ReadFromBatchInd max) :
    ind.locations.length ≤ max.toNat := by
  have hle := UInt32.le_iff_toNat_le.mp ind.entries_le
  rw [locations]
  split
  · exact Nat.zero_le _
  · split
    · rwa [List.length_map, List.length_range]
    · exact Nat.zero_le _

variable {max : UInt32} {σ : Type} (modem : BatchModem max σ)

/-- `readModemLocations` -/
def readModemLocations (s : σ) (count : UInt64) : List Location × σ :=
  let (ind, s) := modem s (if count ≠ 0 then count.toUInt32 else 0)
  (ind.locations, s)

/-! ## Arrays -/

/-- An array of locations; an entry that nothing was stored to is `none`, and is cleared. -/
abbrev LocationArray := List (Option Location)

/-- What can be wrong with a store. -/
inductive Fault
  | outOfBounds
  deriving DecidableEq

/-- `array[index] = location` -/
def LocationArray.store (array : LocationArray) (index : UInt64) (location : Location) :
    Except Fault LocationArray :=
  if index.toNat < array.length then .ok (array.set index.toNat (some location))
  else .error .outOfBounds

/-- The timestamp of an entry. -/
def LocationArray.timestamp (array : LocationArray) (i : Nat) : UInt64 :=
  match array[i]? with
  | some (some location) => location.timestamp
  | _ => 0

/-- The entries that locations were stored to. -/
def LocationArray.stored (array : LocationArray) : Nat := array.countP Option.isSome

/-- `reportLocations(array + offset, count)` -/
structure BatchReport where
  array : LocationArray
  offset : UInt32
  count : UInt64

/-- The entries that are reported, those of them that are in the array. -/
def BatchReport.entries (report : BatchReport) : LocationArray :=
  (report.array.drop report.offset.toNat).take report.count.toNat

/-! ## The loop -/

/-- The variables of the loop, with all that `entriesGotInTotal` has been. -/
structure Reading (σ A : Type) where
  modem : σ
  entriesGotInTotal : UInt64
  entriesToRead : UInt64
  array : A
  totals : List UInt64

/-- What is left to read, as far as there is room for it. -/
def leftToRead (max : UInt32) (entriesToReadInTotal entriesGotInTotal : UInt64) : UInt64 :=
  min (entriesToReadInTotal - entriesGotInTotal) max.toUInt64

/-- One pass of the loop of both functions, which keep what is read in ways of their own. -/
def readPass {A : Type} (keep : A → UInt64 → List Location → Except Fault A)
    (entriesToReadInTotal : UInt64) (r : Reading σ A) : Except Fault (Reading σ A × Bool) := do
  let (entries, s) := readModemLocations modem r.modem r.entriesToRead
  let array ← keep r.array r.entriesGotInTotal entries
  let total := r.entriesGotInTotal + UInt64.ofNat entries.length
  let toRead := leftToRead max entriesToReadInTotal total
  return (⟨s, total, toRead, array, total :: r.totals⟩, 0 < entries.length && 0 < toRead)

/-- Before the first pass. -/
def Reading.first {A : Type} (max : UInt32) (entriesToReadInTotal : UInt64) (s : σ) (array : A) :
    Reading σ A :=
  ⟨s, 0, min entriesToReadInTotal max.toUInt64, array, []⟩

/-- What a call comes to: the report, and what the loop has left. -/
structure BatchRead (σ : Type) where
  modem : σ
  totals : List UInt64
  report : BatchReport

/-! ## `getBatchedLocationsSync` -/

/-- The `i`-th entry of a read is stored so far from the end of the array, if its index is in the
array, and not negative as an `int`. -/
def keepEntryFromEnd (entriesToReadInTotal total : UInt64) (array : LocationArray)
    (entry : Location × Nat) : Except Fault LocationArray :=
  let index := entriesToReadInTotal - total - UInt64.ofNat entry.2
  if index ≤ entriesToReadInTotal ∧ index.toNat % 2 ^ 32 < 2 ^ 31 then array.store index entry.1
  else .ok array

/-- From the end of the array, from where the total is. -/
def keepFromEnd (entriesToReadInTotal : UInt64) (array : LocationArray) (total : UInt64)
    (entries : List Location) : Except Fault LocationArray :=
  entries.zipIdx.foldlM (keepEntryFromEnd entriesToReadInTotal total) array

/-- The entry goes to the end of the array, and those after it one down. -/
def moveToEnd (array : LocationArray) (last i : Nat) : LocationArray :=
  let shifted := (List.range' i (last - i)).foldl
    (fun shifted j => shifted.set j (shifted[j + 1]?).join) array
  shifted.set last (array[i]?).join

/-- The search for the entry that is out of order, from `i - 1` down. -/
def reorderFrom (array : LocationArray) (last : Nat) : Nat → UInt64 → LocationArray
  | 0, _ => array
  | i + 1, currentTimeStamp =>
    if currentTimeStamp < array.timestamp i then moveToEnd array last i
    else reorderFrom array last i (array.timestamp i)

/-- `int i = entriesToReadInTotal-1` is where the search begins, if it is not negative. -/
def reorder (array : LocationArray) (last : Nat) : LocationArray :=
  if (last - 1) % 2 ^ 32 < 2 ^ 31 then reorderFrom array last last (array.timestamp last)
  else array

/-- The report after the loop. -/
def reportFromEnd (entriesToReadInTotal : UInt64) (array : LocationArray) (total : UInt64) :
    BatchReport :=
  if total < entriesToReadInTotal then
    ⟨array, (1 + entriesToReadInTotal - total).toUInt32, total⟩
  else if entriesToReadInTotal < total then
    ⟨reorder array entriesToReadInTotal.toNat, 0, total⟩
  else ⟨array, 1, total⟩

/-- `getBatchedLocationsSync`; the size of the batch is `mBatchSize`. -/
def getBatchedLocationsSync (fuel : Nat) (s : σ) (mBatchSize : UInt32) (count : UInt64) :
    Option (Except Fault (BatchRead σ)) :=
  let entriesToReadInTotal := min mBatchSize.toUInt64 count
  if entriesToReadInTotal = 0 then some (.ok ⟨s, [], ⟨[], 0, 0⟩⟩)
  else
    (DoWhile.loop (readPass modem (keepFromEnd entriesToReadInTotal) entriesToReadInTotal) fuel
      (Reading.first max entriesToReadInTotal s
        (List.replicate (entriesToReadInTotal + 1).toNat none))).map
      (Except.map fun r =>
        ⟨r.modem, r.totals, reportFromEnd entriesToReadInTotal r.array r.entriesGotInTotal⟩)

/-! ## `getBatchedTripLocationsSync` -/

/-- An entry is stored at `idxLocationFromModem`, if that is in the array. -/
def keepEntryFromStart (entriesToReadInTotal : UInt64) (kept : LocationArray × UInt64)
    (entry : Location) : Except Fault (LocationArray × UInt64) :=
  if kept.2 < entriesToReadInTotal then
    (kept.1.store kept.2 entry).map fun array => (array, kept.2 + 1)
  else .ok (kept.1, kept.2 + 1)

/-- From the beginning of the array. -/
def keepFromStart (entriesToReadInTotal : UInt64) (kept : LocationArray × UInt64) (_ : UInt64)
    (entries : List Location) : Except Fault (LocationArray × UInt64) :=
  entries.foldlM (keepEntryFromStart entriesToReadInTotal) kept

/-- `getBatchedTripLocationsSync`, with the distance of `reportCompletedTrips`, if that is called;
the size of the batch is `mTripBatchSize`. -/
def getBatchedTripLocationsSync (fuel : Nat) (s : σ) (mTripBatchSize : UInt32) (count : UInt64)
    (accumulatedDistance : UInt32) : Option (Except Fault (BatchRead σ × Option UInt32)) :=
  let entriesToReadInTotal := min mTripBatchSize.toUInt64 count
  if entriesToReadInTotal = 0 then some (.ok (⟨s, [], ⟨[], 0, 0⟩⟩, none))
  else
    (DoWhile.loop (readPass modem (keepFromStart entriesToReadInTotal) entriesToReadInTotal) fuel
      (Reading.first max entriesToReadInTotal s
        (List.replicate entriesToReadInTotal.toNat none, 0))).map
      (Except.map fun r =>
        (⟨r.modem, r.totals, r.array.1, 0, r.entriesGotInTotal⟩,
          if accumulatedDistance ≠ 0 then some accumulatedDistance else none))

/-! ## What the passes do -/

section Words

variable {N : UInt64}

theorem min_toNat (a b : UInt64) : (min a b).toNat = min a.toNat b.toNat := by
  have hmin : min a b = if a ≤ b then a else b := rfl
  rw [hmin]
  split <;> rename_i h <;> rw [UInt64.le_iff_toNat_le] at h <;> omega

theorem ofNat_length_toNat {entries : List Location} (h : entries.length ≤ max.toNat) :
    (UInt64.ofNat entries.length).toNat = entries.length := by
  have hmax := max.toNat_lt
  exact UInt64.toNat_ofNat_of_lt' (Nat.lt_trans (Nat.lt_of_le_of_lt h hmax) (by decide))

/-- The total after a read does not wrap. -/
theorem total_toNat {total : UInt64} {entries : List Location} (htotal : total ≤ N)
    (hN : N.toNat < 2 ^ 32) (h : entries.length ≤ max.toNat) :
    (total + UInt64.ofNat entries.length).toNat = total.toNat + entries.length := by
  have hmax := max.toNat_lt
  rw [UInt64.le_iff_toNat_le] at htotal
  rw [UInt64.toNat_add, ofNat_length_toNat h]
  omega

/-- Another read is made for as long as something is left. -/
theorem leftToRead_pos_iff {total : UInt64} (htotal : total ≤ N) :
    0 < leftToRead max N total ↔ total.toNat < N.toNat ∧ 0 < max.toNat := by
  rw [leftToRead, UInt64.lt_iff_toNat_lt, min_toNat, UInt64.toNat_sub_of_le _ _ htotal,
    UInt32.toNat_toUInt64, UInt64.toNat_zero]
  rw [UInt64.le_iff_toNat_le] at htotal
  omega

end Words

/-- **A pass** whose entries are kept. -/
theorem readPass_of_keep {A : Type} {keep : A → UInt64 → List Location → Except Fault A}
    {N : UInt64} {r : Reading σ A} {entries : List Location} {s : σ} {array : A}
    (hread : readModemLocations modem r.modem r.entriesToRead = (entries, s))
    (hkeep : keep r.array r.entriesGotInTotal entries = .ok array) :
    readPass modem keep N r =
      .ok (⟨s, r.entriesGotInTotal + UInt64.ofNat entries.length,
          leftToRead max N (r.entriesGotInTotal + UInt64.ofNat entries.length), array,
          (r.entriesGotInTotal + UInt64.ofNat entries.length) :: r.totals⟩,
        0 < entries.length &&
          0 < leftToRead max N (r.entriesGotInTotal + UInt64.ofNat entries.length)) := by
  rw [readPass, hread]
  dsimp only
  rw [hkeep]
  rfl

/-! ## Filling from the end -/

/-- What the array is when so much is read: the newest fix is at its end, and an entry whose index
is negative as an `int` is not stored to. -/
def placedFromEnd (N : Nat) (got : List Location) : LocationArray :=
  (List.range (N + 1)).map fun i => if i < 2 ^ 31 then got[N - i]? else none

@[simp] theorem length_placedFromEnd (N : Nat) (got : List Location) :
    (placedFromEnd N got).length = N + 1 := by
  simp [placedFromEnd]

theorem getElem_placedFromEnd {N i : Nat} {got : List Location}
    (h : i < (placedFromEnd N got).length) :
    (placedFromEnd N got)[i] = if i < 2 ^ 31 then got[N - i]? else none := by
  simp [placedFromEnd]

theorem placedFromEnd_nil (N : Nat) : placedFromEnd N [] = List.replicate (N + 1) none := by
  apply List.ext_getElem (by simp)
  intro i h _
  rw [getElem_placedFromEnd h, List.getElem_replicate]
  simp

/-- What is not next is the same of both. -/
theorem getElem?_concat_of_ne {got : List Location} {entry : Location} {j : Nat}
    (h : j ≠ got.length) : (got ++ [entry])[j]? = got[j]? := by
  by_cases hlt : j < got.length
  · exact List.getElem?_append_left hlt
  · have hlength : (got ++ [entry]).length = got.length + 1 := by simp
    rw [List.getElem?_eq_none (by omega), List.getElem?_eq_none (by omega)]

theorem set_placedFromEnd {N : Nat} {got : List Location} (entry : Location)
    (hgot : got.length ≤ N) (hindex : N - got.length < 2 ^ 31) :
    (placedFromEnd N got).set (N - got.length) (some entry) =
      placedFromEnd N (got ++ [entry]) := by
  apply List.ext_getElem (by simp)
  intro i hi hi'
  rw [length_placedFromEnd] at hi'
  rw [List.getElem_set]
  by_cases hat : N - got.length = i
  · have hnext : N - i = got.length := by omega
    rw [if_pos hat, getElem_placedFromEnd, if_pos (hat ▸ hindex), hnext,
      List.getElem?_concat_length]
  · rw [if_neg hat, getElem_placedFromEnd, getElem_placedFromEnd,
      getElem?_concat_of_ne (by omega)]

theorem placedFromEnd_concat {N : Nat} {got : List Location} (entry : Location)
    (hgot : got.length ≤ N) (hindex : ¬ N - got.length < 2 ^ 31) :
    placedFromEnd N (got ++ [entry]) = placedFromEnd N got := by
  apply List.ext_getElem (by simp)
  intro i hi hi'
  rw [length_placedFromEnd] at hi'
  rw [getElem_placedFromEnd, getElem_placedFromEnd]
  by_cases hi31 : i < 2 ^ 31
  · rw [if_pos hi31, if_pos hi31, getElem?_concat_of_ne (by omega)]
  · rw [if_neg hi31, if_neg hi31]

/-- One entry: it is next below those that are kept. -/
theorem keepEntryFromEnd_placed {N total : UInt64} (hN : N.toNat < 2 ^ 32) {got : List Location}
    {entry : Location} {i : Nat} (htotal : total.toNat + i = got.length)
    (hroom : got.length < N.toNat) :
    keepEntryFromEnd N total (placedFromEnd N.toNat got) (entry, i) =
      .ok (placedFromEnd N.toNat (got ++ [entry])) := by
  have h64 : UInt64.size = 2 ^ 64 := rfl
  have hi : (UInt64.ofNat i).toNat = i := UInt64.toNat_ofNat_of_lt' (by omega)
  have hleft : (N - total).toNat = N.toNat - total.toNat :=
    UInt64.toNat_sub_of_le _ _ (UInt64.le_iff_toNat_le.mpr (by omega))
  have hindex : (N - total - UInt64.ofNat i).toNat = N.toNat - got.length := by
    rw [UInt64.toNat_sub_of_le _ _ (UInt64.le_iff_toNat_le.mpr (by omega)), hleft, hi]
    omega
  have hle : N - total - UInt64.ofNat i ≤ N := by
    rw [UInt64.le_iff_toNat_le, hindex]
    omega
  have hmod : (N - total - UInt64.ofNat i).toNat % 2 ^ 32 = N.toNat - got.length := by omega
  rw [keepEntryFromEnd]
  dsimp only
  by_cases hint : N.toNat - got.length < 2 ^ 31
  · rw [if_pos ⟨hle, hmod ▸ hint⟩, LocationArray.store, hindex, length_placedFromEnd,
      if_pos (by omega), set_placedFromEnd _ (Nat.le_of_lt hroom) hint]
  · rw [if_neg fun h => hint (hmod ▸ h.2), placedFromEnd_concat _ (Nat.le_of_lt hroom) hint]

/-- **One read is kept** where there is room for it: below what is kept already. -/
theorem keepFromEnd_placed {N total : UInt64} (hN : N.toNat < 2 ^ 32) {got entries : List Location}
    (htotal : total.toNat = got.length) (hroom : (got ++ entries).length ≤ N.toNat) :
    keepFromEnd N (placedFromEnd N.toNat got) total entries =
      .ok (placedFromEnd N.toNat (got ++ entries)) := by
  induction entries using List.reverseRecOn with
  | nil =>
    rw [List.append_nil]
    rfl
  | append_singleton entries entry ih =>
    simp only [List.length_append, List.length_singleton] at hroom
    have hkept := ih (by rw [List.length_append]; omega)
    rw [keepFromEnd] at hkept ⊢
    have hlength : total.toNat + entries.length = (got ++ entries).length := by
      rw [List.length_append, htotal]
    have hone : keepEntryFromEnd N total (placedFromEnd N.toNat (got ++ entries))
        (entry, entries.length) = .ok (placedFromEnd N.toNat (got ++ entries ++ [entry])) :=
      keepEntryFromEnd_placed hN hlength (by rw [List.length_append]; omega)
    rw [List.zipIdx_append, Nat.zero_add, List.zipIdx_singleton,
      Guarded.foldlM_concat_of_ok hkept, hone, List.append_assoc]

/-- Nothing is stored outside of an array of the size that is allocated. -/
theorem keepFromEnd_ok {N : UInt64} {array : LocationArray} (total : UInt64)
    (entries : List Location) (h : array.length = N.toNat + 1) :
    ∃ array', keepFromEnd N array total entries = .ok array' ∧ array'.length = N.toNat + 1 := by
  refine Guarded.exists_foldlM_ok (fun array entry harray => ?_) _ h
  rw [keepEntryFromEnd]
  split
  · rename_i hindex
    have hle := UInt64.le_iff_toNat_le.mp hindex.1
    rw [LocationArray.store, if_pos (by omega)]
    exact ⟨_, rfl, by rw [List.length_set, harray]⟩
  · exact ⟨array, rfl, harray⟩

/-! ## Filling from the beginning -/

/-- What the array is when so much is read. -/
def placedFromStart (N : Nat) (got : List Location) : LocationArray :=
  got.map some ++ List.replicate (N - got.length) none

theorem length_placedFromStart {N : Nat} {got : List Location} (h : got.length ≤ N) :
    (placedFromStart N got).length = N := by
  rw [placedFromStart, List.length_append, List.length_map, List.length_replicate]
  omega

theorem set_placedFromStart {N : Nat} {got : List Location} (entry : Location)
    (hroom : got.length < N) :
    (placedFromStart N got).set got.length (some entry) = placedFromStart N (got ++ [entry]) := by
  have hleft : N - got.length = N - (got.length + 1) + 1 := by omega
  rw [placedFromStart, placedFromStart, List.length_append, List.length_singleton, hleft,
    List.replicate_succ, List.set_append_right _ _ (by simp), List.length_map]
  simp

theorem keepEntryFromStart_placed {N idx : UInt64} {got : List Location} (entry : Location)
    (hidx : idx.toNat = got.length) (hroom : got.length < N.toNat) :
    keepEntryFromStart N (placedFromStart N.toNat got, idx) entry =
      .ok (placedFromStart N.toNat (got ++ [entry]), idx + 1) := by
  have hlt : idx < N := by
    rw [UInt64.lt_iff_toNat_lt, hidx]
    exact hroom
  have hstore : LocationArray.store (placedFromStart N.toNat got) idx entry =
      .ok (placedFromStart N.toNat (got ++ [entry])) := by
    rw [LocationArray.store, hidx, length_placedFromStart (Nat.le_of_lt hroom), if_pos hroom,
      set_placedFromStart entry hroom]
  rw [keepEntryFromStart, if_pos hlt, hstore]
  rfl

/-- **One read is kept** where there is room for it: after what is kept already. -/
theorem keepFromStart_placed {N idx total : UInt64} {got entries : List Location}
    (hidx : idx.toNat = got.length) (hroom : (got ++ entries).length ≤ N.toNat) :
    ∃ idx' : UInt64, idx'.toNat = (got ++ entries).length ∧
      keepFromStart N (placedFromStart N.toNat got, idx) total entries =
        .ok (placedFromStart N.toNat (got ++ entries), idx') := by
  have hN := N.toNat_lt
  induction entries using List.reverseRecOn with
  | nil => exact ⟨idx, by rw [hidx, List.append_nil], by rw [List.append_nil]; rfl⟩
  | append_singleton entries entry ih =>
    rw [← List.append_assoc, List.length_append, List.length_singleton] at hroom
    obtain ⟨idx', hidx', hkept⟩ := ih (Nat.le_of_succ_le hroom)
    refine ⟨idx' + 1, ?_, ?_⟩
    · rw [← List.append_assoc, List.length_append, List.length_singleton, UInt64.toNat_add, hidx',
        UInt64.toNat_one]
      omega
    · rw [keepFromStart] at hkept ⊢
      rw [Guarded.foldlM_concat_of_ok hkept, keepEntryFromStart_placed entry hidx' hroom,
        List.append_assoc]

theorem keepFromStart_ok {N : UInt64} {kept : LocationArray × UInt64} (total : UInt64)
    (entries : List Location) (h : kept.1.length = N.toNat) :
    ∃ kept', keepFromStart N kept total entries = .ok kept' ∧ kept'.1.length = N.toNat := by
  refine @Guarded.exists_foldlM_ok _ _ _ _ (fun kept => kept.1.length = N.toNat)
    (fun kept entry hkept => ?_) entries kept h
  rw [keepEntryFromStart]
  split
  · rename_i hidx
    rw [UInt64.lt_iff_toNat_lt] at hidx
    rw [LocationArray.store, if_pos (hkept ▸ hidx)]
    exact ⟨_, rfl, by rw [List.length_set, hkept]⟩
  · exact ⟨_, rfl, hkept⟩

end LocationStack.LocApi
