import LocationStack.LocApi.BatchReads

/-! # The bounds of a batch

The modem says how many entries an answer has, and may say more than it was asked for.  The loops
store nothing outside of their arrays all the same.  What is left to read is the difference of what
was asked for and what was got: it wraps if an answer has more entries than were left, and the
loops go on, and report more entries than they have stored.  No answer with more is what it takes
for the rest (`NeverMore`).  The index of a store is also looked at as an `int`; an array with
2 ^ 31 entries has indices that are negative then.
-/
namespace LocationStack.LocApi

variable {max : UInt32} (replies : Nat → ReadFromBatchInd max)

/-! ## Answers in a row -/

/-- The locations of so many answers. -/
def given (k : Nat) : List Location := (List.range k).flatMap fun i => (replies i).locations

/-- The next read after so many answers is made: none was empty, and something is left. -/
def Asked (N k : Nat) : Prop :=
  (given replies k).length < N ∧ ∀ i < k, (replies i).locations ≠ []

/-- No answer to a read that is made has more than what is left. -/
def NeverMore (N : Nat) : Prop :=
  ∀ k, Asked replies N k → (given replies (k + 1)).length ≤ N

theorem given_succ (k : Nat) :
    given replies (k + 1) = given replies k ++ (replies k).locations := by
  simp [given, List.range_succ]

theorem given_mono {j k : Nat} (h : j ≤ k) : given replies j <+: given replies k := by
  induction k with
  | zero =>
    obtain rfl := Nat.le_zero.mp h
    exact List.prefix_refl _
  | succ k ih =>
    rcases Nat.lt_or_eq_of_le h with hlt | rfl
    · rw [given_succ]
      exact (ih (Nat.le_of_lt_succ hlt)).trans (List.prefix_append _ _)
    · exact List.prefix_refl _

variable {replies}

theorem asked_zero {N : Nat} (h : 0 < N) : Asked replies N 0 :=
  ⟨h, fun _ hi => absurd hi (Nat.not_lt_zero _)⟩

theorem Asked.succ {N k : Nat} (h : Asked replies N k) (hne : (replies k).locations ≠ [])
    (hlt : (given replies (k + 1)).length < N) : Asked replies N (k + 1) := by
  refine ⟨hlt, fun i hi => ?_⟩
  rcases Nat.lt_succ_iff_lt_or_eq.mp hi with hi | rfl
  · exact h.2 i hi
  · exact hne

/-- Nothing is given in all if the first answer is empty. -/
theorem given_succ_eq_nil_iff {N k : Nat} (h : Asked replies N k) :
    given replies (k + 1) = [] ↔ (replies 0).locations = [] := by
  have hfirst : given replies 1 = (replies 0).locations := by simp [given]
  constructor
  · intro hnil
    have hpre := given_mono replies (Nat.le_add_left 1 k)
    rw [hnil, List.prefix_nil] at hpre
    rw [← hfirst, hpre]
  · intro hnil
    cases k with
    | zero => rw [hfirst, hnil]
    | succ k => exact absurd hnil (h.2 0 (Nat.succ_pos k))

/-! ## The loop -/

variable {A : Type} {keep : A → UInt64 → List Location → Except Fault A} {N : UInt64}

/-- The total after a pass. -/
def nextTotal (replies : Nat → ReadFromBatchInd max) (r : Reading Nat A) : UInt64 :=
  r.entriesGotInTotal + UInt64.ofNat (replies r.modem).locations.length

/-- A pass whose entries are kept. -/
theorem readPass_of_kept {r : Reading Nat A} {array : A}
    (hkeep : keep r.array r.entriesGotInTotal (replies r.modem).locations = .ok array) :
    readPass (inARow replies) keep N r =
      .ok (⟨r.modem + 1, nextTotal replies r, leftToRead max N (nextTotal replies r), array,
          nextTotal replies r :: r.totals⟩,
        0 < (replies r.modem).locations.length && 0 < leftToRead max N (nextTotal replies r)) :=
  readPass_of_keep (inARow replies) rfl hkeep

/-- What a pass that is made has done. -/
theorem readPass_cases {r t : Reading Nat A} {again : Bool}
    (h : readPass (inARow replies) keep N r = .ok (t, again)) :
    t.modem = r.modem + 1 ∧ t.entriesGotInTotal = nextTotal replies r ∧
      t.totals = nextTotal replies r :: r.totals ∧
      again = (0 < (replies r.modem).locations.length &&
        0 < leftToRead max N (nextTotal replies r)) := by
  cases hkept : keep r.array r.entriesGotInTotal (replies r.modem).locations with
  | ok array =>
    rw [readPass_of_kept hkept] at h
    cases h
    exact ⟨rfl, rfl, rfl, rfl⟩
  | error e =>
    have hread : readModemLocations (inARow replies) r.modem r.entriesToRead =
        ((replies r.modem).locations, r.modem + 1) := rfl
    rw [readPass, hread] at h
    dsimp only at h
    rw [hkept] at h
    cases h

/-- No run stores outside of an array that has its size. -/
theorem reads_ne_outOfBounds {Sized : A → Prop}
    (hkeep : ∀ array total entries, Sized array →
      ∃ array', keep array total entries = .ok array' ∧ Sized array')
    {fuel : Nat} {array : A} (h : Sized array) (e : Fault) :
    DoWhile.loop (readPass (inARow replies) keep N) fuel (Reading.first max N 0 array) ≠
      some (.error e) := by
  refine @DoWhile.loop_ne_error _ _ _ (fun r => Sized r.array) _ fuel (fun r hr => ?_) h e
  obtain ⟨array', hkept, hsized⟩ := hkeep r.array r.entriesGotInTotal (replies r.modem).locations hr
  exact ⟨_, _, readPass_of_kept hkept, fun _ => hsized⟩

/-- What a pass begins with, if no answer so far had more than what was left. -/
structure Begun (replies : Nat → ReadFromBatchInd max) (N : UInt64)
    (Placed : List Location → A → Prop) (r : Reading Nat A) : Prop where
  asked : Asked replies N.toNat r.modem
  total : r.entriesGotInTotal.toNat = (given replies r.modem).length
  placed : Placed (given replies r.modem) r.array
  totals : ∀ total ∈ r.totals, total ≤ N

/-- What a loop has come to that got nothing more than it asked for. -/
structure Ended (replies : Nat → ReadFromBatchInd max) (N : UInt64)
    (Placed : List Location → A → Prop) (r : Reading Nat A) : Prop where
  kept : ∃ got, (got = [] ↔ (replies 0).locations = []) ∧ got.length ≤ N.toNat ∧
    r.entriesGotInTotal.toNat = got.length ∧ Placed got r.array
  totals : ∀ total ∈ r.totals, total ≤ N

theorem Begun.nextTotal {Placed : List Location → A → Prop} {r : Reading Nat A}
    (h : Begun replies N Placed r) (hN : N.toNat < 2 ^ 32) :
    (nextTotal replies r).toNat = (given replies (r.modem + 1)).length := by
  have hle : r.entriesGotInTotal ≤ N := by
    rw [UInt64.le_iff_toNat_le, h.total]
    exact Nat.le_of_lt h.asked.1
  rw [LocApi.nextTotal, total_toNat hle hN (ReadFromBatchInd.length_locations_le _), given_succ,
    List.length_append, h.total]

theorem begun_first {Placed : List Location → A → Prop} (hpos : 0 < N.toNat) {array : A}
    (harray : Placed [] array) : Begun replies N Placed (Reading.first max N 0 array) :=
  ⟨asked_zero hpos, rfl, harray, nofun⟩

/-- **One pass**: it gets what is there, and has made the variant less if there is another. -/
theorem Begun.pass {Placed : List Location → A → Prop} {r : Reading Nat A}
    (h : Begun replies N Placed r) (hN : N.toNat < 2 ^ 32)
    (hkeep : ∀ got entries total array, total.toNat = got.length →
      (got ++ entries).length ≤ N.toNat → Placed got array →
      ∃ array', keep array total entries = .ok array' ∧ Placed (got ++ entries) array')
    (hnever : NeverMore replies N.toNat) :
    ∃ t again, readPass (inARow replies) keep N r = .ok (t, again) ∧
      (again = true → Begun replies N Placed t ∧
        N.toNat - t.entriesGotInTotal.toNat < N.toNat - r.entriesGotInTotal.toNat) ∧
      (again = false → Ended replies N Placed t) := by
  have hroom := hnever r.modem h.asked
  obtain ⟨array', hkept, hplaced⟩ :=
    hkeep _ _ _ _ h.total (given_succ replies r.modem ▸ hroom) h.placed
  rw [← given_succ] at hplaced
  have hnext := h.nextTotal hN
  have hle : LocApi.nextTotal replies r ≤ N := by
    rw [UInt64.le_iff_toNat_le, hnext]
    exact hroom
  have htotals : ∀ total ∈ LocApi.nextTotal replies r :: r.totals, total ≤ N :=
    List.forall_mem_cons.mpr ⟨hle, h.totals⟩
  refine ⟨_, _, readPass_of_kept hkept, fun hagain => ?_, fun _ => ?_⟩
  · rw [Bool.and_eq_true, decide_eq_true_iff, decide_eq_true_iff, leftToRead_pos_iff hle,
      hnext] at hagain
    obtain ⟨hsome, hleft, -⟩ := hagain
    refine ⟨⟨h.asked.succ (List.length_pos_iff.mp hsome) hleft, hnext, hplaced, htotals⟩, ?_⟩
    dsimp only
    rw [hnext, h.total]
    rw [given_succ, List.length_append] at hleft ⊢
    omega
  · exact ⟨⟨given replies (r.modem + 1), given_succ_eq_nil_iff h.asked, hroom, hnext, hplaced⟩,
      htotals⟩

/-- **The loop ends** if no answer has more than what is left, and has then kept what it got. -/
theorem reads_end {Placed : List Location → A → Prop} (hN : N.toNat < 2 ^ 32) (hpos : 0 < N.toNat)
    (hkeep : ∀ got entries total array, total.toNat = got.length →
      (got ++ entries).length ≤ N.toNat → Placed got array →
      ∃ array', keep array total entries = .ok array' ∧ Placed (got ++ entries) array')
    (hnever : NeverMore replies N.toNat) {array : A} (harray : Placed [] array) :
    ∃ fuel r, DoWhile.loop (readPass (inARow replies) keep N) fuel
      (Reading.first max N 0 array) = some (.ok r) ∧ Ended replies N Placed r :=
  DoWhile.exists_loop (fun r => N.toNat - r.entriesGotInTotal.toNat)
    (fun _ h => Begun.pass h hN hkeep hnever) (begun_first hpos harray)

/-- What every run that ends has come to, if no answer has more than what is left. -/
theorem ended_of_loop {Placed : List Location → A → Prop} (hN : N.toNat < 2 ^ 32)
    (hpos : 0 < N.toNat)
    (hkeep : ∀ got entries total array, total.toNat = got.length →
      (got ++ entries).length ≤ N.toNat → Placed got array →
      ∃ array', keep array total entries = .ok array' ∧ Placed (got ++ entries) array')
    (hnever : NeverMore replies N.toNat) {array : A} (harray : Placed [] array) {fuel : Nat}
    {r : Reading Nat A} (hloop : DoWhile.loop (readPass (inARow replies) keep N) fuel
      (Reading.first max N 0 array) = some (.ok r)) : Ended replies N Placed r := by
  have hfirst : Begun replies N Placed (Reading.first max N 0 array) := begun_first hpos harray
  refine DoWhile.post_of_passes (fun r h => ?_) hfirst hloop
  obtain ⟨t, again, hpass, hnext, hlast⟩ := Begun.pass h hN hkeep hnever
  exact ⟨t, again, hpass, fun hagain => (hnext hagain).1, hlast⟩

/-- **An answer with more** than what is left makes a total wrap past what was asked for, in every
run that ends. -/
theorem total_lt_of_more {k : Nat} (hN : N.toNat < 2 ^ 32) (hasked : Asked replies N.toNat k)
    (hmore : N.toNat < (given replies (k + 1)).length) {array : A} {fuel : Nat}
    {r : Reading Nat A} (hloop : DoWhile.loop (readPass (inARow replies) keep N) fuel
      (Reading.first max N 0 array) = some (.ok r)) : ∃ total ∈ r.totals, N < total := by
  refine @DoWhile.post_of_loop _ _ _ (fun r =>
      (r.modem ≤ k ∧ r.entriesGotInTotal.toNat = (given replies r.modem).length) ∨
        ∃ total ∈ r.totals, N < total) (fun r => ∃ total ∈ r.totals, N < total) _ _ _
    (fun s t again hs hpass => ?_) (.inl ⟨Nat.zero_le k, rfl⟩) hloop
  obtain ⟨hmodem, htotal, htotals, hagain⟩ := readPass_cases hpass
  rcases hs with ⟨hle, hgot⟩ | ⟨total, hmem, hlt⟩
  · have hbefore := (given_mono replies hle).length_le
    have hsle : s.entriesGotInTotal ≤ N := by
      rw [UInt64.le_iff_toNat_le, hgot]
      exact Nat.le_trans hbefore (Nat.le_of_lt hasked.1)
    have hnext : (nextTotal replies s).toNat = (given replies (s.modem + 1)).length := by
      rw [nextTotal, total_toNat hsle hN (ReadFromBatchInd.length_locations_le _), given_succ,
        List.length_append, hgot]
    rcases Nat.lt_or_eq_of_le hle with hlt | heq
    · -- The read before was not the last one, for the next is made.
      have hpre := (given_mono replies hlt).length_le
      have hleft : (nextTotal replies s).toNat < N.toNat := by
        rw [hnext]
        exact Nat.lt_of_le_of_lt hpre hasked.1
      have hmax := ReadFromBatchInd.length_locations_le (replies s.modem)
      have hsome := List.length_pos_iff.mpr (hasked.2 s.modem hlt)
      refine ⟨fun _ => .inl ⟨hmodem ▸ hlt, by rw [htotal, hnext, hmodem]⟩, fun hfalse => ?_⟩
      have hgoes : 0 < leftToRead max N (nextTotal replies s) :=
        (leftToRead_pos_iff (UInt64.le_iff_toNat_le.mpr (Nat.le_of_lt hleft))).mpr
          ⟨hleft, Nat.lt_of_lt_of_le hsome hmax⟩
      rw [hagain, decide_eq_true hsome, decide_eq_true hgoes] at hfalse
      cases hfalse
    · have hwrap : ∃ total ∈ t.totals, N < total := by
        refine ⟨nextTotal replies s, htotals ▸ List.mem_cons_self, ?_⟩
        rw [UInt64.lt_iff_toNat_lt, hnext, heq]
        exact hmore
      exact ⟨fun _ => .inr hwrap, fun _ => hwrap⟩
  · have hkeeps : ∃ total ∈ t.totals, N < total :=
      ⟨total, htotals ▸ List.mem_cons_of_mem _ hmem, hlt⟩
    exact ⟨fun _ => .inr hkeeps, fun _ => hkeeps⟩

/-! ## What is stored -/

theorem stored_set_le (array : LocationArray) (i : Nat) (entry : Option Location) :
    LocationArray.stored (array.set i entry) ≤ array.stored + 1 := by
  rw [LocationArray.stored, LocationArray.stored]
  by_cases hi : i < array.length
  · have hone : (if entry.isSome then 1 else 0) ≤ 1 := by split <;> decide
    rw [List.countP_set hi]
    omega
  · rw [List.set_eq_of_length_le (Nat.not_lt.mp hi)]
    exact Nat.le_succ _

/-- An array that is filled from the end, its indices all being positive as an `int`. -/
theorem placedFromEnd_eq {N : Nat} {got : List Location} (hN : N < 2 ^ 31) (hgot : got.length ≤ N) :
    placedFromEnd N got =
      List.replicate (N + 1 - got.length) none ++ got.reverse.map some := by
  apply List.ext_getElem
  · simp
    omega
  · intro i hi hi'
    rw [length_placedFromEnd] at hi
    rw [getElem_placedFromEnd, if_pos (by omega), List.getElem_append]
    split
    · rename_i hbelow
      rw [List.length_replicate] at hbelow
      rw [List.getElem_replicate, List.getElem?_eq_none (by omega)]
    · rename_i habove
      rw [List.length_replicate] at habove
      rw [List.getElem_map, List.getElem_reverse, List.getElem?_eq_getElem (by omega)]
      congr 2
      rw [List.length_replicate]
      omega

/-- Where the first index is negative as an `int`, the newest fix is not stored. -/
theorem stored_placedFromEnd_lt {N : Nat} (hN : ¬ N < 2 ^ 31) (newest : Location)
    (got : List Location) (hgot : (newest :: got).length ≤ N) :
    (placedFromEnd N (newest :: got)).stored ≤ got.length := by
  induction got using List.reverseRecOn with
  | nil =>
    have hdropped : placedFromEnd N [newest] = placedFromEnd N [] :=
      @placedFromEnd_concat N [] newest (Nat.zero_le N) hN
    rw [hdropped, placedFromEnd_nil, LocationArray.stored, List.countP_replicate]
    simp
  | append_singleton got entry ih =>
    simp only [List.length_cons, List.length_append, List.length_nil] at hgot
    have hbefore := ih (by simp only [List.length_cons]; omega)
    rw [← List.cons_append, List.length_append, List.length_singleton]
    by_cases hindex : N - (newest :: got).length < 2 ^ 31
    · rw [← set_placedFromEnd entry (by simp only [List.length_cons]; omega) hindex]
      exact Nat.le_trans (stored_set_le _ _ _) (Nat.succ_le_succ hbefore)
    · rw [placedFromEnd_concat entry (by simp only [List.length_cons]; omega) hindex]
      exact Nat.le_succ_of_le hbefore

/-- **As many entries are stored as were got** if no index is negative as an `int`, or none is. -/
theorem length_le_stored_iff {N : Nat} {got : List Location} (hgot : got.length ≤ N) :
    got.length ≤ (placedFromEnd N got).stored ↔ N < 2 ^ 31 ∨ got = [] := by
  constructor
  · intro hstored
    by_contra hnot
    rw [not_or] at hnot
    obtain ⟨newest, rest, rfl⟩ := List.exists_cons_of_ne_nil hnot.2
    have hlt := stored_placedFromEnd_lt hnot.1 newest rest hgot
    rw [List.length_cons] at hstored
    omega
  · rintro (hN | rfl)
    · rw [placedFromEnd_eq hN hgot, LocationArray.stored, List.countP_append, List.countP_map]
      simp [Function.comp_def]
    · exact Nat.zero_le _

theorem stored_placedFromStart (N : Nat) (got : List Location) :
    got.length ≤ (placedFromStart N got).stored := by
  rw [placedFromStart, LocationArray.stored, List.countP_append, List.countP_map]
  simp [Function.comp_def]

/-! ## The bounds -/

/-- No total is past what was asked for, and no more is reported than was stored. -/
def BatchRead.InBounds {σ : Type} (N : UInt64) (read : BatchRead σ) : Prop :=
  (∀ total ∈ read.totals, total ≤ N) ∧ read.report.count.toNat ≤ read.report.array.stored

/-- What is to be read of a batch. -/
theorem entriesToRead_lt (size : UInt32) (count : UInt64) :
    (min size.toUInt64 count).toNat < 2 ^ 32 := by
  have hsize := size.toNat_lt
  rw [min_toNat, UInt32.toNat_toUInt64]
  omega

theorem pos_of_ne_zero {N : UInt64} (h : N ≠ 0) : 0 < N.toNat :=
  Nat.pos_of_ne_zero fun hzero => h (UInt64.toNat_inj.mp hzero)

theorem keepFromEnd_keeps {N : UInt64} (hN : N.toNat < 2 ^ 32) (got entries : List Location)
    (total : UInt64) (array : LocationArray) (htotal : total.toNat = got.length)
    (hroom : (got ++ entries).length ≤ N.toNat) (harray : array = placedFromEnd N.toNat got) :
    ∃ array', keepFromEnd N array total entries = .ok array' ∧
      array' = placedFromEnd N.toNat (got ++ entries) :=
  ⟨_, harray ▸ keepFromEnd_placed hN htotal hroom, rfl⟩

theorem keepFromStart_keeps (N : UInt64) (got entries : List Location) (total : UInt64)
    (kept : LocationArray × UInt64) (_ : total.toNat = got.length)
    (hroom : (got ++ entries).length ≤ N.toNat)
    (hkept : kept.1 = placedFromStart N.toNat got ∧ kept.2.toNat = got.length) :
    ∃ kept', keepFromStart N kept total entries = .ok kept' ∧
      kept'.1 = placedFromStart N.toNat (got ++ entries) ∧
      kept'.2.toNat = (got ++ entries).length := by
  obtain ⟨array, idx⟩ := kept
  obtain ⟨rfl, hidx⟩ := hkept
  obtain ⟨idx', hidx', heq⟩ := keepFromStart_placed hidx hroom
  exact ⟨_, heq, rfl, hidx'⟩

/-- The array of a call, before the first pass. -/
theorem newArray_eq {N : UInt64} (hN : N.toNat < 2 ^ 32) :
    List.replicate (N + 1).toNat none = placedFromEnd N.toNat [] := by
  have hsize : (N + 1).toNat = N.toNat + 1 := by
    rw [UInt64.toNat_add, UInt64.toNat_one]
    omega
  rw [placedFromEnd_nil, hsize]

theorem reportFromEnd_of_le {N total : UInt64} (h : total ≤ N) (array : LocationArray) :
    (reportFromEnd N array total).array = array ∧ (reportFromEnd N array total).count = total := by
  rw [reportFromEnd]
  split
  · exact ⟨rfl, rfl⟩
  · rw [if_neg (UInt64.not_lt.mpr h)]
    exact ⟨rfl, rfl⟩

/-- A loop that got nothing more than it asked for, and the report of it. -/
theorem Ended.inBounds_iff {N : UInt64} {r : Reading Nat LocationArray}
    (h : Ended replies N (fun got array => array = placedFromEnd N.toNat got) r) :
    BatchRead.InBounds N ⟨r.modem, r.totals, reportFromEnd N r.array r.entriesGotInTotal⟩ ↔
      N.toNat < 2 ^ 31 ∨ (replies 0).locations = [] := by
  obtain ⟨⟨got, hnil, hgot, htotal, harray⟩, htotals⟩ := h
  have hle : r.entriesGotInTotal ≤ N := by
    rw [UInt64.le_iff_toNat_le, htotal]
    exact hgot
  obtain ⟨hreport, hcount⟩ := reportFromEnd_of_le hle r.array
  rw [BatchRead.InBounds, hreport, hcount, htotal, harray, length_le_stored_iff hgot, hnil]
  exact and_iff_right htotals

theorem map_loop_eq_ok {B C : Type} {f : B → C} {run : Option (Except Fault B)} {c : C}
    (h : run.map (Except.map f) = some (.ok c)) : ∃ b, run = some (.ok b) ∧ f b = c := by
  match run, h with
  | some (.ok b), h =>
    cases h
    exact ⟨b, rfl, rfl⟩

theorem map_loop_ne_error {B C : Type} {f : B → C} {run : Option (Except Fault B)} {e : Fault}
    (h : run ≠ some (.error e)) : run.map (Except.map f) ≠ some (.error e) := by
  match run, h with
  | none, _ => exact nofun
  | some (.ok b), _ => exact nofun
  | some (.error e'), h =>
    intro heq
    cases heq
    exact h rfl

variable (size : UInt32) (count : UInt64) (replies)

theorem neverMore_zero : NeverMore replies 0 :=
  fun _ hasked => absurd hasked.1 (Nat.not_lt_zero _)

/-- A run of the loop that is within its bounds gets no answer with more than what is left. -/
theorem neverMore_of_totals {array : A} (hN : N.toNat < 2 ^ 32) {fuel : Nat} {r : Reading Nat A}
    (hloop : DoWhile.loop (readPass (inARow replies) keep N) fuel (Reading.first max N 0 array) =
      some (.ok r)) (htotals : ∀ total ∈ r.totals, total ≤ N) : NeverMore replies N.toNat := by
  intro k hasked
  by_contra hmore
  obtain ⟨total, hmem, hlt⟩ := total_lt_of_more hN hasked (Nat.not_le.mp hmore) hloop
  exact absurd (htotals total hmem) (UInt64.not_le.mpr hlt)

/-- **A batch**: a call ends within its bounds exactly if no answer has more than what is left,
and the first index is not negative as an `int`, or not used. -/
theorem getBatchedLocationsSync_inBounds_iff :
    (∃ fuel read, getBatchedLocationsSync (inARow replies) fuel 0 size count = some (.ok read) ∧
      read.InBounds (min size.toUInt64 count)) ↔
      NeverMore replies (min size.toUInt64 count).toNat ∧
        ((min size.toUInt64 count).toNat < 2 ^ 31 ∨ (replies 0).locations = []) := by
  have hN := entriesToRead_lt size count
  simp only [getBatchedLocationsSync]
  by_cases hzero : min size.toUInt64 count = 0
  · simp only [hzero, if_true]
    exact ⟨fun _ => ⟨neverMore_zero replies, .inl (by decide)⟩,
      fun _ => ⟨0, _, rfl, nofun, Nat.le_refl 0⟩⟩
  · have hpos := pos_of_ne_zero hzero
    simp only [if_neg hzero, newArray_eq hN]
    constructor
    · rintro ⟨fuel, read, hrun, hbounds⟩
      obtain ⟨r, hloop, rfl⟩ := map_loop_eq_ok hrun
      have hnever := neverMore_of_totals replies hN hloop hbounds.1
      exact ⟨hnever, (ended_of_loop hN hpos (keepFromEnd_keeps hN) hnever rfl
        hloop).inBounds_iff.mp hbounds⟩
    · rintro ⟨hnever, hfirst⟩
      obtain ⟨fuel, r, hloop, hended⟩ :=
        reads_end hN hpos (keepFromEnd_keeps hN) hnever rfl
      exact ⟨fuel, _, by rw [hloop]; rfl, hended.inBounds_iff.mpr hfirst⟩

/-- **A batch of a trip**: exactly if no answer has more than what is left. -/
theorem getBatchedTripLocationsSync_inBounds_iff (accumulatedDistance : UInt32) :
    (∃ fuel read, getBatchedTripLocationsSync (inARow replies) fuel 0 size count
        accumulatedDistance = some (.ok read) ∧ read.1.InBounds (min size.toUInt64 count)) ↔
      NeverMore replies (min size.toUInt64 count).toNat := by
  have hN := entriesToRead_lt size count
  simp only [getBatchedTripLocationsSync]
  by_cases hzero : min size.toUInt64 count = 0
  · simp only [hzero, if_true]
    exact ⟨fun _ => neverMore_zero replies, fun _ => ⟨0, _, rfl, nofun, Nat.le_refl 0⟩⟩
  · have hpos := pos_of_ne_zero hzero
    simp only [if_neg hzero]
    constructor
    · rintro ⟨fuel, read, hrun, hbounds⟩
      obtain ⟨r, hloop, rfl⟩ := map_loop_eq_ok hrun
      exact neverMore_of_totals replies hN hloop hbounds.1
    · intro hnever
      have hfirst : (fun got (kept : LocationArray × UInt64) =>
          kept.1 = placedFromStart (min size.toUInt64 count).toNat got ∧
            kept.2.toNat = got.length) []
          (List.replicate (min size.toUInt64 count).toNat none, 0) := ⟨rfl, rfl⟩
      obtain ⟨fuel, r, hloop, hended⟩ := reads_end hN hpos
        (keepFromStart_keeps (min size.toUInt64 count)) hnever hfirst
      refine ⟨fuel, _, by rw [hloop]; rfl, hended.totals, ?_⟩
      obtain ⟨got, -, -, htotal, harray, -⟩ := hended.kept
      dsimp only
      rw [htotal, harray]
      exact stored_placedFromStart _ got

/-- No call stores outside of its array, whatever the modem answers. -/
theorem batch_stores_in_bounds (accumulatedDistance : UInt32) (fuel : Nat) (e : Fault) :
    getBatchedLocationsSync (inARow replies) fuel 0 size count ≠ some (.error e) ∧
      getBatchedTripLocationsSync (inARow replies) fuel 0 size count accumulatedDistance ≠
        some (.error e) := by
  have hN := entriesToRead_lt size count
  simp only [getBatchedLocationsSync, getBatchedTripLocationsSync]
  by_cases hzero : min size.toUInt64 count = 0
  · simp only [hzero, if_true]
    exact ⟨nofun, nofun⟩
  · simp only [if_neg hzero]
    constructor
    · refine map_loop_ne_error (reads_ne_outOfBounds
        (fun array total entries => keepFromEnd_ok total entries) ?_ e)
      rw [newArray_eq hN, length_placedFromEnd]
    · have hsized : (fun kept : LocationArray × UInt64 =>
          kept.1.length = (min size.toUInt64 count).toNat)
          (List.replicate (min size.toUInt64 count).toNat none, 0) := List.length_replicate
      exact map_loop_ne_error (reads_ne_outOfBounds
        (fun kept total entries => keepFromStart_ok total entries) hsized e)

/-- **The bounds of a batch**: nothing is stored outside of an array; a call ends, with no total
past what was asked for and with a report of no more than what was stored, exactly if no answer has
more than what is left, and, for a batch that is not of a trip, the first index is not negative as
an `int`, or not used. -/
theorem batch_reads_in_bounds_iff (accumulatedDistance : UInt32) :
    (∀ fuel e, getBatchedLocationsSync (inARow replies) fuel 0 size count ≠ some (.error e) ∧
      getBatchedTripLocationsSync (inARow replies) fuel 0 size count accumulatedDistance ≠
        some (.error e)) ∧
    ((∃ fuel read, getBatchedLocationsSync (inARow replies) fuel 0 size count = some (.ok read) ∧
        read.InBounds (min size.toUInt64 count)) ↔
      NeverMore replies (min size.toUInt64 count).toNat ∧
        ((min size.toUInt64 count).toNat < 2 ^ 31 ∨ (replies 0).locations = [])) ∧
    ((∃ fuel read, getBatchedTripLocationsSync (inARow replies) fuel 0 size count
        accumulatedDistance = some (.ok read) ∧ read.1.InBounds (min size.toUInt64 count)) ↔
      NeverMore replies (min size.toUInt64 count).toNat) :=
  ⟨batch_stores_in_bounds replies size count accumulatedDistance,
    getBatchedLocationsSync_inBounds_iff replies size count,
    getBatchedTripLocationsSync_inBounds_iff replies size count accumulatedDistance⟩

/-- A fix of which nothing is told. -/
def untoldFix : BatchedReport := ⟨0, 0, 0, 0, 0, 0, 0, 0, 0, 0, 0, 0⟩

/-- An answer with two entries, and then answers with none. -/
def twoEntries (k : Nat) : ReadFromBatchInd readFromBatchMaxSize where
  rv := true
  numberOfEntries_valid := 1
  numberOfEntries := if k = 0 then 2 else 0
  batchedReportList_valid := 1
  batchedReportList := fun _ => untoldFix
  entries_le := by
    split <;> decide

/-- Where one entry is to be read and two are answered, what is left wraps, so that there is
another read; of a trip, two entries are reported out of an array of one. -/
theorem two_entries_for_one :
    (∃ read, getBatchedLocationsSync (inARow twoEntries) 2 0 1 1 = some (.ok read) ∧
      read.totals = [2, 2]) ∧
    ∃ read, getBatchedTripLocationsSync (inARow twoEntries) 2 0 1 1 0 = some (.ok read) ∧
      read.1.totals = [2, 2] ∧ read.1.report.count = 2 ∧ read.1.report.array.stored = 1 :=
  ⟨⟨_, rfl, rfl⟩, ⟨_, rfl, rfl, rfl, rfl⟩⟩

end LocationStack.LocApi
