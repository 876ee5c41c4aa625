import LocationStack.LocApi.BatchBounds

/-! # The order of a batch

A modem that does what it is asked for gives the newest fixes that it has, the newest one first,
and not more than it was asked for; it does not have them afterwards.  It may record a fix between
two reads.  `getBatchedLocationsSync` fills its array from the end, so that the locations are
reported in the other order than they were given.

A fix that is recorded between two reads is newer than all those that were given before it, and is
reported before them.  The code looks for a location that is out of order only if it has got more
than it has asked for, and this modem never gives more.
-/
namespace LocationStack.LocApi

/-! ## The modem -/

/-- The time of a fix, zero if it is not told. -/
def BatchedReport.time (r : BatchedReport) : UInt64 := r.location.timestamp

/-- What the modem has, with how many reads there were and what they were given. -/
structure FixStore where
  reads : Nat
  stored : List BatchedReport
  returned : List BatchedReport

/-- A modem with its fixes, the newest first; how many it gives at most for each read, and a fix
that it records before one of them. -/
structure StoringModem where
  fixes : List BatchedReport
  gives : Nat → Nat
  newFix : Option (Nat × BatchedReport)
  sorted : fixes.Pairwise fun newer older => older.time ≤ newer.time
  newest : ∀ k fix, newFix = some (k, fix) → ∀ older ∈ fixes, older.time ≤ fix.time

namespace StoringModem

variable (m : StoringModem)

/-- Before the first read. -/
def start : FixStore := ⟨0, m.fixes, []⟩

/-- What there is to read. -/
def present (s : FixStore) : List BatchedReport :=
  match m.newFix with
  | some (k, fix) => if s.reads = k then fix :: s.stored else s.stored
  | none => s.stored

/-- What is given for a read, where `max` entries have room in an answer. -/
def given (max : UInt32) (s : FixStore) (requested : UInt32) : List BatchedReport :=
  (m.present s).take (min (m.gives s.reads) (min requested.toNat max.toNat))

theorem length_given_le (max : UInt32) (s : FixStore) (requested : UInt32) :
    (m.given max s requested).length ≤ min requested.toNat max.toNat := by
  rw [given, List.length_take]
  omega

theorem length_given_toNat (max : UInt32) (s : FixStore) (requested : UInt32) :
    (UInt32.ofNat (m.given max s requested).length).toNat =
      (m.given max s requested).length := by
  have hmax := max.toNat_lt
  have hsize : UInt32.size = 2 ^ 32 := rfl
  have hle := m.length_given_le max s requested
  exact UInt32.toNat_ofNat_of_lt' (by omega)

/-- The answer for a read. -/
def read (max : UInt32) : BatchModem max FixStore := fun s requested =>
  (⟨true, 1, UInt32.ofNat (m.given max s requested).length, 1,
      fun i => (m.given max s requested).getD i untoldFix, by
        have hle := m.length_given_le max s requested
        rw [UInt32.le_iff_toNat_le, length_given_toNat]
        omega⟩,
    ⟨s.reads + 1, (m.present s).drop (m.given max s requested).length,
      s.returned ++ m.given max s requested⟩)

/-- The locations are those of what is given. -/
theorem locations_read (max : UInt32) (s : FixStore) (requested : UInt32) :
    (m.read max s requested).1.locations =
      (m.given max s requested).map BatchedReport.location := by
  have hlength := m.length_given_toNat max s requested
  simp only [read, ReadFromBatchInd.locations, hlength]
  apply List.ext_getElem
  · simp
  · intro i hi hi'
    rw [List.length_map] at hi'
    simp [List.getD_eq_getElem?_getD, List.getElem?_eq_getElem hi']

/-! ## When the fix that is recorded is given -/

variable (max : UInt32) (N : Nat)

/-- How many fixes so many reads give, if no other fix is there by then and each read asks for what
is left of `N`. -/
def before : Nat → Nat
  | 0 => 0
  | k + 1 => before k +
      min (m.gives k) (min (min (N - before k) max.toNat) (m.fixes.length - before k))

/-- The fix that is recorded before the `k`-th read is given by it. -/
def Gives (k : Nat) : Prop :=
  (∀ i < k, m.before max N i < m.before max N (i + 1)) ∧ m.before max N k < N ∧
    0 < m.gives k ∧ 0 < max.toNat

/-- **A fix is overtaken**: the fix that is recorded is given by a read, and a fix that is older
was given by an earlier read. -/
def Overtakes : Prop :=
  ∃ k fix, m.newFix = some (k, fix) ∧ m.Gives max N k ∧
    ∃ older ∈ m.fixes.take (m.before max N k), older.time < fix.time

/-- How many fixes the first read gives. -/
def firstGives : Nat := min (m.gives 0) (min (min N max.toNat) (m.present m.start).length)

theorem before_mono {j k : Nat} (h : j ≤ k) : m.before max N j ≤ m.before max N k := by
  induction k with
  | zero =>
    obtain rfl := Nat.le_zero.mp h
    exact Nat.le_refl _
  | succ k ih =>
    rcases Nat.lt_or_eq_of_le h with hlt | rfl
    · exact Nat.le_trans (ih (Nat.le_of_lt_succ hlt)) (Nat.le_add_right _ _)
    · exact Nat.le_refl _

/-! ## What is given -/

/-- What the modem has given and what it has left, after reads that all gave something. -/
inductive Reads (s : FixStore) : Prop
  /-- It records no fix. -/
  | noFix (hnew : m.newFix = none) (hall : s.returned ++ s.stored = m.fixes)
  /-- It has not recorded its fix. -/
  | waiting (k : Nat) (fix : BatchedReport) (hnew : m.newFix = some (k, fix)) (hk : s.reads ≤ k)
      (hall : s.returned ++ s.stored = m.fixes)
      (hlength : s.returned.length = m.before max N s.reads)
      (hgave : ∀ i < s.reads, m.before max N i < m.before max N (i + 1))
  /-- It has given the fix. -/
  | gave (k : Nat) (fix : BatchedReport) (rest : List BatchedReport)
      (hnew : m.newFix = some (k, fix)) (hk : k < s.reads) (hgives : m.Gives max N k)
      (hreturned : s.returned = m.fixes.take (m.before max N k) ++ fix :: rest)
      (hall : rest ++ s.stored = m.fixes.drop (m.before max N k))

/-- What all the reads of a call have given. -/
inductive Returned (returned : List BatchedReport) : Prop
  | without (hbegins : returned <+: m.fixes)
      (hnot : ∀ k fix, m.newFix = some (k, fix) → ¬ m.Gives max N k)
  | withFix (k : Nat) (fix : BatchedReport) (rest : List BatchedReport)
      (hnew : m.newFix = some (k, fix)) (hgives : m.Gives max N k)
      (hreturned : returned = m.fixes.take (m.before max N k) ++ fix :: rest)
      (hbegins : rest <+: m.fixes.drop (m.before max N k))

variable {m max N} {s : FixStore} {requested : UInt32}

theorem present_of_ne {k : Nat} {fix : BatchedReport} (hnew : m.newFix = some (k, fix))
    (h : s.reads ≠ k) : m.present s = s.stored := by
  simp only [present, hnew, if_neg h]

theorem present_of_eq {k : Nat} {fix : BatchedReport} (hnew : m.newFix = some (k, fix))
    (h : s.reads = k) : m.present s = fix :: s.stored := by
  simp only [present, hnew, if_pos h]

/-- What is given and what is left is what there was. -/
theorem given_append_stored :
    m.given max s requested ++ (m.read max s requested).2.stored = m.present s :=
  List.prefix_iff_eq_append.mp (List.take_prefix _ _)

theorem returned_read : (m.read max s requested).2.returned =
    s.returned ++ m.given max s requested := rfl

/-- **One read that is made before the fix is recorded** gives what `before` says. -/
theorem before_succ_of_waiting {k : Nat} {fix : BatchedReport} (hnew : m.newFix = some (k, fix))
    (hk : s.reads < k) (hall : s.returned ++ s.stored = m.fixes)
    (hlength : s.returned.length = m.before max N s.reads)
    (hrequested : requested.toNat = min (N - s.returned.length) max.toNat) :
    (s.returned ++ m.given max s requested).length = m.before max N (s.reads + 1) := by
  have hstored : s.stored.length = m.fixes.length - s.returned.length := by
    rw [← hall, List.length_append]
    omega
  rw [before, List.length_append, given, present_of_ne hnew (Nat.ne_of_lt hk), List.length_take,
    hrequested, hstored, hlength]
  omega

/-- The read before which the fix is recorded gives it first. -/
theorem given_of_gives {k : Nat} {fix : BatchedReport} (hnew : m.newFix = some (k, fix))
    (hk : s.reads = k) (hgives : m.Gives max N k) (hleft : s.returned.length < N)
    (hrequested : requested.toNat = min (N - s.returned.length) max.toNat) :
    ∃ rest, m.given max s requested = fix :: rest := by
  obtain ⟨-, -, hpos, hmax⟩ := hgives
  obtain ⟨n, hn⟩ : ∃ n, min (m.gives s.reads) (min requested.toNat max.toNat) = n + 1 :=
    Nat.exists_eq_add_one.mpr (by rw [hk, hrequested]; omega)
  exact ⟨s.stored.take n, by rw [given, present_of_eq hnew hk, hn, List.take_succ_cons]⟩

/-- **One read**: what is given and what is left, and what all the reads have given if it is the
last one, because it gave nothing or because nothing is left to ask for. -/
theorem Reads.read (h : m.Reads max N s) (hleft : s.returned.length < N)
    (hrequested : requested.toNat = min (N - s.returned.length) max.toNat) :
    (m.given max s requested ≠ [] → m.Reads max N (m.read max s requested).2) ∧
      (m.given max s requested = [] ∨ N ≤ (m.read max s requested).2.returned.length →
        m.Returned max N (m.read max s requested).2.returned) := by
  have hsplit : m.given max s requested ++ (m.read max s requested).2.stored = m.present s :=
    given_append_stored
  cases h with
  | noFix hnew hall =>
    have hpresent : m.present s = s.stored := by simp only [present, hnew]
    have hall' : s.returned ++ m.given max s requested ++
        (m.read max s requested).2.stored = m.fixes := by
      rw [List.append_assoc, hsplit, hpresent, hall]
    refine ⟨fun _ => .noFix hnew hall', fun _ => .without ⟨_, hall'⟩ fun k fix hsome => ?_⟩
    rw [hnew] at hsome
    cases hsome
  | waiting k fix hnew hk hall hlength hgave =>
    rcases Nat.lt_or_eq_of_le hk with hlt | heq
    · -- The fix is recorded later on.
      have hnext := before_succ_of_waiting hnew hlt hall hlength hrequested
      have hall' : s.returned ++ m.given max s requested ++
          (m.read max s requested).2.stored = m.fixes := by
        rw [List.append_assoc, hsplit, present_of_ne hnew (Nat.ne_of_lt hlt), hall]
      constructor
      · intro hsome
        have hpos := List.length_pos_iff.mpr hsome
        have hlength' : (m.read max s requested).2.returned.length =
            m.before max N (s.reads + 1) := hnext
        rw [List.length_append] at hnext
        refine .waiting k fix hnew hlt hall' hlength' fun i hi => ?_
        rcases Nat.lt_succ_iff_lt_or_eq.mp hi with hi | rfl
        · exact hgave i hi
        · omega
      · intro hlast
        refine .without ⟨_, hall'⟩ fun j new hj hgives => ?_
        rw [hnew] at hj
        cases hj
        have hmono : m.before max N (s.reads + 1) ≤ m.before max N k := m.before_mono max N hlt
        rcases hlast with hnil | hfull
        · have hstrict := hgives.1 s.reads hlt
          rw [hnil, List.append_nil] at hnext
          omega
        · rw [returned_read, hnext] at hfull
          have hbelow := hgives.2.1
          omega
    · -- The fix is recorded before this read.
      subst heq
      have htake : m.fixes.take (m.before max N s.reads) = s.returned := by
        rw [← hlength, ← hall, List.take_left]
      have hdrop : m.fixes.drop (m.before max N s.reads) = s.stored := by
        rw [← hlength, ← hall, List.drop_left]
      by_cases hgives : m.Gives max N s.reads
      · obtain ⟨rest, hrest⟩ := given_of_gives hnew rfl hgives hleft hrequested
        have hreturned : s.returned ++ m.given max s requested =
            m.fixes.take (m.before max N s.reads) ++ fix :: rest := by
          rw [htake, hrest]
        have hall' : rest ++ (m.read max s requested).2.stored =
            m.fixes.drop (m.before max N s.reads) := by
          rw [hrest, present_of_eq hnew rfl, List.cons_append] at hsplit
          rw [hdrop]
          exact (List.cons.inj hsplit).2
        exact ⟨fun _ => .gave _ fix rest hnew (Nat.lt_succ_self _) hgives hreturned hall',
          fun _ => .withFix _ fix rest hnew hgives hreturned ⟨_, hall'⟩⟩
      · have hnil : m.given max s requested = [] := by
          have hzero : m.gives s.reads = 0 ∨ max.toNat = 0 := by
            by_contra hpos
            exact hgives ⟨hgave, hlength ▸ hleft, by omega, by omega⟩
          rw [given, hrequested, List.take_eq_nil_iff]
          omega
        refine ⟨fun hsome => absurd hnil hsome, fun _ => .without ⟨s.stored, ?_⟩ fun j new hj => ?_⟩
        · rw [returned_read, hnil, List.append_nil, hall]
        · rw [hnew] at hj
          cases hj
          exact hgives
  | gave k fix rest hnew hk hgives hreturned hall =>
    have hall' : rest ++ m.given max s requested ++ (m.read max s requested).2.stored =
        m.fixes.drop (m.before max N k) := by
      rw [List.append_assoc, hsplit, present_of_ne hnew (Nat.ne_of_gt hk), hall]
    have hreturned' : s.returned ++ m.given max s requested =
        m.fixes.take (m.before max N k) ++ fix :: (rest ++ m.given max s requested) := by
      rw [hreturned, List.append_assoc, List.cons_append]
    exact ⟨fun _ => .gave k fix _ hnew (Nat.lt_succ_of_lt hk) hgives hreturned' hall',
      fun _ => .withFix k fix _ hnew hgives hreturned' ⟨_, hall'⟩⟩

/-! ## The loop -/

/-- What a pass begins with. -/
structure Begun (m : StoringModem) (max : UInt32) (N : UInt64)
    (r : Reading FixStore LocationArray) : Prop where
  reads : m.Reads max N.toNat r.modem
  left : r.modem.returned.length < N.toNat
  total : r.entriesGotInTotal.toNat = r.modem.returned.length
  asks : r.entriesToRead = leftToRead max N r.entriesGotInTotal
  placed : r.array = placedFromEnd N.toNat (r.modem.returned.map BatchedReport.location)
  first : r.modem = m.start ∨ r.modem.returned ≠ [] ∧ m.firstGives max N.toNat ≠ 0

/-- What the loop comes to. -/
structure Ended (m : StoringModem) (max : UInt32) (N : UInt64)
    (r : Reading FixStore LocationArray) : Prop where
  returned : m.Returned max N.toNat r.modem.returned
  le : r.modem.returned.length ≤ N.toNat
  total : r.entriesGotInTotal.toNat = r.modem.returned.length
  placed : r.array = placedFromEnd N.toNat (r.modem.returned.map BatchedReport.location)
  first : r.modem.returned = [] ↔ m.firstGives max N.toNat = 0

theorem reads_start : m.Reads max N m.start := by
  cases hnew : m.newFix with
  | none => exact .noFix hnew rfl
  | some recorded =>
    exact .waiting recorded.1 recorded.2 hnew (Nat.zero_le _) rfl rfl
      fun i hi => absurd hi (Nat.not_lt_zero i)

/-- What the loop asks for is what is left, as far as there is room for it. -/
theorem requested_toNat {N total : UInt64} (h : total ≤ N) :
    (if leftToRead max N total ≠ 0 then (leftToRead max N total).toUInt32 else 0).toNat =
      min (N.toNat - total.toNat) max.toNat := by
  have hmax := max.toNat_lt
  have hleft : (leftToRead max N total).toNat = min (N.toNat - total.toNat) max.toNat := by
    rw [leftToRead, min_toNat, UInt64.toNat_sub_of_le _ _ h, UInt32.toNat_toUInt64]
  split
  · rw [UInt64.toNat_toUInt32, hleft]
    omega
  · rename_i hzero
    rw [not_not] at hzero
    rw [← hleft, hzero]
    rfl

theorem length_given_start
    (hrequested : requested.toNat = min (N - m.start.returned.length) max.toNat) :
    (m.given max m.start requested).length = m.firstGives max N := by
  have hnone : m.start.returned.length = 0 := rfl
  rw [hnone, Nat.sub_zero] at hrequested
  rw [given, firstGives, List.length_take, hrequested]
  have hreads : m.start.reads = 0 := rfl
  rw [hreads]
  omega

variable {N : UInt64} {r : Reading FixStore LocationArray}

/-- **One pass** of the loop with this modem. -/
theorem Begun.pass (h : m.Begun max N r) (hN : N.toNat < 2 ^ 32) :
    ∃ t again, readPass (m.read max) (keepFromEnd N) N r = .ok (t, again) ∧
      (again = true → m.Begun max N t ∧
        N.toNat - t.entriesGotInTotal.toNat < N.toNat - r.entriesGotInTotal.toNat) ∧
      (again = false → m.Ended max N t) := by
  have hle : r.entriesGotInTotal ≤ N := by
    rw [UInt64.le_iff_toNat_le, h.total]
    exact Nat.le_of_lt h.left
  obtain ⟨requested, hrequest⟩ : ∃ requested, requested =
      if r.entriesToRead ≠ 0 then r.entriesToRead.toUInt32 else 0 := ⟨_, rfl⟩
  have hrequested : requested.toNat =
      min (N.toNat - r.modem.returned.length) max.toNat := by
    rw [hrequest, h.asks, requested_toNat hle, h.total]
  have hread : readModemLocations (m.read max) r.modem r.entriesToRead =
      ((m.given max r.modem requested).map BatchedReport.location,
        (m.read max r.modem requested).2) := by
    rw [← locations_read, hrequest]
    rfl
  have hgiven := m.length_given_le max r.modem requested
  have hleft := h.left
  have hlength : (r.modem.returned ++ m.given max r.modem requested).length ≤ N.toNat := by
    rw [List.length_append]
    omega
  have hkept : keepFromEnd N r.array r.entriesGotInTotal
      ((m.given max r.modem requested).map BatchedReport.location) =
      .ok (placedFromEnd N.toNat
        ((r.modem.returned ++ m.given max r.modem requested).map BatchedReport.location)) := by
    rw [h.placed, List.map_append]
    refine keepFromEnd_placed hN (by rw [List.length_map, h.total]) ?_
    rw [← List.map_append, List.length_map]
    exact hlength
  have hroom : ((m.given max r.modem requested).map BatchedReport.location).length ≤
      max.toNat := by
    rw [List.length_map]
    omega
  have htotal : (r.entriesGotInTotal + UInt64.ofNat
      ((m.given max r.modem requested).map BatchedReport.location).length).toNat =
      (r.modem.returned ++ m.given max r.modem requested).length := by
    rw [total_toNat hle hN hroom, List.length_map, List.length_append, h.total]
  have hnext : r.entriesGotInTotal + UInt64.ofNat
      ((m.given max r.modem requested).map BatchedReport.location).length ≤ N := by
    rw [UInt64.le_iff_toNat_le, htotal]
    exact hlength
  obtain ⟨hreads, hreturned⟩ := h.reads.read h.left hrequested
  -- The first read decides whether anything is given.
  have hfirst : r.modem.returned ++ m.given max r.modem requested = [] ↔
      m.firstGives max N.toNat = 0 := by
    rcases h.first with hstart | ⟨hne, hpos⟩
    · rw [hstart] at hrequested ⊢
      rw [← length_given_start hrequested, List.length_eq_zero_iff]
      rfl
    · exact ⟨fun hnil => absurd (List.append_eq_nil_iff.mp hnil).1 hne, fun hzero =>
        absurd hzero hpos⟩
  refine ⟨_, _, readPass_of_keep (m.read max) hread hkept, fun hagain => ?_, fun hlast => ?_⟩
  · rw [Bool.and_eq_true, decide_eq_true_iff, decide_eq_true_iff, leftToRead_pos_iff hnext,
      htotal, List.length_map] at hagain
    obtain ⟨hsome, hless, -⟩ := hagain
    have hne : r.modem.returned ++ m.given max r.modem requested ≠ [] := fun hnil =>
      absurd (List.append_eq_nil_iff.mp hnil).2 (List.length_pos_iff.mp hsome)
    refine ⟨⟨hreads (List.length_pos_iff.mp hsome), hless, htotal, rfl, rfl,
      .inr ⟨hne, fun hzero => hne (hfirst.mpr hzero)⟩⟩, ?_⟩
    dsimp only
    rw [htotal, h.total]
    rw [List.length_append] at hless ⊢
    omega
  · refine ⟨hreturned ?_, hlength, htotal, rfl, hfirst⟩
    rw [Bool.and_eq_false_iff, decide_eq_false_iff_not, decide_eq_false_iff_not,
      leftToRead_pos_iff hnext, htotal, List.length_map, Nat.not_lt,
      Nat.le_zero, List.length_eq_zero_iff] at hlast
    rcases hlast with hnil | hfull
    · exact .inl hnil
    · by_cases hnil : m.given max r.modem requested = []
      · exact .inl hnil
      · have hpos := List.length_pos_iff.mpr hnil
        refine .inr (Nat.not_lt.mp fun hless => hfull ⟨hless, ?_⟩)
        omega

/-! ## The order of what is given -/

/-- **What is given is newest first** unless a fix is overtaken. -/
theorem Returned.sorted_iff {N : Nat} {returned : List BatchedReport}
    (h : m.Returned max N returned) :
    (returned.Pairwise fun newer older => older.time ≤ newer.time) ↔ ¬ m.Overtakes max N := by
  cases h with
  | without hbegins hnot =>
    refine ⟨fun _ hover => ?_, fun _ => m.sorted.sublist hbegins.sublist⟩
    obtain ⟨k, fix, hnew, hgives, -⟩ := hover
    exact hnot k fix hnew hgives
  | withFix k fix rest hnew hgives hreturned hbegins =>
    have hnewest := m.newest k fix hnew
    have hrest : ∀ older ∈ rest, older ∈ m.fixes := fun older hmem =>
      List.mem_of_mem_drop (hbegins.subset hmem)
    have htake := m.sorted.sublist (List.take_sublist (m.before max N k) m.fixes)
    constructor
    · rintro hsorted ⟨k', fix', hnew', -, older, holder, hlt⟩
      rw [hnew] at hnew'
      cases hnew'
      rw [hreturned, List.pairwise_append] at hsorted
      exact absurd (hsorted.2.2 older holder fix List.mem_cons_self) (UInt64.not_le.mpr hlt)
    · intro hnot
      have hkept : ∀ older ∈ m.fixes.take (m.before max N k), fix.time ≤ older.time :=
        fun older holder => UInt64.not_lt.mp fun hlt =>
          hnot ⟨k, fix, hnew, hgives, older, holder, hlt⟩
      rw [hreturned, List.pairwise_append, List.pairwise_cons]
      refine ⟨htake, ⟨fun older hmem => hnewest older (hrest older hmem), ?_⟩, ?_⟩
      · exact m.sorted.sublist (hbegins.sublist.trans (List.drop_sublist _ _))
      · intro older holder newer hnewer
        rcases List.mem_cons.mp hnewer with rfl | hmem
        · exact hkept older holder
        · exact UInt64.le_trans (hnewest newer (hrest newer hmem)) (hkept older holder)

end StoringModem

/-! ## The report -/

/-- The entries of a report that are those of the loop, if there are any. -/
theorem entries_reportFromEnd {N total : UInt64} (hN : N.toNat < 2 ^ 32) (h : total ≤ N)
    (hpos : 0 < total.toNat) (array : LocationArray) :
    (reportFromEnd N array total).entries =
      (array.drop (N.toNat + 1 - total.toNat)).take total.toNat := by
  have hle := UInt64.le_iff_toNat_le.mp h
  rw [reportFromEnd]
  by_cases hlt : total < N
  · have hsum : (1 + N).toNat = N.toNat + 1 := by
      rw [UInt64.toNat_add, UInt64.toNat_one]
      omega
    have hoffset : (1 + N - total).toUInt32.toNat = N.toNat + 1 - total.toNat := by
      rw [UInt64.toNat_toUInt32, UInt64.toNat_sub_of_le, hsum]
      · omega
      · rw [UInt64.le_iff_toNat_le, hsum]
        omega
    rw [if_pos hlt, BatchReport.entries, hoffset]
  · have heq : total.toNat = N.toNat := by
      rw [UInt64.lt_iff_toNat_lt] at hlt
      omega
    rw [if_neg hlt, if_neg (UInt64.not_lt.mpr h), BatchReport.entries, heq]
    have hone : N.toNat + 1 - N.toNat = 1 := by omega
    rw [hone]
    rfl

/-- The locations from the end of the array, if no index was negative as an `int`. -/
theorem entries_placedFromEnd {N total : UInt64} {got : List Location} (hN : N.toNat < 2 ^ 31)
    (htotal : total.toNat = got.length) (hgot : got.length ≤ N.toNat) :
    (reportFromEnd N (placedFromEnd N.toNat got) total).entries = got.reverse.map some := by
  have hle : total ≤ N := by
    rw [UInt64.le_iff_toNat_le, htotal]
    exact hgot
  cases got with
  | nil =>
    rw [BatchReport.entries, (reportFromEnd_of_le hle _).2, htotal]
    rfl
  | cons newest rest =>
    rw [entries_reportFromEnd (by omega) hle (by rw [htotal]; exact Nat.succ_pos _), htotal,
      placedFromEnd_eq hN hgot, List.drop_left' List.length_replicate]
    exact List.take_of_length_le (by simp)

/-- The entry at the end of the array is cleared if its index is negative as an `int`. -/
theorem entries_ne_map_some {N total : UInt64} {got : List Location} (hN : N.toNat < 2 ^ 32)
    (hint : ¬ N.toNat < 2 ^ 31) (htotal : total.toNat = got.length) (hgot : got.length ≤ N.toNat)
    (hne : got ≠ []) (locations : List Location) :
    (reportFromEnd N (placedFromEnd N.toNat got) total).entries ≠ locations.map some := by
  intro heq
  have hpos := List.length_pos_iff.mpr hne
  have hle : total ≤ N := by
    rw [UInt64.le_iff_toNat_le, htotal]
    exact hgot
  rw [entries_reportFromEnd hN hle (by omega), htotal] at heq
  have hlast := congrArg (fun entries : LocationArray => entries[got.length - 1]?) heq
  have hindex : N.toNat + 1 - got.length + (got.length - 1) = N.toNat := by omega
  rw [List.getElem?_take_of_lt (by omega), List.getElem?_drop, hindex,
    List.getElem?_eq_getElem (by rw [length_placedFromEnd]; omega), getElem_placedFromEnd,
    if_neg hint, List.getElem?_map] at hlast
  cases hat : locations[got.length - 1]? with
  | none =>
    rw [hat] at hlast
    cases hlast
  | some location =>
    rw [hat] at hlast
    cases hlast

/-! ## The order of the report -/

/-- From the oldest location to the newest one. -/
def InTimeOrder (locations : List Location) : Prop :=
  locations.Pairwise fun older newer => older.timestamp ≤ newer.timestamp

/-- **The report of a batch**: just the locations of the fixes that the modem gave, in the order of
their times. -/
def ReportsReturned (read : BatchRead FixStore) : Prop :=
  ∃ locations : List Location,
    read.report.count.toNat = locations.length ∧ read.report.entries = locations.map some ∧
      locations.Perm (read.modem.returned.map BatchedReport.location) ∧ InTimeOrder locations

namespace StoringModem

variable {m : StoringModem} {max : UInt32} {N : UInt64} {r : Reading FixStore LocationArray}

theorem inTimeOrder_reverse_iff (returned : List BatchedReport) :
    InTimeOrder (returned.map BatchedReport.location).reverse ↔
      returned.Pairwise fun newer older => older.time ≤ newer.time := by
  rw [InTimeOrder, List.pairwise_reverse, List.pairwise_map]
  rfl

/-- What the loop has come to, and the report of it. -/
theorem Ended.reportsReturned_iff (h : m.Ended max N r) (hN : N.toNat < 2 ^ 32) :
    ReportsReturned ⟨r.modem, r.totals, reportFromEnd N r.array r.entriesGotInTotal⟩ ↔
      ¬ m.Overtakes max N.toNat ∧ (N.toNat < 2 ^ 31 ∨ m.firstGives max N.toNat = 0) := by
  have hle : r.entriesGotInTotal ≤ N := by
    rw [UInt64.le_iff_toNat_le, h.total]
    exact h.le
  have hcount : (reportFromEnd N r.array r.entriesGotInTotal).count.toNat =
      (r.modem.returned.map BatchedReport.location).length := by
    rw [(reportFromEnd_of_le hle _).2, h.total, List.length_map]
  have htotal : r.entriesGotInTotal.toNat =
      (r.modem.returned.map BatchedReport.location).length := by
    rw [h.total, List.length_map]
  have hgot : (r.modem.returned.map BatchedReport.location).length ≤ N.toNat := by
    rw [List.length_map]
    exact h.le
  have hentries : N.toNat < 2 ^ 31 ∨ r.modem.returned = [] →
      (reportFromEnd N r.array r.entriesGotInTotal).entries =
        (r.modem.returned.map BatchedReport.location).reverse.map some := by
    rintro (hint | hnil)
    · rw [h.placed]
      exact entries_placedFromEnd hint htotal hgot
    · rw [BatchReport.entries, (reportFromEnd_of_le hle _).2, h.total, hnil]
      rfl
  rw [← h.first, ← h.returned.sorted_iff, ← inTimeOrder_reverse_iff]
  constructor
  · rintro ⟨locations, -, heq, -, hsorted⟩
    have hint : N.toNat < 2 ^ 31 ∨ r.modem.returned = [] := by
      by_contra hnot
      rw [not_or] at hnot
      have hne : r.modem.returned.map BatchedReport.location ≠ [] := fun hnil =>
        hnot.2 (List.map_eq_nil_iff.mp hnil)
      have hplaced := h.placed
      refine entries_ne_map_some hN hnot.1 htotal hgot hne locations ?_
      rw [← hplaced]
      exact heq
    rw [hentries hint] at heq
    have hsame := (List.map_inj_right fun _ _ => Option.some.inj).mp heq
    exact ⟨hsame ▸ hsorted, hint⟩
  · rintro ⟨hsorted, hint⟩
    exact ⟨_, by rw [hcount, List.length_reverse], hentries hint,
      List.reverse_perm _, hsorted⟩

end StoringModem

/-- **A batch in order**: a call ends with a report of just the fixes that the modem gave, each
once and in the order of their times, exactly if no fix is overtaken, and the first index is not
negative as an `int`, or not used. -/
theorem batch_in_order_iff (m : StoringModem) (max : UInt32) (size : UInt32) (count : UInt64) :
    (∃ fuel read, getBatchedLocationsSync (m.read max) fuel m.start size count =
        some (.ok read) ∧ ReportsReturned read) ↔
      ¬ m.Overtakes max (min size.toUInt64 count).toNat ∧
        ((min size.toUInt64 count).toNat < 2 ^ 31 ∨
          m.firstGives max (min size.toUInt64 count).toNat = 0) := by
  have hN := entriesToRead_lt size count
  simp only [getBatchedLocationsSync]
  by_cases hzero : min size.toUInt64 count = 0
  · simp only [hzero, if_true]
    have hnone : ¬ m.Overtakes max (0 : UInt64).toNat := by
      rintro ⟨_, _, _, hgives, _⟩
      exact absurd hgives.2.1 (Nat.not_lt_zero _)
    exact ⟨fun _ => ⟨hnone, .inl (by decide)⟩,
      fun _ => ⟨0, _, rfl, [], rfl, rfl, List.Perm.refl _, List.Pairwise.nil⟩⟩
  · have hpos := pos_of_ne_zero hzero
    have hfirst : m.Begun max (min size.toUInt64 count)
        (Reading.first max (min size.toUInt64 count) m.start
          (placedFromEnd (min size.toUInt64 count).toNat [])) :=
      ⟨StoringModem.reads_start, hpos, rfl, by
        rw [Reading.first, leftToRead, UInt64.sub_zero], rfl, .inl rfl⟩
    simp only [if_neg hzero, newArray_eq hN]
    constructor
    · rintro ⟨fuel, read, hrun, hreports⟩
      obtain ⟨r, hloop, rfl⟩ := map_loop_eq_ok hrun
      have hended : m.Ended max (min size.toUInt64 count) r := by
        refine DoWhile.post_of_passes (fun r h => ?_) hfirst hloop
        obtain ⟨t, again, hpass, hnext, hlast⟩ := StoringModem.Begun.pass h hN
        exact ⟨t, again, hpass, fun hagain => (hnext hagain).1, hlast⟩
      exact (hended.reportsReturned_iff hN).mp hreports
    · intro hright
      obtain ⟨fuel, r, hloop, hended⟩ := DoWhile.exists_loop
        (fun r : Reading FixStore LocationArray =>
          (min size.toUInt64 count).toNat - r.entriesGotInTotal.toNat)
        (fun _ h => StoringModem.Begun.pass h hN) hfirst
      exact ⟨fuel, _, by rw [hloop]; rfl, (hended.reportsReturned_iff hN).mpr hright⟩

/-- A fix of which only the time is told. -/
def batchedAt (time : UInt64) : BatchedReport :=
  ({ untoldFix with validFields := 0x400, timestampUtc := time } : BatchedReport)

/-- Six fixes, and a seventh that is recorded after the first read. -/
def sixAndOne : StoringModem where
  fixes := [batchedAt 6, batchedAt 5, batchedAt 4, batchedAt 3, batchedAt 2, batchedAt 1]
  gives := fun _ => 5
  newFix := some (1, batchedAt 7)
  sorted := by decide
  newest := by
    intro k fix h
    cases h
    decide

/-- The seventh fix is reported first, before the five that were given by the first read. -/
theorem newest_fix_reported_first :
    ∃ read, getBatchedLocationsSync (sixAndOne.read readFromBatchMaxSize) 2 sixAndOne.start 6 6 =
        some (.ok read) ∧
      read.report.entries =
        [batchedAt 7, batchedAt 2, batchedAt 3, batchedAt 4, batchedAt 5, batchedAt 6].map
          fun r => some r.location :=
  ⟨_, rfl, rfl⟩

end LocationStack.LocApi
