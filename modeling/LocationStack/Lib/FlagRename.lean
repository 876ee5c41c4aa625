import LocationStack.Lib.BitMask
import LocationStack.Lib.FlagTable

/-! # Words renamed flag by flag

A converter between two words tests the flags of one, line by line, and ors the bits of a flag into
the other.  It is right if the other word has the bits of exactly those flags that are on.  A line
whose second flag is not its first is a slip: the flag that it tests is lost, and the word is right
exactly if none of the lost flags is on (`rename_eq_write_iff_of_slips`).
-/
namespace LocationStack
namespace FlagTable

variable {F : Type} {w : Nat}

/-! ## Flags numbered in order -/

theorem and_shiftLeft_eq_zero_of_lt {i j : Nat} (h : i < j) (hj : j < w) :
    (1#w <<< i) &&& (1#w <<< j) = 0 := by
  refine (BitMask.and_shiftLeft_eq_zero _ hj).mpr ?_
  have hne : j - i ≠ 0 := by omega
  simp [BitVec.getLsbD_shiftLeft, BitVec.getLsbD_one, hne]

theorem shiftLeft_ne_zero {i : Nat} (h : i < w) : 1#w <<< i ≠ 0 := by
  intro hzero
  have hbit := congrArg (BitVec.getLsbD · i) hzero
  simp [h] at hbit

/-- The `i`-th flag has the bit `1 << i`. -/
def inOrder (names : List F) (h : names.length ≤ w) : FlagTable F w where
  rows := names.mapIdx fun i f => (f, 1#w <<< i)
  nonzero := by
    intro r hr
    obtain ⟨i, hi, rfl⟩ := List.mem_mapIdx.mp hr
    exact shiftLeft_ne_zero (Nat.lt_of_lt_of_le hi h)
  disjoint := by
    refine List.pairwise_iff_getElem.mpr fun i j hi hj hij => ?_
    rw [List.length_mapIdx] at hi hj
    rw [List.getElem_mapIdx, List.getElem_mapIdx]
    exact and_shiftLeft_eq_zero_of_lt hij (Nat.lt_of_lt_of_le hj h)

theorem forall_rows_inOrder {names : List F} {h : names.length ≤ w} {P : F → Prop} :
    (∀ r ∈ (inOrder names h).rows, P r.1) ↔ ∀ f ∈ names, P f := by
  constructor
  · intro hrows f hf
    obtain ⟨i, hi, rfl⟩ := List.mem_iff_getElem.mp hf
    exact hrows (names[i], 1#w <<< i) (List.mem_mapIdx.mpr ⟨i, hi, rfl⟩)
  · intro hnames r hr
    obtain ⟨i, hi, rfl⟩ := List.mem_mapIdx.mp hr
    exact hnames names[i] (List.getElem_mem hi)

/-! ## What is written -/

theorem writeRows_or (rows : List (F × BitVec w)) (m m' : Flags F) :
    writeRows rows (fun f => m f || m' f) = writeRows rows m ||| writeRows rows m' := by
  induction rows with
  | nil => simp [writeRows]
  | cons r rows ih =>
    simp only [writeRows_cons, ih]
    apply BitVec.eq_of_getLsbD_eq
    intro i _
    cases m r.1 <;> cases m' r.1 <;> simp only [Bool.or_self, Bool.or_true, Bool.true_or, if_true,
      Bool.false_eq_true, if_false, BitVec.getLsbD_or]
    · rw [Bool.or_left_comm]
    · rw [Bool.or_assoc]
    · cases r.2.getLsbD i <;> simp

theorem write_false (t : FlagTable F w) : t.write (fun _ => false) = 0#w := by
  have hrows : ∀ rows : List (F × BitVec w), writeRows rows (fun _ => false) = 0#w := by
    intro rows
    induction rows with
    | nil => rfl
    | cons r rows ih => rw [writeRows_cons]; exact ih
  exact hrows t.rows

/-- Two masks give one word if they agree on the flags of the table. -/
theorem write_eq_write_iff {t : FlagTable F w} {m m' : Flags F} :
    t.write m = t.write m' ↔ ∀ r ∈ t.rows, m r.1 = m' r.1 := by
  constructor
  · intro h r hr
    rw [Bool.eq_iff_iff, ← writeRows_and_ne_zero t.nonzero t.disjoint hr m,
      ← writeRows_and_ne_zero t.nonzero t.disjoint hr m']
    exact iff_of_eq (congrArg (· &&& r.2 ≠ 0) h)
  · intro h
    have hrows : ∀ rows : List (F × BitVec w), (∀ r ∈ rows, m r.1 = m' r.1) →
        writeRows rows m = writeRows rows m' := by
      intro rows hrows
      induction rows with
      | nil => rfl
      | cons r rows ih =>
        rw [writeRows_cons, writeRows_cons, hrows r List.mem_cons_self,
          ih fun r' hr' => hrows r' (List.mem_cons_of_mem r hr')]
    exact hrows t.rows h

/-! ## The lines of a converter -/

variable [DecidableEq F]

/-- The bits of a flag, if the table has a row for it. -/
def bitsOf (t : FlagTable F w) (f : F) : BitVec w := t.write fun g => decide (f = g)

/-- `if (m & f) { out |= g; }`, line by line. -/
def rename (t : FlagTable F w) (lines : List (F × F)) (m : Flags F) : BitVec w :=
  lines.foldl (fun out l => if m l.1 then out ||| t.bitsOf l.2 else out) 0

/-- The flags that the lines set. -/
def setBy (lines : List (F × F)) (m : Flags F) : Flags F :=
  fun g => lines.any fun l => m l.1 && decide (l.2 = g)

theorem rename_eq_write (t : FlagTable F w) (lines : List (F × F)) (m : Flags F) :
    t.rename lines m = t.write (setBy lines m) := by
  have hfold : ∀ out : BitVec w,
      lines.foldl (fun out l => if m l.1 then out ||| t.bitsOf l.2 else out) out =
        out ||| t.write (setBy lines m) := by
    induction lines with
    | nil => intro out; exact ((congrArg (out ||| ·) t.write_false).trans BitVec.or_zero).symm
    | cons l lines ih =>
      intro out
      have hset : setBy (l :: lines) m = fun g => (m l.1 && decide (l.2 = g)) || setBy lines m g := by
        funext g
        rw [setBy, List.any_cons, setBy]
      rw [List.foldl_cons, ih, hset, write, writeRows_or]
      cases m l.1 with
      | true =>
        simp only [if_true, Bool.true_and]
        rw [BitVec.or_assoc]
        rfl
      | false =>
        simp only [Bool.false_eq_true, if_false, Bool.false_and]
        rw [show writeRows t.rows (fun _ => false) = 0#w from t.write_false, BitVec.zero_or]
  rw [rename, hfold]
  exact BitVec.zero_or

/-- **The word is right** exactly if the lines set the flags that are on. -/
theorem rename_eq_write_iff {t : FlagTable F w} {lines : List (F × F)} {m m' : Flags F} :
    t.rename lines m = t.write m' ↔ ∀ r ∈ t.rows, setBy lines m r.1 = m' r.1 := by
  rw [rename_eq_write, write_eq_write_iff]

/-- One line for each flag. -/
theorem rename_each {t : FlagTable F w} {names : List F} (h : ∀ r ∈ t.rows, r.1 ∈ names)
    (m : Flags F) : t.rename (names.map fun f => (f, f)) m = t.write m := by
  refine rename_eq_write_iff.mpr fun r hr => ?_
  rw [Bool.eq_iff_iff]
  simp only [setBy, List.any_map, List.any_eq_true, Function.comp_apply, Bool.and_eq_true,
    decide_eq_true_eq]
  constructor
  · rintro ⟨f, -, hf, rfl⟩
    exact hf
  · intro hm
    exact ⟨r.1, h r hr, hm, rfl⟩

/-- **What slips lose.**  Where the lines of some flags set others, and every other flag has its own
line, the word is right exactly if none of those flags is on. -/
theorem rename_eq_write_iff_of_slips {t : FlagTable F w} {lines : List (F × F)} (lost : List F)
    (hlost : ∀ f ∈ lost, ∃ r ∈ t.rows, r.1 = f) (hlines : ∀ l ∈ lines, l.1 = l.2 ∨ l.1 ∈ lost)
    (hsets : ∀ l ∈ lines, l.2 ∉ lost) (hrest : ∀ r ∈ t.rows, r.1 ∉ lost → (r.1, r.1) ∈ lines)
    (m : Flags F) : t.rename lines m = t.write m ↔ ∀ f ∈ lost, m f = false := by
  rw [rename_eq_write_iff]
  constructor
  · intro h f hf
    obtain ⟨r, hr, rfl⟩ := hlost f hf
    rw [← h r hr]
    refine List.any_eq_false.mpr fun l hl hset => hsets l hl ?_
    obtain ⟨-, hname⟩ := Bool.and_eq_true_iff.mp hset
    rwa [of_decide_eq_true hname]
  · intro h r hr
    rw [Bool.eq_iff_iff]
    simp only [setBy, List.any_eq_true, Bool.and_eq_true, decide_eq_true_eq]
    constructor
    · rintro ⟨l, hl, hm, hname⟩
      rcases hlines l hl with hsame | hslip
      · rwa [← hname, ← hsame]
      · exact absurd hm (Bool.eq_false_iff.mp (h l.1 hslip))
    · intro hm
      have hkept : r.1 ∉ lost := fun hmem => absurd hm (Bool.eq_false_iff.mp (h r.1 hmem))
      exact ⟨_, hrest r hr hkept, hm, rfl⟩

end FlagTable
end LocationStack
