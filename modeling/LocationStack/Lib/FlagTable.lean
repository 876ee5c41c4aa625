import Mathlib.Data.List.Basic
import Mathlib.Data.List.Pairwise
import Mathlib.Tactic.Common

/-! # Masks of flags

A mask is the set of the flags that are on.  A table gives each flag its bits in a word; writing
a mask ors the bits of its flags, reading a word tests the bits of each flag.  In a table whose
rows share no bit, reading a word that was written gives the flags that have a row; so a mask
survives exactly if each of its flags has one.
-/
namespace LocationStack

/-- The flags that are on. -/
abbrev Flags (F : Type) := F → Bool

/-- The bits of each flag; no two rows share one. -/
structure FlagTable (F : Type) (w : Nat) where
  rows : List (F × BitVec w)
  nonzero : ∀ r ∈ rows, r.2 ≠ 0
  disjoint : rows.Pairwise fun r r' => r.2 &&& r'.2 = 0

namespace FlagTable

variable {F : Type} {w : Nat}

/-- `if (m & f) { pb |= b; }`, row by row. -/
def writeRows (rows : List (F × BitVec w)) (m : Flags F) : BitVec w :=
  rows.foldr (fun r pb => if m r.1 then r.2 ||| pb else pb) 0

/-- `if (pb & b) { m |= f; }`, row by row. -/
def readRows [DecidableEq F] (rows : List (F × BitVec w)) (pb : BitVec w) : Flags F :=
  fun f => rows.any fun r => decide (r.1 = f) && pb &&& r.2 != 0

def write (t : FlagTable F w) : Flags F → BitVec w := writeRows t.rows

def read [DecidableEq F] (t : FlagTable F w) : BitVec w → Flags F := readRows t.rows

theorem writeRows_cons (r : F × BitVec w) (rows : List (F × BitVec w)) (m : Flags F) :
    writeRows (r :: rows) m = if m r.1 then r.2 ||| writeRows rows m else writeRows rows m := rfl

theorem writeRows_and_of_disjoint {rows : List (F × BitVec w)} {b : BitVec w}
    (h : ∀ r ∈ rows, r.2 &&& b = 0) (m : Flags F) : writeRows rows m &&& b = 0 := by
  induction rows with
  | nil => simp [writeRows]
  | cons r rows ih =>
    have hrest := ih fun r' hr' => h r' (List.mem_cons_of_mem r hr')
    rw [writeRows_cons]
    split
    · rw [BitVec.and_or_distrib_right, h r List.mem_cons_self, hrest, BitVec.or_self]
    · exact hrest

/-- The bits of a row are in the word if its flag is on. -/
theorem writeRows_and_ne_zero {rows : List (F × BitVec w)} (hne : ∀ r ∈ rows, r.2 ≠ 0)
    (hdisjoint : rows.Pairwise fun r r' => r.2 &&& r'.2 = 0) {r : F × BitVec w} (hr : r ∈ rows)
    (m : Flags F) : writeRows rows m &&& r.2 ≠ 0 ↔ m r.1 = true := by
  induction rows with
  | nil => cases hr
  | cons first rows ih =>
    obtain ⟨hfirst, hrest⟩ := List.pairwise_cons.mp hdisjoint
    rw [writeRows_cons]
    rcases List.mem_cons.mp hr with rfl | hmem
    · have hzero : writeRows rows m &&& r.2 = 0 :=
        writeRows_and_of_disjoint (fun r' hr' => by rw [BitVec.and_comm]; exact hfirst r' hr') m
      have hbits : r.2 ≠ 0 := hne r List.mem_cons_self
      by_cases hm : m r.1 = true
      · simpa [hm, BitVec.and_or_distrib_right, hzero] using hbits
      · simp [hm, hzero]
    · have hstep := ih (fun r' hr' => hne r' (List.mem_cons_of_mem first hr')) hrest hmem
      split
      · simpa [BitVec.and_or_distrib_right, hfirst r hmem] using hstep
      · exact hstep

variable [DecidableEq F]

/-- What is read by one table from a word that was written by another: the flags that are on and
that both give the same bits.  The rows read are among the rows written. -/
theorem readRows_write {t : FlagTable F w} {rows : List (F × BitVec w)} (h : ∀ r ∈ rows, r ∈ t.rows)
    (m : Flags F) (f : F) :
    readRows rows (t.write m) f = (m f && rows.any fun r => decide (r.1 = f)) := by
  rw [Bool.eq_iff_iff]
  simp only [readRows, List.any_eq_true, Bool.and_eq_true, decide_eq_true_eq, bne_iff_ne]
  constructor
  · rintro ⟨r, hr, rfl, hbits⟩
    exact ⟨(writeRows_and_ne_zero t.nonzero t.disjoint (h r hr) m).mp hbits, r, hr, rfl⟩
  · rintro ⟨hm, r, hr, rfl⟩
    exact ⟨r, hr, rfl, (writeRows_and_ne_zero t.nonzero t.disjoint (h r hr) m).mpr hm⟩

/-- What is read from a word that was written by a part of the table: the flags of that part.  No
other row shares a bit with the word. -/
theorem read_writeRows {t : FlagTable F w} {rows : List (F × BitVec w)}
    (hrows : ∀ r ∈ rows, r ∈ t.rows) (hdisjoint : rows.Pairwise fun r r' => r.2 &&& r'.2 = 0)
    (m : Flags F) (f : F) :
    t.read (writeRows rows m) f = (m f && rows.any fun r => decide (r.1 = f)) := by
  have : Std.Symm fun r r' : F × BitVec w => r.2 &&& r'.2 = 0 :=
    ⟨fun r r' h => by rw [BitVec.and_comm]; exact h⟩
  rw [Bool.eq_iff_iff]
  simp only [read, readRows, List.any_eq_true, Bool.and_eq_true, decide_eq_true_eq, bne_iff_ne]
  constructor
  · rintro ⟨r, hr, rfl, hbits⟩
    by_cases hmem : r ∈ rows
    · have hne : ∀ r' ∈ rows, r'.2 ≠ 0 := fun r' hr' => t.nonzero r' (hrows r' hr')
      exact ⟨(writeRows_and_ne_zero hne hdisjoint hmem m).mp hbits, r, hmem, rfl⟩
    · -- A row that was not written shares no bit with those that were.
      have hapart : ∀ r' ∈ rows, r'.2 &&& r.2 = 0 := fun r' hr' =>
        t.disjoint.forall (hrows r' hr') hr fun h => hmem (h ▸ hr')
      exact absurd (writeRows_and_of_disjoint hapart m) hbits
  · rintro ⟨hm, r, hr, rfl⟩
    have hne : ∀ r' ∈ rows, r'.2 ≠ 0 := fun r' hr' => t.nonzero r' (hrows r' hr')
    exact ⟨r, hrows r hr, rfl, (writeRows_and_ne_zero hne hdisjoint hr m).mpr hm⟩

/-- Each flag that is on has a row. -/
def Covers (t : FlagTable F w) (m : Flags F) : Prop :=
  ∀ f, m f = true → ∃ r ∈ t.rows, r.1 = f

theorem and_any_eq_self {rows : List (F × BitVec w)} {m : Flags F} :
    (∀ f, (m f && rows.any fun r => decide (r.1 = f)) = m f) ↔
      ∀ f, m f = true → ∃ r ∈ rows, r.1 = f := by
  refine forall_congr' fun f => ?_
  simp only [Bool.and_eq_left_iff_imp, List.any_eq_true, decide_eq_true_eq]

/-- **A mask that was written is read again** exactly if each of its flags has a row. -/
theorem read_write_iff (t : FlagTable F w) (m : Flags F) : t.read (t.write m) = m ↔ t.Covers m := by
  rw [funext_iff, Covers, ← and_any_eq_self]
  exact forall_congr' fun f => by rw [read, readRows_write (fun r hr => hr) m f]

/-- So is one that was written by a part of the table. -/
theorem read_write_iff_of_rows {t t' : FlagTable F w} (hrows : ∀ r ∈ t'.rows, r ∈ t.rows)
    (m : Flags F) : t.read (t'.write m) = m ↔ t'.Covers m := by
  rw [funext_iff, Covers, ← and_any_eq_self]
  exact forall_congr' fun f => by rw [write, read_writeRows hrows t'.disjoint m f]

theorem read_write (t : FlagTable F w) (h : ∀ f, ∃ r ∈ t.rows, r.1 = f) (m : Flags F) :
    t.read (t.write m) = m :=
  (t.read_write_iff m).mpr fun f _ => h f

/-- In a table that lacks the row of one flag, every mask without that flag survives. -/
theorem read_write_iff_of_lost (t : FlagTable F w) {lost : F} (hlost : ∀ r ∈ t.rows, r.1 ≠ lost)
    (hrest : ∀ f, f ≠ lost → ∃ r ∈ t.rows, r.1 = f) (m : Flags F) :
    t.read (t.write m) = m ↔ m lost = false := by
  rw [read_write_iff]
  constructor
  · intro hcovers
    refine Bool.eq_false_iff.mpr fun hon => ?_
    obtain ⟨r, hr, hrow⟩ := hcovers lost hon
    exact hlost r hr hrow
  · intro hoff f hf
    refine hrest f fun hf' => ?_
    rw [hf', hoff] at hf
    cases hf

end FlagTable
end LocationStack
