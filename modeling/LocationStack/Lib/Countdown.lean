import Mathlib.Data.List.Induction

/-! # Countdowns that are started again

Some elements of a sequence are marked.  A counter is set to `N` by a mark, whatever was left of
it, and every element takes one from it.  An element that finds the counter above zero is one of
the `N` elements from a mark on, and the other way round (`covered_concat_iff`), however close
the marks are to each other.
-/
namespace LocationStack
namespace Countdown

variable (N : Nat)

/-- What an element finds on the counter, and so takes one from. -/
def found (left : Nat) (mark : Bool) : Nat := if mark then N else left

/-- What the marks leave of the counter. -/
def left (marks : List Bool) : Nat := marks.foldl (fun left mark => found N left mark - 1) 0

/-- The element is one of the `N` from a mark on. -/
def Covered (marks : List Bool) (i : Nat) : Prop :=
  ∃ j, marks[j]? = some true ∧ j ≤ i ∧ i < j + N

theorem left_concat (marks : List Bool) (mark : Bool) :
    left N (marks ++ [mark]) = found N (left N marks) mark - 1 := by
  rw [left, List.foldl_append]
  rfl

/-- **What is left** reaches as far as the last mark does. -/
theorem lt_left_iff (marks : List Bool) (n : Nat) :
    n < left N marks ↔ ∃ j, marks[j]? = some true ∧ marks.length + n < j + N := by
  induction marks using List.reverseRecOn generalizing n with
  | nil => simp [left]
  | append_singleton marks mark ih =>
    rw [left_concat, List.length_append, List.length_singleton]
    cases mark with
    | true =>
      constructor
      · intro h
        exact ⟨marks.length, by simp, by simp only [found, if_true] at h; omega⟩
      · rintro ⟨j, hj, hlt⟩
        have hle := (List.getElem?_eq_some_iff.mp hj).1
        rw [List.length_append, List.length_singleton] at hle
        simp only [found, if_true]
        omega
    | false =>
      have hstep : n < found N (left N marks) false - 1 ↔ n + 1 < left N marks := by
        simp only [found, Bool.false_eq_true, if_false]
        omega
      rw [hstep, ih]
      constructor
      · rintro ⟨j, hj, hlt⟩
        have hle := (List.getElem?_eq_some_iff.mp hj).1
        exact ⟨j, by rwa [List.getElem?_append_left hle], by omega⟩
      · rintro ⟨j, hj, hlt⟩
        have hle := (List.getElem?_eq_some_iff.mp hj).1
        rw [List.length_append, List.length_singleton] at hle
        by_cases hlast : j = marks.length
        · subst hlast
          simp at hj
        · rw [List.getElem?_append_left (by omega)] at hj
          exact ⟨j, hj, by omega⟩

/-- **Who finds the counter above zero**: the elements that a mark covers. -/
theorem covered_concat_iff (marks : List Bool) (mark : Bool) :
    Covered N (marks ++ [mark]) marks.length ↔ 0 < found N (left N marks) mark := by
  have hlast := lt_left_iff N marks 0
  constructor
  · rintro ⟨j, hj, hle, hlt⟩
    by_cases h : j = marks.length
    · subst h
      have hmark : mark = true := by simpa using hj
      simp only [found, hmark, if_true]
      omega
    · rw [List.getElem?_append_left (by omega)] at hj
      cases mark with
      | true =>
        simp only [found, if_true]
        omega
      | false => exact hlast.mpr ⟨j, hj, by omega⟩
  · intro h
    cases mark with
    | true => exact ⟨marks.length, by simp, Nat.le_refl _, by simpa [found] using h⟩
    | false =>
      obtain ⟨j, hj, hlt⟩ := hlast.mp h
      have hle := (List.getElem?_eq_some_iff.mp hj).1
      exact ⟨j, by rwa [List.getElem?_append_left hle], by omega, by omega⟩

end Countdown
end LocationStack
