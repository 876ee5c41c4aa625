import Mathlib.Data.List.Nodup

/-! # Linked lists in a heap

A heap of nodes, each with a pointer to the next one.  `Segment` says which nodes a walk along
the pointers passes on its way from one pointer to another, by their addresses and values; it
splits and joins like the list of these (`Segment.append`), and depends on no other node
(`Segment.congr`).
-/
namespace LocationStack
namespace ListSegment

variable {ν α : Type} (next : ν → Option Nat) (value : ν → α)

/-- From `p` the pointers lead over these nodes to `q`. -/
def Segment (heap : Nat → Option ν) : Option Nat → Option Nat → List (Nat × α) → Prop
  | p, q, [] => p = q
  | p, q, cell :: cells =>
    p = some cell.1 ∧ ∃ node, heap cell.1 = some node ∧ value node = cell.2 ∧
      Segment heap (next node) q cells

variable {next value}
variable {heap heap' : Nat → Option ν} {p q r : Option Nat} {cells cells' : List (Nat × α)}

/-- A segment depends on its own nodes only. -/
theorem Segment.congr (h : Segment next value heap p q cells)
    (hsame : ∀ a ∈ cells.map Prod.fst, heap' a = heap a) :
    Segment next value heap' p q cells := by
  induction cells generalizing p with
  | nil => exact h
  | cons cell cells ih =>
    obtain ⟨hp, node, hnode, hvalue, hrest⟩ := h
    refine ⟨hp, node, ?_, hvalue, ih hrest fun a ha => hsame a (List.mem_cons_of_mem _ ha)⟩
    rw [hsame cell.1 List.mem_cons_self]
    exact hnode

theorem Segment.append :
    Segment next value heap p r (cells ++ cells') ↔
      ∃ q, Segment next value heap p q cells ∧ Segment next value heap q r cells' := by
  induction cells generalizing p with
  | nil =>
    constructor
    · intro h
      exact ⟨p, rfl, h⟩
    · rintro ⟨q, rfl, h⟩
      exact h
  | cons cell cells ih =>
    constructor
    · rintro ⟨hp, node, hnode, hvalue, hrest⟩
      obtain ⟨q, hcells, hcells'⟩ := ih.mp hrest
      exact ⟨q, ⟨hp, node, hnode, hvalue, hcells⟩, hcells'⟩
    · rintro ⟨q, ⟨hp, node, hnode, hvalue, hcells⟩, hcells'⟩
      exact ⟨hp, node, hnode, hvalue, ih.mpr ⟨q, hcells, hcells'⟩⟩

/-- One more node at the end. -/
theorem Segment.concat {cell : Nat × α} :
    Segment next value heap p r (cells ++ [cell]) ↔
      Segment next value heap p (some cell.1) cells ∧
        ∃ node, heap cell.1 = some node ∧ value node = cell.2 ∧ next node = r := by
  rw [Segment.append]
  constructor
  · rintro ⟨q, hcells, rfl, node, hnode, hvalue, hnext⟩
    exact ⟨hcells, node, hnode, hvalue, hnext⟩
  · rintro ⟨hcells, node, hnode, hvalue, hnext⟩
    exact ⟨some cell.1, hcells, rfl, node, hnode, hvalue, hnext⟩

end ListSegment
end LocationStack
