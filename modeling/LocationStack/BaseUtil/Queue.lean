import LocationStack.Lib.ListSegment
import Mathlib.Data.List.Perm.Subperm

/-! # `Queue`

A queue is a singly linked list: `push` puts a node at its head, `pop` walks to its last node
and unlinks it.  The nodes are those that are allocated, by address; a new node gets an address
that was not given before.
-/
namespace LocationStack

open ListSegment

structure SingleListNode (α : Type) where
  m_pNext : Option Nat
  m_value : α

structure Queue (α : Type) where
  nodes : Nat → Option (SingleListNode α)
  /-- The address of the next node. -/
  fresh : Nat
  m_pHead : Option Nat
  m_size : Nat

namespace Queue

variable {α : Type}

def empty : Queue α := ⟨fun _ => none, 0, none, 0⟩

/-- `List::add`. -/
def add (q : Queue α) (rhs : α) : Queue α :=
  { nodes := fun a => if a = q.fresh then some ⟨q.m_pHead, rhs⟩ else q.nodes a
    fresh := q.fresh + 1
    m_pHead := some q.fresh
    m_size := q.m_size + 1 }

def push (q : Queue α) (rhs : α) : Queue α := q.add rhs

/-- `while (0 != pNode)` of `top` and `pop`: the last node and the one before it.  A walk that
passes more nodes than were ever allocated is going round in circles. -/
def lastNodes (nodes : Nat → Option (SingleListNode α)) :
    (steps : Nat) → (pNode pLastNode pSecondLastNode : Option Nat) → Option Nat × Option Nat
  | _, none, pLastNode, pSecondLastNode => (pLastNode, pSecondLastNode)
  | 0, some _, pLastNode, pSecondLastNode => (pLastNode, pSecondLastNode)
  | steps + 1, some a, pLastNode, _ =>
    lastNodes nodes steps ((nodes a).bind SingleListNode.m_pNext) (some a) pLastNode

/-- The last node, and the one before it. -/
def ends (q : Queue α) : Option Nat × Option Nat := lastNodes q.nodes q.fresh q.m_pHead none none

/-- The value of the last node, if there is one. -/
def top (q : Queue α) : Option α :=
  match q.ends.1 with
  | some pLastNode => (q.nodes pLastNode).map SingleListNode.m_value
  | none => none

/-- What `setNext(0)` makes of the nodes. -/
def clearNext (nodes : Nat → Option (SingleListNode α)) (b : Nat) :
    Nat → Option (SingleListNode α) :=
  fun a => if a = b then (nodes a).map fun node => { node with m_pNext := none } else nodes a

/-- What `delete` makes of them. -/
def deleteNode (nodes : Nat → Option (SingleListNode α)) (b : Nat) :
    Nat → Option (SingleListNode α) :=
  fun a => if a = b then none else nodes a

/-- The second last node, or the head, forgets the last one. -/
def unlink (q : Queue α) (pSecondLastNode : Option Nat) : Queue α :=
  match pSecondLastNode with
  | some b => { q with nodes := clearNext q.nodes b, m_size := q.m_size - 1 }
  | none => { q with m_pHead := none, m_size := 0 }

/-- The value that was taken, if there was one. -/
def pop (q : Queue α) : Option α × Queue α :=
  let unlinked := q.unlink q.ends.2
  match q.ends.1 with
  | some a =>
    ((unlinked.nodes a).map SingleListNode.m_value,
      { unlinked with nodes := deleteNode unlinked.nodes a })
  | none => (none, unlinked)

def getSize (q : Queue α) : Nat := q.m_size

/-- The values along the pointers. -/
def values (nodes : Nat → Option (SingleListNode α)) : (steps : Nat) → Option Nat → List α
  | _, none => []
  | 0, some _ => []
  | steps + 1, some a =>
    match nodes a with
    | some node => node.m_value :: values nodes steps node.m_pNext
    | none => []

/-- The elements, the oldest first. -/
def contents (q : Queue α) : List α := (values q.nodes q.fresh q.m_pHead).reverse

/-! ## What a queue holds -/

/-- The nodes of the list, from its head. -/
structure Holds (q : Queue α) (cells : List (Nat × α)) : Prop where
  segment : Segment SingleListNode.m_pNext SingleListNode.m_value q.nodes q.m_pHead none cells
  distinct : (cells.map Prod.fst).Nodup
  below : ∀ a ∈ cells.map Prod.fst, a < q.fresh
  size : q.m_size = cells.length

variable {q : Queue α} {cells : List (Nat × α)}

theorem Holds.empty : Holds (Queue.empty : Queue α) [] := ⟨rfl, List.nodup_nil, nofun, rfl⟩

/-- There are not more nodes than addresses. -/
theorem Holds.length_le (h : Holds q cells) : cells.length ≤ q.fresh := by
  have hsub : cells.map Prod.fst ⊆ List.range q.fresh :=
    fun a ha => List.mem_range.mpr (h.below a ha)
  have hlength := (h.distinct.subperm hsub).length_le
  rwa [List.length_map, List.length_range] at hlength

theorem values_segment {nodes : Nat → Option (SingleListNode α)} {p : Option Nat} {steps : Nat}
    (h : Segment SingleListNode.m_pNext SingleListNode.m_value nodes p none cells)
    (hsteps : cells.length ≤ steps) : values nodes steps p = cells.map Prod.snd := by
  induction cells generalizing p steps with
  | nil =>
    obtain rfl : p = none := h
    cases steps <;> rfl
  | cons cell cells ih =>
    obtain ⟨rfl, node, hnode, hvalue, hrest⟩ := h
    cases steps with
    | zero => cases hsteps
    | succ steps =>
      rw [values, hnode]
      simp only [List.map_cons, hvalue]
      rw [ih hrest (Nat.le_of_succ_le_succ hsteps)]

theorem Holds.contents (h : Holds q cells) : q.contents = (cells.map Prod.snd).reverse := by
  rw [Queue.contents, values_segment h.segment h.length_le]

theorem Holds.size_eq (h : Holds q cells) : q.m_size = q.contents.length := by
  rw [h.contents, List.length_reverse, List.length_map]
  exact h.size

/-- The walk ends with the last two of the nodes that it passes, and those before. -/
theorem lastNodes_segment {nodes : Nat → Option (SingleListNode α)} {p : Option Nat}
    {steps : Nat} (h : Segment SingleListNode.m_pNext SingleListNode.m_value nodes p none cells)
    (hsteps : cells.length ≤ steps) (last second : Option Nat) :
    lastNodes nodes steps p last second =
      (cells.map Prod.fst).foldl (fun ends a => (some a, ends.1)) (last, second) := by
  induction cells generalizing p steps last second with
  | nil =>
    obtain rfl : p = none := h
    cases steps <;> rfl
  | cons cell cells ih =>
    obtain ⟨rfl, node, hnode, _, hrest⟩ := h
    cases steps with
    | zero => cases hsteps
    | succ steps =>
      rw [lastNodes, hnode, Option.bind_some, ih hrest (Nat.le_of_succ_le_succ hsteps)]
      rfl

theorem Holds.ends (h : Holds q cells) :
    q.ends = (cells.map Prod.fst).foldl (fun ends a => (some a, ends.1)) (none, none) :=
  lastNodes_segment h.segment h.length_le none none

/-- **Pushing** puts a new node before the others. -/
theorem Holds.push (h : Holds q cells) (rhs : α) :
    Holds (q.push rhs) ((q.fresh, rhs) :: cells) := by
  have hnew : q.fresh ∉ cells.map Prod.fst := fun hmem => Nat.lt_irrefl _ (h.below _ hmem)
  refine ⟨⟨rfl, ⟨q.m_pHead, rhs⟩, if_pos rfl, rfl, ?_⟩, ?_, ?_, ?_⟩
  · refine h.segment.congr fun a ha => if_neg ?_
    rintro rfl
    exact hnew ha
  · exact List.nodup_cons.mpr ⟨hnew, h.distinct⟩
  · intro a ha
    obtain rfl | hold := List.mem_cons.mp ha
    · exact Nat.lt_succ_self _
    · exact Nat.lt_succ_of_lt (h.below a hold)
  · exact congrArg (· + 1) h.size

theorem pop_of_empty (h : Holds q []) : (q.pop).1 = none ∧ Holds (q.pop).2 [] := by
  rw [pop, h.ends]
  exact ⟨rfl, rfl, List.nodup_nil, nofun, rfl⟩

/-- **Popping** takes the value of the last node and leaves the others as they were. -/
theorem Holds.pop {a : Nat} {v : α} (h : Holds q (cells ++ [(a, v)])) :
    (q.pop).1 = some v ∧ Holds (q.pop).2 cells := by
  obtain ⟨hcells, node, hnode, rfl, hlast⟩ := Segment.concat.mp h.segment
  have hdistinct := h.distinct
  rw [List.map_append, List.map_singleton] at hdistinct
  have ha : ∀ c ∈ cells.map Prod.fst, c ≠ a :=
    fun c hc => (List.nodup_append.mp hdistinct).2.2 c hc a (List.mem_singleton.mpr rfl)
  have hnodup : (cells.map Prod.fst).Nodup := (List.nodup_append.mp hdistinct).1
  have hbelow : ∀ c ∈ cells.map Prod.fst, c < q.fresh := by
    intro c hc
    refine h.below c ?_
    rw [List.map_append]
    exact List.mem_append_left _ hc
  have hends : q.ends = (some a, ((cells.map Prod.fst).foldl
      (fun ends a => (some a, ends.1)) ((none, none) : Option Nat × Option Nat)).1) := by
    rw [h.ends, List.map_append, List.foldl_append]
    rfl
  rw [Queue.pop, hends]
  rcases List.eq_nil_or_concat cells with rfl | ⟨before, ⟨b, w⟩, rfl⟩
  · -- the only node: the list is empty then
    refine ⟨?_, rfl, List.nodup_nil, nofun, rfl⟩
    simp only [unlink, hnode, List.map_nil, List.foldl_nil, Option.map_some]
  · rw [List.concat_eq_append] at hcells hnodup hbelow ha h ⊢
    obtain ⟨hbefore, nodeb, hnodeb, rfl, _⟩ := Segment.concat.mp hcells
    rw [List.map_append, List.map_singleton] at hnodup ha
    have hb : ∀ c ∈ before.map Prod.fst, c ≠ b :=
      fun c hc => (List.nodup_append.mp hnodup).2.2 c hc b (List.mem_singleton.mpr rfl)
    have hne : b ≠ a := ha b (List.mem_append_right _ (List.mem_singleton.mpr rfl))
    have hsecond : (((before ++ [(b, nodeb.m_value)]).map Prod.fst).foldl
        (fun ends a => (some a, ends.1)) ((none, none) : Option Nat × Option Nat)).1 = some b := by
      rw [List.map_append, List.foldl_append]
      rfl
    rw [hsecond]
    refine ⟨?_, ?_, by rwa [List.map_append], hbelow, ?_⟩
    · simp only [unlink, clearNext, if_neg hne.symm, hnode, Option.map_some]
    · refine Segment.concat.mpr ⟨hbefore.congr fun c hc => ?_, { nodeb with m_pNext := none },
        ?_, rfl, rfl⟩
      · have hca : c ≠ a := ha c (List.mem_append_left _ hc)
        simp only [unlink, deleteNode, clearNext, if_neg hca, if_neg (hb c hc)]
      · simp only [unlink, deleteNode, clearNext, if_neg hne, if_true, hnodeb, Option.map_some]
    · have hsize := h.size
      simp only [unlink]
      rw [hsize, List.length_append, List.length_singleton]
      omega

/-- `top` tells the value that `pop` would take. -/
theorem Holds.top {a : Nat} {v : α} (h : Holds q (cells ++ [(a, v)])) : q.top = some v := by
  obtain ⟨_, node, hnode, rfl, _⟩ := Segment.concat.mp h.segment
  have hends : q.ends.1 = some a := by
    rw [h.ends, List.map_append, List.foldl_append]
    rfl
  rw [Queue.top, hends]
  simp only [hnode, Option.map_some]

/-! ## A queue as a sequence -/

/-- The pointers of the queue form a list. -/
def Wf (q : Queue α) : Prop := ∃ cells, Holds q cells

theorem Wf.empty : Wf (Queue.empty : Queue α) := ⟨[], .empty⟩

theorem Wf.size_eq (h : Wf q) : q.m_size = q.contents.length := by
  obtain ⟨_, h⟩ := h
  exact h.size_eq

/-- What is pushed comes last. -/
theorem Wf.push (h : Wf q) (rhs : α) :
    Wf (q.push rhs) ∧ (q.push rhs).contents = q.contents ++ [rhs] := by
  obtain ⟨cells, h⟩ := h
  refine ⟨⟨_, h.push rhs⟩, ?_⟩
  rw [(h.push rhs).contents, h.contents, List.map_cons, List.reverse_cons]

/-- What was pushed first is popped first. -/
theorem Wf.pop (h : Wf q) :
    Wf (q.pop).2 ∧ q.contents = (q.pop).1.toList ++ (q.pop).2.contents := by
  obtain ⟨cells, h⟩ := h
  rcases List.eq_nil_or_concat cells with rfl | ⟨before, ⟨a, v⟩, rfl⟩
  · obtain ⟨hnone, hempty⟩ := pop_of_empty h
    refine ⟨⟨_, hempty⟩, ?_⟩
    rw [hnone, hempty.contents, h.contents]
    rfl
  · rw [List.concat_eq_append] at h
    obtain ⟨hsome, hrest⟩ := h.pop
    refine ⟨⟨_, hrest⟩, ?_⟩
    rw [hsome, hrest.contents, h.contents, List.map_append, List.reverse_append]
    rfl

theorem Wf.pop_isSome (h : Wf q) : (q.pop).1.isSome = decide (0 < q.m_size) := by
  obtain ⟨cells, h⟩ := h
  rw [h.size]
  rcases List.eq_nil_or_concat cells with rfl | ⟨before, ⟨a, v⟩, rfl⟩
  · rw [(pop_of_empty h).1]
    rfl
  · rw [List.concat_eq_append] at h ⊢
    rw [h.pop.1, List.length_append, List.length_singleton]
    exact (decide_eq_true (Nat.succ_pos _)).symm

end Queue
end LocationStack
