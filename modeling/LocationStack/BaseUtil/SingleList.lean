import LocationStack.BaseUtil.Queue
import LocationStack.Lib.EventRun

/-! # `List`

The list template that `Queue` is made of: `add` puts a node before the others, `add_tail` walks
to the last one, and `remove`, `erase` and `sort` change the pointers of nodes that they find on a
walk from the head.  A list is the state that a queue has of it.

`new` may fail, and a walk that passes more nodes than were ever allocated is going round in
circles.
-/
namespace LocationStack

open ListSegment EventRun

/-- `List`, the base of `Queue`. -/
abbrev SingleList (α : Type) := Queue α

namespace SingleList

variable {α : Type}

/-! ## The operations -/

/-- `add`, which is `add_head` too. -/
def add (l : SingleList α) (rhs : α) (allocated : Bool) : Int × SingleList α :=
  if allocated then (0, Queue.add l rhs) else (2, l)

/-- What `setNext` makes of the nodes. -/
def setNext (nodes : Nat → Option (SingleListNode α)) (b : Nat) (pNext : Option Nat) :
    Nat → Option (SingleListNode α) :=
  fun a => if a = b then (nodes a).map fun node => { node with m_pNext := pNext } else nodes a

/-- `add_tail`. -/
def addTail (l : SingleList α) (rhs : α) (allocated : Bool) : Int × SingleList α :=
  if allocated then
    let nodes := fun a => if a = l.fresh then some ⟨none, rhs⟩ else l.nodes a
    match (Queue.ends l).1 with
    | none =>
      (0, ⟨nodes, l.fresh + 1, some l.fresh, l.m_size + 1⟩)
    | some pPrevNode =>
      (0, ⟨setNext nodes pPrevNode (some l.fresh), l.fresh + 1, l.m_pHead, l.m_size + 1⟩)
  else (2, l)

/-- `while (0 != pNode)` of `remove` and `erase`: the first node that passes the test, and the one
before it. -/
def find (test : Nat → α → Bool) (nodes : Nat → Option (SingleListNode α)) :
    (steps : Nat) → (pPrevNode pNode : Option Nat) → Option (Option Nat × Nat)
  | _, _, none => none
  | 0, _, some _ => none
  | steps + 1, pPrevNode, some a =>
    match nodes a with
    | none => none
    | some node =>
      if test a node.m_value then some (pPrevNode, a)
      else find test nodes steps (some a) node.m_pNext

/-- The node before, or the head, takes over where the node points to. -/
def unlink (l : SingleList α) (pPrevNode : Option Nat) (a : Nat) : SingleList α :=
  let pNextNode := (l.nodes a).bind SingleListNode.m_pNext
  let linked : SingleList α :=
    match pPrevNode with
    | some b => { l with nodes := setNext l.nodes b pNextNode }
    | none => { l with m_pHead := pNextNode }
  { linked with nodes := Queue.deleteNode linked.nodes a, m_size := l.m_size - 1 }

def remove [BEq α] (l : SingleList α) (rhs : α) (okIfNotFound : Bool) : Int × SingleList α :=
  match find (fun _ value => rhs == value) l.nodes l.fresh none l.m_pHead with
  | some (pPrevNode, a) => (0, l.unlink pPrevNode a)
  | none => (if okIfNotFound then 0 else 1, l)

/-- `erase` of the node that an iterator is at: the code that is logged, the iterator that is
returned, and the list. -/
def erase (l : SingleList α) (target : Option Nat) : Int × Option Nat × SingleList α :=
  match find (fun a _ => target == some a) l.nodes l.fresh none l.m_pHead with
  | some (pPrevNode, a) =>
    (0, (l.nodes a).bind SingleListNode.m_pNext, l.unlink pPrevNode a)
  | none => (1, none, l)

/-- The array of pointers that is sorted, of `m_size` places at most. -/
def pointers (nodes : Nat → Option (SingleListNode α)) : (places : Nat) → Option Nat → List Nat
  | _, none => []
  | 0, some _ => []
  | places + 1, some a => a :: pointers nodes places ((nodes a).bind SingleListNode.m_pNext)

/-- Each node points to the one behind it in the array, the last one to none. -/
def linkAll (nodes : Nat → Option (SingleListNode α)) : List Nat → Nat → Option (SingleListNode α)
  | [] => nodes
  | [a] => setNext nodes a none
  | a :: b :: rest => linkAll (setNext nodes a (some b)) (b :: rest)

/-- The value of a node, the head's for a pointer to none. -/
def valueOf (nodes : Nat → Option (SingleListNode α)) (head : SingleListNode α) (a : Nat) : α :=
  ((nodes a).getD head).m_value

/-- `_comparator` and `_reverse_comparator`. -/
def comparator (list_comparator : α → α → Int) (reverse : Bool) (lhs rhs : α) : Int :=
  if reverse then list_comparator rhs lhs else list_comparator lhs rhs

/-- `sort`; `qsort` gets a comparison of pointers. -/
def sort (qsort : (Nat → Nat → Int) → List Nat → List Nat) (list_comparator : α → α → Int)
    (l : SingleList α) (reverse allocated : Bool) : Int × SingleList α :=
  if l.m_size = 0 then (0, l)
  else if !allocated then (3, l)
  else
    let array := pointers l.nodes l.m_size l.m_pHead
    if array.length ≠ l.m_size then (4, l)
    else
      match l.m_pHead.bind l.nodes with
      | none => (4, l)
      | some head =>
        let sorted := qsort (fun a b => comparator list_comparator reverse
          (valueOf l.nodes head a) (valueOf l.nodes head b)) array
        (0, { l with nodes := linkAll l.nodes sorted, m_pHead := sorted.head? })

/-- The loop of `append` over the nodes of `rhs`, which is the list itself where there is no
other; `allocated` is by the number of the node. -/
def appendLoop (rhs : Option (SingleList α)) (allocated : Nat → Bool) :
    (steps i : Nat) → (it : Option Nat) → SingleList α → Int × SingleList α
  | _, _, none, l => (0, l)
  | 0, _, some _, l => (0, l)
  | steps + 1, i, some a, l =>
    match (rhs.getD l).nodes a with
    | none => (0, l)
    | some node =>
      let (rc, l) := l.add node.m_value (allocated i)
      if rc ≠ 0 then (2, l)
      else
        appendLoop rhs allocated steps (i + 1)
          (((rhs.getD l).nodes a).bind SingleListNode.m_pNext) l

def append (l : SingleList α) (rhs : Option (SingleList α)) (allocated : Nat → Bool) :
    Int × SingleList α :=
  appendLoop rhs allocated (rhs.getD l).fresh 0 (rhs.getD l).m_pHead l

def appendReverse (l : SingleList α) (rhs : Option (SingleList α)) (allocated : Nat → Bool) :
    Int × SingleList α :=
  l.append rhs allocated

/-- `while (0 != pNode)` of `flush`. -/
def deleteNodes : (steps : Nat) → (Nat → Option (SingleListNode α)) → (pNode : Option Nat) →
    Nat → Option (SingleListNode α)
  | _, nodes, none => nodes
  | 0, nodes, some _ => nodes
  | steps + 1, nodes, some a =>
    deleteNodes steps (Queue.deleteNode nodes a) ((nodes a).bind SingleListNode.m_pNext)

def flush (l : SingleList α) : SingleList α :=
  { l with nodes := deleteNodes l.fresh l.nodes l.m_pHead, m_size := 0, m_pHead := none }

/-! ## Sequences of operations -/

/-- An operation, with what `new` gives; a list that is appended is another one, or the list
itself. -/
inductive Op (α : Type)
  | add (rhs : α) (allocated : Bool)
  | addTail (rhs : α) (allocated : Bool)
  | remove (rhs : α) (okIfNotFound : Bool)
  | erase (target : Option Nat)
  | sort (reverse allocated : Bool)
  | append (rhs : Option { l : SingleList α // Queue.Wf l }) (allocated : Nat → Bool)
  | appendReverse (rhs : Option { l : SingleList α // Queue.Wf l }) (allocated : Nat → Bool)
  | flush

section Steps

variable [BEq α] (qsort : (Nat → Nat → Int) → List Nat → List Nat)
  (list_comparator : α → α → Int)

/-- The result code of an operation, 0 where it has none, and the list afterwards. -/
def apply (l : SingleList α) : Op α → Int × SingleList α
  | .add rhs allocated => l.add rhs allocated
  | .addTail rhs allocated => l.addTail rhs allocated
  | .remove rhs okIfNotFound => l.remove rhs okIfNotFound
  | .erase target => ((l.erase target).1, (l.erase target).2.2)
  | .sort reverse allocated => l.sort qsort list_comparator reverse allocated
  | .append rhs allocated => l.append (rhs.map Subtype.val) allocated
  | .appendReverse rhs allocated => l.appendReverse (rhs.map Subtype.val) allocated
  | .flush => (0, l.flush)

def step (l : SingleList α) (op : Op α) : SingleList α := (apply qsort list_comparator l op).2

/-- The nodes of a list from its head, by address and value. -/
def cells (nodes : Nat → Option (SingleListNode α)) :
    (steps : Nat) → Option Nat → List (Nat × α)
  | _, none => []
  | 0, some _ => []
  | steps + 1, some a =>
    match nodes a with
    | some node => (a, node.m_value) :: cells nodes steps node.m_pNext
    | none => []

def nodeList (l : SingleList α) : List (Nat × α) := cells l.nodes l.fresh l.m_pHead

/-- The elements from the head. -/
def elements (l : SingleList α) : List α := l.nodeList.map Prod.snd

/-- The list that is appended. -/
def Op.argument (l : SingleList α) (rhs : Option { l : SingleList α // Queue.Wf l }) : List α :=
  elements ((rhs.map Subtype.val).getD l)

/-- A list with the elements that the counterpart of the operation on sequences gives. -/
def Counterpart (l : SingleList α) (op : Op α) (result : SingleList α) : Prop :=
  match op with
  | .add rhs _ => result.elements = rhs :: l.elements
  | .addTail rhs _ => result.elements = l.elements ++ [rhs]
  | .remove rhs _ => result.elements = l.elements.filter fun value => !(rhs == value)
  | .erase target => result.nodeList = l.nodeList.filter fun cell => !(target == some cell.1)
  | .sort reverse _ =>
    result.elements.Perm l.elements ∧ result.elements.Pairwise fun lhs rhs =>
      comparator list_comparator reverse lhs rhs ≤ 0
  | .append rhs _ => result.elements = l.elements ++ Op.argument l rhs
  | .appendReverse rhs _ => result.elements = (Op.argument l rhs).reverse ++ l.elements
  | .flush => result.elements = []

/-- A failing operation leaves the list as it was, any other gives its counterpart. -/
def Right (l : SingleList α) (op : Op α) (result : Int × SingleList α) : Prop :=
  if result.1 ≠ 0 then result.2 = l else Counterpart list_comparator l op result.2

/-- A removal takes the first element with the value, whether others have it or not. -/
def RemovesFirst (l : SingleList α) (op : Op α) (result : SingleList α) : Prop :=
  match op with
  | .remove rhs _ => result.elements = l.elements.eraseP (rhs == ·)
  | _ => True

/-- The nodes of the elements are allocated, or not the first of them. -/
def AllocatesAllOrNone (ys : List α) (allocated : Nat → Bool) : Prop :=
  (∀ i < ys.length, allocated i) ∨ (ys ≠ [] ∧ allocated 0 = false)

/-- A removal of a value that the list has once at most, and an append that fails at once or of
elements that reversed and in front are what they are in order and behind. -/
def Suits (l : SingleList α) : Op α → Prop
  | .remove rhs _ => l.elements.countP (rhs == ·) ≤ 1
  | .append rhs allocated =>
    AllocatesAllOrNone (Op.argument l rhs) allocated ∧
      ((∀ i < (Op.argument l rhs).length, allocated i) →
        (Op.argument l rhs).reverse ++ l.elements = l.elements ++ Op.argument l rhs)
  | .appendReverse rhs allocated => AllocatesAllOrNone (Op.argument l rhs) allocated
  | _ => True

end Steps

/-! ## Walks -/

variable {l : SingleList α} {cs : List (Nat × α)}

theorem cells_segment {nodes : Nat → Option (SingleListNode α)} {p : Option Nat} {steps : Nat}
    (h : Segment SingleListNode.m_pNext SingleListNode.m_value nodes p none cs)
    (hsteps : cs.length ≤ steps) : cells nodes steps p = cs := by
  induction cs generalizing p steps with
  | nil =>
    obtain rfl : p = none := h
    cases steps <;> rfl
  | cons cell cs ih =>
    obtain ⟨rfl, node, hnode, hvalue, hrest⟩ := h
    cases steps with
    | zero => cases hsteps
    | succ steps =>
      rw [cells, hnode]
      simp only [hvalue]
      rw [ih hrest (Nat.le_of_succ_le_succ hsteps)]

theorem nodeList_eq (h : Queue.Holds l cs) : l.nodeList = cs :=
  cells_segment h.segment h.length_le

theorem elements_eq (h : Queue.Holds l cs) : l.elements = cs.map Prod.snd := by
  rw [elements, nodeList_eq h]

section Find

variable {test : Nat → α → Bool} {nodes : Nat → Option (SingleListNode α)}

theorem find_eq_none {p : Option Nat} {steps : Nat}
    (h : Segment SingleListNode.m_pNext SingleListNode.m_value nodes p none cs)
    (hno : ∀ cell ∈ cs, test cell.1 cell.2 = false) (pPrevNode : Option Nat) :
    find test nodes steps pPrevNode p = none := by
  induction cs generalizing p steps pPrevNode with
  | nil =>
    obtain rfl : p = none := h
    cases steps <;> rfl
  | cons cell cs ih =>
    obtain ⟨rfl, node, hnode, hvalue, hrest⟩ := h
    cases steps with
    | zero => rfl
    | succ steps =>
      have htest := hno cell List.mem_cons_self
      rw [find, hnode]
      simp only [hvalue, htest, Bool.false_eq_true, if_false]
      exact ih hrest (fun cell' hmem => hno cell' (List.mem_cons_of_mem _ hmem)) _

/-- A walk stops at the first node that passes the test. -/
theorem find_eq_some {before after : List (Nat × α)} {cell : Nat × α} {p : Option Nat}
    {steps : Nat}
    (h : Segment SingleListNode.m_pNext SingleListNode.m_value nodes p none
      (before ++ cell :: after))
    (hsteps : (before ++ cell :: after).length ≤ steps)
    (hno : ∀ cell ∈ before, test cell.1 cell.2 = false) (hyes : test cell.1 cell.2 = true)
    (pPrevNode : Option Nat) :
    find test nodes steps pPrevNode p =
      some ((before.getLast?.map Prod.fst).or pPrevNode, cell.1) := by
  induction before generalizing p steps pPrevNode with
  | nil =>
    obtain ⟨rfl, node, hnode, hvalue, hrest⟩ := h
    cases steps with
    | zero => cases hsteps
    | succ steps =>
      rw [find, hnode]
      simp only [hvalue, hyes, if_true]
      rfl
  | cons b before ih =>
    obtain ⟨rfl, node, hnode, hvalue, hrest⟩ := h
    cases steps with
    | zero => cases hsteps
    | succ steps =>
      have htest := hno b List.mem_cons_self
      rw [find, hnode]
      simp only [hvalue, htest, Bool.false_eq_true, if_false]
      rw [ih hrest (Nat.le_of_succ_le_succ hsteps)
        fun cell' hmem => hno cell' (List.mem_cons_of_mem _ hmem)]
      rw [List.getLast?_cons]
      cases before.getLast? <;> rfl

end Find

/-! ## What an operation makes of the nodes -/

theorem setNext_of_ne {nodes : Nat → Option (SingleListNode α)} {a b : Nat} (hne : a ≠ b)
    (pNext : Option Nat) : setNext nodes b pNext a = nodes a := if_neg hne

theorem setNext_self {nodes : Nat → Option (SingleListNode α)} {b : Nat} {node : SingleListNode α}
    (hnode : nodes b = some node) (pNext : Option Nat) :
    setNext nodes b pNext b = some { node with m_pNext := pNext } := by
  rw [setNext, if_pos rfl, hnode]
  rfl

/-- A segment that no longer ends where it did. -/
theorem segment_setNext {nodes : Nat → Option (SingleListNode α)} {p q : Option Nat}
    {before : List (Nat × α)} {b : Nat} {w : α}
    (h : Segment SingleListNode.m_pNext SingleListNode.m_value nodes p q (before ++ [(b, w)]))
    (hb : b ∉ before.map Prod.fst) (pNext : Option Nat) :
    Segment SingleListNode.m_pNext SingleListNode.m_value (setNext nodes b pNext) p pNext
      (before ++ [(b, w)]) := by
  obtain ⟨hbefore, node, hnode, hvalue, -⟩ := Segment.concat.mp h
  refine Segment.concat.mpr ⟨hbefore.congr fun a ha => setNext_of_ne ?_ _,
    { node with m_pNext := pNext }, setNext_self hnode pNext, hvalue, rfl⟩
  rintro rfl
  exact hb ha

/-- **Adding at the end.** -/
theorem holds_addTail (h : Queue.Holds l cs) (rhs : α) :
    Queue.Holds (l.addTail rhs true).2 (cs ++ [(l.fresh, rhs)]) := by
  have hnew : l.fresh ∉ cs.map Prod.fst := fun hmem => Nat.lt_irrefl _ (h.below _ hmem)
  set nodes : Nat → Option (SingleListNode α) :=
    fun a => if a = l.fresh then some ⟨none, rhs⟩ else l.nodes a with hnodes
  have hfresh : nodes l.fresh = some ⟨none, rhs⟩ := if_pos rfl
  have hsegment :
      Segment SingleListNode.m_pNext SingleListNode.m_value nodes l.m_pHead none cs := by
    refine h.segment.congr fun a ha => if_neg ?_
    rintro rfl
    exact hnew ha
  have hdistinct : ((cs ++ [(l.fresh, rhs)]).map Prod.fst).Nodup := by
    rw [List.map_append, List.map_singleton]
    refine List.nodup_append.mpr ⟨h.distinct, List.nodup_singleton _, fun a ha b hb heq => ?_⟩
    rw [heq, List.mem_singleton.mp hb] at ha
    exact hnew ha
  have hbelow : ∀ a ∈ (cs ++ [(l.fresh, rhs)]).map Prod.fst, a < l.fresh + 1 := by
    intro a ha
    rw [List.map_append, List.mem_append] at ha
    rcases ha with hold | hlast
    · exact Nat.lt_succ_of_lt (h.below a hold)
    · rw [List.mem_singleton.mp hlast]
      exact Nat.lt_succ_self _
  have hsize : l.m_size + 1 = (cs ++ [(l.fresh, rhs)]).length := by
    rw [h.size, List.length_append, List.length_singleton]
  rw [addTail, if_pos rfl]
  dsimp only
  rw [h.ends]
  rcases List.eq_nil_or_concat cs with rfl | ⟨before, ⟨b, w⟩, rfl⟩
  · exact ⟨⟨rfl, ⟨none, rhs⟩, hfresh, rfl, rfl⟩, hdistinct, hbelow, hsize⟩
  · rw [List.concat_eq_append] at *
    simp only [List.map_append, List.map_singleton, List.foldl_append, List.foldl_cons,
      List.foldl_nil]
    have hb : b ∉ before.map Prod.fst := by
      have hnodup := h.distinct
      rw [List.map_append, List.map_singleton] at hnodup
      exact fun hmem => (List.nodup_append.mp hnodup).2.2 b hmem b (List.mem_singleton_self b) rfl
    have hne : l.fresh ≠ b := by
      rintro hfb
      exact hnew (by rw [hfb]; simp)
    refine ⟨Segment.concat.mpr ⟨segment_setNext hsegment hb _, ⟨none, rhs⟩, ?_, rfl, rfl⟩,
      hdistinct, hbelow, hsize⟩
    exact (setNext_of_ne hne _).trans hfresh

/-- **Taking a node out**, which `remove` and `erase` do to the one they find. -/
theorem holds_unlink {before after : List (Nat × α)} {cell : Nat × α}
    (h : Queue.Holds l (before ++ cell :: after)) :
    Queue.Holds (l.unlink (before.getLast?.map Prod.fst) cell.1) (before ++ after) := by
  have hsub : (before ++ after).Sublist (before ++ cell :: after) :=
    (List.Sublist.refl before).append (List.sublist_cons_self cell after)
  have hdistinct := h.distinct
  rw [List.map_append, List.map_cons, List.nodup_append] at hdistinct
  obtain ⟨hbefore, hrest, happart⟩ := hdistinct
  have hafter : cell.1 ∉ after.map Prod.fst := (List.nodup_cons.mp hrest).1
  have hnotBefore : cell.1 ∉ before.map Prod.fst :=
    fun hmem => happart _ hmem _ List.mem_cons_self rfl
  obtain ⟨q, hseg, rfl, node, hnode, -, htail⟩ := Segment.append.mp h.segment
  have hsegment : Segment SingleListNode.m_pNext SingleListNode.m_value
      (l.unlink (before.getLast?.map Prod.fst) cell.1).nodes
      (l.unlink (before.getLast?.map Prod.fst) cell.1).m_pHead none (before ++ after) := by
    rcases List.eq_nil_or_concat before with rfl | ⟨before, ⟨b, w⟩, rfl⟩
    · simp only [unlink, List.getLast?_nil, Option.map_none, hnode, Option.bind_some,
        List.nil_append]
      refine htail.congr fun a ha => if_neg ?_
      rintro rfl
      exact hafter ha
    · rw [List.concat_eq_append] at *
      simp only [unlink, List.getLast?_append, List.getLast?_singleton, Option.some_or,
        Option.map_some, hnode, Option.bind_some]
      have hb : b ∉ before.map Prod.fst := by
        rw [List.map_append, List.map_singleton] at hbefore
        exact fun hmem =>
          (List.nodup_append.mp hbefore).2.2 b hmem b (List.mem_singleton_self b) rfl
      have hne : cell.1 ≠ b := by
        rintro heq
        exact hnotBefore (by rw [heq]; simp)
      refine Segment.append.mpr ⟨node.m_pNext,
        (segment_setNext hseg hb node.m_pNext).congr fun a ha => if_neg ?_,
        htail.congr fun a ha => ?_⟩
      · rintro rfl
        exact hnotBefore ha
      · have hca : a ≠ cell.1 := by
          rintro rfl
          exact hafter ha
        have hba : a ≠ b := by
          rintro rfl
          exact happart a (by simp) a (List.mem_cons_of_mem _ ha) rfl
        rw [Queue.deleteNode, if_neg hca, setNext_of_ne hba]
  have hfresh : (l.unlink (before.getLast?.map Prod.fst) cell.1).fresh = l.fresh := by
    cases before.getLast? <;> rfl
  exact
    { segment := hsegment
      distinct := h.distinct.sublist (hsub.map _)
      below := by
        intro a ha
        rw [hfresh]
        exact h.below a ((hsub.map _).subset ha)
      size := by
        have hsize := h.size
        rw [List.length_append, List.length_cons] at hsize
        rw [List.length_append]
        change l.m_size - 1 = _
        omega }

/-! ## Sorting -/

section Sorting

variable {nodes : Nat → Option (SingleListNode α)}

theorem pointers_segment {p : Option Nat} {places : Nat}
    (h : Segment SingleListNode.m_pNext SingleListNode.m_value nodes p none cs)
    (hplaces : cs.length ≤ places) : pointers nodes places p = cs.map Prod.fst := by
  induction cs generalizing p places with
  | nil =>
    obtain rfl : p = none := h
    cases places <;> rfl
  | cons cell cs ih =>
    obtain ⟨rfl, node, hnode, -, hrest⟩ := h
    cases places with
    | zero => cases hplaces
    | succ places =>
      rw [pointers, hnode, Option.bind_some, ih hrest (Nat.le_of_succ_le_succ hplaces)]
      rfl

/-- The nodes that a walk passes are there. -/
theorem segment_node {p q : Option Nat}
    (h : Segment SingleListNode.m_pNext SingleListNode.m_value nodes p q cs) :
    ∀ cell ∈ cs, ∃ node, nodes cell.1 = some node ∧ node.m_value = cell.2 := by
  induction cs generalizing p with
  | nil => exact nofun
  | cons cell cs ih =>
    obtain ⟨-, node, hnode, hvalue, hrest⟩ := h
    intro cell' hmem
    obtain rfl | hmem := List.mem_cons.mp hmem
    · exact ⟨node, hnode, hvalue⟩
    · exact ih hrest cell' hmem

theorem linkAll_of_notMem {array : List Nat} {a : Nat} (ha : a ∉ array) :
    linkAll nodes array a = nodes a := by
  induction array generalizing nodes with
  | nil => rfl
  | cons b array ih =>
    obtain ⟨hab, hrest⟩ := not_or.mp (mt List.mem_cons.mpr ha)
    cases array with
    | nil => exact setNext_of_ne hab _
    | cons c array =>
      rw [linkAll, ih hrest]
      exact setNext_of_ne hab _

/-- Nodes that are linked in an order are a list in that order. -/
theorem segment_linkAll {array : List Nat} {value : Nat → α} (hdistinct : array.Nodup)
    (hnodes : ∀ a ∈ array, ∃ node, nodes a = some node ∧ node.m_value = value a) :
    Segment SingleListNode.m_pNext SingleListNode.m_value (linkAll nodes array) array.head? none
      (array.map fun a => (a, value a)) := by
  induction array generalizing nodes with
  | nil => rfl
  | cons a array ih =>
    obtain ⟨ha, hrest⟩ := List.nodup_cons.mp hdistinct
    obtain ⟨node, hnode, hvalue⟩ := hnodes a List.mem_cons_self
    cases array with
    | nil => exact ⟨rfl, _, setNext_self hnode none, hvalue, rfl⟩
    | cons b array =>
      have hlinked : linkAll (setNext nodes a (some b)) (b :: array) a =
          some { node with m_pNext := some b } := by
        rw [linkAll_of_notMem ha]
        exact setNext_self hnode _
      refine ⟨rfl, _, hlinked, hvalue, ih hrest fun c hc => ?_⟩
      have hca : c ≠ a := by
        rintro rfl
        exact ha hc
      rw [setNext_of_ne hca]
      exact hnodes c (List.mem_cons_of_mem _ hc)

end Sorting

/-- What `qsort` does for a comparison of pointers by values that it can sort: the pointers, in an
order that the comparison does not object to. -/
def Sorts (qsort : (Nat → Nat → Int) → List Nat → List Nat) (list_comparator : α → α → Int) :
    Prop :=
  ∀ (value : Nat → α) (reverse : Bool) (array : List Nat),
    (qsort (fun a b => comparator list_comparator reverse (value a) (value b)) array).Perm array ∧
      (qsort (fun a b => comparator list_comparator reverse (value a) (value b)) array).Pairwise
        fun a b => comparator list_comparator reverse (value a) (value b) ≤ 0

/-- **Sorting** moves nodes, and no value. -/
theorem sort_right {qsort : (Nat → Nat → Int) → List Nat → List Nat}
    {list_comparator : α → α → Int} (hsorts : Sorts qsort list_comparator)
    (h : Queue.Holds l cs) (reverse : Bool) :
    (l.sort qsort list_comparator reverse true).1 = 0 ∧
      ∃ sorted, Queue.Holds (l.sort qsort list_comparator reverse true).2 sorted ∧
        sorted.Perm cs ∧ sorted.Pairwise fun lhs rhs =>
          comparator list_comparator reverse lhs.2 rhs.2 ≤ 0 := by
  cases cs with
  | nil =>
    have hsize : l.m_size = 0 := h.size
    rw [sort, if_pos hsize]
    exact ⟨rfl, [], h, List.Perm.refl _, List.Pairwise.nil⟩
  | cons cell cs =>
    have hsize : l.m_size ≠ 0 := by
      rw [h.size]
      exact Nat.succ_ne_zero _
    have harray : pointers l.nodes l.m_size l.m_pHead = (cell :: cs).map Prod.fst :=
      pointers_segment h.segment (le_of_eq h.size.symm)
    obtain ⟨hhead, node, hnode, -, -⟩ := h.segment
    have hlength : ((cell :: cs).map Prod.fst).length = l.m_size := by
      rw [List.length_map, h.size]
    have hbind : l.m_pHead.bind l.nodes = some node := by
      rw [hhead]
      exact hnode
    rw [sort, if_neg hsize]
    simp only [Bool.not_true, Bool.false_eq_true, if_false, harray, hbind, ne_eq, hlength,
      not_true_eq_false, true_and]
    obtain ⟨hperm, hordered⟩ :=
      hsorts (valueOf l.nodes node) reverse ((cell :: cs).map Prod.fst)
    set sorted := qsort (fun a b => comparator list_comparator reverse
      (valueOf l.nodes node a) (valueOf l.nodes node b)) ((cell :: cs).map Prod.fst)
    have hvalue : ∀ c ∈ cell :: cs, (c.1, valueOf l.nodes node c.1) = c := by
      intro c hc
      obtain ⟨node', hnode', hvalue'⟩ := segment_node h.segment c hc
      rw [valueOf, hnode', Option.getD_some, hvalue']
    have hcells : ((cell :: cs).map Prod.fst).map (fun a => (a, valueOf l.nodes node a)) =
        cell :: cs := by
      rw [List.map_map]
      exact (List.map_congr_left hvalue).trans (List.map_id _)
    have hfst : (sorted.map fun a => (a, valueOf l.nodes node a)).map Prod.fst = sorted := by
      rw [List.map_map]
      exact List.map_id _
    refine ⟨sorted.map fun a => (a, valueOf l.nodes node a),
      ⟨segment_linkAll (hperm.nodup_iff.mpr h.distinct) fun a ha => ?_, ?_, ?_, ?_⟩, ?_, ?_⟩
    · obtain ⟨c, hc, rfl⟩ := List.mem_map.mp (hperm.subset ha)
      obtain ⟨node', hnode', -⟩ := segment_node h.segment c hc
      refine ⟨node', hnode', ?_⟩
      rw [valueOf, hnode', Option.getD_some]
    · rw [hfst]
      exact hperm.nodup_iff.mpr h.distinct
    · rw [hfst]
      exact fun a ha => h.below a (hperm.subset ha)
    · rw [List.length_map, hperm.length_eq]
      exact hlength.symm
    · have hmoved := hperm.map fun a => (a, valueOf l.nodes node a)
      rwa [hcells] at hmoved
    · exact List.pairwise_map.mpr hordered

/-! ## Appending -/

/-- The walk over the list that is appended has these nodes before it, and what is added to the
list leaves them alone. -/
def Reads (rhs : Option (SingleList α)) (l : SingleList α) (it : Option Nat)
    (ys : List (Nat × α)) : Prop :=
  Segment SingleListNode.m_pNext SingleListNode.m_value (rhs.getD l).nodes it none ys ∧
    (rhs = none → ∀ a ∈ ys.map Prod.fst, a < l.fresh)

theorem Reads.add {rhs : Option (SingleList α)} {it : Option Nat} {ys : List (Nat × α)}
    (h : Reads rhs l it ys) (value : α) : Reads rhs (Queue.add l value) it ys := by
  cases rhs with
  | some r => exact ⟨h.1, nofun⟩
  | none =>
    refine ⟨h.1.congr fun a ha => if_neg ?_, fun _ a ha => Nat.lt_succ_of_lt (h.2 rfl a ha)⟩
    exact Nat.ne_of_lt (h.2 rfl a ha)

theorem Reads.tail {rhs : Option (SingleList α)} {it : Option Nat} {y : Nat × α}
    {ys : List (Nat × α)} (h : Reads rhs l it (y :: ys)) :
    ∃ node, (rhs.getD l).nodes y.1 = some node ∧ node.m_value = y.2 ∧
      Reads rhs l node.m_pNext ys := by
  obtain ⟨⟨-, node, hnode, hvalue, hrest⟩, hbelow⟩ := h
  exact ⟨node, hnode, hvalue, hrest, fun hnone a ha => hbelow hnone a (List.mem_cons_of_mem _ ha)⟩

/-- How an append can end: with all of the nodes added in front, the last of them first, or with
those before the first that is not allocated. -/
inductive Appended (l : SingleList α) (cs ys : List (Nat × α)) (allocated : Nat → Bool) (i : Nat)
    (result : Int × SingleList α) : Prop
  | all (front : List (Nat × α)) (hall : ∀ k < ys.length, allocated (i + k) = true)
      (hfront : front.map Prod.snd = (ys.map Prod.snd).reverse) (hcode : result.1 = 0)
      (hholds : Queue.Holds result.2 (front ++ cs))
  | failed (front : List (Nat × α)) (hlt : front.length < ys.length)
      (hfails : allocated (i + front.length) = false)
      (hbefore : ∀ k < front.length, allocated (i + k) = true) (hcode : result.1 = 2)
      (hholds : Queue.Holds result.2 (front ++ cs)) (hsame : front = [] → result.2 = l)

/-- **Appending** adds one node after the other in front. -/
theorem appended {rhs : Option (SingleList α)} {allocated : Nat → Bool} {it : Option Nat}
    {ys : List (Nat × α)} {steps i : Nat} (h : Queue.Holds l cs) (hreads : Reads rhs l it ys)
    (hsteps : ys.length ≤ steps) :
    Appended l cs ys allocated i (appendLoop rhs allocated steps i it l) := by
  induction ys generalizing l cs it steps i with
  | nil =>
    obtain rfl : it = none := hreads.1
    have hend : appendLoop rhs allocated steps i none l = (0, l) := by cases steps <;> rfl
    rw [hend]
    exact .all [] nofun rfl rfl h
  | cons y ys ih =>
    cases steps with
    | zero => cases hsteps
    | succ steps =>
      obtain rfl : it = some y.1 := hreads.1.1
      obtain ⟨node, hnode, hvalue, -⟩ := hreads.tail
      rw [appendLoop, hnode]
      cases hallocated : allocated i with
      | false => exact .failed [] (Nat.succ_pos _) hallocated nofun rfl h fun _ => rfl
      | true =>
        have hadded : Queue.Holds (Queue.add l node.m_value) ((l.fresh, y.2) :: cs) := by
          rw [hvalue]
          exact h.push y.2
        obtain ⟨node', hnode', -, hrest⟩ := (hreads.add node.m_value).tail
        have hnext : ((rhs.getD (Queue.add l node.m_value)).nodes y.1).bind
            SingleListNode.m_pNext = node'.m_pNext := by
          rw [hnode', Option.bind_some]
        simp only [add, if_true, ne_eq, not_true_eq_false, if_false, hnext]
        have hshift : ∀ n, (∀ k < n, allocated (i + 1 + k) = true) →
            ∀ k < n + 1, allocated (i + k) = true := by
          intro n hn k hk
          cases k with
          | zero => exact hallocated
          | succ k =>
            rw [Nat.add_comm k 1, ← Nat.add_assoc]
            exact hn k (Nat.lt_of_succ_lt_succ hk)
        rcases ih (i := i + 1) hadded hrest (Nat.le_of_succ_le_succ hsteps)
          with ⟨front, hall, hfront, hcode, hholds⟩ |
            ⟨front, hlt, hfails, hbefore, hcode, hholds, -⟩
        · refine .all (front ++ [(l.fresh, y.2)]) (hshift _ hall) ?_ hcode ?_
          · rw [List.map_append, hfront, List.map_singleton, List.map_cons (l := ys),
              List.reverse_cons]
          · rwa [List.append_assoc]
        · have hlength : (front ++ [(l.fresh, y.2)]).length = front.length + 1 :=
            List.length_append
          refine .failed (front ++ [(l.fresh, y.2)]) ?_ ?_ ?_ hcode ?_ fun hnil => ?_
          · rw [hlength]
            exact Nat.succ_lt_succ hlt
          · rw [hlength, Nat.add_comm front.length 1, ← Nat.add_assoc]
            exact hfails
          · rw [hlength]
            exact hshift _ hbefore
          · rwa [List.append_assoc]
          · exact absurd hnil (List.append_ne_nil_of_right_ne_nil _ (List.cons_ne_nil _ _))

/-! ## Right results -/

/-- A list has no cell that passes a test, or a first one. -/
theorem first_cell (test : Nat → α → Bool) (cs : List (Nat × α)) :
    (∀ cell ∈ cs, test cell.1 cell.2 = false) ∨
      ∃ before cell after, cs = before ++ cell :: after ∧
        (∀ cell ∈ before, test cell.1 cell.2 = false) ∧ test cell.1 cell.2 = true := by
  rcases hfind : cs.find? fun cell => test cell.1 cell.2 with _ | cell
  · left
    intro cell hcell
    exact Bool.eq_false_iff.mpr (List.find?_eq_none.mp hfind cell hcell)
  · right
    obtain ⟨hyes, before, after, hcs, hbefore⟩ := List.find?_eq_some_iff_append.mp hfind
    refine ⟨before, cell, after, hcs, fun cell hcell => ?_, hyes⟩
    have hno := hbefore cell hcell
    rwa [Bool.not_eq_true'] at hno

/-- A walk from the head finds the first cell that passes the test. -/
theorem find_first (h : Queue.Holds l cs) (test : Nat → α → Bool) :
    (find test l.nodes l.fresh none l.m_pHead = none ∧ ∀ cell ∈ cs, test cell.1 cell.2 = false) ∨
      ∃ before cell after, cs = before ++ cell :: after ∧
        (∀ cell ∈ before, test cell.1 cell.2 = false) ∧ test cell.1 cell.2 = true ∧
        find test l.nodes l.fresh none l.m_pHead =
          some (before.getLast?.map Prod.fst, cell.1) := by
  rcases first_cell test cs with hno | ⟨before, cell, after, rfl, hbefore, hyes⟩
  · exact .inl ⟨find_eq_none h.segment hno none, hno⟩
  · refine .inr ⟨before, cell, after, rfl, hbefore, hyes, ?_⟩
    rw [find_eq_some h.segment h.length_le hbefore hyes none, Option.or_none]

theorem addTail_code (rhs : α) : (l.addTail rhs true).1 = 0 := by
  rw [addTail, if_pos rfl]
  cases (Queue.ends l).1 <;> rfl

/-- **Erasing** takes the node of the iterator, if the list has it. -/
theorem erase_first (h : Queue.Holds l cs) (target : Option Nat) :
    ((∀ cell ∈ cs, (target == some cell.1) = false) ∧ l.erase target = (1, none, l)) ∨
      ∃ before cell after, cs = before ++ cell :: after ∧
        (∀ cell ∈ before, (target == some cell.1) = false) ∧ target = some cell.1 ∧
        (l.erase target).1 = 0 ∧ Queue.Holds (l.erase target).2.2 (before ++ after) := by
  rcases find_first h fun a _ => target == some a with
    ⟨hfind, hno⟩ | ⟨before, cell, after, rfl, hbefore, hyes, hfind⟩
  · refine .inl ⟨hno, ?_⟩
    rw [erase, hfind]
  · refine .inr ⟨before, cell, after, rfl, hbefore, beq_iff_eq.mp hyes, ?_⟩
    rw [erase, hfind]
    exact ⟨rfl, holds_unlink h⟩

theorem flush_holds (l : SingleList α) : Queue.Holds l.flush [] :=
  ⟨rfl, List.nodup_nil, nofun, rfl⟩

/-- **Appending** puts the elements of the argument in front, the last of them first; where a node
is not allocated, what was added before stays. -/
theorem append_cases (h : Queue.Holds l cs) (rhs : Option { l : SingleList α // Queue.Wf l })
    (allocated : Nat → Bool) :
    Queue.Wf (l.append (rhs.map Subtype.val) allocated).2 ∧
      if ∀ i < (Op.argument l rhs).length, allocated i = true then
        (l.append (rhs.map Subtype.val) allocated).1 = 0 ∧
          (l.append (rhs.map Subtype.val) allocated).2.elements =
            (Op.argument l rhs).reverse ++ l.elements
      else
        (l.append (rhs.map Subtype.val) allocated).1 ≠ 0 ∧
          ((l.append (rhs.map Subtype.val) allocated).2 = l ↔
            Op.argument l rhs ≠ [] ∧ allocated 0 = false) := by
  obtain ⟨ys, hys⟩ : ∃ ys, Queue.Holds ((rhs.map Subtype.val).getD l) ys := by
    cases rhs with
    | none => exact ⟨cs, h⟩
    | some r => exact r.2
  have hreads : Reads (rhs.map Subtype.val) l ((rhs.map Subtype.val).getD l).m_pHead ys := by
    refine ⟨hys.segment, fun hnone a ha => ?_⟩
    rw [hnone, Option.getD_none] at hys
    exact hys.below a ha
  have hargument : Op.argument l rhs = ys.map Prod.snd := elements_eq hys
  rw [hargument, List.length_map, append]
  rcases @appended α l cs (rhs.map Subtype.val) allocated _ ys _ 0 h hreads hys.length_le with
    ⟨front, hall, hfront, hcode, hholds⟩ |
    ⟨front, hlt, hfails, hbefore, hcode, hholds, hsame⟩
  · refine ⟨⟨_, hholds⟩, ?_⟩
    rw [if_pos fun i hi => Nat.zero_add i ▸ hall i hi]
    refine ⟨hcode, ?_⟩
    rw [elements_eq hholds, elements_eq h, List.map_append, hfront]
  · refine ⟨⟨_, hholds⟩, ?_⟩
    rw [Nat.zero_add] at hfails
    have hnot : ¬ ∀ i < ys.length, allocated i = true := by
      intro hall
      rw [hall _ hlt] at hfails
      cases hfails
    rw [if_neg hnot, hcode]
    refine ⟨by decide, fun heq => ?_, fun hfirst => hsame ?_⟩
    · rw [heq] at hholds
      have hlength := hholds.size.symm.trans h.size
      rw [List.length_append] at hlength
      have hnil : front.length = 0 := by omega
      refine ⟨fun hempty => ?_, by rwa [hnil] at hfails⟩
      rw [List.map_eq_nil_iff.mp hempty] at hlt
      cases hlt
    · cases front with
      | nil => rfl
      | cons cell front =>
        have hzero := hbefore 0 (Nat.succ_pos _)
        rw [Nat.zero_add, hfirst.2] at hzero
        cases hzero

section Results

variable [BEq α] {qsort : (Nat → Nat → Int) → List Nat → List Nat}
  {list_comparator : α → α → Int}

theorem right_of_failed {op : Op α} {result : Int × SingleList α} (hcode : result.1 ≠ 0) :
    Right list_comparator l op result ↔ result.2 = l := by
  rw [Right, if_pos hcode]

theorem right_of_done {op : Op α} {result : Int × SingleList α} (hcode : result.1 = 0) :
    Right list_comparator l op result ↔ Counterpart list_comparator l op result.2 := by
  rw [Right, if_neg (not_not.mpr hcode)]

theorem add_right (h : Queue.Holds l cs) (rhs : α) (allocated : Bool) :
    Right list_comparator l (.add rhs allocated) (l.add rhs allocated) := by
  cases allocated with
  | false => exact (right_of_failed (by simp [add])).mpr rfl
  | true =>
    have hadded : Queue.Holds (l.add rhs true).2 ((l.fresh, rhs) :: cs) := h.push rhs
    refine (right_of_done rfl).mpr ?_
    rw [Counterpart, elements_eq hadded, elements_eq h, List.map_cons]

theorem addTail_right (h : Queue.Holds l cs) (rhs : α) (allocated : Bool) :
    Right list_comparator l (.addTail rhs allocated) (l.addTail rhs allocated) := by
  cases allocated with
  | false => exact (right_of_failed (by simp [addTail])).mpr rfl
  | true =>
    refine (right_of_done (addTail_code rhs)).mpr ?_
    rw [Counterpart, elements_eq (holds_addTail h rhs), elements_eq h, List.map_append,
      List.map_singleton]

/-- **Removing a value** takes the first node that has it, if there is one. -/
theorem remove_first (h : Queue.Holds l cs) (rhs : α) (okIfNotFound : Bool) :
    ((∀ cell ∈ cs, (rhs == cell.2) = false) ∧
        l.remove rhs okIfNotFound = (if okIfNotFound then 0 else 1, l)) ∨
      ∃ before cell after, cs = before ++ cell :: after ∧
        (∀ cell ∈ before, (rhs == cell.2) = false) ∧ (rhs == cell.2) = true ∧
        (l.remove rhs okIfNotFound).1 = 0 ∧
        Queue.Holds (l.remove rhs okIfNotFound).2 (before ++ after) := by
  rcases find_first h fun _ value => rhs == value with
    ⟨hfind, hno⟩ | ⟨before, cell, after, rfl, hbefore, hyes, hfind⟩
  · refine .inl ⟨hno, ?_⟩
    rw [remove, hfind]
  · refine .inr ⟨before, cell, after, rfl, hbefore, hyes, ?_⟩
    rw [remove, hfind]
    exact ⟨rfl, holds_unlink h⟩

/-- A removal is right exactly where no second node has the value. -/
theorem remove_right (h : Queue.Holds l cs) (rhs : α) (okIfNotFound : Bool) :
    Right list_comparator l (.remove rhs okIfNotFound) (l.remove rhs okIfNotFound) ↔
      l.elements.countP (rhs == ·) ≤ 1 := by
  rw [elements_eq h]
  rcases remove_first h rhs okIfNotFound with
    ⟨hno, heq⟩ | ⟨before, cell, after, rfl, hbefore, hyes, hcode, hholds⟩
  · have hcount : (cs.map Prod.snd).countP (rhs == ·) = 0 := by
      refine List.countP_eq_zero.mpr fun value hvalue => ?_
      obtain ⟨cell, hcell, rfl⟩ := List.mem_map.mp hvalue
      exact Bool.eq_false_iff.mp (hno cell hcell)
    refine iff_of_true ?_ (by rw [hcount]; exact Nat.zero_le 1)
    rw [heq]
    by_cases hok : okIfNotFound
    · rw [if_pos hok, right_of_done rfl, Counterpart, elements_eq h]
      refine (List.filter_eq_self.mpr fun value hvalue => ?_).symm
      obtain ⟨cell, hcell, rfl⟩ := List.mem_map.mp hvalue
      rw [hno cell hcell, Bool.not_false]
    · rw [if_neg hok]
      exact (right_of_failed Int.one_ne_zero).mpr rfl
  · have hkept : (before.map Prod.snd).filter (fun value => !(rhs == value)) =
        before.map Prod.snd := by
      refine List.filter_eq_self.mpr fun value hvalue => ?_
      obtain ⟨cell, hcell, rfl⟩ := List.mem_map.mp hvalue
      rw [hbefore cell hcell, Bool.not_false]
    have hnone : (before.map Prod.snd).countP (rhs == ·) = 0 := by
      refine List.countP_eq_zero.mpr fun value hvalue => ?_
      obtain ⟨cell, hcell, rfl⟩ := List.mem_map.mp hvalue
      exact Bool.eq_false_iff.mp (hbefore cell hcell)
    rw [right_of_done hcode, Counterpart, elements_eq hholds, elements_eq h, List.map_append,
      List.map_append, List.map_cons, List.filter_append, hkept, List.append_cancel_left_eq,
      List.filter_cons_of_neg (by rw [hyes]; decide), List.countP_append, hnone, Nat.zero_add,
      List.countP_cons_of_pos hyes, eq_comm, List.filter_eq_self, Nat.succ_le_succ_iff,
      Nat.le_zero, List.countP_eq_zero]
    exact forall₂_congr fun value _ => by rw [Bool.not_eq_true', Bool.eq_false_iff]

theorem erase_right (h : Queue.Holds l cs) (target : Option Nat) :
    Right list_comparator l (.erase target) ((l.erase target).1, (l.erase target).2.2) := by
  rcases erase_first h target with
    ⟨-, heq⟩ | ⟨before, cell, after, rfl, hbefore, rfl, hcode, hholds⟩
  · rw [heq]
    exact (right_of_failed Int.one_ne_zero).mpr rfl
  · have hafter : ∀ cell' ∈ after, (some cell.1 == some cell'.1) = false := by
      intro cell' hmem
      refine beq_eq_false_iff_ne.mpr fun heq => ?_
      have hdistinct := h.distinct
      rw [List.map_append, List.map_cons, List.nodup_append] at hdistinct
      refine (List.nodup_cons.mp hdistinct.2.1).1 ?_
      rw [Option.some.inj heq]
      exact List.mem_map_of_mem hmem
    refine (right_of_done hcode).mpr ?_
    rw [Counterpart, nodeList_eq hholds, nodeList_eq h, List.filter_append,
      List.filter_cons_of_neg (by simp)]
    rw [List.filter_eq_self.mpr fun cell' hmem => by rw [hbefore cell' hmem, Bool.not_false],
      List.filter_eq_self.mpr fun cell' hmem => by rw [hafter cell' hmem, Bool.not_false]]

/-- **Sorting** gives the elements in order. -/
theorem sort_meets (hsorts : Sorts qsort list_comparator) (h : Queue.Holds l cs)
    (reverse allocated : Bool) :
    Right list_comparator l (.sort reverse allocated)
      (l.sort qsort list_comparator reverse allocated) := by
  cases allocated with
  | true =>
    obtain ⟨hcode, sorted, hholds, hperm, hordered⟩ := sort_right hsorts h reverse
    refine (right_of_done hcode).mpr ?_
    rw [Counterpart, elements_eq hholds, elements_eq h]
    exact ⟨hperm.map _, List.pairwise_map.mpr hordered⟩
  | false =>
    by_cases hsize : l.m_size = 0
    · have hnil : cs = [] := List.length_eq_zero_iff.mp (h.size.symm.trans hsize)
      rw [sort, if_pos hsize]
      refine (right_of_done rfl).mpr ?_
      rw [Counterpart, elements_eq h, hnil]
      exact ⟨List.Perm.refl _, List.Pairwise.nil⟩
    · rw [sort, if_neg hsize, if_pos (by rfl)]
      exact (right_of_failed (by simp)).mpr rfl

theorem append_right (h : Queue.Holds l cs) (rhs : Option { l : SingleList α // Queue.Wf l })
    (allocated : Nat → Bool) :
    Right list_comparator l (.append rhs allocated)
        (l.append (rhs.map Subtype.val) allocated) ↔ Suits l (.append rhs allocated) := by
  have hcases := (append_cases h rhs allocated).2
  rw [Suits, AllocatesAllOrNone]
  by_cases hall : ∀ i < (Op.argument l rhs).length, allocated i = true
  · rw [if_pos hall] at hcases
    obtain ⟨hcode, helements⟩ := hcases
    rw [right_of_done hcode, Counterpart, helements]
    exact ⟨fun heq => ⟨.inl hall, fun _ => heq⟩, fun hsuits => hsuits.2 hall⟩
  · rw [if_neg hall] at hcases
    obtain ⟨hcode, hsame⟩ := hcases
    rw [right_of_failed hcode, hsame]
    exact ⟨fun hfirst => ⟨.inr hfirst, fun hall' => absurd hall' hall⟩,
      fun hsuits => hsuits.1.resolve_left hall⟩

theorem appendReverse_right (h : Queue.Holds l cs)
    (rhs : Option { l : SingleList α // Queue.Wf l }) (allocated : Nat → Bool) :
    Right list_comparator l (.appendReverse rhs allocated)
        (l.appendReverse (rhs.map Subtype.val) allocated) ↔
      Suits l (.appendReverse rhs allocated) := by
  have hcases := (append_cases h rhs allocated).2
  rw [Suits, AllocatesAllOrNone, appendReverse]
  by_cases hall : ∀ i < (Op.argument l rhs).length, allocated i = true
  · rw [if_pos hall] at hcases
    obtain ⟨hcode, helements⟩ := hcases
    rw [right_of_done hcode, Counterpart, helements]
    exact iff_of_true rfl (.inl hall)
  · rw [if_neg hall] at hcases
    obtain ⟨hcode, hsame⟩ := hcases
    rw [right_of_failed hcode, hsame]
    exact ⟨.inr, fun hsuits => hsuits.resolve_left hall⟩

/-! ## Runs -/

/-- Whatever the operation, the pointers form a list afterwards. -/
theorem wf_step (hsorts : Sorts qsort list_comparator) (hwf : Queue.Wf l) (op : Op α) :
    Queue.Wf (step qsort list_comparator l op) := by
  obtain ⟨cs, h⟩ := hwf
  cases op with
  | add rhs allocated =>
    cases allocated with
    | false => exact ⟨cs, h⟩
    | true => exact ⟨_, h.push rhs⟩
  | addTail rhs allocated =>
    cases allocated with
    | false => exact ⟨cs, h⟩
    | true => exact ⟨_, holds_addTail h rhs⟩
  | remove rhs okIfNotFound =>
    rcases remove_first h rhs okIfNotFound with
      ⟨-, heq⟩ | ⟨before, cell, after, -, -, -, -, hholds⟩
    · change Queue.Wf (l.remove rhs okIfNotFound).2
      rw [heq]
      exact ⟨cs, h⟩
    · exact ⟨_, hholds⟩
  | erase target =>
    rcases erase_first h target with ⟨-, heq⟩ | ⟨before, cell, after, -, -, -, -, hholds⟩
    · change Queue.Wf (l.erase target).2.2
      rw [heq]
      exact ⟨cs, h⟩
    · exact ⟨_, hholds⟩
  | sort reverse allocated =>
    cases allocated with
    | true =>
      obtain ⟨-, sorted, hholds, -, -⟩ := sort_right hsorts h reverse
      exact ⟨sorted, hholds⟩
    | false =>
      change Queue.Wf (l.sort qsort list_comparator reverse false).2
      by_cases hsize : l.m_size = 0
      · rw [sort, if_pos hsize]
        exact ⟨cs, h⟩
      · rw [sort, if_neg hsize, if_pos (by rfl)]
        exact ⟨cs, h⟩
  | append rhs allocated => exact (append_cases h rhs allocated).1
  | appendReverse rhs allocated => exact (append_cases h rhs allocated).1
  | flush => exact ⟨[], flush_holds l⟩

theorem apply_right (hsorts : Sorts qsort list_comparator) (hwf : Queue.Wf l) (op : Op α) :
    Right list_comparator l op (apply qsort list_comparator l op) ↔ Suits l op := by
  obtain ⟨cs, h⟩ := hwf
  cases op with
  | add rhs allocated => exact iff_of_true (add_right h rhs allocated) trivial
  | addTail rhs allocated => exact iff_of_true (addTail_right h rhs allocated) trivial
  | remove rhs okIfNotFound => exact remove_right h rhs okIfNotFound
  | erase target => exact iff_of_true (erase_right h target) trivial
  | sort reverse allocated => exact iff_of_true (sort_meets hsorts h reverse allocated) trivial
  | append rhs allocated => exact append_right h rhs allocated
  | appendReverse rhs allocated => exact appendReverse_right h rhs allocated
  | flush => exact iff_of_true ((right_of_done rfl).mpr (elements_eq (flush_holds l))) trivial

theorem apply_removesFirst (hwf : Queue.Wf l) (op : Op α) :
    RemovesFirst l op (step qsort list_comparator l op) := by
  obtain ⟨cs, h⟩ := hwf
  cases op with
  | remove rhs okIfNotFound =>
    change (l.remove rhs okIfNotFound).2.elements = _
    rw [elements_eq h]
    rcases remove_first h rhs okIfNotFound with
      ⟨hno, heq⟩ | ⟨before, cell, after, rfl, hbefore, hyes, -, hholds⟩
    · rw [heq, elements_eq h, List.eraseP_of_forall_not]
      intro value hvalue
      obtain ⟨cell, hcell, rfl⟩ := List.mem_map.mp hvalue
      exact Bool.eq_false_iff.mp (hno cell hcell)
    · rw [elements_eq hholds, List.map_append, List.map_append, List.map_cons,
        List.eraseP_append_right, List.eraseP_cons_of_pos hyes]
      intro value hvalue
      obtain ⟨cell, hcell, rfl⟩ := List.mem_map.mp hvalue
      exact Bool.eq_false_iff.mp (hbefore cell hcell)
  | _ => trivial

/-- **A list is what its operations make of the sequence**, as long as no value is removed that it
has twice, no append runs out of memory half way, and what is appended in order is the same
reversed and in front.  Its pointers form a list in any case. -/
theorem operations_right (hsorts : Sorts qsort list_comparator) (ops : List (Op α)) :
    Throughout (step qsort list_comparator) Queue.Wf Queue.empty ops ∧
      Meets (step qsort list_comparator)
        (fun l op => RemovesFirst l op (step qsort list_comparator l op)) Queue.empty ops ∧
      (Meets (step qsort list_comparator)
          (fun l op => Right list_comparator l op (apply qsort list_comparator l op))
          Queue.empty ops ↔
        Meets (step qsort list_comparator) Suits Queue.empty ops) := by
  have hstep : ∀ l op, Queue.Wf l → Queue.Wf (step qsort list_comparator l op) :=
    fun _ op hwf => wf_step hsorts hwf op
  have hwf : Throughout (step qsort list_comparator) Queue.Wf Queue.empty ops :=
    throughout_of_invariant hstep .empty
  exact ⟨hwf, hwf.meets fun _ op hl => apply_removesFirst hl op,
    Meets.congr hstep (fun _ op hl => apply_right hsorts hl op) .empty⟩

end Results

/-- Merge sort of pointers by a comparison of them. -/
def mergeQsort (compare : Nat → Nat → Int) (array : List Nat) : List Nat :=
  array.mergeSort fun a b => decide (compare a b ≤ 0)

/-- Merge sort does for `qsort` wherever the comparison is one. -/
theorem sorts_mergeSort {list_comparator : α → α → Int}
    (htrans : ∀ x y z, list_comparator x y ≤ 0 → list_comparator y z ≤ 0 →
      list_comparator x z ≤ 0)
    (htotal : ∀ x y, list_comparator x y ≤ 0 ∨ list_comparator y x ≤ 0) :
    Sorts mergeQsort list_comparator := by
  intro value reverse array
  refine ⟨List.mergeSort_perm _ _, ?_⟩
  have hordered := @List.pairwise_mergeSort _
    (fun a b => decide (comparator list_comparator reverse (value a) (value b) ≤ 0))
    (fun a b c hab hbc => ?_) (fun a b => ?_) array
  · exact hordered.imp fun hle => of_decide_eq_true hle
  · have hab := of_decide_eq_true hab
    have hbc := of_decide_eq_true hbc
    refine decide_eq_true ?_
    cases reverse with
    | false => exact htrans _ _ _ hab hbc
    | true => exact htrans _ _ _ hbc hab
  · rw [Bool.or_eq_true, decide_eq_true_iff, decide_eq_true_iff]
    cases reverse with
    | false => exact htotal _ _
    | true => exact htotal _ _

/-- The comparison of numbers. -/
def numberComparator (lhs rhs : Nat) : Int := (lhs : Int) - (rhs : Int)

theorem sorts_numbers : Sorts mergeQsort numberComparator :=
  sorts_mergeSort (fun _ _ _ hxy hyz => by unfold numberComparator at *; omega)
    (fun _ _ => by unfold numberComparator; omega)

theorem operations_right_numbers :
    Throughout (step mergeQsort numberComparator) Queue.Wf Queue.empty
      [.add 2 true, .addTail 1 true, .sort false true, .remove 2 false] :=
  (operations_right sorts_numbers _).1

/-- The list of 1 and 2. -/
def oneTwo : { l : SingleList Nat // Queue.Wf l } :=
  ⟨((Queue.empty.push 2).push 1), ⟨_, (Queue.Holds.empty.push 2).push 1⟩⟩

/-- Appended to an empty list, 1 and 2 come the other way round. -/
theorem append_reverses :
    ¬ ∀ qsort, Sorts qsort numberComparator → ∀ ops : List (Op Nat),
      Meets (step qsort numberComparator)
        (fun l op => Right numberComparator l op (apply qsort numberComparator l op))
        Queue.empty ops := by
  intro hright
  have hfirst := (hright mergeQsort sorts_numbers [.append (some oneTwo) fun _ => true]).1
  have helements := (right_of_done (by decide)).mp hfirst
  exact absurd (show _ = _ from helements) (by decide)

end SingleList
end LocationStack
