import Mathlib.Data.List.Basic
import Mathlib.Tactic.Common

/-! # Functions that record what they touch

Code that indexes a sequence it was given, writes an array of a fixed capacity or stores the
number of elements of one returns, beside its value, the list of these accesses.  An access is
recorded whether or not it is one that exists: reading past the end yields the default and
writing past the end leaves the array alone, but both stand in the record.

A function is within its bounds (`Logged.InBounds`) if every access of it exists.  For each
operation one lemma says exactly when that is so: in a sequence of two, if both are; in a loop,
if each round is, from the state that the rounds before it leave.
-/
namespace LocationStack

/-- What a function touches. -/
inductive Access
  /-- A sequence of `size` elements is read at `i`. -/
  | read (i size : Nat)
  /-- An array of `capacity` elements is written at `i`. -/
  | write (i capacity : Nat)
  /-- The number of elements of an array of `capacity` is stored. -/
  | count (n capacity : Nat)
  deriving Repr, DecidableEq

/-- The place exists. -/
def Access.Ok : Access → Prop
  | .read i size => i < size
  | .write i capacity => i < capacity
  | .count n capacity => n ≤ capacity

instance (a : Access) : Decidable a.Ok :=
  match a with
  | .read i size => inferInstanceAs (Decidable (i < size))
  | .write i capacity => inferInstanceAs (Decidable (i < capacity))
  | .count n capacity => inferInstanceAs (Decidable (n ≤ capacity))

/-- A value with the accesses that were made for it. -/
structure Logged (α : Type) where
  value : α
  accesses : List Access := []

namespace Logged

variable {α β σ : Type}

instance : Monad Logged where
  pure x := { value := x }
  bind x f := { value := (f x.value).value, accesses := x.accesses ++ (f x.value).accesses }

/-- Every access exists. -/
def InBounds (x : Logged α) : Prop :=
  ∀ a ∈ x.accesses, a.Ok

instance (x : Logged α) : Decidable x.InBounds :=
  inferInstanceAs (Decidable (∀ a ∈ x.accesses, a.Ok))

@[simp] theorem value_pure (x : α) : (pure x : Logged α).value = x := rfl

@[simp] theorem value_bind (x : Logged α) (f : α → Logged β) :
    (x >>= f).value = (f x.value).value := rfl

@[simp] theorem inBounds_pure (x : α) : (pure x : Logged α).InBounds :=
  fun _ h => absurd h List.not_mem_nil

@[simp] theorem inBounds_bind (x : Logged α) (f : α → Logged β) :
    (x >>= f).InBounds ↔ x.InBounds ∧ (f x.value).InBounds :=
  List.forall_mem_append

/-- What is made of the result adds no access. -/
theorem inBounds_bind_pure (x : Logged α) (f : α → β) :
    (x >>= fun y => pure (f y)).InBounds ↔ x.InBounds := by
  rw [inBounds_bind]
  exact and_iff_left (inBounds_pure _)

theorem inBounds_ite (c : Prop) [Decidable c] (x y : Logged α) :
    (if c then x else y).InBounds ↔ (c → x.InBounds) ∧ (¬ c → y.InBounds) := by
  split <;> simp_all

/-! ## The accesses -/

/-- A sequence is read at `i`. -/
def read [Inhabited α] (src : List α) (i : Nat) : Logged α where
  value := src.getD i default
  accesses := [.read i src.length]

/-- An array is written at `i`. -/
def write {n : Nat} (dst : Vector α n) (i : Nat) (x : α) : Logged (Vector α n) where
  value := dst.setIfInBounds i x
  accesses := [.write i n]

/-- The number of elements of an array is stored. -/
def count (n capacity : Nat) : Logged Unit where
  value := ()
  accesses := [.count n capacity]

@[simp] theorem value_read [Inhabited α] (src : List α) (i : Nat) :
    (read src i).value = src.getD i default := rfl

@[simp] theorem value_write {n : Nat} (dst : Vector α n) (i : Nat) (x : α) :
    (write dst i x).value = dst.setIfInBounds i x := rfl

@[simp] theorem inBounds_read [Inhabited α] (src : List α) (i : Nat) :
    (read src i).InBounds ↔ i < src.length :=
  List.forall_mem_singleton

@[simp] theorem inBounds_write {n : Nat} (dst : Vector α n) (i : Nat) (x : α) :
    (write dst i x).InBounds ↔ i < n :=
  List.forall_mem_singleton

@[simp] theorem inBounds_count (n capacity : Nat) : (count n capacity).InBounds ↔ n ≤ capacity :=
  List.forall_mem_singleton

/-! ## Loops -/

/-- `for (i = 0; i < n; i++)`, with the state that the body changes. -/
def upTo : Nat → (Nat → σ → Logged σ) → σ → Logged σ
  | 0, _, s => pure s
  | n + 1, body, s => do
    let s ← upTo n body s
    body n s

@[simp] theorem upTo_zero (body : Nat → σ → Logged σ) (s : σ) : upTo 0 body s = pure s := rfl

theorem upTo_succ (n : Nat) (body : Nat → σ → Logged σ) (s : σ) :
    upTo (n + 1) body s = upTo n body s >>= body n := rfl

/-- A loop is in bounds if each round is. -/
theorem inBounds_upTo (n : Nat) (body : Nat → σ → Logged σ) (s : σ) :
    (upTo n body s).InBounds ↔ ∀ i < n, (body i (upTo i body s).value).InBounds := by
  induction n with
  | zero => simp
  | succ n ih =>
    rw [upTo_succ, inBounds_bind, ih]
    constructor
    · rintro ⟨hbefore, hlast⟩ i hi
      rcases Nat.lt_succ_iff_lt_or_eq.mp hi with hlt | rfl
      · exact hbefore i hlt
      · exact hlast
    · intro h
      exact ⟨fun i hi => h i (Nat.lt_succ_of_lt hi), h n (Nat.lt_succ_self n)⟩

/-- Where the rounds do not depend on the state, no state is needed to say so. -/
theorem inBounds_upTo_iff {n : Nat} {body : Nat → σ → Logged σ} {P : Nat → Prop}
    (h : ∀ i s, (body i s).InBounds ↔ P i) (s : σ) :
    (upTo n body s).InBounds ↔ ∀ i < n, P i := by
  simp only [inBounds_upTo, h]

/-- `n` elements of a sequence are converted into the first places of an array. -/
def fill [Inhabited α] [Inhabited β] {capacity : Nat} (n : Nat) (src : List β)
    (conv : β → α → Logged α) : Vector α capacity → Logged (Vector α capacity) :=
  upTo n fun i dst => do
    let x ← read src i
    let y ← conv x (dst.toList.getD i default)
    write dst i y

/-- One element is appended in each of `n` rounds. -/
def push (n : Nat) (f : Nat → Logged α) : List α → Logged (List α) :=
  upTo n fun i dst => do
    let y ← f i
    pure (dst ++ [y])

/-- `n` elements of a sequence are converted and appended. -/
def append [Inhabited β] (n : Nat) (src : List β) (conv : β → Logged α) :
    List α → Logged (List α) :=
  push n fun i => do
    let x ← read src i
    conv x

theorem inBounds_push (n : Nat) (f : Nat → Logged α) (dst : List α) :
    (push n f dst).InBounds ↔ ∀ i < n, (f i).InBounds :=
  inBounds_upTo_iff (fun i dst => by
    rw [inBounds_bind]
    exact and_iff_left (inBounds_pure _)) dst

theorem value_push (n : Nat) (f : Nat → Logged α) (dst : List α) :
    (push n f dst).value = dst ++ (List.range n).map fun i => (f i).value := by
  induction n with
  | zero => simp [push]
  | succ n ih =>
    have hlast : (push (n + 1) f dst).value = (push n f dst).value ++ [(f n).value] := rfl
    rw [hlast, ih, List.range_succ, List.map_append, List.append_assoc]
    rfl

theorem forall_lt_lt_iff {n m : Nat} : (∀ i < n, i < m) ↔ n ≤ m :=
  ⟨fun h => Nat.le_of_not_lt fun hlt => absurd (h m hlt) (Nat.lt_irrefl m),
    fun h _ hi => Nat.lt_of_lt_of_le hi h⟩

theorem forall_lt_getD_iff [Inhabited β] {src : List β} {n : Nat} (h : n ≤ src.length)
    {P : β → Prop} : (∀ i < n, P (src.getD i default)) ↔ ∀ x ∈ src.take n, P x := by
  constructor
  · intro hall x hx
    obtain ⟨i, hi, rfl⟩ := List.mem_take_iff_getElem.mp hx
    have hlt : i < n := Nat.lt_of_lt_of_le hi (Nat.min_le_left _ _)
    simpa [Nat.lt_of_lt_of_le hlt h] using hall i hlt
  · intro hall i hi
    have hlt : i < src.length := Nat.lt_of_lt_of_le hi h
    have hget : src.getD i default = src[i] := by simp [hlt]
    rw [hget]
    exact hall _ (List.mem_take_iff_getElem.mpr ⟨i, Nat.lt_min.mpr ⟨hi, hlt⟩, rfl⟩)

section Copies

variable [Inhabited β] {capacity n : Nat} {src : List β} {P : β → Prop}

/-- A copy into an array is in bounds if there are `n` elements, there is room for them and their
conversions are in bounds. -/
theorem inBounds_fill [Inhabited α] {conv : β → α → Logged α} (h : ∀ x y, (conv x y).InBounds ↔ P x)
    (dst : Vector α capacity) :
    (fill n src conv dst).InBounds ↔
      n ≤ src.length ∧ n ≤ capacity ∧ ∀ x ∈ src.take n, P x := by
  have hround : ∀ i (dst : Vector α capacity), InBounds (do
      let x ← read src i
      let y ← conv x (dst.toList.getD i default)
      write dst i y) ↔ i < src.length ∧ P (src.getD i default) ∧ i < capacity := by
    intro i dst
    simp only [inBounds_bind, inBounds_read, value_read, h, inBounds_write]
  rw [fill, inBounds_upTo_iff hround]
  constructor
  · intro hall
    have hsrc : n ≤ src.length := forall_lt_lt_iff.mp fun i hi => (hall i hi).1
    exact ⟨hsrc, forall_lt_lt_iff.mp fun i hi => (hall i hi).2.2,
      (forall_lt_getD_iff hsrc).mp fun i hi => (hall i hi).2.1⟩
  · rintro ⟨hsrc, hdst, hall⟩ i hi
    exact ⟨Nat.lt_of_lt_of_le hi hsrc, (forall_lt_getD_iff hsrc).mpr hall i hi,
      Nat.lt_of_lt_of_le hi hdst⟩

theorem inBounds_append {conv : β → Logged α} (h : ∀ x, (conv x).InBounds ↔ P x)
    (dst : List α) :
    (append n src conv dst).InBounds ↔ n ≤ src.length ∧ ∀ x ∈ src.take n, P x := by
  simp only [append, inBounds_push, inBounds_bind, inBounds_read, value_read, h]
  constructor
  · intro hall
    have hsrc : n ≤ src.length := forall_lt_lt_iff.mp fun i hi => (hall i hi).1
    exact ⟨hsrc, (forall_lt_getD_iff hsrc).mp fun i hi => (hall i hi).2⟩
  · rintro ⟨hsrc, hall⟩ i hi
    exact ⟨Nat.lt_of_lt_of_le hi hsrc, (forall_lt_getD_iff hsrc).mpr hall i hi⟩

/-- The first `n` places hold the converted elements, the others what they held. -/
theorem getElem_fill [Inhabited α] {conv : β → α → Logged α} (hn : n ≤ capacity)
    (dst : Vector α capacity) {i : Nat} (hi : i < capacity) :
    (fill n src conv dst).value[i] =
      if i < n then (conv (src.getD i default) dst[i]).value else dst[i] := by
  induction n generalizing i with
  | zero => rfl
  | succ n ih =>
    have hlast : n < capacity := hn
    -- The place that the round writes holds what it held at the start.
    have hold : (fill n src conv dst).value.toList.getD n default = dst[n] := by
      have h := ih (Nat.le_of_lt hlast) hlast
      rw [if_neg (Nat.lt_irrefl n)] at h
      simpa [hlast] using h
    have hvalue : (fill (n + 1) src conv dst).value =
        (fill n src conv dst).value.setIfInBounds n
          (conv (src.getD n default) dst[n]).value := by
      rw [← hold]
      rfl
    simp only [hvalue, Vector.getElem_setIfInBounds]
    rcases Nat.lt_trichotomy i n with hlt | rfl | hgt
    · rw [if_neg (Nat.ne_of_gt hlt), ih (Nat.le_of_lt hlast) hi, if_pos hlt,
        if_pos (Nat.lt_succ_of_lt hlt)]
    · rw [if_pos rfl, if_pos (Nat.lt_succ_self i)]
    · rw [if_neg (Nat.ne_of_lt hgt), ih (Nat.le_of_lt hlast) hi, if_neg (by omega),
        if_neg (by omega)]

theorem value_append {conv : β → Logged α} (hn : n ≤ src.length) (dst : List α) :
    (append n src conv dst).value = dst ++ (src.take n).map fun x => (conv x).value := by
  have hget : (List.range n).map (fun i => src.getD i default) = src.take n := by
    apply List.ext_getElem
    · simp [hn]
    · intro i hi hi'
      have hlt : i < src.length := by simp at hi; omega
      simp [hlt]
  rw [append, value_push, ← hget, List.map_map]
  rfl

/-- A list that was converted element by element and is converted back gives itself exactly if
each element does. -/
theorem value_append_map_iff {α : Type} {enc : α → β} {conv : β → Logged α} {xs : List α}
    (hn : n = xs.length) :
    (append n (xs.map enc) conv []).value = xs ↔ ∀ x ∈ xs, (conv (enc x)).value = x := by
  have hlen : n = (xs.map enc).length := hn.trans (List.length_map enc).symm
  rw [value_append (Nat.le_of_eq hlen), List.nil_append, hlen, List.take_length, List.map_map]
  conv_lhs => rhs; rw [← List.map_id xs]
  exact List.map_inj_left

end Copies

end Logged
end LocationStack
