import Mathlib.Algebra.Group.Nat.Defs
import Mathlib.Data.List.Basic

/-! # Memory streams

`OutMemoryStreamImpl` is a buffer that grows as bytes are appended, and
`InMemoryStreamImpl` a cursor over a block of bytes.  A function returns its result
code first, and leaves the stream as the code does when it fails.
-/
namespace LocationStack.Postcard

/-- `new (std::nothrow) BYTE[n]`: a block of `n` bytes, whatever is in it, or none. -/
abbrev Allocator := (n : Nat) → Option { block : List UInt8 // block.length = n }

/-! ## The output stream -/

/-- `OutMemoryStreamImpl`.  `m_capacity` is the length of `m_pData`; the empty list is the
null pointer of a stream that has no buffer yet. -/
structure OutMemoryStream where
  pData : List UInt8
  putCursor : Nat
  putCursor_le : putCursor ≤ pData.length

namespace OutMemoryStream

/-- `min_length`. -/
def minLength : Nat := 64

/-- The constructor. -/
def new : OutMemoryStream := ⟨[], 0, Nat.le_refl 0⟩

/-- `m_capacity`. -/
def capacity (s : OutMemoryStream) : Nat := s.pData.length

/-- `getSize`. -/
def getSize (s : OutMemoryStream) : Nat := s.putCursor

/-- What has been written: the bytes `getBuffer` and `getSize` give access to. -/
def contents (s : OutMemoryStream) : List UInt8 := s.pData.take s.putCursor

/-- The `new_length` of `expand`. -/
def newLength (s : OutMemoryStream) (length : Nat) : Nat :=
  if s.putCursor + length < minLength then minLength
  else if s.putCursor + length < s.capacity * 2 then s.capacity * 2
  else s.putCursor + length

theorem le_newLength (s : OutMemoryStream) (length : Nat) :
    s.putCursor + length ≤ s.newLength length := by
  unfold newLength
  split
  · omega
  · split <;> omega

/-- A length below `2 ^ 31` that there is no room for leads to a block below `2 ^ 32`. -/
theorem newLength_lt {s : OutMemoryStream} {length : Nat}
    (hfull : s.capacity - s.putCursor ≤ length) (hfits : s.putCursor + length < 2 ^ 31) :
    s.newLength length < 2 ^ 32 := by
  have hle : s.putCursor ≤ s.capacity := s.putCursor_le
  unfold newLength minLength
  split
  · omega
  · split <;> omega

/-- The stream moves to a new block, which what has been written is copied to. -/
def moveTo (s : OutMemoryStream) (block : List UInt8) (h : s.putCursor ≤ block.length) :
    OutMemoryStream :=
  { pData := s.contents ++ block.drop s.putCursor
    putCursor := s.putCursor
    putCursor_le := by
      have := s.putCursor_le
      simp [contents]
      omega }

theorem moveTo_capacity (s : OutMemoryStream) (block : List UInt8)
    (h : s.putCursor ≤ block.length) : (s.moveTo block h).capacity = block.length := by
  have := s.putCursor_le
  simp only [capacity, moveTo, contents, List.length_append, List.length_take, List.length_drop]
  omega

/-- `expand`: makes room for `length` more bytes. -/
def expand (alloc : Allocator) (s : OutMemoryStream) (length : Nat) : Int × OutMemoryStream :=
  if length = 0 then (2, s)
  else if length < s.capacity - s.putCursor then (0, s)
  else
    match alloc (s.newLength length) with
    | none => (3, s)
    | some block =>
        (0, s.moveTo block.1 (by have := s.le_newLength length; have := block.2; omega))

/-- What `expand` does: it fails and changes nothing, or the stream has the same contents
and room for the bytes. -/
theorem expand_cases (alloc : Allocator) (s : OutMemoryStream) (length : Nat) :
    ((expand alloc s length).1 ≠ 0 ∧ (expand alloc s length).2 = s) ∨
    ((expand alloc s length).1 = 0 ∧ 0 < length ∧
      (expand alloc s length).2.contents = s.contents ∧
      (expand alloc s length).2.putCursor = s.putCursor ∧
      s.putCursor + length ≤ (expand alloc s length).2.pData.length) := by
  have hle := s.putCursor_le
  have hroom := s.le_newLength length
  unfold expand
  split
  · exact Or.inl ⟨by simp, rfl⟩
  · rename_i hpos
    split
    · rename_i hleft
      refine Or.inr ⟨rfl, Nat.pos_of_ne_zero hpos, rfl, rfl, ?_⟩
      have hleft' : length < s.pData.length - s.putCursor := hleft
      show s.putCursor + length ≤ s.pData.length
      omega
    · split
      · exact Or.inl ⟨by simp, rfl⟩
      · rename_i block _
        have hblock := block.2
        refine Or.inr ⟨rfl, Nat.pos_of_ne_zero hpos, ?_, rfl, ?_⟩
        · simp [moveTo, contents, hle]
        · simp only [moveTo, contents, List.length_append, List.length_take, List.length_drop]
          omega

/-- It makes room for some bytes, if it is given the block it asks for. -/
theorem expand_succeeds {alloc : Allocator} {s : OutMemoryStream} {length : Nat}
    (hpos : 0 < length)
    (halloc : s.capacity - s.putCursor ≤ length → (alloc (s.newLength length)).isSome) :
    (expand alloc s length).1 = 0 := by
  unfold expand
  rw [if_neg (Nat.pos_iff_ne_zero.mp hpos)]
  split
  · rfl
  · obtain ⟨block, hblock⟩ := Option.isSome_iff_exists.mp (halloc (Nat.not_lt.mp ‹_›))
    rw [hblock]

/-- `memcpy(m_pData + m_put_cursor, pData, length)`, and the cursor moves on. -/
def write (s : OutMemoryStream) (data : List UInt8)
    (h : s.putCursor + data.length ≤ s.pData.length) : OutMemoryStream :=
  { pData := s.contents ++ data ++ s.pData.drop (s.putCursor + data.length)
    putCursor := s.putCursor + data.length
    putCursor_le := by simp [contents]; omega }

theorem write_capacity (s : OutMemoryStream) (data : List UInt8)
    (h : s.putCursor + data.length ≤ s.pData.length) :
    (s.write data h).capacity = s.capacity := by
  simp only [capacity, write, contents, List.length_append, List.length_take, List.length_drop]
  omega

theorem write_contents (s : OutMemoryStream) (data : List UInt8)
    (h : s.putCursor + data.length ≤ s.pData.length) :
    (s.write data h).contents = s.contents ++ data := by
  have hlen : (s.contents ++ data).length = s.putCursor + data.length := by
    simp [contents]; omega
  simp only [write, contents] at hlen ⊢
  rw [← hlen, List.take_left']
  rfl

/-- `append`. -/
def append (alloc : Allocator) (s : OutMemoryStream) (data : List UInt8) :
    Int × OutMemoryStream :=
  let r := expand alloc s data.length
  if h : r.1 = 0 then
    (0, r.2.write data (by
      rcases expand_cases alloc s data.length with ⟨hne, _⟩ | ⟨_, _, _, hcursor, hroom⟩
      · exact absurd h hne
      · rw [hcursor]; exact hroom))
  else (2, r.2)

/-- What `append` does: it fails and changes nothing, or the bytes, which are some, come
after those already there. -/
theorem append_cases (alloc : Allocator) (s : OutMemoryStream) (data : List UInt8) :
    append alloc s data = (2, s) ∨
    ((append alloc s data).1 = 0 ∧ data ≠ [] ∧
      (append alloc s data).2.contents = s.contents ++ data) := by
  unfold append
  rcases expand_cases alloc s data.length with ⟨hne, hsame⟩ | ⟨hzero, hpos, hcontents, _, _⟩
  · refine Or.inl ?_
    simp only [hne, dif_neg, not_false_eq_true, hsame]
  · refine Or.inr ?_
    simp only [hzero, dif_pos, write_contents, hcontents, true_and, and_true]
    exact List.ne_nil_of_length_pos hpos

/-- Without a failing allocation the bytes come after those already there, also when there are
none and the append is refused. -/
theorem append_contents {alloc : Allocator} {s : OutMemoryStream} {data : List UInt8}
    (halloc : s.capacity - s.putCursor ≤ data.length →
      (alloc (s.newLength data.length)).isSome) :
    (append alloc s data).2.contents = s.contents ++ data := by
  rcases append_cases alloc s data with hrefused | ⟨_, _, hcontents⟩
  · rcases Nat.eq_zero_or_pos data.length with hzero | hpos
    · rw [hrefused, List.length_eq_zero_iff.mp hzero, List.append_nil]
    · have hroom := expand_succeeds hpos halloc
      unfold append at hrefused
      rw [dif_pos hroom] at hrefused
      cases hrefused
  · exact hcontents

@[simp] theorem contents_length (s : OutMemoryStream) : s.contents.length = s.getSize := by
  simp [contents, getSize, s.putCursor_le]

@[simp] theorem new_contents : new.contents = [] := rfl

/-- Several appends, until one fails; each comes with the code its caller then returns. -/
def appendAll (alloc : Allocator) : List (Int × List UInt8) → OutMemoryStream →
    Int × OutMemoryStream
  | [], s => (0, s)
  | (err, data) :: rest, s =>
      let r := append alloc s data
      if r.1 ≠ 0 then (err, r.2) else appendAll alloc rest r.2

/-- When no append fails, the contents are extended by all the bytes. -/
theorem appendAll_contents {alloc : Allocator} {parts : List (Int × List UInt8)}
    {s : OutMemoryStream} (herr : ∀ p ∈ parts, p.1 ≠ 0)
    (h : (appendAll alloc parts s).1 = 0) :
    (∀ p ∈ parts, p.2 ≠ []) ∧
      (appendAll alloc parts s).2.contents = s.contents ++ (parts.map Prod.snd).flatten := by
  induction parts generalizing s with
  | nil => simp [appendAll]
  | cons p rest ih =>
    obtain ⟨err, data⟩ := p
    unfold appendAll at h ⊢
    rcases append_cases alloc s data with hfail | ⟨hzero, hne, hcontents⟩
    · rw [hfail] at h
      exact absurd h (herr _ (List.mem_cons_self ..))
    · simp only [hzero, ne_eq, not_true_eq_false, if_false] at h ⊢
      obtain ⟨hrest, hih⟩ := ih (fun p hp => herr p (List.mem_cons_of_mem _ hp)) h
      refine ⟨?_, ?_⟩
      · intro p hp
        rcases List.mem_cons.mp hp with rfl | hp
        · exact hne
        · exact hrest p hp
      · rw [hih, hcontents]
        simp

end OutMemoryStream

/-! ## The input stream -/

/-- `InMemoryStreamImpl`.  `pData` is the memory from `m_pData` on, which may extend past
the `m_capacity` bytes that the stream was given; `none` is the null pointer. -/
structure InMemoryStream where
  pData : Option (List UInt8)
  getCursor : Nat
  capacity : Nat

namespace InMemoryStream

/-- `setBufferNoDup` on a new stream. -/
def setBufferNoDup (pIn : List UInt8) (length : Nat) : InMemoryStream :=
  { pData := some pIn, getCursor := 0, capacity := length }

/-- `setGetCursor`. -/
def setGetCursor (s : InMemoryStream) (cursor : Nat) : Int × InMemoryStream :=
  if cursor ≤ s.capacity then (0, { s with getCursor := cursor }) else (1, s)

/-- `extract`: the bytes read, and the stream after them; a caller that passes no
destination ignores the bytes. -/
def extract (s : InMemoryStream) (length : Nat) : Int × List UInt8 × InMemoryStream :=
  if length = 0 then (3, [], s)
  else
    match s.pData with
    | none => (4, [], s)
    | some mem =>
        if s.capacity - s.getCursor < length then (5, [], s)
        else
          (0, (mem.drop s.getCursor).take length, { s with getCursor := s.getCursor + length })

/-- A stream over `front ++ back` that stands after `front`. -/
def placed (capacity : Nat) (front back : List UInt8) : InMemoryStream :=
  { pData := some (front ++ back), getCursor := front.length, capacity := capacity }

@[simp] theorem placed_getCursor (capacity : Nat) (front back : List UInt8) :
    (placed capacity front back).getCursor = front.length := rfl

@[simp] theorem placed_capacity (capacity : Nat) (front back : List UInt8) :
    (placed capacity front back).capacity = capacity := rfl

/-- Extracting the bytes the stream stands before. -/
theorem extract_placed {capacity n : Nat} {front x back : List UInt8} (hx : x.length = n)
    (hpos : 0 < n) (hcap : front.length + n ≤ capacity) :
    (placed capacity front (x ++ back)).extract n =
      (0, x, placed capacity (front ++ x) back) := by
  have hroom : ¬ capacity - front.length < n := by omega
  unfold extract
  rw [if_neg (Nat.pos_iff_ne_zero.mp hpos)]
  show (if capacity - front.length < n then _ else _) = _
  rw [if_neg hroom]
  simp [placed, ← hx]

/-- `s'` is a later state of the stream `s`: over the same memory, with the cursor not
before where it was, nor past the capacity if it was not. -/
structure Advances (s s' : InMemoryStream) : Prop where
  pData : s'.pData = s.pData
  capacity : s'.capacity = s.capacity
  le : s.getCursor ≤ s'.getCursor
  within : s.getCursor ≤ s.capacity → s'.getCursor ≤ s.capacity

theorem Advances.refl (s : InMemoryStream) : Advances s s :=
  ⟨rfl, rfl, Nat.le_refl _, id⟩

theorem Advances.trans {s s' s'' : InMemoryStream} (h : Advances s s') (h' : Advances s' s'') :
    Advances s s'' :=
  ⟨h'.pData.trans h.pData, h'.capacity.trans h.capacity, Nat.le_trans h.le h'.le,
    fun hs => h.capacity ▸ h'.within (h.capacity ▸ h.within hs)⟩

theorem extract_advances (s : InMemoryStream) (length : Nat) :
    Advances s (s.extract length).2.2 := by
  unfold extract
  split
  · exact .refl s
  · split
    · exact .refl s
    · split
      · exact .refl s
      · refine ⟨rfl, rfl, Nat.le_add_right _ _, fun _ => ?_⟩
        simp only []
        omega

/-- A successful `extract` moves the cursor by the length, which is positive. -/
theorem extract_cursor {s : InMemoryStream} {length : Nat} (h : (s.extract length).1 = 0) :
    0 < length ∧ (s.extract length).2.2.getCursor = s.getCursor + length ∧
      s.getCursor + length ≤ s.capacity := by
  unfold extract at h ⊢
  split at h
  · cases h
  · split at h
    · cases h
    · split at h
      · cases h
      · rename_i hpos _ _ _ hroom
        simp only [hpos, hroom, if_false, true_and]
        omega

end InMemoryStream

end LocationStack.Postcard
