import LocationStack.Postcard.MemoryStream
import Mathlib.Data.BitVec

/-! # The growth of an output stream

`OutMemoryStream` counts with natural numbers, and a write without room cannot be stated of it.  The
code counts with `size_t`, where a sum and a product wrap, and copies to wherever its pointer and
its cursor lead.  `OutMemoryStreamImpl` is the stream as the code has it, over a `size_t` of any
width, and a copy that leaves its block on either side has no result.

Up to `2 ^ 31` bytes the one represents the other (`append_represents`), if `size_t` has 32 bits or
more: the capacity is doubled only when the bytes to come do not fit, so it is below `2 ^ 31` then.
-/
namespace LocationStack.Postcard

/-- `memcpy` of the first `n` bytes of `src` to `dst`, from `offset` on. -/
def memcpy (dst : List UInt8) (offset : Nat) (src : List UInt8) (n : Nat) : Option (List UInt8) :=
  if offset + n ≤ dst.length ∧ n ≤ src.length then
    some (dst.take offset ++ src.take n ++ dst.drop (offset + n))
  else none

/-- The block alone. -/
def Allocator.block (alloc : Allocator) (n : Nat) : Option (List UInt8) := (alloc n).map Subtype.val

/-- `OutMemoryStreamImpl`, with a `size_t` of `w` bits.  `m_pData` is the block it points to. -/
structure OutMemoryStreamImpl (w : Nat) where
  m_pData : Option (List UInt8)
  m_put_cursor : BitVec w
  m_capacity : BitVec w

namespace OutMemoryStreamImpl

variable {w : Nat}

/-- The constructor. -/
def new : OutMemoryStreamImpl w := ⟨none, 0, 0⟩

/-- The bytes that can be read behind `m_pData`. -/
def buffer (s : OutMemoryStreamImpl w) : List UInt8 := s.m_pData.getD []

/-- The first bytes of the buffer, up to the cursor. -/
def written (s : OutMemoryStreamImpl w) : List UInt8 := s.buffer.take s.m_put_cursor.toNat

/-- The `new_length` of `expand`; `min_length` is 64. -/
def newLength (s : OutMemoryStreamImpl w) (length : BitVec w) : BitVec w :=
  let new_length := s.m_put_cursor + length
  if new_length < 64 then 64
  else if new_length < s.m_capacity * 2 then s.m_capacity * 2
  else new_length

/-- A new buffer after the copy of the old one, if there is one. -/
def copyTo (s : OutMemoryStreamImpl w) (new_buffer : List UInt8) : Option (List UInt8) :=
  match s.m_pData with
  | none => some new_buffer
  | some data => memcpy new_buffer 0 data s.m_put_cursor.toNat

/-- `expand`. -/
def expand (alloc : Allocator) (s : OutMemoryStreamImpl w) (length : BitVec w) :
    Option (Int × OutMemoryStreamImpl w) :=
  if length ≤ 0 then some (2, s)
  else if length < s.m_capacity - s.m_put_cursor then some (0, s)
  else
    match alloc.block (s.newLength length).toNat with
    | none => some (3, s)
    | some new_buffer =>
      (s.copyTo new_buffer).map fun new_buffer =>
        (0, { s with m_pData := some new_buffer, m_capacity := s.newLength length })

/-- `append` of the first `length` bytes behind `pData`. -/
def append (alloc : Allocator) (s : OutMemoryStreamImpl w) (pData : List UInt8)
    (length : BitVec w) : Option (Int × OutMemoryStreamImpl w) :=
  (s.expand alloc length).bind fun r =>
    if r.1 ≠ 0 then some (2, r.2)
    else
      match r.2.m_pData with
      | none => none
      | some data =>
        (memcpy data r.2.m_put_cursor.toNat pData length.toNat).map fun copied =>
          (0, { r.2 with m_pData := some copied, m_put_cursor := r.2.m_put_cursor + length })

/-! ## Refusals -/

/-- A stream that cannot make room is the one it was. -/
theorem expand_refused {alloc : Allocator} {s : OutMemoryStreamImpl w} {length : BitVec w}
    {r : Int × OutMemoryStreamImpl w} (hr : s.expand alloc length = some r) (hne : r.1 ≠ 0) :
    r.2 = s := by
  unfold expand at hr
  split at hr
  · rw [← Option.some.inj hr]
  · split at hr
    · rw [← Option.some.inj hr]
    · split at hr
      · rw [← Option.some.inj hr]
      · obtain ⟨copied, _, rfl⟩ := Option.map_eq_some_iff.mp hr
        exact absurd rfl hne

theorem append_refused {alloc : Allocator} {s : OutMemoryStreamImpl w} {pData : List UInt8}
    {length : BitVec w} {r : Int × OutMemoryStreamImpl w}
    (hr : s.append alloc pData length = some r) (hne : r.1 ≠ 0) : r.2 = s := by
  obtain ⟨grown, hgrown, hr⟩ := Option.bind_eq_some_iff.mp hr
  split at hr
  · have hsame := expand_refused hgrown ‹grown.1 ≠ 0›
    rw [← Option.some.inj hr]
    exact hsame
  · split at hr
    · cases hr
    · obtain ⟨copied, _, rfl⟩ := Option.map_eq_some_iff.mp hr
      exact absurd rfl hne

/-! ## The stream it represents -/

/-- The stream of the code stands for the one that counts with natural numbers. -/
structure Represents (s : OutMemoryStreamImpl w) (t : OutMemoryStream) : Prop where
  buffer : s.buffer = t.pData
  cursor : s.m_put_cursor.toNat = t.putCursor
  capacity : s.m_capacity.toNat = t.capacity

theorem new_represents : (new : OutMemoryStreamImpl w).Represents .new :=
  ⟨rfl, BitVec.toNat_ofNat .., BitVec.toNat_ofNat ..⟩

variable {s : OutMemoryStreamImpl w} {t : OutMemoryStream}

theorem Represents.written (h : s.Represents t) : s.written = t.contents := by
  rw [OutMemoryStreamImpl.written, h.buffer, h.cursor]
  rfl

/-- What is left of the capacity does not wrap, as the cursor is in it. -/
theorem Represents.spaceLeft (h : s.Represents t) :
    (s.m_capacity - s.m_put_cursor).toNat = t.capacity - t.putCursor := by
  have hle : s.m_put_cursor ≤ s.m_capacity := by
    rw [BitVec.le_def, h.cursor, h.capacity]
    exact t.putCursor_le
  rw [BitVec.toNat_sub_of_le hle, h.cursor, h.capacity]

/-- The length of the new block does not wrap, where one is needed. -/
theorem Represents.newLength (hw : 32 ≤ w) (h : s.Represents t) {length : BitVec w}
    (hfull : t.capacity - t.putCursor ≤ length.toNat)
    (hfits : t.putCursor + length.toNat < 2 ^ 31) :
    (s.newLength length).toNat = t.newLength length.toNat := by
  have hle : t.putCursor ≤ t.capacity := t.putCursor_le
  have hpow : 2 ^ 32 ≤ 2 ^ w := Nat.pow_le_pow_right (by omega) hw
  have hsum : (s.m_put_cursor + length).toNat = t.putCursor + length.toNat := by
    rw [BitVec.toNat_add, h.cursor]
    exact Nat.mod_eq_of_lt (by omega)
  have htwo : (2 : BitVec w).toNat = 2 :=
    (BitVec.toNat_ofNat 2 w).trans (Nat.mod_eq_of_lt (by omega))
  have htwice : (s.m_capacity * 2).toNat = t.capacity * 2 := by
    rw [BitVec.toNat_mul, h.capacity, htwo]
    exact Nat.mod_eq_of_lt (by omega)
  have hmin : (64 : BitVec w).toNat = 64 :=
    (BitVec.toNat_ofNat 64 w).trans (Nat.mod_eq_of_lt (by omega))
  unfold OutMemoryStreamImpl.newLength OutMemoryStream.newLength OutMemoryStream.minLength
  simp only [BitVec.lt_def, hsum, htwice, hmin]
  split
  · exact hmin
  · split
    · exact htwice
    · exact hsum

/-- What has been written is copied to the new block, which has room for it. -/
theorem Represents.copyTo (h : s.Represents t) {block : List UInt8}
    (hroom : t.putCursor ≤ block.length) :
    s.copyTo block = some (t.moveTo block hroom).pData := by
  have hle := t.putCursor_le
  have hbuffer := h.buffer
  unfold OutMemoryStreamImpl.buffer at hbuffer
  unfold OutMemoryStreamImpl.copyTo OutMemoryStream.moveTo OutMemoryStream.contents
  cases hdata : s.m_pData with
  | none =>
    rw [hdata, Option.getD_none] at hbuffer
    have hzero : t.putCursor = 0 := by
      rw [← hbuffer] at hle
      exact Nat.le_zero.mp hle
    simp [hzero]
  | some data =>
    rw [hdata, Option.getD_some] at hbuffer
    subst hbuffer
    show memcpy block 0 t.pData s.m_put_cursor.toNat = _
    rw [memcpy, h.cursor, if_pos ⟨by omega, hle⟩, List.take_zero, List.nil_append, Nat.zero_add]

/-- **Making room.**  The code does what the stream with natural numbers does, and leaves no
block. -/
theorem expand_represents (hw : 32 ≤ w) (h : s.Represents t) (alloc : Allocator)
    {length : BitVec w} (hfits : t.putCursor + length.toNat < 2 ^ 31) :
    ∃ r, s.expand alloc length = some r ∧ r.1 = (t.expand alloc length.toNat).1 ∧
      r.2.Represents (t.expand alloc length.toNat).2 := by
  unfold OutMemoryStreamImpl.expand OutMemoryStream.expand Allocator.block
  by_cases hzero : length.toNat = 0
  · have hle : length ≤ 0 := by
      rw [BitVec.le_def, hzero]
      exact Nat.zero_le _
    rw [if_pos hle, if_pos hzero]
    exact ⟨_, rfl, rfl, h⟩
  have hpos : ¬length ≤ 0 := by
    rw [BitVec.le_def]
    exact fun hle => hzero (Nat.le_zero.mp hle)
  rw [if_neg hpos, if_neg hzero]
  simp only [BitVec.lt_def, h.spaceLeft]
  by_cases hroom : length.toNat < t.capacity - t.putCursor
  · rw [if_pos hroom, if_pos hroom]
    exact ⟨_, rfl, rfl, h⟩
  rw [if_neg hroom, if_neg hroom, h.newLength hw (Nat.not_lt.mp hroom) hfits]
  cases halloc : alloc (t.newLength length.toNat) with
  | none => exact ⟨_, rfl, rfl, h⟩
  | some block =>
    have hblock := block.2
    have hnew := t.le_newLength length.toNat
    have hcursor : t.putCursor ≤ block.1.length := by omega
    refine ⟨(0, { s with
        m_pData := some (t.moveTo block.1 hcursor).pData
        m_capacity := s.newLength length }), ?_, rfl, rfl, h.cursor, ?_⟩
    · show (s.copyTo block.1).map _ = _
      rw [h.copyTo hcursor]
      rfl
    · show (s.newLength length).toNat = (t.moveTo block.1 hcursor).capacity
      rw [t.moveTo_capacity, hblock, h.newLength hw (Nat.not_lt.mp hroom) hfits]

/-- The buffer of a stream with room is not the null pointer. -/
theorem Represents.pData (h : s.Represents t) (hpos : 0 < t.pData.length) :
    s.m_pData = some t.pData := by
  have hbuffer := h.buffer
  unfold OutMemoryStreamImpl.buffer at hbuffer
  cases hdata : s.m_pData with
  | none =>
    rw [hdata, Option.getD_none] at hbuffer
    rw [← hbuffer] at hpos
    exact absurd hpos (Nat.lt_irrefl 0)
  | some data =>
    rw [hdata, Option.getD_some] at hbuffer
    rw [hbuffer]

/-- The bytes are copied behind those there are, in the block and without a wrap of the cursor. -/
theorem Represents.write (hw : 32 ≤ w) (h : s.Represents t) {pData data : List UInt8}
    {length : BitVec w} (hdata : pData.take length.toNat = data)
    (hlength : data.length = length.toNat) (hroom : t.putCursor + data.length ≤ t.pData.length)
    (hfits : t.putCursor + length.toNat < 2 ^ 31) :
    memcpy t.pData s.m_put_cursor.toNat pData length.toNat = some (t.write data hroom).pData ∧
      ({ s with
        m_pData := some (t.write data hroom).pData
        m_put_cursor := s.m_put_cursor + length } : OutMemoryStreamImpl w).Represents
          (t.write data hroom) := by
  have hpow : 2 ^ 32 ≤ 2 ^ w := Nat.pow_le_pow_right (by omega) hw
  have hreadable : length.toNat ≤ pData.length := by
    rw [← hdata, List.length_take] at hlength
    omega
  refine ⟨?_, rfl, ?_, ?_⟩
  · rw [memcpy, h.cursor, if_pos ⟨by omega, hreadable⟩, hdata, ← hlength]
    rfl
  · show (s.m_put_cursor + length).toNat = t.putCursor + data.length
    rw [BitVec.toNat_add, h.cursor, hlength]
    exact Nat.mod_eq_of_lt (by omega)
  · exact h.capacity.trans (t.write_capacity data hroom).symm

/-- **An append.** -/
theorem append_represents (hw : 32 ≤ w) (h : s.Represents t) (alloc : Allocator)
    {pData : List UInt8} {length : BitVec w} (hreadable : length.toNat ≤ pData.length)
    (hfits : t.putCursor + length.toNat < 2 ^ 31) :
    ∃ r, s.append alloc pData length = some r ∧
      r.1 = (t.append alloc (pData.take length.toNat)).1 ∧
      r.2.Represents (t.append alloc (pData.take length.toNat)).2 := by
  obtain ⟨data, hdata⟩ : ∃ data, pData.take length.toNat = data := ⟨_, rfl⟩
  have hlength : data.length = length.toNat := by
    rw [← hdata, List.length_take]
    omega
  obtain ⟨grown, hgrown, hcode, hrepr⟩ := expand_represents hw h alloc hfits
  rw [← hlength] at hcode hrepr
  rw [hdata]
  unfold OutMemoryStreamImpl.append OutMemoryStream.append
  rw [hgrown, Option.bind_some, hcode]
  rcases t.expand_cases alloc data.length with ⟨hne, _⟩ | ⟨hzero, hpos, _, hcursor, hroom⟩
  · rw [if_pos hne, dif_neg hne]
    exact ⟨_, rfl, rfl, hrepr⟩
  · rw [← hcursor] at hroom
    obtain ⟨hcopied, hwritten⟩ := hrepr.write hw hdata hlength hroom (by omega)
    rw [if_neg (not_not_intro hzero), dif_pos hzero, hrepr.pData (by omega)]
    dsimp only
    rw [hcopied]
    exact ⟨_, rfl, rfl, hwritten⟩

/-! ## Runs -/

/-- A call of `append`: what the allocations during it give, and where the bytes are read. -/
structure AppendCall (w : Nat) where
  alloc : Allocator
  pData : List UInt8
  length : BitVec w
  readable : length.toNat ≤ pData.length

/-- The bytes it is to append. -/
def AppendCall.bytes (c : AppendCall w) : List UInt8 := c.pData.take c.length.toNat

/-- No allocation of a size that 32 bits hold fails. -/
def AppendCall.Allocates (c : AppendCall w) : Prop := ∀ n < 2 ^ 32, (c.alloc n).isSome

/-- The bytes that calls are to append. -/
def appended (calls : List (AppendCall w)) : List UInt8 := calls.flatMap AppendCall.bytes

/-- The stream after calls of `append`. -/
def run (s : OutMemoryStreamImpl w) : List (AppendCall w) → Option (OutMemoryStreamImpl w)
  | [] => some s
  | c :: rest => (s.append c.alloc c.pData c.length).bind fun r => run r.2 rest

theorem AppendCall.length_bytes (c : AppendCall w) : c.bytes.length = c.length.toNat := by
  have := c.readable
  rw [AppendCall.bytes, List.length_take]
  omega

/-- **A call.** -/
theorem Represents.append (hw : 32 ≤ w) (h : s.Represents t) {c : AppendCall w}
    (halloc : c.Allocates) (hfits : t.putCursor + c.length.toNat < 2 ^ 31) :
    ∃ r t', s.append c.alloc c.pData c.length = some r ∧ r.2.Represents t' ∧
      t'.contents = t.contents ++ c.bytes := by
  obtain ⟨r, hr, _, hrepr⟩ := append_represents hw h c.alloc c.readable hfits
  have hbytes : t.putCursor + c.bytes.length < 2 ^ 31 := by
    rw [c.length_bytes]
    exact hfits
  refine ⟨r, (t.append c.alloc c.bytes).2, hr, hrepr, ?_⟩
  exact OutMemoryStream.append_contents fun hfull =>
    halloc _ (OutMemoryStream.newLength_lt hfull hbytes)

/-- **A run.**  The stream keeps representing one that has the bytes of all the calls. -/
theorem Represents.run (hw : 32 ≤ w) (h : s.Represents t) {calls : List (AppendCall w)}
    (halloc : ∀ c ∈ calls, c.Allocates)
    (hfits : (t.contents ++ appended calls).length < 2 ^ 31) :
    ∃ s' t', s.run calls = some s' ∧ s'.Represents t' ∧
      t'.contents = t.contents ++ appended calls := by
  induction calls generalizing s t with
  | nil => exact ⟨s, t, rfl, h, (List.append_nil _).symm⟩
  | cons c rest ih =>
    have hall : t.contents ++ appended (c :: rest) = (t.contents ++ c.bytes) ++ appended rest := by
      rw [appended, List.flatMap_cons, List.append_assoc]
      rfl
    rw [hall] at hfits ⊢
    have hcursor : t.putCursor + c.length.toNat < 2 ^ 31 := by
      rw [List.length_append, List.length_append, t.contents_length, c.length_bytes] at hfits
      show t.getSize + _ < _
      omega
    obtain ⟨r, t', hr, hrepr, hcontents⟩ := h.append hw (halloc c (List.mem_cons_self ..)) hcursor
    rw [← hcontents] at hfits ⊢
    obtain ⟨s'', t'', hrun, hrest⟩ :=
      ih hrepr (fun c hc => halloc c (List.mem_cons_of_mem _ hc)) hfits
    refine ⟨s'', t'', ?_, hrest⟩
    rw [OutMemoryStreamImpl.run, hr]
    exact hrun

/-- The stream has the bytes, and its cursor is within what it has allocated. -/
structure Holds (s : OutMemoryStreamImpl w) (bytes : List UInt8) : Prop where
  cursor_le : s.m_put_cursor ≤ s.m_capacity
  allocated : s.buffer.length = s.m_capacity.toNat
  cursor : s.m_put_cursor.toNat = bytes.length
  written : s.written = bytes

theorem Represents.holds (h : s.Represents t) : s.Holds t.contents := by
  refine ⟨?_, ?_, ?_, h.written⟩
  · rw [BitVec.le_def, h.cursor, h.capacity]
    exact t.putCursor_le
  · rw [h.buffer, h.capacity]
    rfl
  · rw [h.cursor, t.contents_length]
    rfl

/-- **The output stream.**  After each of any calls of `append` with fewer than `2 ^ 31` bytes in
all, and with a `size_t` of 32 bits or more, the cursor is within the capacity and the first bytes
are those appended so far, in order.  A growth of the buffer keeps them, and a refused append keeps
the stream as it is, whatever the allocations give then. -/
theorem appends_held (hw : 32 ≤ w) {calls : List (AppendCall w)}
    (halloc : ∀ c ∈ calls, c.Allocates) (htotal : (appended calls).length < 2 ^ 31)
    {sofar rest : List (AppendCall w)} (hcalls : calls = sofar ++ rest) :
    ∃ s, (new : OutMemoryStreamImpl w).run sofar = some s ∧ s.Holds (appended sofar) ∧
      (∀ alloc length, (appended sofar).length + length.toNat < 2 ^ 31 →
        ∃ r, s.expand alloc length = some r ∧ r.2.Holds (appended sofar)) ∧
      ∀ c : AppendCall w, (appended sofar).length + c.length.toNat < 2 ^ 31 →
        ∃ r, s.append c.alloc c.pData c.length = some r ∧ (r.1 ≠ 0 → r.2 = s) := by
  subst hcalls
  have hsofar : (appended sofar).length < 2 ^ 31 := by
    rw [appended, List.flatMap_append, List.length_append] at htotal
    exact Nat.lt_of_le_of_lt (Nat.le_add_right _ _) htotal
  obtain ⟨s, t, hrun, hrepr, hcontents⟩ := new_represents.run hw
    (fun c hc => halloc c (List.mem_append_left _ hc)) hsofar
  have hheld : t.contents = appended sofar := hcontents
  have hcursor : (appended sofar).length = t.putCursor := by
    rw [← hheld, t.contents_length]
    rfl
  refine ⟨s, hrun, hheld ▸ hrepr.holds, fun alloc length hfits => ?_, fun c hfits => ?_⟩
  · obtain ⟨r, hr, _, hgrown⟩ := expand_represents hw hrepr alloc (hcursor ▸ hfits)
    refine ⟨r, hr, ?_⟩
    rw [← hheld]
    rcases t.expand_cases alloc length.toNat with ⟨_, hsame⟩ | ⟨_, _, hkept, _, _⟩
    · rw [hsame] at hgrown
      exact hgrown.holds
    · exact hkept ▸ hgrown.holds
  · obtain ⟨r, hr, _, _⟩ := append_represents hw hrepr c.alloc c.readable (hcursor ▸ hfits)
    exact ⟨r, hr, append_refused hr⟩

/-- Three bytes, none and two more, with a `size_t` of 64 bits and blocks of zeros. -/
def threeAppends : List (AppendCall 64) :=
  let zeros : Allocator := fun n => some ⟨List.replicate n 0, List.length_replicate⟩
  [⟨zeros, [1, 2, 3], 3, by decide⟩, ⟨zeros, [], 0, by decide⟩, ⟨zeros, [4, 5], 2, by decide⟩]

theorem threeAppends_held :
    ∃ s, (new : OutMemoryStreamImpl 64).run threeAppends = some s ∧ s.Holds [1, 2, 3, 4, 5] := by
  have halloc : ∀ c ∈ threeAppends, c.Allocates := by
    intro c hc n _
    simp only [threeAppends, List.mem_cons, List.not_mem_nil, or_false] at hc
    rcases hc with rfl | rfl | rfl <;> rfl
  obtain ⟨s, hrun, hheld, _⟩ := appends_held (by decide) halloc (by decide)
    (List.append_nil threeAppends).symm
  exact ⟨s, hrun, hheld⟩

end OutMemoryStreamImpl
end LocationStack.Postcard
