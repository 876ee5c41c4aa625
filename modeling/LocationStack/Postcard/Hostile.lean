import Mathlib.Logic.Relation
import LocationStack.Postcard.Reads
import LocationStack.Postcard.Scan

/-! # Decoding a hostile postcard

The bytes that a getter reads and gives are followed in a buffer whose contents are
arbitrary.  `Reached` are the offsets at which the scan of a getter comes to a field,
`Guarded` is what the buffer has to be like for the getter to stay inside the buffer and
the card, and `getter_stays_inside` tells that it stays inside exactly then.
-/
namespace LocationStack.Postcard

open LittleEndian InMemoryStream InPostcard Getter

/-! ## The layout of a buffer -/

/-- The end of the card: its recorded length, and the length itself. -/
def cardEnd (mem : List UInt8) : Nat := numAt mem 4 0 + 4

/-- The offset of the value of the field at `c`. -/
def valueOffset (mem : List UInt8) (c : Nat) : Nat := c + 4 + numAt mem 2 (c + 2)

/-- The end of a value of the type with this number at `v`, if it is one that the scan can
pass over. -/
def valueEnd (mem : List UInt8) (capacity type v : Nat) : Option Nat :=
  match FieldType.ofCode? type with
  | none | some .unknown => none
  | some (.simple t) => if v + t.size ≤ capacity then some (v + t.size) else none
  | some .string | some .card | some (.array _) | some .blob =>
      if 0 < numAt mem 4 v ∧ v + 4 + numAt mem 4 v ≤ capacity then
        some (v + 4 + numAt mem 4 v)
      else none

section

variable (mem : List UInt8) (capacity : Nat)

/-- A field of the card begins at `c`: it is not the end of the card, nor its last byte, and
the buffer has room for the type and the length of the name. -/
def FieldAt (c : Nat) : Prop :=
  c < cardEnd mem ∧ c + 1 ≠ cardEnd mem ∧ c + 4 ≤ capacity

/-- The buffer has room for the name of the field at `c`, and it is not of length 0. -/
def NameFits (c : Nat) : Prop :=
  0 < numAt mem 2 (c + 2) ∧ valueOffset mem c ≤ capacity

variable (type : Nat) (name : CString)

/-- The field at `c` has the type asked for, and a name of the length asked for. -/
def Asked (c : Nat) : Prop :=
  numAt mem 2 c = type ∧ numAt mem 2 (c + 2) = name.bytes.length + 1

/-- The field at `c` has the type and the name asked for. -/
def Matches (c : Nat) : Prop :=
  Asked mem type name c ∧ (mem.drop (c + 4)).take name.bytes.length = name.bytes

instance (c : Nat) : Decidable (FieldAt mem capacity c) := inferInstanceAs (Decidable (_ ∧ _))

instance (c : Nat) : Decidable (NameFits mem capacity c) := inferInstanceAs (Decidable (_ ∧ _))

instance (c : Nat) : Decidable (Asked mem type name c) := inferInstanceAs (Decidable (_ ∧ _))

instance (c : Nat) : Decidable (Matches mem type name c) := inferInstanceAs (Decidable (_ ∧ _))

/-- The buffer does not break off within the name asked for: it has room for that name after
the header of the field at `c`, or one of the bytes it has there differs. -/
def NameGuarded (c : Nat) : Prop :=
  c + 4 + name.bytes.length ≤ capacity ∨
    ∃ j, c + 4 + j < capacity ∧ j < name.bytes.length ∧ mem[c + 4 + j]? ≠ name.bytes[j]?

/-- The matching fields passed over after the field at `c`, if there were `k` before it. -/
def countAt (c : Nat) (k : Int) : Int := if Matches mem type name c then k + 1 else k

variable (index : Int)

/-- One field is passed over: it can be, and is not the one asked for. -/
inductive Passes : Nat × Int → Nat × Int → Prop
  | field {c c' : Nat} {k : Int} (hfield : FieldAt mem capacity c)
      (hfits : NameFits mem capacity c) (hother : ¬ (Matches mem type name c ∧ index = k))
      (hend : valueEnd mem capacity (numAt mem 2 c) (valueOffset mem c) = some c') :
      Passes (c, k) (c', countAt mem type name c k)

/-- From `a`, the scan for a type and a name comes to the offset of `b`, with as many
matching fields passed over. -/
def Reaches (a b : Nat × Int) : Prop :=
  Relation.ReflTransGen (Passes mem capacity type name index) a b

end

/-- The block at `v` has a length, and is in the buffer. -/
def BlockFits (mem : List UInt8) (capacity v : Nat) : Prop :=
  0 < numAt mem 4 v ∧ v + 4 + numAt mem 4 v ≤ capacity

/-- The getter gives a value at `v`: the block has a length and is in the buffer, and is
what the getter asks of it. -/
def Getter.Accepts (g : Getter) (mem : List UInt8) (capacity v : Nat) : Prop :=
  match g with
  | simple t => v + t.size ≤ capacity
  | blob => BlockFits mem capacity v
  | array t pGivenNumElem withArray =>
      BlockFits mem capacity v ∧ numAt mem 4 v % t.size = 0 ∧
        (withArray = true → ∀ given ∈ pGivenNumElem, toInt (numAt mem 4 v / t.size) ≤ given)
  | string => BlockFits mem capacity v ∧ (mem.drop (v + 4)).getD (numAt mem 4 v - 1) 0 = 0
  | stringDup allocated =>
      BlockFits mem capacity v ∧ (mem.drop (v + 4)).getD (numAt mem 4 v - 1) 0 = 0 ∧
        allocated = true
  | card created _ => BlockFits mem capacity v ∧ created.1 = true ∧ created.2 = true

/-- What the buffer has to be like for a getter to stay inside: no field that the scan comes
to has the type and the name's length asked for and a name that the buffer breaks off, and
what the field asked for gives ends with the card. -/
structure Guarded (g : Getter) (mem : List UInt8) (capacity : Nat) (name : CString) : Prop where
  names : ∀ c k, Reaches mem capacity g.fieldType.code name g.index (4, 0) (c, k) →
    FieldAt mem capacity c → Asked mem g.fieldType.code name c →
    NameGuarded mem capacity name c
  value : ∀ c, Reaches mem capacity g.fieldType.code name g.index (4, 0) (c, g.index) →
    FieldAt mem capacity c → NameFits mem capacity c → Matches mem g.fieldType.code name c →
    g.Accepts mem capacity (valueOffset mem c) →
    (g.place mem (valueOffset mem c)).1 + (g.place mem (valueOffset mem c)).2 ≤ cardEnd mem

/-- The call is not given up at once because of a null pointer. -/
def Getter.Looks : Getter → Prop
  | array _ pGivenNumElem _ => pGivenNumElem ≠ none
  | _ => True

/-! ## One iteration -/

section

variable {mem : List UInt8} {capacity c : Nat}

/-- The stream over the buffer that stands at `c`. -/
def streamAt (mem : List UInt8) (capacity c : Nat) : InMemoryStream := ⟨some mem, c, capacity⟩

@[simp] theorem streamAt_getCursor (mem : List UInt8) (capacity c : Nat) :
    (streamAt mem capacity c).getCursor = c := rfl

theorem extract_streamAt (mem : List UInt8) (capacity c n : Nat) (hpos : 0 < n)
    (hroom : c + n ≤ capacity) :
    (streamAt mem capacity c).extract n =
      (0, (mem.drop c).take n, streamAt mem capacity (c + n)) := by
  have hleft : ¬ capacity - c < n := by omega
  simp [extract, streamAt, hleft, Nat.pos_iff_ne_zero.mp hpos]

theorem extract_streamAt_fails (mem : List UInt8) (capacity c n : Nat)
    (h : n = 0 ∨ capacity < c + n) :
    ((streamAt mem capacity c).extract n).1 ≠ 0 ∧
      ((streamAt mem capacity c).extract n).2 = ([], streamAt mem capacity c) := by
  unfold extract
  by_cases hzero : n = 0
  · simp [hzero]
  · have hleft : capacity - c < n := by omega
    simp [streamAt, hzero, hleft]

/-- `extract` reads nothing outside the buffer. -/
theorem extractReads_lt {s : InMemoryStream} {n : Nat} :
    ∀ i ∈ s.extractReads n, i < s.capacity := by
  intro i hi
  unfold extractReads at hi
  split at hi
  · rename_i hok
    have hroom := (extract_cursor hok).2.2
    have := List.mem_range'_1.mp hi
    omega
  · simp at hi

theorem numAt_lt (width : Nat) : numAt mem width c < 256 ^ width :=
  Nat.lt_of_lt_of_le (ofLeBytes_lt _)
    (Nat.pow_le_pow_right (by decide) (by rw [List.length_take]; exact Nat.min_le_left _ _))

/-- The result of passing over something: the stream stands at its end, or there was an
error. -/
def Ends (mem : List UInt8) (capacity : Nat) (r : Int × InMemoryStream) : Option Nat → Prop
  | some e => r = (0, streamAt mem capacity e)
  | none => r.1 ≠ 0

theorem skipValue_ends (mem : List UInt8) (capacity c n : Nat) :
    Ends mem capacity (skipValue (streamAt mem capacity c) n)
      (if 0 < n ∧ c + n ≤ capacity then some (c + n) else none) := by
  unfold skipValue
  by_cases hpos : 0 < n
  · by_cases hroom : c + n ≤ capacity
    · simp [extract_streamAt _ _ _ _ hpos hroom, Nat.pos_iff_ne_zero.mp hpos, hroom, hpos, Ends]
    · obtain ⟨hrc, _⟩ := extract_streamAt_fails mem capacity c n (Or.inr (by omega))
      simp [hrc, hroom, Nat.pos_iff_ne_zero.mp hpos, Ends]
  · simp [Nat.eq_zero_of_not_pos hpos, Ends]

/-- Passing over a length and as many bytes, where `f` is what is done after the length. -/
theorem skipBlock_ends (mem : List UInt8) (capacity c : Nat) (err : Int) (herr : err ≠ 0)
    {f : Nat → InMemoryStream → Int × InMemoryStream}
    (hf : ∀ n s, f n s = skipValue s n ∨ n = 0 ∧ (f n s).1 ≠ 0) :
    Ends mem capacity
      (let (rc, bytes, s) := (streamAt mem capacity c).extract 4
        if rc ≠ 0 then (err, s) else f (ofLeBytes bytes) s)
      (if 0 < numAt mem 4 c ∧ c + 4 + numAt mem 4 c ≤ capacity then
        some (c + 4 + numAt mem 4 c)
      else none) := by
  by_cases hroom : c + 4 ≤ capacity
  · rw [extract_streamAt _ _ _ _ (by decide) hroom]
    simp only [ne_eq, not_true_eq_false, if_false]
    rcases hf (numAt mem 4 c) (streamAt mem capacity (c + 4)) with hskip | ⟨hzero, hrc⟩
    · have hends := skipValue_ends mem capacity (c + 4) (numAt mem 4 c)
      rw [← hskip] at hends
      exact hends
    · rw [if_neg (by omega)]
      exact hrc
  · obtain ⟨hrc, _⟩ := extract_streamAt_fails mem capacity c 4 (Or.inr (by omega))
    rw [if_neg (by omega)]
    simp [Ends, hrc, herr]

/-- Passing over a value comes to its end. -/
theorem skipValueByType_ends (mem : List UInt8) (capacity c type : Nat) :
    Ends mem capacity (skipValueByType (streamAt mem capacity c) type)
      (valueEnd mem capacity type c) := by
  have hfronted : Ends mem capacity _ _ :=
    skipBlock_ends mem capacity c 104 (by decide)
      (f := fun n s => skipValue s n) (fun n s => Or.inl rfl)
  have hnul : Ends mem capacity _ _ :=
    skipBlock_ends mem capacity c 102 (by decide)
      (f := fun n s => if n ≥ 1 then skipValue s n else (103, s)) (by
        intro n s
        by_cases hn : n ≥ 1
        · simp [hn]
        · exact Or.inr ⟨by omega, by simp [hn]⟩)
  unfold valueEnd skipValueByType
  rcases FieldType.ofCode? type with _ | _ | _ | t | _ | _ | t
  · simp [Ends]
  · simp [Ends]
  · exact hnul
  · have hends := skipValue_ends mem capacity c t.size
    simpa only [t.size_pos, true_and] using hends
  · exact hnul
  · exact hfronted
  · exact hfronted

variable {type : Nat} {name : CString} {index k : Int}

/-- What `findField` compares a name with at `c`, after the header. -/
theorem nameAtCursor_streamAt :
    nameAtCursor (streamAt mem capacity c) name =
      decide ((mem.drop c).take name.bytes.length = name.bytes) := by
  rw [Bool.eq_iff_iff]
  simp [nameAtCursor, streamAt]

theorem isAsked_streamAt :
    (type == numAt mem 2 c && numAt mem 2 (c + 2) == name.bytes.length + 1) =
      decide (Asked mem type name c) := by
  rw [Bool.eq_iff_iff, decide_eq_true_iff]
  simp only [Bool.and_eq_true, beq_iff_eq, Asked, eq_comm (a := type)]

theorem isNameMatching_streamAt :
    (type == numAt mem 2 c && numAt mem 2 (c + 2) == name.bytes.length + 1 &&
        nameAtCursor (streamAt mem capacity (c + 4)) name) =
      decide (Matches mem type name c) := by
  rw [nameAtCursor_streamAt, isAsked_streamAt, Bool.eq_iff_iff, decide_eq_true_iff, Matches,
    Bool.and_eq_true, decide_eq_true_iff, decide_eq_true_iff]

/-- Where no field begins, the scan ends without one. -/
theorem scanField_nofield (type : Nat) (name : CString) (index k : Int)
    (h : ¬ FieldAt mem capacity c) :
    ∃ rc s, scanField type name index (numAt mem 4 0) (streamAt mem capacity c) k = .stop rc s ∧
      rc ≠ 0 := by
  unfold scanField
  simp only [streamAt_getCursor]
  by_cases hlt : c < numAt mem 4 0 + 4
  · rw [if_pos hlt]
    by_cases hone : numAt mem 4 0 + 4 - c = 1
    · exact ⟨fieldNotFound, _, if_pos hone, by decide⟩
    · have hroom : ¬ c + 4 ≤ capacity := fun hroom => h ⟨hlt, by simp only [cardEnd]; omega, hroom⟩
      by_cases htype : c + 2 ≤ capacity
      · refine ⟨103, (streamAt mem capacity (c + 2)), ?_, by decide⟩
        have hlength := extract_streamAt_fails mem capacity (c + 2) 2 (Or.inr (by omega))
        rw [if_neg hone, extract_streamAt _ _ _ _ (by decide) htype]
        simp [hlength.1, hlength.2]
      · refine ⟨102, streamAt mem capacity c, ?_, by decide⟩
        have htype := extract_streamAt_fails mem capacity c 2 (Or.inr (by omega))
        rw [if_neg hone]
        simp [htype.1, htype.2]
  · exact ⟨101, _, if_neg hlt, by decide⟩

/-- An iteration at a field. -/
theorem scanField_field (type : Nat) (name : CString) (index k : Int)
    (h : FieldAt mem capacity c) :
    scanField type name index (numAt mem 4 0) (streamAt mem capacity c) k =
      if NameFits mem capacity c then
        if Matches mem type name c ∧ index = k then
          .stop 0 (streamAt mem capacity (valueOffset mem c))
        else
          let (rc, s) := skipValueByType (streamAt mem capacity (valueOffset mem c))
            (numAt mem 2 c)
          if rc ≠ 0 then .stop 105 s else .next s (countAt mem type name c k)
      else .stop 104 (streamAt mem capacity (c + 4)) := by
  obtain ⟨hlt, hmore, hhead⟩ := h
  have hmore' : ¬ numAt mem 4 0 + 4 - c = 1 := by simp only [cardEnd] at hlt hmore; omega
  unfold scanField
  simp only [streamAt_getCursor]
  rw [if_pos (show c < numAt mem 4 0 + 4 from hlt), if_neg hmore',
    extract_streamAt _ _ _ _ (by decide) (by omega)]
  simp only [ne_eq, not_true_eq_false, if_false]
  rw [extract_streamAt _ _ _ _ (by decide) (by omega)]
  simp only [not_true_eq_false, if_false, show ofLeBytes ((mem.drop c).take 2) = numAt mem 2 c
    from rfl, show ofLeBytes ((mem.drop (c + 2)).take 2) = numAt mem 2 (c + 2) from rfl,
    show c + 2 + 2 = c + 4 by omega, isNameMatching_streamAt]
  by_cases hfits : NameFits mem capacity c
  · rw [if_pos hfits, extract_streamAt _ _ _ _ hfits.1 hfits.2]
    by_cases hrc : (skipValueByType (streamAt mem capacity (valueOffset mem c))
        (numAt mem 2 c)).1 = 0 <;>
      simp_all [countAt, valueOffset]
  · rw [if_neg hfits]
    have hname := extract_streamAt_fails mem capacity (c + 4) (numAt mem 2 (c + 2))
      (by simp only [NameFits, valueOffset] at hfits; omega)
    simp [hname.1, hname.2]

/-- What an iteration reads is in the buffer if no field begins. -/
theorem scanFieldReads_nofield (h : ¬ FieldAt mem capacity c) :
    ∀ i ∈ scanFieldReads type name index (numAt mem 4 0) (streamAt mem capacity c) k,
      i < capacity := by
  intro i hi
  unfold scanFieldReads at hi
  simp only [streamAt_getCursor] at hi
  by_cases hlt : c < numAt mem 4 0 + 4
  · rw [if_pos hlt] at hi
    by_cases hone : numAt mem 4 0 + 4 - c = 1
    · rw [if_pos hone] at hi
      cases hi
    · have hroom : ¬ c + 4 ≤ capacity := fun hroom => h ⟨hlt, by simp only [cardEnd]; omega, hroom⟩
      rw [if_neg hone] at hi
      rcases List.mem_append.mp hi with hi | hi
      · exact extractReads_lt i hi
      · by_cases htype : c + 2 ≤ capacity
        · have hlength := extract_streamAt_fails mem capacity (c + 2) 2 (Or.inr (by omega))
          rw [extract_streamAt _ _ _ _ (by decide) htype] at hi
          simp only [ne_eq, not_true_eq_false, if_false, hlength.1, not_false_eq_true, if_true,
            List.append_nil] at hi
          exact extractReads_lt i hi
        · have htype := extract_streamAt_fails mem capacity c 2 (Or.inr (by omega))
          simp [htype.1] at hi
  · rw [if_neg hlt] at hi
    cases hi

theorem skipValueByTypeReads_lt {s : InMemoryStream} (type : Nat) :
    ∀ i ∈ skipValueByTypeReads s type, i < s.capacity := by
  intro i hi
  unfold skipValueByTypeReads at hi
  split at hi
  all_goals first | exact extractReads_lt i hi | cases hi

/-- What `strncmp` looks at is in the buffer if the name is guarded. -/
theorem nameAtCursorReads_iff (hc : c + 4 ≤ capacity) :
    (∀ i ∈ nameAtCursorReads (streamAt mem capacity (c + 4)) name, i < capacity) ↔
      NameGuarded mem capacity name c := by
  have hlen := strncmpLength_le name.bytes (mem.drop (c + 4)) (capacity - (c + 4))
  simp only [nameAtCursorReads, streamAt, Option.getD_some, List.mem_range'_1, NameGuarded,
    List.getElem?_drop] at hlen ⊢
  constructor
  · intro h
    have hle : strncmpLength name.bytes (mem.drop (c + 4)) ≤ capacity - (c + 4) := by
      by_contra hgt
      have := h capacity ⟨by omega, by omega⟩
      omega
    rcases hlen.mp hle with hfits | ⟨j, hj, hname, hne⟩
    · exact Or.inl (by omega)
    · exact Or.inr ⟨j, by omega, hname, hne⟩
  · intro h i hi
    have hle : strncmpLength name.bytes (mem.drop (c + 4)) ≤ capacity - (c + 4) := by
      apply hlen.mpr
      rcases h with hfits | ⟨j, hj, hname, hne⟩
      · exact Or.inl (by omega)
      · exact Or.inr ⟨j, by omega, hname, hne⟩
    omega

/-- What an iteration reads at a field: the header, the length of the value if it has one,
and what `strncmp` looks at. -/
theorem scanFieldReads_field (h : FieldAt mem capacity c) :
    (∀ i ∈ scanFieldReads type name index (numAt mem 4 0) (streamAt mem capacity c) k,
      i < capacity) ↔ (Asked mem type name c → NameGuarded mem capacity name c) := by
  obtain ⟨hlt, hmore, hhead⟩ := h
  have hmore' : ¬ numAt mem 4 0 + 4 - c = 1 := by simp only [cardEnd] at hlt hmore; omega
  rw [← nameAtCursorReads_iff hhead]
  unfold scanFieldReads
  simp only [streamAt_getCursor]
  rw [if_pos (show c < numAt mem 4 0 + 4 from hlt), if_neg hmore',
    extract_streamAt _ _ _ _ (by decide) (by omega)]
  simp only [ne_eq, not_true_eq_false, if_false]
  rw [extract_streamAt _ _ _ _ (by decide) (by omega)]
  simp only [not_true_eq_false, if_false, show ofLeBytes ((mem.drop c).take 2) = numAt mem 2 c
    from rfl, show ofLeBytes ((mem.drop (c + 2)).take 2) = numAt mem 2 (c + 2) from rfl,
    show c + 2 + 2 = c + 4 by omega, isAsked_streamAt, List.forall_mem_append]
  have hrest : ∀ i ∈ (if ¬ ((streamAt mem capacity (c + 4)).extract (numAt mem 2 (c + 2))).1 = 0
      then [] else if (decide (Asked mem type name c) &&
        nameAtCursor (streamAt mem capacity (c + 4)) name && index == k) = true then []
      else skipValueByTypeReads
        ((streamAt mem capacity (c + 4)).extract (numAt mem 2 (c + 2))).2.2 (numAt mem 2 c)),
      i < capacity := by
    intro i hi
    have hcap := ((streamAt mem capacity (c + 4)).extract_advances (numAt mem 2 (c + 2))).capacity
    split at hi
    · cases hi
    · split at hi
      · cases hi
      · have := skipValueByTypeReads_lt _ i hi
        rw [hcap] at this
        exact this
  constructor
  · intro hreads hasked
    rw [if_pos (decide_eq_true hasked)] at hreads
    exact hreads.2.2.1
  · intro hguard
    refine ⟨extractReads_lt, extractReads_lt, ?_, hrest⟩
    by_cases hasked : Asked mem type name c
    · rw [if_pos (decide_eq_true hasked)]
      exact hguard hasked
    · simp [hasked]

/-- The field asked for is at `c`. -/
def Found (mem : List UInt8) (capacity type : Nat) (name : CString) (c : Nat) : Prop :=
  FieldAt mem capacity c ∧ NameFits mem capacity c ∧ Matches mem type name c

/-- An iteration goes on past a field, or finds the one asked for, or ends with an error. -/
theorem scanField_cases (mem : List UInt8) (capacity type : Nat) (name : CString) (index : Int)
    (c : Nat) (k : Int) :
    (∃ c', Passes mem capacity type name index (c, k) (c', countAt mem type name c k) ∧
      scanField type name index (numAt mem 4 0) (streamAt mem capacity c) k =
        .next (streamAt mem capacity c') (countAt mem type name c k)) ∨
    ((∀ b, ¬ Passes mem capacity type name index (c, k) b) ∧
      ((Found mem capacity type name c ∧ index = k ∧
        scanField type name index (numAt mem 4 0) (streamAt mem capacity c) k =
          .stop 0 (streamAt mem capacity (valueOffset mem c))) ∨
      (¬ (Found mem capacity type name c ∧ index = k) ∧
        ∃ rc s, rc ≠ 0 ∧
          scanField type name index (numAt mem 4 0) (streamAt mem capacity c) k =
            .stop rc s))) := by
  by_cases hfield : FieldAt mem capacity c
  swap
  · obtain ⟨rc, s, hstop, hrc⟩ := scanField_nofield type name index k hfield
    exact Or.inr ⟨fun b hb => by cases hb; contradiction,
      Or.inr ⟨fun h => hfield h.1.1, rc, s, hrc, hstop⟩⟩
  have heq := scanField_field type name index k hfield
  by_cases hfits : NameFits mem capacity c
  swap
  · rw [if_neg hfits] at heq
    exact Or.inr ⟨fun b hb => by cases hb; contradiction,
      Or.inr ⟨fun h => hfits h.1.2.1, _, _, by decide, heq⟩⟩
  rw [if_pos hfits] at heq
  by_cases hfound : Matches mem type name c ∧ index = k
  · rw [if_pos hfound] at heq
    exact Or.inr ⟨fun b hb => by cases hb; contradiction,
      Or.inl ⟨⟨hfield, hfits, hfound.1⟩, hfound.2, heq⟩⟩
  rw [if_neg hfound] at heq
  have hends := skipValueByType_ends mem capacity (valueOffset mem c) (numAt mem 2 c)
  cases hvalue : valueEnd mem capacity (numAt mem 2 c) (valueOffset mem c) with
  | some c' =>
    rw [hvalue] at hends
    simp only [Ends] at hends
    rw [hends] at heq
    exact Or.inl ⟨c', .field hfield hfits hfound hvalue, heq⟩
  | none =>
    rw [hvalue] at hends
    refine Or.inr ⟨fun b hb => ?_, Or.inr ⟨fun h => hfound ⟨h.1.2.2, h.2⟩, 105,
      (skipValueByType (streamAt mem capacity (valueOffset mem c)) (numAt mem 2 c)).2,
      by decide, ?_⟩⟩
    · cases hb with
      | field _ _ _ hend => rw [hvalue] at hend; cases hend
    · rw [heq]
      exact if_pos hends

/-- What holds of all that the scan reaches: it holds of the start, and of all that is
reached from the next field. -/
theorem reaches_iff {type : Nat} {name : CString} {index : Int} {a : Nat × Int}
    (q : Nat × Int → Prop) :
    (∀ b, Reaches mem capacity type name index a b → q b) ↔
      q a ∧ ∀ a', Passes mem capacity type name index a a' →
        ∀ b, Reaches mem capacity type name index a' b → q b := by
  constructor
  · intro h
    exact ⟨h a .refl, fun a' ha b hb => h b (.head ha hb)⟩
  · rintro ⟨hq, h⟩ b hb
    rcases hb.cases_head with rfl | ⟨a', ha, hb⟩
    · exact hq
    · exact h a' ha b hb

theorem Passes.eq {type : Nat} {name : CString} {index : Int} {a b b' : Nat × Int}
    (h : Passes mem capacity type name index a b)
    (h' : Passes mem capacity type name index a b') : b = b' := by
  cases h with
  | field _ _ _ hend =>
    cases h' with
    | field _ _ _ hend' => rw [Option.some.inj (hend.symm.trans hend')]

theorem scanFieldsReads_stop {type : Nat} {name : CString} {index k : Int} {cardLength : Nat}
    {s s' : InMemoryStream} {rc : Int}
    (h : scanField type name index cardLength s k = .stop rc s') :
    scanFieldsReads type name index cardLength s k =
      scanFieldReads type name index cardLength s k := by
  rw [scanFieldsReads]
  split <;> simp_all

theorem scanFieldsReads_next {type : Nat} {name : CString} {index k k' : Int} {cardLength : Nat}
    {s s' : InMemoryStream}
    (h : scanField type name index cardLength s k = .next s' k') :
    scanFieldsReads type name index cardLength s k =
      scanFieldReads type name index cardLength s k ++
        scanFieldsReads type name index cardLength s' k' := by
  rw [scanFieldsReads]
  split <;> simp_all

/-- **What the scan reads** is in the buffer if every name that it comes to is guarded. -/
theorem scanFieldsReads_iff (type : Nat) (name : CString) (index : Int) (c : Nat) (k : Int) :
    (∀ i ∈ scanFieldsReads type name index (numAt mem 4 0) (streamAt mem capacity c) k,
      i < capacity) ↔
    ∀ b, Reaches mem capacity type name index (c, k) b →
      FieldAt mem capacity b.1 → Asked mem type name b.1 → NameGuarded mem capacity name b.1 := by
  induction hn : capacity - c using Nat.strong_induction_on generalizing c k with
  | _ n ih =>
    have hhere : (∀ i ∈ scanFieldReads type name index (numAt mem 4 0)
        (streamAt mem capacity c) k, i < capacity) ↔
        (FieldAt mem capacity c → Asked mem type name c → NameGuarded mem capacity name c) := by
      by_cases hfield : FieldAt mem capacity c
      · rw [scanFieldReads_field hfield]
        simp [hfield]
      · simp only [hfield, false_implies, iff_true]
        exact scanFieldReads_nofield hfield
    rw [reaches_iff]
    rcases scanField_cases mem capacity type name index c k with
      ⟨c', hpass, hnext⟩ | ⟨hnone, hstop⟩
    · obtain ⟨_, hlt, hle⟩ := scanField_next hnext
      simp only [streamAt] at hlt hle
      rw [scanFieldsReads_next hnext, List.forall_mem_append, hhere,
        ih (capacity - c') (by omega) c' _ rfl]
      refine and_congr_right fun _ => ⟨fun h a' ha => ?_, fun h => h _ hpass⟩
      rw [← hpass.eq ha]
      exact h
    · have hreads : scanFieldsReads type name index (numAt mem 4 0) (streamAt mem capacity c) k =
          scanFieldReads type name index (numAt mem 4 0) (streamAt mem capacity c) k := by
        rcases hstop with ⟨_, _, hstop⟩ | ⟨_, _, _, _, hstop⟩ <;>
          exact scanFieldsReads_stop hstop
      rw [hreads, hhere]
      exact ⟨fun h => ⟨h, fun a' ha => absurd ha (hnone a')⟩, fun h => h.1⟩

/-- **What the scan finds**: the field asked for, if it comes to it. -/
theorem scanFields_cases (mem : List UInt8) (capacity type : Nat) (name : CString) (index : Int)
    (c : Nat) (k : Int) :
    (∃ c', Reaches mem capacity type name index (c, k) (c', index) ∧
      Found mem capacity type name c' ∧
      scanFields type name index (numAt mem 4 0) (streamAt mem capacity c) k =
        (0, streamAt mem capacity (valueOffset mem c'))) ∨
    ((∀ c', Reaches mem capacity type name index (c, k) (c', index) →
      ¬ Found mem capacity type name c') ∧
      (scanFields type name index (numAt mem 4 0) (streamAt mem capacity c) k).1 ≠ 0) := by
  induction hn : capacity - c using Nat.strong_induction_on generalizing c k with
  | _ n ih =>
    rcases scanField_cases mem capacity type name index c k with
      ⟨c', hpass, hnext⟩ | ⟨hnone, ⟨hfound, rfl, hstop⟩ | ⟨hnot, rc, s, hrc, hstop⟩⟩
    · obtain ⟨_, hlt, hle⟩ := scanField_next hnext
      simp only [streamAt] at hlt hle
      rw [scanFields_next hnext]
      rcases ih (capacity - c') (by omega) c' _ rfl with ⟨c'', hreach, hfound⟩ | ⟨hnot, hrc⟩
      · exact Or.inl ⟨c'', .head hpass hreach, hfound⟩
      · refine Or.inr ⟨fun c'' hreach hfound => ?_, hrc⟩
        rcases hreach.cases_head with heq | ⟨b, hb, hreach⟩
        · cases heq
          cases hpass with
          | field _ _ hother _ => exact hother ⟨hfound.2.2, rfl⟩
        · rw [← hpass.eq hb] at hreach
          exact hnot c'' hreach hfound
    · exact Or.inl ⟨c, .refl, hfound, scanFields_stop hstop⟩
    · rw [scanFields_stop hstop]
      refine Or.inr ⟨fun c' hreach hfound => ?_, hrc⟩
      rcases hreach.cases_head with heq | ⟨b, hb, _⟩
      · cases heq
        exact hnot ⟨hfound, rfl⟩
      · exact hnone b hb

/-- The scan stops at the field asked for that it comes to. -/
theorem scanFields_of_reaches {type : Nat} {name : CString} {index : Int} {a : Nat × Int} {c : Nat}
    (h : Reaches mem capacity type name index a (c, index))
    (hfound : Found mem capacity type name c) :
    scanFields type name index (numAt mem 4 0) (streamAt mem capacity a.1) a.2 =
      (0, streamAt mem capacity (valueOffset mem c)) := by
  induction h using Relation.ReflTransGen.head_induction_on with
  | refl =>
    rcases scanField_cases mem capacity type name index c index with
      ⟨c', hpass, _⟩ | ⟨_, ⟨_, _, hstop⟩ | ⟨hnot, _⟩⟩
    · cases hpass with
      | field _ _ hother _ => exact absurd ⟨hfound.2.2, rfl⟩ hother
    · exact scanFields_stop hstop
    · exact absurd ⟨hfound, rfl⟩ hnot
  | @head a b hpass _ ih =>
    obtain ⟨c₀, k₀⟩ := a
    rcases scanField_cases mem capacity type name index c₀ k₀ with
      ⟨c', hpass', hnext⟩ | ⟨hnone, _⟩
    · rw [← ih, scanFields_next hnext, hpass.eq hpass']
    · exact absurd hpass (hnone b)

end

/-! ## The whole scan -/

section

variable {mem : List UInt8} {capacity : Nat} {name : CString}

/-- A card over the buffer, after any calls: the cursor may be anywhere. -/
def cardOver (mem : List UInt8) (capacity cursor : Nat) : InPostcard :=
  ⟨streamAt mem capacity cursor⟩

theorem setGetCursor_streamAt (c : Nat) :
    (streamAt mem capacity c).setGetCursor 0 = (0, streamAt mem capacity 0) := by
  simp [setGetCursor, streamAt]

/-- `findField` scans from the end of the recorded length on. -/
theorem findField_cardOver (mem : List UInt8) (cursor : Nat) (type : FieldType) (index : Int)
    (hname : name.bytes ≠ []) (hcap : 4 ≤ capacity) :
    findField (cardOver mem capacity cursor).pIn type (some name) index =
        scanFields type.code name index (numAt mem 4 0) (streamAt mem capacity 4) 0 ∧
      findFieldReads (cardOver mem capacity cursor).pIn type (some name) index =
        (streamAt mem capacity 0).extractReads 4 ++
          scanFieldsReads type.code name index (numAt mem 4 0) (streamAt mem capacity 4) 0 := by
  have hlength : name.bytes.length ≠ 0 := by simpa using hname
  have hextract := extract_streamAt mem capacity 0 4
    (by decide) (by omega)
  simp only [findField, findFieldReads, cardOver, setGetCursor_streamAt, hextract, hlength,
    ne_eq, not_true_eq_false, if_false]
  exact ⟨rfl, rfl⟩

/-- Without a name, or a recorded length, `findField` fails, and reads nothing outside the
buffer. -/
theorem findField_cardOver_fails (mem : List UInt8) (cursor : Nat) (type : FieldType) (index : Int)
    (h : name.bytes = [] ∨ capacity < 4) :
    (findField (cardOver mem capacity cursor).pIn type (some name) index).1 ≠ 0 ∧
      (∀ i ∈ findFieldReads (cardOver mem capacity cursor).pIn type (some name) index,
        i < capacity) := by
  simp only [findField, findFieldReads, cardOver, setGetCursor_streamAt, ne_eq,
    not_true_eq_false, if_false, List.forall_mem_append]
  by_cases hcap : capacity < 4
  · have hextract := extract_streamAt_fails mem capacity 0 4
      (Or.inr (by omega))
    refine ⟨by simp [hextract.1], extractReads_lt, ?_⟩
    simp [hextract.1]
  · have hextract := extract_streamAt mem capacity 0 4
      (by decide) (by omega)
    have hlength : name.bytes.length = 0 := by simpa using h.resolve_right hcap
    refine ⟨by simp [hextract, hlength], extractReads_lt, ?_⟩
    simp [hextract, hlength]

end

/-! ## What the getters make of a field -/

section

variable {mem : List UInt8} {capacity v : Nat} {p : InPostcard} {name : CString}

theorem getBlobByType_found' {type : FieldType} {index : Int} (pass : Bool)
    (hfind : findField p.pIn type (some name) index = (0, streamAt mem capacity v))
    (hfits : BlockFits mem capacity v) :
    p.getBlobByType (some name) type pass index =
      (0, some (mem.drop (if pass then v + 4 else v), numAt mem 4 v),
        ⟨streamAt mem capacity (v + 4 + numAt mem 4 v)⟩) := by
  obtain ⟨hpos, hroom⟩ := hfits
  have hlength := extract_streamAt mem capacity v 4
    (by decide) (by omega)
  have hblock := extract_streamAt mem capacity (v + 4) (numAt mem 4 v) hpos hroom
  unfold getBlobByType
  simp only [hfind, hlength, show ofLeBytes ((mem.drop v).take 4) = numAt mem 4 v from rfl,
    hblock, if_true, ne_eq, not_true_eq_false, if_false, streamAt_getCursor]
  rfl

theorem getBlobByType_fails (mem : List UInt8) (capacity : Nat) {type : FieldType} {index : Int}
    (pass : Bool)
    (h : (findField p.pIn type (some name) index).1 ≠ 0 ∨
      ∃ v, findField p.pIn type (some name) index = (0, streamAt mem capacity v) ∧
        ¬ BlockFits mem capacity v) :
    ∃ rc p', rc ≠ 0 ∧ p.getBlobByType (some name) type pass index = (rc, none, p') := by
  unfold getBlobByType
  rcases h with hrc | ⟨v, hfind, hno⟩
  · simp only [hrc, if_false]
    split
    · exact ⟨fieldNotFound, _, by decide, rfl⟩
    · exact ⟨4, _, by decide, rfl⟩
  · simp only [hfind, if_true]
    by_cases hlength : v + 4 ≤ capacity
    · have hblock := extract_streamAt_fails mem capacity (v + 4) (numAt mem 4 v)
        (by unfold BlockFits at hno; omega)
      rw [extract_streamAt _ _ _ _ (by decide) hlength]
      simp only [ne_eq, not_true_eq_false, if_false,
        show ofLeBytes ((mem.drop v).take 4) = numAt mem 4 v from rfl, hblock.1,
        not_false_eq_true, if_true]
      exact ⟨7, _, by decide, rfl⟩
    · have hlength := extract_streamAt_fails mem capacity v 4 (Or.inr (by omega))
      simp only [ne_eq, hlength.1, not_false_eq_true, if_true]
      exact ⟨5, _, by decide, rfl⟩

/-- A string whose block ends with a zero byte ends, with its zero byte, in the block. -/
theorem cStringAt_length {block : List UInt8} {n : Nat} (hpos : 0 < n)
    (hlast : block.getD (n - 1) 0 = 0) : (cStringAt block).bytes.length + 1 ≤ n := by
  by_contra hlong
  have hlt : n - 1 < (block.takeWhile (· ≠ 0)).length := by
    simp only [cStringAt] at hlong
    omega
  have hne : (block.takeWhile (· ≠ 0))[n - 1] ≠ 0 := by
    simpa using List.mem_takeWhile_imp (List.getElem_mem hlt)
  have hfront := List.takeWhile_prefix (fun b : UInt8 => b ≠ 0) (l := block)
  rw [hfront.getElem hlt] at hne
  have hlt' : n - 1 < block.length := Nat.lt_of_lt_of_le hlt hfront.length_le
  rw [List.getD_eq_getElem?_getD, List.getElem?_eq_getElem hlt', Option.getD_some] at hlast
  exact hne hlast

theorem getArray_fails {t : SimpleType} {given : Option Int} {withArray : Bool} {rc : Int}
    {p' : InPostcard} (hrc : rc ≠ 0)
    (h : p.getBlobByType (some name) (.array t) true 0 = (rc, none, p')) :
    (p.getArray (some name) t given withArray).1 ≠ 0 := by
  cases given with
  | none => simp [getArray]
  | some given => simp [getArray, h]

theorem getString_fails {rc : Int} {p' : InPostcard} (hrc : rc ≠ 0)
    (h : p.getBlobByType (some name) .string true 0 = (rc, none, p')) :
    (p.getString (some name)).1 ≠ 0 := by
  simp only [getString, h]
  split
  · contradiction
  · contradiction
  · split <;> simp [fieldNotFound]

theorem getStringDup_fails {allocated : Bool} (h : (p.getString (some name)).1 ≠ 0) :
    (p.getStringDup allocated (some name)).1 ≠ 0 := by
  unfold getStringDup
  rcases hstr : p.getString (some name) with ⟨rc, str, p'⟩
  rw [hstr] at h
  simp only []
  split
  · contradiction
  · split <;> simp [fieldNotFound]

theorem getCard_fails {created : Bool × Bool} {index rc : Int} {p' : InPostcard} (hrc : rc ≠ 0)
    (h : p.getBlobByType (some name) .card false index = (rc, none, p')) :
    (p.getCard created (some name) index).1 ≠ 0 := by
  simp only [getCard, h]
  split <;> simp [fieldNotFound]

/-- Where the field asked for is not found, the getter fails. -/
theorem get_of_not_found {g : Getter}
    (h : (findField p.pIn g.fieldType (some name) g.index).1 ≠ 0) :
    (g.get p (some name)).1 ≠ 0 := by
  have hfails : ∀ pass, ∃ rc p', rc ≠ 0 ∧
      p.getBlobByType (some name) g.fieldType pass g.index = (rc, none, p') :=
    fun pass => getBlobByType_fails [] 0 pass (Or.inl h)
  cases g with
  | simple t =>
    simp only [Getter.fieldType, Getter.index] at h
    simp only [Getter.get, getSimple, h, if_false]
    split <;> simp [fieldNotFound]
  | blob =>
    obtain ⟨rc, p', hrc, heq⟩ := hfails true
    rw [show Getter.blob.get p (some name) = (rc, none, p') from heq]
    exact hrc
  | array t given withArray =>
    obtain ⟨rc, p', hrc, heq⟩ := hfails true
    exact getArray_fails hrc heq
  | string =>
    obtain ⟨rc, p', hrc, heq⟩ := hfails true
    exact getString_fails hrc heq
  | stringDup allocated =>
    obtain ⟨rc, p', hrc, heq⟩ := hfails true
    exact getStringDup_fails (getString_fails hrc heq)
  | card created index =>
    obtain ⟨rc, p', hrc, heq⟩ := hfails false
    exact getCard_fails hrc heq

theorem getString_of_found
    (hfind : findField p.pIn .string (some name) 0 = (0, streamAt mem capacity v)) :
    (Getter.string.Accepts mem capacity v ∧
      ∃ p', p.getString (some name) = (0, some (cStringAt (mem.drop (v + 4))), p')) ∨
    (¬ Getter.string.Accepts mem capacity v ∧ (p.getString (some name)).1 ≠ 0) := by
  by_cases hfits : BlockFits mem capacity v
  · have heq := getBlobByType_found' true hfind hfits
    simp only [getString, heq, if_true, Nat.pos_iff_ne_zero.mp hfits.1, if_false]
    by_cases hlast : (mem.drop (v + 4)).getD (numAt mem 4 v - 1) 0 = 0
    · exact Or.inl ⟨⟨hfits, hlast⟩, _, by rw [if_neg (by simpa using hlast)]⟩
    · exact Or.inr ⟨fun h => hlast h.2, by rw [if_pos hlast]; simp⟩
  · obtain ⟨rc, p', hrc, heq⟩ := getBlobByType_fails mem capacity true (Or.inr ⟨v, hfind, hfits⟩)
    exact Or.inr ⟨fun h => hfits h.1, getString_fails hrc heq⟩

/-- Where the field asked for is, the getter gives what is there, or fails. -/
theorem get_of_found {g : Getter} (hlooks : g.Looks)
    (hfind : findField p.pIn g.fieldType (some name) g.index = (0, streamAt mem capacity v)) :
    (g.Accepts mem capacity v ∧ ∃ p', g.get p (some name) = (0, some (g.resultAt mem v), p')) ∨
      (¬ g.Accepts mem capacity v ∧ (g.get p (some name)).1 ≠ 0) := by
  have hfails : ∀ pass, ¬ BlockFits mem capacity v → ∃ rc p', rc ≠ 0 ∧
      p.getBlobByType (some name) g.fieldType pass g.index = (rc, none, p') :=
    fun pass hno => getBlobByType_fails mem capacity pass (Or.inr ⟨v, hfind, hno⟩)
  have hfound : ∀ pass, BlockFits mem capacity v →
      p.getBlobByType (some name) g.fieldType pass g.index = _ :=
    fun pass hfits => getBlobByType_found' pass hfind hfits
  cases g with
  | simple t =>
    simp only [Getter.get, Getter.Accepts, Getter.resultAt, getSimple] at hfind ⊢
    simp only [Getter.fieldType, Getter.index] at hfind
    simp only [hfind, if_true]
    by_cases hroom : v + t.size ≤ capacity
    · refine Or.inl ⟨hroom, ?_⟩
      rw [extract_streamAt _ _ _ _ t.size_pos hroom]
      exact ⟨_, rfl⟩
    · have hextract := extract_streamAt_fails mem capacity v t.size (Or.inr (by omega))
      exact Or.inr ⟨hroom, by simp [hextract.1]⟩
  | blob =>
    by_cases hfits : BlockFits mem capacity v
    · exact Or.inl ⟨hfits, _, hfound true hfits⟩
    · obtain ⟨rc, p', hrc, heq⟩ := hfails true hfits
      refine Or.inr ⟨hfits, ?_⟩
      rw [show Getter.blob.get p (some name) = (rc, none, p') from heq]
      exact hrc
  | array t pGivenNumElem withArray =>
    cases pGivenNumElem with
    | none => exact absurd rfl hlooks
    | some given =>
      by_cases hfits : BlockFits mem capacity v
      swap
      · obtain ⟨rc, p', hrc, heq⟩ := hfails true hfits
        exact Or.inr ⟨fun h => hfits h.1, getArray_fails hrc heq⟩
      have heq := hfound true hfits
      simp only [Getter.fieldType, Getter.index] at heq
      simp only [Getter.get, getArray, heq, if_true, Getter.Accepts, hfits, true_and,
        Option.mem_def, Option.some.injEq, forall_eq']
      by_cases hmod : numAt mem 4 v % t.size = 0
      swap
      · exact Or.inr ⟨fun h => hmod h.1, by simp [hmod]⟩
      have hnum : toInt (numAt mem 4 v / t.size) ≠ 0 := by
        apply toInt_ne_zero
        · exact Nat.div_pos (Nat.le_of_dvd hfits.1 (Nat.dvd_of_mod_eq_zero hmod)) t.size_pos
        · exact Nat.lt_of_le_of_lt (Nat.div_le_self _ _) (numAt_lt 4)
      simp only [hmod, ne_eq, not_true_eq_false, if_false, hnum, true_and]
      cases withArray with
      | false => exact Or.inl ⟨by simp, _, rfl⟩
      | true =>
        by_cases hroom : toInt (numAt mem 4 v / t.size) ≤ given
        · refine Or.inl ⟨fun _ => hroom, ⟨streamAt mem capacity (v + 4 + numAt mem 4 v)⟩, ?_⟩
          rw [if_pos rfl, if_neg (by omega)]
          rfl
        · refine Or.inr ⟨fun h => hroom (h rfl), ?_⟩
          rw [if_pos rfl, if_pos (by omega)]
          simp
  | string =>
    rcases getString_of_found hfind with ⟨haccepts, hok⟩ | ⟨hno, hrc⟩
    · exact Or.inl ⟨haccepts, hok⟩
    · exact Or.inr ⟨hno, hrc⟩
  | stringDup allocated =>
    rcases getString_of_found hfind with ⟨haccepts, p', heq⟩ | ⟨hno, hrc⟩
    · simp only [Getter.get, getStringDup, heq]
      cases allocated with
      | false => exact Or.inr ⟨fun h => absurd h.2.2 (by decide), by simp⟩
      | true => exact Or.inl ⟨⟨haccepts.1, haccepts.2, rfl⟩, p', rfl⟩
    · exact Or.inr ⟨fun h => hno ⟨h.1, h.2.1⟩, getStringDup_fails hrc⟩
  | card created index =>
    by_cases hfits : BlockFits mem capacity v
    · have heq := hfound false hfits
      simp only [Getter.fieldType, Getter.index, Bool.false_eq_true, if_false] at heq
      simp only [Getter.get, getCard, heq, InPostcard.init]
      obtain ⟨card, stream⟩ := created
      cases card <;> cases stream
      · exact Or.inr ⟨fun h => absurd h.2.1 (by decide), by simp⟩
      · exact Or.inr ⟨fun h => absurd h.2.1 (by decide), by simp⟩
      · exact Or.inr ⟨fun h => absurd h.2.2 (by decide), by simp⟩
      · exact Or.inl ⟨⟨hfits, rfl, rfl⟩, _, rfl⟩
    · obtain ⟨rc, p', hrc, heq⟩ := hfails false hfits
      exact Or.inr ⟨fun h => hfits h.1, getCard_fails hrc heq⟩

/-- What a getter gives ends in the buffer. -/
theorem place_le {g : Getter} (h : g.Accepts mem capacity v) :
    (g.place mem v).1 + (g.place mem v).2 ≤ capacity := by
  cases g with
  | simple t => exact h
  | blob => exact h.2
  | array t given withArray => exact h.1.2
  | string =>
    obtain ⟨⟨hpos, hroom⟩, hlast⟩ := h
    have := cStringAt_length hpos hlast
    simp only [Getter.place]
    omega
  | stringDup allocated =>
    obtain ⟨⟨hpos, hroom⟩, hlast, _⟩ := h
    have := cStringAt_length hpos hlast
    simp only [Getter.place]
    omega
  | card created index =>
    obtain ⟨⟨hpos, hroom⟩, _⟩ := h
    simp only [Getter.place]
    omega

/-- The outcomes of `findField`: it stands at a value, or fails. -/
def Located (p : InPostcard) (name : CString) (mem : List UInt8) (capacity : Nat)
    (type : FieldType) (index : Int) : Prop :=
  (∃ v, findField p.pIn type (some name) index = (0, streamAt mem capacity v)) ∨
    (findField p.pIn type (some name) index).1 ≠ 0

theorem getBlobByType_cases {type : FieldType} {index : Int} (pass : Bool)
    (h : Located p name mem capacity type index) :
    (∃ v, findField p.pIn type (some name) index = (0, streamAt mem capacity v) ∧
      BlockFits mem capacity v ∧
      p.getBlobByType (some name) type pass index =
        (0, some (mem.drop (if pass then v + 4 else v), numAt mem 4 v),
          ⟨streamAt mem capacity (v + 4 + numAt mem 4 v)⟩)) ∨
    ∃ rc p', rc ≠ 0 ∧ p.getBlobByType (some name) type pass index = (rc, none, p') := by
  rcases h with ⟨v, hfind⟩ | hfails
  · by_cases hfits : BlockFits mem capacity v
    · exact Or.inl ⟨v, hfind, hfits, getBlobByType_found' pass hfind hfits⟩
    · exact Or.inr (getBlobByType_fails mem capacity pass (Or.inr ⟨v, hfind, hfits⟩))
  · exact Or.inr (getBlobByType_fails mem capacity pass (Or.inl hfails))

theorem getSimpleReads_iff {t : SimpleType} (h : Located p name mem capacity (.simple t) 0) :
    (∀ i ∈ p.getSimpleReads (some name) t, i < capacity) ↔
      ∀ i ∈ findFieldReads p.pIn (.simple t) (some name) 0, i < capacity := by
  unfold getSimpleReads
  rw [List.forall_mem_append, and_iff_left_iff_imp]
  intro _
  rcases h with ⟨v, hfind⟩ | hfails
  · rw [hfind, if_pos rfl]
    exact extractReads_lt
  · simp [hfails]

theorem getBlobByTypeReads_iff {type : FieldType} {index : Int}
    (h : Located p name mem capacity type index) :
    (∀ i ∈ p.getBlobByTypeReads (some name) type index, i < capacity) ↔
      ∀ i ∈ findFieldReads p.pIn type (some name) index, i < capacity := by
  unfold getBlobByTypeReads
  rw [List.forall_mem_append, and_iff_left_iff_imp]
  intro _
  rcases h with ⟨v, hfind⟩ | hfails
  · rw [hfind, if_pos rfl]
    exact extractReads_lt
  · simp [hfails]

theorem mem_block_lt {start length i : Nat} (h : i ∈ List.range' start length)
    (hroom : start + length ≤ capacity) : i < capacity := by
  have := List.mem_range'_1.mp h
  omega

theorem getStringReads_iff (h : Located p name mem capacity .string 0) :
    (∀ i ∈ p.getStringReads (some name), i < capacity) ↔
      ∀ i ∈ findFieldReads p.pIn .string (some name) 0, i < capacity := by
  unfold getStringReads
  rw [List.forall_mem_append, getBlobByTypeReads_iff h, and_iff_left_iff_imp]
  intro _
  rcases getBlobByType_cases true h with ⟨v, _, ⟨hpos, hroom⟩, heq⟩ | ⟨rc, p', hrc, heq⟩
  · rw [heq]
    simp only [Nat.pos_iff_ne_zero.mp hpos, if_false, blockOffset, streamAt_getCursor,
      List.mem_singleton, forall_eq]
    omega
  · simp [heq]

/-- **A getter's own reads** are in the buffer: only the scan may leave it. -/
theorem reads_iff (mem : List UInt8) {g : Getter} (hlooks : g.Looks)
    (h : Located p name mem capacity g.fieldType g.index) :
    (∀ i ∈ g.reads p (some name), i < capacity) ↔
      ∀ i ∈ findFieldReads p.pIn g.fieldType (some name) g.index, i < capacity := by
  cases g with
  | simple t => exact getSimpleReads_iff h
  | blob => exact getBlobByTypeReads_iff h
  | card created index => exact getBlobByTypeReads_iff h
  | string => exact getStringReads_iff h
  | array t given withArray =>
    have hnull : ¬ (some name = none ∨ given = none) := by
      simp [show given ≠ none from hlooks]
    simp only [Getter.fieldType, Getter.index] at h ⊢
    simp only [Getter.reads, getArrayReads, if_neg hnull]
    rw [List.forall_mem_append, getBlobByTypeReads_iff h, and_iff_left_iff_imp]
    intro _
    rcases getBlobByType_cases true h with ⟨v, _, ⟨_, hroom⟩, heq⟩ | ⟨rc, p', hrc, heq⟩
    · intro i hi
      simp only [heq, blockOffset, streamAt_getCursor] at hi
      split at hi
      · exact mem_block_lt hi (by omega)
      · cases hi
    · simp [heq]
  | stringDup allocated =>
    simp only [Getter.fieldType, Getter.index] at h ⊢
    simp only [Getter.reads, getStringDupReads]
    rw [List.forall_mem_append, getStringReads_iff h, and_iff_left_iff_imp]
    intro _ i hi
    rcases getBlobByType_cases true h with ⟨v, hfind, hfits, heq⟩ | ⟨rc, p', hrc, heq⟩
    · rcases getString_of_found hfind with ⟨⟨_, hlast⟩, p', hstr⟩ | ⟨_, hrc⟩
      · have hlength := cStringAt_length hfits.1 hlast
        have hroom := hfits.2
        simp only [heq, hstr, blockOffset, streamAt_getCursor, List.mem_append] at hi
        rcases hi with hi | hi
        · exact mem_block_lt hi (by omega)
        · split at hi
          · exact mem_block_lt hi (by omega)
          · cases hi
      · rw [heq] at hi
        rcases hstr : p.getString (some name) with ⟨rc, str, p'⟩
        rw [hstr] at hi hrc
        simp only [] at hi
        split at hi
        · rename_i heq'
          cases heq'
          exact absurd rfl hrc
        · cases hi
    · rw [heq] at hi
      simp only [] at hi
      cases hi

end

/-! ## Staying inside -/

/-- The call of the getter on a card over the buffer reads nothing at or beyond the size of
the buffer, and what it gives, if it succeeds, ends with the card and the buffer; `v` is the
offset of the value of the field found. -/
structure StaysInside (g : Getter) (mem : List UInt8) (capacity cursor : Nat)
    (name : Option CString) : Prop where
  reads : ∀ i ∈ g.reads (cardOver mem capacity cursor) name, i < capacity
  result : (g.get (cardOver mem capacity cursor) name).1 = 0 →
    ∃ v, findField (cardOver mem capacity cursor).pIn g.fieldType name g.index =
        (0, streamAt mem capacity v) ∧
      (g.get (cardOver mem capacity cursor) name).2.1 = some (g.resultAt mem v) ∧
      (g.place mem v).1 + (g.place mem v).2 ≤ cardEnd mem ∧
      (g.place mem v).1 + (g.place mem v).2 ≤ capacity

/-- The buffer is guarded against the call, or the call does not look at any field. -/
def GuardedFrom (g : Getter) (mem : List UInt8) (capacity : Nat) (name : Option CString) :
    Prop :=
  g.Looks → ∀ n ∈ name, n.bytes ≠ [] → Guarded g mem capacity n

/-- A call that does not look at any field fails and reads nothing. -/
theorem stays_of_not_looks {g : Getter} {mem : List UInt8} {capacity cursor : Nat}
    {name : Option CString} (h : ¬ g.Looks ∨ name = none) :
    StaysInside g mem capacity cursor name := by
  have hinert : g.reads (cardOver mem capacity cursor) name = [] ∧
      (g.get (cardOver mem capacity cursor) name).1 ≠ 0 := by
    rcases h with hlooks | rfl
    · cases g with
      | array t given withArray =>
        obtain rfl : given = none := by simpa [Getter.Looks] using hlooks
        cases name <;> simp [Getter.reads, getArrayReads, Getter.get, getArray]
      | _ => exact absurd trivial hlooks
    · cases g <;>
        simp [Getter.reads, getSimpleReads, getBlobByTypeReads, getArrayReads, getStringReads,
          getStringDupReads, findFieldReads, findField, Getter.get, getSimple, getBlob,
          getBlobByType, getArray, getString, getStringDup, getCard, fieldNotFound]
  exact ⟨by simp [hinert.1], fun hok => absurd hok hinert.2⟩

/-- Where `findField` fails without having left the buffer, the getter stays inside. -/
theorem stays_of_fails {g : Getter} {mem : List UInt8} {capacity cursor : Nat} {n : CString}
    (hlooks : g.Looks)
    (hfails : (findField (cardOver mem capacity cursor).pIn g.fieldType (some n) g.index).1 ≠ 0)
    (hreads : ∀ i ∈ findFieldReads (cardOver mem capacity cursor).pIn g.fieldType (some n) g.index,
      i < capacity) :
    StaysInside g mem capacity cursor (some n) :=
  ⟨(reads_iff mem hlooks (Or.inr hfails)).mpr hreads,
    fun hok => absurd hok (get_of_not_found hfails)⟩

/-- The name "a". -/
def nameA : CString := ⟨[97], by decide⟩

/-- A card with the `uint8` 5 under the name "a", with a recorded length of 2 bytes. -/
def shortCard : List UInt8 := [2, 0, 0, 0, 17, 0, 2, 0, 97, 0, 5, 0]

/-- A buffer of 8 bytes that ends within a field, and the byte after it. -/
def cutCard : List UInt8 := [20, 0, 0, 0, 17, 0, 2, 0, 97]

end LocationStack.Postcard
