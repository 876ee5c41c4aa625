import LocationStack.Postcard.Scan

/-! # The search for a field ends

How far an iteration of the loop of `findField` goes is up to the bytes: the length of the name and
the length of the value are read from the buffer, a nested card is passed over by the length that
it has.  The loop is run here for a number of iterations, and told where the cursor is at the head
of each of them.  The cursor goes up from one head to the next, and is never past the capacity
(`findField_terminates`), so there are not more iterations than bytes.
-/
namespace LocationStack.Postcard

open LittleEndian InMemoryStream InPostcard

/-! ## The loop, iteration by iteration -/

/-- `while (true)` of `findField` for so many iterations: the cursors at the heads of those that it
comes to, and the end of the loop, if it comes to that. -/
def iterations (type : Nat) (name : CString) (index : Int) (cardLength : Nat) :
    Nat → InMemoryStream → Int → List Nat × Option (Int × InMemoryStream)
  | 0, _, _ => ([], none)
  | n + 1, s, matchCount =>
    match scanField type name index cardLength s matchCount with
    | .stop result s' => ([s.getCursor], some (result, s'))
    | .next s' matchCount =>
      let rest := iterations type name index cardLength n s' matchCount
      (s.getCursor :: rest.1, rest.2)

/-- `findField` with so many iterations of its loop. -/
def findFieldIn (n : Nat) (s : InMemoryStream) (type : FieldType) (name : Option CString)
    (index : Int) : List Nat × Option (Int × InMemoryStream) :=
  match name with
  | none => ([], some (2, s))
  | some name =>
      let (rc, s) := s.setGetCursor 0
      if rc ≠ 0 then ([], some (3, s))
      else
        let (rc, lengthBytes, s) := s.extract 4
        if rc ≠ 0 then ([], some (4, s))
        else if name.bytes.length = 0 then ([], some (5, s))
        else iterations type.code name index (ofLeBytes lengthBytes) n s 0

/-! ## What an iteration does to the cursor -/

theorem skipValue_cursor {s : InMemoryStream} {valueSize : Nat}
    (h : (skipValue s valueSize).1 = 0) : s.getCursor < (skipValue s valueSize).2.getCursor := by
  unfold skipValue at h ⊢
  split at h
  · cases h
  · rename_i hsize
    rw [if_neg hsize]
    simp only [] at h ⊢
    split at h
    · cases h
    · rename_i hrc
      rw [if_neg hrc]
      obtain ⟨hpos, hcursor, -⟩ := extract_cursor (not_ne_iff.mp hrc)
      rw [hcursor]
      exact Nat.lt_add_of_pos_right hpos

/-- A value that is passed over has one byte at least, be it of a fixed size or of the size that the
buffer tells. -/
theorem skipValueByType_cursor {s : InMemoryStream} {type : Nat}
    (h : (skipValueByType s type).1 = 0) :
    s.getCursor < (skipValueByType s type).2.getCursor := by
  have hlength := (s.extract_advances 4).le
  unfold skipValueByType at h ⊢
  split at h
  · cases h
  · cases h
  · exact skipValue_cursor h
  all_goals
    simp only [] at h ⊢
    split at h
    · cases h
    · rename_i hrc
      rw [if_neg hrc]
      first
        | exact Nat.lt_of_le_of_lt hlength (skipValue_cursor h)
        | (split at h
           · rename_i hone
             rw [if_pos hone]
             exact Nat.lt_of_le_of_lt hlength (skipValue_cursor h)
           · cases h)

/-- An iteration that ends the loop leaves the cursor inside the stream, and has moved it forward
where it has found the field. -/
theorem scanField_stop {type : Nat} {name : CString} {index : Int} {cardLength : Nat}
    {s s' : InMemoryStream} {matchCount result : Int}
    (h : scanField type name index cardLength s matchCount = .stop result s') :
    s.Advances s' ∧ (result = 0 → s.getCursor < s'.getCursor) := by
  have htype := s.extract_advances 2
  have hlength := htype.trans (extract_advances (s.extract 2).2.2 2)
  have hname := hlength.trans (extract_advances ((s.extract 2).2.2.extract 2).2.2
    (ofLeBytes ((s.extract 2).2.2.extract 2).2.1))
  have hvalue := hname.trans (skipValueByType_advances _ (ofLeBytes (s.extract 2).2.1))
  unfold scanField at h
  split at h
  · split at h
    · cases h
      exact ⟨.refl s, nofun⟩
    · simp only [] at h
      split at h
      · cases h
        exact ⟨htype, nofun⟩
      · rename_i hrc
        split at h
        · cases h
          exact ⟨hlength, nofun⟩
        · split at h
          · cases h
            exact ⟨hname, nofun⟩
          · split at h
            · cases h
              obtain ⟨_, hcursor, _⟩ := extract_cursor (not_ne_iff.mp hrc)
              have hrest := (extract_advances (s.extract 2).2.2 2).trans
                (extract_advances ((s.extract 2).2.2.extract 2).2.2
                  (ofLeBytes ((s.extract 2).2.2.extract 2).2.1))
              have hlt : s.getCursor < (s.extract 2).2.2.getCursor := by omega
              exact ⟨hname, fun _ => Nat.lt_of_lt_of_le hlt hrest.le⟩
            · split at h
              · cases h
                exact ⟨hvalue, nofun⟩
              · cases h
  · cases h
    exact ⟨.refl s, nofun⟩

/-! ## The whole loop -/

/-- What the cursors at the heads of the iterations are like: each before the next, the last before
the end of the loop where that has found the field, and all of them inside the stream. -/
structure Forward (capacity first : Nat) (heads : List Nat) (end' : Int × InMemoryStream) :
    Prop where
  increasing : heads.Pairwise (· < ·)
  from_first : ∀ cursor ∈ heads, first ≤ cursor
  to_end : ∀ cursor ∈ heads, cursor ≤ end'.2.getCursor
  found : end'.1 = 0 → ∀ cursor ∈ heads, cursor < end'.2.getCursor
  goes_on : first ≤ end'.2.getCursor
  within : end'.2.getCursor ≤ capacity

/-- **The loop ends** within as many iterations as there are bytes before the capacity, and one. -/
theorem iterations_end {type : Nat} {name : CString} {index : Int} {cardLength n : Nat}
    {s : InMemoryStream} {matchCount : Int} (hs : s.getCursor ≤ s.capacity)
    (hn : s.capacity < s.getCursor + n) :
    (iterations type name index cardLength n s matchCount).2 =
        some (scanFields type name index cardLength s matchCount) ∧
      Forward s.capacity s.getCursor (iterations type name index cardLength n s matchCount).1
        (scanFields type name index cardLength s matchCount) := by
  induction n generalizing s matchCount with
  | zero => omega
  | succ n ih =>
    rw [iterations]
    rcases hscan : scanField type name index cardLength s matchCount with
      ⟨result, s'⟩ | ⟨s', matchCount'⟩
    · obtain ⟨hadvances, hfound⟩ := scanField_stop hscan
      rw [scanFields_stop hscan]
      refine ⟨rfl, List.pairwise_singleton _ _, ?_, ?_, ?_, hadvances.le, hadvances.within hs⟩
      · exact fun cursor hmem => le_of_eq (List.mem_singleton.mp hmem).symm
      · exact fun cursor hmem => le_of_eq_of_le (List.mem_singleton.mp hmem) hadvances.le
      · exact fun hzero cursor hmem => lt_of_eq_of_lt (List.mem_singleton.mp hmem) (hfound hzero)
    · obtain ⟨hcapacity, hlt, hle⟩ := scanField_next hscan
      have hrest := @ih s' matchCount' (by omega) (by omega)
      rw [hcapacity] at hrest
      obtain ⟨hends, hforward⟩ := hrest
      rw [scanFields_next hscan]
      have hend := hforward.goes_on
      refine ⟨hends, List.pairwise_cons.mpr ⟨fun cursor hmem =>
        Nat.lt_of_lt_of_le hlt (hforward.from_first cursor hmem), hforward.increasing⟩, ?_, ?_, ?_,
        Nat.le_trans (Nat.le_of_lt hlt) hend, hforward.within⟩
      · intro cursor hmem
        obtain rfl | hmem := List.mem_cons.mp hmem
        · exact Nat.le_refl _
        · exact Nat.le_trans (Nat.le_of_lt hlt) (hforward.from_first cursor hmem)
      · intro cursor hmem
        obtain rfl | hmem := List.mem_cons.mp hmem
        · exact Nat.le_trans (Nat.le_of_lt hlt) hend
        · exact hforward.to_end cursor hmem
      · intro hzero cursor hmem
        obtain rfl | hmem := List.mem_cons.mp hmem
        · exact Nat.lt_of_lt_of_le hlt hend
        · exact hforward.found hzero cursor hmem

/-- **The search for a field ends** on any stream, within as many iterations as the stream has
bytes, and with what `findField` gives.  Between one iteration and the next the cursor goes up, and
it stays inside the stream; a value that is passed over has a part in that. -/
theorem findField_terminates (s : InMemoryStream) (type : FieldType) (name : Option CString)
    (index : Int) (more : Nat) :
    (findFieldIn (s.capacity + more) s type name index).2 = some (findField s type name index) ∧
      ((findFieldIn (s.capacity + more) s type name index).1 = [] ∨
        Forward s.capacity 4 (findFieldIn (s.capacity + more) s type name index).1
          (findField s type name index)) ∧
      ∀ passed currentType, (skipValueByType passed currentType).1 = 0 →
        passed.getCursor < (skipValueByType passed currentType).2.getCursor := by
  rw [← and_assoc]
  refine ⟨?_, fun _ _ hskip => skipValueByType_cursor hskip⟩
  cases name with
  | none => exact ⟨rfl, .inl rfl⟩
  | some name =>
    have hset : s.setGetCursor 0 = (0, { s with getCursor := 0 }) := if_pos (Nat.zero_le _)
    simp only [findFieldIn, findField, hset, ne_eq, not_true_eq_false, if_false]
    by_cases hrc : (extract { s with getCursor := 0 } 4).1 = 0
    · rw [if_neg (not_not.mpr hrc), if_neg (not_not.mpr hrc)]
      by_cases hempty : name.bytes.length = 0
      · rw [if_pos hempty, if_pos hempty]
        exact ⟨rfl, .inl rfl⟩
      · rw [if_neg hempty, if_neg hempty]
        obtain ⟨-, hcursor, hroom⟩ := extract_cursor hrc
        rw [Nat.zero_add] at hcursor hroom
        have hcapacity : (extract { s with getCursor := 0 } 4).2.2.capacity = s.capacity :=
          (extract_advances { s with getCursor := 0 } 4).capacity
        have hloop := @iterations_end type.code name index
          (ofLeBytes (extract { s with getCursor := 0 } 4).2.1) (s.capacity + more)
          (extract { s with getCursor := 0 } 4).2.2 0 (by rw [hcursor, hcapacity]; exact hroom)
          (by rw [hcursor, hcapacity]; omega)
        rw [hcapacity, hcursor] at hloop
        exact ⟨hloop.1, .inr hloop.2⟩
    · rw [if_pos hrc, if_pos hrc]
      exact ⟨rfl, .inl rfl⟩

end LocationStack.Postcard
