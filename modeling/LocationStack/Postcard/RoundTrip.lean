import LocationStack.Postcard.Scan

/-! # Reading back what was written

The getters on a card that was opened on the bytes of a finalized one.  Each of them finds
the first field added with its type and name, or reports that there is none; `getCard`
takes the nested cards under a name by their index, and opens the card it gives on
exactly the bytes of the one that was added.
-/
namespace LocationStack.Postcard

open LittleEndian InMemoryStream InPostcard

/-- A getter's result code and what it gives, and that the card is still open after it. -/
structure Outcome {α : Type} (bytes : List UInt8) (r : Int × Option α × InPostcard) (rc : Int)
    (value : Option α) : Prop where
  code : r.1 = rc
  value : r.2.1 = value
  opened : Opened bytes r.2.2

theorem Outcome.eq {α : Type} {bytes : List UInt8} {r : Int × Option α × InPostcard} {rc : Int}
    {value : Option α} (h : Outcome bytes r rc value) :
    ∃ p', r = (rc, value, p') ∧ Opened bytes p' :=
  ⟨r.2.2, by rw [← h.code, ← h.value], h.opened⟩

theorem Outcome.convert {α β : Type} {bytes : List UInt8} {r : Int × Option α × InPostcard}
    {rc : Int} {value : Option α} (h : Outcome bytes r rc value) (f : α → β) :
    Outcome bytes (InPostcard.convert f r) rc (value.map f) :=
  ⟨h.code, by rw [← h.value]; rfl, h.opened⟩

theorem Outcome.orDefault {α : Type} {bytes : List UInt8} {r : Int × Option α × InPostcard}
    (h : Outcome bytes r fieldNotFound none) :
    Outcome bytes (InPostcard.orDefault r) 0 none :=
  ⟨by simp [InPostcard.orDefault, h.code], h.value, h.opened⟩

/-- A field found under a type and a name has them. -/
theorem matches_of_addedUnder {fs : List Field} {type : FieldType} {name : CString} {i : Nat}
    {f : Field} (h : (addedUnder fs type name)[i]? = some f) :
    f ∈ fs ∧ f.type = type ∧ f.name = name := by
  obtain ⟨hmem, hmatch⟩ := List.mem_filter.mp (List.mem_of_getElem? h)
  exact ⟨hmem, Field.matches_iff.mp hmatch⟩

theorem index_of_none {fs : List Field} {type : FieldType} {name : CString}
    (hnone : addedUnder fs type name = []) :
    ∀ i : Nat, (0 : Int) = i → (addedUnder fs type name).length ≤ i := by
  intro i _
  rw [hnone]
  exact Nat.zero_le i

section

variable {fs : List Field} (hfs : ∀ g ∈ fs, g.Valid) (hlt : (encodeCard fs).length < 2 ^ 32)
  {p : InPostcard} (hp : Opened (encodeCard fs) p) {name : CString}

include hfs hlt hp

theorem getSimple_found {t : SimpleType} {v : t.Value}
    (hf : (addedUnder fs (.simple t) name)[0]? = some (.simple t name v)) :
    Outcome (encodeCard fs) (p.getSimple (some name) t) 0 (some v) := by
  obtain ⟨front, back, rest, hfind, hroom, hmem⟩ := findField_found hfs hlt hp hf
  have hextract : (placed (encodeCard fs).length front
      ((Field.simple t name v).value ++ back)).extract t.size =
      (0, SimpleType.toBytes v, placed (encodeCard fs).length
        (front ++ SimpleType.toBytes v) back) := by
    have hlen := SimpleType.toBytes_length v
    exact extract_placed hlen t.size_pos (by rw [← hlen]; exact hroom)
  have hopened : Opened (encodeCard fs)
      ⟨placed (encodeCard fs).length (front ++ SimpleType.toBytes v) back⟩ :=
    opened_placed rest (by rw [List.append_assoc]; exact hmem)
  unfold getSimple
  simp only [show findField p.pIn (.simple t) (some name) 0 = _ from hfind, hextract, if_true,
    ne_eq, not_true_eq_false, if_false, SimpleType.ofBytes_toBytes]
  exact ⟨rfl, rfl, hopened⟩

theorem getSimple_missing (hname : name.bytes ≠ []) {t : SimpleType}
    (hnone : addedUnder fs (.simple t) name = []) :
    Outcome (encodeCard fs) (p.getSimple (some name) t) fieldNotFound none := by
  obtain ⟨front, back, rest, hfind, hmem⟩ :=
    findField_missing hfs hlt hp hname (index_of_none hnone)
  unfold getSimple
  simp only [hfind]
  exact ⟨rfl, rfl, opened_placed rest hmem⟩

/-- A field whose value has its length before it is found with that length; the memory it
gives begins with the value, with or without the length. -/
theorem getBlobByType_found {type : FieldType} {i : Nat} {f : Field} {x : List UInt8}
    (hf : (addedUnder fs type name)[i]? = some f)
    (hvalue : f.value = leBytes 4 x.length ++ x) (hx : x ≠ []) (pass : Bool) :
    ∃ back, Outcome (encodeCard fs) (p.getBlobByType (some name) type pass i) 0
      (some ((if pass then x else f.value) ++ back, x.length)) := by
  obtain ⟨front, back, rest, hfind, hroom, hmem⟩ := findField_found hfs hlt hp hf
  have hlen : f.value.length = 4 + x.length := by
    rw [hvalue, List.length_append, leBytes_length]
  have hlength : (placed (encodeCard fs).length front (f.value ++ back)).extract 4 =
      (0, leBytes 4 x.length, placed (encodeCard fs).length (front ++ leBytes 4 x.length)
        (x ++ back)) := by
    rw [hvalue, List.append_assoc]
    exact extract_placed (leBytes_length 4 _) (by decide) (by omega)
  have hdata : (placed (encodeCard fs).length (front ++ leBytes 4 x.length)
      (x ++ back)).extract x.length =
      (0, x, placed (encodeCard fs).length (front ++ leBytes 4 x.length ++ x) back) :=
    extract_placed rfl (List.length_pos_iff.mpr hx)
      (by rw [List.length_append, leBytes_length]; omega)
  have hxlt : x.length < 2 ^ 32 := by omega
  have hall : front ++ leBytes 4 x.length ++ x ++ back = encodeCard fs ++ rest := by
    rw [← hmem, hvalue]
    simp
  refine ⟨back, ?_⟩
  unfold getBlobByType
  simp only [hfind, hlength, hdata, ofLeBytes_four hxlt, if_true, ne_eq, not_true_eq_false,
    if_false, placed_getCursor]
  refine ⟨rfl, ?_, opened_placed rest hall⟩
  cases pass with
  | true =>
    simp [placed]
  | false =>
    simp [placed, hvalue]

theorem getBlobByType_missing (hname : name.bytes ≠ []) {type : FieldType} {index : Int}
    (hindex : ∀ i : Nat, index = i → (addedUnder fs type name).length ≤ i) (pass : Bool) :
    Outcome (encodeCard fs) (p.getBlobByType (some name) type pass index) fieldNotFound none := by
  obtain ⟨front, back, rest, hfind, hmem⟩ := findField_missing hfs hlt hp hname hindex
  unfold getBlobByType
  simp only [hfind]
  exact ⟨rfl, rfl, opened_placed rest hmem⟩

theorem getBlob_found {bytes : List UInt8}
    (hf : (addedUnder fs .blob name)[0]? = some (.blob name bytes)) :
    ∃ mem, Outcome (encodeCard fs) (p.getBlob (some name)) 0 (some (mem, bytes.length)) ∧
      mem.take bytes.length = bytes := by
  have hne : bytes ≠ [] := (hfs _ (matches_of_addedUnder hf).1).value_ok
  obtain ⟨back, hout⟩ := getBlobByType_found hfs hlt hp hf rfl hne true
  exact ⟨bytes ++ back, hout, List.take_left⟩

theorem getString_found {str : CString}
    (hf : (addedUnder fs .string name)[0]? = some (.string name str)) :
    Outcome (encodeCard fs) (p.getString (some name)) 0 (some str) := by
  have hne : str.withNul ≠ [] := by simp [CString.withNul]
  obtain ⟨back, hout⟩ : ∃ back, Outcome (encodeCard fs)
      (p.getBlobByType (some name) .string true 0) 0
      (some (str.withNul ++ back, str.withNul.length)) :=
    getBlobByType_found hfs hlt hp hf rfl hne true
  obtain ⟨p', hblob, hopened⟩ := hout.eq
  have hlast : (str.withNul ++ back).getD (str.withNul.length - 1) 0 = 0 := by
    simp [CString.withNul]
  have hstr : cStringAt (str.withNul ++ back) = str := by
    have htake : (str.withNul ++ back).takeWhile (· ≠ 0) = str.bytes := by
      rw [CString.withNul, List.append_assoc, List.takeWhile_append_of_pos]
      · simp
      · intro b hb
        have : b ≠ 0 := fun h => str.noNul (h ▸ hb)
        simpa using this
    cases str
    simp only [cStringAt]
    congr
  unfold getString
  simp only [hblob]
  rw [if_neg (by simp), if_neg (by simpa using hlast), hstr]
  exact ⟨rfl, rfl, hopened⟩

theorem getString_missing (hname : name.bytes ≠ [])
    (hnone : addedUnder fs .string name = []) :
    Outcome (encodeCard fs) (p.getString (some name)) fieldNotFound none := by
  obtain ⟨p', hblob, hopened⟩ :=
    (getBlobByType_missing hfs hlt hp hname (index_of_none hnone) true).eq
  unfold getString
  simp only [hblob]
  exact ⟨rfl, rfl, hopened⟩

omit hfs hlt hp in
theorem valuesAt_flatMap {t : SimpleType} (elems : List t.Value) (back : List UInt8) :
    valuesAt t elems.length (elems.flatMap SimpleType.toBytes ++ back) = elems := by
  induction elems with
  | nil => rfl
  | cons v elems ih =>
    rw [List.flatMap_cons, List.append_assoc, List.length_cons, valuesAt,
      List.take_left' (SimpleType.toBytes_length v), SimpleType.ofBytes_toBytes,
      List.drop_left' (SimpleType.toBytes_length v), ih]

/-- The array is copied out to a caller with enough room; one that passes no array is told
the number of elements. -/
theorem getArray_found {t : SimpleType} {elems : List t.Value}
    (hf : (addedUnder fs (.array t) name)[0]? = some (.array t name elems)) (room : Int) :
    Outcome (encodeCard fs) (p.getArray (some name) t (some room) false) 0
        (some ([], (elems.length : Int))) ∧
      ((elems.length : Int) ≤ room →
        Outcome (encodeCard fs) (p.getArray (some name) t (some room) true) 0
          (some (elems, (elems.length : Int)))) := by
  obtain ⟨hne, hint⟩ : elems ≠ [] ∧ elems.length < 2 ^ 31 :=
    (hfs _ (matches_of_addedUnder hf).1).value_ok
  have hlen := flatMap_toBytes_length elems
  have hpos : 0 < elems.length := List.length_pos_iff.mpr hne
  have hx : elems.flatMap SimpleType.toBytes ≠ [] := by
    refine List.ne_nil_of_length_pos ?_
    rw [hlen]
    exact Nat.mul_pos hpos t.size_pos
  obtain ⟨back, hout⟩ : ∃ back, Outcome (encodeCard fs)
      (p.getBlobByType (some name) (.array t) true 0) 0
      (some (elems.flatMap SimpleType.toBytes ++ back,
        (elems.flatMap SimpleType.toBytes).length)) :=
    getBlobByType_found hfs hlt hp hf (by rw [hlen]; rfl) hx true
  obtain ⟨p', hblob, hopened⟩ := hout.eq
  have hdiv : elems.length * t.size / t.size = elems.length :=
    Nat.mul_div_cancel _ t.size_pos
  unfold getArray
  simp only [hblob, hlen, Nat.mul_mod_left, hdiv, toInt_of_lt hint, ne_eq, not_true_eq_false,
    if_false]
  rw [if_neg (show ¬ (elems.length : Int) = 0 by omega),
    if_neg (show ¬ (elems.length : Int) = 0 by omega)]
  refine ⟨⟨rfl, rfl, hopened⟩, fun hroom => ?_⟩
  rw [if_pos trivial, if_neg (by omega), valuesAt_flatMap]
  exact ⟨rfl, rfl, hopened⟩

/-- `getArray` reports a missing array with a code of its own. -/
theorem getArray_missing (hname : name.bytes ≠ []) {t : SimpleType}
    (hnone : addedUnder fs (.array t) name = []) (room : Int) (withArray : Bool) :
    Outcome (encodeCard fs) (p.getArray (some name) t (some room) withArray) 4 none := by
  obtain ⟨p', hblob, hopened⟩ :=
    (getBlobByType_missing hfs hlt hp hname (index_of_none hnone) true).eq
  unfold getArray
  simp only [hblob]
  exact ⟨rfl, rfl, hopened⟩

/-- The card under a name with the index asked for is opened on its own bytes. -/
theorem getCard_found {i : Nat} {bytes : List UInt8}
    (hf : (addedUnder fs .card name)[i]? = some (.card name bytes)) :
    ∃ card, Outcome (encodeCard fs) (p.getCard (true, true) (some name) i) 0 (some card) ∧
      Opened bytes card := by
  obtain ⟨body, hne, rfl⟩ := (hfs _ (matches_of_addedUnder hf).1).value_ok
  obtain ⟨back, hout⟩ : ∃ back, Outcome (encodeCard fs)
      (p.getBlobByType (some name) .card false i) 0
      (some ((leBytes 4 body.length ++ body) ++ back, body.length)) :=
    getBlobByType_found hfs hlt hp hf rfl hne false
  obtain ⟨p', hblob, hopened⟩ := hout.eq
  have hlen : body.length + 4 = (leBytes 4 body.length ++ body).length := by
    rw [List.length_append, leBytes_length, Nat.add_comm]
  refine ⟨⟨setBufferNoDup (leBytes 4 body.length ++ body ++ back) (body.length + 4)⟩, ?_, ?_⟩
  · unfold getCard
    simp only [hblob, InPostcard.init]
    exact ⟨rfl, rfl, hopened⟩
  · exact ⟨hlen, back, rfl⟩

theorem getCard_missing (hname : name.bytes ≠ []) {index : Int}
    (hindex : ∀ i : Nat, index = i → (addedUnder fs .card name).length ≤ i) :
    Outcome (encodeCard fs) (p.getCard (true, true) (some name) index) fieldNotFound none := by
  obtain ⟨p', hblob, hopened⟩ := (getBlobByType_missing hfs hlt hp hname hindex false).eq
  unfold getCard
  simp only [hblob]
  exact ⟨rfl, rfl, hopened⟩

end

/-! ## The round trip -/

/-- The card `p`, opened on the bytes of a card to which the fields `fs` were added, gives
them back: each getter the first field of its type and name, and `getCard` the nested card
with its index, opened on its own bytes; and where there is no such field, the getters that
tell report that it was not found. -/
structure ReadsBack (fs : List Field) (bytes : List UInt8) (p : InPostcard) : Prop where
  simple : ∀ t name v, (addedUnder fs (.simple t) name)[0]? = some (.simple t name v) →
    Outcome bytes (p.getSimple (some name) t) 0 (some v)
  simple_missing : ∀ t name, name.bytes ≠ [] → addedUnder fs (.simple t) name = [] →
    Outcome bytes (p.getSimple (some name) t) fieldNotFound none ∧
      Outcome bytes (orDefault (p.getSimple (some name) t)) 0 none
  bool : ∀ name b, (addedUnder fs (.simple .bool) name)[0]? =
      some (.simple .bool name (if b then 1 else 0)) →
    Outcome bytes (p.getBool (some name)) 0 (some b)
  string : ∀ name str, (addedUnder fs .string name)[0]? = some (.string name str) →
    Outcome bytes (p.getString (some name)) 0 (some str) ∧
      Outcome bytes (p.getStringDup true (some name)) 0 (some str)
  string_missing : ∀ name, name.bytes ≠ [] → addedUnder fs .string name = [] →
    Outcome bytes (p.getString (some name)) fieldNotFound none ∧
      Outcome bytes (p.getStringDup true (some name)) fieldNotFound none
  blob : ∀ name blob, (addedUnder fs .blob name)[0]? = some (.blob name blob) →
    ∃ mem, Outcome bytes (p.getBlob (some name)) 0 (some (mem, blob.length)) ∧
      mem.take blob.length = blob
  blob_missing : ∀ name, name.bytes ≠ [] → addedUnder fs .blob name = [] →
    Outcome bytes (p.getBlob (some name)) fieldNotFound none
  array : ∀ t name elems, (addedUnder fs (.array t) name)[0]? = some (.array t name elems) →
    ∀ room : Int, Outcome bytes (p.getArray (some name) t (some room) false) 0
        (some ([], (elems.length : Int))) ∧
      ((elems.length : Int) ≤ room →
        Outcome bytes (p.getArray (some name) t (some room) true) 0
          (some (elems, (elems.length : Int))))
  array_missing : ∀ t name, name.bytes ≠ [] → addedUnder fs (.array t) name = [] →
    ∀ (room : Int) (withArray : Bool),
      Outcome bytes (p.getArray (some name) t (some room) withArray) 4 none
  card : ∀ name (i : Nat) nested, (addedUnder fs .card name)[i]? = some (.card name nested) →
    ∃ card, Outcome bytes (p.getCard (true, true) (some name) i) 0 (some card) ∧
      Opened nested card
  card_missing : ∀ name (index : Int), name.bytes ≠ [] →
    (∀ i : Nat, index = i → (addedUnder fs .card name).length ≤ i) →
    Outcome bytes (p.getCard (true, true) (some name) index) fieldNotFound none

theorem readsBack_of_builds {alloc : Allocator} {c c' : OutPostcard} {fs : List Field}
    (hbuilt : Builds c fs) (hfin : c.finalize alloc = (0, c'))
    (hlt : (encodeCard fs).length < 2 ^ 32) {p : InPostcard} (hopen : Opened c'.encoded p) :
    ReadsBack fs c'.encoded p := by
  have hfields : (encodeFields fs).length < 2 ^ 32 := by
    rw [encodeCard_length] at hlt
    omega
  obtain ⟨_, hfs⟩ := hbuilt.contents hfields
  rw [hbuilt.encoded hfin hlt] at hopen ⊢
  constructor
  · intro t name v hf
    exact getSimple_found hfs hlt hopen hf
  · intro t name hname hnone
    have h := getSimple_missing hfs hlt hopen hname hnone
    exact ⟨h, h.orDefault⟩
  · intro name b hf
    have h := (getSimple_found hfs hlt hopen hf).convert (fun u : BitVec 8 => u == 1)
    cases b <;> exact h
  · intro name str hf
    have h := getString_found hfs hlt hopen hf
    obtain ⟨p', hstr, hopened⟩ := h.eq
    refine ⟨h, ?_⟩
    unfold getStringDup
    simp only [hstr]
    exact ⟨rfl, rfl, hopened⟩
  · intro name hname hnone
    have h := getString_missing hfs hlt hopen hname hnone
    obtain ⟨p', hstr, hopened⟩ := h.eq
    refine ⟨h, ?_⟩
    unfold getStringDup
    simp only [hstr]
    exact ⟨rfl, rfl, hopened⟩
  · intro name blob hf
    exact getBlob_found hfs hlt hopen hf
  · intro name hname hnone
    exact getBlobByType_missing hfs hlt hopen hname (index_of_none hnone) true
  · intro t name elems hf room
    exact getArray_found hfs hlt hopen hf room
  · intro t name hname hnone room withArray
    exact getArray_missing hfs hlt hopen hname hnone room withArray
  · intro name i nested hf
    exact getCard_found hfs hlt hopen hf
  · intro name index hname hindex
    exact getCard_missing hfs hlt hopen hname hindex

theorem zeros_length (n : Nat) : (List.replicate n (0 : UInt8)).length = n :=
  List.length_replicate

/-- An allocator that always succeeds. -/
def zeroed : Allocator := fun n => some ⟨List.replicate n 0, zeros_length n⟩

theorem sampleName_noNul : (0 : UInt8) ∉ [97] := by decide

/-- The name "a". -/
def sampleName : CString := ⟨[97], sampleName_noNul⟩

/-- A new card, after `init`. -/
def emptyCard : OutPostcard := (OutPostcard.preInit.init zeroed true).2

/-- A card with one value, and that card nested in another beside a string of the same
name. -/
def innerCard : OutPostcard := (emptyCard.addUInt8 zeroed (some sampleName) 5).2
def innerDone : OutPostcard := (innerCard.finalize zeroed).2
def outerString : OutPostcard :=
  (emptyCard.addString zeroed (some sampleName) (some sampleName)).2
def outerCard : OutPostcard := (outerString.addCard zeroed (some sampleName) (some innerDone)).2
def outerDone : OutPostcard := (outerCard.finalize zeroed).2

theorem emptyCard_builds : Builds emptyCard [] :=
  .init (show OutPostcard.preInit.init zeroed true = (0, emptyCard) from rfl) (by decide)

theorem innerCard_builds : Builds innerCard [.simple .uint8 sampleName 5] :=
  .simple emptyCard_builds
    (show emptyCard.addUInt8 zeroed (some sampleName) 5 = (0, innerCard) from rfl)

theorem outerCard_builds :
    Builds outerCard [.string sampleName sampleName, .card sampleName innerDone.encoded] :=
  .card
    (.string emptyCard_builds
      (show emptyCard.addString zeroed (some sampleName) (some sampleName) = (0, outerString)
        from rfl))
    innerCard_builds
    (show innerCard.finalize zeroed = (0, innerDone) from rfl)
    (show outerString.addCard zeroed (some sampleName) (some innerDone) = (0, outerCard) from rfl)

end LocationStack.Postcard
