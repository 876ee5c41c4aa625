import LocationStack.Postcard.Encoding
import LocationStack.Postcard.In

/-! # The scan of a postcard

A getter's scan is followed field by field: over a valid field it lands on the next one
(`scanField_encode`), so that it finds the first field of the type and name asked for, or
for a card the one after `index` others, and reports none where there is none
(`findField_found`, `findField_missing`).
-/
namespace LocationStack.Postcard

open LittleEndian InMemoryStream InPostcard

/-- The field has the type and the name asked for. -/
def Field.matches (f : Field) (type : FieldType) (name : CString) : Bool :=
  decide (f.type = type) && decide (f.name = name)

theorem Field.matches_iff {f : Field} {type : FieldType} {name : CString} :
    f.matches type name = true ↔ f.type = type ∧ f.name = name := by
  simp [Field.matches]

theorem Field.value_ne_nil {f : Field} (hf : f.Valid) : f.value ≠ [] := by
  cases f with
  | simple t name v =>
    refine List.ne_nil_of_length_pos ?_
    simpa [Field.value] using t.size_pos
  | string | blob | array => simp [Field.value, leBytes]
  | card name bytes =>
    obtain ⟨body, hne, hbody⟩ := hf.value_ok
    simp [Field.value, hbody, hne]

/-- A number of four bytes that fits is read back. -/
theorem ofLeBytes_four {n : Nat} (h : n < 2 ^ 32) : ofLeBytes (leBytes 4 n) = n :=
  ofLeBytes_leBytes_of_lt (by omega)

/-- A number of two bytes that fits is read back. -/
theorem ofLeBytes_two {n : Nat} (h : n < 2 ^ 16) : ofLeBytes (leBytes 2 n) = n :=
  ofLeBytes_leBytes_of_lt (by omega)

/-! ## Passing over a field -/

theorem skipValue_placed {capacity : Nat} {front x back : List UInt8} (hx : x ≠ [])
    (hcap : front.length + x.length ≤ capacity) :
    skipValue (placed capacity front (x ++ back)) x.length =
      (0, placed capacity (front ++ x) back) := by
  have hpos : 0 < x.length := List.length_pos_iff.mpr hx
  simp [skipValue, Nat.pos_iff_ne_zero.mp hpos, extract_placed rfl hpos hcap]

/-- The types whose values have their length before them. -/
def FieldType.isPrefixed : FieldType → Bool
  | .string | .card | .blob | .array _ => true
  | .unknown | .simple _ => false

/-- Passing over a block with its length before it. -/
theorem skipValueByType_prefixed {type : FieldType} (htype : type.isPrefixed = true)
    {capacity : Nat} {front x back : List UInt8} (hx : x ≠ []) (hlt : x.length < 2 ^ 32)
    (hcap : front.length + (4 + x.length) ≤ capacity) :
    skipValueByType (placed capacity front (leBytes 4 x.length ++ x ++ back)) type.code =
      (0, placed capacity (front ++ (leBytes 4 x.length ++ x)) back) := by
  have hlength : (placed capacity front (leBytes 4 x.length ++ x ++ back)).extract 4 =
      (0, leBytes 4 x.length, placed capacity (front ++ leBytes 4 x.length) (x ++ back)) := by
    rw [List.append_assoc]
    exact extract_placed (leBytes_length 4 _) (by decide) (by omega)
  have hskip : skipValue (placed capacity (front ++ leBytes 4 x.length) (x ++ back)) x.length =
      (0, placed capacity (front ++ (leBytes 4 x.length ++ x)) back) := by
    rw [skipValue_placed hx (by simp; omega), List.append_assoc]
  have hpos : x.length ≥ 1 := List.length_pos_iff.mpr hx
  unfold skipValueByType
  rw [FieldType.ofCode?_code]
  cases type with
  | unknown | simple t => cases htype
  | string | card | blob | array t =>
    simp only [hlength, ofLeBytes_four hlt, hskip, hpos, if_true, ne_eq, not_true_eq_false,
      if_false]

/-- `skipValueByType` passes over exactly the value of a valid field. -/
theorem skipValueByType_value {f : Field} (hf : f.Valid) {capacity : Nat}
    {front back : List UInt8} (hcap : front.length + f.value.length ≤ capacity) :
    skipValueByType (placed capacity front (f.value ++ back)) f.type.code =
      (0, placed capacity (front ++ f.value) back) := by
  have hlt := hf.value_lt
  have hok := hf.value_ok
  cases f with
  | simple t name v =>
    have hne : SimpleType.toBytes v ≠ [] := Field.value_ne_nil hf
    have hskip : skipValue (placed capacity front (SimpleType.toBytes v ++ back))
        (SimpleType.toBytes v).length = _ := skipValue_placed hne hcap
    rw [SimpleType.toBytes_length] at hskip
    unfold skipValueByType
    rw [FieldType.ofCode?_code]
    exact hskip
  | string name str =>
    simp only [Field.value, List.length_append, leBytes_length] at hlt hcap
    have hne : str.withNul ≠ [] := by simp [CString.withNul]
    exact skipValueByType_prefixed rfl hne (by omega) hcap
  | blob name bytes =>
    simp only [Field.value, List.length_append, leBytes_length] at hlt hcap
    have hne : bytes ≠ [] := hok
    exact skipValueByType_prefixed rfl hne (by omega) hcap
  | array t name elems =>
    have hlen := flatMap_toBytes_length elems
    have hne : elems.flatMap SimpleType.toBytes ≠ [] := by
      refine List.ne_nil_of_length_pos ?_
      rw [hlen]
      exact Nat.mul_pos (List.length_pos_iff.mpr hok.1) t.size_pos
    simp only [Field.value, List.length_append, leBytes_length] at hlt hcap
    have hprefixed : (FieldType.array t).isPrefixed = true := rfl
    have hskip : skipValueByType (placed capacity front
        (leBytes 4 (elems.flatMap SimpleType.toBytes).length ++
          elems.flatMap SimpleType.toBytes ++ back)) (FieldType.array t).code = _ :=
      skipValueByType_prefixed hprefixed hne (by omega) hcap
    rw [hlen] at hskip
    exact hskip
  | card name bytes =>
    obtain ⟨body, hne, rfl⟩ := hok
    simp only [Field.value, List.length_append, leBytes_length] at hlt hcap
    have hprefixed : FieldType.card.isPrefixed = true := rfl
    exact skipValueByType_prefixed hprefixed hne (by omega) hcap

/-- `strncmp` at the recorded name tells whether the names are equal, given that they are
equally long. -/
theorem nameAtCursor_name {capacity : Nat} {front back : List UInt8} {name name' : CString}
    (hlen : name'.bytes.length = name.bytes.length) :
    nameAtCursor (placed capacity front (name'.withNul ++ back)) name = decide (name' = name) := by
  have htake : ((front ++ (name'.withNul ++ back)).drop front.length).take name.bytes.length =
      name'.bytes := by
    rw [List.drop_left, ← hlen, CString.withNul, List.append_assoc, List.take_left]
  simp only [nameAtCursor, placed, htake]
  by_cases h : name' = name
  · simp [h]
  · have hb : name'.bytes ≠ name.bytes := by
      intro hb
      exact h (by cases name'; cases name; simp_all)
    simp [h, hb]

/-- **One iteration over a valid field**: it stops at the value of the field that is asked
for, and lands on the next field otherwise. -/
theorem scanField_encode {f : Field} (hf : f.Valid) {type : FieldType} {name : CString}
    {index matchCount : Int} {cardLength capacity : Nat} {front back : List UInt8}
    (hcard : front.length + f.encode.length < cardLength + 4) (hcap : cardLength + 4 ≤ capacity) :
    scanField type.code name index cardLength (placed capacity front (f.encode ++ back))
        matchCount =
      if f.matches type name = true ∧ index = matchCount then
        .stop 0 (placed capacity (front ++ f.header) (f.value ++ back))
      else
        .next (placed capacity (front ++ f.encode) back)
          (if f.matches type name = true then matchCount + 1 else matchCount) := by
  have hnamelt := hf.name_lt
  have hcode := f.type.code_lt
  have hlen : f.encode.length = 2 + 2 + (f.name.bytes.length + 1) + f.value.length := by
    simp [Field.encode, Field.header]
    omega
  have hvalpos : 0 < f.value.length := List.length_pos_iff.mpr (Field.value_ne_nil hf)
  have htype : (placed capacity front (f.encode ++ back)).extract 2 =
      (0, leBytes 2 f.type.code, placed capacity (front ++ leBytes 2 f.type.code)
        (leBytes 2 (f.name.bytes.length + 1) ++ (f.name.withNul ++ (f.value ++ back)))) := by
    rw [show f.encode ++ back = leBytes 2 f.type.code ++
      (leBytes 2 (f.name.bytes.length + 1) ++ (f.name.withNul ++ (f.value ++ back))) by
        simp [Field.encode, Field.header]]
    exact extract_placed (leBytes_length 2 _) (by decide) (by omega)
  have hname : (placed capacity (front ++ leBytes 2 f.type.code)
      (leBytes 2 (f.name.bytes.length + 1) ++ (f.name.withNul ++ (f.value ++ back)))).extract 2 =
      (0, leBytes 2 (f.name.bytes.length + 1),
        placed capacity (front ++ leBytes 2 f.type.code ++ leBytes 2 (f.name.bytes.length + 1))
          (f.name.withNul ++ (f.value ++ back))) :=
    extract_placed (leBytes_length 2 _) (by decide) (by simp; omega)
  have hskip : (placed capacity
      (front ++ leBytes 2 f.type.code ++ leBytes 2 (f.name.bytes.length + 1))
      (f.name.withNul ++ (f.value ++ back))).extract (f.name.bytes.length + 1) =
      (0, f.name.withNul, placed capacity (front ++ f.header) (f.value ++ back)) := by
    rw [show front ++ f.header = front ++ leBytes 2 f.type.code ++
      leBytes 2 (f.name.bytes.length + 1) ++ f.name.withNul by simp [Field.header]]
    exact extract_placed (CString.withNul_length _) (by omega) (by simp; omega)
  have hvalue : skipValueByType (placed capacity (front ++ f.header) (f.value ++ back))
      f.type.code = (0, placed capacity (front ++ f.encode) back) := by
    rw [skipValueByType_value hf (by simp [Field.header]; omega), List.append_assoc]
    rfl
  have hmatch : (type.code == f.type.code && (f.name.bytes.length + 1 == name.bytes.length + 1) &&
      nameAtCursor (placed capacity
        (front ++ leBytes 2 f.type.code ++ leBytes 2 (f.name.bytes.length + 1))
        (f.name.withNul ++ (f.value ++ back))) name) = f.matches type name := by
    by_cases hlen' : f.name.bytes.length = name.bytes.length
    · rw [nameAtCursor_name hlen', Field.matches]
      have : (type.code == f.type.code) = decide (f.type = type) := by
        rw [Bool.eq_iff_iff]
        simp only [beq_iff_eq, decide_eq_true_eq]
        exact ⟨fun h => (FieldType.code_injective h).symm, fun h => by rw [h]⟩
      rw [this]
      simp [hlen']
    · have hne : f.name ≠ name := fun h => hlen' (by rw [h])
      simp [Field.matches, hne, hlen']
  unfold scanField
  have hcursor : (placed capacity front (f.encode ++ back)).getCursor < cardLength + 4 := by
    simp only [placed_getCursor]
    omega
  have hmore : cardLength + 4 - (placed capacity front (f.encode ++ back)).getCursor ≠ 1 := by
    simp only [placed_getCursor]
    omega
  rw [if_pos hcursor, if_neg hmore]
  simp only [htype, hname, ofLeBytes_two (show f.name.bytes.length + 1 < 2 ^ 16 by
    simp only [maxEncodeNameLength] at hnamelt; omega),
    ofLeBytes_two (show f.type.code < 2 ^ 16 by omega), hskip, hvalue, hmatch]
  by_cases hm : f.matches type name = true
  · by_cases hi : index = matchCount <;> simp [hm, hi]
  · simp [hm]

/-- Where only the zero byte is left, the field is not there. -/
theorem scanField_end {type : Nat} {name : CString} {index matchCount : Int}
    {cardLength capacity : Nat} {front back : List UInt8}
    (hend : front.length + 1 = cardLength + 4) :
    scanField type name index cardLength (placed capacity front back) matchCount =
      .stop fieldNotFound (placed capacity front back) := by
  unfold scanField
  rw [if_pos (by simp only [placed_getCursor]; omega),
    if_pos (by simp only [placed_getCursor]; omega)]

theorem scanFields_stop {type : Nat} {name : CString} {index matchCount : Int}
    {cardLength : Nat} {s s' : InMemoryStream} {result : Int}
    (h : scanField type name index cardLength s matchCount = .stop result s') :
    scanFields type name index cardLength s matchCount = (result, s') := by
  rw [scanFields]
  split <;> simp_all

theorem scanFields_next {type : Nat} {name : CString} {index matchCount matchCount' : Int}
    {cardLength : Nat} {s s' : InMemoryStream}
    (h : scanField type name index cardLength s matchCount = .next s' matchCount') :
    scanFields type name index cardLength s matchCount =
      scanFields type name index cardLength s' matchCount' := by
  rw [scanFields]
  split <;> simp_all

/-! ## The whole scan -/

/-- The scan stops at the matching field that comes after as many others as it was asked to
pass over. -/
theorem scanFields_found {type : FieldType} {name : CString} {index : Int}
    {cardLength capacity : Nat} {a b : List Field} {f : Field} {back : List UInt8}
    (ha : ∀ g ∈ a, g.Valid) (hf : f.Valid) (hmatch : f.matches type name = true)
    (hcap : cardLength + 4 ≤ capacity) {front : List UInt8} {matchCount : Int}
    (hindex : index = matchCount + (a.countP (·.matches type name) : Nat))
    (hcard : front.length + (encodeFields (a ++ f :: b)).length < cardLength + 4) :
    scanFields type.code name index cardLength
        (placed capacity front (encodeFields (a ++ f :: b) ++ back)) matchCount =
      (0, placed capacity (front ++ encodeFields a ++ f.header)
        (f.value ++ (encodeFields b ++ back))) := by
  induction a generalizing front matchCount with
  | nil =>
    have hindex' : index = matchCount := by simpa using hindex
    simp only [List.nil_append, encodeFields_cons, List.length_append] at hcard
    refine scanFields_stop ?_
    rw [List.nil_append, encodeFields_cons, List.append_assoc,
      scanField_encode hf (by omega) hcap, if_pos ⟨hmatch, hindex'⟩]
    simp
  | cons g a ih =>
    have hg := ha g (List.mem_cons_self ..)
    simp only [List.cons_append, encodeFields_cons, List.length_append] at hcard
    have hnext : scanField type.code name index cardLength
        (placed capacity front (encodeFields (g :: a ++ f :: b) ++ back)) matchCount =
        .next (placed capacity (front ++ g.encode) (encodeFields (a ++ f :: b) ++ back))
          (if g.matches type name = true then matchCount + 1 else matchCount) := by
      rw [List.cons_append, encodeFields_cons, List.append_assoc,
        scanField_encode hg (by omega) hcap, if_neg]
      rintro ⟨hgm, hi⟩
      simp only [List.countP_cons, hgm, if_true] at hindex
      omega
    rw [scanFields_next hnext, ih (fun g' hg' => ha g' (List.mem_cons_of_mem _ hg'))]
    · simp
    · rw [hindex, List.countP_cons]
      split <;> omega
    · simp only [List.length_append]
      omega

/-- The scan comes to the end where there are too few matching fields. -/
theorem scanFields_missing {type : FieldType} {name : CString} {index : Int}
    {cardLength capacity : Nat} {fs : List Field} {back : List UInt8}
    (hfs : ∀ g ∈ fs, g.Valid) (hcap : cardLength + 4 ≤ capacity) {front : List UInt8}
    {matchCount : Int}
    (hindex : ∀ n : Nat, n < fs.countP (·.matches type name) → index ≠ matchCount + n)
    (hcard : front.length + (encodeFields fs).length + 1 = cardLength + 4) :
    scanFields type.code name index cardLength
        (placed capacity front (encodeFields fs ++ back)) matchCount =
      (fieldNotFound, placed capacity (front ++ encodeFields fs) back) := by
  induction fs generalizing front matchCount with
  | nil =>
    refine scanFields_stop ?_
    rw [scanField_end (by simpa using hcard)]
    simp
  | cons g fs ih =>
    have hg := hfs g (List.mem_cons_self ..)
    simp only [encodeFields_cons, List.length_append] at hcard
    have hnext : scanField type.code name index cardLength
        (placed capacity front (encodeFields (g :: fs) ++ back)) matchCount =
        .next (placed capacity (front ++ g.encode) (encodeFields fs ++ back))
          (if g.matches type name = true then matchCount + 1 else matchCount) := by
      rw [encodeFields_cons, List.append_assoc, scanField_encode hg (by omega) hcap, if_neg]
      rintro ⟨hgm, hi⟩
      refine hindex 0 ?_ (by simpa using hi)
      simp [hgm]
    rw [scanFields_next hnext, ih (fun g' hg' => hfs g' (List.mem_cons_of_mem _ hg'))]
    · simp
    · intro n hn
      split
      · rename_i hgm
        have := hindex (n + 1) (by simpa [List.countP_cons, hgm] using hn)
        omega
      · rename_i hgm
        exact hindex n (by simpa [List.countP_cons, hgm] using hn)
    · simp only [List.length_append]
      omega

/-! ## Finding a field in a card -/

/-- The card was opened on these bytes, which may be followed by others in memory; its
cursor may be anywhere. -/
structure Opened (bytes : List UInt8) (p : InPostcard) : Prop where
  capacity : p.pIn.capacity = bytes.length
  memory : ∃ rest, p.pIn.pData = some (bytes ++ rest)

/-- A card whose stream stands somewhere in its bytes is still open. -/
theorem opened_placed {bytes front back : List UInt8} (rest : List UInt8)
    (h : front ++ back = bytes ++ rest) : Opened bytes ⟨placed bytes.length front back⟩ :=
  ⟨rfl, rest, by simp [placed, h]⟩

/-- All the fields added with this type and this name, in order. -/
def addedUnder (fs : List Field) (type : FieldType) (name : CString) : List Field :=
  fs.filter (·.matches type name)

/-- The `i`-th element that a test keeps comes after `i` others that it keeps. -/
theorem exists_split_of_getElem?_filter {α : Type} {q : α → Bool} {l : List α} {i : Nat} {x : α}
    (h : (l.filter q)[i]? = some x) :
    ∃ a b, l = a ++ x :: b ∧ q x = true ∧ a.countP q = i := by
  induction l generalizing i with
  | nil => simp at h
  | cons y l ih =>
    by_cases hy : q y = true
    · rw [List.filter_cons_of_pos hy] at h
      cases i with
      | zero =>
        simp only [List.getElem?_cons_zero, Option.some.injEq] at h
        subst h
        exact ⟨[], l, rfl, hy, rfl⟩
      | succ i =>
        obtain ⟨a, b, rfl, hx, hcount⟩ := ih (by simpa using h)
        exact ⟨y :: a, b, rfl, hx, by rw [List.countP_cons_of_pos hy, hcount]⟩
    · rw [List.filter_cons_of_neg hy] at h
      obtain ⟨a, b, rfl, hx, hcount⟩ := ih h
      exact ⟨y :: a, b, rfl, hx, by rw [List.countP_cons_of_neg hy, hcount]⟩

/-- What `findField` does before it scans: it stands after the length of the card. -/
theorem findField_opened {fs : List Field} (hlt : (encodeCard fs).length < 2 ^ 32)
    {p : InPostcard} (hp : Opened (encodeCard fs) p) :
    ∃ rest, ∀ {type : FieldType} {name : CString} {index : Int}, name.bytes ≠ [] →
      findField p.pIn type (some name) index =
        scanFields type.code name index ((encodeFields fs).length + 1)
          (placed (encodeCard fs).length (leBytes 4 ((encodeFields fs).length + 1))
            (encodeFields fs ++ ([0] ++ rest))) 0 := by
  obtain ⟨hcap, rest, hmem⟩ := hp
  refine ⟨rest, ?_⟩
  intro type name index hname
  have hlen := encodeCard_length fs
  have hstart : p.pIn.setGetCursor 0 =
      (0, placed (encodeCard fs).length [] (encodeCard fs ++ rest)) := by
    simp [InMemoryStream.setGetCursor, placed, ← hcap, ← hmem]
  have hcard : (placed (encodeCard fs).length [] (encodeCard fs ++ rest)).extract 4 =
      (0, leBytes 4 ((encodeFields fs).length + 1),
        placed (encodeCard fs).length (leBytes 4 ((encodeFields fs).length + 1))
          (encodeFields fs ++ ([0] ++ rest))) := by
    rw [show encodeCard fs ++ rest = leBytes 4 ((encodeFields fs).length + 1) ++
      (encodeFields fs ++ ([0] ++ rest)) by simp [encodeCard]]
    exact extract_placed (leBytes_length 4 _) (by decide) (by simp; omega)
  have hname' : name.bytes.length ≠ 0 := by simpa using hname
  unfold findField
  simp only [hstart, hcard, hname', ne_eq, not_true_eq_false, if_false]
  rw [ofLeBytes_four (by omega)]

/-- **A field that is there is found**: the cursor is left at its value. -/
theorem findField_found {fs : List Field} (hfs : ∀ g ∈ fs, g.Valid)
    (hlt : (encodeCard fs).length < 2 ^ 32) {p : InPostcard} (hp : Opened (encodeCard fs) p)
    {type : FieldType} {name : CString} {i : Nat} {f : Field}
    (hf : (addedUnder fs type name)[i]? = some f) :
    ∃ front back rest, findField p.pIn type (some name) i =
        (0, placed (encodeCard fs).length front (f.value ++ back)) ∧
      front.length + f.value.length ≤ (encodeCard fs).length ∧
      front ++ (f.value ++ back) = encodeCard fs ++ rest := by
  obtain ⟨a, b, rfl, hmatch, hcount⟩ := exists_split_of_getElem?_filter hf
  have hvalid : f.Valid := hfs f (by simp)
  have hname : name.bytes ≠ [] := by
    rw [← (Field.matches_iff.mp hmatch).2]
    exact hvalid.name_ne_nil
  obtain ⟨rest, hfind⟩ := findField_opened hlt hp
  have hlen := encodeCard_length (a ++ f :: b)
  refine ⟨leBytes 4 ((encodeFields (a ++ f :: b)).length + 1) ++ encodeFields a ++ f.header,
    encodeFields b ++ ([0] ++ rest), rest, ?_, ?_, ?_⟩
  · rw [hfind hname]
    refine scanFields_found (fun g hg => hfs g (by simp [hg])) hvalid hmatch (by omega) ?_ ?_
    · rw [hcount]
      simp
    · simp only [leBytes_length]
      omega
  · simp only [encodeFields_append, encodeFields_cons, Field.encode, List.length_append,
      leBytes_length] at hlen ⊢
    omega
  · simp [encodeCard, Field.encode]

/-- **A field that is not there is not found.** -/
theorem findField_missing {fs : List Field} (hfs : ∀ g ∈ fs, g.Valid)
    (hlt : (encodeCard fs).length < 2 ^ 32) {p : InPostcard} (hp : Opened (encodeCard fs) p)
    {type : FieldType} {name : CString} (hname : name.bytes ≠ []) {index : Int}
    (hindex : ∀ i : Nat, index = i → (addedUnder fs type name).length ≤ i) :
    ∃ front back rest, findField p.pIn type (some name) index =
        (fieldNotFound, placed (encodeCard fs).length front back) ∧
      front ++ back = encodeCard fs ++ rest := by
  obtain ⟨rest, hfind⟩ := findField_opened hlt hp
  have hlen := encodeCard_length fs
  refine ⟨leBytes 4 ((encodeFields fs).length + 1) ++ encodeFields fs, [0] ++ rest, rest, ?_, ?_⟩
  · rw [hfind hname]
    refine scanFields_missing hfs (by omega) ?_ ?_
    · intro n hn heq
      have := hindex n (by simpa using heq)
      rw [addedUnder, ← List.countP_eq_length_filter] at this
      omega
    · simp only [leBytes_length]
      omega
  · simp [encodeCard]

end LocationStack.Postcard
