import LocationStack.Postcard.Out

/-! # What a postcard holds

A card that is being written stands for the list of the fields added to it, in order
(`Builds`).  Its bytes are determined by that list: the encodings of the fields one
after another (`Builds.contents`), and once it is finalized, with the length before and
the zero byte after them (`Builds.encoded`).
-/
namespace LocationStack.Postcard

open LittleEndian

/-- A field of a card; a nested card is given by its encoded bytes. -/
inductive Field
  | simple (t : SimpleType) (name : CString) (value : t.Value)
  | string (name : CString) (str : CString)
  | blob (name : CString) (bytes : List UInt8)
  | array (t : SimpleType) (name : CString) (elems : List t.Value)
  | card (name : CString) (bytes : List UInt8)

namespace Field

def type : Field → FieldType
  | simple t _ _ => .simple t
  | string _ _ => .string
  | blob _ _ => .blob
  | array t _ _ => .array t
  | card _ _ => .card

def name : Field → CString
  | simple _ name _ | string name _ | blob name _ | array _ name _ | card name _ => name

/-- The bytes of the value: of a nested card, those of the card itself, and of the other
kinds without a fixed size, with their length before them. -/
def value : Field → List UInt8
  | simple _ _ v => SimpleType.toBytes v
  | string _ str => leBytes 4 str.withNul.length ++ str.withNul
  | blob _ bytes => leBytes 4 bytes.length ++ bytes
  | array t _ elems =>
      leBytes 4 (elems.length * t.size) ++ elems.flatMap SimpleType.toBytes
  | card _ bytes => bytes

/-- The type and the name as they are written before the value. -/
def header (f : Field) : List UInt8 :=
  leBytes 2 f.type.code ++ leBytes 2 (f.name.bytes.length + 1) ++ f.name.withNul

def encode (f : Field) : List UInt8 := f.header ++ f.value

/-- A field that the `add` functions accept, and whose value has a length that fits the
length written before it. -/
structure Valid (f : Field) : Prop where
  name_ne_nil : f.name.bytes ≠ []
  name_lt : f.name.bytes.length < maxEncodeNameLength
  value_lt : f.value.length < 2 ^ 32
  value_ok :
    match f with
    | simple _ _ _ | string _ _ => True
    | blob _ bytes => bytes ≠ []
    | array _ _ elems => elems ≠ [] ∧ elems.length < 2 ^ 31
    | card _ bytes => ∃ body, body ≠ [] ∧ bytes = leBytes 4 body.length ++ body

end Field

/-- The encoded fields one after another. -/
def encodeFields (fs : List Field) : List UInt8 := fs.flatMap Field.encode

/-- The bytes of a finalized card. -/
def encodeCard (fs : List Field) : List UInt8 :=
  leBytes 4 ((encodeFields fs).length + 1) ++ encodeFields fs ++ [0]

@[simp] theorem encodeFields_append (fs gs : List Field) :
    encodeFields (fs ++ gs) = encodeFields fs ++ encodeFields gs := by
  simp [encodeFields]

@[simp] theorem encodeFields_cons (f : Field) (fs : List Field) :
    encodeFields (f :: fs) = f.encode ++ encodeFields fs := by
  simp [encodeFields]

@[simp] theorem encodeFields_nil : encodeFields [] = [] := rfl

theorem encodeCard_length (fs : List Field) :
    (encodeCard fs).length = 4 + (encodeFields fs).length + 1 := by
  simp only [encodeCard, List.length_append, leBytes_length, List.length_cons, List.length_nil]

theorem flatMap_toBytes_length {t : SimpleType} (elems : List t.Value) :
    (elems.flatMap SimpleType.toBytes).length = elems.length * t.size := by
  induction elems with
  | nil => simp
  | cons v elems ih =>
    rw [List.flatMap_cons, List.length_append, ih, SimpleType.toBytes_length, List.length_cons,
      Nat.succ_mul, Nat.add_comm]

/-- The card `c` is the result of `init` and of calls that added the fields `fs`, in this
order, each of them successful. -/
inductive Builds : OutPostcard → List Field → Prop
  /-- `init`, with the placeholder for the length written. -/
  | init {alloc : Allocator} {c : OutPostcard}
      (hinit : OutPostcard.preInit.init alloc true = (0, c)) (hplaced : c.encoded ≠ []) :
      Builds c []
  | simple {alloc : Allocator} {c c' : OutPostcard} {fs : List Field} (h : Builds c fs)
      {name : CString} {t : SimpleType} {v : t.Value}
      (hadd : c.add alloc (some name) t v = (0, c')) : Builds c' (fs ++ [.simple t name v])
  | string {alloc : Allocator} {c c' : OutPostcard} {fs : List Field} (h : Builds c fs)
      {name str : CString} (hadd : c.addString alloc (some name) (some str) = (0, c')) :
      Builds c' (fs ++ [.string name str])
  | blob {alloc : Allocator} {c c' : OutPostcard} {fs : List Field} (h : Builds c fs)
      {name : CString} {bytes : List UInt8}
      (hadd : c.addBlob alloc (some name) (some bytes) = (0, c')) :
      Builds c' (fs ++ [.blob name bytes])
  /-- An array; the number of its elements is an `int`. -/
  | array {alloc : Allocator} {c c' : OutPostcard} {fs : List Field} (h : Builds c fs)
      {name : CString} {t : SimpleType} {elems : List t.Value} (hint : elems.length < 2 ^ 31)
      (hadd : c.addArray alloc (some name) t (some elems) = (0, c')) :
      Builds c' (fs ++ [.array t name elems])
  /-- A nested card: one that was itself built, and finalized. -/
  | card {alloc alloc' : Allocator} {c c' n n' : OutPostcard} {fs nested : List Field}
      (h : Builds c fs) {name : CString} (hn : Builds n nested)
      (hfin : n.finalize alloc' = (0, n'))
      (hadd : c.addCard alloc (some name) (some n') = (0, c')) :
      Builds c' (fs ++ [.card name n'.encoded])

/-! ## The bytes of a card -/

theorem checkName_ok {c : OutPostcard} {name name' : CString} {pOut : OutMemoryStream}
    (h : c.checkName (some name) = .ok (pOut, name')) :
    name' = name ∧ c = .adding pOut ∧ name.bytes ≠ [] ∧
      name.bytes.length < maxEncodeNameLength := by
  unfold OutPostcard.checkName at h
  split at h
  · simp only [] at h
    split at h
    · cases h
    · split at h
      · cases h
      · rename_i hzero hlt
        cases h
        exact ⟨rfl, rfl, fun hnil => hzero (by simp [hnil]), by omega⟩
  · cases h

theorem checkName_error {c : OutPostcard} {name : Option CString} {code : Int}
    (h : c.checkName name = .error code) : code ≠ 0 := by
  unfold OutPostcard.checkName at h
  split at h
  · split at h
    · cases h; decide
    · split at h
      · cases h; decide
      · split at h
        · cases h; decide
        · cases h
  · cases h; decide

/-- A successful run of appends to the card, and the bytes it leaves. -/
theorem append_ok {alloc : Allocator} {pOut : OutMemoryStream}
    {parts : List (Int × List UInt8)} {c' : OutPostcard} (herr : ∀ p ∈ parts, p.1 ≠ 0)
    (h : OutPostcard.append alloc pOut parts = (0, c')) :
    (∀ p ∈ parts, p.2 ≠ []) ∧
      ∃ pOut', c' = .adding pOut' ∧
        pOut'.contents = pOut.contents ++ (parts.map Prod.snd).flatten := by
  simp only [OutPostcard.append, Prod.mk.injEq] at h
  obtain ⟨hrc, rfl⟩ := h
  obtain ⟨hne, hcontents⟩ := OutMemoryStream.appendAll_contents herr hrc
  exact ⟨hne, _, rfl, hcontents⟩

/-- What a successful `addBlobWithType` appends, for a block whose length fits. -/
theorem addBlobWithType_ok {alloc : Allocator} {c c' : OutPostcard} {name : CString}
    {fieldType : FieldType} {blob : List UInt8} {pushLength : Bool}
    (hlt : blob.length < 2 ^ 32)
    (h : c.addBlobWithType alloc (some name) fieldType (some blob) pushLength = (0, c')) :
    name.bytes ≠ [] ∧ name.bytes.length < maxEncodeNameLength ∧ blob ≠ [] ∧
      ∃ pOut pOut', c = .adding pOut ∧ c' = .adding pOut' ∧
        pOut'.contents = pOut.contents ++ (leBytes 2 fieldType.code ++
          leBytes 2 (name.bytes.length + 1) ++ name.withNul ++
          ((if pushLength then leBytes 4 blob.length else []) ++ blob)) := by
  unfold OutPostcard.addBlobWithType at h
  cases hname : c.checkName (some name) with
  | error code =>
    rw [hname] at h
    cases h
    exact absurd rfl (checkName_error hname)
  | ok r =>
    obtain ⟨pOut, name'⟩ := r
    obtain ⟨rfl, hc, hnil, hlen⟩ := checkName_ok hname
    rw [hname] at h
    simp only [Nat.mod_eq_of_lt hlt, List.take_length] at h
    obtain ⟨hne, pOut', hc', hcontents⟩ := append_ok (by cases pushLength <;> simp) h
    refine ⟨hnil, hlen, hne (12, blob) (by simp), pOut, pOut', hc, hc', ?_⟩
    rw [hcontents]
    cases pushLength <;> simp

theorem add_ok {alloc : Allocator} {c c' : OutPostcard} {name : CString} {t : SimpleType}
    {v : t.Value} (h : c.add alloc (some name) t v = (0, c')) :
    name.bytes ≠ [] ∧ name.bytes.length < maxEncodeNameLength ∧
      ∃ pOut pOut', c = .adding pOut ∧ c' = .adding pOut' ∧
        pOut'.contents = pOut.contents ++ (Field.simple t name v).encode := by
  unfold OutPostcard.add at h
  cases hname : c.checkName (some name) with
  | error code =>
    rw [hname] at h
    cases h
    exact absurd rfl (checkName_error hname)
  | ok r =>
    obtain ⟨pOut, name'⟩ := r
    obtain ⟨rfl, hc, hnil, hlen⟩ := checkName_ok hname
    rw [hname] at h
    obtain ⟨_, pOut', hc', hcontents⟩ := append_ok (by simp) h
    refine ⟨hnil, hlen, pOut, pOut', hc, hc', ?_⟩
    rw [hcontents]
    simp [Field.encode, Field.header, Field.type, Field.name, Field.value]

theorem addArray_ok {alloc : Allocator} {c c' : OutPostcard} {name : CString}
    {t : SimpleType} {elems : List t.Value} (hlt : elems.length * t.size < 2 ^ 32)
    (h : c.addArray alloc (some name) t (some elems) = (0, c')) :
    name.bytes ≠ [] ∧ name.bytes.length < maxEncodeNameLength ∧ elems ≠ [] ∧
      ∃ pOut pOut', c = .adding pOut ∧ c' = .adding pOut' ∧
        pOut'.contents = pOut.contents ++ (Field.array t name elems).encode := by
  unfold OutPostcard.addArray at h
  cases hname : c.checkName (some name) with
  | error code =>
    rw [hname] at h
    cases h
    exact absurd rfl (checkName_error hname)
  | ok r =>
    obtain ⟨pOut, name'⟩ := r
    obtain ⟨rfl, hc, hnil, hlen⟩ := checkName_ok hname
    have htake : (elems.flatMap SimpleType.toBytes).take (elems.length * t.size) =
        elems.flatMap SimpleType.toBytes := by
      rw [← flatMap_toBytes_length, List.take_length]
    rw [hname] at h
    simp only [Nat.mod_eq_of_lt hlt, htake] at h
    split at h
    · cases h
    · rename_i hzero
      obtain ⟨_, pOut', hc', hcontents⟩ := append_ok (by simp) h
      refine ⟨hnil, hlen, fun he => hzero (by simp [he]), pOut, pOut', hc, hc', ?_⟩
      rw [hcontents]
      simp [Field.encode, Field.header, Field.type, Field.name, Field.value]

/-- A successful `finalize` writes the length over the placeholder and adds a zero. -/
theorem finalize_ok {alloc : Allocator} {c c' : OutPostcard}
    (h : c.finalize alloc = (0, c')) :
    ∃ pOut pOut', c = .adding pOut ∧ c' = .finalized pOut' ∧ 4 ≤ pOut.getSize ∧
      pOut'.contents = leBytes 4 (pOut.getSize + 1 - 4) ++ pOut.contents.drop 4 ++ [0] := by
  unfold OutPostcard.finalize at h
  split at h
  · rename_i pOut
    split at h
    · cases h
    · rename_i hsize
      simp only [] at h
      split at h
      · cases h
      · rename_i hrc
        simp only [Prod.mk.injEq, true_and] at h
        refine ⟨pOut, _, rfl, h.symm, by simpa using hsize, ?_⟩
        rcases OutMemoryStream.append_cases alloc (OutPostcard.overwrite pOut
          (leBytes 4 (pOut.getSize + 1 - 4)) (by simpa using hsize)) [0] with hfail | ⟨_, _, hok⟩
        · rw [hfail] at hrc
          exact absurd (by simp) hrc
        · rw [hok, OutPostcard.overwrite_contents, leBytes_length]
  · cases h

/-- The bytes of a finalized card whose length fits: the length of what follows it, which is
at least the zero byte. -/
theorem finalize_encoded {alloc : Allocator} {c c' : OutPostcard}
    (h : c.finalize alloc = (0, c')) (hlt : c'.encoded.length < 2 ^ 32) :
    ∃ body, body ≠ [] ∧ c'.encoded = leBytes 4 body.length ++ body := by
  obtain ⟨pOut, pOut', rfl, rfl, hsize, hcontents⟩ := finalize_ok h
  refine ⟨pOut.contents.drop 4 ++ [0], by simp, ?_⟩
  have hlen : (pOut.contents.drop 4 ++ [0]).length = pOut.getSize + 1 - 4 := by
    simp
    omega
  rw [hlen]
  simp [OutPostcard.encoded, hcontents]

/-- **The bytes of a card being built**: the placeholder for its length and the encodings of
the fields added, provided that these are short enough for their lengths to be written. -/
theorem Builds.contents {c : OutPostcard} {fs : List Field} (h : Builds c fs)
    (hlt : (encodeFields fs).length < 2 ^ 32) :
    (∃ pOut, c = .adding pOut ∧
      pOut.contents = leBytes 4 OutPostcard.initLength ++ encodeFields fs) ∧
    ∀ f ∈ fs, f.Valid := by
  have hfit : ∀ {fs : List Field} {f : Field}, (encodeFields (fs ++ [f])).length < 2 ^ 32 →
      (encodeFields fs).length < 2 ^ 32 ∧ f.value.length < 2 ^ 32 := by
    intro fs f hlt
    simp only [encodeFields_append, encodeFields_cons, encodeFields_nil, List.append_nil,
      Field.encode, List.length_append] at hlt
    omega
  have hvalid : ∀ {fs : List Field} {f : Field}, (∀ g ∈ fs, g.Valid) → f.Valid →
      ∀ g ∈ fs ++ [f], g.Valid := by
    intro fs f hfs hf g hg
    rcases List.mem_append.mp hg with hg | hg
    · exact hfs g hg
    · rw [List.mem_singleton.mp hg]
      exact hf
  induction h with
  | @init alloc c hinit hplaced =>
    simp only [OutPostcard.init, if_true, Prod.mk.injEq, true_and] at hinit
    subst hinit
    refine ⟨⟨_, rfl, ?_⟩, by simp⟩
    rcases OutMemoryStream.append_cases alloc .new (leBytes 4 OutPostcard.initLength) with
      hfail | ⟨_, _, hok⟩
    · simp [OutPostcard.encoded, hfail] at hplaced
    · simpa using hok
  | simple h hadd ih =>
    obtain ⟨hshort, hvalue⟩ := hfit hlt
    obtain ⟨⟨pOut, rfl, hcontents⟩, hfs⟩ := ih hshort
    obtain ⟨hnil, hlen, _, pOut', heq, rfl, hcontents'⟩ := add_ok hadd
    cases heq
    refine ⟨⟨pOut', rfl, ?_⟩, hvalid hfs ⟨hnil, hlen, hvalue, trivial⟩⟩
    rw [hcontents', hcontents]
    simp
  | @string alloc c c' fs h name str hadd ih =>
    obtain ⟨hshort, hvalue⟩ := hfit hlt
    obtain ⟨⟨pOut, rfl, hcontents⟩, hfs⟩ := ih hshort
    have hstr : str.withNul.length < 2 ^ 32 := by
      simp only [Field.value, List.length_append, leBytes_length] at hvalue
      omega
    simp only [OutPostcard.addString] at hadd
    obtain ⟨hnil, hlen, _, _, pOut', heq, rfl, hcontents'⟩ :=
      addBlobWithType_ok hstr (by simpa [Prod.ext_iff] using hadd)
    cases heq
    refine ⟨⟨pOut', rfl, ?_⟩, hvalid hfs ⟨hnil, hlen, hvalue, trivial⟩⟩
    rw [hcontents', hcontents]
    simp [Field.encode, Field.header, Field.type, Field.name, Field.value]
  | @blob alloc c c' fs h name bytes hadd ih =>
    obtain ⟨hshort, hvalue⟩ := hfit hlt
    obtain ⟨⟨pOut, rfl, hcontents⟩, hfs⟩ := ih hshort
    have hbytes : bytes.length < 2 ^ 32 := by
      simp only [Field.value, List.length_append, leBytes_length] at hvalue
      omega
    obtain ⟨hnil, hlen, hne, _, pOut', heq, rfl, hcontents'⟩ := addBlobWithType_ok hbytes hadd
    cases heq
    refine ⟨⟨pOut', rfl, ?_⟩, hvalid hfs ⟨hnil, hlen, hvalue, hne⟩⟩
    rw [hcontents', hcontents]
    simp [Field.encode, Field.header, Field.type, Field.name, Field.value]
  | @array alloc c c' fs h name t elems hint hadd ih =>
    obtain ⟨hshort, hvalue⟩ := hfit hlt
    obtain ⟨⟨pOut, rfl, hcontents⟩, hfs⟩ := ih hshort
    have helems : elems.length * t.size < 2 ^ 32 := by
      simp only [Field.value, List.length_append, leBytes_length, flatMap_toBytes_length]
        at hvalue
      omega
    obtain ⟨hnil, hlen, hne, _, pOut', heq, rfl, hcontents'⟩ := addArray_ok helems hadd
    cases heq
    refine ⟨⟨pOut', rfl, ?_⟩, hvalid hfs ⟨hnil, hlen, hvalue, hne, hint⟩⟩
    rw [hcontents', hcontents]
    simp
  | @card alloc alloc' c c' n n' fs nested h name hn hfin hadd ih =>
    obtain ⟨hshort, hvalue⟩ := hfit hlt
    obtain ⟨⟨pOut, rfl, hcontents⟩, hfs⟩ := ih hshort
    obtain ⟨body, hne, hbody⟩ := finalize_encoded hfin hvalue
    obtain ⟨_, pOutN, _, rfl, _, _⟩ := finalize_ok hfin
    have hnlt : pOutN.contents.length < 2 ^ 32 := hvalue
    simp only [OutPostcard.addCard] at hadd
    obtain ⟨hnil, hlen, _, _, pOut', heq, rfl, hcontents'⟩ :=
      addBlobWithType_ok hnlt (by simpa [Prod.ext_iff] using hadd)
    cases heq
    refine ⟨⟨pOut', rfl, ?_⟩, hvalid hfs ⟨hnil, hlen, hvalue, body, hne, hbody⟩⟩
    rw [hcontents', hcontents]
    simp [Field.encode, Field.header, Field.type, Field.name, Field.value,
      OutPostcard.encoded]

/-- **The bytes of a finalized card** are determined by the fields added to it. -/
theorem Builds.encoded {alloc : Allocator} {c c' : OutPostcard} {fs : List Field}
    (h : Builds c fs) (hfin : c.finalize alloc = (0, c'))
    (hlt : (encodeCard fs).length < 2 ^ 32) : c'.encoded = encodeCard fs := by
  have hlt' : (encodeFields fs).length < 2 ^ 32 := by
    simp only [encodeCard, List.length_append, leBytes_length] at hlt
    omega
  obtain ⟨⟨pOut, rfl, hcontents⟩, _⟩ := h.contents hlt'
  obtain ⟨_, pOut', heq, rfl, _, hcontents'⟩ := finalize_ok hfin
  cases heq
  have hsize : pOut.getSize = 4 + (encodeFields fs).length := by
    rw [← OutMemoryStream.contents_length, hcontents, List.length_append, leBytes_length]
  have hcard : pOut.getSize + 1 - 4 = (encodeFields fs).length + 1 := by omega
  simp only [OutPostcard.encoded, hcontents', hcard, encodeCard, hcontents]
  rw [List.drop_left' (by simp)]

end LocationStack.Postcard
