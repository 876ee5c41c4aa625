import LocationStack.Postcard.In

/-! # What a getter reads, and where its result lies

Beside the functions of `InPostcardImpl` stand the offsets in the buffer of the bytes that
they read: what `extract` copies out, what `strncmp` looks at, and what a getter reads of
the block it has found.  A `Getter` is one call, with its arguments other than the name.
-/
namespace LocationStack.Postcard

open LittleEndian

/-- The bytes that `extract` copies out, if it succeeds. -/
def InMemoryStream.extractReads (s : InMemoryStream) (length : Nat) : List Nat :=
  if (s.extract length).1 = 0 then List.range' s.getCursor length else []

namespace InPostcard

/-- How many bytes of the memory `strncmp` looks at: it stops at the first that differs from
the name. -/
def strncmpLength : List UInt8 → List UInt8 → Nat
  | [], _ => 0
  | _ :: _, [] => 1
  | a :: name, b :: mem => if a = b then strncmpLength name mem + 1 else 1

/-- `strncmpLength` is within `n` bytes exactly if the name is, or one of them differs. -/
theorem strncmpLength_le (name mem : List UInt8) (n : Nat) :
    strncmpLength name mem ≤ n ↔
      name.length ≤ n ∨ ∃ j < n, j < name.length ∧ mem[j]? ≠ name[j]? := by
  induction name generalizing mem n with
  | nil => simp [strncmpLength]
  | cons a name ih =>
    cases n with
    | zero =>
      cases mem with
      | nil => simp [strncmpLength]
      | cons b mem =>
        simp only [strncmpLength]
        split <;> simp
    | succ n =>
      have hsplit : ∀ q : Nat → Prop, (∃ j < n + 1, j < (a :: name).length ∧ q j) ↔
          q 0 ∨ ∃ j < n, j < name.length ∧ q (j + 1) := by
        intro q
        constructor
        · rintro ⟨j, hj, hlt, hq⟩
          cases j with
          | zero => exact Or.inl hq
          | succ j => exact Or.inr ⟨j, by omega, by simpa using hlt, hq⟩
        · rintro (hq | ⟨j, hj, hlt, hq⟩)
          · exact ⟨0, by omega, by simp, hq⟩
          · exact ⟨j + 1, by omega, by simpa using hlt, hq⟩
      rw [hsplit]
      cases mem with
      | nil => simp [strncmpLength]
      | cons b mem =>
        simp only [strncmpLength, List.getElem?_cons_zero, List.getElem?_cons_succ,
          List.length_cons]
        by_cases hab : a = b
        · rw [if_pos hab, Nat.add_le_add_iff_right, ih, hab]
          simp
        · rw [if_neg hab]
          have hne : some b ≠ some a := fun h => hab (Option.some.inj h).symm
          simp [hne]

/-- The bytes of `current_name` that `strncmp` looks at. -/
def nameAtCursorReads (s : InMemoryStream) (name : CString) : List Nat :=
  List.range' s.getCursor (strncmpLength name.bytes ((s.pData.getD []).drop s.getCursor))

/-- What `skipValueByType` reads: the length of a value that has none of its own. -/
def skipValueByTypeReads (s : InMemoryStream) (type : Nat) : List Nat :=
  match FieldType.ofCode? type with
  | some .string | some .card | some (.array _) | some .blob => s.extractReads 4
  | _ => []

/-- What one iteration of the loop of `findField` reads. -/
def scanFieldReads (type : Nat) (name : CString) (index : Int) (cardLength : Nat)
    (s : InMemoryStream) (matchCount : Int) : List Nat :=
  if s.getCursor < cardLength + 4 then
    if cardLength + 4 - s.getCursor = 1 then []
    else
      let (rc, typeBytes, s₁) := s.extract 2
      s.extractReads 2 ++
        if rc ≠ 0 then []
        else
          let currentType := ofLeBytes typeBytes
          let (rc, lengthBytes, s₂) := s₁.extract 2
          s₁.extractReads 2 ++
            if rc ≠ 0 then []
            else
              let recordedNameLength := ofLeBytes lengthBytes
              let isAsked := type == currentType &&
                recordedNameLength == name.bytes.length + 1
              let (rc, _, s₃) := s₂.extract recordedNameLength
              (if isAsked then nameAtCursorReads s₂ name else []) ++
                if rc ≠ 0 then []
                else if (isAsked && nameAtCursor s₂ name) && index == matchCount then []
                else skipValueByTypeReads s₃ currentType
  else []

/-- What the loop of `findField` reads. -/
def scanFieldsReads (type : Nat) (name : CString) (index : Int) (cardLength : Nat)
    (s : InMemoryStream) (matchCount : Int) : List Nat :=
  match _h : scanField type name index cardLength s matchCount with
  | .stop _ _ => scanFieldReads type name index cardLength s matchCount
  | .next s' matchCount' =>
      scanFieldReads type name index cardLength s matchCount ++
        scanFieldsReads type name index cardLength s' matchCount'
termination_by s.capacity - s.getCursor
decreasing_by
  obtain ⟨hcap, hlt, hle⟩ := scanField_next _h
  omega

/-- What `findField` reads. -/
def findFieldReads (s : InMemoryStream) (type : FieldType) (name : Option CString)
    (index : Int) : List Nat :=
  match name with
  | none => []
  | some name =>
      let (rc, s) := s.setGetCursor 0
      if rc ≠ 0 then []
      else
        let (rc, lengthBytes, s₁) := s.extract 4
        s.extractReads 4 ++
          if rc ≠ 0 then []
          else if name.bytes.length = 0 then []
          else scanFieldsReads type.code name index (ofLeBytes lengthBytes) s₁ 0

/-- What `getSimple` reads. -/
def getSimpleReads (p : InPostcard) (name : Option CString) (t : SimpleType) : List Nat :=
  findFieldReads p.pIn (.simple t) name 0 ++
    if (findField p.pIn (.simple t) name 0).1 = 0 then
      (findField p.pIn (.simple t) name 0).2.extractReads t.size
    else []

/-- What `getBlobByType` reads: the length of the block, but nothing of the block. -/
def getBlobByTypeReads (p : InPostcard) (name : Option CString) (fieldType : FieldType)
    (index : Int) : List Nat :=
  findFieldReads p.pIn fieldType name index ++
    if (findField p.pIn fieldType name index).1 = 0 then
      (findField p.pIn fieldType name index).2.extractReads 4
    else []

/-- The offset of the block that `getBlobByType` has passed over. -/
def blockOffset (p : InPostcard) (length : Nat) : Nat := p.pIn.getCursor - length

/-- What `getArray` reads: to a caller that passes an array it copies the block. -/
def getArrayReads (p : InPostcard) (name : Option CString) (t : SimpleType)
    (pGivenNumElem : Option Int) (withArray : Bool) : List Nat :=
  if name = none ∨ pGivenNumElem = none then []
  else
    p.getBlobByTypeReads name (.array t) 0 ++
      match p.getBlobByType name (.array t) true 0 with
      | (0, some (_, length), p') =>
          if withArray ∧ (p.getArray name t pGivenNumElem withArray).1 = 0 then
            List.range' (blockOffset p' length) length
          else []
      | _ => []

/-- What `getString` reads: the last byte of the block. -/
def getStringReads (p : InPostcard) (name : Option CString) : List Nat :=
  p.getBlobByTypeReads name .string 0 ++
    match p.getBlobByType name .string true 0 with
    | (0, some (_, length), p') => if length = 0 then [] else [blockOffset p' length + length - 1]
    | _ => []

/-- What `getStringDup` reads: the string, for its length and its copy. -/
def getStringDupReads (allocated : Bool) (p : InPostcard) (name : Option CString) : List Nat :=
  p.getStringReads name ++
    match p.getBlobByType name .string true 0, p.getString name with
    | (0, some (_, length), p'), (0, some str, _) =>
        -- `strlen`, and `memcpy` if there is memory for the copy
        List.range' (blockOffset p' length) (str.bytes.length + 1) ++
          if allocated then List.range' (blockOffset p' length) (str.bytes.length + 1) else []
    | _, _ => []

end InPostcard

/-! ## The getters -/

/-- A call of a getter: the scalar getters differ in the type they ask for only, and
`getPtr` asks for an `int64`. -/
inductive Getter
  | simple (t : SimpleType)
  | blob
  | array (t : SimpleType) (pGivenNumElem : Option Int) (withArray : Bool)
  | string
  | stringDup (allocated : Bool)
  | card (created : Bool × Bool) (index : Int)

namespace Getter

/-- The type of the field asked for. -/
def fieldType : Getter → FieldType
  | simple t => .simple t
  | blob => .blob
  | array t _ _ => .array t
  | string | stringDup _ => .string
  | card _ _ => .card

/-- How many other fields of the type and the name are passed over. -/
def index : Getter → Int
  | card _ index => index
  | _ => 0

/-- What the getter gives. -/
abbrev Result : Getter → Type
  | simple t => t.Value
  | blob => List UInt8 × Nat
  | array t _ _ => List t.Value × Int
  | string | stringDup _ => CString
  | card _ _ => InPostcard

/-- The call. -/
def get : (g : Getter) → InPostcard → Option CString → Int × Option g.Result × InPostcard
  | simple t, p, name => p.getSimple name t
  | blob, p, name => p.getBlob name
  | array t pGivenNumElem withArray, p, name => p.getArray name t pGivenNumElem withArray
  | string, p, name => p.getString name
  | stringDup allocated, p, name => p.getStringDup allocated name
  | card created index, p, name => p.getCard created name index

/-- The offsets of the bytes that the call reads. -/
def reads : Getter → InPostcard → Option CString → List Nat
  | simple t, p, name => p.getSimpleReads name t
  | blob, p, name => p.getBlobByTypeReads name .blob 0
  | array t pGivenNumElem withArray, p, name => p.getArrayReads name t pGivenNumElem withArray
  | string, p, name => p.getStringReads name
  | stringDup allocated, p, name => p.getStringDupReads allocated name
  | card _ index, p, name => p.getBlobByTypeReads name .card index

/-- The integer of `width` bytes at an offset. -/
def numAt (mem : List UInt8) (width offset : Nat) : Nat :=
  ofLeBytes ((mem.drop offset).take width)

/-- The offset and the number of the bytes that the getter gives, if the value of the field
is at `v`; those of a nested card begin with its length. -/
def place (g : Getter) (mem : List UInt8) (v : Nat) : Nat × Nat :=
  match g with
  | simple t => (v, t.size)
  | blob | array _ _ _ => (v + 4, numAt mem 4 v)
  | string | stringDup _ => (v + 4, (InPostcard.cStringAt (mem.drop (v + 4))).bytes.length + 1)
  | card _ _ => (v, numAt mem 4 v + 4)

/-- What the getter gives, if the value of the field is at `v`. -/
def resultAt (g : Getter) (mem : List UInt8) (v : Nat) : g.Result :=
  match g with
  | simple t => t.ofBytes ((mem.drop v).take t.size)
  | blob => (mem.drop (v + 4), numAt mem 4 v)
  | array t _ withArray =>
      (if withArray then InPostcard.valuesAt t (numAt mem 4 v / t.size) (mem.drop (v + 4)) else [],
        toInt (numAt mem 4 v / t.size))
  | string | stringDup _ => InPostcard.cStringAt (mem.drop (v + 4))
  | card _ _ => ⟨.setBufferNoDup (mem.drop v) (numAt mem 4 v + 4)⟩

end Getter

end LocationStack.Postcard
