import Mathlib.Data.List.TakeWhile
import LocationStack.Postcard.Out

/-! # Reading a postcard

`InPostcardImpl` of `postcard.cpp`.  A getter scans the card from its start: `findField`
compares the type and the name of each field, and passes over the others with
`skipValueByType`.  Every function returns its result code, what it gives to its caller
(`none` when it fails), and the card, whose cursor it moves.  A caller's pointer to a
result is taken not to be null, but for the array of `getArray`.
-/
namespace LocationStack.Postcard

open LittleEndian

/-- `FIELD_NOT_FOUND`. -/
def fieldNotFound : Int := -1

/-- `InPostcardImpl` in state `CS_GET`: a card that was opened. -/
structure InPostcard where
  pIn : InMemoryStream

namespace InPostcard

/-- `init`; `created` tells whether `InMemoryStream::createInstance` succeeded. -/
def init (created : Bool) (pIn : Option (List UInt8)) (length : Nat) :
    Int × Option InPostcard :=
  match pIn with
  | none => (2, none)
  | some pIn =>
      if length = 0 then (3, none)
      else if created then (0, some ⟨InMemoryStream.setBufferNoDup pIn length⟩)
      else (4, none)

/-- The end of `skipValueByType`: passes over `valueSize` bytes. -/
def skipValue (s : InMemoryStream) (valueSize : Nat) : Int × InMemoryStream :=
  if valueSize = 0 then (2, s)
  else
    let (rc, _, s) := s.extract valueSize
    if rc ≠ 0 then (3, s) else (0, s)

/-- `skipValueByType`: passes over the value of a field of the type with this number. -/
def skipValueByType (s : InMemoryStream) (type : Nat) : Int × InMemoryStream :=
  match FieldType.ofCode? type with
  | none => (101, s)
  | some .unknown => (100, s)
  | some (.simple t) => skipValue s t.size
  | some .string | some .card =>
      let (rc, bytes, s) := s.extract 4
      if rc ≠ 0 then (102, s)
      -- at least one trailing zero, even in an empty card or string
      else if ofLeBytes bytes ≥ 1 then skipValue s (ofLeBytes bytes)
      else (103, s)
  | some (.array _) | some .blob =>
      let (rc, bytes, s) := s.extract 4
      if rc ≠ 0 then (104, s) else skipValue s (ofLeBytes bytes)

/-- `strncmp(name, current_name, strlen(name)) == 0`, `current_name` being the memory at the
cursor. -/
def nameAtCursor (s : InMemoryStream) (name : CString) : Bool :=
  match s.pData with
  | none => false
  | some mem => (mem.drop s.getCursor).take name.bytes.length == name.bytes

/-- An iteration of the loop of `findField` ends the loop with a code, or goes on to the
next field with the number of matches so far. -/
inductive Scan
  | stop (result : Int) (s : InMemoryStream)
  | next (s : InMemoryStream) (matchCount : Int)

/-- One iteration of the loop of `findField`. -/
def scanField (type : Nat) (name : CString) (index : Int) (cardLength : Nat)
    (s : InMemoryStream) (matchCount : Int) : Scan :=
  if s.getCursor < cardLength + 4 then
    -- exactly one byte, of zero, is left at the end of the card
    if cardLength + 4 - s.getCursor = 1 then .stop fieldNotFound s
    else
      let (rc, typeBytes, s) := s.extract 2
      if rc ≠ 0 then .stop 102 s
      else
        let currentType := ofLeBytes typeBytes
        let (rc, lengthBytes, s) := s.extract 2
        if rc ≠ 0 then .stop 103 s
        else
          let recordedNameLength := ofLeBytes lengthBytes
          let isNameMatching := type == currentType &&
            recordedNameLength == name.bytes.length + 1 && nameAtCursor s name
          let (rc, _, s) := s.extract recordedNameLength
          if rc ≠ 0 then .stop 104 s
          else if isNameMatching && index == matchCount then .stop 0 s
          else
            let matchCount := if isNameMatching then matchCount + 1 else matchCount
            let (rc, s) := skipValueByType s currentType
            if rc ≠ 0 then .stop 105 s else .next s matchCount
  else .stop 101 s

theorem skipValue_advances (s : InMemoryStream) (valueSize : Nat) :
    s.Advances (skipValue s valueSize).2 := by
  unfold skipValue
  split
  · exact .refl s
  · simp only []
    split <;> exact s.extract_advances valueSize

theorem skipValueByType_advances (s : InMemoryStream) (type : Nat) :
    s.Advances (skipValueByType s type).2 := by
  have hlength := s.extract_advances 4
  unfold skipValueByType
  split
  · exact .refl s
  · exact .refl s
  · exact skipValue_advances s _
  all_goals
    simp only []
    split
    · exact hlength
    · first
        | exact hlength.trans (skipValue_advances _ _)
        | (split
           · exact hlength.trans (skipValue_advances _ _)
           · exact hlength)

/-- An iteration that goes on has moved the cursor forward, and within the stream. -/
theorem scanField_next {type : Nat} {name : CString} {index : Int} {cardLength : Nat}
    {s s' : InMemoryStream} {matchCount matchCount' : Int}
    (h : scanField type name index cardLength s matchCount = .next s' matchCount') :
    s'.capacity = s.capacity ∧ s.getCursor < s'.getCursor ∧ s'.getCursor ≤ s.capacity := by
  unfold scanField at h
  split at h
  · split at h
    · cases h
    · simp only [] at h
      split at h
      · cases h
      · rename_i htype
        split at h
        · cases h
        · rename_i hlength
          split at h
          · cases h
          · split at h
            · cases h
            · split at h
              · cases h
              · cases h
                obtain ⟨_, hcursor, hroom⟩ := InMemoryStream.extract_cursor (not_ne_iff.mp htype)
                have hcap := (s.extract_advances 2).capacity
                have hlen := InMemoryStream.extract_advances (s.extract 2).2.2 2
                have hname := InMemoryStream.extract_advances ((s.extract 2).2.2.extract 2).2.2
                  (ofLeBytes ((s.extract 2).2.2.extract 2).2.1)
                have hadv := (hlen.trans hname).trans
                  (skipValueByType_advances _ (ofLeBytes (s.extract 2).2.1))
                have hlt : s.getCursor < (s.extract 2).2.2.getCursor := by omega
                have hle : (s.extract 2).2.2.getCursor ≤ (s.extract 2).2.2.capacity := by omega
                exact ⟨hadv.capacity.trans hcap, Nat.lt_of_lt_of_le hlt hadv.le,
                  Nat.le_trans (hadv.within hle) (Nat.le_of_eq hcap)⟩
  · cases h

/-- The loop of `findField`.  It ends because every iteration that goes on moves the cursor
forward. -/
def scanFields (type : Nat) (name : CString) (index : Int) (cardLength : Nat)
    (s : InMemoryStream) (matchCount : Int) : Int × InMemoryStream :=
  match _h : scanField type name index cardLength s matchCount with
  | .stop result s => (result, s)
  | .next s matchCount => scanFields type name index cardLength s matchCount
termination_by s.capacity - s.getCursor
decreasing_by
  obtain ⟨hcap, hlt, hle⟩ := scanField_next _h
  omega

/-- `findField`: leaves the cursor at the value of the field of this type and name that
comes after `index` others. -/
def findField (s : InMemoryStream) (type : FieldType) (name : Option CString) (index : Int) :
    Int × InMemoryStream :=
  match name with
  | none => (2, s)
  | some name =>
      let (rc, s) := s.setGetCursor 0
      if rc ≠ 0 then (3, s)
      else
        let (rc, lengthBytes, s) := s.extract 4
        if rc ≠ 0 then (4, s)
        else if name.bytes.length = 0 then (5, s)
        else scanFields type.code name index (ofLeBytes lengthBytes) s 0

/-! ## The getters -/

/-- `getSimple`. -/
def getSimple (p : InPostcard) (name : Option CString) (t : SimpleType) :
    Int × Option t.Value × InPostcard :=
  match name with
  | none => (2, none, p)
  | some name =>
      let (rc, s) := findField p.pIn (.simple t) (some name) 0
      if rc = 0 then
        let (rc, bytes, s) := s.extract t.size
        if rc ≠ 0 then (4, none, ⟨s⟩) else (0, some (t.ofBytes bytes), ⟨s⟩)
      else if rc = fieldNotFound then (fieldNotFound, none, ⟨s⟩)
      else (3, none, ⟨s⟩)

/-- `getBlobByType`: the memory from `*pBlob` on, and `*pLength`. -/
def getBlobByType (p : InPostcard) (name : Option CString) (fieldType : FieldType)
    (pointerPassRecordLength : Bool) (index : Int) :
    Int × Option (List UInt8 × Nat) × InPostcard :=
  match name with
  | none => (2, none, p)
  | some name =>
      let (rc, s) := findField p.pIn fieldType (some name) index
      if rc = 0 then
        let cursorBeforeLength := s.getCursor
        let (rc, bytes, s) := s.extract 4
        if rc ≠ 0 then (5, none, ⟨s⟩)
        else
          let recordedStrLength := ofLeBytes bytes
          -- make sure that there is that much data
          let (rc, _, s) := s.extract recordedStrLength
          if rc ≠ 0 then (7, none, ⟨s⟩)
          else
            let cursor := if pointerPassRecordLength then cursorBeforeLength + 4
              else cursorBeforeLength
            (0, some ((s.pData.getD []).drop cursor, recordedStrLength), ⟨s⟩)
      else if rc = fieldNotFound then (fieldNotFound, none, ⟨s⟩)
      else (4, none, ⟨s⟩)

/-- `getBlob`: the memory from the blob on, and its length. -/
def getBlob (p : InPostcard) (name : Option CString) :
    Int × Option (List UInt8 × Nat) × InPostcard :=
  p.getBlobByType name .blob true 0

/-- The values of type `t` one after another in memory. -/
def valuesAt (t : SimpleType) : Nat → List UInt8 → List t.Value
  | 0, _ => []
  | n + 1, mem => t.ofBytes (mem.take t.size) :: valuesAt t n (mem.drop t.size)

/-- `getArray`; `pGivenNumElem` is what the caller's pointer points to, and `withArray`
tells whether it passes an array to be filled.  It gives the elements, to a caller with an
array, and their number, which is an `int`. -/
def getArray (p : InPostcard) (name : Option CString) (t : SimpleType)
    (pGivenNumElem : Option Int) (withArray : Bool) :
    Int × Option (List t.Value × Int) × InPostcard :=
  match name, pGivenNumElem with
  | none, _ => (2, none, p)
  | some _, none => (3, none, p)
  | some name, some givenNumElem =>
      let (rc, blob, p) := p.getBlobByType (some name) (.array t) true 0
      match rc, blob with
      | 0, some (internalArray, dataBlockLength) =>
          if dataBlockLength % t.size ≠ 0 then (5, none, p)
          else
            let numStoredElement := toInt (dataBlockLength / t.size)
            if numStoredElement = 0 then (6, none, p)
            else if withArray then
              if numStoredElement > givenNumElem then (7, none, p)
              else
                (0, some (valuesAt t (dataBlockLength / t.size) internalArray, numStoredElement),
                  p)
            else (0, some ([], numStoredElement), p)
      | _, _ => (4, none, p)

/-- The `char *` that points to this memory: up to the first zero byte. -/
def cStringAt (mem : List UInt8) : CString :=
  ⟨mem.takeWhile (· ≠ 0), fun h => by simpa using List.mem_takeWhile_imp h⟩

/-- `getString`. -/
def getString (p : InPostcard) (name : Option CString) :
    Int × Option CString × InPostcard :=
  match name with
  | none => (2, none, p)
  | some name =>
      let (rc, blob, p) := p.getBlobByType (some name) .string true 0
      match rc, blob with
      | 0, some (blob, length) =>
          if length = 0 then (6, none, p)
          else if blob.getD (length - 1) 0 ≠ 0 then (7, none, p)
          else (0, some (cStringAt blob), p)
      | 0, none => (5, none, p)
      | rc, _ => if rc = fieldNotFound then (fieldNotFound, none, p) else (4, none, p)

/-- `getStringDup`; `allocated` tells whether the copy could be allocated. -/
def getStringDup (allocated : Bool) (p : InPostcard) (name : Option CString) :
    Int × Option CString × InPostcard :=
  let (rc, str, p) := p.getString name
  match rc, str with
  | 0, some str => if allocated then (0, some str, p) else (4, none, p)
  | rc, _ => if rc = fieldNotFound then (fieldNotFound, none, p) else (3, none, p)

/-- `getCard`; `created` tells whether the new card and its stream could be allocated.  The
new card shares the memory of this one. -/
def getCard (created : Bool × Bool) (p : InPostcard) (name : Option CString) (index : Int) :
    Int × Option InPostcard × InPostcard :=
  match name with
  | none => (2, none, p)
  | some name =>
      let (rc, blob, p) := p.getBlobByType (some name) .card false index
      match rc, blob with
      | 0, some (blob, cardLength) =>
          if !created.1 then (8, none, p)
          else
            match init created.2 (some blob) (cardLength + 4) with
            | (0, some card) => (0, some card, p)
            | _ => (9, none, p)
      | rc, _ => if rc = fieldNotFound then (fieldNotFound, none, p) else (4, none, p)

/-- A getter with its result converted. -/
def convert {α β : Type} (f : α → β) (r : Int × Option α × InPostcard) :
    Int × Option β × InPostcard :=
  (r.1, r.2.1.map f, r.2.2)

/-- What the `Default` and `Optional` getters make of a result: a field that is not there is
no error, and leaves the caller's value as it is. -/
def orDefault {α : Type} (r : Int × Option α × InPostcard) : Int × Option α × InPostcard :=
  (if r.1 = 0 ∨ r.1 = fieldNotFound then 0 else r.1, r.2)

section

variable (p : InPostcard) (name : Option CString)

/-- `getDouble`, the value given by its bits. -/
def getDouble := p.getSimple name .double
/-- `getFloat`, the value given by its bits. -/
def getFloat := p.getSimple name .float
/-- `getInt64`. -/
def getInt64 := convert Int64.ofBitVec (p.getSimple name .int64)
/-- `getUInt64`. -/
def getUInt64 := convert UInt64.ofBitVec (p.getSimple name .uint64)
/-- `getInt32`. -/
def getInt32 := convert Int32.ofBitVec (p.getSimple name .int32)
/-- `getUInt32`. -/
def getUInt32 := convert UInt32.ofBitVec (p.getSimple name .uint32)
/-- `getInt16`. -/
def getInt16 := convert Int16.ofBitVec (p.getSimple name .int16)
/-- `getUInt16`. -/
def getUInt16 := convert UInt16.ofBitVec (p.getSimple name .uint16)
/-- `getInt8`. -/
def getInt8 := convert Int8.ofBitVec (p.getSimple name .int8)
/-- `getUInt8`. -/
def getUInt8 := convert UInt8.ofBitVec (p.getSimple name .uint8)
/-- `getBool`. -/
def getBool := convert (fun u : BitVec 8 => u == 1) (p.getSimple name .bool)
/-- `getPtr` where pointers have 64 bits. -/
def getPtr := p.getSimple name .int64

end

end InPostcard

end LocationStack.Postcard
