import LocationStack.Lib.LittleEndian
import LocationStack.Postcard.MemoryStream

/-! # Writing a postcard

`OutPostcardImpl` of `postcard.cpp`.  A card is its length, the fields one after another,
and a zero byte; a field is its type, its name with a length before and a zero after it,
and its value.  Every function returns its result code and the card it leaves behind.

A nullable pointer argument is an `Option`, and a `char *` that is not null is a
`CString`.
-/
namespace LocationStack.Postcard

open LittleEndian

/-- A `char *`: the bytes before the first zero byte. -/
structure CString where
  bytes : List UInt8
  noNul : 0 ∉ bytes
  deriving DecidableEq

/-- The string in memory, with its zero byte. -/
def CString.withNul (s : CString) : List UInt8 := s.bytes ++ [0]

@[simp] theorem CString.withNul_length (s : CString) :
    s.withNul.length = s.bytes.length + 1 := by
  simp [withNul]

/-- The kinds of values of fixed size. -/
inductive SimpleType
  | double | float | int64 | uint64 | int32 | uint32 | int16 | uint16 | int8 | uint8 | bool
  deriving DecidableEq, Repr

/-- `sizeof` of the `ValueType`. -/
def SimpleType.size : SimpleType → Nat
  | .double | .int64 | .uint64 => 8
  | .float | .int32 | .uint32 => 4
  | .int16 | .uint16 => 2
  | .int8 | .uint8 | .bool => 1

theorem SimpleType.size_pos (t : SimpleType) : 0 < t.size := by
  cases t <;> decide

/-- A value of this type, as the bits it has in memory. -/
abbrev SimpleType.Value (t : SimpleType) := BitVec (8 * t.size)

/-- The bytes of a value. -/
def SimpleType.toBytes {t : SimpleType} (v : t.Value) : List UInt8 := leBytes t.size v.toNat

/-- The value with these bytes. -/
def SimpleType.ofBytes (t : SimpleType) (bs : List UInt8) : t.Value :=
  BitVec.ofNat (8 * t.size) (ofLeBytes bs)

@[simp] theorem SimpleType.toBytes_length {t : SimpleType} (v : t.Value) :
    (toBytes v).length = t.size := by
  simp [toBytes]

@[simp] theorem SimpleType.ofBytes_toBytes {t : SimpleType} (v : t.Value) :
    t.ofBytes (toBytes v) = v := by
  have hlt : v.toNat < 256 ^ t.size := by
    have := v.isLt
    rwa [Nat.pow_mul] at this
  rw [ofBytes, toBytes, ofLeBytes_leBytes_of_lt hlt, BitVec.ofNat_toNat, BitVec.setWidth_eq]

/-- `eFieldType`. -/
inductive FieldType
  | unknown
  | card
  | simple (t : SimpleType)
  | string
  | blob
  | array (t : SimpleType)
  deriving DecidableEq, Repr

/-- The number of a field type. -/
def FieldType.code : FieldType → Nat
  | .unknown => 0
  | .card => 1
  | .simple .int64 => 10
  | .simple .uint64 => 11
  | .simple .int32 => 12
  | .simple .uint32 => 13
  | .simple .int16 => 14
  | .simple .uint16 => 15
  | .simple .int8 => 16
  | .simple .uint8 => 17
  | .simple .bool => 18
  | .string => 19
  | .blob => 20
  | .simple .double => 21
  | .simple .float => 22
  | .array .int64 => 30
  | .array .uint64 => 31
  | .array .int32 => 32
  | .array .uint32 => 33
  | .array .int16 => 34
  | .array .uint16 => 35
  | .array .int8 => 36
  | .array .uint8 => 37
  | .array .bool => 38
  | .array .double => 39
  | .array .float => 40

/-- The field type with this number. -/
def FieldType.ofCode? : Nat → Option FieldType
  | 0 => some .unknown
  | 1 => some .card
  | 10 => some (.simple .int64)
  | 11 => some (.simple .uint64)
  | 12 => some (.simple .int32)
  | 13 => some (.simple .uint32)
  | 14 => some (.simple .int16)
  | 15 => some (.simple .uint16)
  | 16 => some (.simple .int8)
  | 17 => some (.simple .uint8)
  | 18 => some (.simple .bool)
  | 19 => some .string
  | 20 => some .blob
  | 21 => some (.simple .double)
  | 22 => some (.simple .float)
  | 30 => some (.array .int64)
  | 31 => some (.array .uint64)
  | 32 => some (.array .int32)
  | 33 => some (.array .uint32)
  | 34 => some (.array .int16)
  | 35 => some (.array .uint16)
  | 36 => some (.array .int8)
  | 37 => some (.array .uint8)
  | 38 => some (.array .bool)
  | 39 => some (.array .double)
  | 40 => some (.array .float)
  | _ => none

@[simp] theorem FieldType.ofCode?_code (t : FieldType) : ofCode? t.code = some t := by
  rcases t with _ | _ | t | _ | _ | t
  all_goals first | rfl | (cases t <;> rfl)

theorem FieldType.code_injective : Function.Injective FieldType.code := by
  intro t t' h
  have := FieldType.ofCode?_code t
  rw [h, FieldType.ofCode?_code] at this
  exact (Option.some.inj this).symm

theorem FieldType.code_lt (t : FieldType) : t.code < 256 := by
  rcases t with _ | _ | t | _ | _ | t
  all_goals first | decide | (cases t <;> decide)

/-- `MAX_ENCODE_NAME_LENGTH`. -/
def maxEncodeNameLength : Nat := 256

/-- `OutPostcardImpl`: its state with the stream it has in that state. -/
inductive OutPostcard
  /-- `CS_PRE_INIT`. -/
  | preInit
  /-- `CS_ADD`. -/
  | adding (pOut : OutMemoryStream)
  /-- `CS_FINALIZED`. -/
  | finalized (pOut : OutMemoryStream)

namespace OutPostcard

/-- What `getEncodedBuffer` gives access to. -/
def encoded : OutPostcard → List UInt8
  | .preInit => []
  | .adding pOut | .finalized pOut => pOut.contents

/-- The placeholder for the length of the card. -/
def initLength : Nat := 0x12345678

/-- `init`; `created` tells whether `OutMemoryStream::createInstance` succeeded.  The result
of the append is not looked at. -/
def init (alloc : Allocator) (created : Bool) : OutPostcard → Int × OutPostcard
  | .preInit =>
      if created then (0, .adding (OutMemoryStream.new.append alloc (leBytes 4 initLength)).2)
      else (3, .preInit)
  | c => (2, c)

/-- The stream after `memcpy` of `data` to the start of its buffer. -/
def overwrite (s : OutMemoryStream) (data : List UInt8) (h : data.length ≤ s.getSize) :
    OutMemoryStream :=
  { pData := data ++ s.pData.drop data.length
    putCursor := s.putCursor
    putCursor_le := by
      have := s.putCursor_le
      have : s.getSize = s.putCursor := rfl
      simp
      omega }

theorem overwrite_contents (s : OutMemoryStream) (data : List UInt8)
    (h : data.length ≤ s.getSize) :
    (overwrite s data h).contents = data ++ s.contents.drop data.length := by
  have hle : data.length ≤ s.putCursor := h
  rw [OutMemoryStream.contents, OutMemoryStream.contents, overwrite, List.take_append,
    List.take_of_length_le hle, List.drop_take]

/-- `finalize`. -/
def finalize (alloc : Allocator) : OutPostcard → Int × OutPostcard
  | .adding pOut =>
      if h : pOut.getSize < 4 then (3, .adding pOut)
      else
        let pOut := overwrite pOut (leBytes 4 (pOut.getSize + 1 - 4)) (by simp; omega)
        let r := pOut.append alloc [0]
        if r.1 ≠ 0 then (3, .adding r.2) else (0, .finalized r.2)
  | c => (2, c)

/-- The checks `add`, `addBlobWithType` and `addArray` begin with: the stream and the name
to go on with, or the code to return. -/
def checkName (c : OutPostcard) (name : Option CString) :
    Except Int (OutMemoryStream × CString) :=
  match c with
  | .adding pOut =>
      match name with
      | none => .error 3
      | some name =>
          if name.bytes.length = 0 then .error 4
          else if name.bytes.length ≥ maxEncodeNameLength then .error 5
          else .ok (pOut, name)
  | _ => .error 2

/-- The card after the appends, and the code of the one that failed. -/
def append (alloc : Allocator) (pOut : OutMemoryStream) (parts : List (Int × List UInt8)) :
    Int × OutPostcard :=
  let r := pOut.appendAll alloc parts
  (r.1, .adding r.2)

/-- `add`: a value of fixed size. -/
def add (alloc : Allocator) (c : OutPostcard) (name : Option CString) (t : SimpleType)
    (value : t.Value) : Int × OutPostcard :=
  match c.checkName name with
  | .error code => (code, c)
  | .ok (pOut, name) =>
      append alloc pOut
        [(6, leBytes 2 (FieldType.simple t).code), (7, leBytes 2 (name.bytes.length + 1)),
          (8, name.withNul), (9, SimpleType.toBytes value)]

/-- `addBlobWithType`; `blob` is the block of `length` bytes.  The length written, and the
number of bytes, are those of a `LengthType`. -/
def addBlobWithType (alloc : Allocator) (c : OutPostcard) (name : Option CString)
    (fieldType : FieldType) (blob : Option (List UInt8)) (pushLength : Bool) :
    Int × OutPostcard :=
  match c.checkName name with
  | .error code => (code, c)
  | .ok (pOut, name) =>
      match blob with
      | none => (6, c)
      | some blob =>
          let blobLength := blob.length % 2 ^ 32
          append alloc pOut
            ([(8, leBytes 2 fieldType.code), (9, leBytes 2 (name.bytes.length + 1)),
                (10, name.withNul)] ++
              (if pushLength then [(11, leBytes 4 blobLength)] else []) ++
              [(12, blob.take blobLength)])

/-- `addArray`: an array of `num_element` values; a negative `num_element` is refused as
zero is, so it is the number of values given. -/
def addArray (alloc : Allocator) (c : OutPostcard) (name : Option CString) (t : SimpleType)
    (array : Option (List t.Value)) : Int × OutPostcard :=
  match c.checkName name with
  | .error code => (code, c)
  | .ok (pOut, name) =>
      match array with
      | none => (6, c)
      | some array =>
          if array.length = 0 then (7, c)
          else
            let dataBlockLength := array.length * t.size % 2 ^ 32
            append alloc pOut
              [(8, leBytes 2 (FieldType.array t).code), (9, leBytes 2 (name.bytes.length + 1)),
                (10, name.withNul), (11, leBytes 4 dataBlockLength),
                (12, (array.flatMap SimpleType.toBytes).take dataBlockLength)]

/-- `addBlob`. -/
def addBlob (alloc : Allocator) (c : OutPostcard) (name : Option CString)
    (blob : Option (List UInt8)) : Int × OutPostcard :=
  c.addBlobWithType alloc name .blob blob true

/-- `addString`. -/
def addString (alloc : Allocator) (c : OutPostcard) (name : Option CString)
    (str : Option CString) : Int × OutPostcard :=
  match name with
  | none => (2, c)
  | some name =>
      match str with
      | none => (3, c)
      | some str =>
          let r := c.addBlobWithType alloc (some name) .string (some str.withNul) true
          (if r.1 ≠ 0 then 4 else 0, r.2)

/-- `addCard`: the encoded bytes of a finalized card, which begin with their length. -/
def addCard (alloc : Allocator) (c : OutPostcard) (name : Option CString)
    (pCard : Option OutPostcard) : Int × OutPostcard :=
  match name with
  | none => (2, c)
  | some name =>
      match pCard with
      | none => (3, c)
      | some (.finalized pOut) =>
          let r := c.addBlobWithType alloc (some name) .card (some pOut.contents) false
          (if r.1 ≠ 0 then 5 else 0, r.2)
      | some _ => (4, c)

section

variable (alloc : Allocator) (c : OutPostcard) (name : Option CString)

/-- `addDouble`, the value given by its bits. -/
def addDouble (value : BitVec 64) := c.add alloc name .double value
/-- `addFloat`, the value given by its bits. -/
def addFloat (value : BitVec 32) := c.add alloc name .float value
/-- `addInt64`. -/
def addInt64 (value : Int64) := c.add alloc name .int64 value.toBitVec
/-- `addUInt64`. -/
def addUInt64 (value : UInt64) := c.add alloc name .uint64 value.toBitVec
/-- `addInt32`. -/
def addInt32 (value : Int32) := c.add alloc name .int32 value.toBitVec
/-- `addUInt32`. -/
def addUInt32 (value : UInt32) := c.add alloc name .uint32 value.toBitVec
/-- `addInt16`. -/
def addInt16 (value : Int16) := c.add alloc name .int16 value.toBitVec
/-- `addUInt16`. -/
def addUInt16 (value : UInt16) := c.add alloc name .uint16 value.toBitVec
/-- `addInt8`. -/
def addInt8 (value : Int8) := c.add alloc name .int8 value.toBitVec
/-- `addUInt8`. -/
def addUInt8 (value : UInt8) := c.add alloc name .uint8 value.toBitVec
/-- `addBool`. -/
def addBool (value : Bool) := c.add alloc name .bool (if value then 1 else 0)
/-- `addPtr` where pointers have 64 bits. -/
def addPtr (value : BitVec 64) := c.add alloc name .int64 value

/-- `addArrayDouble`. -/
def addArrayDouble (array : Option (List (BitVec 64))) := c.addArray alloc name .double array
/-- `addArrayFloat`. -/
def addArrayFloat (array : Option (List (BitVec 32))) := c.addArray alloc name .float array
/-- `addArrayInt64`. -/
def addArrayInt64 (array : Option (List Int64)) :=
  c.addArray alloc name .int64 (array.map (·.map Int64.toBitVec))
/-- `addArrayUInt64`. -/
def addArrayUInt64 (array : Option (List UInt64)) :=
  c.addArray alloc name .uint64 (array.map (·.map UInt64.toBitVec))
/-- `addArrayInt32`. -/
def addArrayInt32 (array : Option (List Int32)) :=
  c.addArray alloc name .int32 (array.map (·.map Int32.toBitVec))
/-- `addArrayUInt32`. -/
def addArrayUInt32 (array : Option (List UInt32)) :=
  c.addArray alloc name .uint32 (array.map (·.map UInt32.toBitVec))
/-- `addArrayInt16`. -/
def addArrayInt16 (array : Option (List Int16)) :=
  c.addArray alloc name .int16 (array.map (·.map Int16.toBitVec))
/-- `addArrayUInt16`. -/
def addArrayUInt16 (array : Option (List UInt16)) :=
  c.addArray alloc name .uint16 (array.map (·.map UInt16.toBitVec))
/-- `addArrayInt8`. -/
def addArrayInt8 (array : Option (List Int8)) :=
  c.addArray alloc name .int8 (array.map (·.map Int8.toBitVec))
/-- `addArrayUInt8`. -/
def addArrayUInt8 (array : Option (List UInt8)) :=
  c.addArray alloc name .uint8 (array.map (·.map UInt8.toBitVec))
/-- `addArrayBool`; a `bool` in memory is the byte 0 or 1. -/
def addArrayBool (array : Option (List Bool)) :=
  c.addArray alloc name .bool (array.map (·.map fun b => if b then 1 else 0))
/-- `addArrayPtr` where pointers have 64 bits. -/
def addArrayPtr (array : Option (List (BitVec 64))) := c.addArray alloc name .int64 array

end

end OutPostcard

end LocationStack.Postcard
