import LocationStack.Lib.LittleEndian
import Mathlib.Data.List.Basic

/-! # `NvParamMgr`

Parameters that survive a reboot: each is a blob in a row of one SQLite table, found by its
name.  One function writes the blobs of all the types and one reads them; a getter gives the
reader the storage of the caller's variable and looks at the length afterwards.

What SQLite, the random device and the clock do is the environment of a call.  A SELECT is seen
through the codes of its calls and the column of the row it finds, an INSERT through the codes of
its calls; it writes its row if it gets to the end.
-/
namespace LocationStack
namespace NvParam

open LittleEndian

/-- A C string, without its NUL. -/
abbrev Name := List UInt8

def cString (s : String) : Name := s.toList.map Char.toUInt8

def PARAM_NAME_PSEUDO_CLIENT_ID : Name := cString "PSEUDO_CLIENT_ID"

def PARAM_NAME_PSEUDO_CLIENT_ID_64BIT : Name := cString "PSEUDO_CLIENT_ID_64BIT"

inductive nv_param_err_code
  | noErr
  | paramNotFound
  | prramNotValid
  | sqliteBusy
  | sqliteOtherErr
  deriving DecidableEq

def nv_param_err_code.toInt : nv_param_err_code → Int
  | .noErr => 0
  | .paramNotFound => 1
  | .prramNotValid => 2
  | .sqliteBusy => 3
  | .sqliteOtherErr => 4

/-! ## The environment of a call -/

inductive SqliteCode
  | ok
  | row
  | done
  | busy
  | locked
  /-- Any other code. -/
  | error
  deriving DecidableEq

/-- What comes of the SELECT for a name. -/
structure Select where
  /-- `wrapper_mprintf` makes the sentence. -/
  sentence : Bool
  prepare : SqliteCode
  step : SqliteCode
  /-- `sqlite3_column_blob`: `none` is the null pointer. -/
  column : Option (List UInt8)
  /-- `new` gives a buffer for the copy. -/
  alloc : Bool
  deriving DecidableEq

/-- What comes of an INSERT. -/
structure Insert where
  sentence : Bool
  prepare : SqliteCode
  bindText : SqliteCode
  bindBlob : SqliteCode
  step : SqliteCode
  deriving DecidableEq

/-- The random device, the clock and the generator seeded with it. -/
structure Random where
  /-- The device can be opened. -/
  opened : Bool
  /-- What an attempt reads; `none` if `poll` returns 0 or `read` returns less than 8 bytes. -/
  attempt : Nat → Option (BitVec 64)
  time_sec : Int
  /-- The values of `mrand48` after `srand48`, one after the other. -/
  mrand48 : Nat → BitVec 32

structure Env where
  select : Name → Select
  /-- By the name and the length of the data. -/
  insert : Name → Nat → Insert
  random : Random

/-! ## The two functions on blobs -/

/-- `_BREAK_SQLITE_CHECK`: the result to break with. -/
def breakSqliteCheck (sqlRes rt : SqliteCode) : Option nv_param_err_code :=
  if sqlRes = .busy ∨ sqlRes = .locked then some .sqliteBusy
  else if rt ≠ sqlRes then some .sqliteOtherErr
  else none

/-- What an INSERT binds to its two parameters. -/
structure Write where
  param_name : Name
  param_data : List UInt8
  deriving DecidableEq

structure Saved where
  result : nv_param_err_code
  writes : List Write
  deriving DecidableEq

/-- The text that `sqlite3_bind_text` binds: the length is an `int`, and a negative one stands for
the whole string. -/
def boundText (param_name : Name) : Name :=
  let n := (BitVec.ofNat 32 param_name.length).toInt
  if n < 0 then param_name else param_name.take n.toNat

def saveNvDataBlob (e : Env) (param_name : Option Name) (data : Option (List UInt8))
    (data_len : Nat) : Saved :=
  match param_name, data with
  | some param_name, some data =>
    let q := e.insert param_name data_len
    if !q.sentence then ⟨.sqliteOtherErr, []⟩
    else
      match breakSqliteCheck q.prepare .ok <|> breakSqliteCheck q.bindText .ok <|>
          breakSqliteCheck q.bindBlob .ok <|> breakSqliteCheck q.step .done with
      | some result => ⟨result, []⟩
      | none => ⟨.noErr, [⟨boundText param_name, data.take data_len⟩]⟩
  | _, _ => ⟨.prramNotValid, []⟩

/-- What `getNvDataBlob` leaves behind. -/
structure Blob where
  result : nv_param_err_code
  /-- The bytes it has copied, to `data` or to a buffer of its own. -/
  copied : Option (List UInt8)
  data_len : Nat
  deriving DecidableEq

/-- With a `data_len` of 0 the copy goes to a new buffer. -/
def getNvDataBlob (q : Select) (data_len : Nat) : Blob :=
  if !q.sentence then ⟨.sqliteOtherErr, none, data_len⟩
  else
    match breakSqliteCheck q.prepare .ok with
    | some result => ⟨result, none, data_len⟩
    | none =>
      match q.step with
      | .row =>
        match q.column with
        | none => ⟨.sqliteOtherErr, none, data_len⟩
        | some blob =>
          if data_len = 0 then
            if q.alloc then ⟨.noErr, some blob, blob.length⟩
            else ⟨.sqliteOtherErr, none, data_len⟩
          else if blob.length ≤ data_len then ⟨.noErr, some blob, blob.length⟩
          else ⟨.prramNotValid, none, data_len⟩
      | .done => ⟨.paramNotFound, none, data_len⟩
      | .busy | .locked => ⟨.sqliteBusy, none, data_len⟩
      | _ => ⟨.sqliteOtherErr, none, data_len⟩

/-! ## The pseudo client id -/

structure NvParamMgr where
  m_pseudo_client_id_exist : Bool
  m_pseudo_client_id_64 : BitVec 64
  m_pseudo_client_id_32 : BitVec 32
  deriving DecidableEq

def NvParamMgr.init : NvParamMgr := ⟨false, 0, 0⟩

namespace Random

variable (r : Random)

/-- The first of five attempts whose lower half is not 0. -/
def hardware : Option (BitVec 64) :=
  (List.range 5).findSome? fun retry_count =>
    (r.attempt retry_count).filter fun random_uint64 => random_uint64.setWidth 32 ≠ 0

/-- The upper half has five attempts at a value that is not 0, the lower half one at any. -/
def software : Option (BitVec 64) :=
  if r.time_sec > 43 * 365 * 24 * 60 * 60 then
    let i := ((List.range 5).find? fun i => r.mrand48 i ≠ 0).getD 4
    some (((r.mrand48 i).setWidth 64 <<< 32) + (r.mrand48 (i + 1)).setWidth 64)
  else none

/-- The value that is valid, if one is. -/
def random_uint64 : Option (BitVec 64) :=
  if r.opened then r.hardware <|> r.software else none

end Random

structure Generated where
  ret_val : Int
  mgr : NvParamMgr
  writes : List Write
  deriving DecidableEq

def generatePseudoClientIdIfNeeded (m : NvParamMgr) (e : Env) : Generated :=
  if m.m_pseudo_client_id_exist then ⟨0, m, []⟩
  else
    let got := getNvDataBlob (e.select PARAM_NAME_PSEUDO_CLIENT_ID_64BIT) 8
    if got.result = .noErr ∧ got.data_len = 8 then
      let param_value := BitVec.ofNat 64 (ofLeBytes (got.copied.getD []))
      ⟨0, ⟨true, param_value, param_value.setWidth 32⟩, []⟩
    else
      match e.random.random_uint64 with
      | none => ⟨got.result.toInt, m, []⟩
      | some random_uint64 =>
        let id_32 := random_uint64.setWidth 32
        let rc1 := saveNvDataBlob e (some PARAM_NAME_PSEUDO_CLIENT_ID)
          (some (leBytes 4 id_32.toNat)) 4
        let rc2 := saveNvDataBlob e (some PARAM_NAME_PSEUDO_CLIENT_ID_64BIT)
          (some (leBytes 8 random_uint64.toNat)) 8
        let writes := rc1.writes ++ rc2.writes
        if rc1.result = .noErr ∨ rc2.result = .noErr then
          ⟨0, ⟨true, random_uint64, id_32⟩, writes⟩
        else ⟨-10, ⟨false, random_uint64, id_32⟩, writes⟩

/-! ## The typed functions -/

/-- The types of parameters. -/
inductive Kind
  | int32
  | bool
  | float
  | uint32
  | int64
  | uint64
  | string
  | blob
  deriving DecidableEq

/-- The two variables that a string or a blob is given to. -/
structure Buffer where
  /-- What the pointer points to. -/
  param_value : List UInt8
  param_size_in_bytes : Nat
  deriving DecidableEq

/-- The caller's variable: the bytes that a number is stored in, or a buffer. -/
abbrev Kind.Var : Kind → Type
  | .int32 | .float | .uint32 => Vector UInt8 4
  | .bool => Vector UInt8 1
  | .int64 | .uint64 => Vector UInt8 8
  | .string | .blob => Buffer

/-- What can be saved.  The size of a blob is an `unsigned int`. -/
abbrev Kind.Value : Kind → Type
  | .int32 | .float | .uint32 => Vector UInt8 4
  | .bool => Vector UInt8 1
  | .int64 | .uint64 => Vector UInt8 8
  | .string => List UInt8
  | .blob => { bytes : List UInt8 // bytes.length < 2 ^ 32 }

/-- The bytes of an unsigned integer. -/
def bytesOf (n v : Nat) : Vector UInt8 n := ⟨(leBytes n v).toArray, by simp⟩

/-- `memcpy` to the first bytes of a variable. -/
def memcpy {n : Nat} (param_value : Vector UInt8 n) (bytes : List UInt8) : Vector UInt8 n :=
  Vector.ofFn fun i => bytes[i.val]?.getD param_value[i]

section Save

variable (e : Env) (param_name : Name)

def saveNumber {n : Nat} (param_value : Vector UInt8 n) : Saved :=
  saveNvDataBlob e (some param_name) (some param_value.toList) n

def saveInt32Param (param_value : Vector UInt8 4) : Saved := saveNumber e param_name param_value

def saveBoolParam (param_value : Vector UInt8 1) : Saved := saveNumber e param_name param_value

def saveFloatParam (param_value : Vector UInt8 4) : Saved := saveNumber e param_name param_value

def saveUInt32Param (param_value : Vector UInt8 4) : Saved := saveNumber e param_name param_value

def saveInt64Param (param_value : Vector UInt8 8) : Saved := saveNumber e param_name param_value

def saveUInt64Param (param_value : Vector UInt8 8) : Saved := saveNumber e param_name param_value

/-- The length is a `size_t`, given as a `uint32_t`. -/
def saveStringParam (param_value : List UInt8) : Saved :=
  saveNvDataBlob e (some param_name) (some param_value) (param_value.length % 2 ^ 32)

def saveBlobParam (param_value : Option (List UInt8)) (param_size_in_bytes : Nat) : Saved :=
  saveNvDataBlob e (some param_name) param_value param_size_in_bytes

/-- The function that saves a type. -/
def save : (k : Kind) → k.Value → Saved
  | .int32, param_value => saveInt32Param e param_name param_value
  | .bool, param_value => saveBoolParam e param_name param_value
  | .float, param_value => saveFloatParam e param_name param_value
  | .uint32, param_value => saveUInt32Param e param_name param_value
  | .int64, param_value => saveInt64Param e param_name param_value
  | .uint64, param_value => saveUInt64Param e param_name param_value
  | .string, param_value => saveStringParam e param_name param_value
  | .blob, param_value => saveBlobParam e param_name (some param_value.1) param_value.1.length

end Save

/-- What a getter leaves behind. -/
structure Got (α : Type) where
  result : nv_param_err_code
  param_value : α
  mgr : NvParamMgr
  writes : List Write
  deriving DecidableEq

section Get

variable (m : NvParamMgr) (e : Env) (param_name : Name)

def getNumber {n : Nat} (param_value : Vector UInt8 n) : Got (Vector UInt8 n) :=
  let got := getNvDataBlob (e.select param_name) n
  let param_value := (got.copied.map (memcpy param_value)).getD param_value
  if got.result = .noErr ∧ got.data_len ≠ n then ⟨.prramNotValid, param_value, m, []⟩
  else ⟨got.result, param_value, m, []⟩

/-- The getter of a type that a pseudo client id can have. -/
def getNumberOrId {n : Nat} (idName : Name) (id : NvParamMgr → Nat)
    (param_value : Vector UInt8 n) : Got (Vector UInt8 n) :=
  if param_name = idName then
    let g := generatePseudoClientIdIfNeeded m e
    if g.ret_val = 0 then ⟨.noErr, bytesOf n (id g.mgr), g.mgr, g.writes⟩
    else ⟨.sqliteOtherErr, param_value, g.mgr, g.writes⟩
  else getNumber m e param_name param_value

def getInt32Param (param_value : Vector UInt8 4) : Got (Vector UInt8 4) :=
  getNumberOrId m e param_name PARAM_NAME_PSEUDO_CLIENT_ID
    (fun m => m.m_pseudo_client_id_32.toNat) param_value

def getBoolParam (param_value : Vector UInt8 1) : Got (Vector UInt8 1) :=
  getNumber m e param_name param_value

def getFloatParam (param_value : Vector UInt8 4) : Got (Vector UInt8 4) :=
  getNumber m e param_name param_value

def getUInt32Param (param_value : Vector UInt8 4) : Got (Vector UInt8 4) :=
  getNumber m e param_name param_value

def getInt64Param (param_value : Vector UInt8 8) : Got (Vector UInt8 8) :=
  getNumberOrId m e param_name PARAM_NAME_PSEUDO_CLIENT_ID_64BIT
    (fun m => m.m_pseudo_client_id_64.toNat) param_value

def getUInt64Param (param_value : Vector UInt8 8) : Got (Vector UInt8 8) :=
  getNumberOrId m e param_name PARAM_NAME_PSEUDO_CLIENT_ID_64BIT
    (fun m => m.m_pseudo_client_id_64.toNat) param_value

def getBuffer (param_value : Buffer) : Got Buffer :=
  let got := getNvDataBlob (e.select param_name) 0
  if got.result ≠ .noErr then ⟨got.result, param_value, m, []⟩
  else ⟨.noErr, ⟨got.copied.getD [], got.data_len⟩, m, []⟩

def getStringParam (param_value : Buffer) : Got Buffer := getBuffer m e param_name param_value

def getBlobParam (param_value : Buffer) : Got Buffer := getBuffer m e param_name param_value

/-- The getter of a type. -/
def get : (k : Kind) → k.Var → Got k.Var
  | .int32, param_value => getInt32Param m e param_name param_value
  | .bool, param_value => getBoolParam m e param_name param_value
  | .float, param_value => getFloatParam m e param_name param_value
  | .uint32, param_value => getUInt32Param m e param_name param_value
  | .int64, param_value => getInt64Param m e param_name param_value
  | .uint64, param_value => getUInt64Param m e param_name param_value
  | .string, param_value => getStringParam m e param_name param_value
  | .blob, param_value => getBlobParam m e param_name param_value

end Get

/-- The name for which a getter gives the id of the process. -/
def Kind.idName : Kind → Option Name
  | .int32 => some PARAM_NAME_PSEUDO_CLIENT_ID
  | .int64 | .uint64 => some PARAM_NAME_PSEUDO_CLIENT_ID_64BIT
  | _ => none

/-! ## The blob reader -/

/-- The blob of the row that a SELECT finds. -/
def Select.blob (q : Select) : Option (List UInt8) :=
  if q.sentence ∧ q.prepare = .ok ∧ q.step = .row then q.column else none

theorem breakSqliteCheck_eq_none {sqlRes rt : SqliteCode} (hbusy : rt ≠ .busy)
    (hlocked : rt ≠ .locked) : breakSqliteCheck sqlRes rt = none ↔ sqlRes = rt := by
  unfold breakSqliteCheck
  constructor
  · intro h
    split at h
    · contradiction
    · split at h
      · contradiction
      · rename_i hrt
        exact (not_not.mp hrt).symm
  · rintro rfl
    simp [hbusy, hlocked]

theorem ne_noErr_of_breakSqliteCheck {sqlRes rt : SqliteCode} {result : nv_param_err_code}
    (h : breakSqliteCheck sqlRes rt = some result) : result ≠ .noErr := by
  unfold breakSqliteCheck at h
  split at h
  · cases h
    nofun
  · split at h
    · cases h
      nofun
    · contradiction

section Read

variable {q : Select} {data_len : Nat} {blob : List UInt8}

/-- Without a blob nothing is copied. -/
theorem getNvDataBlob_of_none (data_len : Nat) (h : q.blob = none) :
    (getNvDataBlob q data_len).result ≠ .noErr ∧ (getNvDataBlob q data_len).copied = none := by
  unfold getNvDataBlob
  split
  · exact ⟨nofun, rfl⟩
  · have hsentence : q.sentence = true := by simpa using ‹¬ (!q.sentence) = true›
    split
    · exact ⟨ne_noErr_of_breakSqliteCheck ‹_›, rfl⟩
    · rename_i hprepare
      have hok : q.prepare = .ok := (breakSqliteCheck_eq_none (by decide) (by decide)).mp hprepare
      cases hstep : q.step with
      | row =>
        have hcolumn : q.column = none := by simpa [Select.blob, hsentence, hok, hstep] using h
        simp [hcolumn]
      | ok | done | busy | locked | error => simp

theorem select_of_blob (h : q.blob = some blob) :
    q.sentence = true ∧ q.prepare = .ok ∧ q.step = .row ∧ q.column = some blob := by
  unfold Select.blob at h
  split at h
  · rename_i hq
    exact ⟨hq.1, hq.2.1, hq.2.2, h⟩
  · contradiction

/-- The reader behind its failure points. -/
theorem getNvDataBlob_of_some (h : q.blob = some blob) :
    getNvDataBlob q data_len =
      if data_len = 0 then
        if q.alloc then ⟨.noErr, some blob, blob.length⟩ else ⟨.sqliteOtherErr, none, data_len⟩
      else if blob.length ≤ data_len then ⟨.noErr, some blob, blob.length⟩
      else ⟨.prramNotValid, none, data_len⟩ := by
  obtain ⟨hsentence, hprepare, hstep, hcolumn⟩ := select_of_blob h
  have hcheck : breakSqliteCheck q.prepare .ok = none :=
    (breakSqliteCheck_eq_none (by decide) (by decide)).mpr hprepare
  simp [getNvDataBlob, hsentence, hcheck, hstep, hcolumn]

end Read

/-! ## Variables -/

section Copy

variable {n : Nat} {param_value : Vector UInt8 n} {bytes : List UInt8}

theorem getElem_memcpy (param_value : Vector UInt8 n) (bytes : List UInt8) (i : Nat) (h : i < n) :
    (memcpy param_value bytes)[i] = bytes[i]?.getD param_value[i] := by
  simp [memcpy]

/-- A copy over the whole variable. -/
theorem toList_memcpy (h : bytes.length = n) : (memcpy param_value bytes).toList = bytes := by
  apply List.ext_getElem
  · simp [h]
  · intro i hi hi'
    simp [getElem_memcpy, List.getElem?_eq_getElem hi']

/-- A shorter copy leaves the variable as it is if the variable begins with the bytes. -/
theorem memcpy_eq_self_iff (h : bytes.length ≤ n) :
    memcpy param_value bytes = param_value ↔ bytes = param_value.toList.take bytes.length := by
  constructor
  · intro hself
    apply List.ext_getElem
    · simp [h]
    · intro i hi _
      have hget := getElem_memcpy param_value bytes i (by omega)
      rw [List.getElem?_eq_getElem hi, Option.getD_some] at hget
      simp only [hself] at hget
      simp [hget]
  · intro hprefix
    apply Vector.ext
    intro i hi
    rw [getElem_memcpy param_value bytes i hi]
    by_cases hlt : i < bytes.length
    · have hget : bytes[i]? = (param_value.toList.take bytes.length)[i]? :=
        congrArg (fun l => l[i]?) hprefix
      rw [hget, List.getElem?_take_of_lt hlt]
      simp [hi]
    · simp [List.getElem?_eq_none (Nat.le_of_not_lt hlt)]

end Copy

end NvParam
end LocationStack
