import Mathlib.Data.List.DropRight
import Mathlib.Data.List.TakeWhile
import LocationStack.Lib.LittleEndian

/-! # The configuration file

`ConfigFileImpl` of `config_file.cpp`.  The constructor reads a file line by line into a
buffer, takes each line apart with a pair of cursors, and keeps the pairs of a name and a
value, the last one first.  A string is the bytes before its zero byte, so that a cursor
stays within the length of the line.
-/
namespace LocationStack.Config

open LittleEndian

/-- `isspace`. -/
def isspace (b : UInt8) : Bool := b == 32 || (9 ≤ b && b ≤ 13)

/-- `isalpha`. -/
def isalpha (b : UInt8) : Bool := (65 ≤ b && b ≤ 90) || (97 ≤ b && b ≤ 122)

/-- `isalnum`. -/
def isalnum (b : UInt8) : Bool := isalpha b || (48 ≤ b && b ≤ 57)

/-- The bytes of a name after its first: alphanumeric, `-` and `_`. -/
def isNameByte (b : UInt8) : Bool := isalnum b || b == 45 || b == 95

/-- `'\n'`, `'#'`, `'='` and `'"'`. -/
def newline : UInt8 := 10
def hash : UInt8 := 35
def equalSign : UInt8 := 61
def quote : UInt8 := 34

/-- `line[i]`; after the line comes its zero byte. -/
def charAt (line : List UInt8) (i : Nat) : UInt8 := line.getD i 0

/-! ## Taking a line apart -/

/-- `cursor_begin` and `cursor_end`. -/
structure Cursors where
  cursorBegin : Nat
  cursorEnd : Nat

/-- The first loop of `trim`, of at most `n` steps. -/
def leftTrim (line : List UInt8) : Nat → Nat → Nat
  | 0, i => i
  | n + 1, i => if isspace (charAt line i) then leftTrim line n (i + 1) else i

/-- The second loop of `trim`. -/
def rightTrim (line : List UInt8) (cursorBegin : Nat) : Nat → Nat
  | 0 => 0
  | i + 1 =>
      if cursorBegin < i + 1 ∧ isspace (charAt line i) then rightTrim line cursorBegin i else i + 1

/-- `trim`. -/
def trim (c : Cursors) (line : List UInt8) : Cursors :=
  if c.cursorEnd ≤ c.cursorBegin then c
  else
    let cursorBegin := leftTrim line (c.cursorEnd - c.cursorBegin) c.cursorBegin
    ⟨cursorBegin, rightTrim line cursorBegin c.cursorEnd⟩

/-- The loop of `find_name`, of at most `n` steps: the beginning and the end of the name, if
it was found. -/
def nameLoop (line : List UInt8) : Nat → Nat → Option (Nat × Nat) → Option (Nat × Nat)
  | 0, _, found => found
  | n + 1, i, none =>
      if isalpha (charAt line i) then nameLoop line n (i + 1) (some (i, i + 1)) else none
  | n + 1, i, some (nameBegin, nameEnd) =>
      if isNameByte (charAt line i) then nameLoop line n (i + 1) (some (nameBegin, i + 1))
      else some (nameBegin, nameEnd)

/-- `find_name`: the cursors after it, and the beginning and the end of the name. -/
def findName (c : Cursors) (line : List UInt8) : Except Int (Cursors × Nat × Nat) :=
  if c.cursorBegin ≥ c.cursorEnd then .error 2
  else
    match nameLoop line (c.cursorEnd - c.cursorBegin) c.cursorBegin none with
    | some (nameBegin, nameEnd) =>
        .ok (trim ⟨nameEnd, c.cursorEnd⟩ line, nameBegin, nameEnd)
    | none => .error 3

/-- `find_equal`. -/
def findEqual (c : Cursors) (line : List UInt8) : Except Int Cursors :=
  if c.cursorBegin ≥ c.cursorEnd then .error 2
  else if charAt line c.cursorBegin = equalSign then
    .ok (trim ⟨c.cursorBegin + 1, c.cursorEnd⟩ line)
  else .error 3

/-- `find_value`: the cursors after it, and the beginning and the end of the value. -/
def findValue (c : Cursors) (line : List UInt8) : Except Int (Cursors × Nat × Nat) :=
  if c.cursorBegin ≥ c.cursorEnd then .error 2
  else
    let valueBegin := c.cursorBegin
    let valueEnd := c.cursorEnd
    let c : Cursors := ⟨c.cursorEnd, c.cursorEnd⟩
    if charAt line valueBegin = quote then
      if valueEnd - valueBegin ≥ 2 then
        if charAt line (valueEnd - 1) = quote then .ok (c, valueBegin + 1, valueEnd - 1)
        else .error 3
      else .error 4
    else .ok (c, valueBegin, valueEnd)

/-- `subStringDup`.  The code for an empty range is overwritten: the copy is then the empty
string. -/
def subStringDup (line : List UInt8) (first last : Nat) : List UInt8 :=
  (line.drop first).take (last - first)

/-- `ConfigPair`. -/
structure ConfigPair where
  name : List UInt8
  value : List UInt8
  deriving DecidableEq

/-- What the loop of the constructor makes of a line: nothing, if it is empty or a comment,
a pair, or an error. -/
def parseLine (line : List UInt8) : Except Int (Option ConfigPair) :=
  let c := trim ⟨0, line.length⟩ line
  if c.cursorBegin ≥ c.cursorEnd then .ok none
  else if charAt line c.cursorBegin = hash then .ok none
  else
    match findName c line with
    | .error _ => .error 110
    | .ok (c, nameBegin, nameEnd) =>
        match findEqual c line with
        | .error _ => .error 111
        | .ok c =>
            match findValue c line with
            | .error _ => .error 112
            | .ok (c, valueBegin, valueEnd) =>
                if c.cursorBegin < c.cursorEnd then .error 113
                else
                  .ok (some ⟨subStringDup line nameBegin nameEnd,
                    subStringDup line valueBegin valueEnd⟩)

/-! ## Reading the file -/

/-- Reads bytes up to a newline, and that one, but at most `n`: they, and the rest. -/
def readLine : Nat → List UInt8 → List UInt8 × List UInt8
  | 0, file => ([], file)
  | _ + 1, [] => ([], [])
  | n + 1, b :: file =>
      if b = newline then ([b], file)
      else (b :: (readLine n file).1, (readLine n file).2)

/-- `fgets` with a buffer of `size` bytes: what it puts there before the zero byte, and the
rest of the file; `none` is the null pointer, at the end of the file. -/
def fgets (size : Int) (file : List UInt8) : Option (List UInt8 × List UInt8) :=
  if size ≤ 0 then none
  else if size = 1 then some ([], file)
  else if file = [] then none
  else some (readLine (size.toNat - 1) file)

/-- The string in a buffer. -/
def cString (buffer : List UInt8) : List UInt8 := buffer.takeWhile (· ≠ 0)

/-- What the constructor is given by its surroundings: whether the file can be opened,
whether there is memory for the line, for a second line when it is verbose, and for the
copies of the `k`-th pair, and whether the file is read without an error. -/
structure Resources where
  opened : Bool
  lineAllocated : Bool
  debugAllocated : Bool
  nameAllocated : Nat → Bool
  valueAllocated : Nat → Bool
  pairAllocated : Nat → Bool
  readError : Bool

/-- Everything succeeds. -/
def Resources.Ample (r : Resources) : Prop :=
  r.opened = true ∧ r.lineAllocated = true ∧ r.debugAllocated = true ∧
    (∀ k, r.nameAllocated k = true) ∧ (∀ k, r.valueAllocated k = true) ∧
    (∀ k, r.pairAllocated k = true) ∧ r.readError = false

/-- An iteration of the loop of the constructor ends it with a result, or goes on with the
rest of the file. -/
inductive Read
  | stop (result : Int) (config : List ConfigPair)
  | next (file : List UInt8) (config : List ConfigPair)

/-- One iteration of the loop of the constructor; `size` is what it passes to `fgets`. -/
def readStep (r : Resources) (size : Int) (maxLineLength : Nat) (file : List UInt8)
    (config : List ConfigPair) : Read :=
  match fgets size file with
  | none => .stop 100 config
  | some (buffer, rest) =>
      let line := cString buffer
      if line.length ≥ maxLineLength then .stop 101 config
      else
        match parseLine line with
        | .error code => .stop code config
        | .ok none => .next rest config
        | .ok (some pair) =>
            if r.nameAllocated config.length = false then .stop 114 config
            else if r.valueAllocated config.length = false then .stop 115 config
            else if r.pairAllocated config.length = false then .stop 116 config
            else .next rest (pair :: config)

/-- The loop of the constructor: its result and the pairs.  When `fgets` has read nothing,
it never does, and the loop does not end (`none`). -/
def readLines (r : Resources) (size : Int) (maxLineLength : Nat) (file : List UInt8)
    (config : List ConfigPair) : Option (Int × List ConfigPair) :=
  match readStep r size maxLineLength file config with
  | .stop result config => some (result, config)
  | .next rest config =>
      if _h : rest.length < file.length then readLines r size maxLineLength rest config else none
termination_by file.length

/-- `ConfigFileImpl`: `m_loaded` and `m_config`. -/
structure ConfigFile where
  loaded : Bool
  config : List ConfigPair

/-- The constructor, on a file with these contents; `fgets` takes an `int`. -/
def ConfigFile.construct (r : Resources) (maxLineLength : Nat) (verbose : Bool)
    (file : List UInt8) : Option ConfigFile :=
  if r.opened = false then some ⟨false, []⟩
  else if r.lineAllocated = false then some ⟨false, []⟩
  else if verbose && !r.debugAllocated then some ⟨false, []⟩
  else
    match readLines r (toInt (maxLineLength + 1)) maxLineLength file [] with
    | none => none
    | some (result, config) => some ⟨result == 100 && !r.readError, config⟩

/-- `NOT_FOUND`. -/
def notFound : Int := 1000

/-- `getString`; the caller's pointer to a result is not null. -/
def ConfigFile.getString (f : ConfigFile) (name : Option (List UInt8)) :
    Int × Option (List UInt8) :=
  if f.loaded = false then (2, none)
  else
    match name with
    | none => (3, none)
    | some name =>
        match f.config.find? (·.name = name) with
        | some pair => (0, some pair.value)
        | none => (notFound, none)

/-- `getStringDup`; `allocated` tells whether the copy could be allocated. -/
def ConfigFile.getStringDup (allocated : Bool) (f : ConfigFile) (name : Option (List UInt8))
    (strDefault : Option (List UInt8)) : Int × Option (List UInt8) :=
  let found : Int × Option (List UInt8) :=
    if f.loaded = false then (notFound, none)
    else
      match name with
      | none => (3, none)
      | some name =>
          match f.config.find? (·.name = name) with
          | some pair => if allocated then (0, some pair.value) else (101, none)
          | none => (notFound, none)
  if found.1 = notFound then
    match strDefault with
    | none => found
    | some str => if allocated then (0, some str) else (111, none)
  else found

end LocationStack.Config
