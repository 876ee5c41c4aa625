import LocationStack.BaseUtil.NvParam
import LocationStack.Lib.EventRun
import Mathlib.Data.List.Nodup

/-! # The parameters in the database

A save binds the name to a parameter of its INSERT; a get splices it into the text of its SELECT,
between double quotes.  SQLite reads what stands there as an identifier if the table has a column
of that name, in any case, and as a string if not.

What SQLite leaves open (its limits, the number of a new row, the row that comes first, numbers
in texts) is in the fields of `Sqlite`, with what its documentation says of it as laws.
-/
namespace LocationStack
namespace NvParam

/-! ## The table -/

structure Row where
  rowid : Nat
  param_name : Name
  param_data : List UInt8
  deriving DecidableEq

/-- `NV_PARAM_Table`. -/
structure Db where
  rows : List Row
  unique : (rows.map Row.param_name).Nodup

def Db.empty : Db := ⟨[], List.nodup_nil⟩

/-- What the text between the quotes of a SELECT stands for. -/
inductive Operand
  | param_name
  | param_data
  | rowid
  | text (s : Name)
  deriving DecidableEq

def toLower (b : UInt8) : UInt8 := if 65 ≤ b ∧ b ≤ 90 then b + 32 else b

def operand (s : Name) : Operand :=
  let lower := s.map toLower
  if lower = cString "param_name" then .param_name
  else if lower = cString "param_data" then .param_data
  else if lower ∈ [cString "rowid", cString "oid", cString "_rowid_"] then .rowid
  else .text s

def quote : UInt8 := 34

/-- What a text between two quotes means: a pair of them stands for one.  `none` if they do not
come in pairs. -/
def unquote : Name → Option Name
  | [] => some []
  | [b] => if b = quote then none else some [b]
  | b :: b' :: rest =>
    if b = quote then
      if b' = quote then (unquote rest).map (quote :: ·) else none
    else (unquote (b' :: rest)).map (b :: ·)

structure Sqlite where
  /-- The limit on the length of a sentence. -/
  sqlLengthLimit : Nat
  sqlLengthLimit_lt : sqlLengthLimit < 2 ^ 31
  /-- A text and a blob of these lengths are within the limits on values and rows. -/
  accepts : Nat → Nat → Bool
  accepts_lt : ∀ text blob, accepts text blob → blob < 2 ^ 31
  accepts_mono : ∀ text text' blob, text' ≤ text → accepts text blob → accepts text' blob
  newRowid : List Row → Nat
  /-- The text is equal to the number, under numeric affinity. -/
  numericEq : Name → Nat → Bool
  numericEq_rowid : ∀ s n, operand s = .rowid → numericEq s n = false
  /-- The row that comes first, where the order is not defined. -/
  first : List Row → Option Row
  first_mem : ∀ rows row, first rows = some row → row ∈ rows
  first_isSome : ∀ rows, rows ≠ [] → (first rows).isSome
  /-- What a SELECT gives whose name ends the text and goes on as SQL. -/
  spliced : Name → List Row → Select

/-- The row with a name is replaced by an INSERT of that name. -/
def Db.write (sq : Sqlite) (db : Db) (w : Write) : Db where
  rows := db.rows.filter (fun row => row.param_name ≠ w.param_name) ++
    [⟨sq.newRowid db.rows, w.param_name, w.param_data⟩]
  unique := by
    rw [List.map_append, List.nodup_append]
    refine ⟨db.unique.sublist (List.Sublist.map _ List.filter_sublist), by simp, ?_⟩
    rintro name hname _ hw rfl
    obtain ⟨row, hrow, rfl⟩ := List.mem_map.mp hname
    obtain ⟨-, hne⟩ := List.mem_filter.mp hrow
    simp only [List.map_cons, List.map_nil, List.mem_singleton] at hw
    simp [hw] at hne

def Db.writeAll (sq : Sqlite) (db : Db) (writes : List Write) : Db :=
  writes.foldl (Db.write sq) db

/-! ## What comes of a statement -/

/-- A failure that is no fault of the statement. -/
inductive Failure
  | busy
  | locked
  | error
  deriving DecidableEq

def Failure.code : Failure → SqliteCode
  | .busy => .busy
  | .locked => .locked
  | .error => .error

/-- The failures on the way of a statement. -/
structure Fault where
  sentence : Bool
  prepare : Option Failure
  bindText : Option Failure
  bindBlob : Option Failure
  step : Option Failure
  alloc : Bool
  deriving DecidableEq

def Fault.none : Fault := ⟨false, .none, .none, .none, .none, false⟩

/-- `code` if nothing fails. -/
def orFailure (failure : Option Failure) (code : SqliteCode) : SqliteCode :=
  failure.elim code Failure.code

/-- The sentence that a get prepares. -/
def selectSentence (param_name : Name) : List UInt8 :=
  cString "SELECT param_data FROM NV_PARAM_Table WHERE  param_name == \"" ++ param_name ++ [quote]

namespace Sqlite

variable (sq : Sqlite)

/-- The WHERE clause.  A name is never equal to a blob. -/
def holds (row : Row) : Operand → Bool
  | .param_name => true
  | .param_data => false
  | .rowid => sq.numericEq row.param_name row.rowid
  | .text s => row.param_name = s

def find (db : Db) (o : Operand) : Option Row :=
  sq.first (db.rows.filter fun row => sq.holds row o)

/-- The column of a blob without bytes is the null pointer. -/
def select (db : Db) (f : Fault) (param_name : Name) : Select :=
  match unquote param_name with
  | none => sq.spliced param_name db.rows
  | some s =>
    let row := sq.find db (operand s)
    { sentence := !f.sentence && decide ((selectSentence param_name).length < 2 ^ 31)
      prepare :=
        if (selectSentence param_name).length ≤ sq.sqlLengthLimit then orFailure f.prepare .ok
        else .error
      step := orFailure f.step (if row.isSome then .row else .done)
      column := row.bind fun row => if row.param_data = [] then none else some row.param_data
      alloc := !f.alloc }

def insert (f : Fault) (param_name : Name) (data_len : Nat) : Insert where
  sentence := !f.sentence
  prepare := orFailure f.prepare .ok
  bindText := orFailure f.bindText .ok
  bindBlob :=
    if sq.accepts (boundText param_name).length data_len then orFailure f.bindBlob .ok else .error
  step := orFailure f.step .done

end Sqlite

/-- What comes of the calls in one event. -/
structure Outcome where
  select : Fault
  insert : Name → Fault
  random : Random

/-- Nothing fails. -/
def Outcome.ok (random : Random) : Outcome := ⟨.none, fun _ => .none, random⟩

/-- No random device and no time. -/
def Random.absent : Random := ⟨false, fun _ => none, 0, fun _ => 0⟩

/-- The device gives one value. -/
def Random.gives (random_uint64 : BitVec 64) : Random :=
  ⟨true, fun _ => some random_uint64, 0, fun _ => 0⟩

/-- The environment that the database makes. -/
def Sqlite.env (sq : Sqlite) (db : Db) (o : Outcome) : Env where
  select := sq.select db o.select
  insert := fun param_name data_len => sq.insert (o.insert param_name) param_name data_len
  random := o.random

/-- Rows in the order they were written, and a name that goes on as SQL is no sentence. -/
def sampleSqlite : Sqlite where
  sqlLengthLimit := 1000000
  sqlLengthLimit_lt := by decide
  accepts := fun text blob => decide (text + blob ≤ 1000000000)
  accepts_lt := by
    intro text blob h
    have := of_decide_eq_true h
    omega
  accepts_mono := by
    intro text text' blob hle h
    have := of_decide_eq_true h
    exact decide_eq_true (by omega)
  newRowid := fun rows => (rows.map Row.rowid).foldl max 0 + 1
  numericEq := fun s n => decide (s = cString (toString n) ∧ operand s ≠ .rowid)
  numericEq_rowid := by
    intro s n h
    simp [h]
  first := List.head?
  first_mem := fun _ _ => List.mem_of_mem_head?
  first_isSome := by
    intro rows h
    cases rows with
    | nil => exact absurd rfl h
    | cons row rows => rfl
  spliced := fun _ _ => ⟨true, .error, .error, none, true⟩

/-! ## Processes on one database -/

structure Sys where
  db : Db
  /-- The manager of each process. -/
  mgr : Nat → NvParamMgr

def Sys.init : Sys := ⟨.empty, fun _ => .init⟩

inductive Event
  | save (k : Kind) (param_name : Name) (param_value : k.Value) (o : Outcome)
  | get (process : Nat) (k : Kind) (param_name : Name) (param_value : k.Var) (o : Outcome)
  | restart (process : Nat)

variable (sq : Sqlite)

/-- The rows that an event writes. -/
def writes (s : Sys) : Event → List Write
  | .save k param_name param_value o => (save (sq.env s.db o) param_name k param_value).writes
  | .get process k param_name param_value o =>
    (get (s.mgr process) (sq.env s.db o) param_name k param_value).writes
  | .restart _ => []

def step (s : Sys) (ev : Event) : Sys where
  db := s.db.writeAll sq (writes sq s ev)
  mgr :=
    match ev with
    | .save .. => s.mgr
    | .get process k param_name param_value o =>
      Function.update s.mgr process
        (get (s.mgr process) (sq.env s.db o) param_name k param_value).mgr
    | .restart process => Function.update s.mgr process .init

/-! ## Rows -/

section Rows

variable {sq} {db : Db} {name : Name} {data : List UInt8}

/-- There is a row with this name and these bytes. -/
def Db.Stores (db : Db) (name : Name) (data : List UInt8) : Prop :=
  ∃ row ∈ db.rows, row.param_name = name ∧ row.param_data = data

theorem mem_write {w : Write} {row : Row} :
    row ∈ (db.write sq w).rows ↔
      (row ∈ db.rows ∧ row.param_name ≠ w.param_name) ∨
        row = ⟨sq.newRowid db.rows, w.param_name, w.param_data⟩ := by
  simp [Db.write]

theorem stores_write (w : Write) : (db.write sq w).Stores w.param_name w.param_data :=
  ⟨_, mem_write.mpr (.inr rfl), rfl, rfl⟩

theorem Db.Stores.write {w : Write} (h : db.Stores name data) (hne : w.param_name ≠ name) :
    (db.write sq w).Stores name data := by
  obtain ⟨row, hrow, rfl, rfl⟩ := h
  exact ⟨row, mem_write.mpr (.inl ⟨hrow, hne.symm⟩), rfl, rfl⟩

theorem Db.Stores.writeAll {ws : List Write} (h : db.Stores name data)
    (hne : ∀ w ∈ ws, w.param_name ≠ name) : (db.writeAll sq ws).Stores name data := by
  induction ws generalizing db with
  | nil => exact h
  | cons w ws ih =>
    apply ih (h.write (hne w List.mem_cons_self))
    exact fun w' hw' => hne w' (List.mem_cons_of_mem _ hw')

theorem mem_of_find {o : Operand} {row : Row} (h : sq.find db o = some row) :
    row ∈ db.rows ∧ sq.holds row o = true :=
  List.mem_filter.mp (sq.first_mem _ _ h)

/-- The row with a name is found by it. -/
theorem find_text_of_stores (sq : Sqlite) (h : db.Stores name data) :
    ∃ row, sq.find db (.text name) = some row ∧ row.param_data = data := by
  obtain ⟨row, hrow, rfl, rfl⟩ := h
  have hmem : row ∈ db.rows.filter fun r => sq.holds r (.text row.param_name) := by
    simp [hrow, Sqlite.holds]
  obtain ⟨found, hfound⟩ :=
    Option.isSome_iff_exists.mp (sq.first_isSome _ (List.ne_nil_of_mem hmem))
  obtain ⟨hin, hname⟩ := mem_of_find hfound
  have hsame : found = row :=
    List.inj_on_of_nodup_map db.unique hin hrow (by simpa [Sqlite.holds] using hname)
  exact ⟨found, hfound, by rw [hsame]⟩

/-- An INSERT of another name leaves the rows with a name alone. -/
theorem find_text_write {w : Write} (hne : w.param_name ≠ name) :
    sq.find (db.write sq w) (.text name) = sq.find db (.text name) := by
  have hrows : (db.write sq w).rows.filter (fun row => sq.holds row (.text name)) =
      db.rows.filter fun row => sq.holds row (.text name) := by
    rw [Db.write, List.filter_append, List.filter_filter]
    simp only [Sqlite.holds, List.filter_singleton, hne, decide_false, cond_false,
      List.append_nil]
    apply List.filter_congr
    intro row _
    by_cases hrow : row.param_name = name
    · simp [hrow, hne.symm]
    · simp [hrow]
  rw [Sqlite.find, hrows, Sqlite.find]

theorem Db.Stores.unique {data' : List UInt8} (h : db.Stores name data)
    (h' : db.Stores name data') : data = data' := by
  obtain ⟨row, hrow, rfl, rfl⟩ := h
  obtain ⟨row', hrow', hname, rfl⟩ := h'
  rw [List.inj_on_of_nodup_map db.unique hrow hrow' hname.symm]

end Rows

/-! ## What a statement has done -/

theorem boundText_of_lt {param_name : Name} (h : param_name.length < 2 ^ 31) :
    boundText param_name = param_name := by
  have hn : (BitVec.ofNat 32 param_name.length).toInt = param_name.length := by
    rw [BitVec.toInt_ofNat']
    exact Int.bmod_eq_of_le (by omega) (by omega)
  simp [boundText, hn]

/-- The check of an INSERT that breaks. -/
def Insert.breaks (q : Insert) : Option nv_param_err_code :=
  breakSqliteCheck q.prepare .ok <|> breakSqliteCheck q.bindText .ok <|>
    breakSqliteCheck q.bindBlob .ok <|> breakSqliteCheck q.step .done

theorem Insert.breaks_eq_none {q : Insert} :
    q.breaks = none ↔
      q.prepare = .ok ∧ q.bindText = .ok ∧ q.bindBlob = .ok ∧ q.step = .done := by
  simp [Insert.breaks, breakSqliteCheck_eq_none]

theorem Insert.ne_noErr_of_breaks {q : Insert} {result : nv_param_err_code}
    (h : q.breaks = some result) : result ≠ .noErr := by
  simp only [Insert.breaks, Option.orElse_eq_orElse, Option.orElse_eq_or,
    Option.or_eq_some_iff] at h
  rcases h with h | ⟨-, h | ⟨-, h | ⟨-, h⟩⟩⟩
  all_goals exact ne_noErr_of_breakSqliteCheck h

section Statements

variable {sq} {db : Db} {f : Fault} {o : Outcome} {name param_name s : Name}

/-- What a SELECT has found if it gives a blob. -/
theorem blob_of_select {blob : List UInt8} (hs : unquote param_name = some s)
    (h : (sq.select db f param_name).blob = some blob) :
    (selectSentence param_name).length ≤ sq.sqlLengthLimit ∧
      ∃ row, sq.find db (operand s) = some row ∧ row.param_data = blob ∧ blob ≠ [] := by
  obtain ⟨-, hprepare, -, hcolumn⟩ := select_of_blob h
  simp only [Sqlite.select, hs] at hprepare hcolumn
  constructor
  · by_contra hlong
    rw [if_neg hlong] at hprepare
    contradiction
  · obtain ⟨row, hrow, hdata⟩ := Option.bind_eq_some_iff.mp hcolumn
    split at hdata
    · contradiction
    · rename_i hne
      cases hdata
      exact ⟨row, hrow, rfl, hne⟩

/-- An INSERT writes its row or fails. -/
theorem saveNvDataBlob_cases (e : Env) (name : Name) (data : List UInt8) (data_len : Nat) :
    let saved := saveNvDataBlob e (some name) (some data) data_len
    (saved.result = .noErr ∧ saved.writes = [⟨boundText name, data.take data_len⟩]) ∨
      (saved.result ≠ .noErr ∧ saved.writes = []) := by
  unfold saveNvDataBlob
  simp only
  split
  · exact .inr ⟨nofun, rfl⟩
  · split
    · exact .inr ⟨Insert.ne_noErr_of_breaks ‹_›, rfl⟩
    · exact .inl ⟨rfl, rfl⟩

/-- It writes the row if nothing breaks. -/
theorem saveNvDataBlob_noErr_iff (e : Env) (data : List UInt8) (data_len : Nat) :
    (saveNvDataBlob e (some name) (some data) data_len).result = .noErr ↔
      (e.insert name data_len).sentence = true ∧ (e.insert name data_len).breaks = none := by
  unfold saveNvDataBlob
  simp only
  constructor
  · intro h
    split at h
    · contradiction
    · split at h
      · exact absurd h (Insert.ne_noErr_of_breaks ‹_›)
      · exact ⟨by simpa using ‹¬ (!(e.insert name data_len).sentence) = true›, ‹_›⟩
  · rintro ⟨hsentence, hbreaks⟩
    unfold Insert.breaks at hbreaks
    rw [hsentence, hbreaks]
    rfl

theorem saveNvDataBlob_of_accepts {data : List UInt8} {data_len : Nat}
    (hfault : o.insert name = .none) (haccepts : sq.accepts (boundText name).length data_len) :
    (saveNvDataBlob (sq.env db o) (some name) (some data) data_len).result = .noErr := by
  rw [saveNvDataBlob_noErr_iff, Insert.breaks_eq_none]
  simp [Sqlite.env, Sqlite.insert, hfault, Fault.none, orFailure, haccepts]

end Statements

end NvParam
end LocationStack
