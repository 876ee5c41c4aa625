import LocationStack.BaseUtil.NvStore

/-! # The pseudo client id

The id is made by the first call that does not find one in the database.  A call reads the
64-bit id, takes a random value if it could not, and saves the lower half and then the whole
value, each with a statement of its own; it succeeds if one of the saves does.  The mutex of the
manager orders the calls of a process, nothing orders the statements of two processes, and a
process may end between any two of them.
-/
namespace LocationStack
namespace NvParam

open EventRun (run Throughout Meets)
open LittleEndian

/-! ## A call, one statement at a time -/

/-- Up to the saves: the code and the manager that the call returns with, or the id to save. -/
def beginCall (m : NvParamMgr) (q : Select) (random : Random) : (Int × NvParamMgr) ⊕ BitVec 64 :=
  if m.m_pseudo_client_id_exist then .inl (0, m)
  else
    let got := getNvDataBlob q 8
    if got.result = .noErr ∧ got.data_len = 8 then
      let param_value := BitVec.ofNat 64 (ofLeBytes (got.copied.getD []))
      .inl (0, ⟨true, param_value, param_value.setWidth 32⟩)
    else
      match random.random_uint64 with
      | none => .inl (got.result.toInt, m)
      | some random_uint64 => .inr random_uint64

def saveId32 (e : Env) (id_64 : BitVec 64) : Saved :=
  saveNvDataBlob e (some PARAM_NAME_PSEUDO_CLIENT_ID)
    (some (leBytes 4 (id_64.setWidth 32).toNat)) 4

def saveId64 (e : Env) (id_64 : BitVec 64) : Saved :=
  saveNvDataBlob e (some PARAM_NAME_PSEUDO_CLIENT_ID_64BIT) (some (leBytes 8 id_64.toNat)) 8

/-- The function is its parts. -/
theorem generatePseudoClientIdIfNeeded_eq (m : NvParamMgr) (e : Env) :
    generatePseudoClientIdIfNeeded m e =
      match beginCall m (e.select PARAM_NAME_PSEUDO_CLIENT_ID_64BIT) e.random with
      | .inl (ret_val, m) => ⟨ret_val, m, []⟩
      | .inr id_64 =>
        let writes := (saveId32 e id_64).writes ++ (saveId64 e id_64).writes
        if (saveId32 e id_64).result = .noErr ∨ (saveId64 e id_64).result = .noErr then
          ⟨0, ⟨true, id_64, id_64.setWidth 32⟩, writes⟩
        else ⟨-10, ⟨false, id_64, id_64.setWidth 32⟩, writes⟩ := by
  simp only [generatePseudoClientIdIfNeeded, beginCall, saveId32, saveId64]
  split
  · rfl
  · split
    · rfl
    · split <;> simp_all

/-! ## Processes -/

/-- Where a process is in a call. -/
inductive Phase
  | idle
  | save32 (id_64 : BitVec 64)
  | save64 (id_64 : BitVec 64) (rc1 : nv_param_err_code)
  deriving DecidableEq

/-- The ids of a call that returned 0, and whether the database had both then. -/
structure Report where
  id_32 : BitVec 32
  id_64 : BitVec 64
  stored : Bool
  deriving DecidableEq

instance (db : Db) (name : Name) (data : List UInt8) : Decidable (db.Stores name data) :=
  inferInstanceAs (Decidable (∃ row ∈ db.rows, _))

/-- The database has both ids. -/
abbrev Db.HasId (db : Db) (id_32 : BitVec 32) (id_64 : BitVec 64) : Prop :=
  db.Stores PARAM_NAME_PSEUDO_CLIENT_ID (leBytes 4 id_32.toNat) ∧
    db.Stores PARAM_NAME_PSEUDO_CLIENT_ID_64BIT (leBytes 8 id_64.toNat)

structure Calls where
  db : Db
  mgr : Nat → NvParamMgr
  phase : Nat → Phase
  reports : List Report

namespace Calls

def init : Calls := ⟨.empty, fun _ => .init, fun _ => .idle, []⟩

variable (sq : Sqlite) (s : Calls) (process : Nat)

/-- The call returns. -/
def returns (ret_val : Int) (m : NvParamMgr) : Calls :=
  { s with
    mgr := Function.update s.mgr process m
    phase := Function.update s.phase process .idle
    reports :=
      if ret_val = 0 then
        s.reports ++ [⟨m.m_pseudo_client_id_32, m.m_pseudo_client_id_64,
          decide (s.db.HasId m.m_pseudo_client_id_32 m.m_pseudo_client_id_64)⟩]
      else s.reports }

def start (f : Fault) (random : Random) : Calls :=
  if s.phase process = .idle then
    match beginCall (s.mgr process) (sq.select s.db f PARAM_NAME_PSEUDO_CLIENT_ID_64BIT)
        random with
    | .inl (ret_val, m) => s.returns process ret_val m
    | .inr id_64 => { s with phase := Function.update s.phase process (.save32 id_64) }
  else s

/-- The environment of one save. -/
def saveEnv (f : Fault) : Env :=
  sq.env s.db ⟨.none, fun _ => f, ⟨false, fun _ => none, 0, fun _ => 0⟩⟩

def save32 (f : Fault) : Calls :=
  match s.phase process with
  | .save32 id_64 =>
    let saved := saveId32 (s.saveEnv sq f) id_64
    { s with
      db := s.db.writeAll sq saved.writes
      phase := Function.update s.phase process (.save64 id_64 saved.result) }
  | _ => s

def save64 (f : Fault) : Calls :=
  match s.phase process with
  | .save64 id_64 rc1 =>
    let saved := saveId64 (s.saveEnv sq f) id_64
    let s := { s with db := s.db.writeAll sq saved.writes }
    if rc1 = .noErr ∨ saved.result = .noErr then
      s.returns process 0 ⟨true, id_64, id_64.setWidth 32⟩
    else s.returns process (-10) ⟨false, id_64, id_64.setWidth 32⟩
  | _ => s

/-- The process ends and is started again. -/
def restart : Calls :=
  { s with
    mgr := Function.update s.mgr process .init
    phase := Function.update s.phase process .idle }

end Calls

inductive CallEvent
  | start (process : Nat) (f : Fault) (random : Random)
  | save32 (process : Nat) (f : Fault)
  | save64 (process : Nat) (f : Fault)
  | restart (process : Nat)

def callStep (sq : Sqlite) (s : Calls) : CallEvent → Calls
  | .start process f random => s.start sq process f random
  | .save32 process f => s.save32 sq process f
  | .save64 process f => s.save64 sq process f
  | .restart process => s.restart process

theorem saveNvDataBlob_congr {e e' : Env} {name : Name} {data : List UInt8} {data_len : Nat}
    (h : e.insert name data_len = e'.insert name data_len) :
    saveNvDataBlob e (some name) (some data) data_len =
      saveNvDataBlob e' (some name) (some data) data_len := by
  simp only [saveNvDataBlob, h]

/-- The environment of a whole call. -/
def callEnv (sq : Sqlite) (db : Db) (f f32 f64 : Fault) (random : Random) : Env :=
  sq.env db ⟨f, fun name => if name = PARAM_NAME_PSEUDO_CLIENT_ID then f32 else f64, random⟩

/-- Without another process in between, the events of a call are the function. -/
theorem run_call (sq : Sqlite) (s : Calls) (process : Nat) (f f32 f64 : Fault) (random : Random)
    (hidle : s.phase process = .idle) :
    let g := generatePseudoClientIdIfNeeded (s.mgr process) (callEnv sq s.db f f32 f64 random)
    run (callStep sq) s [.start process f random, .save32 process f32, .save64 process f64] =
      { s with db := s.db.writeAll sq g.writes }.returns process g.ret_val g.mgr := by
  intro g
  have hg : g = _ := generatePseudoClientIdIfNeeded_eq _ _
  cases hbegun : beginCall (s.mgr process)
      ((callEnv sq s.db f f32 f64 random).select PARAM_NAME_PSEUDO_CLIENT_ID_64BIT)
      (callEnv sq s.db f f32 f64 random).random with
  | inl returned =>
    obtain ⟨ret_val, m⟩ := returned
    rw [hbegun] at hg
    have hstart : s.start sq process f random = s.returns process ret_val m := by
      change beginCall _ (sq.select s.db f PARAM_NAME_PSEUDO_CLIENT_ID_64BIT) random = _ at hbegun
      simp only [Calls.start, hidle, if_true, hbegun]
    have hphase : (s.returns process ret_val m).phase process = .idle := by simp [Calls.returns]
    simp only [EventRun.run_cons, EventRun.run_nil, callStep, hstart, Calls.save32, Calls.save64,
      hphase, hg]
    rfl
  | inr id_64 =>
    rw [hbegun] at hg
    simp only at hg
    have hstart : s.start sq process f random =
        { s with phase := Function.update s.phase process (.save32 id_64) } := by
      change beginCall _ (sq.select s.db f PARAM_NAME_PSEUDO_CLIENT_ID_64BIT) random = _ at hbegun
      simp only [Calls.start, hidle, if_true, hbegun]
    have h32 : ∀ s' : Calls, saveId32 (s'.saveEnv sq f32) id_64 =
        saveId32 (callEnv sq s.db f f32 f64 random) id_64 := fun s' =>
      saveNvDataBlob_congr (by simp [Calls.saveEnv, callEnv, Sqlite.env])
    have h64 : ∀ s' : Calls, saveId64 (s'.saveEnv sq f64) id_64 =
        saveId64 (callEnv sq s.db f f32 f64 random) id_64 := fun s' =>
      saveNvDataBlob_congr (by
        have hne : ¬ PARAM_NAME_PSEUDO_CLIENT_ID_64BIT = PARAM_NAME_PSEUDO_CLIENT_ID := by decide
        simp [Calls.saveEnv, callEnv, Sqlite.env, hne])
    have hwrites : ∀ ws ws',
        s.db.writeAll sq (ws ++ ws') = (s.db.writeAll sq ws).writeAll sq ws' :=
      fun ws ws' => List.foldl_append
    simp only [EventRun.run_cons, EventRun.run_nil, callStep, hstart, Calls.save32, Calls.save64,
      Function.update_self, h32, h64]
    generalize saveId32 (callEnv sq s.db f f32 f64 random) id_64 = saved32 at hg ⊢
    generalize saveId64 (callEnv sq s.db f f32 f64 random) id_64 = saved64 at hg ⊢
    by_cases hsaved : saved32.result = .noErr ∨ saved64.result = .noErr
    · simp [hg, hsaved, hwrites, Calls.returns]
    · simp [hg, hsaved, hwrites, Calls.returns]

/-! ## What is promised -/

/-- Every id that was reported was stored, all of them are the same, and it is still stored. -/
structure Once (s : Calls) : Prop where
  stored : ∀ r ∈ s.reports, r.stored = true
  same : ∀ r ∈ s.reports, ∀ r' ∈ s.reports, r.stored = true →
    r'.id_32 = r.id_32 ∧ r'.id_64 = r.id_64
  unchanged : ∀ r ∈ s.reports, r.stored = true → s.db.HasId r.id_32 r.id_64

/-- No call of an INSERT fails. -/
def Inserts (sq : Sqlite) (f : Fault) (param_name : Name) (data_len : Nat) : Prop :=
  f.sentence = false ∧ f.prepare = none ∧ f.bindText = none ∧ f.bindBlob = none ∧
    f.step = none ∧ sq.accepts (boundText param_name).length data_len = true

/-- An id that is saved is the one that was reported; the first one is saved in both rows, and
no other process comes in between. -/
def SavesOnce (sq : Sqlite) (s : Calls) : CallEvent → Prop
  | .save32 process f =>
    match s.phase process with
    | .save32 id_64 =>
      Inserts sq f PARAM_NAME_PSEUDO_CLIENT_ID 4 →
        ∀ r ∈ s.reports, r.id_32 = id_64.setWidth 32
    | _ => True
  | .save64 process f =>
    match s.phase process with
    | .save64 id_64 rc1 =>
      (rc1 ≠ .noErr ∧ ¬ Inserts sq f PARAM_NAME_PSEUDO_CLIENT_ID_64BIT 8) ∨
        ((∀ r ∈ s.reports, r.id_64 = id_64) ∧
          (s.reports = [] → Inserts sq f PARAM_NAME_PSEUDO_CLIENT_ID_64BIT 8 ∧
            s.db.Stores PARAM_NAME_PSEUDO_CLIENT_ID (leBytes 4 (id_64.setWidth 32).toNat)))
    | _ => True
  | _ => True

/-! ## Statements -/

section Statements

variable {sq : Sqlite} {s : Calls} {db : Db} {f : Fault} {id_64 : BitVec 64}

theorem orFailure_eq {failure : Option Failure} {code : SqliteCode} (hbusy : code ≠ .busy)
    (hlocked : code ≠ .locked) (herror : code ≠ .error) :
    orFailure failure code = code ↔ failure = none := by
  cases failure with
  | none => simp [orFailure]
  | some failure => cases failure <;> simp [orFailure, Failure.code, hbusy.symm, hlocked.symm,
      herror.symm]

theorem saveNvDataBlob_iff (s : Calls) {name : Name} (data : List UInt8) {data_len : Nat} :
    (saveNvDataBlob (s.saveEnv sq f) (some name) (some data) data_len).result = .noErr ↔
      Inserts sq f name data_len := by
  rw [saveNvDataBlob_noErr_iff, Insert.breaks_eq_none]
  have hok : ∀ failure : Option Failure, orFailure failure .ok = .ok ↔ failure = none :=
    fun _ => orFailure_eq (by decide) (by decide) (by decide)
  have hdone : orFailure f.step .done = .done ↔ f.step = none :=
    orFailure_eq (by decide) (by decide) (by decide)
  simp only [Calls.saveEnv, Sqlite.env, Sqlite.insert, Bool.not_eq_true', hok, hdone, Inserts]
  by_cases haccepts : sq.accepts (boundText name).length data_len = true
  · simp [haccepts, hok]
  · simp [haccepts]

/-- What a save does to the table. -/
theorem writeAll_cases {name : Name} {data : List UInt8} {data_len : Nat}
    (hname : boundText name = name) (hlen : data.length = data_len) (s : Calls) (f : Fault) :
    let saved := saveNvDataBlob (s.saveEnv sq f) (some name) (some data) data_len
    (Inserts sq f name data_len ∧ saved.result = .noErr ∧
      s.db.writeAll sq saved.writes = s.db.write sq ⟨name, data⟩) ∨
    (¬ Inserts sq f name data_len ∧ saved.result ≠ .noErr ∧
      s.db.writeAll sq saved.writes = s.db) := by
  intro saved
  rw [← saveNvDataBlob_iff s data]
  rcases saveNvDataBlob_cases (s.saveEnv sq f) name data data_len with
    ⟨hresult, hwrites⟩ | ⟨hresult, hwrites⟩
  · left
    rw [hname, ← hlen, List.take_length, hlen] at hwrites
    exact ⟨hresult, hresult, by rw [hwrites]; rfl⟩
  · right
    exact ⟨hresult, hresult, by rw [hwrites]; rfl⟩

theorem saveId32_cases (sq : Sqlite) (s : Calls) (f : Fault) (id_64 : BitVec 64) :
    let saved := saveId32 (s.saveEnv sq f) id_64
    (Inserts sq f PARAM_NAME_PSEUDO_CLIENT_ID 4 ∧ saved.result = .noErr ∧
      s.db.writeAll sq saved.writes =
        s.db.write sq ⟨PARAM_NAME_PSEUDO_CLIENT_ID, leBytes 4 (id_64.setWidth 32).toNat⟩) ∨
    (¬ Inserts sq f PARAM_NAME_PSEUDO_CLIENT_ID 4 ∧ saved.result ≠ .noErr ∧
      s.db.writeAll sq saved.writes = s.db) :=
  writeAll_cases (by decide) (by simp) s f

theorem saveId64_cases (sq : Sqlite) (s : Calls) (f : Fault) (id_64 : BitVec 64) :
    let saved := saveId64 (s.saveEnv sq f) id_64
    (Inserts sq f PARAM_NAME_PSEUDO_CLIENT_ID_64BIT 8 ∧ saved.result = .noErr ∧
      s.db.writeAll sq saved.writes =
        s.db.write sq ⟨PARAM_NAME_PSEUDO_CLIENT_ID_64BIT, leBytes 8 id_64.toNat⟩) ∨
    (¬ Inserts sq f PARAM_NAME_PSEUDO_CLIENT_ID_64BIT 8 ∧ saved.result ≠ .noErr ∧
      s.db.writeAll sq saved.writes = s.db) :=
  writeAll_cases (by decide) (by simp) s f

theorem leBytes_inj {w n : Nat} (hw : 2 ^ w ≤ 256 ^ n) {v v' : BitVec w}
    (h : leBytes n v.toNat = leBytes n v'.toNat) : v = v' := by
  apply BitVec.eq_of_toNat_eq
  rw [← ofLeBytes_leBytes_of_lt (Nat.lt_of_lt_of_le v.isLt hw), h,
    ofLeBytes_leBytes_of_lt (Nat.lt_of_lt_of_le v'.isLt hw)]

/-- How a call begins where the 64-bit row, if there is one, has the bytes of an id. -/
theorem beginCall_cases (sq : Sqlite) (m : NvParamMgr) (db : Db) (f : Fault) (random : Random)
    (hids : ∀ data, db.Stores PARAM_NAME_PSEUDO_CLIENT_ID_64BIT data →
      ∃ id_64 : BitVec 64, data = leBytes 8 id_64.toNat) :
    let begun := beginCall m (sq.select db f PARAM_NAME_PSEUDO_CLIENT_ID_64BIT) random
    (m.m_pseudo_client_id_exist = true ∧ begun = .inl (0, m)) ∨
    (∃ id_64 : BitVec 64, db.Stores PARAM_NAME_PSEUDO_CLIENT_ID_64BIT (leBytes 8 id_64.toNat) ∧
      begun = .inl (0, ⟨true, id_64, id_64.setWidth 32⟩)) ∨
    (m.m_pseudo_client_id_exist = false ∧ ∃ ret_val, ret_val ≠ 0 ∧ begun = .inl (ret_val, m)) ∨
    ∃ id_64, begun = .inr id_64 := by
  intro begun
  cases hexist : m.m_pseudo_client_id_exist with
  | true => exact .inl ⟨rfl, by simp [begun, beginCall, hexist]⟩
  | false =>
    cases hblob : (sq.select db f PARAM_NAME_PSEUDO_CLIENT_ID_64BIT).blob with
    | some blob =>
      obtain ⟨-, row, hfind, rfl, -⟩ :=
        blob_of_select (s := PARAM_NAME_PSEUDO_CLIENT_ID_64BIT) (by decide) hblob
      have hop : operand PARAM_NAME_PSEUDO_CLIENT_ID_64BIT =
          .text PARAM_NAME_PSEUDO_CLIENT_ID_64BIT := by decide
      rw [hop] at hfind
      obtain ⟨hrow, hname⟩ := mem_of_find hfind
      have hstores : db.Stores PARAM_NAME_PSEUDO_CLIENT_ID_64BIT row.param_data :=
        ⟨row, hrow, by simpa [Sqlite.holds] using hname, rfl⟩
      obtain ⟨id_64, hdata⟩ := hids _ hstores
      have hvalue : BitVec.ofNat 64 (ofLeBytes (leBytes 8 id_64.toNat)) = id_64 := by
        rw [ofLeBytes_leBytes_of_lt (Nat.lt_of_lt_of_le id_64.isLt (by decide))]
        simp
      refine .inr (.inl ⟨id_64, hdata ▸ hstores, ?_⟩)
      simp [begun, beginCall, hexist, getNvDataBlob_of_some hblob, hdata, hvalue]
    | none =>
      obtain ⟨hresult, -⟩ := getNvDataBlob_of_none 8 hblob
      right
      right
      cases hrandom : random.random_uint64 with
      | some id_64 => exact .inr ⟨id_64, by simp [begun, beginCall, hexist, hresult, hrandom]⟩
      | none =>
        refine .inl ⟨rfl, (getNvDataBlob (sq.select db f PARAM_NAME_PSEUDO_CLIENT_ID_64BIT)
          8).result.toInt, ?_, by simp [begun, beginCall, hexist, hresult, hrandom]⟩
        revert hresult
        cases (getNvDataBlob (sq.select db f PARAM_NAME_PSEUDO_CLIENT_ID_64BIT) 8).result <;>
          simp [nv_param_err_code.toInt]

theorem stores_write_iff {w : Write} {name : Name} {data : List UInt8} :
    (db.write sq w).Stores name data ↔
      (w.param_name = name ∧ w.param_data = data) ∨
        (w.param_name ≠ name ∧ db.Stores name data) := by
  constructor
  · rintro ⟨row, hrow, rfl, rfl⟩
    rcases mem_write.mp hrow with ⟨hold, hne⟩ | rfl
    · exact .inr ⟨hne.symm, row, hold, rfl, rfl⟩
    · exact .inl ⟨rfl, rfl⟩
  · rintro (⟨rfl, rfl⟩ | ⟨hne, hstores⟩)
    · exact stores_write w
    · exact hstores.write hne

end Statements

/-! ## The calls -/

section Calls

variable {sq : Sqlite} {s : Calls} {process : Nat} {m : NvParamMgr} {ret_val : Int}

/-- What holds of every run: the 64-bit row is an id that was reported or the like of it, and a
process that has an id has reported it. -/
structure Booked (s : Calls) : Prop where
  ids : ∀ data, s.db.Stores PARAM_NAME_PSEUDO_CLIENT_ID_64BIT data →
    s.reports ≠ [] ∧ ∃ id_64 : BitVec 64, data = leBytes 8 id_64.toNat
  held : ∀ process, (s.mgr process).m_pseudo_client_id_exist = true →
    ∃ r ∈ s.reports, r.id_32 = (s.mgr process).m_pseudo_client_id_32 ∧
      r.id_64 = (s.mgr process).m_pseudo_client_id_64
  halves : ∀ r ∈ s.reports, r.id_32 = r.id_64.setWidth 32

/-- The ids of a manager, as they are reported in a state. -/
def Calls.report (s : Calls) (m : NvParamMgr) : Report :=
  ⟨m.m_pseudo_client_id_32, m.m_pseudo_client_id_64,
    decide (s.db.HasId m.m_pseudo_client_id_32 m.m_pseudo_client_id_64)⟩

theorem mem_reports_returns {r : Report} :
    r ∈ (s.returns process ret_val m).reports ↔
      r ∈ s.reports ∨ (ret_val = 0 ∧ r = s.report m) := by
  unfold Calls.returns Calls.report
  by_cases hret : ret_val = 0
  · simp [hret]
  · simp [hret]

/-- A call that returns keeps the books, if it has reported what the manager has. -/
theorem booked_returns
    (hids : ∀ data, s.db.Stores PARAM_NAME_PSEUDO_CLIENT_ID_64BIT data →
      (ret_val = 0 ∨ s.reports ≠ []) ∧ ∃ id_64 : BitVec 64, data = leBytes 8 id_64.toNat)
    (hheld : ∀ process, (s.mgr process).m_pseudo_client_id_exist = true →
      ∃ r ∈ s.reports, r.id_32 = (s.mgr process).m_pseudo_client_id_32 ∧
        r.id_64 = (s.mgr process).m_pseudo_client_id_64)
    (hhalves : ∀ r ∈ s.reports, r.id_32 = r.id_64.setWidth 32)
    (hexist : m.m_pseudo_client_id_exist = true → ret_val = 0)
    (hm : ret_val = 0 → m.m_pseudo_client_id_32 = m.m_pseudo_client_id_64.setWidth 32) :
    Booked (s.returns process ret_val m) where
  ids := by
    intro data hstores
    obtain ⟨hreports, hid⟩ := hids data hstores
    refine ⟨?_, hid⟩
    rcases hreports with hret | hne
    · exact List.ne_nil_of_mem (mem_reports_returns.mpr (.inr ⟨hret, rfl⟩))
    · obtain ⟨r, hr⟩ := List.exists_mem_of_ne_nil _ hne
      exact List.ne_nil_of_mem (mem_reports_returns.mpr (.inl hr))
  held := by
    intro process' hexist'
    by_cases hp : process' = process
    · have hmgr : (s.returns process ret_val m).mgr process' = m := by
        simp [Calls.returns, hp]
      rw [hmgr] at hexist' ⊢
      exact ⟨s.report m, mem_reports_returns.mpr (.inr ⟨hexist hexist', rfl⟩), rfl, rfl⟩
    · have hmgr : (s.returns process ret_val m).mgr process' = s.mgr process' := by
        simp [Calls.returns, hp]
      rw [hmgr] at hexist' ⊢
      obtain ⟨r, hr, hids⟩ := hheld process' hexist'
      exact ⟨r, mem_reports_returns.mpr (.inl hr), hids⟩
  halves := by
    intro r hr
    rcases mem_reports_returns.mp hr with hold | ⟨hret, rfl⟩
    · exact hhalves r hold
    · exact hm hret

/-- A call that succeeds has to report the id that is stored and was reported before. -/
theorem once_returns_zero_iff :
    Once (s.returns process 0 m) ↔
      s.db.HasId m.m_pseudo_client_id_32 m.m_pseudo_client_id_64 ∧
        ∀ r ∈ s.reports, r.stored = true ∧ r.id_32 = m.m_pseudo_client_id_32 ∧
          r.id_64 = m.m_pseudo_client_id_64 := by
  have hnew : s.report m ∈ (s.returns process 0 m).reports :=
    mem_reports_returns.mpr (.inr ⟨rfl, rfl⟩)
  constructor
  · intro h
    refine ⟨of_decide_eq_true (h.stored _ hnew), fun r hr => ?_⟩
    have hr' : r ∈ (s.returns process 0 m).reports := mem_reports_returns.mpr (.inl hr)
    have hstored := h.stored r hr'
    obtain ⟨h32, h64⟩ := h.same r hr' _ hnew hstored
    exact ⟨hstored, h32.symm, h64.symm⟩
  · rintro ⟨hid, hold⟩
    have hall : ∀ r ∈ (s.returns process 0 m).reports, r.stored = true ∧
        r.id_32 = m.m_pseudo_client_id_32 ∧ r.id_64 = m.m_pseudo_client_id_64 := by
      intro r hr
      rcases mem_reports_returns.mp hr with hr | ⟨-, rfl⟩
      · exact hold r hr
      · exact ⟨decide_eq_true hid, rfl, rfl⟩
    refine ⟨fun r hr => (hall r hr).1, fun r hr r' hr' _ => ?_, fun r hr _ => ?_⟩
    · exact ⟨(hall r' hr').2.1.trans (hall r hr).2.1.symm,
        (hall r' hr').2.2.trans (hall r hr).2.2.symm⟩
    · rw [(hall r hr).2.1, (hall r hr).2.2]
      exact hid

/-- `Booked` looks at the table, the managers and the reports, `Once` at the first and the last. -/
theorem Booked.congr {s' : Calls} (h : Booked s) (hdb : s'.db = s.db) (hmgr : s'.mgr = s.mgr)
    (hreports : s'.reports = s.reports) : Booked s' := by
  refine ⟨?_, ?_, ?_⟩
  · rw [hdb, hreports]
    exact h.ids
  · rw [hmgr, hreports]
    exact h.held
  · rw [hreports]
    exact h.halves

theorem Once.congr {s' : Calls} (h : Once s) (hdb : s'.db = s.db)
    (hreports : s'.reports = s.reports) : Once s' := by
  obtain ⟨hstored, hsame, hunchanged⟩ := h
  rw [← hreports] at hstored hsame hunchanged
  rw [← hdb] at hunchanged
  exact ⟨hstored, hsame, hunchanged⟩

/-- A call that fails reports nothing. -/
theorem Once.returns_of_ne (h : Once s) (hret : ret_val ≠ 0) :
    Once (s.returns process ret_val m) :=
  h.congr rfl (by simp [Calls.returns, hret])

/-! ### The beginning of a call -/

theorem booked_start (h : Booked s) (f : Fault) (random : Random) :
    Booked (s.start sq process f random) := by
  unfold Calls.start
  split
  · rcases beginCall_cases sq (s.mgr process) s.db f random
      (fun data hdata => (h.ids data hdata).2) with
      ⟨hexist, hbegun⟩ | ⟨id_64, hid, hbegun⟩ | ⟨hexist, ret_val, hret, hbegun⟩ | ⟨id_64, hbegun⟩
    · rw [hbegun]
      obtain ⟨r, hr, h32, h64⟩ := h.held process hexist
      refine booked_returns (fun data hdata => ⟨.inl rfl, (h.ids data hdata).2⟩) h.held h.halves
        (fun _ => rfl) (fun _ => ?_)
      rw [← h32, ← h64]
      exact h.halves r hr
    · rw [hbegun]
      exact booked_returns (fun data hdata => ⟨.inl rfl, (h.ids data hdata).2⟩) h.held h.halves
        (fun _ => rfl) (fun _ => rfl)
    · rw [hbegun]
      refine booked_returns (fun data hdata => ⟨.inr (h.ids data hdata).1, (h.ids data hdata).2⟩)
        h.held h.halves (fun htrue => ?_) (fun hzero => absurd hzero hret)
      rw [hexist] at htrue
      contradiction
    · rw [hbegun]
      exact h.congr rfl rfl rfl
  · exact h

/-- An id that is reported at the beginning was reported before. -/
theorem once_start (h : Booked s) (honce : Once s) (f : Fault) (random : Random) :
    Once (s.start sq process f random) := by
  have hreported : ∀ r ∈ s.reports, ∀ m : NvParamMgr, r.id_32 = m.m_pseudo_client_id_32 →
      r.id_64 = m.m_pseudo_client_id_64 → Once (s.returns process 0 m) := by
    intro r hr m h32 h64
    have hstored := honce.stored r hr
    rw [once_returns_zero_iff, ← h32, ← h64]
    exact ⟨honce.unchanged r hr hstored,
      fun r' hr' => ⟨honce.stored r' hr', honce.same r hr r' hr' hstored⟩⟩
  unfold Calls.start
  split
  · rcases beginCall_cases sq (s.mgr process) s.db f random
      (fun data hdata => (h.ids data hdata).2) with
      ⟨hexist, hbegun⟩ | ⟨id_64, hid, hbegun⟩ | ⟨hexist, ret_val, hret, hbegun⟩ | ⟨id_64, hbegun⟩
    · rw [hbegun]
      obtain ⟨r, hr, h32, h64⟩ := h.held process hexist
      exact hreported r hr _ h32 h64
    · rw [hbegun]
      obtain ⟨r, hr⟩ := List.exists_mem_of_ne_nil _ (h.ids _ hid).1
      have hstored := (honce.unchanged r hr (honce.stored r hr)).2
      have h64 : r.id_64 = id_64 := leBytes_inj (by decide) (hstored.unique hid)
      exact hreported r hr ⟨true, id_64, id_64.setWidth 32⟩ (h64 ▸ h.halves r hr) h64
    · rw [hbegun]
      exact honce.returns_of_ne hret
    · simp only [hbegun]
      exact honce.congr rfl rfl
  · exact honce

/-! ### The saves -/

theorem ids_ne : PARAM_NAME_PSEUDO_CLIENT_ID ≠ PARAM_NAME_PSEUDO_CLIENT_ID_64BIT := by decide

theorem booked_save32 (h : Booked s) (f : Fault) : Booked (s.save32 sq process f) := by
  unfold Calls.save32
  split
  · rename_i id_64 _
    rcases saveId32_cases sq s f id_64 with ⟨-, -, hdb⟩ | ⟨-, -, hdb⟩
    · refine ⟨?_, h.held, h.halves⟩
      simp only [hdb]
      intro data hstores
      rcases stores_write_iff.mp hstores with ⟨hname, -⟩ | ⟨-, hold⟩
      · exact absurd hname ids_ne
      · exact h.ids data hold
    · exact h.congr hdb rfl rfl
  · exact h

theorem once_save32_iff (honce : Once s) (f : Fault) :
    Once (s.save32 sq process f) ↔ SavesOnce sq s (.save32 process f) := by
  cases hphase : s.phase process with
  | idle | save64 =>
    simp only [Calls.save32, SavesOnce, hphase]
    exact iff_of_true honce trivial
  | save32 id_64 =>
    simp only [Calls.save32, SavesOnce, hphase]
    rcases saveId32_cases sq s f id_64 with ⟨hinserts, -, hdb⟩ | ⟨hfails, -, hdb⟩
    · rw [hdb]
      constructor
      · intro hafter _ r hr
        have hrow := (hafter.unchanged r hr (honce.stored r hr)).1
        exact leBytes_inj (by decide) (hrow.unique (stores_write _))
      · intro hsame
        refine ⟨honce.stored, honce.same, fun r hr hstored => ⟨?_, ?_⟩⟩
        · rw [hsame hinserts r hr]
          exact stores_write _
        · exact (honce.unchanged r hr hstored).2.write ids_ne
    · rw [hdb]
      exact iff_of_true (honce.congr rfl rfl)
        (fun hinserts => absurd hinserts hfails)

theorem booked_save64 (h : Booked s) (f : Fault) : Booked (s.save64 sq process f) := by
  unfold Calls.save64
  cases hphase : s.phase process with
  | idle | save32 => exact h
  | save64 id_64 rc1 =>
    simp only
    rcases saveId64_cases sq s f id_64 with ⟨-, hresult, hdb⟩ | ⟨-, hresult, hdb⟩
    · rw [hdb, if_pos (.inr hresult)]
      refine booked_returns (fun data hdata => ⟨.inl rfl, ?_⟩) h.held h.halves (fun _ => rfl)
        (fun _ => rfl)
      rcases stores_write_iff.mp hdata with ⟨-, hdata⟩ | ⟨hne, -⟩
      · exact ⟨id_64, hdata.symm⟩
      · exact absurd rfl hne
    · rw [hdb]
      split
      · exact booked_returns (fun data hdata => ⟨.inl rfl, (h.ids data hdata).2⟩) h.held
          h.halves (fun _ => rfl) (fun _ => rfl)
      · exact booked_returns
          (fun data hdata => ⟨.inr (h.ids data hdata).1, (h.ids data hdata).2⟩) h.held h.halves
          nofun nofun

theorem once_save64_iff (h : Booked s) (honce : Once s) (f : Fault) :
    Once (s.save64 sq process f) ↔ SavesOnce sq s (.save64 process f) := by
  cases hphase : s.phase process with
  | idle | save32 =>
    simp only [Calls.save64, SavesOnce, hphase]
    exact iff_of_true honce trivial
  | save64 id_64 rc1 =>
    simp only [Calls.save64, SavesOnce, hphase]
    rcases saveId64_cases sq s f id_64 with
      ⟨hinserts, hresult, hdb⟩ | ⟨hfails, hresult, hdb⟩
    · rw [hdb, if_pos (.inr hresult), once_returns_zero_iff]
      constructor
      · rintro ⟨hid, hold⟩
        refine .inr ⟨fun r hr => (hold r hr).2.2, fun _ => ⟨hinserts, ?_⟩⟩
        rcases stores_write_iff.mp hid.1 with ⟨hname, -⟩ | ⟨-, hrow⟩
        · exact absurd hname.symm ids_ne
        · exact hrow
      · rintro (⟨-, hfails⟩ | ⟨hsame, hfirst⟩)
        · exact absurd hinserts hfails
        · have hhalves : ∀ r ∈ s.reports, r.id_32 = id_64.setWidth 32 := fun r hr => by
            rw [h.halves r hr, hsame r hr]
          refine ⟨⟨?_, stores_write _⟩,
            fun r hr => ⟨honce.stored r hr, hhalves r hr, hsame r hr⟩⟩
          apply Db.Stores.write _ ids_ne.symm
          -- the lower half is there from the reports, or from this call
          by_cases hreports : s.reports = []
          · exact (hfirst hreports).2
          · obtain ⟨r, hr⟩ := List.exists_mem_of_ne_nil _ hreports
            have hrow := (honce.unchanged r hr (honce.stored r hr)).1
            rwa [hhalves r hr] at hrow
    · rw [hdb]
      by_cases hrc1 : rc1 = .noErr
      · rw [if_pos (.inl hrc1), once_returns_zero_iff]
        constructor
        · rintro ⟨hid, hold⟩
          refine .inr ⟨fun r hr => (hold r hr).2.2, fun hreports => ?_⟩
          exact absurd hreports (h.ids _ hid.2).1
        · rintro (⟨hne, -⟩ | ⟨hsame, hfirst⟩)
          · exact absurd hrc1 hne
          · have hreports : s.reports ≠ [] := fun hreports => hfails (hfirst hreports).1
            obtain ⟨r, hr⟩ := List.exists_mem_of_ne_nil _ hreports
            have hhalves : ∀ r ∈ s.reports, r.id_32 = id_64.setWidth 32 := fun r hr => by
              rw [h.halves r hr, hsame r hr]
            have hid := honce.unchanged r hr (honce.stored r hr)
            rw [hhalves r hr, hsame r hr] at hid
            exact ⟨hid, fun r hr => ⟨honce.stored r hr, hhalves r hr, hsame r hr⟩⟩
      · rw [if_neg (by simp [hrc1, hresult])]
        exact iff_of_true (honce.returns_of_ne (by decide)) (.inl ⟨hrc1, hfails⟩)

theorem booked_step (h : Booked s) (ev : CallEvent) : Booked (callStep sq s ev) := by
  cases ev with
  | start process f random => exact booked_start h f random
  | save32 process f => exact booked_save32 h f
  | save64 process f => exact booked_save64 h f
  | restart process =>
    refine ⟨h.ids, fun process' hexist => ?_, h.halves⟩
    by_cases hp : process' = process
    · simp [callStep, Calls.restart, hp, NvParamMgr.init] at hexist
    · have hmgr : (callStep sq s (.restart process)).mgr process' = s.mgr process' := by
        simp [callStep, Calls.restart, hp]
      rw [hmgr] at hexist ⊢
      exact h.held process' hexist

theorem once_step_iff (h : Booked s) (honce : Once s) (ev : CallEvent) :
    Once (callStep sq s ev) ↔ SavesOnce sq s ev := by
  cases ev with
  | start process f random => exact iff_of_true (once_start h honce f random) trivial
  | save32 process f => exact once_save32_iff honce f
  | save64 process f => exact once_save64_iff h honce f
  | restart process => exact iff_of_true (honce.congr rfl rfl) trivial

theorem booked_init : Booked .init where
  ids := by
    rintro data ⟨row, hrow, -⟩
    exact absurd hrow List.not_mem_nil
  held := by
    intro process hexist
    simp [Calls.init, NvParamMgr.init] at hexist
  halves := fun _ hr => absurd hr List.not_mem_nil

end Calls

/-- **Over any number of processes, their ends and any failures, one id is reported and stays
stored exactly if no other id is ever saved, and the first one is saved in both rows.** -/
theorem pseudo_client_id_once_iff (sq : Sqlite) (evs : List CallEvent) :
    Throughout (callStep sq) Once .init evs ↔ Meets (callStep sq) (SavesOnce sq) .init evs := by
  apply EventRun.throughout_iff_meets (J := Booked)
  · exact fun _ ev h => booked_step h ev
  · exact fun _ ev h honce => once_step_iff h honce ev
  · exact booked_init
  · exact ⟨nofun, nofun, nofun⟩

instance : DecidablePred Once := fun s =>
  decidable_of_iff
    ((∀ r ∈ s.reports, r.stored = true) ∧
      (∀ r ∈ s.reports, ∀ r' ∈ s.reports, r.stored = true →
        r'.id_32 = r.id_32 ∧ r'.id_64 = r.id_64) ∧
      ∀ r ∈ s.reports, r.stored = true → s.db.HasId r.id_32 r.id_64)
    ⟨fun h => ⟨h.1, h.2.1, h.2.2⟩, fun h => ⟨h.stored, h.same, h.unchanged⟩⟩

/-- A read fails as busy, in a process that comes after the one that made the id. -/
theorem busy_read_replaces_id :
    ¬ Throughout (callStep sampleSqlite) Once .init
      [.start 0 .none (.gives 1), .save32 0 .none, .save64 0 .none, .restart 0,
        .start 0 { Fault.none with step := some .busy } (.gives 2), .save32 0 .none,
        .save64 0 .none] := by
  decide +kernel

/-- One of the two saves fails. -/
example : ¬ Throughout (callStep sampleSqlite) Once .init
    [.start 0 .none (.gives 1), .save32 0 { Fault.none with step := some .busy },
      .save64 0 .none] := by
  decide +kernel

end NvParam
end LocationStack
