import LocationStack.BaseUtil.NvGetters
import LocationStack.BaseUtil.NvStore

/-! # What was saved is read again

A name that stands for itself between the quotes of a SELECT is found by its row, and the row
stays until the name is saved again.  The other names are the ones with a quote in them, those
of the columns and the one that the getter gives the pseudo client id for; and a value without
bytes can be saved but not read.
-/
namespace LocationStack
namespace NvParam

open EventRun (run Meets)
open LittleEndian

/-! ## Values -/

/-- The bytes of a value. -/
def Kind.bytes : (k : Kind) → k.Value → List UInt8
  | .int32, param_value | .float, param_value | .uint32, param_value => param_value.toList
  | .bool, param_value => param_value.toList
  | .int64, param_value | .uint64, param_value => param_value.toList
  | .string, param_value => param_value
  | .blob, param_value => param_value.1

/-- The length that it is saved with. -/
def Kind.dataLen : (k : Kind) → k.Value → Nat
  | .string, param_value => param_value.length % 2 ^ 32
  | .blob, param_value => param_value.1.length
  | .int32, _ | .float, _ | .uint32, _ => 4
  | .bool, _ => 1
  | .int64, _ | .uint64, _ => 8

/-- The variable has the value. -/
def Kind.Holds : (k : Kind) → k.Var → k.Value → Prop
  | .int32, var, param_value | .float, var, param_value | .uint32, var, param_value =>
    var = param_value
  | .bool, var, param_value => var = param_value
  | .int64, var, param_value | .uint64, var, param_value => var = param_value
  | .string, var, param_value => var = ⟨param_value, param_value.length⟩
  | .blob, var, param_value => var = ⟨param_value.1, param_value.1.length⟩

/-- A value with at least one byte, whose length is the one it is saved with. -/
def Kind.Storable (k : Kind) (param_value : k.Value) : Prop :=
  k.bytes param_value ≠ [] ∧ (k.bytes param_value).length < 2 ^ 32

/-- The saves are one function. -/
theorem save_eq (e : Env) (param_name : Name) (k : Kind) (param_value : k.Value) :
    save e param_name k param_value =
      saveNvDataBlob e (some param_name) (some (k.bytes param_value)) (k.dataLen param_value) := by
  cases k <;> rfl

theorem dataLen_of_lt {k : Kind} {param_value : k.Value}
    (h : (k.bytes param_value).length < 2 ^ 32) :
    k.dataLen param_value = (k.bytes param_value).length := by
  cases k with
  | string => exact Nat.mod_eq_of_lt h
  | blob => rfl
  | int32 | float | uint32 | bool | int64 | uint64 => simp [Kind.dataLen, Kind.bytes]

/-- The bytes that are bound are the whole value. -/
theorem take_dataLen {k : Kind} {param_value : k.Value} (h : k.Storable param_value) :
    (k.bytes param_value).take (k.dataLen param_value) = k.bytes param_value := by
  rw [dataLen_of_lt h.2, List.take_length]

/-! ## Getters by the SELECT of the name -/

section Getters

variable {m : NvParamMgr} {e : Env} {param_name : Name} {k : Kind} {var : k.Var}

/-- The getter of a type, for a name that is not the one of its pseudo client id. -/
def getPlain (m : NvParamMgr) (e : Env) (param_name : Name) : (k : Kind) → k.Var → Got k.Var
  | .int32, var | .float, var | .uint32, var => getNumber m e param_name var
  | .bool, var => getNumber m e param_name var
  | .int64, var | .uint64, var => getNumber m e param_name var
  | .string, var | .blob, var => getBuffer m e param_name var

theorem getNumberOrId_of_ne {n : Nat} {idName : Name} {id : NvParamMgr → Nat}
    {var : Vector UInt8 n} (h : some idName ≠ some param_name) :
    getNumberOrId m e param_name idName id var = getNumber m e param_name var := by
  rw [getNumberOrId, if_neg]
  rintro rfl
  exact h rfl

theorem get_eq_getPlain (hid : k.idName ≠ some param_name) :
    get m e param_name k var = getPlain m e param_name k var := by
  cases k with
  | int32 =>
    rw [get, getInt32Param]
    exact getNumberOrId_of_ne hid
  | int64 =>
    rw [get, getInt64Param]
    exact getNumberOrId_of_ne hid
  | uint64 =>
    rw [get, getUInt64Param]
    exact getNumberOrId_of_ne hid
  | bool | float | uint32 | string | blob => rfl

theorem getNumber_ne_noErr {n : Nat} {var : Vector UInt8 n}
    (h : (e.select param_name).blob = none) :
    (getNumber m e param_name var).result ≠ .noErr := by
  obtain ⟨hresult, _⟩ := getNvDataBlob_of_none n h
  simp [getNumber, hresult]

theorem getBuffer_ne_noErr {var : Buffer} (h : (e.select param_name).blob = none) :
    (getBuffer m e param_name var).result ≠ .noErr := by
  obtain ⟨hresult, _⟩ := getNvDataBlob_of_none 0 h
  simp [getBuffer, hresult]

theorem getBuffer_of_blob (m : NvParamMgr) (var : Buffer) {blob : List UInt8}
    (h : (e.select param_name).blob = some blob) (halloc : (e.select param_name).alloc = true) :
    getBuffer m e param_name var = ⟨.noErr, ⟨blob, blob.length⟩, m, []⟩ := by
  simp [getBuffer, getNvDataBlob_of_some h, halloc]

/-- A name that has no blob is not read. -/
theorem get_of_none (hid : k.idName ≠ some param_name) (h : (e.select param_name).blob = none) :
    (get m e param_name k var).result ≠ .noErr := by
  rw [get_eq_getPlain hid]
  cases k with
  | int32 | bool | float | uint32 | int64 | uint64 => exact getNumber_ne_noErr h
  | string | blob => exact getBuffer_ne_noErr h

/-- The getter of the type that was saved gives the value. -/
theorem get_of_blob (param_value : k.Value) (hid : k.idName ≠ some param_name)
    (h : (e.select param_name).blob = some (k.bytes param_value))
    (halloc : (e.select param_name).alloc = true) :
    (get m e param_name k var).result = .noErr ∧
      k.Holds (get m e param_name k var).param_value param_value := by
  have hnumber : ∀ {n : Nat} {var value : Vector UInt8 n}, n ≠ 0 →
      (e.select param_name).blob = some value.toList →
      (getNumber m e param_name var).result = .noErr ∧
        (getNumber m e param_name var).param_value = value := by
    intro n var value hn hblob
    obtain ⟨hresult, hvalue⟩ := getNumber_of_length m var hn hblob (by simp)
    exact ⟨hresult, Vector.toList_inj.mp hvalue⟩
  rw [get_eq_getPlain hid]
  cases k with
  | int32 | float | uint32 | bool | int64 | uint64 => exact hnumber (by decide) h
  | string | blob =>
    rw [getPlain, getBuffer_of_blob m var h halloc]
    exact ⟨rfl, rfl⟩

/-- A getter depends on the SELECT of its name. -/
theorem get_congr {e' : Env} (hid : k.idName ≠ some param_name)
    (h : e.select param_name = e'.select param_name) :
    get m e param_name k var = get m e' param_name k var := by
  rw [get_eq_getPlain hid, get_eq_getPlain hid]
  cases k with
  | int32 | bool | float | uint32 | int64 | uint64 => simp only [getPlain, getNumber, h]
  | string | blob => simp only [getPlain, getBuffer, h]

end Getters

/-! ## Names -/

theorem unquote_of_notMem {param_name : Name} (h : quote ∉ param_name) :
    unquote param_name = some param_name := by
  fun_induction unquote param_name with
  | case1 => rfl
  | case2 => simp at h
  | case3 b hb => rfl
  | case4 | case5 => simp_all
  | case6 b b' rest hb ih =>
    rw [ih (fun hmem => h (List.mem_cons_of_mem _ hmem))]
    rfl

/-- A name with quotes that come in pairs stands for a shorter text with quotes. -/
theorem unquote_of_mem {param_name s : Name} (h : quote ∈ param_name)
    (hs : unquote param_name = some s) : quote ∈ s ∧ s.length < param_name.length := by
  fun_induction unquote param_name generalizing s with
  | case1 => simp at h
  | case2 | case3 => simp_all
  | case4 rest ih =>
    obtain ⟨t, ht, rfl⟩ := Option.map_eq_some_iff.mp hs
    refine ⟨List.mem_cons_self, ?_⟩
    by_cases hmem : quote ∈ rest
    · have := (ih hmem ht).2
      simp only [List.length_cons]
      omega
    · rw [unquote_of_notMem hmem] at ht
      cases ht
      simp
  | case5 => simp at hs
  | case6 b b' rest hb ih =>
    obtain ⟨t, ht, rfl⟩ := Option.map_eq_some_iff.mp hs
    have hmem : quote ∈ b' :: rest := by
      rcases List.mem_cons.mp h with heq | hmem
      · exact absurd heq.symm hb
      · exact hmem
    obtain ⟨hin, hlen⟩ := ih hmem ht
    exact ⟨List.mem_cons_of_mem _ hin, by simpa using hlen⟩

/-- No column has a quote in its name. -/
theorem operand_of_quote {s : Name} (h : quote ∈ s) : operand s = .text s := by
  have hlower : quote ∈ s.map toLower := List.mem_map.mpr ⟨quote, h, by decide⟩
  have hne : ∀ column : Name, quote ∉ column → s.map toLower ≠ column := by
    rintro column hcolumn rfl
    exact hcolumn hlower
  unfold operand
  rw [if_neg (hne _ (by decide)), if_neg (hne _ (by decide)), if_neg]
  intro hmem
  revert hlower
  simp only [List.mem_cons, List.not_mem_nil, or_false] at hmem
  rcases hmem with heq | heq | heq <;> rw [heq] <;> decide

/-! ## SELECTs -/

section Select

variable {sq : Sqlite} {db : Db} {f : Fault} {param_name s : Name} {data : List UInt8}

theorem length_selectSentence (param_name : Name) :
    param_name.length ≤ (selectSentence param_name).length := by
  simp only [selectSentence, List.length_append]
  omega

/-- A sentence that SQLite takes is counted by an `int`, and so is the name in it. -/
theorem length_lt_of_fits (hfits : (selectSentence param_name).length ≤ sq.sqlLengthLimit) :
    (selectSentence param_name).length < 2 ^ 31 ∧ param_name.length < 2 ^ 31 := by
  have hlt := Nat.lt_of_le_of_lt hfits sq.sqlLengthLimit_lt
  exact ⟨hlt, Nat.lt_of_le_of_lt (length_selectSentence param_name) hlt⟩

/-- A name that stands for itself in the text of its SELECT. -/
structure Plain (sq : Sqlite) (param_name : Name) : Prop where
  noQuote : quote ∉ param_name
  isText : operand param_name = .text param_name
  fits : (selectSentence param_name).length ≤ sq.sqlLengthLimit

theorem Plain.length_lt (h : Plain sq param_name) : (selectSentence param_name).length < 2 ^ 31 :=
  (length_lt_of_fits h.fits).1

theorem Plain.boundText (h : Plain sq param_name) : boundText param_name = param_name :=
  boundText_of_lt (length_lt_of_fits h.fits).2

theorem Plain.select_stored (h : Plain sq param_name) (hdata : db.Stores param_name data)
    (hne : data ≠ []) :
    (sq.select db .none param_name).blob = some data ∧
      (sq.select db .none param_name).alloc = true := by
  obtain ⟨row, hfind, rfl⟩ := find_text_of_stores sq hdata
  simp [-Nat.reducePow, Sqlite.select, unquote_of_notMem h.noQuote, h.isText, h.fits, h.length_lt,
    hfind, hne, Select.blob, Fault.none, orFailure]

/-- Its SELECT does not see an INSERT of another name. -/
theorem Plain.select_write (h : Plain sq param_name) {w : Write}
    (hne : w.param_name ≠ param_name) :
    sq.select (db.write sq w) f param_name = sq.select db f param_name := by
  simp only [Sqlite.select, unquote_of_notMem h.noQuote, h.isText, find_text_write hne]

end Select

/-! ## Round trips -/

variable (sq : Sqlite)

/-- The event saves this name. -/
def Saves (s : Sys) (param_name : Name) (ev : Event) : Prop :=
  match ev with
  | .save _ saved _ _ => saved = param_name
  | _ => ∃ w ∈ writes sq s ev, w.param_name = param_name

/-- A name is bound whole. -/
def Event.Whole : Event → Prop
  | .save _ param_name _ _ => param_name.length < 2 ^ 31
  | _ => True

/-- What is promised of a name and a value of a type: in any run, with any processes, the value
is read after it was saved until the name is saved again, and a save of another name does not
change what the getter of the name gives. -/
structure RoundTrips (k : Kind) (param_name : Name) (param_value : k.Value) : Prop where
  read : ∀ (before : List Event) (o : Outcome) (after : List Event) (process : Nat) (var : k.Var)
    (o' : Outcome), (∀ ev ∈ before ++ after, ev.Whole) →
    let s := run (step sq) .init before
    let s' := step sq s (.save k param_name param_value o)
    (save (sq.env s.db o) param_name k param_value).result = .noErr →
    Meets (step sq) (fun s ev => ¬ Saves sq s param_name ev) s' after →
    o'.select = .none →
    let s'' := run (step sq) s' after
    let got := get (s''.mgr process) (sq.env s''.db o') param_name k var
    got.result = .noErr ∧ k.Holds got.param_value param_value
  isolated : ∀ (before : List Event) (k' : Kind) (other : Name) (otherValue : k'.Value)
    (o : Outcome) (process : Nat) (var : k.Var) (o' : Outcome),
    (∀ ev ∈ before, ev.Whole) → other.length < 2 ^ 31 → other ≠ param_name →
    let s := run (step sq) .init before
    let s' := step sq s (.save k' other otherValue o)
    get (s'.mgr process) (sq.env s'.db o') param_name k var =
      get (s.mgr process) (sq.env s.db o') param_name k var

/-- The names and values that are kept. -/
structure Clean (k : Kind) (param_name : Name) (param_value : k.Value) : Prop where
  plain : Plain sq param_name
  notId : k.idName ≠ some param_name
  storable : k.Storable param_value

section Sufficient

variable {sq} {s : Sys} {k : Kind} {param_name : Name} {param_value : k.Value} {o : Outcome}

/-- A save writes one row or none. -/
theorem save_cases (sq : Sqlite) (s : Sys) (k : Kind) (param_name : Name)
    (param_value : k.Value) (o : Outcome) :
    let saved := save (sq.env s.db o) param_name k param_value
    (saved.result = .noErr ∧ saved.writes =
        [⟨boundText param_name, (k.bytes param_value).take (k.dataLen param_value)⟩]) ∨
      (saved.result ≠ .noErr ∧ saved.writes = []) := by
  rw [save_eq]
  exact saveNvDataBlob_cases _ _ _ _

theorem stores_of_saved (hclean : Clean sq k param_name param_value)
    (hsaved : (save (sq.env s.db o) param_name k param_value).result = .noErr) :
    (step sq s (.save k param_name param_value o)).db.Stores param_name
      (k.bytes param_value) := by
  rcases save_cases sq s k param_name param_value o with ⟨-, hwrites⟩ | ⟨hfailed, -⟩
  · rw [take_dataLen hclean.storable, hclean.plain.boundText] at hwrites
    simp only [step, writes, hwrites]
    exact stores_write _
  · exact absurd hsaved hfailed

/-- What is stored stays until the name is saved. -/
theorem stores_step {data : List UInt8} {ev : Event} (hstores : s.db.Stores param_name data)
    (hwhole : ev.Whole) (hsaves : ¬ Saves sq s param_name ev) :
    (step sq s ev).db.Stores param_name data := by
  apply hstores.writeAll
  cases ev with
  | save k' saved savedValue o =>
    intro w hw
    simp only [writes] at hw
    rcases save_cases sq s k' saved savedValue o with ⟨-, hwrites⟩ | ⟨-, hwrites⟩
    · rw [hwrites, List.mem_singleton] at hw
      rw [hw, boundText_of_lt hwhole]
      exact hsaves
    · rw [hwrites] at hw
      exact absurd hw List.not_mem_nil
  | get | restart => exact fun w hw hname => hsaves ⟨w, hw, hname⟩

theorem roundTrips_of_clean (hclean : Clean sq k param_name param_value) :
    RoundTrips sq k param_name param_value where
  read := by
    intro before o after process var o' hwhole s s' hsaved hafter hselect s'' got
    have hstores : s''.db.Stores param_name (k.bytes param_value) := by
      have hmeets := hafter.and
        (EventRun.Meets.of_forall fun ev hev => hwhole ev (List.mem_append_right before hev))
      exact (EventRun.throughout_of_meets
        (I := fun s : Sys => s.db.Stores param_name (k.bytes param_value))
        (fun _ _ hs hev => stores_step hs hev.2 hev.1) (stores_of_saved hclean hsaved)
        hmeets).last
    obtain ⟨hblob, halloc⟩ := hclean.plain.select_stored hstores hclean.storable.1
    have henv : (sq.env s''.db o').select param_name = sq.select s''.db .none param_name := by
      rw [Sqlite.env, hselect]
    exact get_of_blob param_value hclean.notId (henv ▸ hblob) (henv ▸ halloc)
  isolated := by
    intro before k' other otherValue o process var o' _ hlen hne s s'
    apply get_congr hclean.notId
    rcases save_cases sq s k' other otherValue o with ⟨-, hwrites⟩ | ⟨-, hwrites⟩
    · have hdb : s'.db = s.db.write sq
          ⟨boundText other, (k'.bytes otherValue).take (k'.dataLen otherValue)⟩ := by
        simp only [s', step, writes, hwrites]
        rfl
      simp only [Sqlite.env, hdb]
      exact hclean.plain.select_write (by rwa [boundText_of_lt hlen])
    · have hdb : s'.db = s.db := by
        simp only [s', step, writes, hwrites]
        rfl
      rw [hdb]

end Sufficient

section Necessary

variable {sq} {s : Sys} {k : Kind} {param_name : Name} {param_value : k.Value} {random : Random}

/-- The row that a save binds. -/
def bound (k : Kind) (param_name : Name) (param_value : k.Value) : Write :=
  ⟨boundText param_name, (k.bytes param_value).take (k.dataLen param_value)⟩

/-- What a save accepts is in the table. -/
theorem save_of_accepts (s : Sys) (param_value : k.Value) (random : Random)
    (haccepts : sq.accepts (boundText param_name).length (k.dataLen param_value)) :
    (save (sq.env s.db (.ok random)) param_name k param_value).result = .noErr ∧
      step sq s (.save k param_name param_value (.ok random)) =
        ⟨s.db.write sq (bound k param_name param_value), s.mgr⟩ := by
  have hresult : (save (sq.env s.db (.ok random)) param_name k param_value).result = .noErr := by
    rw [save_eq]
    exact saveNvDataBlob_of_accepts rfl haccepts
  refine ⟨hresult, ?_⟩
  rcases save_cases sq s k param_name param_value (.ok random) with ⟨-, hw⟩ | ⟨hne, -⟩
  · simp only [step, writes, hw]
    rfl
  · exact absurd hresult hne

/-- The promise for a get right after the save. -/
theorem RoundTrips.read_now (h : RoundTrips sq k param_name param_value)
    (haccepts : sq.accepts (boundText param_name).length (k.dataLen param_value))
    (before : List Event) (hwhole : ∀ ev ∈ before, ev.Whole) (process : Nat) (var : k.Var) :
    let s := run (step sq) .init before
    let got := get (s.mgr process)
      (sq.env (s.db.write sq (bound k param_name param_value)) (.ok .absent)) param_name k var
    got.result = .noErr ∧ k.Holds got.param_value param_value := by
  intro s got
  obtain ⟨hresult, hstep⟩ :=
    save_of_accepts s param_value .absent haccepts
  have hread := h.read before (.ok .absent) [] process var (.ok .absent)
    (by simpa using hwhole) hresult trivial rfl
  simp only [EventRun.run_nil] at hread
  rw [show step sq (run (step sq) Sys.init before) _ = _ from hstep] at hread
  exact hread

theorem mem_write_empty {w : Write} {row : Row} (h : row ∈ (Db.empty.write sq w).rows) :
    row.param_name = w.param_name ∧ row.param_data = w.param_data := by
  rcases mem_write.mp h with ⟨hrow, -⟩ | rfl
  · exact absurd hrow List.not_mem_nil
  · exact ⟨rfl, rfl⟩

/-- The only row is found by the SELECT, and what follows. -/
theorem RoundTrips.first (h : RoundTrips sq k param_name param_value) {text : Name}
    (htext : unquote param_name = some text)
    (haccepts : sq.accepts (boundText param_name).length (k.dataLen param_value))
    (hid : k.idName ≠ some param_name) (var : k.Var) :
    (selectSentence param_name).length ≤ sq.sqlLengthLimit ∧
      ∃ row : Row, sq.holds row (operand text) = true ∧
        row.param_name = boundText param_name ∧
        row.param_data = (k.bytes param_value).take (k.dataLen param_value) ∧
        row.param_data ≠ [] ∧
        (sq.select (Db.empty.write sq (bound k param_name param_value)) .none param_name).blob =
          some row.param_data := by
  obtain ⟨hresult, -⟩ := h.read_now haccepts [] (by simp) 0 var
  cases hblob : (sq.select (Db.empty.write sq (bound k param_name param_value)) .none
      param_name).blob with
  | none => exact absurd hresult (get_of_none hid hblob)
  | some blob =>
    obtain ⟨hfits, row, hfind, rfl, hne⟩ := blob_of_select htext hblob
    obtain ⟨hrow, hholds⟩ := mem_of_find hfind
    obtain ⟨hname, hdata⟩ := mem_write_empty hrow
    exact ⟨hfits, row, hholds, hname, hdata, hne, rfl⟩

/-! The name of the pseudo client id: a process that has one goes on giving it. -/

theorem random_gives {random_uint64 : BitVec 64} (h : random_uint64.setWidth 32 ≠ 0#32) :
    (Random.gives random_uint64).random_uint64 = some random_uint64 := by
  simp [Random.random_uint64, Random.hardware, Random.gives, List.range_succ, h, Option.filter]

/-- The first get of the id makes one. -/
theorem generate_first {e : Env} {random_uint64 : BitVec 64}
    (hread : (e.select PARAM_NAME_PSEUDO_CLIENT_ID_64BIT).blob = none)
    (hrandom : e.random = .gives random_uint64) (h : random_uint64.setWidth 32 ≠ 0#32)
    (hsaved : (saveNvDataBlob e (some PARAM_NAME_PSEUDO_CLIENT_ID)
        (some (leBytes 4 (random_uint64.setWidth 32).toNat)) 4).result = .noErr ∨
      (saveNvDataBlob e (some PARAM_NAME_PSEUDO_CLIENT_ID_64BIT)
        (some (leBytes 8 random_uint64.toNat)) 8).result = .noErr) :
    (generatePseudoClientIdIfNeeded .init e).mgr =
      ⟨true, random_uint64, random_uint64.setWidth 32⟩ := by
  obtain ⟨hresult, -⟩ := getNvDataBlob_of_none 8 hread
  simp only [generatePseudoClientIdIfNeeded, NvParamMgr.init, hresult, false_and, if_false,
    Bool.false_eq_true, hrandom, random_gives h]
  rw [if_pos hsaved]

theorem getNumberOrId_mgr {m : NvParamMgr} {e : Env} {n : Nat} {idName : Name}
    {id : NvParamMgr → Nat} {var : Vector UInt8 n} :
    (getNumberOrId m e idName idName id var).mgr = (generatePseudoClientIdIfNeeded m e).mgr := by
  rw [getNumberOrId, if_pos rfl]
  simp only
  split <;> rfl

theorem getNumberOrId_existing {m : NvParamMgr} {e : Env} {n : Nat} {idName : Name}
    {id : NvParamMgr → Nat} {var : Vector UInt8 n} (h : m.m_pseudo_client_id_exist = true) :
    getNumberOrId m e idName idName id var = ⟨.noErr, bytesOf n (id m), m, []⟩ := by
  simp [getNumberOrId, generatePseudoClientIdIfNeeded, h]

/-- A process that has its id does not look at the database. -/
theorem get_existing_congr {m : NvParamMgr} {var : k.Var} (hid : k.idName = some param_name)
    (h : m.m_pseudo_client_id_exist = true) (e e' : Env) :
    get m e param_name k var = get m e' param_name k var := by
  cases k with
  | int32 | int64 | uint64 =>
    cases hid
    simp only [get, getInt32Param, getInt64Param, getUInt64Param, getNumberOrId_existing h]
  | bool | float | uint32 | string | blob => cases hid

theorem blob_of_empty {f : Fault} (text : Name) (htext : unquote param_name = some text) :
    (sq.select .empty f param_name).blob = none := by
  cases hblob : (sq.select .empty f param_name).blob with
  | none => rfl
  | some blob =>
    obtain ⟨-, row, hfind, -⟩ := blob_of_select htext hblob
    exact absurd (mem_of_find hfind).1 List.not_mem_nil

/-- The id that the process has is read, whatever was saved under its name. -/
theorem RoundTrips.notId (h : RoundTrips sq k param_name param_value)
    (haccepts : sq.accepts (boundText param_name).length (k.dataLen param_value)) (var : k.Var) :
    k.idName ≠ some param_name := by
  intro hid
  have hread : ∀ random_uint64 : BitVec 64, random_uint64.setWidth 32 ≠ 0#32 →
      k.Holds (get ⟨true, random_uint64, random_uint64.setWidth 32⟩
        (sq.env .empty (.ok .absent)) param_name k var).param_value param_value := by
    intro random_uint64 hvalid
    have hblob : ((sq.env .empty (.ok (.gives random_uint64))).select
        PARAM_NAME_PSEUDO_CLIENT_ID_64BIT).blob = none :=
      blob_of_empty PARAM_NAME_PSEUDO_CLIENT_ID_64BIT (by decide)
    have hmgr : (get .init (sq.env .empty (.ok (.gives random_uint64))) param_name k var).mgr =
        ⟨true, random_uint64, random_uint64.setWidth 32⟩ := by
      cases k with
      | int32 =>
        cases hid
        exact getNumberOrId_mgr.trans (generate_first hblob rfl hvalid
          (.inl (saveNvDataBlob_of_accepts rfl haccepts)))
      | int64 | uint64 =>
        cases hid
        exact getNumberOrId_mgr.trans (generate_first hblob rfl hvalid
          (.inr (saveNvDataBlob_of_accepts rfl haccepts)))
      | bool | float | uint32 | string | blob => cases hid
    obtain ⟨-, hholds⟩ := h.read_now haccepts
      [.get 0 k param_name var (.ok (.gives random_uint64))] (by simp [Event.Whole]) 0 var
    simp only [EventRun.run_cons, EventRun.run_nil, step, Function.update_self, Sys.init,
      hmgr] at hholds
    rwa [get_existing_congr hid rfl _ (sq.env .empty (.ok .absent))] at hholds
  have hone := hread 1 (by decide)
  have htwo := hread 2 (by decide)
  -- two processes with different ids would have to read the same value
  cases k with
  | int32 | int64 | uint64 =>
    cases hid
    simp only [get, getInt32Param, getInt64Param, getUInt64Param, Kind.Holds] at hone htwo
    rw [getNumberOrId_existing rfl] at hone htwo
    have hsame := hone.trans htwo.symm
    revert hsame
    decide
  | bool | float | uint32 | string | blob => cases hid

theorem RoundTrips.storable (h : RoundTrips sq k param_name param_value) {text : Name}
    (htext : unquote param_name = some text)
    (haccepts : sq.accepts (boundText param_name).length (k.dataLen param_value))
    (hid : k.idName ≠ some param_name) (var : k.Var) : k.Storable param_value := by
  obtain ⟨-, row, -, -, hdata, hne, hblob⟩ := h.first htext haccepts hid var
  constructor
  · rintro hnil
    rw [hnil, List.take_nil] at hdata
    exact hne hdata
  · cases k with
    | int32 | bool | float | uint32 | int64 | uint64 => simp [Kind.bytes]
    | blob => exact param_value.2
    | string =>
      -- what is read has the length that was given to the save
      obtain ⟨-, hholds⟩ := h.read_now haccepts [] (by simp) 0 var
      have halloc : (sq.select (Db.empty.write sq (bound .string param_name param_value)) .none
          param_name).alloc = true := by
        simp [Sqlite.select, htext, Fault.none]
      have hgot := getBuffer_of_blob .init var
        (e := sq.env (Db.empty.write sq (bound .string param_name param_value)) (.ok .absent))
        hblob halloc
      have hvalue : row.param_data = param_value :=
        congrArg Buffer.param_value ((congrArg Got.param_value hgot).symm.trans hholds)
      have hlen := congrArg List.length (hvalue.symm.trans hdata)
      simp only [Kind.bytes, Kind.dataLen, List.length_take] at hlen ⊢
      have := Nat.mod_lt param_value.length (show 0 < 2 ^ 32 by decide)
      omega

theorem length_of_column (hcolumn : operand param_name = .param_name) :
    param_name.length = 10 := by
  have hlower : param_name.map toLower = cString "param_name" := by
    unfold operand at hcolumn
    simp only at hcolumn
    split at hcolumn
    · assumption
    · split at hcolumn
      · cases hcolumn
      · split at hcolumn <;> cases hcolumn
  have hlen := congrArg List.length hlower
  rw [List.length_map] at hlen
  rw [hlen]
  decide

/-- Whatever row is in the table, the name of the column finds it. -/
theorem get_column (hcolumn : operand param_name = .param_name) (hquote : quote ∉ param_name)
    (hfits : (selectSentence param_name).length ≤ sq.sqlLengthLimit)
    (hid : k.idName ≠ some param_name) (hstorable : k.Storable param_value) (other : Name)
    (var : k.Var) :
    (get NvParamMgr.init (sq.env (Db.empty.write sq (bound k other param_value)) (.ok .absent))
      param_name k var).result = .noErr := by
  obtain ⟨hlt, _⟩ := length_lt_of_fits hfits
  have hrows : (Db.empty.write sq (bound k other param_value)).rows ≠ [] := by
    simp [Db.write, Db.empty]
  obtain ⟨row, hrow⟩ := Option.isSome_iff_exists.mp (sq.first_isSome _ hrows)
  have hdata : row.param_data = k.bytes param_value :=
    (mem_write_empty (sq.first_mem _ _ hrow)).2.trans (take_dataLen hstorable)
  have hfind : sq.find (Db.empty.write sq (bound k other param_value)) .param_name =
      some row := by
    simpa [Sqlite.find, Sqlite.holds] using hrow
  have hselect := unquote_of_notMem hquote
  refine (get_of_blob param_value hid ?_ ?_).1
  · simp [-Nat.reducePow, Sqlite.env, Outcome.ok, Sqlite.select, hselect, hcolumn, hfind,
      Select.blob, Fault.none, orFailure, hfits, hlt, hdata, hstorable.1]
  · simp [Sqlite.env, Outcome.ok, Sqlite.select, hselect, Fault.none]

/-- A name of the column `param_name` is read although only another one was saved. -/
theorem not_roundTrips_of_column (hcolumn : operand param_name = .param_name)
    (hquote : quote ∉ param_name) (hfits : (selectSentence param_name).length ≤ sq.sqlLengthLimit)
    (haccepts : sq.accepts (boundText param_name).length (k.dataLen param_value))
    (hid : k.idName ≠ some param_name) (hstorable : k.Storable param_value) (var : k.Var) :
    ¬ RoundTrips sq k param_name param_value := by
  intro h
  have hlen : param_name.length = 10 := length_of_column hcolumn
  have hne : [120] ≠ param_name := by
    intro heq
    rw [← heq] at hlen
    simp at hlen
  have hbound : boundText param_name = param_name := boundText_of_lt (by omega)
  have hother : sq.accepts (boundText [120]).length (k.dataLen param_value) := by
    refine sq.accepts_mono _ _ _ ?_ haccepts
    rw [hbound, hlen]
    decide
  obtain ⟨-, hstep⟩ :=
    save_of_accepts .init param_value .absent hother
  have hiso := h.isolated [] k [120] param_value (.ok .absent) 0 var (.ok .absent) (by simp)
    (by decide) hne
  simp only [EventRun.run_nil, hstep] at hiso
  have hbefore : (get NvParamMgr.init (sq.env .empty (.ok .absent)) param_name k var).result ≠
      .noErr := by
    exact get_of_none hid (blob_of_empty param_name (unquote_of_notMem hquote))
  have hafter := get_column hcolumn hquote hfits hid hstorable [120] var
  have hresult := congrArg Got.result hiso
  exact hbefore (hresult.symm.trans hafter)

theorem RoundTrips.plain (h : RoundTrips sq k param_name param_value) {text : Name}
    (htext : unquote param_name = some text)
    (haccepts : sq.accepts (boundText param_name).length (k.dataLen param_value))
    (hid : k.idName ≠ some param_name) (var : k.Var) : Plain sq param_name := by
  obtain ⟨hfits, row, hholds, hname, -⟩ := h.first htext haccepts hid var
  obtain ⟨hlt, hnameLt⟩ := length_lt_of_fits hfits
  rw [boundText_of_lt hnameLt] at hname
  have hquote : quote ∉ param_name := by
    intro hmem
    obtain ⟨hin, hlen⟩ := unquote_of_mem hmem htext
    rw [operand_of_quote hin] at hholds
    have htextName : row.param_name = text := by simpa [Sqlite.holds] using hholds
    rw [← htextName, hname] at hlen
    exact absurd hlen (Nat.lt_irrefl _)
  have hsame : text = param_name := by
    rw [unquote_of_notMem hquote] at htext
    exact (Option.some.inj htext).symm
  rw [hsame] at hholds
  refine ⟨hquote, ?_, hfits⟩
  cases hop : operand param_name with
  | param_name =>
    exact absurd h (not_roundTrips_of_column hop hquote hfits haccepts hid
      (h.storable htext haccepts hid var) var)
  | param_data =>
    rw [hop] at hholds
    contradiction
  | rowid =>
    rw [hop, Sqlite.holds, hname, sq.numericEq_rowid _ _ hop] at hholds
    contradiction
  | text t =>
    rw [hop] at hholds
    have ht : row.param_name = t := by simpa [Sqlite.holds] using hholds
    rw [← ht, hname]

end Necessary

/-- A variable that is 0. -/
def Kind.zero : (k : Kind) → k.Var
  | .int32 | .float | .uint32 => Vector.replicate 4 0
  | .bool => Vector.replicate 1 0
  | .int64 | .uint64 => Vector.replicate 8 0
  | .string | .blob => ⟨[], 0⟩

/-- **A value that a save accepts is kept exactly if it has a byte and not 2^32, and its name
stands for itself in the SELECT and is not the one of the getter's pseudo client id.**  What
follows a quote that ends the text of the SELECT is SQL; of such names nothing is said. -/
theorem roundTrips_iff (sq : Sqlite) (k : Kind) (param_name : Name) (param_value : k.Value)
    (htext : (unquote param_name).isSome)
    (haccepts : sq.accepts (boundText param_name).length (k.dataLen param_value)) :
    RoundTrips sq k param_name param_value ↔ Clean sq k param_name param_value := by
  constructor
  · intro h
    obtain ⟨text, htext⟩ := Option.isSome_iff_exists.mp htext
    have hid := h.notId haccepts k.zero
    exact ⟨h.plain htext haccepts hid k.zero, hid, h.storable htext haccepts hid k.zero⟩
  · exact roundTrips_of_clean

theorem roundTrips_iff_sample :
    RoundTrips sampleSqlite .int32 (cString "A") #v[1, 2, 3, 4] :=
  (roundTrips_iff sampleSqlite .int32 (cString "A") #v[1, 2, 3, 4] (by decide) (by decide)).mpr
    ⟨⟨by decide, by decide, by decide⟩, by decide, by decide, by decide⟩

/-- The empty string, a name with a quote in it and a name of a column. -/
theorem saved_not_read :
    ¬ RoundTrips sampleSqlite .string (cString "A") [] ∧
      ¬ RoundTrips sampleSqlite .int32 (cString "A\"B") #v[1, 2, 3, 4] ∧
      ¬ RoundTrips sampleSqlite .int32 (cString "Param_Data") #v[1, 2, 3, 4] := by
  refine ⟨fun h => ?_, fun h => ?_, fun h => ?_⟩
  all_goals
    have hread :=
      (h.read [] (.ok .absent) [] 0 (Kind.zero _) (.ok .absent) (by simp) (by decide) trivial rfl).1
    revert hread
    decide

end NvParam
end LocationStack
