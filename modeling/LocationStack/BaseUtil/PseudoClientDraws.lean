import LocationStack.BaseUtil.PseudoClientId

/-! # The draws for a pseudo client id

The device has five attempts at a value with a lower half that is not 0.  Where it has none, two
draws of the seeded generator are put together: the upper half is the first of five that is not 0,
the lower half is the draw that comes next, and that one nobody tests.

The two loops are counted out here, and what holds of the ids of a run is decided by the draws of
the calls that make one.
-/
namespace LocationStack
namespace NvParam

open EventRun (run Throughout Meets)
open LittleEndian

/-! ## The loops, draw by draw -/

/-- A loop from `first` on has stopped behind the first draw that is good, or after all its
tries. -/
structure StopsAtFirst (good : Nat → Prop) (first tries made : Nat) : Prop where
  first_le : first ≤ made
  made_le : made ≤ first + tries
  bad_before : ∀ i, first ≤ i → i + 1 < made → ¬ good i
  good_last : made < first + tries → ∃ i, i + 1 = made ∧ good i

namespace StopsAtFirst

variable {good : Nat → Prop} {first tries made : Nat}

theorem exhausted : StopsAtFirst good first 0 first :=
  ⟨Nat.le_refl _, Nat.le_refl _, fun _ _ _ => by omega, fun hlt => absurd hlt (Nat.lt_irrefl _)⟩

theorem stop (hgood : good first) : StopsAtFirst good first (tries + 1) (first + 1) :=
  ⟨Nat.le_succ _, by omega, fun _ _ _ => by omega, fun _ => ⟨first, rfl, hgood⟩⟩

theorem next (hbad : ¬ good first) (h : StopsAtFirst good (first + 1) tries made) :
    StopsAtFirst good first (tries + 1) made := by
  have hfirst := h.first_le
  have hmade := h.made_le
  refine ⟨by omega, by omega, fun i hi hlt => ?_, fun hlt => h.good_last (by omega)⟩
  rcases Nat.eq_or_lt_of_le hi with rfl | hi
  · exact hbad
  · exact h.bad_before i hi hlt

end StopsAtFirst

namespace Random

variable (r : Random)

/-- An attempt gives a value whose lower half is not 0. -/
def Suitable (retry_count : Nat) : Prop :=
  ∃ random_uint64, r.attempt retry_count = some random_uint64 ∧ random_uint64.setWidth 32 ≠ 0#32

/-- The `for` loop of the device from `retry_count` on: the attempts that were made when it ends,
and the value if one is valid. -/
def hardwareLoop : (left retry_count : Nat) → Nat × Option (BitVec 64)
  | 0, retry_count => (retry_count, none)
  | left + 1, retry_count =>
    match r.attempt retry_count with
    | some random_uint64 =>
      if random_uint64.setWidth 32 = 0#32 then hardwareLoop left (retry_count + 1)
      else (retry_count + 1, some random_uint64)
    | none => hardwareLoop left (retry_count + 1)

/-- The `for` loop of `mrand48` from `i` on: the draws that were made, and the last of them. -/
def softwareLoop : (left i : Nat) → (random_uint64 : BitVec 32) → Nat × BitVec 32
  | 0, i, random_uint64 => (i, random_uint64)
  | left + 1, i, _ =>
    if r.mrand48 i ≠ 0 then (i + 1, r.mrand48 i) else softwareLoop left (i + 1) (r.mrand48 i)

/-- The draws for the upper half. -/
def upperDraws : Nat := (r.softwareLoop 5 0 0).1

variable {r}

theorem hardwareLoop_stops (left retry_count : Nat) :
    StopsAtFirst r.Suitable retry_count left (r.hardwareLoop left retry_count).1 := by
  induction left generalizing retry_count with
  | zero => exact .exhausted
  | succ left ih =>
    rw [hardwareLoop]
    cases hattempt : r.attempt retry_count with
    | none =>
      refine .next ?_ (ih _)
      rintro ⟨random_uint64, hsome, -⟩
      rw [hattempt] at hsome
      cases hsome
    | some random_uint64 =>
      by_cases hzero : random_uint64.setWidth 32 = 0#32
      · simp only [hzero, if_true]
        refine .next ?_ (ih _)
        rintro ⟨random_uint64', hsome, hne⟩
        rw [hattempt] at hsome
        cases hsome
        exact hne hzero
      · simp only [hzero, if_false]
        exact .stop ⟨random_uint64, hattempt, hzero⟩

theorem hardwareLoop_findSome (left retry_count : Nat) :
    (r.hardwareLoop left retry_count).2 =
      (List.range' retry_count left).findSome? fun retry_count =>
        (r.attempt retry_count).filter fun random_uint64 => random_uint64.setWidth 32 ≠ 0 := by
  induction left generalizing retry_count with
  | zero => rfl
  | succ left ih =>
    rw [hardwareLoop, List.range'_succ, List.findSome?_cons]
    cases r.attempt retry_count with
    | none => exact ih _
    | some random_uint64 =>
      by_cases hzero : random_uint64.setWidth 32 = 0#32
      · simp only [hzero, if_true, Option.filter, ih]
        simp
      · simp [hzero, Option.filter]

/-- The value of the device. -/
theorem hardwareLoop_eq : (r.hardwareLoop 5 0).2 = r.hardware := by
  rw [hardwareLoop_findSome, hardware, List.range_eq_range']

theorem softwareLoop_stops (left i : Nat) (random_uint64 : BitVec 32) :
    StopsAtFirst (fun i => r.mrand48 i ≠ 0) i left (r.softwareLoop left i random_uint64).1 := by
  induction left generalizing i random_uint64 with
  | zero => exact .exhausted
  | succ left ih =>
    rw [softwareLoop]
    by_cases hzero : r.mrand48 i = 0
    · rw [if_neg (not_not.mpr hzero)]
      exact .next (not_not.mpr hzero) (ih _ _)
    · rw [if_pos hzero]
      exact .stop hzero

theorem softwareLoop_value (left i : Nat) (random_uint64 : BitVec 32) :
    (r.softwareLoop (left + 1) i random_uint64).2 =
      r.mrand48 ((r.softwareLoop (left + 1) i random_uint64).1 - 1) := by
  induction left generalizing i random_uint64 with
  | zero =>
    rw [softwareLoop]
    split <;> rfl
  | succ left ih =>
    rw [softwareLoop]
    split
    · rfl
    · exact ih _ _

theorem softwareLoop_find (left i : Nat) (random_uint64 : BitVec 32) :
    (r.softwareLoop (left + 1) i random_uint64).1 =
      (((List.range' i (left + 1)).find? fun i => r.mrand48 i ≠ 0).getD (i + left)) + 1 := by
  induction left generalizing i random_uint64 with
  | zero =>
    rw [softwareLoop]
    by_cases hzero : r.mrand48 i = 0#32 <;> simp [hzero, softwareLoop, List.find?]
  | succ left ih =>
    rw [softwareLoop, List.range'_succ, List.find?_cons]
    by_cases hzero : r.mrand48 i = 0#32
    · rw [if_neg (by simpa using hzero), ih]
      simp only [hzero, BitVec.ofNat_eq_ofNat, ne_eq, not_true_eq_false, decide_false]
      rw [Nat.add_right_comm, Nat.add_assoc]
    · simp [hzero]

/-- The value of the generator: the upper half from the loop, the lower half from the draw behind
it. -/
theorem software_eq :
    r.software =
      if r.time_sec > 43 * 365 * 24 * 60 * 60 then
        some (((r.softwareLoop 5 0 0).2.setWidth 64 <<< 32) +
          (r.mrand48 r.upperDraws).setWidth 64)
      else none := by
  have hdraws : r.upperDraws = (((List.range 5).find? fun i => r.mrand48 i ≠ 0).getD 4) + 1 := by
    rw [upperDraws, softwareLoop_find, List.range_eq_range']
  rw [software, softwareLoop_value]
  change _ = if r.time_sec > 43 * 365 * 24 * 60 * 60 then
    some (((r.mrand48 (r.upperDraws - 1)).setWidth 64 <<< 32) + _) else none
  rw [hdraws]
  rfl

theorem lower_half (upper lower : BitVec 32) :
    ((upper.setWidth 64 <<< 32) + lower.setWidth 64).setWidth 32 = lower := by
  apply BitVec.eq_of_toNat_eq
  have hupper := upper.isLt
  have hlower := lower.isLt
  simp [BitVec.toNat_add, BitVec.toNat_shiftLeft, Nat.shiftLeft_eq]
  omega

/-- A value of the device has been tested. -/
theorem hardware_lower {random_uint64 : BitVec 64} (h : r.hardware = some random_uint64) :
    random_uint64.setWidth 32 ≠ 0#32 := by
  obtain ⟨_, -, hfilter⟩ := List.exists_of_findSome?_eq_some h
  obtain ⟨-, htest⟩ := Option.filter_eq_some_iff.mp hfilter
  simpa using htest

theorem hardware_eq_none : r.hardware = none ↔ ∀ retry_count < 5, ¬ r.Suitable retry_count := by
  rw [hardware, List.findSome?_eq_none_iff]
  simp only [List.mem_range, Option.filter_eq_none_iff, Suitable]
  refine forall₂_congr fun retry_count _ => ?_
  simp

variable (r)

/-- The draws that a value is made of are good: one of the device's, or the one behind the draws for
the upper half. -/
def DrawsLower : Prop :=
  r.opened = true → (∀ retry_count < 5, ¬ r.Suitable retry_count) →
    r.time_sec > 43 * 365 * 24 * 60 * 60 → r.mrand48 r.upperDraws ≠ 0

variable {r}

/-- The lower half of the value is not 0 exactly if the draws are good. -/
theorem random_uint64_lower {random_uint64 : BitVec 64}
    (h : r.random_uint64 = some random_uint64) :
    random_uint64.setWidth 32 ≠ 0#32 ↔ r.DrawsLower := by
  unfold Random.random_uint64 at h
  split at h
  · rename_i hopened
    cases hhardware : r.hardware with
    | some value =>
      rw [hhardware] at h
      cases h
      refine iff_of_true (hardware_lower hhardware) fun _ hnone => ?_
      rw [hardware_eq_none.mpr hnone] at hhardware
      cases hhardware
    | none =>
      rw [hhardware] at h
      change r.software = _ at h
      rw [software_eq] at h
      split at h
      · rename_i htime
        cases h
        rw [lower_half]
        exact ⟨fun hne _ _ _ => hne, fun hdraws =>
          hdraws hopened (hardware_eq_none.mp hhardware) htime⟩
      · cases h
  · cases h

theorem drawsLower_of_none (h : r.random_uint64 = none) : r.DrawsLower := by
  intro hopened hnone htime
  rw [Random.random_uint64, if_pos hopened, hardware_eq_none.mpr hnone] at h
  change r.software = none at h
  rw [software_eq, if_pos htime] at h
  cases h

end Random

/-! ## Runs -/

/-- The id that a call is saving. -/
def Phase.saving : Phase → Option (BitVec 64)
  | .idle => none
  | .save32 id_64 => some id_64
  | .save64 id_64 _ => some id_64

/-- The ids that a run has made so far: those in the table, those of the calls that are saving one,
those of the managers and those that were returned.  The lower half of each is not 0, and is the
32-bit id beside it. -/
structure Nonzero (s : Calls) : Prop where
  stored32 : ∀ data, s.db.Stores PARAM_NAME_PSEUDO_CLIENT_ID data →
    ∃ id_32 : BitVec 32, data = leBytes 4 id_32.toNat ∧ id_32 ≠ 0
  stored64 : ∀ data, s.db.Stores PARAM_NAME_PSEUDO_CLIENT_ID_64BIT data →
    ∃ id_64 : BitVec 64, data = leBytes 8 id_64.toNat ∧ id_64.setWidth 32 ≠ 0#32
  saving : ∀ process id_64, (s.phase process).saving = some id_64 → id_64.setWidth 32 ≠ 0#32
  held : ∀ process, (s.mgr process).m_pseudo_client_id_exist = true →
    (s.mgr process).m_pseudo_client_id_32 = (s.mgr process).m_pseudo_client_id_64.setWidth 32 ∧
      (s.mgr process).m_pseudo_client_id_32 ≠ 0
  returned : ∀ r ∈ s.reports, r.id_32 = r.id_64.setWidth 32 ∧ r.id_32 ≠ 0

/-- The call has to make an id: the manager has none, and none is read. -/
def Makes (m : NvParamMgr) (q : Select) : Prop :=
  m.m_pseudo_client_id_exist = false ∧
    ¬ ((getNvDataBlob q 8).result = .noErr ∧ (getNvDataBlob q 8).data_len = 8)

/-- A call that has to make an id has good draws for it. -/
def DrawsWell (sq : Sqlite) (s : Calls) : CallEvent → Prop
  | .start process f random =>
    s.phase process = .idle →
      Makes (s.mgr process) (sq.select s.db f PARAM_NAME_PSEUDO_CLIENT_ID_64BIT) →
        random.DrawsLower
  | _ => True

section Runs

variable {sq : Sqlite} {s : Calls} {process : Nat}

theorem nonzero_init : Nonzero .init where
  stored32 := by
    rintro data ⟨row, hrow, -⟩
    exact absurd hrow List.not_mem_nil
  stored64 := by
    rintro data ⟨row, hrow, -⟩
    exact absurd hrow List.not_mem_nil
  saving := nofun
  held := fun process hexist => by simp [Calls.init, NvParamMgr.init] at hexist
  returned := fun _ hr => absurd hr List.not_mem_nil

theorem saving_update (h : Nonzero s) {phase : Phase}
    (hphase : ∀ id_64, phase.saving = some id_64 → id_64.setWidth 32 ≠ 0#32)
    (process' : Nat) (id_64 : BitVec 64)
    (hsaving : (Function.update s.phase process phase process').saving = some id_64) :
    id_64.setWidth 32 ≠ 0#32 := by
  by_cases hp : process' = process
  · rw [hp, Function.update_self] at hsaving
    exact hphase id_64 hsaving
  · rw [Function.update_of_ne hp] at hsaving
    exact h.saving process' id_64 hsaving

theorem held_update (h : Nonzero s) {m : NvParamMgr}
    (hm : m.m_pseudo_client_id_exist = true →
      m.m_pseudo_client_id_32 = m.m_pseudo_client_id_64.setWidth 32 ∧ m.m_pseudo_client_id_32 ≠ 0)
    (process' : Nat)
    (hexist : (Function.update s.mgr process m process').m_pseudo_client_id_exist = true) :
    (Function.update s.mgr process m process').m_pseudo_client_id_32 =
        (Function.update s.mgr process m process').m_pseudo_client_id_64.setWidth 32 ∧
      (Function.update s.mgr process m process').m_pseudo_client_id_32 ≠ 0 := by
  by_cases hp : process' = process
  · rw [hp, Function.update_self] at hexist ⊢
    exact hm hexist
  · rw [Function.update_of_ne hp] at hexist ⊢
    exact h.held process' hexist

/-- A call returns with ids that are like the others. -/
theorem nonzero_returns (h : Nonzero s) {ret_val : Int} {m : NvParamMgr}
    (hm : m.m_pseudo_client_id_exist = true ∨ ret_val = 0 →
      m.m_pseudo_client_id_32 = m.m_pseudo_client_id_64.setWidth 32 ∧
        m.m_pseudo_client_id_32 ≠ 0) : Nonzero (s.returns process ret_val m) where
  stored32 := h.stored32
  stored64 := h.stored64
  saving := saving_update h nofun
  held := held_update h fun hexist => hm (.inl hexist)
  returned := by
    intro r hr
    rcases mem_reports_returns.mp hr with hold | ⟨hret, rfl⟩
    · exact h.returned r hold
    · exact hm (.inr hret)

theorem beginCall_inr {m : NvParamMgr} {q : Select} {random : Random} {id_64 : BitVec 64}
    (h : beginCall m q random = .inr id_64) :
    Makes m q ∧ random.random_uint64 = some id_64 := by
  unfold beginCall at h
  split at h
  · cases h
  · rename_i hexist
    simp only at h
    split at h
    · cases h
    · rename_i hread
      split at h
      · cases h
      · rename_i hrandom
        cases h
        exact ⟨⟨Bool.eq_false_iff.mpr hexist, hread⟩, hrandom⟩

/-- A call that has to make an id and returns at once has got no value. -/
theorem beginCall_inl {m m' : NvParamMgr} {q : Select} {random : Random} {ret_val : Int}
    (hmakes : Makes m q) (h : beginCall m q random = .inl (ret_val, m')) :
    random.random_uint64 = none ∧ m' = m := by
  unfold beginCall at h
  rw [if_neg (by rw [hmakes.1]; exact Bool.false_ne_true)] at h
  simp only [if_neg hmakes.2] at h
  split at h
  · rename_i hrandom
    cases h
    exact ⟨hrandom, rfl⟩
  · cases h

theorem nonzero_made_iff (h : Nonzero s) {id_64 : BitVec 64} :
    Nonzero { s with phase := Function.update s.phase process (.save32 id_64) } ↔
      id_64.setWidth 32 ≠ 0#32 := by
  constructor
  · intro hmade
    refine hmade.saving process id_64 ?_
    change (Function.update s.phase process (.save32 id_64) process).saving = some id_64
    rw [Function.update_self]
    rfl
  · intro hne
    refine ⟨h.stored32, h.stored64, saving_update h fun id_64' heq => ?_, h.held, h.returned⟩
    cases heq
    exact hne

/-- A call begins well exactly if the draws are good where it has to make an id. -/
theorem nonzero_start_iff (h : Nonzero s) (f : Fault) (random : Random) :
    Nonzero (s.start sq process f random) ↔ DrawsWell sq s (.start process f random) := by
  unfold Calls.start DrawsWell
  by_cases hidle : s.phase process = .idle
  · rw [if_pos hidle]
    have hids : ∀ data, s.db.Stores PARAM_NAME_PSEUDO_CLIENT_ID_64BIT data →
        ∃ id_64 : BitVec 64, data = leBytes 8 id_64.toNat := by
      intro data hdata
      obtain ⟨id_64, hid, -⟩ := h.stored64 data hdata
      exact ⟨id_64, hid⟩
    rcases beginCall_cases sq (s.mgr process) s.db f random hids with
      ⟨hexist, hbegun⟩ | ⟨id_64, hid, hbegun⟩ | ⟨hexist, ret_val, hret, hbegun⟩ | ⟨id_64, hbegun⟩
    · rw [hbegun]
      refine iff_of_true (nonzero_returns h fun _ => h.held process hexist) fun _ hmakes => ?_
      rw [hmakes.1] at hexist
      cases hexist
    · rw [hbegun]
      obtain ⟨id_64', heq, hne⟩ := h.stored64 _ hid
      obtain rfl : id_64 = id_64' := leBytes_inj (by decide) heq
      refine iff_of_true (nonzero_returns h fun _ => ⟨rfl, hne⟩) fun _ hmakes => ?_
      obtain ⟨-, hm⟩ := beginCall_inl hmakes hbegun
      have hexist := hmakes.1
      rw [← hm] at hexist
      cases hexist
    · rw [hbegun]
      refine iff_of_true (nonzero_returns h fun hor => ?_) fun _ hmakes => ?_
      · rcases hor with htrue | hzero
        · rw [hexist] at htrue
          cases htrue
        · exact absurd hzero hret
      · exact Random.drawsLower_of_none (beginCall_inl hmakes hbegun).1
    · rw [hbegun]
      obtain ⟨hmakes, hrandom⟩ := beginCall_inr hbegun
      change Nonzero { s with phase := Function.update s.phase process (.save32 id_64) } ↔
        (s.phase process = .idle → _ → random.DrawsLower)
      rw [nonzero_made_iff h, Random.random_uint64_lower hrandom]
      exact ⟨fun hdraws _ _ => hdraws, fun hdraws => hdraws hidle hmakes⟩
  · rw [if_neg hidle]
    exact iff_of_true h fun hphase => absurd hphase hidle

theorem nonzero_save32 (h : Nonzero s) (f : Fault) : Nonzero (s.save32 sq process f) := by
  unfold Calls.save32
  split
  · rename_i id_64 hphase
    have hne := h.saving process id_64 (by rw [hphase]; rfl)
    refine ⟨?_, ?_, saving_update h fun id_64' heq => ?_, h.held, h.returned⟩
    · intro data hdata
      rcases saveId32_cases sq s f id_64 with ⟨-, -, hdb⟩ | ⟨-, -, hdb⟩
      · simp only [hdb] at hdata
        rcases stores_write_iff.mp hdata with ⟨-, rfl⟩ | ⟨-, hold⟩
        · exact ⟨id_64.setWidth 32, rfl, hne⟩
        · exact h.stored32 data hold
      · simp only [hdb] at hdata
        exact h.stored32 data hdata
    · intro data hdata
      rcases saveId32_cases sq s f id_64 with ⟨-, -, hdb⟩ | ⟨-, -, hdb⟩
      · simp only [hdb] at hdata
        rcases stores_write_iff.mp hdata with ⟨hname, -⟩ | ⟨-, hold⟩
        · exact absurd hname ids_ne
        · exact h.stored64 data hold
      · simp only [hdb] at hdata
        exact h.stored64 data hdata
    · cases heq
      exact hne
  · exact h

theorem nonzero_save64 (h : Nonzero s) (f : Fault) : Nonzero (s.save64 sq process f) := by
  unfold Calls.save64
  split
  · rename_i id_64 rc1 hphase
    have hne := h.saving process id_64 (by rw [hphase]; rfl)
    have hsaved : Nonzero { s with
        db := s.db.writeAll sq (saveId64 (s.saveEnv sq f) id_64).writes } := by
      refine ⟨?_, ?_, h.saving, h.held, h.returned⟩
      · intro data hdata
        rcases saveId64_cases sq s f id_64 with ⟨-, -, hdb⟩ | ⟨-, -, hdb⟩
        · simp only [hdb] at hdata
          rcases stores_write_iff.mp hdata with ⟨hname, -⟩ | ⟨-, hold⟩
          · exact absurd hname ids_ne.symm
          · exact h.stored32 data hold
        · simp only [hdb] at hdata
          exact h.stored32 data hdata
      · intro data hdata
        rcases saveId64_cases sq s f id_64 with ⟨-, -, hdb⟩ | ⟨-, -, hdb⟩
        · simp only [hdb] at hdata
          rcases stores_write_iff.mp hdata with ⟨-, rfl⟩ | ⟨-, hold⟩
          · exact ⟨id_64, rfl, hne⟩
          · exact h.stored64 data hold
        · simp only [hdb] at hdata
          exact h.stored64 data hdata
    simp only
    split
    · exact nonzero_returns hsaved fun _ => ⟨rfl, hne⟩
    · exact nonzero_returns hsaved fun _ => ⟨rfl, hne⟩
  · exact h

theorem nonzero_restart (h : Nonzero s) : Nonzero (s.restart process) where
  stored32 := h.stored32
  stored64 := h.stored64
  saving := saving_update h nofun
  held := held_update h nofun
  returned := h.returned

theorem nonzero_step_iff (h : Nonzero s) (ev : CallEvent) :
    Nonzero (callStep sq s ev) ↔ DrawsWell sq s ev := by
  cases ev with
  | start process f random => exact nonzero_start_iff h f random
  | save32 process f => exact iff_of_true (nonzero_save32 h f) trivial
  | save64 process f => exact iff_of_true (nonzero_save64 h f) trivial
  | restart process => exact iff_of_true (nonzero_restart h) trivial

end Runs

theorem mem_writes {e : Env} {name : Name} {data : List UInt8} {data_len : Nat} {w : Write}
    (hname : boundText name = name) (hlen : data.length = data_len)
    (hw : w ∈ (saveNvDataBlob e (some name) (some data) data_len).writes) : w = ⟨name, data⟩ := by
  rcases saveNvDataBlob_cases e name data data_len with ⟨-, hwrites⟩ | ⟨-, hwrites⟩
  · rw [hwrites, hname, ← hlen, List.take_length] at hw
    exact List.mem_singleton.mp hw
  · rw [hwrites] at hw
    cases hw

/-- What a call stores are the id that the manager has afterwards and its lower half. -/
theorem writes_halves (m : NvParamMgr) (e : Env) :
    ∀ w ∈ (generatePseudoClientIdIfNeeded m e).writes,
      w = ⟨PARAM_NAME_PSEUDO_CLIENT_ID, leBytes 4
          ((generatePseudoClientIdIfNeeded m e).mgr.m_pseudo_client_id_64.setWidth 32).toNat⟩ ∨
        w = ⟨PARAM_NAME_PSEUDO_CLIENT_ID_64BIT,
          leBytes 8 (generatePseudoClientIdIfNeeded m e).mgr.m_pseudo_client_id_64.toNat⟩ := by
  rw [generatePseudoClientIdIfNeeded_eq]
  cases beginCall m (e.select PARAM_NAME_PSEUDO_CLIENT_ID_64BIT) e.random with
  | inl returned => exact nofun
  | inr id_64 =>
    have hwrites : ∀ w ∈ (saveId32 e id_64).writes ++ (saveId64 e id_64).writes,
        w = ⟨PARAM_NAME_PSEUDO_CLIENT_ID, leBytes 4 (id_64.setWidth 32).toNat⟩ ∨
          w = ⟨PARAM_NAME_PSEUDO_CLIENT_ID_64BIT, leBytes 8 id_64.toNat⟩ := by
      intro w hw
      rcases List.mem_append.mp hw with h32 | h64
      · exact .inl (mem_writes (by decide) (by simp) h32)
      · exact .inr (mem_writes (by decide) (by simp) h64)
    simp only
    split <;> exact hwrites

/-- **The ids of a run are nonzero, and their halves agree, exactly if the draws of every call that
makes an id are good.**  A call stores an id and its lower half, and the loops stop at the first
value that they look for. -/
theorem pseudo_client_id_nonzero_iff (sq : Sqlite) (evs : List CallEvent) :
    (Throughout (callStep sq) Nonzero .init evs ↔ Meets (callStep sq) (DrawsWell sq) .init evs) ∧
      (∀ m e, ∀ w ∈ (generatePseudoClientIdIfNeeded m e).writes,
        w = ⟨PARAM_NAME_PSEUDO_CLIENT_ID, leBytes 4
            ((generatePseudoClientIdIfNeeded m e).mgr.m_pseudo_client_id_64.setWidth 32).toNat⟩ ∨
          w = ⟨PARAM_NAME_PSEUDO_CLIENT_ID_64BIT,
            leBytes 8 (generatePseudoClientIdIfNeeded m e).mgr.m_pseudo_client_id_64.toNat⟩) ∧
      ∀ random : Random,
        random.hardware = (random.hardwareLoop 5 0).2 ∧
          StopsAtFirst random.Suitable 0 5 (random.hardwareLoop 5 0).1 ∧
          StopsAtFirst (fun i => random.mrand48 i ≠ 0) 0 5 random.upperDraws := by
  refine ⟨?_, writes_halves, fun random => ⟨Random.hardwareLoop_eq.symm,
    Random.hardwareLoop_stops 5 0, Random.softwareLoop_stops 5 0 0⟩⟩
  exact EventRun.throughout_iff_meets (J := fun _ => True) (fun _ _ _ => trivial)
    (fun _ ev _ h => nonzero_step_iff h ev) trivial nonzero_init

/-- The device can be opened and gives nothing, the clock is set, and the second draw is 0. -/
def secondDrawZero : Random :=
  ⟨true, fun _ => none, 2000000000, fun i => if i = 1 then 0 else 1⟩

/-- The call returns 0, with an id whose lower half is 0. -/
theorem lower_half_zero :
    ¬ ∀ evs, Throughout (callStep sampleSqlite) Nonzero .init evs := by
  intro h
  have hcalled := (h [.start 0 .none secondDrawZero, .save32 0 .none, .save64 0 .none]).last
  have hreturned := hcalled.returned ⟨0#32, 1#64 <<< 32, true⟩ (by decide +kernel)
  exact hreturned.2 rfl

end NvParam
end LocationStack
