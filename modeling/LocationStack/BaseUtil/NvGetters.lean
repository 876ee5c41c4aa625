import LocationStack.BaseUtil.NvParam

/-! # What a getter that fails leaves in the variable

`getNvDataBlob` is given the storage of the variable and copies a blob to it that is not longer.
The getter sees afterwards that a blob was shorter than the type, and fails with the copy made.
-/
namespace LocationStack
namespace NvParam

/-- The interface's promise: if the param can not be retrieved, the variable is not modified. -/
def Unmodified {α : Type} (param_value : α) (got : Got α) : Prop :=
  got.result ≠ .noErr → got.param_value = param_value

/-- The row's blob is not shorter than the variable, or its bytes are there already. -/
def NoShortBlob {n : Nat} (q : Select) (param_value : Vector UInt8 n) : Prop :=
  ∀ blob, q.blob = some blob → blob.length < n → blob = param_value.toList.take blob.length

/-- The condition of a getter: a pseudo client id and a buffer are only written on success. -/
def NoShortCopy (e : Env) (param_name : Name) : (k : Kind) → k.Var → Prop
  | .int32, param_value =>
    param_name = PARAM_NAME_PSEUDO_CLIENT_ID ∨ NoShortBlob (e.select param_name) param_value
  | .int64, param_value | .uint64, param_value =>
    param_name = PARAM_NAME_PSEUDO_CLIENT_ID_64BIT ∨
      NoShortBlob (e.select param_name) param_value
  | .bool, param_value => NoShortBlob (e.select param_name) param_value
  | .float, param_value | .uint32, param_value => NoShortBlob (e.select param_name) param_value
  | .string, _ | .blob, _ => True

section Number

variable {m : NvParamMgr} {e : Env} {param_name : Name} {n : Nat} {param_value : Vector UInt8 n}

theorem getNumber_of_none (h : (e.select param_name).blob = none) :
    Unmodified param_value (getNumber m e param_name param_value) := by
  obtain ⟨_, hcopied⟩ := getNvDataBlob_of_none n h
  intro _
  simp only [getNumber, hcopied]
  split <;> rfl

theorem getNumber_of_length (m : NvParamMgr) (param_value : Vector UInt8 n) {blob : List UInt8}
    (hn : n ≠ 0)
    (h : (e.select param_name).blob = some blob) (hlen : blob.length = n) :
    (getNumber m e param_name param_value).result = .noErr ∧
      (getNumber m e param_name param_value).param_value.toList = blob := by
  simp [getNumber, getNvDataBlob_of_some h, hn, hlen, toList_memcpy]

theorem getNumber_of_longer (m : NvParamMgr) (param_value : Vector UInt8 n) {blob : List UInt8}
    (hn : n ≠ 0)
    (h : (e.select param_name).blob = some blob) (hlen : n < blob.length) :
    (getNumber m e param_name param_value).param_value = param_value := by
  have hnot : ¬ blob.length ≤ n := Nat.not_le_of_lt hlen
  simp [getNumber, getNvDataBlob_of_some h, hn, hnot]

/-- The copy is made before the length is looked at. -/
theorem getNumber_of_shorter (m : NvParamMgr) (param_value : Vector UInt8 n) {blob : List UInt8}
    (hn : n ≠ 0)
    (h : (e.select param_name).blob = some blob) (hlen : blob.length < n) :
    (getNumber m e param_name param_value).result = .prramNotValid ∧
      (getNumber m e param_name param_value).param_value = memcpy param_value blob := by
  have hle : blob.length ≤ n := Nat.le_of_lt hlen
  have hne : blob.length ≠ n := Nat.ne_of_lt hlen
  simp [getNumber, getNvDataBlob_of_some h, hn, hle, hne]

theorem getNumber_unmodified_iff (hn : n ≠ 0) :
    Unmodified param_value (getNumber m e param_name param_value) ↔
      NoShortBlob (e.select param_name) param_value := by
  cases hblob : (e.select param_name).blob with
  | none =>
    constructor
    · intro _ blob hsome
      rw [hblob] at hsome
      contradiction
    · intro _
      exact getNumber_of_none hblob
  | some blob =>
    have hcondition : NoShortBlob (e.select param_name) param_value ↔
        (blob.length < n → blob = param_value.toList.take blob.length) := by
      simp [NoShortBlob, hblob]
    rw [hcondition]
    rcases Nat.lt_trichotomy blob.length n with hlt | heq | hgt
    · obtain ⟨hresult, hvalue⟩ := getNumber_of_shorter m param_value hn hblob hlt
      rw [Unmodified, hresult, hvalue, memcpy_eq_self_iff (Nat.le_of_lt hlt)]
      simp [hlt]
    · obtain ⟨hresult, _⟩ := getNumber_of_length m param_value hn hblob heq
      simp [Unmodified, hresult, heq]
    · have hvalue := getNumber_of_longer m param_value hn hblob hgt
      have hnot : ¬ blob.length < n := by omega
      simp [Unmodified, hvalue, hnot]

theorem getNumberOrId_unmodified_iff (hn : n ≠ 0) (idName : Name) (id : NvParamMgr → Nat) :
    Unmodified param_value (getNumberOrId m e param_name idName id param_value) ↔
      param_name = idName ∨ NoShortBlob (e.select param_name) param_value := by
  unfold getNumberOrId
  split
  · rename_i hname
    simp only [hname, true_or, iff_true]
    intro hresult
    split at hresult
    · exact absurd rfl hresult
    · rename_i hret
      rw [if_neg hret]
  · rename_i hname
    rw [getNumber_unmodified_iff hn]
    simp [hname]

end Number

theorem getBuffer_unmodified (m : NvParamMgr) (e : Env) (param_name : Name) (param_value : Buffer) :
    Unmodified param_value (getBuffer m e param_name param_value) := by
  intro hresult
  by_cases hread : (getNvDataBlob (e.select param_name) 0).result = .noErr
  · simp [getBuffer, hread] at hresult
  · simp [getBuffer, hread]

/-- **A getter that fails leaves the variable unmodified exactly where no shorter blob is
copied to it.** -/
theorem get_unmodified_iff (k : Kind) (m : NvParamMgr) (e : Env) (param_name : Name)
    (param_value : k.Var) :
    Unmodified param_value (get m e param_name k param_value) ↔
      NoShortCopy e param_name k param_value := by
  cases k with
  | int32 => exact getNumberOrId_unmodified_iff (by decide) _ _
  | int64 => exact getNumberOrId_unmodified_iff (by decide) _ _
  | uint64 => exact getNumberOrId_unmodified_iff (by decide) _ _
  | bool => exact getNumber_unmodified_iff (by decide)
  | float => exact getNumber_unmodified_iff (by decide)
  | uint32 => exact getNumber_unmodified_iff (by decide)
  | string => exact iff_of_true (getBuffer_unmodified m e param_name param_value) trivial
  | blob => exact iff_of_true (getBuffer_unmodified m e param_name param_value) trivial

/-- A database with one blob of two bytes under every name. -/
def shortBlobEnv : Env where
  select := fun _ => ⟨true, .ok, .row, some [1, 2], true⟩
  insert := fun _ _ => ⟨true, .ok, .ok, .ok, .done⟩
  random := ⟨false, fun _ => none, 0, fun _ => 0⟩

/-- Half of the `int` is overwritten and the getter fails. -/
theorem short_blob_copied :
    ¬ Unmodified (α := Vector UInt8 4) #v[9, 9, 9, 9]
      (get .init shortBlobEnv (cString "N") .int32 #v[9, 9, 9, 9]) := by
  intro h
  have hvalue := h (by decide)
  revert hvalue
  decide

end NvParam
end LocationStack
