import LocationStack.Lib.BitMask
import LocationStack.Lib.EventRun
import Mathlib.Data.List.Nodup
import Mathlib.Data.List.Perm.Subperm

/-! # Client ids on an external processor

A client object on an external processor takes an id from 1 to 32, under a lock, when it is
constructed, and gives it back when it is destroyed; a bit of `mClientIdGenerator` stands for
each id.  The loop that looks for a bit that is clear never turns to the next one: it finds the
id that comes next in turn, or none, however many are free.  An object that found none keeps
whatever its memory held for an id, and its destruction clears that bit.
-/
namespace LocationStack
namespace ClientIds

/-! ## The code -/

/-- A client object: its id, and whether the constructor found one.  `mClientId` has no
initializer. -/
structure Client where
  mClientId : BitVec 32
  allocated : Bool
  deriving DecidableEq

/-- The id that the constructor found. -/
def Client.id (c : Client) : Option (BitVec 32) := if c.allocated then some c.mClientId else none

structure State where
  mClientIdGenerator : BitVec 32
  mClientIdIndex : BitVec 32
  /-- The objects that were constructed and not destroyed. -/
  clients : List Client
  /-- A constructor found no id though fewer than 32 were in use. -/
  refused : Bool
  /-- A shift by the width of `unsigned long` or more. -/
  undefined : Bool

def State.init : State := ⟨0, 0, [], false, false⟩

/-- The index that is tried next. -/
def State.nextIndex (s : State) : BitVec 32 :=
  let mClientIdIndex := s.mClientIdIndex + 1
  if mClientIdIndex > 32 then 1 else mClientIdIndex

/-- `for (; loopCnt < sizeof(mClientIdGenerator) * 8; loopCnt++)`, with the number of rounds that
are left: `loopCnt` at its end, and the id that was found. -/
def findId (mClientIdGenerator mClientIdIndex : BitVec 32) :
    (loopCnt : Nat) → (left : Nat) → Nat × Option (BitVec 32)
  | loopCnt, 0 => (loopCnt, none)
  | loopCnt, left + 1 =>
    if mClientIdGenerator &&& (1#32 <<< (mClientIdIndex - 1).toNat) = 0 then
      (loopCnt, some mClientIdIndex)
    else findId mClientIdGenerator mClientIdIndex (loopCnt + 1) left

/-- The ids of the objects that found one. -/
def State.inUse (s : State) : List (BitVec 32) := s.clients.filterMap Client.id

/-- The constructor; `uninitialized` is what the memory of `mClientId` holds. -/
def State.construct (s : State) (uninitialized : BitVec 32) : State :=
  match (findId s.mClientIdGenerator s.nextIndex 0 32).2 with
  | some mClientId =>
    { s with
      mClientIdGenerator := s.mClientIdGenerator ||| (1#32 <<< (mClientId - 1).toNat)
      mClientIdIndex := s.nextIndex
      clients := s.clients ++ [⟨mClientId, true⟩] }
  | none =>
    { s with
      mClientIdIndex := s.nextIndex
      clients := s.clients ++ [⟨uninitialized, false⟩]
      refused := s.refused || decide (s.inUse.length < 32) }

/-- `DestroyReq` of one of the objects. -/
def State.destroy (s : State) (object : Nat) : State :=
  match s.clients[object]? with
  | none => s
  | some c =>
    if (c.mClientId - 1).toNat < 64 then
      { s with
        mClientIdGenerator := s.mClientIdGenerator &&& ~~~(1#32 <<< (c.mClientId - 1).toNat)
        clients := s.clients.eraseIdx object }
    else { s with undefined := true }

inductive Event
  | construct (uninitialized : BitVec 32)
  | destroy (object : Nat)

/-- After undefined behaviour nothing happens any more. -/
def step (s : State) (e : Event) : State :=
  if s.undefined then s
  else
    match e with
    | .construct uninitialized => s.construct uninitialized
    | .destroy object => s.destroy object

/-! ## Ids that are kept -/

/-- The mask is that of the ids in use, no two objects have the same one, and every constructor
found one that could have. -/
structure IdsSound (s : State) : Prop where
  mask : ∀ k, s.mClientIdGenerator.getLsbD k = true ↔ ∃ id ∈ s.inUse, id.toNat = k + 1
  distinct : s.inUse.Nodup
  served : s.refused = false
  defined : s.undefined = false

/-- A constructor finds the bit that is next in turn clear, or all bits set; a destructor gives
back an id that was taken, or touches a bit that is clear. -/
def IdsKept (s : State) (e : Event) : Prop :=
  match e with
  | .construct _ =>
    s.mClientIdGenerator.getLsbD (s.nextIndex - 1).toNat = false ∨
      s.mClientIdGenerator = BitVec.allOnes 32
  | .destroy object =>
    ∀ c, s.clients[object]? = some c → c.allocated = true ∨
      (c.mClientId - 1).toNat < 64 ∧
        s.mClientIdGenerator.getLsbD (c.mClientId - 1).toNat = false

/-- Whatever happens, the index and the ids stay in their range. -/
structure InRange (s : State) : Prop where
  index : s.mClientIdIndex.toNat ≤ 32
  ids : ∀ id ∈ s.inUse, 1 ≤ id.toNat ∧ id.toNat ≤ 32

/-! ## The search -/

theorem nextIndex_range {s : State} (h : s.mClientIdIndex.toNat ≤ 32) :
    1 ≤ s.nextIndex.toNat ∧ s.nextIndex.toNat ≤ 32 := by
  have hsucc : (s.mClientIdIndex + 1).toNat = s.mClientIdIndex.toNat + 1 := by
    have hone : (1 : BitVec 32).toNat = 1 := rfl
    rw [BitVec.toNat_add, hone]
    exact Nat.mod_eq_of_lt (by omega)
  simp only [State.nextIndex]
  split
  · exact ⟨by decide, by decide⟩
  · rename_i hle
    have : ¬ 32 < s.mClientIdIndex.toNat + 1 := by
      intro hlt
      exact hle (by rw [gt_iff_lt, BitVec.lt_def, hsucc]; exact hlt)
    omega

theorem toNat_sub_one {id : BitVec 32} (h : 1 ≤ id.toNat) : (id - 1).toNat = id.toNat - 1 := by
  have hlt := id.isLt
  have hone : (1 : BitVec 32).toNat = 1 := rfl
  rw [BitVec.toNat_sub, hone]
  omega

/-- The search ends, after 32 rounds at the latest. -/
theorem findId_rounds (mask index : BitVec 32) (loopCnt left : Nat) :
    (findId mask index loopCnt left).1 ≤ loopCnt + left := by
  induction left generalizing loopCnt with
  | zero => exact Nat.le_refl _
  | succ left ih =>
    rw [findId]
    split
    · exact Nat.le_add_right _ _
    · have := ih (loopCnt + 1)
      omega

/-- All its rounds look at the same bit. -/
theorem findId_eq (mask : BitVec 32) {index : BitVec 32} (hindex : (index - 1).toNat < 32)
    (loopCnt left : Nat) :
    (findId mask index loopCnt (left + 1)).2 =
      if mask.getLsbD (index - 1).toNat = false then some index else none := by
  have htest := BitMask.and_shiftLeft_eq_zero mask hindex
  induction left generalizing loopCnt with
  | zero =>
    rw [findId]
    split <;> simp_all [findId]
  | succ left ih =>
    rw [findId]
    split
    · simp_all
    · exact ih (loopCnt + 1)

/-! ## Which ids are in use -/

theorem inUse_append (clients : List Client) (c : Client) :
    (clients ++ [c]).filterMap Client.id =
      clients.filterMap Client.id ++ if c.allocated then [c.mClientId] else [] := by
  rw [List.filterMap_append]
  cases hc : c.allocated <;> simp [Client.id, hc]

/-- The ids from 1 to 32 are all in use exactly if the mask is full. -/
theorem full_iff {s : State} (h : IdsSound s) (hrange : InRange s) :
    s.mClientIdGenerator = BitVec.allOnes 32 ↔ 32 ≤ s.inUse.length := by
  have hnodup : (s.inUse.map BitVec.toNat).Nodup :=
    List.Nodup.map (fun _ _ heq => BitVec.eq_of_toNat_eq heq) h.distinct
  have hsub : s.inUse.map BitVec.toNat ⊆ List.range' 1 32 := by
    intro n hn
    obtain ⟨id, hid, rfl⟩ := List.mem_map.mp hn
    obtain ⟨hone, hle⟩ := hrange.ids id hid
    exact List.mem_range'_1.mpr ⟨hone, by omega⟩
  constructor
  · intro hfull
    have hall : List.range' 1 32 ⊆ s.inUse.map BitVec.toNat := by
      intro n hn
      obtain ⟨hone, hlt⟩ := List.mem_range'_1.mp hn
      have hbit : s.mClientIdGenerator.getLsbD (n - 1) = true := by
        rw [hfull, BitVec.getLsbD_allOnes]
        exact decide_eq_true (by omega)
      obtain ⟨id, hid, hn⟩ := (h.mask (n - 1)).mp hbit
      exact List.mem_map.mpr ⟨id, hid, by omega⟩
    have hnodup : (List.range' 1 32).Nodup := List.nodup_range'
    have hlength := (hnodup.subperm hall).length_le
    rwa [List.length_range', List.length_map] at hlength
  · intro hlength
    -- 32 distinct ids of that range are the whole range
    have hperm : (s.inUse.map BitVec.toNat).Perm (List.range' 1 32) :=
      (hnodup.subperm hsub).perm_of_length_le (by rwa [List.length_range', List.length_map])
    apply BitVec.eq_of_getLsbD_eq
    intro k hk
    rw [BitVec.getLsbD_allOnes, decide_eq_true hk]
    have hmem : k + 1 ∈ s.inUse.map BitVec.toNat :=
      hperm.mem_iff.mpr (List.mem_range'_1.mpr ⟨by omega, by omega⟩)
    obtain ⟨id, hid, heq⟩ := List.mem_map.mp hmem
    exact (h.mask k).mpr ⟨id, hid, heq⟩

/-! ## Steps -/

/-- The constructor finds the id that is next. -/
theorem construct_of_clear {s : State} (hindex : (s.nextIndex - 1).toNat < 32)
    (hclear : s.mClientIdGenerator.getLsbD (s.nextIndex - 1).toNat = false)
    (uninitialized : BitVec 32) :
    s.construct uninitialized =
      { s with
        mClientIdGenerator := s.mClientIdGenerator ||| (1#32 <<< (s.nextIndex - 1).toNat)
        mClientIdIndex := s.nextIndex
        clients := s.clients ++ [⟨s.nextIndex, true⟩] } := by
  rw [State.construct, findId_eq _ hindex 0 31, if_pos hclear]

/-- The id that is next is in use, and the constructor finds none. -/
theorem construct_of_set {s : State} (hindex : (s.nextIndex - 1).toNat < 32)
    (hset : ¬ s.mClientIdGenerator.getLsbD (s.nextIndex - 1).toNat = false)
    (uninitialized : BitVec 32) :
    s.construct uninitialized =
      { s with
        mClientIdIndex := s.nextIndex
        clients := s.clients ++ [⟨uninitialized, false⟩]
        refused := s.refused || decide (s.inUse.length < 32) } := by
  rw [State.construct, findId_eq _ hindex 0 31, if_neg hset]

theorem InRange.construct {s : State} (h : InRange s) (uninitialized : BitVec 32) :
    InRange (s.construct uninitialized) := by
  obtain ⟨hone, hle⟩ := nextIndex_range h.index
  have hindex : (s.nextIndex - 1).toNat < 32 := by
    rw [toNat_sub_one hone]
    omega
  by_cases hclear : s.mClientIdGenerator.getLsbD (s.nextIndex - 1).toNat = false
  · rw [construct_of_clear hindex hclear]
    refine ⟨hle, fun id hid => ?_⟩
    rw [State.inUse, inUse_append, if_pos rfl] at hid
    obtain hold | hnew := List.mem_append.mp hid
    · exact h.ids id hold
    · rw [List.mem_singleton.mp hnew]
      exact ⟨hone, hle⟩
  · rw [construct_of_set hindex hclear]
    refine ⟨hle, fun id hid => h.ids id ?_⟩
    rwa [State.inUse, inUse_append, if_neg Bool.false_ne_true, List.append_nil] at hid

/-- An object that is destroyed takes its id with it, if it has one. -/
theorem inUse_eraseIdx {s : State} {object : Nat} {c : Client} (h : s.clients[object]? = some c) :
    ∃ before after, s.inUse = before ++ (if c.allocated then [c.mClientId] else []) ++ after ∧
      (s.clients.eraseIdx object).filterMap Client.id = before ++ after := by
  obtain ⟨hlt, hc⟩ := List.getElem?_eq_some_iff.mp h
  refine ⟨(s.clients.take object).filterMap Client.id,
    (s.clients.drop (object + 1)).filterMap Client.id, ?_, ?_⟩
  · have hsplit : s.clients = (s.clients.take object ++ [c]) ++ s.clients.drop (object + 1) := by
      rw [← hc, List.take_append_getElem, List.take_append_drop]
    rw [State.inUse]
    conv_lhs => rw [hsplit]
    rw [List.filterMap_append, inUse_append]
  · rw [List.eraseIdx_eq_take_drop_succ, List.filterMap_append]

theorem InRange.destroy {s : State} (h : InRange s) (object : Nat) :
    InRange (s.destroy object) := by
  rw [State.destroy]
  split
  · exact h
  · rename_i c hc
    split
    · obtain ⟨before, after, hbefore, hafter⟩ := inUse_eraseIdx hc
      refine ⟨h.index, fun id hid => h.ids id ?_⟩
      rw [State.inUse, hafter] at hid
      rw [hbefore]
      obtain hold | hold := List.mem_append.mp hid
      · exact List.mem_append_left _ (List.mem_append_left _ hold)
      · exact List.mem_append_right _ hold
    · exact ⟨h.index, h.ids⟩

theorem InRange.step {s : State} (e : Event) (h : InRange s) : InRange (step s e) := by
  rw [ClientIds.step.eq_def]
  split
  · exact h
  · cases e with
    | construct uninitialized => exact h.construct uninitialized
    | destroy object => exact h.destroy object

/-- A constructor keeps the ids sound exactly if the next bit is clear, or all are set. -/
theorem construct_sound_iff {s : State} (hrange : InRange s) (h : IdsSound s)
    (uninitialized : BitVec 32) :
    IdsSound (s.construct uninitialized) ↔ IdsKept s (.construct uninitialized) := by
  obtain ⟨hone, hle⟩ := nextIndex_range hrange.index
  have hsub := toNat_sub_one hone
  have hindex : (s.nextIndex - 1).toNat < 32 := by omega
  rw [IdsKept]
  by_cases hclear : s.mClientIdGenerator.getLsbD (s.nextIndex - 1).toNat = false
  · rw [construct_of_clear hindex hclear]
    refine ⟨fun _ => Or.inl hclear, fun _ => ?_⟩
    -- nobody has the id that is next
    have hfree : ∀ id ∈ s.inUse, id ≠ s.nextIndex := by
      rintro id hid rfl
      have hbit := (h.mask (s.nextIndex - 1).toNat).mpr ⟨s.nextIndex, hid, by omega⟩
      rw [hclear] at hbit
      cases hbit
    refine ⟨fun k => ?_, ?_, h.served, h.defined⟩
    · simp only [BitMask.getLsbD_or_shiftLeft _ hindex, Bool.or_eq_true, decide_eq_true_eq,
        h.mask k, State.inUse, inUse_append, if_true, List.mem_append, List.mem_singleton]
      constructor
      · rintro (⟨id, hid, hk⟩ | hk)
        · exact ⟨id, Or.inl hid, hk⟩
        · exact ⟨s.nextIndex, Or.inr rfl, by omega⟩
      · rintro ⟨id, hid | rfl, hk⟩
        · exact Or.inl ⟨id, hid, hk⟩
        · exact Or.inr (by omega)
    · simp only [State.inUse, inUse_append, if_true]
      refine List.nodup_append.mpr ⟨h.distinct, List.nodup_singleton _, ?_⟩
      intro id hid id' hid'
      rw [List.mem_singleton.mp hid']
      exact hfree id hid
  · rw [construct_of_set hindex hclear]
    have hinUse : (s.clients ++ [Client.mk uninitialized false]).filterMap Client.id = s.inUse := by
      rw [inUse_append, if_neg Bool.false_ne_true, List.append_nil, State.inUse]
    have hfull := full_iff h hrange
    rw [hfull]
    constructor
    · intro hsound
      have hserved := hsound.served
      simp only [h.served, Bool.false_or, decide_eq_false_iff_not] at hserved
      exact Or.inr (by omega)
    · rintro (hclear' | hlength)
      · exact absurd hclear' hclear
      · refine ⟨?_, ?_, ?_, h.defined⟩
        · change ∀ k, s.mClientIdGenerator.getLsbD k = true ↔
            ∃ id ∈ (s.clients ++ [Client.mk uninitialized false]).filterMap Client.id,
              id.toNat = k + 1
          rw [hinUse]
          exact h.mask
        · change ((s.clients ++ [Client.mk uninitialized false]).filterMap Client.id).Nodup
          rw [hinUse]
          exact h.distinct
        · simp only [h.served, Bool.false_or, decide_eq_false_iff_not]
          omega

/-- A destructor keeps them sound exactly if it gives back what its constructor took, or does
no harm. -/
theorem destroy_sound_iff {s : State} (hrange : InRange s) (h : IdsSound s) (object : Nat) :
    IdsSound (s.destroy object) ↔ IdsKept s (.destroy object) := by
  rw [State.destroy, IdsKept]
  split
  · rename_i hnone
    simp only [hnone, reduceCtorEq, false_implies, implies_true, iff_true]
    exact h
  · rename_i c hc
    obtain ⟨before, after, hbefore, hafter⟩ := inUse_eraseIdx hc
    simp only [hc, Option.some.injEq, forall_eq']
    cases hallocated : c.allocated with
    | true =>
      rw [hallocated, if_pos rfl] at hbefore
      have hmem : c.mClientId ∈ s.inUse := by
        rw [hbefore]
        simp
      obtain ⟨hone, hle⟩ := hrange.ids _ hmem
      have hsub := toNat_sub_one hone
      rw [if_pos (by omega)]
      refine ⟨fun _ => Or.inl rfl, fun _ => ?_⟩
      have hnodup := h.distinct
      rw [hbefore, List.append_assoc, List.singleton_append, List.nodup_middle] at hnodup
      obtain ⟨hnot, hnodup⟩ := List.nodup_cons.mp hnodup
      have hothers : ∀ id, id ∈ before ++ after ↔ id ∈ s.inUse ∧ id ≠ c.mClientId := by
        intro id
        simp only [hbefore, List.mem_append, List.mem_singleton]
        constructor
        · rintro hid
          refine ⟨hid.imp_left Or.inl, ?_⟩
          rintro rfl
          exact hnot (List.mem_append.mpr hid)
        · rintro ⟨(hid | hid) | hid, hne⟩
          · exact Or.inl hid
          · exact absurd hid hne
          · exact Or.inr hid
      refine ⟨fun k => ?_, ?_, h.served, h.defined⟩
      · rw [State.inUse, hafter, BitMask.getLsbD_and_not_shiftLeft, Bool.and_eq_true, h.mask k,
          Bool.not_eq_true', decide_eq_false_iff_not]
        constructor
        · rintro ⟨⟨id, hid, hk⟩, hne⟩
          refine ⟨id, (hothers id).mpr ⟨hid, ?_⟩, hk⟩
          rintro rfl
          omega
        · rintro ⟨id, hid, hk⟩
          obtain ⟨hmem', hne⟩ := (hothers id).mp hid
          refine ⟨⟨id, hmem', hk⟩, fun heq => hne ?_⟩
          exact BitVec.eq_of_toNat_eq (by omega)
      · rw [State.inUse, hafter]
        exact hnodup
    | false =>
      rw [hallocated, if_neg Bool.false_ne_true, List.append_nil] at hbefore
      have hinUse : (s.clients.eraseIdx object).filterMap Client.id = s.inUse := by
        rw [hafter, hbefore]
      have hclears := BitMask.getLsbD_and_not_shiftLeft s.mClientIdGenerator
        (c.mClientId - 1).toNat
      simp only [reduceCtorEq, false_or]
      split
      · rename_i hshift
        constructor
        · intro hsound
          refine ⟨hshift, ?_⟩
          -- the id is not in use, for its bit is clear now
          have hmask := hsound.mask (c.mClientId - 1).toNat
          rw [State.inUse, hinUse, ← h.mask, hclears, decide_eq_true rfl, Bool.not_true,
            Bool.and_false] at hmask
          exact Bool.eq_false_iff.mpr fun htrue => Bool.false_ne_true (hmask.mpr htrue)
        · rintro ⟨_, hclear⟩
          refine ⟨fun k => ?_, ?_, h.served, h.defined⟩
          · rw [State.inUse, hinUse, ← h.mask, hclears]
            by_cases hk : k = (c.mClientId - 1).toNat
            · rw [hk, hclear]
              rfl
            · rw [decide_eq_false hk, Bool.not_false, Bool.and_true]
          · rw [State.inUse, hinUse]
            exact h.distinct
      · rename_i hshift
        constructor
        · intro hsound
          cases hsound.defined
        · rintro ⟨hlt, _⟩
          exact absurd hlt hshift

theorem step_sound_iff {s : State} (e : Event) (hrange : InRange s) (h : IdsSound s) :
    IdsSound (step s e) ↔ IdsKept s e := by
  rw [step.eq_def, h.defined, if_neg Bool.false_ne_true]
  cases e with
  | construct uninitialized => exact construct_sound_iff hrange h uninitialized
  | destroy object => exact destroy_sound_iff hrange h object

/-- **The search ends**, and the ids are sound throughout a run exactly if each constructor finds
the bit that is next in turn clear, or all bits set, and each destructor gives back an id that
was taken, or touches a bit that is clear. -/
theorem client_ids_sound_iff (es : List Event) :
    (∀ mask index : BitVec 32, (findId mask index 0 32).1 ≤ 32) ∧
      (EventRun.Throughout step IdsSound State.init es ↔
        EventRun.Meets step IdsKept State.init es) := by
  refine ⟨fun mask index => findId_rounds mask index 0 32, ?_⟩
  have hrange : InRange State.init := ⟨by decide, nofun⟩
  have hsound : IdsSound State.init :=
    ⟨fun k => ⟨fun h => by simp [State.init] at h, nofun⟩, List.nodup_nil, rfl, rfl⟩
  exact EventRun.throughout_iff_meets (fun _ => InRange.step)
    (fun _ => step_sound_iff) hrange hsound

/-- **An id that is in use blocks the others.**  One object stays, the others come and go; when
the turn is on the id of the first again, the constructor finds none, with 31 of 32 free. -/
theorem client_id_refused :
    ¬ EventRun.Throughout step IdsSound State.init
      (.construct 0 :: (List.replicate 31 [.construct 0, .destroy 1]).flatten ++
        [.construct 0]) := by
  intro h
  exact absurd h.last.served (by decide +kernel)

end ClientIds
end LocationStack
