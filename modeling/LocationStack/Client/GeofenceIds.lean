import LocationStack.Ipc.Messages
import Mathlib.Algebra.Group.Nat.Defs
import Mathlib.Data.List.Nodup

/-! # The ids of geofences

A geofence that is added for the first time gets a `GeofenceImpl`, whose constructor takes the next
id of a counter that all clients of the process share, under a lock.  The counter goes from 0 up;
the id that would be `0xFFFFFFFF` is 0 instead, and the counter is 0 then.  So the ids come round
again after `2 ^ 32 - 1` calls and not before, and the one at which they do is
`LOCATION_CLIENT_SESSION_ID_INVALID`.
-/
namespace LocationStack
namespace GeofenceIds

/-! ## The code -/

/-- `LOCATION_CLIENT_SESSION_ID_INVALID`. -/
def locationClientSessionIdInvalid : UInt32 := 0

/-- `GeofenceImpl::nextId`: the id, and `gfIdGenerator` afterwards. -/
def nextId (gfIdGenerator : UInt32) : UInt32 × UInt32 :=
  let gfIdGenerator := gfIdGenerator + 1
  let id := gfIdGenerator
  if 0xFFFFFFFF = id then (0, 0) else (id, gfIdGenerator)

/-- So many calls, one after the other: the ids, and the counter afterwards. -/
def calls : Nat → UInt32 → List UInt32 × UInt32
  | 0, gfIdGenerator => ([], gfIdGenerator)
  | n + 1, gfIdGenerator =>
    let first := nextId gfIdGenerator
    let rest := calls n first.2
    (first.1 :: rest.1, rest.2)

/-- The counter after so many calls from the start. -/
def counterAfter (k : Nat) : UInt32 := (calls k locationClientSessionIdInvalid).2

/-- `Geofence`, by the id of its `mGeofenceImpl`. -/
structure Geofence where
  mGeofenceImpl : Option UInt32

/-- The loop of `LocationClientApi::addGeofences` over the geofences of the application: the ids of
those to add, the geofences as they are bound then, and the counter. -/
def bindGeofences : List Geofence → UInt32 → List UInt32 × List Geofence × UInt32
  | [], gfIdGenerator => ([], [], gfIdGenerator)
  | geofence :: geofences, gfIdGenerator =>
    match geofence.mGeofenceImpl with
    | some _ =>
      let rest := bindGeofences geofences gfIdGenerator
      (rest.1, geofence :: rest.2.1, rest.2.2)
    | none =>
      let id := nextId gfIdGenerator
      let rest := bindGeofences geofences id.2
      (id.1 :: rest.1, ⟨some id.1⟩ :: rest.2.1, rest.2.2)

/-! ## The counter -/

/-- The ids before they come round again. -/
def period : Nat := 2 ^ 32 - 1

/-- A call counts modulo the period. -/
theorem nextId_toNat {gfIdGenerator : UInt32} (h : gfIdGenerator.toNat < period) :
    (nextId gfIdGenerator).1 = (nextId gfIdGenerator).2 ∧
      (nextId gfIdGenerator).2.toNat = (gfIdGenerator.toNat + 1) % period := by
  have hsum : (gfIdGenerator + 1).toNat = gfIdGenerator.toNat + 1 := by
    rw [UInt32.toNat_add, UInt32.toNat_one]
    unfold period at h
    omega
  unfold nextId
  simp only
  by_cases hlast : 0xFFFFFFFF = gfIdGenerator + 1
  · have hperiod : gfIdGenerator.toNat + 1 = period := by
      rw [← hsum, ← hlast]
      rfl
    rw [if_pos hlast, hperiod, Nat.mod_self]
    exact ⟨rfl, rfl⟩
  · have hlt : gfIdGenerator.toNat + 1 < period := by
      refine Nat.lt_of_le_of_ne h fun heq => hlast ?_
      apply UInt32.toNat_inj.mp
      rw [hsum, heq]
      rfl
    rw [if_neg hlast, Nat.mod_eq_of_lt hlt]
    exact ⟨rfl, hsum⟩

theorem counter_lt {n : Nat} {gfIdGenerator : UInt32} (h : gfIdGenerator.toNat < period) :
    (calls n gfIdGenerator).2.toNat = (gfIdGenerator.toNat + n) % period := by
  induction n generalizing gfIdGenerator with
  | zero => exact (Nat.mod_eq_of_lt h).symm
  | succ n ih =>
    obtain ⟨-, hnext⟩ := nextId_toNat h
    rw [calls, ih (by rw [hnext]; exact Nat.mod_lt _ (by decide)), hnext, Nat.mod_add_mod,
      Nat.add_right_comm, Nat.add_assoc]

/-- The ids of a sequence of calls, one by one. -/
theorem calls_getElem? {n i : Nat} {gfIdGenerator : UInt32} (h : gfIdGenerator.toNat < period)
    (hi : i < n) :
    ∃ id, (calls n gfIdGenerator).1[i]? = some id ∧
      id.toNat = (gfIdGenerator.toNat + (i + 1)) % period := by
  induction n generalizing gfIdGenerator i with
  | zero => cases hi
  | succ n ih =>
    obtain ⟨hid, hnext⟩ := nextId_toNat h
    cases i with
    | zero => exact ⟨_, rfl, by rw [hid, hnext]⟩
    | succ i =>
      have hlt : (nextId gfIdGenerator).2.toNat < period := by
        rw [hnext]
        exact Nat.mod_lt _ (by decide)
      obtain ⟨id, hget, hvalue⟩ := ih hlt (Nat.lt_of_succ_lt_succ hi)
      refine ⟨id, hget, ?_⟩
      rw [hvalue, hnext, Nat.mod_add_mod, Nat.add_assoc, Nat.add_comm 1]

theorem calls_length (n : Nat) (gfIdGenerator : UInt32) :
    (calls n gfIdGenerator).1.length = n := by
  induction n generalizing gfIdGenerator with
  | zero => rfl
  | succ n ih => exact congrArg (· + 1) (ih _)

/-- The counters that calls lead to are those before the period. -/
theorem counterAfter_lt (k : Nat) : (counterAfter k).toNat < period := by
  rw [counterAfter, counter_lt (by decide)]
  exact Nat.mod_lt _ (by decide)

/-! ## The ids -/

section Ids

variable {n : Nat} {gfIdGenerator : UInt32}

/-- Two calls that are less than the period apart get different ids. -/
theorem calls_distinct (h : gfIdGenerator.toNat < period) {i j : Nat} (hij : i < j) (hj : j < n)
    (hclose : j - i < period) :
    (calls n gfIdGenerator).1[i]? ≠ (calls n gfIdGenerator).1[j]? := by
  obtain ⟨id, hget, hid⟩ := calls_getElem? h (Nat.lt_trans hij hj)
  obtain ⟨id', hget', hid'⟩ := calls_getElem? h hj
  rw [hget, hget']
  intro heq
  rw [Option.some.inj heq, hid'] at hid
  unfold period at hid hclose
  omega

/-- None of the ids is the invalid one exactly if the counter stays below the period. -/
theorem calls_valid_iff (h : gfIdGenerator.toNat < period) :
    (∀ id ∈ (calls n gfIdGenerator).1, id ≠ locationClientSessionIdInvalid) ↔
      gfIdGenerator.toNat + n < period := by
  constructor
  · intro hvalid
    by_contra hge
    -- the call at which the counter comes to the period
    obtain ⟨id, hget, hid⟩ := calls_getElem? h
      (show period - gfIdGenerator.toNat - 1 < n by omega)
    refine hvalid id (List.mem_of_getElem? hget) (UInt32.toNat_inj.mp ?_)
    have hperiod : gfIdGenerator.toNat + (period - gfIdGenerator.toNat - 1 + 1) = period := by
      omega
    rw [hid, hperiod, Nat.mod_self]
    rfl
  · intro hlt id hmem heq
    obtain ⟨i, hi, hget⟩ := List.getElem_of_mem hmem
    rw [calls_length] at hi
    obtain ⟨id', hget', hid'⟩ := calls_getElem? h hi
    rw [List.getElem?_eq_getElem (by rwa [calls_length]), hget] at hget'
    rw [← Option.some.inj hget', heq, Nat.mod_eq_of_lt (by omega)] at hid'
    exact absurd hid' (by simp [locationClientSessionIdInvalid])

end Ids

/-- **From any counter that can be reached, the ids of any number of calls are valid and fresh
exactly if the counter does not come to the end meanwhile.**  Fresh they are in any case. -/
theorem nextId_valid_and_fresh_iff (k n : Nat) :
    (((∀ id ∈ (calls n (counterAfter k)).1, id ≠ locationClientSessionIdInvalid) ∧
        ∀ i j, i < j → j < n → j - i < 2 ^ 32 - 1 →
          (calls n (counterAfter k)).1[i]? ≠ (calls n (counterAfter k)).1[j]?) ↔
      (counterAfter k).toNat + n < 2 ^ 32 - 1) ∧
      ∀ i j, i < j → j < n → j - i < 2 ^ 32 - 1 →
        (calls n (counterAfter k)).1[i]? ≠ (calls n (counterAfter k)).1[j]? := by
  have hlt := counterAfter_lt k
  have hfresh : ∀ i j, i < j → j < n → j - i < 2 ^ 32 - 1 →
      (calls n (counterAfter k)).1[i]? ≠ (calls n (counterAfter k)).1[j]? :=
    fun i j hij hj hclose => calls_distinct hlt hij hj hclose
  refine ⟨⟨fun hvalid => (calls_valid_iff hlt).mp hvalid.1, fun hend => ⟨?_, hfresh⟩⟩, hfresh⟩
  exact (calls_valid_iff hlt).mpr hend

/-- The counter is one before its end after `0xFFFFFFFE` calls, and the next id is 0. -/
theorem nextId_invalid :
    ¬ ∀ k n, ∀ id ∈ (calls n (counterAfter k)).1, id ≠ locationClientSessionIdInvalid := by
  intro hvalid
  have hlast := (calls_valid_iff (n := 1) (counterAfter_lt 0xFFFFFFFE)).mp (hvalid 0xFFFFFFFE 1)
  rw [counterAfter, counter_lt (by decide)] at hlast
  exact absurd hlast (by decide)

/-! ## The application's call -/

/-- The geofences that get an id. -/
def unbound (geofences : List Geofence) : Nat :=
  geofences.countP fun geofence => geofence.mGeofenceImpl.isNone

theorem bindGeofences_calls (geofences : List Geofence) (gfIdGenerator : UInt32) :
    (bindGeofences geofences gfIdGenerator).1 = (calls (unbound geofences) gfIdGenerator).1 ∧
      (bindGeofences geofences gfIdGenerator).2.2 =
        (calls (unbound geofences) gfIdGenerator).2 := by
  induction geofences generalizing gfIdGenerator with
  | nil => exact ⟨rfl, rfl⟩
  | cons geofence geofences ih =>
    obtain ⟨_ | id⟩ := geofence
    · have hcount : unbound (⟨none⟩ :: geofences) = unbound geofences + 1 :=
        List.countP_cons_of_pos rfl
      obtain ⟨hids, hcounter⟩ := ih (nextId gfIdGenerator).2
      rw [hcount]
      exact ⟨congrArg (_ :: ·) hids, hcounter⟩
    · have hcount : unbound (⟨some id⟩ :: geofences) = unbound geofences :=
        List.countP_cons_of_neg (by simp)
      rw [hcount]
      exact ih gfIdGenerator

/-- **The geofences of one call** get ids that are valid and distinct, until the counter comes to
its end. -/
theorem bindGeofences_ids {geofences : List Geofence} {gfIdGenerator : UInt32}
    (h : gfIdGenerator.toNat + unbound geofences < period) :
    (bindGeofences geofences gfIdGenerator).1.Nodup ∧
      ∀ id ∈ (bindGeofences geofences gfIdGenerator).1, id ≠ locationClientSessionIdInvalid := by
  have hlt : gfIdGenerator.toNat < period := by omega
  rw [(bindGeofences_calls geofences gfIdGenerator).1]
  refine ⟨List.nodup_iff_getElem?_ne_getElem?.mpr fun i j hij hj => ?_,
    (calls_valid_iff hlt).mpr h⟩
  rw [calls_length] at hj
  exact calls_distinct hlt hij hj (by omega)

end GeofenceIds
end LocationStack
