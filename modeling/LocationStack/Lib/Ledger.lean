import Mathlib.Data.List.Nodup

/-! # Numbered requests

Requests get consecutive numbers.  A request waits under a key until it is answered, replaced or
withdrawn; `pending` tells the number of the request that waits under a key, `answers` the
numbers that were answered so far, and `next` the number of the next request.  A `Ledger` has
given every number that occurs, no two keys the same one, and has answered none twice or while
it waits.  The lemmas say how the three change together.
-/
namespace LocationStack

variable {κ : Type}

/-- The requests that wait, and the answers. -/
structure Ledger (pending : κ → Option Nat) (answers : List Nat) (next : Nat) : Prop where
  fresh : ∀ {k r}, pending k = some r → r < next ∧ r ∉ answers
  distinct : ∀ {k k' r}, pending k = some r → pending k' = some r → k = k'
  lt : ∀ {r}, r ∈ answers → r < next
  nodup : answers.Nodup

namespace Ledger

variable {pending pending' : κ → Option Nat} {answers : List Nat} {next : Nat}

theorem empty : Ledger (fun _ : κ => none) [] 0 :=
  ⟨nofun, nofun, nofun, List.nodup_nil⟩

/-- A new request takes its key over from an old one. -/
theorem issue (h : Ledger pending answers next) {k₀ : κ} (hnew : pending' k₀ = some next)
    (hold : ∀ k, k ≠ k₀ → pending' k = pending k) : Ledger pending' answers (next + 1) := by
  have hcases : ∀ {k r}, pending' k = some r → k = k₀ ∧ r = next ∨ pending k = some r := by
    intro k r hk
    by_cases heq : k = k₀
    · subst heq
      exact Or.inl ⟨rfl, (Option.some.inj (hnew.symm.trans hk)).symm⟩
    · rw [hold k heq] at hk
      exact Or.inr hk
  constructor
  · intro k r hk
    obtain ⟨_, rfl⟩ | hk := hcases hk
    · refine ⟨Nat.lt_succ_self _, fun hmem => ?_⟩
      exact Nat.lt_irrefl _ (h.lt hmem)
    · obtain ⟨hlt, hnot⟩ := h.fresh hk
      exact ⟨by omega, hnot⟩
  · intro k k' r hk hk'
    obtain ⟨rfl, hr⟩ | hk := hcases hk <;> obtain ⟨rfl, hr'⟩ | hk' := hcases hk'
    · rfl
    · have := (h.fresh hk').1
      omega
    · have := (h.fresh hk).1
      omega
    · exact h.distinct hk hk'
  · intro r hr
    have := h.lt hr
    omega
  · exact h.nodup

/-- A number is given to a request that never waits. -/
theorem skip (h : Ledger pending answers next) : Ledger pending answers (next + 1) := by
  refine ⟨fun hk => ?_, h.distinct, fun hr => ?_, h.nodup⟩
  · obtain ⟨hlt, hnot⟩ := h.fresh hk
    exact ⟨by omega, hnot⟩
  · have := h.lt hr
    omega

/-- Such a request is answered at once. -/
theorem refuse (h : Ledger pending answers next) :
    Ledger pending (answers ++ [next]) (next + 1) := by
  have hnew : next ∉ answers := fun hmem => Nat.lt_irrefl _ (h.lt hmem)
  refine ⟨fun hk => ?_, h.distinct, fun hr => ?_, ?_⟩
  · obtain ⟨hlt, hnot⟩ := h.fresh hk
    refine ⟨by omega, fun hmem => ?_⟩
    obtain hold | hlast := List.mem_append.mp hmem
    · exact hnot hold
    · have := List.mem_singleton.mp hlast
      omega
  · obtain hold | hlast := List.mem_append.mp hr
    · have := h.lt hold
      omega
    · have := List.mem_singleton.mp hlast
      omega
  · refine List.nodup_append.mpr ⟨h.nodup, List.nodup_singleton _, ?_⟩
    intro r hr r' hr' heq
    obtain rfl := List.mem_singleton.mp hr'
    exact hnew (heq ▸ hr)

/-- **Requests that are answered** wait no more. -/
theorem answer (h : Ledger pending answers next) {rs : List Nat} (hrs : rs.Nodup)
    (hsub : ∀ k r, pending' k = some r → pending k = some r)
    (hgone : ∀ r ∈ rs, ∃ k, pending k = some r ∧ pending' k = none) :
    Ledger pending' (answers ++ rs) next := by
  constructor
  · intro k r hk
    obtain ⟨hlt, hnot⟩ := h.fresh (hsub k r hk)
    refine ⟨hlt, fun hmem => (List.mem_append.mp hmem).elim hnot fun hmem => ?_⟩
    -- the key of an answered request is free
    obtain ⟨k', hk', hnone⟩ := hgone r hmem
    obtain rfl := h.distinct (hsub k r hk) hk'
    rw [hnone] at hk
    cases hk
  · exact fun hk hk' => h.distinct (hsub _ _ hk) (hsub _ _ hk')
  · intro r hr
    obtain hold | hnew := List.mem_append.mp hr
    · exact h.lt hold
    · obtain ⟨k, hk, _⟩ := hgone r hnew
      exact (h.fresh hk).1
  · refine List.nodup_append.mpr ⟨h.nodup, hrs, ?_⟩
    rintro r hr _ hr' rfl
    obtain ⟨k, hk, _⟩ := hgone r hr'
    exact (h.fresh hk).2 hr

end Ledger
end LocationStack
