import Mathlib.Data.List.Nodup
import Mathlib.Data.List.Count

/-! # Counts by key

Elements that wait are often remembered by a count for each key only.  The counts tell the elements
up to their order and up to what the key does not show: to do something for each key as often as
it is counted is to do it for each element (`flatMap_replicate_perm`).
-/
namespace LocationStack
namespace KeyCount

variable {α β κ : Type} [DecidableEq κ]

/-- The elements sorted by their keys are the same elements. -/
theorem flatMap_filter_perm (key : α → κ) {keys : List κ} (hkeys : keys.Nodup) {l : List α}
    (hl : ∀ a ∈ l, key a ∈ keys) :
    (keys.flatMap fun k => l.filter fun a => key a = k).Perm l := by
  induction keys generalizing l with
  | nil =>
    rw [List.eq_nil_iff_forall_not_mem.mpr fun a ha => List.not_mem_nil (hl a ha)]
    exact List.Perm.refl _
  | cons k keys ih =>
    obtain ⟨hk, hrest⟩ := List.nodup_cons.mp hkeys
    have hothers : (keys.flatMap fun k' => l.filter fun a => key a = k') =
        keys.flatMap fun k' => (l.filter fun a => !decide (key a = k)).filter
          fun a => key a = k' := by
      refine List.flatMap_congr fun k' hk' => ?_
      rw [List.filter_filter]
      refine List.filter_congr fun a _ => ?_
      by_cases ha : key a = k'
      · have hne : key a ≠ k := fun heq => hk ((heq ▸ ha) ▸ hk')
        simp [ha, ha ▸ hne]
      · simp [ha]
    rw [List.flatMap_cons, hothers]
    have hleft : ∀ a ∈ l.filter (fun a => !decide (key a = k)), key a ∈ keys := by
      intro a ha
      obtain ⟨hal, hne⟩ := List.mem_filter.mp ha
      exact (List.mem_cons.mp (hl a hal)).resolve_left (by simpa using hne)
    exact ((ih hrest hleft).append_left _).trans (List.filter_append_perm _ _)

/-- **Each key as often as it is counted** is each element once. -/
theorem flatMap_replicate_perm (key : α → κ) (g : κ → β) {keys : List κ} (hkeys : keys.Nodup)
    {l : List α} (hl : ∀ a ∈ l, key a ∈ keys) :
    (keys.flatMap fun k => List.replicate (l.countP fun a => key a = k) (g k)).Perm
      (l.map fun a => g (key a)) := by
  have hsame : (keys.flatMap fun k => List.replicate (l.countP fun a => key a = k) (g k)) =
      (keys.flatMap fun k => l.filter fun a => key a = k).map fun a => g (key a) := by
    rw [List.map_flatMap]
    refine List.flatMap_congr fun k _ => ?_
    refine (List.eq_replicate_iff.mpr ⟨?_, fun b hb => ?_⟩).symm
    · rw [List.length_map, List.countP_eq_length_filter]
    · obtain ⟨a, ha, rfl⟩ := List.mem_map.mp hb
      rw [of_decide_eq_true (List.mem_filter.mp ha).2]
  rw [hsame]
  exact (flatMap_filter_perm key hkeys hl).map _

end KeyCount
end LocationStack
