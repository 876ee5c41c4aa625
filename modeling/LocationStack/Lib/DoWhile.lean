import Mathlib.Data.Nat.Notation

/-! # do … while

One pass of a loop changes a state and says whether there is another pass, or it fails.  The loop
is run with so much fuel, one unit a pass.  The rules are about an invariant of the states that a
pass begins with, and about what holds when there is no other pass: what every run that ends comes
to, when no run fails, and, with a variant, when there is a run that ends.
-/
namespace LocationStack
namespace DoWhile

variable {ε σ : Type} (pass : σ → Except ε (σ × Bool))

/-- `do s = pass(s); while (again);` -/
def loop : Nat → σ → Option (Except ε σ)
  | 0, _ => none
  | fuel + 1, s =>
    match pass s with
    | .error e => some (.error e)
    | .ok (t, true) => loop fuel t
    | .ok (t, false) => some (.ok t)

variable {pass} {Inv Post : σ → Prop} {s t : σ} {fuel : Nat}

/-- **What a run comes to**: the last pass begins with the invariant. -/
theorem post_of_loop
    (h : ∀ s t again, Inv s → pass s = .ok (t, again) →
      (again = true → Inv t) ∧ (again = false → Post t))
    (hs : Inv s) (hloop : loop pass fuel s = some (.ok t)) : Post t := by
  induction fuel generalizing s with
  | zero => cases hloop
  | succ fuel ih =>
    rw [loop] at hloop
    match hpass : pass s, hloop with
    | .ok (u, true), hloop => exact ih ((h s u true hs hpass).1 rfl) hloop
    | .ok (u, false), hloop =>
      cases hloop
      exact (h s t false hs hpass).2 rfl

/-- The same, where each pass is known to be made. -/
theorem post_of_passes
    (h : ∀ s, Inv s → ∃ t again, pass s = .ok (t, again) ∧
      (again = true → Inv t) ∧ (again = false → Post t))
    (hs : Inv s) (hloop : loop pass fuel s = some (.ok t)) : Post t := by
  refine post_of_loop (fun s t again hinv hpass => ?_) hs hloop
  obtain ⟨u, _, hmade, hrest⟩ := h s hinv
  rw [hmade] at hpass
  cases hpass
  exact hrest

/-- **No run fails** if no pass fails that begins with the invariant. -/
theorem loop_ne_error
    (h : ∀ s, Inv s → ∃ t again, pass s = .ok (t, again) ∧ (again = true → Inv t))
    (hs : Inv s) (e : ε) : loop pass fuel s ≠ some (.error e) := by
  induction fuel generalizing s with
  | zero => exact nofun
  | succ fuel ih =>
    obtain ⟨t, again, hpass, hnext⟩ := h s hs
    rw [loop, hpass]
    cases again with
    | true => exact ih (hnext rfl)
    | false => exact nofun

/-- **There is a run that ends** if each pass that is followed by another makes the variant less. -/
theorem exists_loop (variant : σ → Nat)
    (h : ∀ s, Inv s → ∃ t again, pass s = .ok (t, again) ∧
      (again = true → Inv t ∧ variant t < variant s) ∧ (again = false → Post t))
    (hs : Inv s) : ∃ fuel t, loop pass fuel s = some (.ok t) ∧ Post t := by
  induction hn : variant s using Nat.strongRecOn generalizing s with
  | ind n ih =>
    obtain ⟨t, again, hpass, hnext, hlast⟩ := h s hs
    cases again with
    | true =>
      obtain ⟨ht, hlt⟩ := hnext rfl
      obtain ⟨fuel, u, hloop, hu⟩ := ih (variant t) (hn ▸ hlt) ht rfl
      exact ⟨fuel + 1, u, by rw [loop, hpass]; exact hloop, hu⟩
    | false => exact ⟨1, t, by rw [loop, hpass], hlast rfl⟩

end DoWhile
end LocationStack
