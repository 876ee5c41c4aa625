import Mathlib.Data.List.Basic

/-! # Loops with guards

Each step of a loop is defined only for some elements: an index has to be inside its array, a
shift inside its word.  The loop gives a result if the guard holds of each element, and it is then
the result of the loop without guards.
-/
namespace LocationStack
namespace Guarded

variable {σ ε : Type}

/-- A step has a guard: it is defined for the elements that are `Ok`, and is then `step`. -/
def HasGuard (f : σ → ε → Option σ) (Ok : ε → Prop) (step : σ → ε → σ) (e : ε) : Prop :=
  ∀ s t, f s e = some t ↔ Ok e ∧ step s e = t

variable {f : σ → ε → Option σ} {Ok : ε → Prop} {step : σ → ε → σ}

/-- **A loop with guards** is defined if they all hold. -/
theorem foldlM_eq_some_iff {l : List ε} (h : ∀ e ∈ l, HasGuard f Ok step e) (s t : σ) :
    l.foldlM f s = some t ↔ (∀ e ∈ l, Ok e) ∧ l.foldl step s = t := by
  induction l generalizing s with
  | nil => simp
  | cons e l ih =>
    rw [List.foldlM_cons, List.forall_mem_cons, List.foldl_cons, Option.bind_eq_bind,
      Option.bind_eq_some_iff]
    obtain ⟨hfirst, hrest⟩ := List.forall_mem_cons.mp h
    constructor
    · rintro ⟨u, hu, ht⟩
      obtain ⟨hok, rfl⟩ := (hfirst s u).mp hu
      obtain ⟨hall, heq⟩ := (ih hrest _).mp ht
      exact ⟨⟨hok, hall⟩, heq⟩
    · rintro ⟨⟨hok, hall⟩, heq⟩
      exact ⟨_, (hfirst s _).mpr ⟨hok, rfl⟩, (ih hrest _).mpr ⟨hall, heq⟩⟩

/-- **What a loop collects**: a part of the state that each step can only turn on is on at the end
if it was on, or some element turned it on. -/
theorem foldl_collects {obs : σ → Bool} {hits : ε → Bool} {l : List ε}
    (h : ∀ e ∈ l, ∀ s, obs (step s e) = (obs s || hits e)) (s : σ) :
    obs (l.foldl step s) = (obs s || l.any hits) := by
  induction l generalizing s with
  | nil => simp
  | cons e l ih =>
    obtain ⟨hfirst, hrest⟩ := List.forall_mem_cons.mp h
    rw [List.foldl_cons, ih hrest, hfirst, List.any_cons, Bool.or_assoc]

/-- A loop that tells its errors apart, with the errors left out. -/
theorem toOption_foldlM {κ : Type} (f : σ → ε → Except κ σ) (l : List ε) (s : σ) :
    (l.foldlM f s).toOption = l.foldlM (fun s e => (f s e).toOption) s := by
  induction l generalizing s with
  | nil => rfl
  | cons e l ih =>
    rw [List.foldlM_cons, List.foldlM_cons]
    cases hstep : f s e with
    | error _ => rfl
    | ok t => exact ih t

/-- An error that no step makes is not one of the loop. -/
theorem foldlM_ne_error {κ : Type} {f : σ → ε → Except κ σ} {k : κ}
    (h : ∀ s e, f s e ≠ .error k) (l : List ε) (s : σ) : l.foldlM f s ≠ .error k := by
  induction l generalizing s with
  | nil => exact nofun
  | cons e l ih =>
    rw [List.foldlM_cons]
    cases hstep : f s e with
    | error k' =>
      intro heq
      have hk : k' = k := Except.error.inj heq
      exact h s e (by rw [hstep, hk])
    | ok t => exact ih t

/-- The last step of a loop that has come so far. -/
theorem foldlM_concat_of_ok {κ : Type} {f : σ → ε → Except κ σ} {l : List ε} {s t : σ}
    (h : l.foldlM f s = .ok t) (e : ε) : (l ++ [e]).foldlM f s = f t e := by
  rw [List.foldlM_append, h]
  exact bind_pure (f t e)

/-- **A loop that cannot fail**: each step is defined where the invariant holds, and keeps it. -/
theorem exists_foldlM_ok {κ : Type} {f : σ → ε → Except κ σ} {Inv : σ → Prop}
    (h : ∀ s e, Inv s → ∃ t, f s e = .ok t ∧ Inv t) (l : List ε) {s : σ} (hs : Inv s) :
    ∃ t, l.foldlM f s = .ok t ∧ Inv t := by
  induction l generalizing s with
  | nil => exact ⟨s, rfl, hs⟩
  | cons e l ih =>
    obtain ⟨u, hstep, hu⟩ := h s e hs
    obtain ⟨t, hrest, ht⟩ := ih hu
    exact ⟨t, by rw [List.foldlM_cons, hstep]; exact hrest, ht⟩

end Guarded
end LocationStack
