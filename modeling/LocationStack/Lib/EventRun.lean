import Mathlib.Data.List.Infix

/-! # Runs of an event-driven machine

A machine is a total step function `step : σ → ε → σ`; an event that is not
enabled in a state leaves the state as it is.  A run is a finite list of events,
so the reachable states are the values of `run`, and a property of every
interleaving is a property of every event list.

Three questions are asked of a run.  Does a property hold in every state it goes
through (`Throughout`)?  Does every step it takes meet a condition on the state
before it and the event (`Meets`)?  And when does the second decide the first
(`throughout_of_meets`, `throughout_iff_meets`)?
-/
namespace LocationStack
namespace EventRun

variable {σ ε : Type} (step : σ → ε → σ)

/-- The state a list of events leads to. -/
def run (s : σ) (es : List ε) : σ := es.foldl step s

/-- `P` holds in every state of the run, the first and the last included. -/
def Throughout (P : σ → Prop) : σ → List ε → Prop
  | s, [] => P s
  | s, e :: es => P s ∧ Throughout P (step s e) es

/-- Every step of the run is taken from a state, and by an event, that meet `C`. -/
def Meets (C : σ → ε → Prop) : σ → List ε → Prop
  | _, [] => True
  | s, e :: es => C s e ∧ Meets C (step s e) es

instance decThroughout (P : σ → Prop) [DecidablePred P] :
    ∀ s es, Decidable (Throughout step P s es)
  | s, [] => inferInstanceAs (Decidable (P s))
  | s, e :: es =>
      have := decThroughout P (step s e) es
      inferInstanceAs (Decidable (P s ∧ Throughout step P (step s e) es))

instance decMeets (C : σ → ε → Prop) [∀ s e, Decidable (C s e)] :
    ∀ s es, Decidable (Meets step C s es)
  | _, [] => inferInstanceAs (Decidable True)
  | s, e :: es =>
      have := decMeets C (step s e) es
      inferInstanceAs (Decidable (C s e ∧ Meets step C (step s e) es))

@[simp] theorem run_nil (s : σ) : run step s [] = s := rfl

@[simp] theorem run_cons (s : σ) (e : ε) (es : List ε) :
    run step s (e :: es) = run step (step s e) es := rfl

theorem run_append (s : σ) (es fs : List ε) :
    run step s (es ++ fs) = run step (run step s es) fs :=
  List.foldl_append

variable {step}

/-! ## Invariants -/

/-- A property that every step preserves holds after every run. -/
theorem invariant {I : σ → Prop} (hstep : ∀ s e, I s → I (step s e)) {s : σ} (hs : I s)
    (es : List ε) : I (run step s es) := by
  induction es generalizing s with
  | nil => exact hs
  | cons e es ih => exact ih (hstep s e hs)

theorem Throughout.head {P : σ → Prop} {s : σ} {es : List ε} (h : Throughout step P s es) :
    P s := by
  cases es with
  | nil => exact h
  | cons e es => exact h.1

/-- `Throughout` is the property at every prefix of the run. -/
theorem throughout_iff_run {P : σ → Prop} {s : σ} {es : List ε} :
    Throughout step P s es ↔ ∀ pre, pre <+: es → P (run step s pre) := by
  induction es generalizing s with
  | nil =>
    constructor
    · intro h pre hpre
      rw [List.prefix_nil.mp hpre]
      exact h
    · intro h
      exact h [] (List.prefix_refl [])
  | cons e es ih =>
    constructor
    · rintro ⟨hs, hrest⟩ pre hpre
      cases pre with
      | nil => exact hs
      | cons f pre =>
        obtain ⟨rfl, hpre'⟩ := List.cons_prefix_cons.mp hpre
        exact ih.mp hrest pre hpre'
    · intro h
      refine ⟨h [] (List.nil_prefix), ih.mpr ?_⟩
      intro pre hpre
      exact h (e :: pre) (List.cons_prefix_cons.mpr ⟨rfl, hpre⟩)

theorem Throughout.imp {P Q : σ → Prop} (hPQ : ∀ s, P s → Q s) {s : σ} {es : List ε}
    (h : Throughout step P s es) : Throughout step Q s es :=
  throughout_iff_run.mpr fun pre hpre => hPQ _ (throughout_iff_run.mp h pre hpre)

theorem Throughout.last {P : σ → Prop} {s : σ} {es : List ε} (h : Throughout step P s es) :
    P (run step s es) :=
  throughout_iff_run.mp h es (List.prefix_refl es)

/-- An unconditional invariant holds throughout. -/
theorem throughout_of_invariant {I : σ → Prop} (hstep : ∀ s e, I s → I (step s e)) {s : σ}
    {es : List ε} (hs : I s) : Throughout step I s es :=
  throughout_iff_run.mpr fun pre _ => invariant hstep hs pre

/-! ## Conditional invariants -/

theorem Meets.imp {C D : σ → ε → Prop} (hCD : ∀ s e, C s e → D s e) {s : σ} {es : List ε}
    (h : Meets step C s es) : Meets step D s es := by
  induction es generalizing s with
  | nil => trivial
  | cons e es ih => exact ⟨hCD s e h.1, ih h.2⟩

/-- A condition on the events alone. -/
theorem Meets.of_forall {C : ε → Prop} {s : σ} {es : List ε} (h : ∀ e ∈ es, C e) :
    Meets step (fun _ e => C e) s es := by
  induction es generalizing s with
  | nil => trivial
  | cons e es ih =>
    exact ⟨h e List.mem_cons_self, ih fun e' he' => h e' (List.mem_cons_of_mem _ he')⟩

theorem Meets.and {C D : σ → ε → Prop} {s : σ} {es : List ε} (hC : Meets step C s es)
    (hD : Meets step D s es) : Meets step (fun s e => C s e ∧ D s e) s es := by
  induction es generalizing s with
  | nil => trivial
  | cons e es ih => exact ⟨⟨hC.1, hD.1⟩, ih hC.2 hD.2⟩

/-- Two conditions that agree wherever an invariant holds. -/
theorem Meets.congr {J : σ → Prop} {C D : σ → ε → Prop} (hJ : ∀ s e, J s → J (step s e))
    (hiff : ∀ s e, J s → (C s e ↔ D s e)) {s : σ} {es : List ε} (hs : J s) :
    Meets step C s es ↔ Meets step D s es := by
  induction es generalizing s with
  | nil => exact Iff.rfl
  | cons e es ih => exact and_congr (hiff s e hs) (ih (hJ s e hs))

/-- What an invariant says about every step. -/
theorem Throughout.meets {I : σ → Prop} {C : σ → ε → Prop} (h : ∀ s e, I s → C s e) {s : σ}
    {es : List ε} (hI : Throughout step I s es) : Meets step C s es := by
  induction es generalizing s with
  | nil => trivial
  | cons e es ih => exact ⟨h s e hI.1, ih hI.2⟩

/-- **Conditional invariance.**  What the steps meeting `C` preserve holds in every
state of a run whose steps all meet `C`. -/
theorem throughout_of_meets {I : σ → Prop} {C : σ → ε → Prop}
    (hstep : ∀ s e, I s → C s e → I (step s e)) {s : σ} {es : List ε} (hs : I s)
    (hC : Meets step C s es) : Throughout step I s es := by
  induction es generalizing s with
  | nil => exact hs
  | cons e es ih => exact ⟨hs, ih (hstep s e hs hC.1) hC.2⟩

/-- **Exact conditions.**  Where `J` always holds and, in states with `J` and `P`, the
next state has `P` exactly when the step meets `C`, a run keeps `P` throughout exactly
when all its steps meet `C`. -/
theorem throughout_iff_meets {J P : σ → Prop} {C : σ → ε → Prop}
    (hJ : ∀ s e, J s → J (step s e))
    (hexact : ∀ s e, J s → P s → (P (step s e) ↔ C s e)) {s : σ} {es : List ε}
    (hs : J s) (hP : P s) : Throughout step P s es ↔ Meets step C s es := by
  induction es generalizing s with
  | nil => exact ⟨fun _ => trivial, fun _ => hP⟩
  | cons e es ih =>
    constructor
    · rintro ⟨_, hrest⟩
      have hP' : P (step s e) := hrest.head
      exact ⟨(hexact s e hs hP).mp hP', (ih (hJ s e hs) hP').mp hrest⟩
    · rintro ⟨hC, hrest⟩
      have hP' : P (step s e) := (hexact s e hs hP).mpr hC
      exact ⟨hP, (ih (hJ s e hs) hP').mpr hrest⟩

/-- The same where the invariant needs `C` as well: it is enough that a step to a state with `P`
meets `C`. -/
theorem throughout_iff_meets_of_step {I P : σ → Prop} {C : σ → ε → Prop}
    (hP : ∀ s, I s → P s) (hstep : ∀ s e, I s → C s e → I (step s e))
    (hexact : ∀ s e, I s → P (step s e) → C s e) {s : σ} {es : List ε} (hs : I s) :
    Throughout step P s es ↔ Meets step C s es := by
  constructor
  · induction es generalizing s with
    | nil => exact fun _ => trivial
    | cons e es ih =>
      rintro ⟨_, hrest⟩
      have hC := hexact s e hs hrest.head
      exact ⟨hC, ih (hstep s e hs hC) hrest⟩
  · exact fun hC => (throughout_of_meets hstep hs hC).imp hP

end EventRun
end LocationStack
