import Mathlib.Logic.Function.Basic
import Mathlib.Data.List.Basic

/-!
Finite runs of a deterministic labelled system. A run takes the steps of a list in
order; a property of runs is either an invariant of every state they visit or a
condition on every pair of a state and the step taken in it. History variables are
carried by a product system whose first component is the run itself.
-/
namespace GMediaRender.Runs

variable {σ ε γ : Type*} (step : σ → ε → σ)

/-- The state reached from `s` by taking the steps of a list in order. -/
def run (s : σ) (es : List ε) : σ := es.foldl step s

@[simp] theorem run_nil (s : σ) : run step s [] = s := rfl

@[simp] theorem run_cons (s : σ) (e : ε) (es : List ε) :
    run step s (e :: es) = run step (step s e) es := rfl

@[simp] theorem run_append (s : σ) (es fs : List ε) :
    run step s (es ++ fs) = run step (run step s es) fs := List.foldl_append

/-- A map that the steps of a run commute with can be applied before the run. -/
theorem run_map {τ : Type*} {step' : τ → ε → τ} (g : σ → τ) {es : List ε}
    (h : ∀ s, ∀ e ∈ es, g (step s e) = step' (g s) e) (s : σ) :
    g (run step s es) = run step' (g s) es := by
  induction es generalizing s with
  | nil => rfl
  | cons e es ih =>
    rw [run_cons, run_cons, ih (fun s e he => h s e (List.mem_cons_of_mem _ he)),
      h s e List.mem_cons_self]

/-- Every step of the run meets `P` in the state it is taken in. -/
def AllSteps (P : σ → ε → Prop) : σ → List ε → Prop
  | _, [] => True
  | s, e :: es => P s e ∧ AllSteps P (step s e) es

variable {P Q : σ → ε → Prop} {I : σ → Prop}

@[simp] theorem allSteps_nil (s : σ) : AllSteps step P s [] := trivial

@[simp] theorem allSteps_cons (s : σ) (e : ε) (es : List ε) :
    AllSteps step P s (e :: es) ↔ P s e ∧ AllSteps step P (step s e) es := Iff.rfl

instance decidableAllSteps [∀ s e, Decidable (P s e)] (s : σ) (es : List ε) :
    Decidable (AllSteps step P s es) :=
  match es with
  | [] => isTrue trivial
  | e :: es =>
    have := decidableAllSteps (step s e) es
    inferInstanceAs (Decidable (P s e ∧ AllSteps step P (step s e) es))

theorem allSteps_mono (hPQ : ∀ s e, P s e → Q s e) {s : σ} {es : List ε}
    (h : AllSteps step P s es) : AllSteps step Q s es := by
  induction es generalizing s with
  | nil => trivial
  | cons e es ih => exact ⟨hPQ s e h.1, ih h.2⟩

/-- What every step preserves holds at the end of every run. -/
theorem run_invariant (hstep : ∀ s e, I s → I (step s e)) {s : σ} (hs : I s) (es : List ε) :
    I (run step s es) := by
  induction es generalizing s with
  | nil => exact hs
  | cons e es ih => exact ih (hstep s e hs)

/-- What the steps that meet `P` preserve holds at the end of every run of such steps. -/
theorem run_invariant_of_allSteps (hstep : ∀ s e, I s → P s e → I (step s e)) {s : σ} (hs : I s)
    {es : List ε} (h : AllSteps step P s es) : I (run step s es) := by
  induction es generalizing s with
  | nil => exact hs
  | cons e es ih => exact ih (hstep s e hs h.1) h.2

/-- Steps that meet `P` where an invariant holds, and keep it, meet `Q` throughout the run. -/
theorem allSteps_of_allSteps (hstep : ∀ s e, I s → P s e → Q s e ∧ I (step s e)) {s : σ}
    (hs : I s) {es : List ε} (h : AllSteps step P s es) : AllSteps step Q s es := by
  induction es generalizing s with
  | nil => trivial
  | cons e es ih =>
    obtain ⟨hQ, hI⟩ := hstep s e hs h.1
    exact ⟨hQ, ih hI h.2⟩

/-- Steps that the invariant allows meet `P` throughout the run. -/
theorem allSteps_of_labels {R : ε → Prop} (hstep : ∀ s e, I s → R e → P s e ∧ I (step s e))
    {s : σ} (hs : I s) {es : List ε} (hes : ∀ e ∈ es, R e) : AllSteps step P s es := by
  induction es generalizing s with
  | nil => trivial
  | cons e es ih =>
    obtain ⟨he, hes⟩ := List.forall_mem_cons.mp hes
    obtain ⟨hP, hI⟩ := hstep s e hs he
    exact ⟨hP, ih hI hes⟩

@[simp] theorem allSteps_append (s : σ) (es fs : List ε) : AllSteps step P s (es ++ fs) ↔
    AllSteps step P s es ∧ AllSteps step P (run step s es) fs := by
  induction es generalizing s with
  | nil => simp
  | cons e es ih => simp [ih, and_assoc]

/-- Two conditions on steps that agree where an invariant holds agree on the runs that keep it. -/
theorem allSteps_congr_of_labels {R : ε → Prop} (hstep : ∀ s e, I s → R e → I (step s e))
    (hPQ : ∀ s e, I s → R e → (P s e ↔ Q s e)) {s : σ} (hs : I s) {es : List ε}
    (hes : ∀ e ∈ es, R e) : AllSteps step P s es ↔ AllSteps step Q s es := by
  induction es generalizing s with
  | nil => exact Iff.rfl
  | cons e es ih =>
    obtain ⟨he, hes⟩ := List.forall_mem_cons.mp hes
    rw [allSteps_cons, allSteps_cons, hPQ s e hs he, ih (hstep s e hs he) hes]

theorem allSteps_congr_of_invariant (hstep : ∀ s e, I s → I (step s e))
    (hPQ : ∀ s e, I s → (P s e ↔ Q s e)) {s : σ} (hs : I s) (es : List ε) :
    AllSteps step P s es ↔ AllSteps step Q s es :=
  allSteps_congr_of_labels step (R := fun _ => True) (fun s e h _ => hstep s e h)
    (fun s e h _ => hPQ s e h) hs fun _ _ => trivial

/-- If a step from a state of `I` stays in `I` exactly when it meets `P`, then so do runs. -/
theorem allSteps_next_iff (hstep : ∀ s e, I s → (I (step s e) ↔ P s e)) {s : σ} (hs : I s)
    (es : List ε) : AllSteps step (fun s e => I (step s e)) s es ↔ AllSteps step P s es := by
  induction es generalizing s with
  | nil => exact Iff.rfl
  | cons e es ih =>
    rw [allSteps_cons, allSteps_cons, ← hstep s e hs]
    exact and_congr_right fun h => ih h

/-- The system with a history variable that each step updates from the state before it. -/
def track (upd : γ → σ → ε → γ) (p : σ × γ) (e : ε) : σ × γ := (step p.1 e, upd p.2 p.1 e)

/-- A history variable does not influence the run it records. -/
@[simp] theorem run_track_fst (upd : γ → σ → ε → γ) (p : σ × γ) (es : List ε) :
    (run (track step upd) p es).1 = run step p.1 es := by
  induction es generalizing p with
  | nil => rfl
  | cons e es ih => exact ih (track step upd p e)

/-- A condition on the steps of a run does not see the history variable. -/
theorem allSteps_track (upd : γ → σ → ε → γ) (p : σ × γ) (es : List ε) :
    AllSteps (track step upd) (fun p e => P p.1 e) p es ↔ AllSteps step P p.1 es := by
  induction es generalizing p with
  | nil => exact Iff.rfl
  | cons e es ih => exact and_congr_right fun _ => ih (track step upd p e)

end GMediaRender.Runs
