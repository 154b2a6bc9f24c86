import GMediaRender.Runs

/-!
A system that serves several parties over one state. Every label is a party's, and a party may
act upon others. If what a party sees of the state after a label depends on what it saw before,
and is the same as before unless the label acts upon it, then it sees of a run what it sees of
the run without the labels that do not act upon it, and gets the same outputs.
-/
namespace GMediaRender.Unwinding

open Runs

variable {σ ε δ ω : Type*} {ν : δ → Type*}

/-- Whose a label is, and who acts upon whom. -/
structure Policy (ε δ : Type*) where
  party : ε → δ
  acts : δ → δ → Bool
  acts_self : ∀ d, acts d d = true

variable (P : Policy ε δ) (step : σ → ε → σ) (output : σ → ε → ω) (view : (d : δ) → σ → ν d)

def Policy.concerns (d : δ) (e : ε) : Bool := P.acts (P.party e) d

/-- The labels that act upon a party. -/
def Policy.purge (d : δ) (es : List ε) : List ε := es.filter (P.concerns d)

/-- The outputs of a party's own labels in a run. -/
def outputs [DecidableEq δ] (d : δ) : σ → List ε → List ω
  | _, [] => []
  | s, e :: es =>
    if P.party e = d then output s e :: outputs d (step s e) es else outputs d (step s e) es

/-- The conditions on single steps. -/
structure Unwinds : Prop where
  output_eq : ∀ s t e, view (P.party e) s = view (P.party e) t → output s e = output t e
  step_eq : ∀ d s t e, P.concerns d e = true → view d s = view d t →
    view d (step s e) = view d (step t e)
  step_apart : ∀ d s e, P.concerns d e = false → view d (step s e) = view d s

variable {P step output view} (h : Unwinds P step output view)

include h

/-- Two states that look alike are taken to such states, the second without the labels that do
not concern the party. -/
theorem Unwinds.view_run (d : δ) {s t : σ} (hst : view d s = view d t) (es : List ε) :
    view d (run step s es) = view d (run step t (P.purge d es)) := by
  induction es generalizing s t with
  | nil => exact hst
  | cons e es ih =>
    cases hconcerns : P.concerns d e with
    | true =>
      rw [Policy.purge, List.filter_cons_of_pos hconcerns, run_cons, run_cons]
      exact ih (h.step_eq d s t e hconcerns hst)
    | false =>
      have hskip : ¬P.concerns d e = true := by simp [hconcerns]
      rw [Policy.purge, List.filter_cons_of_neg hskip, run_cons]
      exact ih ((h.step_apart d s e hconcerns).trans hst)

theorem Unwinds.outputs_run [DecidableEq δ] (d : δ) {s t : σ} (hst : view d s = view d t)
    (es : List ε) : outputs P step output d s es = outputs P step output d t (P.purge d es) := by
  induction es generalizing s t with
  | nil => rfl
  | cons e es ih =>
    cases hconcerns : P.concerns d e with
    | true =>
      have hrest := ih (h.step_eq d s t e hconcerns hst)
      rw [Policy.purge, List.filter_cons_of_pos hconcerns]
      simp only [outputs]
      split_ifs with hown
      · subst hown
        rw [h.output_eq s t e hst]
        exact congrArg _ hrest
      · exact hrest
    | false =>
      have hskip : ¬P.concerns d e = true := by simp [hconcerns]
      have hother : P.party e ≠ d := by
        intro hown
        have hself := P.acts_self (P.party e)
        rw [Policy.concerns, ← hown, hself] at hconcerns
        exact Bool.noConfusion hconcerns
      rw [Policy.purge, List.filter_cons_of_neg hskip, outputs, if_neg hother]
      exact ih ((h.step_apart d s e hconcerns).trans hst)

end GMediaRender.Unwinding
