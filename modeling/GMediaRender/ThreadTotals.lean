import Mathlib.Algebra.BigOperators.Group.Finset.Basic
import Mathlib.Algebra.Order.BigOperators.Group.Finset
import Mathlib.Data.Fintype.Basic

/-!
A measure of the local states of finitely many threads, added up. When one thread
moves, the total changes by what the measure of that thread changes by.
-/
namespace GMediaRender.ThreadTotals

open Finset

variable {τ β : Type*} [Fintype τ]

def total (f : β → ℕ) (pc : τ → β) : ℕ := ∑ t, f (pc t)

theorem le_total (f : β → ℕ) (pc : τ → β) (t : τ) : f (pc t) ≤ total f pc :=
  single_le_sum (f := fun t => f (pc t)) (fun _ _ => Nat.zero_le _) (mem_univ t)

theorem total_eq_zero (f : β → ℕ) (pc : τ → β) (h : ∀ t, f (pc t) = 0) : total f pc = 0 :=
  sum_eq_zero fun t _ => h t

/-- The effect on the total of one thread's move. -/
theorem total_update [DecidableEq τ] (f : β → ℕ) (pc : τ → β) (t : τ) (b : β) :
    total f (Function.update pc t b) + f (pc t) = total f pc + f b := by
  have hrest : ∑ u ∈ univ.erase t, f (Function.update pc t b u) =
      ∑ u ∈ univ.erase t, f (pc u) := by
    apply sum_congr rfl
    intro u hu
    rw [Function.update_of_ne (ne_of_mem_erase hu)]
  have hnew := sum_erase_add univ (fun u => f (Function.update pc t b u)) (mem_univ t)
  have hold := sum_erase_add univ (fun u => f (pc u)) (mem_univ t)
  simp only [Function.update_self] at hnew
  unfold total
  omega

end GMediaRender.ThreadTotals
