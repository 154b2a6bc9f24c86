import GMediaRender.Runs
import Mathlib.Data.List.Basic
import Mathlib.Data.Nat.Notation
import Mathlib.Tactic.SplitIfs

/-!
A work item that reads a register. Scheduling the work while it is already pending does nothing
more; the work is taken off its queue before it reads, so that it can be scheduled again while it
runs. What it reads are the scheduled values with some of them coalesced into later ones.
-/
namespace GMediaRender.DeferredWork

open Runs

variable {α : Type*}

/-- A register, the work that reads it, what was scheduled and what has been read. -/
structure Worker (α : Type*) where
  register : α
  pending : Bool
  running : Bool
  scheduled : List α
  reads : List α

inductive Op (α : Type*) where
  | schedule (value : α)
  | start
  | read

def Worker.step (s : Worker α) : Op α → Worker α
  | .schedule value =>
    { s with register := value, pending := true, scheduled := s.scheduled ++ [value] }
  | .start => if s.pending ∧ ¬ s.running then { s with pending := false, running := true } else s
  | .read => if s.running then { s with running := false, reads := s.reads ++ [s.register] } else s

/-- The work is neither pending nor running. -/
def Worker.Idle (s : Worker α) : Prop := s.pending = false ∧ s.running = false

instance (s : Worker α) : Decidable s.Idle := inferInstanceAs (Decidable (_ ∧ _))

/-- Nothing has been scheduled. -/
def Worker.idle (value : α) : Worker α := ⟨value, false, false, [], []⟩

/-- The reads are of scheduled values in their order: the k-th is of the k-th or a later one. -/
structure Marks (scheduled reads : List α) (marks : List ℕ) : Prop where
  sorted : marks.Pairwise (· ≤ ·)
  bounded : ∀ m ∈ marks, m < scheduled.length
  later : ∀ k m : ℕ, marks[k]? = some m → k ≤ m
  reads : reads.map some = marks.map (scheduled[·]?)

def Coalesced (scheduled reads : List α) : Prop := ∃ marks, Marks scheduled reads marks

section Marks

variable {scheduled reads : List α} {marks : List ℕ}

theorem Marks.length (h : Marks scheduled reads marks) : marks.length = reads.length := by
  have hlen := congrArg List.length h.reads
  simpa using hlen.symm

theorem Marks.schedule (h : Marks scheduled reads marks) (value : α) :
    Marks (scheduled ++ [value]) reads marks := by
  refine ⟨h.sorted, ?_, h.later, ?_⟩
  · intro m hm
    have hlt := h.bounded m hm
    rw [List.length_append]
    omega
  · rw [h.reads]
    apply List.map_congr_left
    intro m hm
    exact (List.getElem?_append_left (h.bounded m hm)).symm

/-- A read of the last value, with a scheduled value to spare. -/
theorem Marks.read (h : Marks scheduled reads marks) {value : α}
    (hlast : scheduled.getLast? = some value) (hroom : reads.length < scheduled.length) :
    Marks scheduled (reads ++ [value]) (marks ++ [scheduled.length - 1]) := by
  have hlen := h.length
  refine ⟨?_, ?_, ?_, ?_⟩
  · refine List.pairwise_append.mpr ⟨h.sorted, List.pairwise_singleton _ _, ?_⟩
    intro m hm last hlast
    obtain rfl := List.mem_singleton.mp hlast
    have hlt := h.bounded m hm
    omega
  · intro m hm
    rcases List.mem_append.mp hm with hm | hm
    · exact h.bounded m hm
    · obtain rfl := List.mem_singleton.mp hm
      omega
  · intro k m hk
    rcases Nat.lt_or_ge k marks.length with hold | hnew
    · rw [List.getElem?_append_left hold] at hk
      exact h.later k m hk
    · rw [List.getElem?_append_right hnew, List.getElem?_singleton] at hk
      split_ifs at hk with hzero
      obtain rfl := Option.some.inj hk
      omega
  · rw [List.map_append, List.map_append, h.reads, List.map_singleton, List.map_singleton,
      ← List.getLast?_eq_getElem?, hlast]

theorem Coalesced.length_le (h : Coalesced scheduled reads) : reads.length ≤ scheduled.length := by
  obtain ⟨marks, hmarks⟩ := h
  rcases Nat.eq_zero_or_pos reads.length with hnone | hsome
  · omega
  · have hk : reads.length - 1 < marks.length := by
      rw [hmarks.length]
      omega
    have hlater := hmarks.later _ _ (List.getElem?_eq_getElem hk)
    have hlt := hmarks.bounded _ (List.getElem_mem hk)
    omega

end Marks

section Invariants

/-- Each read still to come has a scheduled value of its own, and an idle worker has read the
last one. -/
structure Worker.Inv (s : Worker α) : Prop where
  coalesced : Coalesced s.scheduled s.reads
  room : s.reads.length + s.pending.toNat + s.running.toNat ≤ s.scheduled.length
  latest : s.scheduled ≠ [] → s.scheduled.getLast? = some s.register
  current : s.Idle → s.reads.getLast? = s.scheduled.getLast?

theorem Worker.inv_idle (value : α) : (Worker.idle value).Inv where
  coalesced := ⟨[], .nil, by simp, by simp, rfl⟩
  room := Nat.le_refl _
  latest h := absurd rfl h
  current _ := rfl

theorem Worker.inv_step (s : Worker α) (op : Op α) (h : s.Inv) : (s.step op).Inv := by
  obtain ⟨⟨marks, hmarks⟩, hroom, hlatest, hcurrent⟩ := h
  cases op with
  | schedule value =>
    refine ⟨⟨marks, hmarks.schedule value⟩, ?_, ?_, ?_⟩
    · have hone := Bool.toNat_le s.pending
      simp only [Worker.step, List.length_append, List.length_singleton, Bool.toNat_true]
      omega
    · intro _
      simp [Worker.step]
    · intro hidle
      exact absurd hidle.1 (by simp [Worker.step])
  | start =>
    unfold Worker.step
    by_cases hstart : s.pending ∧ ¬ s.running
    · obtain ⟨hpending, hrunning⟩ := hstart
      simp only [if_pos (And.intro hpending hrunning)]
      refine ⟨⟨marks, hmarks⟩, ?_, hlatest, fun hidle => absurd hidle.2 (by simp)⟩
      simpa [hpending, hrunning] using hroom
    · simp only [if_neg hstart]
      exact ⟨⟨marks, hmarks⟩, hroom, hlatest, hcurrent⟩
  | read =>
    unfold Worker.step
    by_cases hrunning : s.running = true
    · simp only [if_pos hrunning]
      simp only [hrunning, Bool.toNat_true] at hroom
      have hlast : s.scheduled.getLast? = some s.register := by
        apply hlatest
        intro hnil
        simp only [hnil, List.length_nil] at hroom
        omega
      refine ⟨⟨_, hmarks.read hlast (by omega)⟩, ?_, hlatest, ?_⟩
      · simp only [List.length_append, List.length_singleton, Bool.toNat_false]
        omega
      · intro _
        simp [hlast]
    · simp only [if_neg hrunning]
      exact ⟨⟨marks, hmarks⟩, hroom, hlatest, hcurrent⟩

/-- The work is scheduled only when it is idle. -/
def OnTime (s : Worker α) : Op α → Prop
  | .schedule _ => s.Idle
  | .start | .read => True

/-- Nothing has been coalesced: what has not been read is in the register. -/
structure Worker.Exact (s : Worker α) : Prop where
  once : s.pending = true → s.running = false
  scheduled : s.scheduled = s.reads ++ if s.Idle then [] else [s.register]

theorem Worker.exact_idle (value : α) : (Worker.idle value).Exact := ⟨fun _ => rfl, rfl⟩

theorem Worker.exact_step (s : Worker α) (op : Op α) (h : s.Exact) (hop : OnTime s op) :
    (s.step op).Exact := by
  obtain ⟨honce, hscheduled⟩ := h
  cases op with
  | schedule value =>
    have hidle : s.Idle := hop
    have hbusy : ¬ (s.step (.schedule value)).Idle := fun h => absurd h.1 (by simp [Worker.step])
    refine ⟨fun _ => hidle.2, ?_⟩
    rw [if_neg hbusy]
    rw [if_pos hidle, List.append_nil] at hscheduled
    simp only [Worker.step, hscheduled]
  | start =>
    unfold Worker.step
    by_cases hstart : s.pending ∧ ¬ s.running
    · have hbusy : ¬ s.Idle := fun h => absurd h.1 (by simp [hstart.1])
      rw [if_neg hbusy] at hscheduled
      simp only [if_pos hstart]
      refine ⟨fun h => absurd h (by simp), ?_⟩
      rw [if_neg (by simp [Worker.Idle])]
      exact hscheduled
    · simp only [if_neg hstart]
      exact ⟨honce, hscheduled⟩
  | read =>
    unfold Worker.step
    by_cases hrunning : s.running = true
    · have hbusy : ¬ s.Idle := fun h => absurd h.2 (by simp [hrunning])
      have hpending : s.pending = false := by
        by_contra hpending
        have := honce (by simpa using hpending)
        simp [hrunning] at this
      rw [if_neg hbusy] at hscheduled
      simp only [if_pos hrunning]
      refine ⟨fun _ => rfl, ?_⟩
      rw [if_pos ⟨hpending, rfl⟩, List.append_nil]
      exact hscheduled
    · simp only [if_neg hrunning]
      exact ⟨honce, hscheduled⟩

end Invariants

section Runs

/-- Whatever the order of the steps, the reads are the scheduled values coalesced, and an idle
worker has not missed the last. -/
theorem coalesced_run (value : α) (ops : List (Op α)) :
    (run Worker.step (Worker.idle value) ops).Inv :=
  run_invariant _ Worker.inv_step (Worker.inv_idle value) ops

/-- A worker that is always in time reads every scheduled value once. -/
theorem exact_run (value : α) {ops : List (Op α)}
    (h : AllSteps Worker.step OnTime (Worker.idle value) ops) :
    (run Worker.step (Worker.idle value) ops).Exact :=
  run_invariant_of_allSteps _ Worker.exact_step (Worker.exact_idle value) h

end Runs

end GMediaRender.DeferredWork
