import Mathlib.Data.List.Nodup

/-!
Lists that are extended by what they lack, and names that come with aliases. Inserting names
one after the other, each together with its aliases, leaves the closure of the names: every
name and alias once, so that the order and the repetition of the names make no difference.
-/
namespace GMediaRender.AliasClosure

variable {α : Type*}

/-- The names and their aliases, each of them once. -/
structure Closure (aliases : α → List α) (names closed : List α) : Prop where
  nodup : closed.Nodup
  mem_iff : ∀ a, a ∈ closed ↔ ∃ n ∈ names, a = n ∨ a ∈ aliases n

/-- Closures of the same names are the same up to their order. -/
theorem Closure.perm {aliases : α → List α} {names names' closed closed' : List α}
    (h : Closure aliases names closed) (h' : Closure aliases names' closed')
    (hnames : ∀ n, n ∈ names ↔ n ∈ names') : closed.Perm closed' := by
  refine (List.perm_ext_iff_of_nodup h.nodup h'.nodup).mpr fun a => ?_
  rw [h.mem_iff, h'.mem_iff]
  exact exists_congr fun n => and_congr_left' (hnames n)

/-- Where aliases have no aliases, a closure has those of all its members. -/
theorem Closure.aliases_subset {aliases : α → List α} {names closed : List α}
    (h : Closure aliases names closed) (hlast : ∀ n, ∀ a ∈ aliases n, aliases a = [])
    {a b : α} (ha : a ∈ closed) (hb : b ∈ aliases a) : b ∈ closed := by
  obtain ⟨n, hn, rfl | halias⟩ := (h.mem_iff a).mp ha
  · exact (h.mem_iff b).mpr ⟨a, hn, Or.inr hb⟩
  · rw [hlast n a halias] at hb
    exact absurd hb List.not_mem_nil

variable [DecidableEq α] (xs more : List α)

def insertAll : List α := more.foldl (fun xs a => xs.insert a) xs

theorem insertAll_nil : insertAll xs [] = xs := rfl

theorem insertAll_cons (a : α) : insertAll xs (a :: more) = insertAll (xs.insert a) more := rfl

theorem insertAll_append (evenMore : List α) :
    insertAll xs (more ++ evenMore) = insertAll (insertAll xs more) evenMore :=
  List.foldl_append

theorem insertAll_ite (c : Prop) [Decidable c] :
    insertAll xs (if c then more else []) = if c then insertAll xs more else xs := by
  split_ifs <;> rfl

theorem mem_insertAll (a : α) : a ∈ insertAll xs more ↔ a ∈ more ∨ a ∈ xs := by
  induction more generalizing xs with
  | nil => simp [insertAll_nil]
  | cons b more ih =>
    rw [insertAll_cons, ih, List.mem_insert_iff, List.mem_cons, or_assoc, or_left_comm]

variable {xs}

theorem nodup_insertAll (h : xs.Nodup) : (insertAll xs more).Nodup := by
  induction more generalizing xs with
  | nil => exact h
  | cons b more ih => exact ih h.insert

theorem closure_insertAll (aliases : α → List α) (names : List α) :
    Closure aliases names (insertAll [] (names.flatMap fun n => n :: aliases n)) where
  nodup := nodup_insertAll _ List.nodup_nil
  mem_iff a := by simp [mem_insertAll]

end GMediaRender.AliasClosure
