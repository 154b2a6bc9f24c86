import Mathlib.Data.List.Nodup
import Mathlib.Data.List.Perm.Basic

/-!
A heap of blocks that are allocated and freed by hand, and the ownership of its blocks.
Loading, storing and freeing a block that is not allocated are the failures. `Holds h L`
says that the blocks of `h` are exactly those of the list `L`; its rules let a proof
about one operation name the blocks the operation uses and carry all the others along.
-/
namespace GMediaRender.OwnedHeap

variable {α : Type}

/-- Some policy for the address of a new block: any address that is not in use. -/
structure Allocator where
  pick : List ℕ → ℕ
  fresh : ∀ used, pick used ∉ used

theorem le_foldr_max (l : List ℕ) (a : ℕ) (ha : a ∈ l) : a ≤ l.foldr max 0 := by
  induction l with
  | nil => cases ha
  | cons b l ih =>
    rw [List.foldr_cons]
    rcases List.mem_cons.mp ha with rfl | htail
    · omega
    · have := ih htail
      omega

/-- The policy that never uses an address below one in use. -/
def nextAddress : Allocator where
  pick used := used.foldr max 0 + 1
  fresh used hmem := by
    have := le_foldr_max used _ hmem
    omega

structure Heap (α : Type) where
  blocks : List (ℕ × α)
  nodup : (blocks.map Prod.fst).Nodup

namespace Heap

def empty : Heap α := ⟨[], List.nodup_nil⟩

def addresses (h : Heap α) : List ℕ := h.blocks.map Prod.fst

/-- A new block with the given contents, as `malloc` followed by its initialisation. -/
def malloc (A : Allocator) (h : Heap α) (x : α) : ℕ × Heap α :=
  (A.pick h.addresses, ⟨(A.pick h.addresses, x) :: h.blocks,
    List.nodup_cons.mpr ⟨A.fresh h.addresses, h.nodup⟩⟩)

def load (h : Heap α) (a : ℕ) : Option α := (h.blocks.find? fun b => b.1 = a).map Prod.snd

def without (h : Heap α) (a : ℕ) : Heap α :=
  ⟨h.blocks.filter fun b => b.1 ≠ a, h.nodup.sublist (List.filter_sublist.map _)⟩

def free (h : Heap α) (a : ℕ) : Option (Heap α) :=
  if a ∈ h.addresses then some (h.without a) else none

theorem map_overwrite (l : List (ℕ × α)) (a : ℕ) (x : α) :
    (l.map fun b => if b.1 = a then (a, x) else b).map Prod.fst = l.map Prod.fst := by
  rw [List.map_map]
  refine List.map_congr_left fun b _ => ?_
  by_cases hb : b.1 = a
  · simp [hb]
  · simp [hb]

def overwrite (h : Heap α) (a : ℕ) (x : α) : Heap α :=
  ⟨h.blocks.map fun b => if b.1 = a then (a, x) else b, by
    rw [map_overwrite]
    exact h.nodup⟩

def store (h : Heap α) (a : ℕ) (x : α) : Option (Heap α) :=
  if a ∈ h.addresses then some (h.overwrite a x) else none

/-- The blocks of the heap are those of `L`, in whatever order. -/
def Holds (h : Heap α) (L : List (ℕ × α)) : Prop := h.blocks.Perm L

section Rules

variable {A : Allocator} {h : Heap α} {L M : List (ℕ × α)} {a : ℕ} {x y : α}

theorem holds_empty : (empty : Heap α).Holds [] := List.Perm.refl []

theorem Holds.perm (hL : h.Holds L) (hLM : L.Perm M) : h.Holds M := hL.trans hLM

theorem Holds.addresses_nodup (hL : h.Holds L) : (L.map Prod.fst).Nodup :=
  (hL.map Prod.fst).nodup_iff.mp h.nodup

theorem Holds.mem_addresses (hL : h.Holds L) : a ∈ h.addresses ↔ a ∈ L.map Prod.fst :=
  (hL.map Prod.fst).mem_iff

theorem Holds.malloc (hL : h.Holds L) (x : α) :
    (h.malloc A x).2.Holds (((h.malloc A x).1, x) :: L) := List.Perm.cons _ hL

theorem find_of_mem {l : List (ℕ × α)} (hl : (l.map Prod.fst).Nodup) (hmem : (a, x) ∈ l) :
    l.find? (fun b => b.1 = a) = some (a, x) := by
  induction l with
  | nil => cases hmem
  | cons b l ih =>
    simp only [List.map_cons, List.nodup_cons] at hl
    rcases List.mem_cons.mp hmem with heq | htail
    · subst heq
      simp
    · have hne : b.1 ≠ a := by
        intro hba
        exact hl.1 (List.mem_map.mpr ⟨(a, x), htail, hba.symm⟩)
      rw [List.find?_cons_of_neg (by simpa using hne)]
      exact ih hl.2 htail

theorem Holds.load (hL : h.Holds L) (hmem : (a, x) ∈ L) : h.load a = some x := by
  have hfind := find_of_mem h.nodup (hL.mem_iff.mpr hmem)
  simp [Heap.load, hfind]

theorem filter_ne {l : List (ℕ × α)} (hl : a ∉ l.map Prod.fst) :
    l.filter (fun b => b.1 ≠ a) = l := by
  refine List.filter_eq_self.mpr fun b hb => ?_
  have hne : b.1 ≠ a := fun hba => hl (List.mem_map.mpr ⟨b, hb, hba⟩)
  simpa using hne

theorem Holds.free (hL : h.Holds ((a, x) :: L)) :
    ∃ h', h.free a = some h' ∧ h'.Holds L := by
  have hnodup := hL.addresses_nodup
  simp only [List.map_cons, List.nodup_cons] at hnodup
  have hmem : a ∈ h.addresses := hL.mem_addresses.mpr (by simp)
  refine ⟨h.without a, by simp [Heap.free, hmem], ?_⟩
  have hfilter := List.Perm.filter (fun b : ℕ × α => b.1 ≠ a) hL
  rw [List.filter_cons_of_neg (by simp), filter_ne hnodup.1] at hfilter
  exact hfilter

theorem Holds.store (hL : h.Holds ((a, x) :: L)) (y : α) :
    ∃ h', h.store a y = some h' ∧ h'.Holds ((a, y) :: L) := by
  have hnodup := hL.addresses_nodup
  simp only [List.map_cons, List.nodup_cons] at hnodup
  have hmem : a ∈ h.addresses := hL.mem_addresses.mpr (by simp)
  refine ⟨h.overwrite a y, by simp [Heap.store, hmem], ?_⟩
  have hmap := List.Perm.map (fun b : ℕ × α => if b.1 = a then (a, y) else b) hL
  have hrest : L.map (fun b => if b.1 = a then (a, y) else b) = L := by
    refine (List.map_congr_left fun b hb => ?_).trans (List.map_id L)
    have hne : b.1 ≠ a := fun hba => hnodup.1 (List.mem_map.mpr ⟨b, hb, hba⟩)
    simp [hne]
  rw [List.map_cons, if_pos rfl, hrest] at hmap
  exact hmap

end Rules

end Heap

end GMediaRender.OwnedHeap
