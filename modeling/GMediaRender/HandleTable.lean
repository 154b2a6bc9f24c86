import GMediaRender.OwnedHeap
import Mathlib.Logic.Function.Basic

/-!
Objects that callers hold by address. An object is allocated when its caller opens it, is used
through the address and is freed when it is closed; an address that was freed may be given out
again. `Keeps` says that every caller holds the address of an object of its own. Under it the
answers a caller gets are those it would get alone.
-/
namespace GMediaRender.HandleTable

open OwnedHeap

variable {κ α β : Type} [DecidableEq κ]

/-- The heap, and the address that each caller holds. -/
structure Table (κ α : Type) where
  heap : Heap α
  held : κ → Option ℕ

namespace Table

omit [DecidableEq κ] in
def empty : Table κ α := ⟨.empty, fun _ => none⟩

def openFor (A : Allocator) (t : Table κ α) (k : κ) (x : α) : Table κ α :=
  ⟨(t.heap.malloc A x).2, Function.update t.held k (some (t.heap.malloc A x).1)⟩

/-- A use of the object at the address that the caller holds. -/
def use (t : Table κ α) (k : κ) (f : α → Option (α × β)) : Option (Table κ α × β) := do
  let a ← t.held k
  let x ← t.heap.load a
  let r ← f x
  let heap ← t.heap.store a r.1
  pure (⟨heap, t.held⟩, r.2)

def close (t : Table κ α) (k : κ) : Option (Table κ α) := do
  let a ← t.held k
  let heap ← t.heap.free a
  pure ⟨heap, Function.update t.held k none⟩

end Table

/-- The callers with the addresses they hold and the objects there: nothing else is allocated. -/
structure Owns (t : Table κ α) (objects : κ → Option α) (L : List (κ × ℕ × α)) : Prop where
  callers : (L.map Prod.fst).Nodup
  holds : t.heap.Holds (L.map Prod.snd)
  held : ∀ k a, t.held k = some a ↔ ∃ x, (k, a, x) ∈ L
  object : ∀ k x, objects k = some x ↔ ∃ a, (k, a, x) ∈ L

def Keeps (t : Table κ α) (objects : κ → Option α) : Prop := ∃ L, Owns t objects L

section Rules

variable {A : Allocator} {t : Table κ α} {objects : κ → Option α} {L M : List (κ × ℕ × α)}
variable {k : κ} {a : ℕ} {x y : α}

omit [DecidableEq κ] in
theorem Owns.perm (h : Owns t objects L) (hLM : L.Perm M) : Owns t objects M where
  callers := (hLM.map Prod.fst).nodup_iff.mp h.callers
  holds := h.holds.perm (hLM.map Prod.snd)
  held k a := by simp only [h.held k a, hLM.mem_iff]
  object k x := by simp only [h.object k x, hLM.mem_iff]

omit [DecidableEq κ] in
/-- An object that is open, beside the others. -/
theorem Owns.split (h : Owns t objects L) (hk : objects k = some x) :
    ∃ a M, t.held k = some a ∧ Owns t objects ((k, a, x) :: M) := by
  obtain ⟨a, hmem⟩ := (h.object k x).mp hk
  obtain ⟨s, u, rfl⟩ := List.append_of_mem hmem
  exact ⟨a, s ++ u, (h.held k a).mpr ⟨x, hmem⟩, h.perm List.perm_middle⟩

omit [DecidableEq κ] in
theorem Owns.notMem (h : Owns t objects ((k, a, x) :: M)) (b : ℕ) (y : α) : (k, b, y) ∉ M := by
  intro hmem
  have hnodup := h.callers
  rw [List.map_cons, List.nodup_cons] at hnodup
  exact hnodup.1 (List.mem_map.mpr ⟨_, hmem, rfl⟩)

omit [DecidableEq κ] in
theorem keeps_empty : Keeps (Table.empty : Table κ α) fun _ => none :=
  ⟨[], List.nodup_nil, Heap.holds_empty, by simp [Table.empty], by simp⟩

omit [DecidableEq κ] in
theorem Keeps.held_eq_none (h : Keeps t objects) : t.held k = none ↔ objects k = none := by
  obtain ⟨L, hL⟩ := h
  constructor
  · intro hheld
    by_contra hobject
    obtain ⟨x, hx⟩ := Option.ne_none_iff_exists'.mp hobject
    obtain ⟨a, hmem⟩ := (hL.object k x).mp hx
    rw [(hL.held k a).mpr ⟨x, hmem⟩] at hheld
    cases hheld
  · intro hobject
    by_contra hheld
    obtain ⟨a, ha⟩ := Option.ne_none_iff_exists'.mp hheld
    obtain ⟨x, hmem⟩ := (hL.held k a).mp ha
    rw [(hL.object k x).mpr ⟨a, hmem⟩] at hobject
    cases hobject

omit [DecidableEq κ] in
theorem Keeps.mem_addresses (h : Keeps t objects) :
    a ∈ t.heap.addresses ↔ ∃ k, t.held k = some a := by
  obtain ⟨L, hL⟩ := h
  rw [hL.holds.mem_addresses]
  simp only [hL.held, List.mem_map, Prod.exists, exists_eq_right]
  grind

omit [DecidableEq κ] in
/-- No two callers hold one address. -/
theorem Keeps.held_injective (h : Keeps t objects) {k' : κ} (hk : t.held k = some a)
    (hk' : t.held k' = some a) : k = k' := by
  obtain ⟨L, hL⟩ := h
  obtain ⟨x, hx⟩ := (hL.held k a).mp hk
  obtain ⟨y, hy⟩ := (hL.held k' a).mp hk'
  have hnodup := hL.holds.addresses_nodup
  rw [List.map_map] at hnodup
  have hsame := List.inj_on_of_nodup_map hnodup hx hy rfl
  exact (Prod.mk.inj hsame).1

theorem update_some_iff {γ : Type} {f : κ → Option γ} {R : κ → γ → Prop} (c : γ)
    (hf : ∀ k' b, k' ≠ k → (f k' = some b ↔ R k' b)) (k' : κ) (b : γ) :
    Function.update f k (some c) k' = some b ↔ k' = k ∧ c = b ∨ k' ≠ k ∧ R k' b := by
  by_cases hkk : k' = k
  · subst hkk
    simp
  · simp [hkk, hf k' b hkk]

theorem update_none_iff {γ : Type} {f : κ → Option γ} {R : κ → γ → Prop}
    (hf : ∀ k' b, k' ≠ k → (f k' = some b ↔ R k' b)) (k' : κ) (b : γ) :
    Function.update f k none k' = some b ↔ k' ≠ k ∧ R k' b := by
  by_cases hkk : k' = k
  · subst hkk
    simp
  · simp [hkk, hf k' b hkk]

theorem Keeps.openFor (h : Keeps t objects) (hk : objects k = none) (x : α) :
    Keeps (t.openFor A k x) (Function.update objects k (some x)) := by
  obtain ⟨L, hL⟩ := h
  have hfresh : ∀ a y, (k, a, y) ∉ L := by
    intro a y hmem
    rw [(hL.object k y).mpr ⟨a, hmem⟩] at hk
    cases hk
  refine ⟨(k, (t.heap.malloc A x).1, x) :: L, ?_, hL.holds.malloc x, ?_, ?_⟩
  · rw [List.map_cons, List.nodup_cons]
    refine ⟨fun hmem => ?_, hL.callers⟩
    obtain ⟨⟨k', a, y⟩, hentry, rfl⟩ := List.mem_map.mp hmem
    exact hfresh a y hentry
  · intro k' b
    rw [Table.openFor, update_some_iff _ fun k' b _ => hL.held k' b]
    grind
  · intro k' y
    rw [update_some_iff _ fun k' b _ => hL.object k' b]
    grind

/-- A use of an object leaves those of the other callers alone. -/
theorem Keeps.use (h : Keeps t objects) (hk : objects k = some x) {f : α → Option (α × β)}
    {b : β} (hf : f x = some (y, b)) :
    ∃ t', t.use k f = some (t', b) ∧ Keeps t' (Function.update objects k (some y)) := by
  obtain ⟨L, hL⟩ := h
  obtain ⟨a, M, hheld, hM⟩ := hL.split hk
  have hload : t.heap.load a = some x := hM.holds.load (List.mem_cons_self ..)
  obtain ⟨heap, hstore, hholds⟩ := Heap.Holds.store hM.holds y
  refine ⟨⟨heap, t.held⟩, ?_, (k, a, y) :: M, hM.callers, hholds, ?_, ?_⟩
  · simp only [Table.use, hheld, hload, hf, hstore, Option.bind_eq_bind, Option.bind_some,
      Option.pure_def]
  · intro k' b'
    rw [hM.held k' b']
    grind
  · intro k' y'
    have hnone := hM.notMem
    rw [update_some_iff _ fun k' b _ => hM.object k' b]
    grind

theorem Keeps.close (h : Keeps t objects) (hk : objects k = some x) :
    ∃ t', t.close k = some t' ∧ Keeps t' (Function.update objects k none) := by
  obtain ⟨L, hL⟩ := h
  obtain ⟨a, M, hheld, hM⟩ := hL.split hk
  obtain ⟨heap, hfree, hholds⟩ := Heap.Holds.free hM.holds
  have hcallers := hM.callers
  have hnone := hM.notMem
  rw [List.map_cons, List.nodup_cons] at hcallers
  refine ⟨⟨heap, Function.update t.held k none⟩, ?_, M, hcallers.2, hholds, ?_, ?_⟩
  · simp only [Table.close, hheld, hfree, Option.bind_eq_bind, Option.bind_some, Option.pure_def]
  · intro k' b
    rw [update_none_iff fun k' b _ => hM.held k' b]
    grind
  · intro k' y
    rw [update_none_iff fun k' b _ => hM.object k' b]
    grind

end Rules

section Callers

/-- What callers do, and a change of what all of them see. -/
inductive Command (κ ρ ο υ : Type) where
  | open (k : κ) (request : ρ)
  | call (k : κ) (op : ο)
  | close (k : κ)
  | update (u : υ)

inductive Answer (β : Type) where
  | opened (found : Bool)
  | result (b : β)
  | closed
  deriving DecidableEq

/-- How objects are made from what all callers see, and how they act. -/
structure Behaviour (σ ρ ο υ α β : Type) where
  create : σ → ρ → Option α
  act : α → ο → Option (α × β)
  update : σ → υ → σ

variable {σ ρ ο υ : Type} (B : Behaviour σ ρ ο υ α β)

/-- A command on the caller's own object; nothing happens where the caller has none to use, or
has one already. -/
def ownStep (s : σ × Option α) : Command κ ρ ο υ → Option ((σ × Option α) × Option (Answer β))
  | .open _ request =>
    match s.2 with
    | some _ => some (s, none)
    | none => some ((s.1, B.create s.1 request), some (.opened (B.create s.1 request).isSome))
  | .call _ op =>
    match s.2 with
    | none => some (s, none)
    | some x => (B.act x op).map fun r => ((s.1, some r.1), some (.result r.2))
  | .close _ =>
    match s.2 with
    | none => some (s, none)
    | some _ => some ((s.1, none), some .closed)
  | .update u => some ((B.update s.1 u, s.2), none)

/-- The same through the address that the caller holds. -/
def step (A : Allocator) (s : σ × Table κ α) :
    Command κ ρ ο υ → Option ((σ × Table κ α) × Option (Answer β))
  | .open k request =>
    match s.2.held k with
    | some _ => some (s, none)
    | none =>
      match B.create s.1 request with
      | none => some (s, some (.opened false))
      | some x => some ((s.1, s.2.openFor A k x), some (.opened true))
  | .call k op =>
    match s.2.held k with
    | none => some (s, none)
    | some _ => (s.2.use k fun x => B.act x op).map fun r => ((s.1, r.1), some (.result r.2))
  | .close k =>
    match s.2.held k with
    | none => some (s, none)
    | some _ => (s.2.close k).map fun t => ((s.1, t), some .closed)
  | .update u => some ((B.update s.1 u, s.2), none)

def Command.caller : Command κ ρ ο υ → Option κ
  | .open k _ => some k
  | .call k _ => some k
  | .close k => some k
  | .update _ => none

/-- Whether a command is the caller's or is for all. -/
def Command.concerns (k : κ) (c : Command κ ρ ο υ) : Bool := c.caller.all (· == k)

/-- The answers that a caller gets when it is alone. -/
def runOwn (k : κ) (s : σ × Option α) : List (Command κ ρ ο υ) →
    Option ((σ × Option α) × List (Answer β))
  | [] => some (s, [])
  | c :: cs =>
    if c.concerns k then
      (ownStep B s c).bind fun r =>
        (runOwn k r.1 cs).map fun rest => (rest.1, r.2.toList ++ rest.2)
    else runOwn k s cs

/-- The answers to all callers, each with the command it is to. -/
def run (A : Allocator) (s : σ × Table κ α) : List (Command κ ρ ο υ) →
    Option ((σ × Table κ α) × List (Command κ ρ ο υ × Answer β))
  | [] => some (s, [])
  | c :: cs =>
    (step B A s c).bind fun r =>
      (run A r.1 cs).map fun rest => (rest.1, (r.2.map fun a => (c, a)).toList ++ rest.2)

/-- The answers to the commands of one caller. -/
def answersTo (k : κ) (answers : List (Command κ ρ ο υ × Answer β)) : List (Answer β) :=
  (answers.filter fun a => a.1.concerns k).map Prod.snd

end Callers

section Isolation

variable {σ ρ ο υ : Type} {B : Behaviour σ ρ ο υ α β} {A : Allocator}
variable {s : σ} {t : Table κ α} {objects : κ → Option α} {k : κ} {c : Command κ ρ ο υ}

omit [DecidableEq κ] in
theorem held_of_object (h : Keeps t objects) {x : α} (hk : objects k = some x) :
    ∃ a, t.held k = some a := by
  obtain ⟨L, hL⟩ := h
  obtain ⟨a, -, ha, -⟩ := hL.split hk
  exact ⟨a, ha⟩

/-- A caller's command does through its address what it does on its object. -/
theorem step_own (h : Keeps t objects) (hc : c.caller = some k)
    {r : (σ × Option α) × Option (Answer β)} (hown : ownStep B (s, objects k) c = some r) :
    r.1.1 = s ∧ ∃ t', step B A (s, t) c = some ((s, t'), r.2) ∧
      Keeps t' (Function.update objects k r.1.2) := by
  have hsame : ∀ o, objects k = o → Function.update objects k o = objects := by
    rintro o rfl
    exact Function.update_eq_self k objects
  cases hobject : objects k with
  | none =>
    have hheld := h.held_eq_none.mpr hobject
    cases c with
    | update u => cases hc
    | «open» k' request =>
      obtain rfl : k' = k := Option.some.inj hc
      simp only [ownStep, hobject, Option.some.injEq] at hown
      subst hown
      refine ⟨rfl, ?_⟩
      simp only [step, hheld]
      cases hcreate : B.create s request with
      | none => exact ⟨t, rfl, (hsame _ hobject).symm ▸ h⟩
      | some x => exact ⟨_, rfl, h.openFor hobject x⟩
    | call k' op =>
      obtain rfl : k' = k := Option.some.inj hc
      simp only [ownStep, hobject, Option.some.injEq] at hown
      subst hown
      refine ⟨rfl, t, ?_, (hsame _ hobject).symm ▸ h⟩
      simp only [step, hheld]
    | close k' =>
      obtain rfl : k' = k := Option.some.inj hc
      simp only [ownStep, hobject, Option.some.injEq] at hown
      subst hown
      refine ⟨rfl, t, ?_, (hsame _ hobject).symm ▸ h⟩
      simp only [step, hheld]
  | some x =>
    obtain ⟨a, hheld⟩ := held_of_object h hobject
    cases c with
    | update u => cases hc
    | «open» k' request =>
      obtain rfl : k' = k := Option.some.inj hc
      simp only [ownStep, hobject, Option.some.injEq] at hown
      subst hown
      refine ⟨rfl, t, ?_, (hsame _ hobject).symm ▸ h⟩
      simp only [step, hheld]
    | call k' op =>
      obtain rfl : k' = k := Option.some.inj hc
      simp only [ownStep, hobject] at hown
      obtain ⟨⟨y, b⟩, hact, rfl⟩ := Option.map_eq_some_iff.mp hown
      obtain ⟨t', huse, hkeeps⟩ := h.use hobject (f := fun x => B.act x op) hact
      refine ⟨rfl, t', ?_, hkeeps⟩
      simp only [step, hheld, huse, Option.map_some]
    | close k' =>
      obtain rfl : k' = k := Option.some.inj hc
      simp only [ownStep, hobject, Option.some.injEq] at hown
      subst hown
      obtain ⟨t', hclose, hkeeps⟩ := h.close hobject
      refine ⟨rfl, t', ?_, hkeeps⟩
      simp only [step, hheld, hclose, Option.map_some]

theorem concerns_of_caller (hc : c.caller = some k) (k' : κ) :
    c.concerns k' = decide (k = k') := by
  rw [Command.concerns, hc, Option.all_some]
  rfl

/-- If every caller alone is answered, so are all of them together, and each as if alone. -/
theorem run_isolated (cs : List (Command κ ρ ο υ)) (h : Keeps t objects)
    (hown : ∀ k, (runOwn B k (s, objects k) cs).isSome) :
    ∃ s' t' objects' answers, run B A (s, t) cs = some ((s', t'), answers) ∧
      Keeps t' objects' ∧
      ∀ k, runOwn B k (s, objects k) cs = some ((s', objects' k), answersTo k answers) := by
  induction cs generalizing s t objects with
  | nil => exact ⟨s, t, objects, [], rfl, h, fun k => rfl⟩
  | cons c cs ih =>
    cases hc : c.caller with
    | none =>
      obtain ⟨u, rfl⟩ : ∃ u, c = .update u := by
        cases c with
        | update u => exact ⟨u, rfl⟩
        | _ => cases hc
      have hstep : ∀ k, runOwn B k (s, objects k) (.update u :: cs) =
          runOwn B k (B.update s u, objects k) cs := by
        intro k
        simp only [runOwn, Command.concerns, hc, Option.all_none, if_true, ownStep,
          Option.bind_some, Option.toList_none, List.nil_append]
        exact Option.map_id' ..
      obtain ⟨s', t', objects', answers, hrun, hkeeps, hanswers⟩ :=
        ih (s := B.update s u) h fun k => hstep k ▸ hown k
      refine ⟨s', t', objects', answers, ?_, hkeeps, fun k => (hstep k).trans (hanswers k)⟩
      simp only [run, step, hrun, Option.bind_some, Option.map_some, Option.map_none,
        Option.toList_none, List.nil_append]
    | some k₀ =>
      have hother : ∀ k, k ≠ k₀ → runOwn B k (s, objects k) (c :: cs) =
          runOwn B k (s, objects k) cs := by
        intro k hk
        rw [runOwn, concerns_of_caller hc, if_neg (by simpa using Ne.symm hk)]
      obtain ⟨⟨o, final⟩, hfirst⟩ := Option.isSome_iff_exists.mp (hown k₀)
      rw [runOwn, concerns_of_caller hc, if_pos (by simp),
        Option.bind_eq_some_iff] at hfirst
      obtain ⟨r, hr, hrest⟩ := hfirst
      obtain ⟨hshared, t₁, hstep, hkeeps₁⟩ := step_own (A := A) h hc hr
      have hself : runOwn B k₀ (s, objects k₀) (c :: cs) =
          (runOwn B k₀ (s, r.1.2) cs).map fun rest => (rest.1, r.2.toList ++ rest.2) := by
        rw [runOwn, concerns_of_caller hc, if_pos (by simp), hr, ← hshared]
        rfl
      have hnext : ∀ k, (runOwn B k (s, Function.update objects k₀ r.1.2 k) cs).isSome := by
        intro k
        by_cases hk : k = k₀
        · subst hk
          have hsome := hown k
          rw [hself, Option.isSome_map] at hsome
          rw [Function.update_self]
          exact hsome
        · rw [Function.update_of_ne hk, ← hother k hk]
          exact hown k
      obtain ⟨s', t', objects', answers, hrun, hkeeps, hanswers⟩ := ih hkeeps₁ hnext
      refine ⟨s', t', objects', (r.2.map fun a => (c, a)).toList ++ answers, ?_, hkeeps,
        fun k => ?_⟩
      · simp only [run, hstep, hrun, Option.bind_some, Option.map_some]
      · have hk := hanswers k
        by_cases hkk : k = k₀
        · subst hkk
          rw [Function.update_self] at hk
          rw [hself, hk, Option.map_some]
          cases r.2 with
          | none => rfl
          | some a =>
            simp [answersTo, concerns_of_caller hc]
        · rw [Function.update_of_ne hkk] at hk
          rw [hother k hkk, hk]
          cases r.2 with
          | none => rfl
          | some a => simp [answersTo, concerns_of_caller hc, Ne.symm hkk]

end Isolation

section Simulation

variable {σ σ' ρ ο υ α' : Type}

/-- Two behaviours that answer alike: what the first answers, the second does too. -/
structure Simulates (B : Behaviour σ ρ ο υ α β) (B' : Behaviour σ' ρ ο υ α' β)
    (R : σ → σ' → Prop) (Q : α → α' → Prop) (U : υ → Prop) : Prop where
  create : ∀ s s', R s s' → ∀ request, Option.Rel Q (B.create s request) (B'.create s' request)
  act : ∀ x x', Q x x' → ∀ op y b, B.act x op = some (y, b) →
    ∃ y', B'.act x' op = some (y', b) ∧ Q y y'
  update : ∀ s s', R s s' → ∀ u, U u → R (B.update s u) (B'.update s' u)

variable {B : Behaviour σ ρ ο υ α β} {B' : Behaviour σ' ρ ο υ α' β} {R : σ → σ' → Prop}
variable {Q : α → α' → Prop} {U : υ → Prop} {s : σ} {s' : σ'} {o : Option α} {o' : Option α'}

omit [DecidableEq κ] in
theorem rel_isSome (h : Option.Rel Q o o') : o'.isSome = o.isSome := by
  cases h <;> rfl

omit [DecidableEq κ] in
theorem Simulates.ownStep (h : Simulates B B' R Q U) (c : Command κ ρ ο υ)
    (hU : ∀ u, c = .update u → U u) (hs : R s s') (ho : Option.Rel Q o o')
    {r : (σ × Option α) × Option (Answer β)} (hown : HandleTable.ownStep B (s, o) c = some r) :
    ∃ t' p', HandleTable.ownStep B' (s', o') c = some ((t', p'), r.2) ∧ R r.1.1 t' ∧
      Option.Rel Q r.1.2 p' := by
  cases c with
  | update u =>
    obtain rfl := Option.some.inj hown
    exact ⟨_, _, rfl, h.update s s' hs u (hU u rfl), ho⟩
  | «open» k request =>
    cases ho with
    | some hx =>
      obtain rfl := Option.some.inj hown
      exact ⟨_, _, rfl, hs, .some hx⟩
    | none =>
      obtain rfl := Option.some.inj hown
      have hcreate := h.create s s' hs request
      refine ⟨_, _, ?_, hs, hcreate⟩
      simp only [HandleTable.ownStep, rel_isSome hcreate]
  | call k op =>
    cases ho with
    | none =>
      obtain rfl := Option.some.inj hown
      exact ⟨_, _, rfl, hs, .none⟩
    | @some x x' hx =>
      obtain ⟨⟨y, b⟩, hact, rfl⟩ := Option.map_eq_some_iff.mp hown
      obtain ⟨y', hact', hy⟩ := h.act x x' hx op y b hact
      refine ⟨_, _, ?_, hs, .some hy⟩
      simp only [HandleTable.ownStep, hact', Option.map_some]
  | close k =>
    cases ho with
    | none =>
      obtain rfl := Option.some.inj hown
      exact ⟨_, _, rfl, hs, .none⟩
    | some hx =>
      obtain rfl := Option.some.inj hown
      exact ⟨_, _, rfl, hs, .none⟩

theorem Simulates.runOwn (h : Simulates B B' R Q U) (k : κ) (cs : List (Command κ ρ ο υ))
    (hU : ∀ u, .update u ∈ cs → U u) (hs : R s s') (ho : Option.Rel Q o o')
    {r : (σ × Option α) × List (Answer β)} (hown : HandleTable.runOwn B k (s, o) cs = some r) :
    ∃ t' p', HandleTable.runOwn B' k (s', o') cs = some ((t', p'), r.2) ∧ R r.1.1 t' ∧
      Option.Rel Q r.1.2 p' := by
  induction cs generalizing s s' o o' r with
  | nil =>
    obtain rfl := Option.some.inj hown
    exact ⟨s', o', rfl, hs, ho⟩
  | cons c cs ih =>
    have hrest : ∀ u, .update u ∈ cs → U u := fun u hu => hU u (List.mem_cons_of_mem _ hu)
    unfold HandleTable.runOwn at hown ⊢
    by_cases hc : c.concerns k = true
    · rw [if_pos hc] at hown ⊢
      obtain ⟨first, hfirst, hown⟩ := Option.bind_eq_some_iff.mp hown
      obtain ⟨rest, hrun, rfl⟩ := Option.map_eq_some_iff.mp hown
      obtain ⟨t', p', hstep', ht', hp'⟩ := h.ownStep c
        (fun u hu => hU u (hu ▸ List.mem_cons_self ..)) hs ho hfirst
      obtain ⟨t'', p'', hrun', ht'', hp''⟩ := ih hrest ht' hp' hrun
      refine ⟨t'', p'', ?_, ht'', hp''⟩
      rw [hstep', Option.bind_some, hrun', Option.map_some]
    · rw [if_neg hc] at hown ⊢
      exact ih hrest hs ho hown

end Simulation

end GMediaRender.HandleTable
