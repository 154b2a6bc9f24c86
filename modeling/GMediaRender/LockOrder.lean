import Mathlib.Algebra.BigOperators.Group.Finset.Basic
import Mathlib.Algebra.Order.BigOperators.Group.Finset
import Mathlib.Data.Fintype.Basic
import Mathlib.Data.Finset.Max
import Mathlib.Logic.Function.Basic
import Mathlib.Logic.Relation

/-!
Threads that lock mutexes in an order and post messages to a bounded queue. The code of a
thread is what it does with them: it locks and unlocks, posts, works, waits for something
outside, and branches on what is not modelled. Code is ordered if it locks in increasing rank,
unlocks what it locked last, ends with nothing locked and waits with nothing locked; it may post
with mutexes locked. Ordered threads cannot block each other for ever: some thread can move
until all have come to their end, or one has come to a queue without room.
-/
namespace GMediaRender.LockOrder

variable {μ τ : Type*}

inductive Code (μ : Type*) where
  | done
  | lock (m : μ) (rest : Code μ)
  | unlock (m : μ) (rest : Code μ)
  | work (rest : Code μ)
  | post (rest : Code μ)
  | await (rest : Code μ)
  | branch (first second : Code μ)

namespace Code

/-- One piece of code after another. -/
def seq : Code μ → Code μ → Code μ
  | done, c => c
  | lock m rest, c => lock m (rest.seq c)
  | unlock m rest, c => unlock m (rest.seq c)
  | work rest, c => work (rest.seq c)
  | post rest, c => post (rest.seq c)
  | await rest, c => await (rest.seq c)
  | branch a b, c => branch (a.seq c) (b.seq c)

/-- The most steps that the code can take. -/
def size : Code μ → ℕ
  | done => 0
  | lock _ rest | unlock _ rest | work rest | post rest | await rest => rest.size + 1
  | branch a b => max a.size b.size + 1

section Ordered

variable (rank : μ → ℕ)

/-- The code keeps to the order when the mutexes of the list are locked, the last one
first. -/
def Ordered : Code μ → List μ → Prop
  | done, held => held = []
  | lock m rest, held => (∀ h ∈ held, rank h < rank m) ∧ rest.Ordered (m :: held)
  | unlock m rest, held => held.head? = some m ∧ rest.Ordered held.tail
  | work rest, held => rest.Ordered held
  | post rest, held => rest.Ordered held
  | await rest, held => held = [] ∧ rest.Ordered held
  | branch a b, held => a.Ordered held ∧ b.Ordered held

instance decidableOrdered [DecidableEq μ] (c : Code μ) (held : List μ) :
    Decidable (c.Ordered rank held) :=
  match c with
  | done => inferInstanceAs (Decidable (held = []))
  | lock m rest =>
    have := decidableOrdered rest (m :: held)
    inferInstanceAs (Decidable ((∀ h ∈ held, rank h < rank m) ∧ rest.Ordered rank (m :: held)))
  | unlock m rest =>
    have := decidableOrdered rest held.tail
    inferInstanceAs (Decidable (held.head? = some m ∧ rest.Ordered rank held.tail))
  | work rest => decidableOrdered rest held
  | post rest => decidableOrdered rest held
  | await rest =>
    have := decidableOrdered rest held
    inferInstanceAs (Decidable (held = [] ∧ rest.Ordered rank held))
  | branch a b =>
    have := decidableOrdered a held
    have := decidableOrdered b held
    inferInstanceAs (Decidable (a.Ordered rank held ∧ b.Ordered rank held))

variable {rank}

/-- Code that gives back what it finds locked can be followed by any that is ordered. -/
theorem Ordered.seq {a b : Code μ} {held : List μ} (ha : a.Ordered rank held)
    (hb : b.Ordered rank []) : (a.seq b).Ordered rank held := by
  induction a generalizing held with
  | done =>
    obtain rfl : held = [] := ha
    exact hb
  | lock m rest ih => exact ⟨ha.1, ih ha.2⟩
  | unlock m rest ih => exact ⟨ha.1, ih ha.2⟩
  | work rest ih => exact ih ha
  | post rest ih => exact ih ha
  | await rest ih => exact ⟨ha.1, ih ha.2⟩
  | branch a b iha ihb => exact ⟨iha ha.1, ihb ha.2⟩

end Ordered

end Code

open Code

/-- What the threads are about to do, who owns the mutexes, and for how many messages the queue
has room. -/
structure State (μ τ : Type*) where
  code : τ → Code μ
  owner : μ → Option τ
  room : ℕ

section Steps

variable [DecidableEq μ] [DecidableEq τ]

def State.goto (s : State μ τ) (t : τ) (c : Code μ) : State μ τ :=
  { s with code := Function.update s.code t c }

def State.setOwner (s : State μ τ) (m : μ) (holder : Option τ) : State μ τ :=
  { s with owner := Function.update s.owner m holder }

/-- A step of thread `t`; a thread that comes to a mutex which is taken, or posts to a queue
without room, has none. -/
inductive Step (t : τ) (s : State μ τ) : State μ τ → Prop
  | lock (m : μ) (rest : Code μ) (hc : s.code t = .lock m rest) (hfree : s.owner m = none) :
      Step t s ((s.setOwner m (some t)).goto t rest)
  | unlock (m : μ) (rest : Code μ) (hc : s.code t = .unlock m rest) (hown : s.owner m = some t) :
      Step t s ((s.setOwner m none).goto t rest)
  | work (rest : Code μ) (hc : s.code t = .work rest) : Step t s (s.goto t rest)
  | post (rest : Code μ) (room : ℕ) (hc : s.code t = .post rest) (hroom : s.room = room + 1) :
      Step t s { s.goto t rest with room := room }
  | await (rest : Code μ) (hc : s.code t = .await rest) : Step t s (s.goto t rest)
  | first (a b : Code μ) (hc : s.code t = .branch a b) : Step t s (s.goto t a)
  | second (a b : Code μ) (hc : s.code t = .branch a b) : Step t s (s.goto t b)

/-- A thread that is done is given new code. -/
inductive Enter (entries : Set (Code μ)) (s : State μ τ) : State μ τ → Prop
  | enter (t : τ) (c : Code μ) (hdone : s.code t = .done) (hc : c ∈ entries) :
      Enter entries s (s.goto t c)

/-- A move of the system: a thread steps or is given new code, or others have taken messages
from the queue or added some. -/
def Move (entries : Set (Code μ)) (s s' : State μ τ) : Prop :=
  (∃ t, Step t s s') ∨ Enter entries s s' ∨ ∃ room, s' = { s with room := room }

def idle (room : ℕ) : State μ τ := ⟨fun _ => .done, fun _ => none, room⟩

def Reachable (entries : Set (Code μ)) : State μ τ → Prop :=
  Relation.ReflTransGen (Move entries) (idle 0)

/-- Steps of the threads alone, counted. -/
inductive Steps (s : State μ τ) : ℕ → State μ τ → Prop
  | refl : Steps s 0 s
  | tail {n : ℕ} {s' s'' : State μ τ} (t : τ) (h : Steps s n s') (hstep : Step t s' s'') :
      Steps s (n + 1) s''

section Invariant

variable (rank : μ → ℕ)

/-- Every thread keeps to the order with the mutexes it owns. -/
structure Disciplined (s : State μ τ) (held : τ → List μ) : Prop where
  ordered : ∀ t, (s.code t).Ordered rank (held t)
  owns : ∀ m t, s.owner m = some t ↔ m ∈ held t
  nodup : ∀ t, (held t).Nodup

variable {rank} {s s' : State μ τ} {held : τ → List μ}

omit [DecidableEq μ] [DecidableEq τ] in
theorem disciplined_idle (room : ℕ) : Disciplined rank (idle room : State μ τ) fun _ => [] :=
  ⟨fun _ => rfl, fun m t => by simp [idle], fun _ => List.nodup_nil⟩

omit [DecidableEq μ] in
/-- A thread moves on without touching a mutex. -/
theorem Disciplined.goto (h : Disciplined rank s held) {t : τ} {c : Code μ}
    (hc : c.Ordered rank (held t)) : Disciplined rank (s.goto t c) held := by
  refine ⟨fun u => ?_, h.owns, h.nodup⟩
  by_cases hu : u = t
  · subst hu
    simpa [State.goto] using hc
  · simpa [State.goto, hu] using h.ordered u

omit [DecidableEq μ] [DecidableEq τ] in
theorem Disciplined.setRoom (h : Disciplined rank s held) (room : ℕ) :
    Disciplined rank { s with room := room } held := ⟨h.ordered, h.owns, h.nodup⟩

theorem Disciplined.lock (h : Disciplined rank s held) {t : τ} {m : μ} {rest : Code μ}
    (hc : s.code t = .lock m rest) (hfree : s.owner m = none) :
    Disciplined rank ((s.setOwner m (some t)).goto t rest)
      (Function.update held t (m :: held t)) := by
  have hord := h.ordered t
  rw [hc] at hord
  have hnew : m ∉ held t := by
    intro hmem
    have hown := (h.owns m t).mpr hmem
    rw [hfree] at hown
    cases hown
  refine ⟨fun u => ?_, fun k u => ?_, fun u => ?_⟩
  · by_cases hu : u = t
    · subst hu
      simpa [State.goto] using hord.2
    · simpa [State.goto, State.setOwner, hu] using h.ordered u
  · simp only [State.goto, State.setOwner]
    by_cases hk : k = m
    · subst hk
      by_cases hu : u = t
      · subst hu
        simp
      · have hnone : k ∉ held u := by
          intro hmem
          have hown := (h.owns k u).mpr hmem
          rw [hfree] at hown
          cases hown
        simp [hu, Ne.symm hu, hnone]
    · by_cases hu : u = t
      · subst hu
        simpa [hk] using h.owns k u
      · simpa [hk, hu] using h.owns k u
  · by_cases hu : u = t
    · subst hu
      simpa using ⟨hnew, h.nodup u⟩
    · simpa [hu] using h.nodup u

theorem Disciplined.unlock (h : Disciplined rank s held) {t : τ} {m : μ} {rest : Code μ}
    (hc : s.code t = .unlock m rest) :
    Disciplined rank ((s.setOwner m none).goto t rest)
      (Function.update held t (held t).tail) := by
  have hord := h.ordered t
  rw [hc] at hord
  obtain ⟨others, hheld⟩ : ∃ others, held t = m :: others :=
    ⟨(held t).tail, (List.cons_head?_tail hord.1).symm⟩
  have hnodup := h.nodup t
  have hrest := hord.2
  rw [hheld] at hnodup hrest
  rw [List.nodup_cons] at hnodup
  rw [hheld, List.tail_cons]
  rw [List.tail_cons] at hrest
  refine ⟨fun u => ?_, fun k u => ?_, fun u => ?_⟩
  · by_cases hu : u = t
    · subst hu
      simpa [State.goto] using hrest
    · simpa [State.goto, State.setOwner, hu] using h.ordered u
  · simp only [State.goto, State.setOwner]
    by_cases hk : k = m
    · subst hk
      by_cases hu : u = t
      · subst hu
        simp [hnodup.1]
      · have hnone : k ∉ held u := by
          intro hmem
          have hown := (h.owns k u).mpr hmem
          have hmine := (h.owns k t).mpr (by simp [hheld])
          exact hu (Option.some.inj (hown.symm.trans hmine))
        simp [hu, hnone]
    · by_cases hu : u = t
      · subst hu
        have howns := h.owns k u
        rw [hheld] at howns
        simpa [hk] using howns
      · simpa [hk, hu] using h.owns k u
  · by_cases hu : u = t
    · subst hu
      simpa using hnodup.2
    · simpa [hu] using h.nodup u

theorem Disciplined.step (h : Disciplined rank s held) {t : τ} (hstep : Step t s s') :
    ∃ held', Disciplined rank s' held' := by
  have hord := h.ordered t
  cases hstep with
  | lock m rest hc hfree => exact ⟨_, h.lock hc hfree⟩
  | unlock m rest hc hown => exact ⟨_, h.unlock hc⟩
  | work rest hc =>
    rw [hc] at hord
    exact ⟨held, h.goto hord⟩
  | post rest room hc hroom =>
    rw [hc] at hord
    have hrest : rest.Ordered rank (held t) := hord
    exact ⟨held, (h.goto hrest).setRoom room⟩
  | await rest hc =>
    rw [hc] at hord
    exact ⟨held, h.goto hord.2⟩
  | first a b hc =>
    rw [hc] at hord
    exact ⟨held, h.goto hord.1⟩
  | second a b hc =>
    rw [hc] at hord
    exact ⟨held, h.goto hord.2⟩

omit [DecidableEq μ] in
theorem Disciplined.enter (h : Disciplined rank s held) {entries : Set (Code μ)}
    (hentries : ∀ c ∈ entries, c.Ordered rank []) (henter : Enter entries s s') :
    ∃ held', Disciplined rank s' held' := by
  cases henter with
  | enter t c hdone hc =>
    have hord := h.ordered t
    rw [hdone] at hord
    have hempty : held t = [] := hord
    exact ⟨held, h.goto (by rw [hempty]; exact hentries c hc)⟩

theorem disciplined_of_reachable {entries : Set (Code μ)}
    (hentries : ∀ c ∈ entries, c.Ordered rank []) (h : Reachable entries s) :
    ∃ held, Disciplined rank s held := by
  induction h with
  | refl => exact ⟨_, disciplined_idle 0⟩
  | tail _ hmove ih =>
    obtain ⟨held, hd⟩ := ih
    rcases hmove with ⟨t, hstep⟩ | henter | ⟨room, rfl⟩
    · exact hd.step hstep
    · exact hd.enter hentries henter
    · exact ⟨held, hd.setRoom room⟩

/-- A thread posts and there is no room. -/
def Full (s : State μ τ) : Prop := s.room = 0 ∧ ∃ t rest, s.code t = .post rest

/-- A thread that cannot move though it is not done waits for a mutex of another thread, if there
is no thread that waits for room in the queue. -/
theorem Disciplined.blocked (h : Disciplined rank s held) (hroom : ¬ Full s) {t : τ}
    (hcode : s.code t ≠ .done) (hstuck : ∀ s', ¬ Step t s s') :
    ∃ m rest u, s.code t = .lock m rest ∧ m ∈ held u ∧ ∀ k ∈ held t, rank k < rank m := by
  have hord := h.ordered t
  cases hc : s.code t with
  | done => exact absurd hc hcode
  | lock m rest =>
    rw [hc] at hord
    cases hown : s.owner m with
    | none => exact absurd (.lock m rest hc hown) (hstuck _)
    | some u => exact ⟨m, rest, u, rfl, (h.owns m u).mp hown, hord.1⟩
  | unlock m rest =>
    rw [hc] at hord
    have hmem : m ∈ held t := List.mem_of_mem_head? hord.1
    exact absurd (.unlock m rest hc ((h.owns m t).mpr hmem)) (hstuck _)
  | work rest => exact absurd (.work rest hc) (hstuck _)
  | post rest =>
    have hsome : s.room ≠ 0 := fun hzero => hroom ⟨hzero, t, rest, hc⟩
    obtain ⟨room, hroom⟩ := Nat.exists_eq_succ_of_ne_zero hsome
    exact absurd (.post rest room hc hroom) (hstuck _)
  | await rest => exact absurd (.await rest hc) (hstuck _)
  | branch a b => exact absurd (.first a b hc) (hstuck _)

omit [DecidableEq μ] [DecidableEq τ] in
theorem Disciplined.held_of_done (h : Disciplined rank s held) {t : τ}
    (hdone : s.code t = .done) : held t = [] := by
  have hord := h.ordered t
  rw [hdone] at hord
  exact hord

/-- The rank of the mutex that a thread comes to. -/
def wanted (rank : μ → ℕ) : Code μ → ℕ
  | .lock m _ => rank m
  | _ => 0

/-- Threads that all wait for mutexes would wait for ones of ever higher rank. -/
theorem Disciplined.progress [Fintype τ] (h : Disciplined rank s held) (hroom : ¬ Full s)
    (hactive : ∃ t, s.code t ≠ .done) : ∃ t s', Step t s s' := by
  classical
  by_contra hnone
  have hstuck : ∀ t s', ¬ Step t s s' := fun t s' hstep => hnone ⟨t, s', hstep⟩
  let active := Finset.univ.filter fun t => s.code t ≠ .done
  obtain ⟨t₀, ht₀⟩ := hactive
  obtain ⟨t, ht, hmax⟩ := active.exists_max_image (fun t => wanted rank (s.code t))
    ⟨t₀, by simpa [active] using ht₀⟩
  have htcode : s.code t ≠ .done := by simpa [active] using ht
  obtain ⟨m, rest, u, hc, hmem, -⟩ := h.blocked hroom htcode (hstuck t)
  have hucode : s.code u ≠ .done := by
    intro hdone
    rw [h.held_of_done hdone] at hmem
    cases hmem
  obtain ⟨m', rest', -, hc', -, hbelow⟩ := h.blocked hroom hucode (hstuck u)
  have hle := hmax u (by simpa [active] using hucode)
  have hlt := hbelow m hmem
  simp only [hc, hc', wanted] at hle
  omega

end Invariant

section Completion

variable [Fintype τ]

/-- The most steps that the threads can take together. -/
def total (s : State μ τ) : ℕ := ∑ t, (s.code t).size

omit [DecidableEq μ] in
theorem total_goto (s : State μ τ) (t : τ) (c : Code μ) (hc : c.size < (s.code t).size) :
    total (s.goto t c) < total s := by
  refine Finset.sum_lt_sum (fun u _ => ?_) ⟨t, Finset.mem_univ t, by simpa [State.goto] using hc⟩
  by_cases hu : u = t
  · subst hu
    simpa [State.goto] using hc.le
  · simp [State.goto, hu]

theorem Step.total_lt {s s' : State μ τ} {t : τ} (h : Step t s s') : total s' < total s := by
  cases h with
  | lock m rest hc hfree =>
    exact total_goto (s.setOwner m (some t)) t rest (by simp [State.setOwner, hc, size])
  | unlock m rest hc hown =>
    exact total_goto (s.setOwner m none) t rest (by simp [State.setOwner, hc, size])
  | work rest hc => exact total_goto s t rest (by simp [hc, size])
  | post rest room hc hroom => exact total_goto s t rest (by simp [hc, size])
  | await rest hc => exact total_goto s t rest (by simp [hc, size])
  | first a b hc =>
    refine total_goto s t a ?_
    rw [hc, size]
    omega
  | second a b hc =>
    refine total_goto s t b ?_
    rw [hc, size]
    omega

theorem Steps.total_le {s s' : State μ τ} {n : ℕ} (h : Steps s n s') : total s' + n ≤ total s := by
  induction h with
  | refl => omega
  | tail t _ hstep ih =>
    have hlt := hstep.total_lt
    omega

omit [Fintype τ] in
theorem Steps.reachable {entries : Set (Code μ)} {s s' : State μ τ} {n : ℕ}
    (hs : Reachable entries s) (h : Steps s n s') : Reachable entries s' := by
  induction h with
  | refl => exact hs
  | tail t _ hstep ih => exact ih.tail (Or.inl ⟨t, hstep⟩)

omit [DecidableEq μ] [DecidableEq τ] [Fintype τ] in
/-- Nothing is locked when all threads are done. -/
theorem Disciplined.owner_none {rank : μ → ℕ} {s : State μ τ} {held : τ → List μ}
    (h : Disciplined rank s held) (hdone : ∀ t, s.code t = .done) (m : μ) : s.owner m = none := by
  cases hown : s.owner m with
  | none => rfl
  | some t =>
    have hmem := (h.owns m t).mp hown
    rw [h.held_of_done (hdone t)] at hmem
    cases hmem

/-- From any reachable state the threads take a bounded number of steps, and they come to a halt
only where all are done and nothing is locked, or where the queue has no room for a thread that
posts; with room for it they go on. -/
theorem completes {rank : μ → ℕ} {entries : Set (Code μ)}
    (hentries : ∀ c ∈ entries, c.Ordered rank []) {s s' : State μ τ} {n : ℕ}
    (hs : Reachable entries s) (h : Steps s n s') :
    n ≤ total s ∧ ((∃ t s'', Step t s' s'') ∨
      ((∀ t, s'.code t = .done) ∧ ∀ m, s'.owner m = none) ∨
      Full s' ∧ ∀ room, 0 < room → ∃ t s'', Step t { s' with room := room } s'') := by
  have hle := h.total_le
  obtain ⟨held, hd⟩ := disciplined_of_reachable hentries (h.reachable hs)
  refine ⟨by omega, ?_⟩
  by_cases hactive : ∃ t, s'.code t ≠ .done
  · by_cases hfull : Full s'
    · refine Or.inr (Or.inr ⟨hfull, fun room hroom => ?_⟩)
      have hopen : ¬ Full { s' with room := room } := fun hf => hroom.ne' hf.1
      exact (hd.setRoom room).progress hopen hactive
    · exact Or.inl (hd.progress hfull hactive)
  · have hdone : ∀ t, s'.code t = .done := by
      intro t
      by_contra ht
      exact hactive ⟨t, ht⟩
    exact Or.inr (Or.inl ⟨hdone, hd.owner_none hdone⟩)

end Completion

/-- A thread that waits for something outside owns no mutex. -/
theorem awaits_free {rank : μ → ℕ} {entries : Set (Code μ)}
    (hentries : ∀ c ∈ entries, c.Ordered rank []) {s : State μ τ} (hs : Reachable entries s)
    {t : τ} {rest : Code μ} (hc : s.code t = .await rest) (m : μ) : s.owner m ≠ some t := by
  obtain ⟨held, hd⟩ := disciplined_of_reachable hentries hs
  have hord := hd.ordered t
  rw [hc] at hord
  intro hown
  have hmem := (hd.owns m t).mp hown
  rw [hord.1] at hmem
  cases hmem

end Steps

end GMediaRender.LockOrder
