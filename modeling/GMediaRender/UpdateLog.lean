import Mathlib.Logic.Function.Basic
import Mathlib.Data.List.Basic

/-!
Keyed updates replayed in order, so that the last entry of a key wins, and a
publisher that collects updates in a batch, flushes the batch as one message and
suppresses a message equal to the previous one. Replaying a message a second time
changes nothing; that is why the suppression is harmless to a reader of all messages.
A late reader starts from a copy that is out of date at most on keys that are still to be
published. Once they have been, it agrees with the readers of all messages, and no
suppression can take that away.
-/
namespace GMediaRender.UpdateLog

variable {κ ν : Type*} [DecidableEq κ]

abbrev View (κ ν : Type*) := κ → Option ν

/-- Replay updates over a view; a later entry of a key replaces an earlier one. -/
def replay (m : View κ ν) (us : List (κ × ν)) : View κ ν :=
  us.foldl (fun m u => Function.update m u.1 (some u.2)) m

@[simp] theorem replay_nil (m : View κ ν) : replay m [] = m := rfl

theorem replay_cons (m : View κ ν) (u : κ × ν) (us : List (κ × ν)) :
    replay m (u :: us) = replay (Function.update m u.1 (some u.2)) us := rfl

theorem replay_append (m : View κ ν) (us ws : List (κ × ν)) :
    replay m (us ++ ws) = replay (replay m us) ws := List.foldl_append

theorem replay_concat (m : View κ ν) (us : List (κ × ν)) (k : κ) (v : ν) :
    replay m (us ++ [(k, v)]) = Function.update (replay m us) k (some v) := by
  rw [replay_append]
  rfl

theorem replay_of_notMem (m : View κ ν) (us : List (κ × ν)) (k : κ)
    (h : k ∉ us.map Prod.fst) : replay m us k = m k := by
  induction us generalizing m with
  | nil => rfl
  | cons u us ih =>
    simp only [List.map_cons, List.mem_cons, not_or] at h
    rw [replay_cons, ih _ h.2, Function.update_of_ne h.1]

/-- A key that the updates mention forgets the view they are replayed over. -/
theorem replay_of_mem (m m' : View κ ν) (us : List (κ × ν)) (k : κ)
    (h : k ∈ us.map Prod.fst) : replay m us k = replay m' us k := by
  induction us generalizing m m' with
  | nil => simp at h
  | cons u us ih =>
    rw [replay_cons, replay_cons]
    by_cases hk : k ∈ us.map Prod.fst
    · exact ih _ _ hk
    · have hu : k = u.1 := by simpa [hk] using h
      rw [replay_of_notMem _ us k hk, replay_of_notMem _ us k hk, hu]
      simp

/-- Views that agree on a key agree on it after the same updates. -/
theorem replay_agree {m m' : View κ ν} {k : κ} (h : m k = m' k) (us : List (κ × ν)) :
    replay m us k = replay m' us k := by
  by_cases hk : k ∈ us.map Prod.fst
  · exact replay_of_mem m m' us k hk
  · rw [replay_of_notMem m us k hk, replay_of_notMem m' us k hk, h]

/-- Replaying the same updates a second time changes nothing. -/
theorem replay_self (m : View κ ν) (us : List (κ × ν)) :
    replay (replay m us) us = replay m us := by
  funext k
  by_cases hk : k ∈ us.map Prod.fst
  · exact replay_of_mem _ _ us k hk
  · exact replay_of_notMem _ us k hk

/-- Distinct keys are all read back from a list of updates. -/
theorem replay_of_nodup (m : View κ ν) (us : List (κ × ν)) (hus : (us.map Prod.fst).Nodup)
    (k : κ) (v : ν) (h : (k, v) ∈ us) : replay m us k = some v := by
  induction us generalizing m with
  | nil => simp at h
  | cons u us ih =>
    rw [List.map_cons, List.nodup_cons] at hus
    rw [replay_cons]
    rcases List.mem_cons.mp h with rfl | h
    · rw [replay_of_notMem _ us _ hus.1]
      simp
    · exact ih _ hus.2 h

/-- What is read after a replay was there before or comes from one of the updates. -/
theorem mem_of_replay (m : View κ ν) (us : List (κ × ν)) (k : κ) (v : ν)
    (h : replay m us k = some v) : (k, v) ∈ us ∨ m k = some v := by
  induction us generalizing m with
  | nil => exact Or.inr h
  | cons u us ih =>
    rw [replay_cons] at h
    rcases ih _ h with hmem | hm
    · exact Or.inl (List.mem_cons_of_mem _ hmem)
    · by_cases hk : k = u.1
      · subst hk
        rw [Function.update_self] at hm
        rw [← Option.some.inj hm]
        exact Or.inl (List.mem_cons_self ..)
      · rw [Function.update_of_ne hk] at hm
        exact Or.inr hm

/-- What is stored, what waits to be published and the messages published so far. -/
structure Publisher (κ ν : Type*) where
  store : View κ ν
  pending : List (κ × ν)
  sent : List (List (κ × ν))

namespace Publisher

def write (p : Publisher κ ν) (k : κ) (v : ν) : Publisher κ ν :=
  ⟨Function.update p.store k (some v), p.pending ++ [(k, v)], p.sent⟩

/-- Publish the pending batch, unless it is empty or repeats the last message. -/
def flush [DecidableEq ν] (p : Publisher κ ν) : Publisher κ ν :=
  if p.pending = [] then p
  else if p.sent.getLast? = some p.pending then ⟨p.store, [], p.sent⟩
  else ⟨p.store, [], p.sent ++ [p.pending]⟩

/-- What a reader of every message holds. -/
def published (p : Publisher κ ν) : View κ ν := replay (fun _ => none) p.sent.flatten

/-- The messages and the pending batch together give the store. -/
def Mirrors (p : Publisher κ ν) : Prop := replay p.published p.pending = p.store

theorem write_mirrors (p : Publisher κ ν) (hp : p.Mirrors) (k : κ) (v : ν) :
    (p.write k v).Mirrors := by
  change replay p.published (p.pending ++ [(k, v)]) = Function.update p.store k (some v)
  rw [replay_concat, hp]

theorem published_eq_store (p : Publisher κ ν) (hp : p.Mirrors) (h : p.pending = []) :
    p.published = p.store := by
  rw [← hp, h, replay_nil]

theorem published_of_repeat (p : Publisher κ ν) (h : p.sent.getLast? = some p.pending) :
    replay p.published p.pending = p.published := by
  obtain ⟨init, hinit⟩ := List.getLast?_eq_some_iff.mp h
  unfold published
  rw [hinit, List.flatten_append, List.flatten_singleton, replay_append]
  exact replay_self _ _

variable [DecidableEq ν]

theorem flush_store (p : Publisher κ ν) : p.flush.store = p.store := by
  unfold flush
  split
  · rfl
  · split <;> rfl

theorem flush_pending (p : Publisher κ ν) : p.flush.pending = [] := by
  unfold flush
  split
  · assumption
  · split <;> rfl

/-- Flushing publishes exactly the pending updates, also when the message is suppressed. -/
theorem flush_published (p : Publisher κ ν) :
    p.flush.published = replay p.published p.pending := by
  unfold flush
  split
  · rename_i h
    rw [h, replay_nil]
  · split
    · rename_i h
      rw [published_of_repeat p h]
      rfl
    · unfold published
      rw [List.flatten_append, List.flatten_singleton, replay_append]

theorem flush_mirrors (p : Publisher κ ν) (hp : p.Mirrors) : p.flush.Mirrors := by
  unfold Mirrors
  rw [flush_pending, replay_nil, flush_published, flush_store]
  exact hp

/-- What recording a value may do to a publisher that stores only new values and that
flushes at once while it is not inside a batch. -/
inductive Record : Publisher κ ν → Publisher κ ν → Prop
  | stay (p) : Record p p
  | write (p k v) : p.store k ≠ some v → Record p (p.write k v)
  | publish (p k v) : p.store k ≠ some v → p.pending = [] → Record p (p.write k v).flush

/-- The copy is right on the keys in `E`, apart from those still to be published. -/
def Follows (E : κ → Prop) (copy : View κ ν) (p : Publisher κ ν) : Prop :=
  ∀ k, E k → k ∉ p.pending.map Prod.fst → copy k = p.store k

/-- The values that wait to be published, and those of the messages after the first `n`, are
of a kind. -/
structure Only (P : ν → Prop) (p : Publisher κ ν) (n : ℕ) : Prop where
  pending : ∀ u ∈ p.pending, P u.2
  sent : ∀ us ∈ p.sent.drop n, ∀ u ∈ us, P u.2

omit [DecidableEq ν] in
theorem Only.write {P : ν → Prop} {p : Publisher κ ν} {n : ℕ} (h : p.Only P n) (k : κ) {v : ν}
    (hv : P v) : (p.write k v).Only P n where
  pending u hu := by
    rcases List.mem_append.mp hu with hu | hu
    · exact h.pending u hu
    · obtain rfl := List.mem_singleton.mp hu
      exact hv
  sent := h.sent

theorem Only.flush {P : ν → Prop} {p : Publisher κ ν} {n : ℕ} (h : p.Only P n) :
    p.flush.Only P n := by
  unfold Publisher.flush
  split_ifs
  · exact h
  · exact ⟨fun u hu => absurd hu List.not_mem_nil, h.sent⟩
  · refine ⟨fun u hu => absurd hu List.not_mem_nil, fun us hus => ?_⟩
    rw [List.drop_append, List.mem_append] at hus
    rcases hus with hus | hus
    · exact h.sent us hus
    · obtain rfl := List.mem_singleton.mp (List.mem_of_mem_drop hus)
      exact h.pending

/-- What a reader who has seen `n` messages gets from the ones after them. -/
def unread (p : Publisher κ ν) (n : ℕ) : List (κ × ν) := (p.sent.drop n).flatten

variable {E : κ → Prop} {copy : View κ ν} {p : Publisher κ ν}

omit [DecidableEq κ] [DecidableEq ν] in
theorem Follows.upToDate (h : Follows E copy p) (hp : p.pending = []) (k : κ) (hk : E k) :
    copy k = p.store k :=
  h k hk (by simp [hp])

omit [DecidableEq ν] in
theorem Follows.write (h : Follows E copy p) (k : κ) (v : ν) :
    Follows E copy (p.write k v) := by
  intro k' hk' hpending
  have hne : k' ≠ k ∧ k' ∉ p.pending.map Prod.fst := by
    simpa [Publisher.write, not_or, and_comm] using hpending
  rw [h k' hk' hne.2]
  exact (Function.update_of_ne hne.1 _ _).symm

omit [DecidableEq ν] in
/-- A message that is sent brings the copy up to date. -/
theorem Follows.replay_pending (h : Follows E copy p) (hp : p.Mirrors) (k : κ) (hk : E k) :
    replay copy p.pending k = p.store k := by
  rw [← hp]
  by_cases hmem : k ∈ p.pending.map Prod.fst
  · exact replay_of_mem _ _ _ k hmem
  · rw [replay_of_notMem _ _ k hmem, replay_of_notMem _ _ k hmem, h k hk hmem, ← hp,
      replay_of_notMem _ _ k hmem]

theorem unread_flush (p : Publisher κ ν) (n : ℕ) (hn : n ≤ p.sent.length) :
    p.flush.unread n = p.unread n ++
      if p.sent.getLast? = some p.pending then [] else p.pending := by
  unfold flush unread
  by_cases hp : p.pending = []
  · simp [hp]
  · by_cases hrep : p.sent.getLast? = some p.pending
    · simp [hp, hrep]
    · simp [hp, hrep, List.drop_append_of_le_length hn]

/-- The copy is the one of a reader of every message, on the keys in `E`. -/
def Agrees (E : κ → Prop) (copy : View κ ν) (p : Publisher κ ν) : Prop :=
  ∀ k, E k → copy k = p.published k

omit [DecidableEq ν] in
theorem Agrees.follows (h : Agrees E copy p) (hp : p.Mirrors) : Follows E copy p := by
  intro k hk hpending
  rw [h k hk, ← hp, replay_of_notMem _ _ k hpending]

omit [DecidableEq ν] in
theorem Follows.agrees (h : Follows E copy p) (hp : p.Mirrors) (hidle : p.pending = []) :
    Agrees E copy p := by
  intro k hk
  rw [p.published_eq_store hp hidle, h.upToDate hidle k hk]

/-- A reader that agrees goes on agreeing, also when the message is suppressed. -/
theorem Agrees.flush {init : View κ ν} {n : ℕ} (hn : n ≤ p.sent.length)
    (h : Agrees E (replay init (p.unread n)) p) :
    Agrees E (replay init (p.flush.unread n)) p.flush := by
  intro k hk
  rw [unread_flush p n hn, replay_append, flush_published]
  split
  · rename_i hlast
    rw [replay_nil, published_of_repeat p hlast]
    exact h k hk
  · exact replay_agree (h k hk) p.pending

/-- A reader that follows agrees as soon as a message is sent. -/
theorem Follows.flush {init : View κ ν} {n : ℕ} (hn : n ≤ p.sent.length)
    (h : Follows E (replay init (p.unread n)) p) (hp : p.Mirrors)
    (hsent : p.sent.getLast? ≠ some p.pending) :
    Agrees E (replay init (p.flush.unread n)) p.flush := by
  intro k hk
  rw [unread_flush p n hn, if_neg hsent, replay_append, flush_published]
  rw [h.replay_pending hp k hk]
  exact (congrFun hp k).symm

theorem Agrees.record {init : View κ ν} {n : ℕ} {p' : Publisher κ ν} (hrec : Record p p')
    (hn : n ≤ p.sent.length) (h : Agrees E (replay init (p.unread n)) p) :
    Agrees E (replay init (p'.unread n)) p' := by
  cases hrec with
  | stay => exact h
  | write k v hv => exact h
  | publish k v hv hidle => exact Agrees.flush (p := p.write k v) hn h

theorem Follows.record {init : View κ ν} {n : ℕ} {p' : Publisher κ ν} (hrec : Record p p')
    (hn : n ≤ p.sent.length) (h : Follows E (replay init (p.unread n)) p) (hp : p.Mirrors) :
    Follows E (replay init (p'.unread n)) p' := by
  cases hrec with
  | stay => exact h
  | write k v hv => exact h.write k v
  | publish k v hv hidle =>
    have hagrees : Agrees E (replay init ((p.write k v).unread n)) (p.write k v) :=
      h.agrees hp hidle
    exact (hagrees.flush (p := p.write k v) hn).follows
      ((p.write k v).flush_mirrors (p.write_mirrors hp k v))

theorem length_flush (p : Publisher κ ν) : p.sent.length ≤ p.flush.sent.length := by
  unfold Publisher.flush
  split
  · exact Nat.le_refl _
  · split <;> simp

/-- Messages that have been sent stay sent. -/
theorem flush_sent (p : Publisher κ ν) : p.sent <+: p.flush.sent := by
  unfold flush
  split
  · exact List.prefix_rfl
  · split
    · exact List.prefix_rfl
    · exact List.prefix_append _ _

omit [DecidableEq ν] in
/-- A reader who starts from what had been published reads what is published. -/
theorem replay_unread {p' : Publisher κ ν} (h : p.sent <+: p'.sent) {m : View κ ν} {k : κ}
    (hm : m k = p.published k) : replay m (p'.unread p.sent.length) k = p'.published k := by
  obtain ⟨more, hmore⟩ := h
  rw [unread, published, ← hmore, List.drop_left, List.flatten_append, replay_append]
  exact replay_agree hm more.flatten

theorem length_record {p' : Publisher κ ν} (hrec : Record p p') :
    p.sent.length ≤ p'.sent.length := by
  cases hrec with
  | stay => exact Nat.le_refl _
  | write k v hv => exact Nat.le_refl _
  | publish k v hv hidle => exact length_flush (p.write k v)

end Publisher

end GMediaRender.UpdateLog
