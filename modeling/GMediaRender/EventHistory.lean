import GMediaRender.StateVariables
import GMediaRender.LastChangeStream

/-!
What a container with its collector becomes by changes and transactions, in whatever order they
come. No document that has been notified is taken back, and the variables that are ignored stay
the same.
-/
namespace GMediaRender.EventHistory

open XmlDoc VariableContainer StateVariables LastChangeStream UpdateLog

variable {ι : Type} [DecidableEq ι]

/-- What a container becomes by changes and transactions, with the changes of its values. -/
inductive Evolves (T : VariableTable ι) (S : Node → String) (s : Eventing ι) :
    List (Change ι) → Eventing ι → Prop
  | refl : Evolves T S s [] s
  | change {log : List (Change ι)} {s' s'' : Eventing ι} (h : Evolves T S s log s') (i : ι)
      (value : Option String) (hname : T.name i ≠ none) (hi : i ≠ T.lastChange)
      (happly : Op.apply T S s' (.change i value) = some s'') :
      Evolves T S s ((Store.mk s'.values log).replaceVar i (value.getD "")).changes s''
  | start {log : List (Change ι)} {s' : Eventing ι} (h : Evolves T S s log s') :
      Evolves T S s log (VariableContainer.start s')
  | finish {log : List (Change ι)} {s' s'' : Eventing ι} (h : Evolves T S s log s')
      (happly : VariableContainer.finish T S s' = some s'') : Evolves T S s log s''

variable {T : VariableTable ι} {S : Node → String} {ns : String} {s s' : Eventing ι}
variable {log : List (Change ι)}

theorem finish_opened (h : VariableContainer.finish T S s = some s') :
    1 ≤ s.collector.openTransactions := by
  unfold VariableContainer.finish at h
  split_ifs at h
  omega

theorem settled_sent (n : ℕ) (p : Publisher String String) : p.sent <+: (settled n p).sent := by
  unfold settled
  split_ifs
  · exact p.flush_sent
  · exact List.prefix_rfl

/-- The values of the variables are of a kind, and so are those that the publisher has to send
or has sent after the first `n` documents. -/
structure AllOf (P : String → Prop) (T : VariableTable ι) (s : Eventing ι)
    (p : Publisher String String) (n : ℕ) : Prop where
  values : ∀ i, i ≠ T.lastChange → P (s.values i)
  published : p.Only P n

theorem AllOf.updated {P : String → Prop} {p : Publisher String String} {n : ℕ}
    (h : AllOf P T s p n) (i : ι) {value : String} (hvalue : P value) :
    ∀ j, j ≠ T.lastChange → P (Function.update s.values i value j) := by
  intro j hj
  by_cases hji : j = i
  · subst hji
    rw [Function.update_self]
    exact hvalue
  · rw [Function.update_of_ne hji]
    exact h.values j hj

/-- Between transactions nothing waits to be sent. -/
theorem allOf_idle {P : String → Prop} {p : Publisher String String} (h : Settled T S ns s p)
    (hidle : s.collector.openTransactions = 0) (hvalues : ∀ i, i ≠ T.lastChange → P (s.values i)) :
    AllOf P T s p p.sent.length := by
  refine ⟨hvalues, fun u hu => ?_, fun us hus => ?_⟩
  · rw [h.idle hidle] at hu
    cases hu
  · rw [List.drop_length] at hus
    cases hus

/-- The publisher behind the collector only sends more, and no other values than those that the
variables had and are given. -/
theorem Evolves.settled (hinj : InjectiveTexts T S ns) (h : Evolves T S s log s')
    {p : Publisher String String} (hset : Settled T S ns s p) :
    ∃ p', Settled T S ns s' p' ∧ p.sent <+: p'.sent ∧
      s'.collector.notEventableVariables = s.collector.notEventableVariables ∧
      ∀ (P : String → Prop) (n : ℕ), (∀ c ∈ log, P c.newValue) → AllOf P T s p n →
        AllOf P T s' p' n := by
  induction h with
  | refl => exact ⟨p, hset, List.prefix_rfl, rfl, fun _ _ _ h => h⟩
  | @change log s' s'' _ i value hname hi happly ih =>
    obtain ⟨q, hq, hsent, hmask, hall⟩ := ih
    obtain ⟨t, q', ht, hcore, hq', hwritten⟩ := hq.written hinj i value hname hi
    obtain rfl : s'' = t := Option.some.inj (happly.symm.trans ht)
    obtain ⟨b, hb⟩ := Core.change_collector T S s'.toCore i (value.getD "")
    refine ⟨q', hq', hsent.trans ?_, ?_, fun P n hlog h => ?_⟩
    · rcases hwritten with rfl | ⟨name, -, rfl⟩
      · exact List.prefix_rfl
      · exact settled_sent _ (q.write name (value.getD ""))
    · rw [hcore, hb]
      exact hmask
    · rw [Store.replaceVar_changes] at hlog
      have hbefore := hall P n (fun c hc => hlog c (List.mem_append_left _ hc)) h
      have hvalue : P (value.getD "") := by
        by_cases hsame : value.getD "" = s'.values i
        · exact hsame ▸ hbefore.values i hi
        · rw [if_neg hsame] at hlog
          exact hlog _ (List.mem_append_right _ (List.mem_singleton_self _))
      refine ⟨fun j hj => ?_, ?_⟩
      · rw [hcore, core_change_values T S _ i _ hname j (hq.represents.lastChange ▸ hj)]
        exact hbefore.updated i hvalue j hj
      · rcases hwritten with rfl | ⟨name, -, rfl⟩
        · exact hbefore.published
        · exact settled_only (hbefore.published.write name hvalue) _
  | @start log s' _ ih =>
    obtain ⟨q, hq, hsent, hmask, hall⟩ := ih
    refine ⟨q, ⟨hq.represents.setOpen _, hq.registered, fun hidle => ?_⟩, hsent, hmask,
      fun P n hlog h => ?_⟩
    · simp [VariableContainer.start, Collector.start] at hidle
    · obtain ⟨hvalues, hpublished⟩ := hall P n hlog h
      exact ⟨hvalues, hpublished⟩
  | @finish log s' s'' _ happly ih =>
    obtain ⟨q, hq, hsent, hmask, hall⟩ := ih
    obtain ⟨t, ht, hcore, hq'⟩ := hq.finish hinj (finish_opened happly)
    obtain rfl : s'' = t := Option.some.inj (happly.symm.trans ht)
    obtain ⟨b, hb⟩ := Core.notify_collector S { s'.toCore with collector :=
      { s'.collector with openTransactions := s'.collector.openTransactions - 1 } }
    refine ⟨_, hq', hsent.trans (settled_sent _ q), ?_, fun P n hlog h => ?_⟩
    · rw [hcore, Core.finish, hb]
      exact hmask
    · obtain ⟨hvalues, hpublished⟩ := hall P n hlog h
      refine ⟨fun j hj => ?_, settled_only hpublished _⟩
      rw [hcore, Core.finish, core_notify_values S _ j (hq.represents.lastChange ▸ hj)]
      exact hvalues j hj

section Start

/-- `UPnPLastChangeCollector_add_ignore` -/
def ignore (T : VariableTable ι) (s : Eventing ι) (i : ι) : Eventing ι :=
  { s with collector := s.collector.addIgnore T i }

theorem settled_ignore (hT : T.vars.length < 32) {p : Publisher String String}
    (h : Settled T S ns s p) (l : List ι) : Settled T S ns (l.foldl (ignore T) s) p := by
  induction l generalizing s with
  | nil => exact h
  | cons i l ih => exact ih ⟨h.represents.addIgnore hT i, h.registered, h.idle⟩

theorem ignores_ignore (hT : T.vars.length < 32) (l : List ι) (s : Eventing ι) (i : ι) :
    (l.foldl (ignore T) s).collector.ignores T i = true ↔
      s.collector.ignores T i = true ∨ i ∈ l := by
  induction l generalizing s with
  | nil => simp
  | cons j l ih =>
    simp only [List.foldl_cons, ih, ignore, Collector.ignores_addIgnore T hT, List.mem_cons,
      or_assoc]

theorem ignore_same (l : List ι) (s : Eventing ι) :
    (l.foldl (ignore T) s).values = s.values ∧
      (l.foldl (ignore T) s).collector.openTransactions = s.collector.openTransactions := by
  induction l generalizing s with
  | nil => exact ⟨rfl, rfl⟩
  | cons i l ih => exact ih _

/-- A new collector ignores LastChange alone, and has sent the values it was made with. -/
theorem newCollector_start (hT : T.vars.length < 32) (values : ι → String)
    (hfresh : values T.lastChange ≠ text S ns (initialEntries T values)) :
    ∃ s p, newCollector T S values [] ns = some s ∧ Settled T S ns s p ∧
      s.collector.openTransactions = 0 ∧ (∀ i, s.collector.ignores T i = true ↔ i = T.lastChange) ∧
      ∀ i, i ≠ T.lastChange → s.values i = values i := by
  obtain ⟨s, hnew, hidle, hset⟩ := newCollector_settled hT [] fun _ => hfresh
  obtain ⟨s', hnew', hcore, -⟩ := newCollector_core T S ns values hT []
  have hsame : s = s' := Option.some.inj (hnew.symm.trans hnew')
  obtain ⟨b, hb⟩ := Core.notify_collector S ⟨values, initialCollector T ns values, []⟩
  have hcollector : s.collector = { initialCollector T ns values with builder := b } := by
    rw [hsame]
    exact (congrArg Core.collector hcore).trans hb
  refine ⟨s, _, hnew, hset, hidle, fun i => ?_, fun i hi => ?_⟩
  · rw [hcollector]
    exact initialCollector_ignores hT i
  · rw [hsame]
    exact (congrFun (congrArg Core.values hcore) i).trans
      (StateVariables.core_notify_values S _ i hi)

end Start

end GMediaRender.EventHistory
