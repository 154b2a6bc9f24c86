import GMediaRender.VariableContainer

/-!
The variables of a service as its action handlers see them: values that are replaced one
at a time, with the list of the changes that listeners were told about. `Tracks` ties
such a store to the container with its collector; the two agree on every variable but
LastChange, which only the collector writes.
-/
namespace GMediaRender.StateVariables

open XmlDoc VariableContainer

variable {ι : Type} [DecidableEq ι]

structure Change (ι : Type) where
  varNum : ι
  oldValue : String
  newValue : String
  deriving DecidableEq

structure Store (ι : Type) where
  values : ι → String
  changes : List (Change ι)

namespace Store

/-- The service's `get_var`. -/
def getVar (s : Store ι) (i : ι) : String := s.values i

/-- What `VariableContainer_change` does to the values, and what it returns. -/
def change (s : Store ι) (i : ι) (value : String) : Store ι × Bool :=
  if value = s.values i then (s, false)
  else (⟨Function.update s.values i value, s.changes ++ [⟨i, s.values i, value⟩]⟩, true)

/-- The service's `replace_var` where its result is not used. -/
def replaceVar (s : Store ι) (i : ι) (value : String) : Store ι := (s.change i value).1

@[simp] theorem change_snd (s : Store ι) (i : ι) (value : String) :
    (s.change i value).2 = decide (value ≠ s.values i) := by
  unfold change
  split_ifs with h <;> simp [h]

@[simp] theorem change_fst (s : Store ι) (i : ι) (value : String) :
    (s.change i value).1 = s.replaceVar i value := rfl

@[simp] theorem replaceVar_values (s : Store ι) (i : ι) (value : String) :
    (s.replaceVar i value).values = Function.update s.values i value := by
  unfold replaceVar change
  split_ifs with h
  · rw [h, Function.update_eq_self]
  · rfl

theorem replaceVar_changes (s : Store ι) (i : ι) (value : String) :
    (s.replaceVar i value).changes =
      s.changes ++ if value = s.values i then [] else [⟨i, s.values i, value⟩] := by
  unfold replaceVar change
  split_ifs
  · exact (List.append_nil _).symm
  · rfl

/-- A variable is left alone exactly when it gets the value it has. -/
theorem replaceVar_eq_self (s : Store ι) (i : ι) (value : String) :
    s.replaceVar i value = s ↔ value = s.values i := by
  constructor
  · intro h
    have hvalue := congrFun (congrArg Store.values h) i
    rwa [replaceVar_values, Function.update_self] at hvalue
  · intro h
    simp [replaceVar, change, h]

end Store

section Tracks

variable (T : VariableTable ι) (serialise : Node → String)

/-- The container holds the values of the store, apart from LastChange. -/
def Tracks (e : Core ι) (s : Store ι) : Prop :=
  e.collector.lastChangeVariableNum = T.lastChange ∧
  e.collector.ignores T T.lastChange = true ∧
  ∀ i, i ≠ T.lastChange → e.values i = s.values i

theorem core_notify_values (c : Core ι) (i : ι)
    (hi : i ≠ c.collector.lastChangeVariableNum) :
    (c.notify serialise).values i = c.values i := by
  unfold Core.notify
  split_ifs
  · rfl
  · split
    · rfl
    · split_ifs
      · rfl
      · exact Function.update_of_ne hi _ _

theorem core_change_values (c : Core ι) (i : ι) (value : String) (hname : T.name i ≠ none)
    (j : ι) (hj : j ≠ c.collector.lastChangeVariableNum) :
    (c.change T serialise i value).values j = Function.update c.values i value j := by
  obtain ⟨name, hn⟩ := Option.ne_none_iff_exists'.mp hname
  unfold Core.change
  split_ifs with hv
  · rw [hv, Function.update_eq_self]
  · rfl
  · simp only [hn]
    exact core_notify_values serialise _ j hj

variable {T serialise}

/-- Changing a variable of the container is changing it in the store: with the same
result, and whatever LastChange does meanwhile. -/
theorem Tracks.change {e : Eventing ι} {s : Store ι} (h : Tracks T e.toCore s)
    (hcount : e.callbacks.count .collector = 1) (i : ι) (value : Option String)
    (hname : T.name i ≠ none) (hi : i ≠ T.lastChange) :
    ∃ e', VariableContainer.change T serialise e i value =
        some (e', (s.change i (value.getD "")).2) ∧
      e'.callbacks.count .collector = 1 ∧
      Tracks T e'.toCore (s.replaceVar i (value.getD "")) := by
  obtain ⟨hlast, hign, hvalues⟩ := h
  obtain ⟨e', he', hcore, hcb⟩ := changeDepth_core T serialise 0 e i (value.getD "") hname hcount
    (by rw [hlast]; exact hign)
  obtain ⟨b, hb⟩ := Core.change_collector T serialise e.toCore i (value.getD "")
  refine ⟨e', ?_, hcb ▸ hcount, ?_, ?_, ?_⟩
  · rw [VariableContainer.change, he', Store.change_snd, hvalues i hi]
  · rw [hcore, hb]
    exact hlast
  · rw [hcore, hb]
    exact hign
  · intro j hj
    rw [hcore, core_change_values T serialise _ i _ hname j (by rw [hlast]; exact hj),
      Store.replaceVar_values]
    by_cases hji : j = i
    · subst hji
      simp
    · rw [Function.update_of_ne hji, Function.update_of_ne hji]
      exact hvalues j hj

end Tracks

end GMediaRender.StateVariables
