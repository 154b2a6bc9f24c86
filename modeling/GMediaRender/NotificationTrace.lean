import GMediaRender.LastChangeStream
import GMediaRender.StateVariables

/-!
The calls that one change of a variable makes. The walk over the listeners is repeated here
with a list of its events: who has been called for which variable, and where the collector
has changed the container again. Forgetting the events gives the walk itself.
-/
namespace GMediaRender.NotificationTrace

open XmlDoc VariableContainer LastChangeStream StateVariables

variable {ι : Type} [DecidableEq ι]

/-- A call of a listener, or a call of `VariableContainer_change` by one and its result. -/
inductive TraceEvent (ι : Type) where
  | called (listener : Listener) (varNum : ι) (oldValue newValue : String)
  | nested (varNum : ι) (changed : Bool)

open TraceEvent

variable (T : VariableTable ι) (serialise : Node → String)

section Traced

variable (change : Eventing ι → ι → String → Option ((Eventing ι × Bool) × List (TraceEvent ι)))

/-- `UPnPLastChangeCollector_notify` -/
def notifyTraced (s : Eventing ι) : Option (Eventing ι × List (TraceEvent ι)) :=
  if s.collector.openTransactions ≠ 0 then some (s, [])
  else match s.collector.builder.toXml serialise with
    | none => some (s, [])
    | some xml =>
      (change { s with collector := s.collector.resetBuilder }
        s.collector.lastChangeVariableNum xml).map fun r =>
          (if r.1.2 then { r.1.1 with notified := r.1.1.notified ++ [xmlescape xml false] }
            else r.1.1, nested s.collector.lastChangeVariableNum r.1.2 :: r.2)

/-- `UPnPLastChangeCollector_callback` -/
def callbackTraced (s : Eventing ι) (i : ι) (newValue : String) :
    Option (Eventing ι × List (TraceEvent ι)) :=
  if s.collector.ignores T i then some (s, [])
  else (T.name i).bind fun name =>
    notifyTraced serialise change { s with collector := s.collector.add name newValue }

/-- The loop over the listeners in `VariableContainer_change`. -/
def listenersTraced (i : ι) (oldValue newValue : String) :
    List Listener → Eventing ι → Option (Eventing ι × List (TraceEvent ι))
  | [], s => some (s, [])
  | .observer k :: rest, s =>
    (listenersTraced i oldValue newValue rest
      { s with calls := s.calls ++ [⟨k, i, T.name i, oldValue, newValue⟩] }).map fun r =>
        (r.1, called (.observer k) i oldValue newValue :: r.2)
  | .collector :: rest, s =>
    (callbackTraced T serialise change s i newValue).bind fun r =>
      (listenersTraced i oldValue newValue rest r.1).map fun r' =>
        (r'.1, called .collector i oldValue newValue :: (r.2 ++ r'.2))

end Traced

/-- `VariableContainer_change` with at most `depth` nested calls of itself. -/
def changeTraced : ℕ → Eventing ι → ι → String →
    Option ((Eventing ι × Bool) × List (TraceEvent ι))
  | 0, _, _, _ => none
  | depth + 1, s, i, value =>
    if value = s.values i then some ((s, false), [])
    else (listenersTraced T serialise (changeTraced depth) i (s.values i) value s.callbacks
      { s with values := Function.update s.values i value }).map fun r => ((r.1, true), r.2)

section Erase

variable {T serialise}
variable {traced : Eventing ι → ι → String → Option ((Eventing ι × Bool) × List (TraceEvent ι))}
  {inner : Eventing ι → ι → String → Option (Eventing ι × Bool)}
  (hinner : ∀ s i value, (traced s i value).map Prod.fst = inner s i value)
include hinner

omit [DecidableEq ι] in
theorem notifyTraced_fst (s : Eventing ι) :
    (notifyTraced serialise traced s).map Prod.fst = notifyWith serialise inner s := by
  unfold notifyTraced notifyWith
  split_ifs
  · rfl
  · cases s.collector.builder.toXml serialise with
    | none => rfl
    | some xml =>
      simp only [← hinner, Option.map_map]
      rfl

theorem callbackTraced_fst (s : Eventing ι) (i : ι) (newValue : String) :
    (callbackTraced T serialise traced s i newValue).map Prod.fst =
      collectorCallback T serialise inner s i newValue := by
  unfold callbackTraced collectorCallback
  split_ifs
  · rfl
  · cases T.name i with
    | none => rfl
    | some name => exact notifyTraced_fst hinner _

theorem listenersTraced_fst (i : ι) (old new : String) (l : List Listener) (s : Eventing ι) :
    (listenersTraced T serialise traced i old new l s).map Prod.fst =
      callListeners T serialise inner i old new l s := by
  induction l generalizing s with
  | nil => rfl
  | cons a l ih =>
    cases a with
    | observer k =>
      simp only [listenersTraced, callListeners, Option.map_map, ← ih]
      rfl
    | collector =>
      simp only [listenersTraced, callListeners, ← callbackTraced_fst hinner, ← ih]
      cases callbackTraced T serialise traced s i new with
      | none => rfl
      | some r =>
        simp only [Option.bind_some, Option.map_some, Option.map_map]
        rfl

end Erase

/-- Forgetting the events of a change gives the change. -/
theorem changeTraced_fst (depth : ℕ) (s : Eventing ι) (i : ι) (value : String) :
    (changeTraced T serialise depth s i value).map Prod.fst =
      changeDepth T serialise depth s i value := by
  induction depth generalizing s i value with
  | zero => rfl
  | succ depth ih =>
    rw [changeTraced, changeDepth]
    split_ifs
    · rfl
    · rw [← listenersTraced_fst ih, Option.map_map, Option.map_map]
      rfl

section Depth

variable {T serialise}
variable {f g : Eventing ι → ι → String → Option ((Eventing ι × Bool) × List (TraceEvent ι))}
  (hfg : ∀ s i value r, f s i value = some r → g s i value = some r)
include hfg

omit [DecidableEq ι] in
theorem notifyTraced_mono {s : Eventing ι} {r : Eventing ι × List (TraceEvent ι)}
    (h : notifyTraced serialise f s = some r) : notifyTraced serialise g s = some r := by
  unfold notifyTraced at h ⊢
  split_ifs at h ⊢
  · exact h
  · cases hxml : s.collector.builder.toXml serialise with
    | none => simpa only [hxml] using h
    | some xml =>
      simp only [hxml] at h ⊢
      obtain ⟨r', hr', rfl⟩ := Option.map_eq_some_iff.mp h
      rw [hfg _ _ _ r' hr', Option.map_some]

theorem listenersTraced_mono {i : ι} {old new : String} {l : List Listener} {s : Eventing ι}
    {r : Eventing ι × List (TraceEvent ι)}
    (h : listenersTraced T serialise f i old new l s = some r) :
    listenersTraced T serialise g i old new l s = some r := by
  induction l generalizing s r with
  | nil => exact h
  | cons a l ih =>
    cases a with
    | observer k =>
      obtain ⟨r', hr', rfl⟩ := Option.map_eq_some_iff.mp h
      rw [listenersTraced, ih hr', Option.map_some]
    | collector =>
      obtain ⟨r', hr', hrest⟩ := Option.bind_eq_some_iff.mp h
      obtain ⟨r'', hr'', rfl⟩ := Option.map_eq_some_iff.mp hrest
      have hcallback : callbackTraced T serialise g s i new = some r' := by
        unfold callbackTraced at hr' ⊢
        split_ifs at hr' ⊢
        · exact hr'
        · obtain ⟨name, hname, hnotify⟩ := Option.bind_eq_some_iff.mp hr'
          rw [hname, Option.bind_some, notifyTraced_mono hfg hnotify]
      rw [listenersTraced, hcallback, Option.bind_some, ih hr'', Option.map_some]

end Depth

/-- A change that comes to its end within a depth does the same at every greater one. -/
theorem changeTraced_mono (depth more : ℕ) (s : Eventing ι) (i : ι) (value : String)
    (r : (Eventing ι × Bool) × List (TraceEvent ι))
    (h : changeTraced T serialise depth s i value = some r) :
    changeTraced T serialise (depth + more) s i value = some r := by
  induction depth generalizing s i value r with
  | zero => exact nomatch h
  | succ depth ih =>
    have hsucc : depth + 1 + more = depth + more + 1 := by omega
    rw [hsucc]
    rw [changeTraced] at h ⊢
    split_ifs at h ⊢
    · exact h
    · obtain ⟨r', hr', rfl⟩ := Option.map_eq_some_iff.mp h
      rw [listenersTraced_mono ih hr', Option.map_some]

section Events

/-- Every listener is called for a variable, in the order of the list. -/
def calls (l : List Listener) (i : ι) (old new : String) : List (TraceEvent ι) :=
  l.map fun a => called a i old new

/-- A round over the listeners, with what happens inside the call of the collector. -/
def round (pre : List Listener) (inside : List (TraceEvent ι)) (post : List Listener) (i : ι)
    (old new : String) : List (TraceEvent ι) :=
  calls pre i old new ++ called .collector i old new :: (inside ++ calls post i old new)

/-- What happens inside a call of `UPnPLastChangeCollector_notify`. -/
def notifyEvents (c : Core ι) (l : List Listener) : List (TraceEvent ι) :=
  if c.collector.openTransactions ≠ 0 then []
  else match c.collector.builder.toXml serialise with
    | none => []
    | some xml =>
      if xml = c.values c.collector.lastChangeVariableNum
      then [nested c.collector.lastChangeVariableNum false]
      else nested c.collector.lastChangeVariableNum true ::
        calls l c.collector.lastChangeVariableNum (c.values c.collector.lastChangeVariableNum) xml

/-- What happens inside a call of the collector. -/
def callbackEvents (c : Core ι) (l : List Listener) (i : ι) (newValue : String) :
    List (TraceEvent ι) :=
  if c.collector.ignores T i then []
  else match T.name i with
    | none => []
    | some name => notifyEvents serialise { c with collector := c.collector.add name newValue } l

section Walk

variable (traced : Eventing ι → ι → String → Option ((Eventing ι × Bool) × List (TraceEvent ι)))
variable (i : ι) (old new : String)

/-- Nothing happens between the calls when there is no collector or it ignores the variable. -/
theorem listenersTraced_quiet (l : List Listener) (s : Eventing ι)
    (h : .collector ∈ l → s.collector.ignores T i = true) :
    ∃ s', listenersTraced T serialise traced i old new l s = some (s', calls l i old new) := by
  induction l generalizing s with
  | nil => exact ⟨s, rfl⟩
  | cons a l ih =>
    have hrest : .collector ∈ l → s.collector.ignores T i = true :=
      fun hmem => h (List.mem_cons_of_mem a hmem)
    cases a with
    | observer k =>
      obtain ⟨s', hs'⟩ := ih { s with calls := s.calls ++ [⟨k, i, T.name i, old, new⟩] } hrest
      exact ⟨s', by simp [listenersTraced, hs', calls]⟩
    | collector =>
      obtain ⟨s', hs'⟩ := ih s hrest
      have hignores := h List.mem_cons_self
      exact ⟨s', by simp [listenersTraced, callbackTraced, hignores, hs', calls]⟩

/-- What happens inside the call of the collector stands behind it, between the other calls. -/
theorem listenersTraced_collector (l : List Listener) (s : Eventing ι)
    (hl : l.count .collector = 1) (events : List (TraceEvent ι))
    (hcallback : ∀ t : Eventing ι, t.toCore = s.toCore → t.callbacks = s.callbacks →
      ∃ t', callbackTraced T serialise traced t i new = some (t', events)) :
    ∃ s' pre post, l = pre ++ .collector :: post ∧
      listenersTraced T serialise traced i old new l s =
        some (s', round pre events post i old new) := by
  induction l generalizing s with
  | nil => simp at hl
  | cons a l ih =>
    cases a with
    | observer k =>
      obtain ⟨s', pre, post, rfl, hs'⟩ :=
        ih { s with calls := s.calls ++ [⟨k, i, T.name i, old, new⟩] } (by simpa using hl) hcallback
      exact ⟨s', .observer k :: pre, post, rfl, by simp [listenersTraced, hs', round, calls]⟩
    | collector =>
      obtain ⟨t, ht⟩ := hcallback s rfl rfl
      have hrest : Listener.collector ∉ l := by
        simpa [List.count_eq_zero] using hl
      obtain ⟨s', hs'⟩ := listenersTraced_quiet T serialise traced i old new l t
        fun hmem => absurd hmem hrest
      exact ⟨s', [], l, rfl, by simp [listenersTraced, ht, hs', round, calls]⟩

end Walk

/-- A change of an ignored variable calls the listeners and nests nothing. -/
theorem changeTraced_ignored (depth : ℕ) (s : Eventing ι) (i : ι) (value : String)
    (h : s.collector.ignores T i = true) :
    ∃ s', changeTraced T serialise (depth + 1) s i value =
      some ((s', decide (value ≠ s.values i)),
        if value = s.values i then [] else calls s.callbacks i (s.values i) value) := by
  by_cases hv : value = s.values i
  · exact ⟨s, by simp [changeTraced, hv]⟩
  · obtain ⟨s', hs'⟩ := listenersTraced_quiet T serialise (changeTraced T serialise depth) i
      (s.values i) value s.callbacks { s with values := Function.update s.values i value }
      fun _ => h
    exact ⟨s', by simp [changeTraced, hv, hs']⟩

theorem notifyTraced_events (depth : ℕ) (s : Eventing ι)
    (h : s.collector.ignores T s.collector.lastChangeVariableNum = true) :
    ∃ s', notifyTraced serialise (changeTraced T serialise (depth + 1)) s =
      some (s', notifyEvents serialise s.toCore s.callbacks) := by
  by_cases hopen : s.collector.openTransactions ≠ 0
  · exact ⟨s, by simp [notifyTraced, notifyEvents, hopen]⟩
  cases hxml : s.collector.builder.toXml serialise with
  | none => exact ⟨s, by simp [notifyTraced, notifyEvents, hxml]⟩
  | some xml =>
    obtain ⟨s', hs'⟩ := changeTraced_ignored T serialise depth
      { s with collector := s.collector.resetBuilder } s.collector.lastChangeVariableNum xml h
    simp only [notifyTraced, notifyEvents, hopen, if_false, hxml, hs', Option.map_some]
    by_cases hv : xml = s.values s.collector.lastChangeVariableNum
    · exact ⟨s', by simp [hv]⟩
    · exact ⟨{ s' with notified := s'.notified ++ [xmlescape xml false] }, by simp [hv]⟩

/-- The events of a change, whatever the depth it is followed to. -/
theorem changeTraced_events (depth : ℕ) (s : Eventing ι) (i : ι) (value : String)
    (hname : T.name i ≠ none) (hcount : s.callbacks.count .collector = 1)
    (h : s.collector.ignores T s.collector.lastChangeVariableNum = true)
    (hv : value ≠ s.values i) : ∃ s' pre post, s.callbacks = pre ++ .collector :: post ∧
      changeTraced T serialise (depth + 2) s i value = some ((s', true),
        round pre (callbackEvents T serialise { s.toCore with
          values := Function.update s.values i value } s.callbacks i value) post
            i (s.values i) value) := by
  obtain ⟨name, hn⟩ := Option.ne_none_iff_exists'.mp hname
  obtain ⟨s', pre, post, hsplit, hs'⟩ := listenersTraced_collector T serialise
    (changeTraced T serialise (depth + 1)) i (s.values i) value s.callbacks
    { s with values := Function.update s.values i value } hcount
    (callbackEvents T serialise { s.toCore with
      values := Function.update s.values i value } s.callbacks i value) (by
      intro t hcore hcallbacks
      have hcollector : t.collector = s.collector := by
        simpa using congrArg Core.collector hcore
      unfold callbackTraced callbackEvents
      rw [hcollector]
      by_cases hignored : s.collector.ignores T i = true
      · exact ⟨t, by simp [hignored]⟩
      · simp only [hignored, hn, Option.bind_some]
        obtain ⟨t', ht'⟩ := notifyTraced_events T serialise depth
          { t with collector := s.collector.add name value } h
        refine ⟨t', ?_⟩
        have hvalues : t.values = Function.update s.values i value := by
          simpa using congrArg Core.values hcore
        have hnotified : t.notified = s.notified := by
          simpa using congrArg Core.notified hcore
        simpa [hcallbacks, hvalues, hnotified] using ht')
  exact ⟨s', pre, post, hsplit, by rw [changeTraced, if_neg hv, hs']; rfl⟩

end Events

section Counts

/-- The calls of listeners for one variable, with the values they are told. -/
def callsFor (j : ι) (events : List (TraceEvent ι)) : List (Listener × String × String) :=
  events.filterMap fun
    | called l k old new => if k = j then some (l, old, new) else none
    | nested _ _ => none

/-- The nested calls of `VariableContainer_change` and their results. -/
def nestedChanges (events : List (TraceEvent ι)) : List (ι × Bool) :=
  events.filterMap fun
    | called _ _ _ _ => none
    | nested k changed => some (k, changed)

variable {events events' : List (TraceEvent ι)} {l : List Listener} {i j : ι} {old new : String}

@[simp] theorem callsFor_append :
    callsFor j (events ++ events') = callsFor j events ++ callsFor j events' := by
  simp [callsFor]

@[simp] theorem callsFor_nested (changed : Bool) :
    callsFor j (nested i changed :: events) = callsFor j events := rfl

@[simp] theorem callsFor_nil : callsFor j ([] : List (TraceEvent ι)) = [] := rfl

theorem callsFor_calls_self : callsFor i (calls l i old new) = l.map fun a => (a, old, new) := by
  simp [callsFor, calls, List.filterMap_map]

theorem callsFor_calls_of_ne (h : i ≠ j) : callsFor j (calls l i old new) = [] := by
  simp [callsFor, calls, h]

omit [DecidableEq ι] in
@[simp] theorem nestedChanges_append : nestedChanges (events ++ events') =
    nestedChanges events ++ nestedChanges events' := by
  simp [nestedChanges]

omit [DecidableEq ι] in
@[simp] theorem nestedChanges_calls : nestedChanges (calls l i old new) = [] := by
  simp [nestedChanges, calls]

omit [DecidableEq ι] in
@[simp] theorem nestedChanges_nested (changed : Bool) :
    nestedChanges (nested i changed :: events) = (i, changed) :: nestedChanges events := rfl

omit [DecidableEq ι] in
@[simp] theorem nestedChanges_nil : nestedChanges ([] : List (TraceEvent ι)) = [] := rfl

variable {pre post : List Listener}

omit [DecidableEq ι] in
/-- Only the collector nests changes. -/
@[simp] theorem nestedChanges_round :
    nestedChanges (round pre events post i old new) = nestedChanges events := by
  simp [round, nestedChanges, calls]

/-- A round calls every listener for its variable. -/
theorem callsFor_round_self (h : callsFor i events = []) :
    callsFor i (round pre events post i old new) =
      (pre ++ .collector :: post).map fun a => (a, old, new) := by
  have hsplit : called .collector i old new :: (events ++ calls post i old new) =
      calls [.collector] i old new ++ (events ++ calls post i old new) := rfl
  rw [round, hsplit, callsFor_append, callsFor_append, callsFor_append, h]
  simp [callsFor_calls_self]

/-- Other variables are left to the collector. -/
theorem callsFor_round_of_ne (h : i ≠ j) :
    callsFor j (round pre events post i old new) = callsFor j events := by
  have hsplit : called .collector i old new :: (events ++ calls post i old new) =
      calls [.collector] i old new ++ (events ++ calls post i old new) := rfl
  rw [round, hsplit, callsFor_append, callsFor_append, callsFor_append]
  simp [callsFor_calls_of_ne h]

end Counts

section Main

/-- A container with one collector, which `UPnPLastChangeCollector_new` has made to ignore
LastChange. -/
structure Wired (s : Eventing ι) : Prop where
  few : T.vars.length < 32
  one : s.callbacks.count .collector = 1
  lastChange : s.collector.lastChangeVariableNum = T.lastChange
  ignored : s.collector.ignores T T.lastChange = true

/-- A change tells every listener once, and once more of LastChange when the collector changes
that; at most one change is nested, and no other variable is changed. -/
structure NotifiesOnce (s : Eventing ι) (i : ι) (value : String) (s' : Eventing ι)
    (changed : Bool) (events : List (TraceEvent ι)) : Prop where
  changed_iff : changed = true ↔ value ≠ s.values i
  nested_le : (nestedChanges events).length ≤ 1
  nested_lastChange : ∀ n ∈ nestedChanges events, n.1 = T.lastChange
  told : changed = true → callsFor i events = s.callbacks.map fun a => (a, s.values i, value)
  told_lastChange : changed = true → callsFor T.lastChange events =
    if (T.lastChange, true) ∈ nestedChanges events then
      s.callbacks.map fun a => (a, s.values T.lastChange, s'.values T.lastChange)
    else []
  silent : changed = false → events = [] ∧ s' = s
  told_other : ∀ j, j ≠ i → j ≠ T.lastChange → callsFor j events = []
  stored : s'.values i = value
  frame : ∀ j, j ≠ i → j ≠ T.lastChange → s'.values j = s.values j

variable {T}

theorem wired_newCollector (ns : String) {values : ι → String} {observers : List ℕ}
    {e : Eventing ι}
    (h : newCollector T serialise values (observers.map .observer) ns = some e) : Wired T e := by
  have hfew : T.vars.length < 32 := by
    by_contra hnot
    simp [newCollector, hnot] at h
  obtain ⟨s, hs, hcore, hone⟩ := newCollector_core T serialise ns values hfew observers
  obtain rfl := Option.some.inj (hs.symm.trans h)
  obtain ⟨b, hb⟩ := Core.notify_collector serialise ⟨values, initialCollector T ns values, []⟩
  have hcollector : s.collector = { initialCollector T ns values with builder := b } := by
    rw [hcore, hb]
  refine ⟨hfew, hone, by rw [hcollector]; rfl, ?_⟩
  rw [hcollector]
  exact (initialCollector_ignores hfew T.lastChange).mpr rfl

/-- Another collector that only differs in what it collects is wired as well. -/
theorem Wired.of_collector {s s' : Eventing ι} (h : Wired T s)
    (hcallbacks : s'.callbacks = s.callbacks)
    (hlast : s'.collector.lastChangeVariableNum = s.collector.lastChangeVariableNum)
    (hmask : s'.collector.notEventableVariables = s.collector.notEventableVariables) :
    Wired T s' := by
  refine ⟨h.few, by rw [hcallbacks]; exact h.one, hlast.trans h.lastChange, ?_⟩
  rw [Collector.ignores, hmask]
  exact h.ignored

theorem Wired.ignores {s : Eventing ι} (h : Wired T s) :
    s.collector.ignores T s.collector.lastChangeVariableNum = true := by
  rw [h.lastChange]
  exact h.ignored

variable {serialise}

theorem Wired.finish {s s' : Eventing ι} (h : Wired T s)
    (hfinish : VariableContainer.finish T serialise s = some s') :
    Result s' (s.toCore.finish serialise) s.callbacks := by
  obtain ⟨t, ht, hresult⟩ := notifyWith_core T serialise 0 { s with collector :=
    { s.collector with openTransactions := s.collector.openTransactions - 1 } } h.ignores
  unfold VariableContainer.finish at hfinish
  split_ifs at hfinish
  obtain rfl := Option.some.inj (ht.symm.trans hfinish)
  exact hresult

theorem Wired.apply {s s' : Eventing ι} {op : Op ι} (h : Wired T s) (hop : op.Allowed T)
    (happly : op.apply T serialise s = some s') : Wired T s' := by
  cases op with
  | change i value =>
    obtain ⟨t, ht, hcore, hcallbacks⟩ :=
      changeDepth_core T serialise 0 s i (value.getD "") hop.1 h.one h.ignores
    obtain ⟨b, hb⟩ := Core.change_collector T serialise s.toCore i (value.getD "")
    have hs' : s' = t := by
      simpa [Op.apply, VariableContainer.change, ht] using happly.symm
    subst hs'
    have hcollector : s'.collector = { s.collector with builder := b } := by rw [hcore, hb]
    exact h.of_collector hcallbacks (by rw [hcollector]) (by rw [hcollector])
  | start =>
    obtain rfl := Option.some.inj happly
    exact h.of_collector rfl rfl rfl
  | finish =>
    obtain ⟨hcore, hcallbacks⟩ := h.finish happly
    obtain ⟨b, hb⟩ := Core.notify_collector serialise { s.toCore with collector :=
      { s.collector with openTransactions := s.collector.openTransactions - 1 } }
    have hcollector : s'.collector = { s.collector with
        openTransactions := s.collector.openTransactions - 1, builder := b } := by
      rw [hcore, Core.finish, hb]
    exact h.of_collector hcallbacks (by rw [hcollector]) (by rw [hcollector])
  | addIgnore i =>
    obtain rfl := Option.some.inj happly
    exact ⟨h.few, h.one, h.lastChange,
      (Collector.ignores_addIgnore T h.few _ _ i).mpr (Or.inl h.ignored)⟩
  | observe id =>
    obtain rfl := Option.some.inj happly
    exact ⟨h.few, by simpa [registerCallback] using h.one, h.lastChange, h.ignored⟩

variable (serialise)

/-- Inside a notification nothing happens, or LastChange is written, with or without a change. -/
theorem notifyEvents_cases (c : Core ι) (l : List Listener) :
    notifyEvents serialise c l = [] ∨
      notifyEvents serialise c l = [nested c.collector.lastChangeVariableNum false] ∨
      notifyEvents serialise c l = nested c.collector.lastChangeVariableNum true ::
        calls l c.collector.lastChangeVariableNum (c.values c.collector.lastChangeVariableNum)
          ((c.notify serialise).values c.collector.lastChangeVariableNum) := by
  unfold notifyEvents Core.notify
  split_ifs
  · exact Or.inl rfl
  · cases c.collector.builder.toXml serialise with
    | none => exact Or.inl rfl
    | some xml =>
      simp only
      split_ifs with hxml
      · exact Or.inr (Or.inl rfl)
      · simp

/-- The same for the call of the collector in a change. -/
theorem callbackEvents_cases {c : Core ι} {i : ι} {value : String} (l : List Listener)
    (hi : i ≠ c.collector.lastChangeVariableNum) (hname : T.name i ≠ none)
    (hv : value ≠ c.values i) :
    let events := callbackEvents T serialise { c with
      values := Function.update c.values i value } l i value
    events = [] ∨ events = [nested c.collector.lastChangeVariableNum false] ∨
      events = nested c.collector.lastChangeVariableNum true ::
        calls l c.collector.lastChangeVariableNum (c.values c.collector.lastChangeVariableNum)
          ((c.change T serialise i value).values c.collector.lastChangeVariableNum) := by
  obtain ⟨name, hn⟩ := Option.ne_none_iff_exists'.mp hname
  simp only [callbackEvents, Core.change, hv, if_false, hn]
  split_ifs
  · exact Or.inl rfl
  · have hcases := notifyEvents_cases serialise
      { c with values := Function.update c.values i value
               collector := c.collector.add name value } l
    have hold : Function.update c.values i value c.collector.lastChangeVariableNum =
        c.values c.collector.lastChangeVariableNum := Function.update_of_ne (Ne.symm hi) _ _
    simpa only [Collector.add, hold] using hcases

/-- The events of a change that has taken place. -/
theorem notifiesOnce_of_ne {s s' : Eventing ι} {i : ι} {value : String}
    {pre post : List Listener} {inside : List (TraceEvent ι)} (hi : i ≠ T.lastChange)
    (hv : value ≠ s.values i) (hsplit : s.callbacks = pre ++ .collector :: post)
    (hinside : inside = [] ∨ inside = [nested T.lastChange false] ∨
      inside = nested T.lastChange true ::
        calls s.callbacks T.lastChange (s.values T.lastChange) (s'.values T.lastChange))
    (hstored : ∀ j, j ≠ T.lastChange → s'.values j = Function.update s.values i value j) :
    NotifiesOnce T s i value s' true (round pre inside post i (s.values i) value) := by
  have hself : callsFor i inside = [] := by
    rcases hinside with rfl | rfl | rfl
    · rfl
    · rfl
    · rw [callsFor_nested, callsFor_calls_of_ne (Ne.symm hi)]
  constructor
  case changed_iff => simp [hv]
  case nested_le =>
    rw [nestedChanges_round]
    rcases hinside with rfl | rfl | rfl <;> simp
  case nested_lastChange =>
    rw [nestedChanges_round]
    rcases hinside with rfl | rfl | rfl <;> simp
  case told =>
    intro _
    rw [callsFor_round_self hself, hsplit]
  case told_lastChange =>
    intro _
    rw [callsFor_round_of_ne hi, nestedChanges_round]
    rcases hinside with rfl | rfl | rfl
    · simp
    · simp
    · simp [callsFor_calls_self]
  case silent => exact fun h => nomatch h
  case told_other =>
    intro j hj hlast
    rw [callsFor_round_of_ne (Ne.symm hj)]
    rcases hinside with rfl | rfl | rfl
    · rfl
    · rfl
    · rw [callsFor_nested, callsFor_calls_of_ne (Ne.symm hlast)]
  case stored => rw [hstored i hi, Function.update_self]
  case frame =>
    intro j hj hlast
    rw [hstored j hlast, Function.update_of_ne hj]

theorem Wired.change {s : Eventing ι} (h : Wired T s) {i : ι} (value : String)
    (hname : T.name i ≠ none) (hi : i ≠ T.lastChange) : ∃ s' changed events,
      changeTraced T serialise 2 s i value = some ((s', changed), events) ∧
        NotifiesOnce T s i value s' changed events := by
  by_cases hv : value = s.values i
  · refine ⟨s, false, [], by simp [changeTraced, hv], ?_⟩
    constructor <;> simp [hv]
  obtain ⟨s', pre, post, hsplit, htraced⟩ :=
    changeTraced_events T serialise 0 s i value hname h.one h.ignores hv
  -- the state is that of the change without its events
  obtain ⟨t, ht, hcore, -⟩ := changeDepth_core T serialise 0 s i value hname h.one h.ignores
  have herase := changeTraced_fst T serialise 2 s i value
  rw [htraced, ht, Option.map_some] at herase
  obtain rfl : s' = t := (Prod.mk.inj (Option.some.inj herase)).1
  have hinside := callbackEvents_cases serialise (c := s.toCore) s.callbacks
    (by rw [h.lastChange]; exact hi) hname hv
  simp only [h.lastChange, ← hcore] at hinside
  refine ⟨s', true, _, htraced, notifiesOnce_of_ne hi hv hsplit hinside fun j hj => ?_⟩
  rw [hcore]
  exact core_change_values T serialise s.toCore i value hname j (by rw [h.lastChange]; exact hj)

/-- Changing a variable of a container with a collector ends after at most one nested change and
tells every listener once, however deep the calls are followed. -/
theorem change_notifies_once (T : VariableTable ι) (serialise : Node → String) (ns : String) :
    (∀ values (observers : List ℕ) e,
      newCollector T serialise values (observers.map .observer) ns = some e → Wired T e) ∧
    (∀ s (op : Op ι) s', Wired T s → op.Allowed T → op.apply T serialise s = some s' → Wired T s') ∧
    ∀ s i value, Wired T s → T.name i ≠ none → i ≠ T.lastChange → ∃ s' changed events,
      (∀ more, changeTraced T serialise (2 + more) s i (Option.getD value "") =
        some ((s', changed), events)) ∧
      VariableContainer.change T serialise s i value = some (s', changed) ∧
      NotifiesOnce T s i (value.getD "") s' changed events := by
  refine ⟨?_, ?_, ?_⟩
  · intro values observers e h
    exact wired_newCollector serialise ns h
  · intro s op s' h hop happly
    exact h.apply hop happly
  · intro s i value h hname hi
    obtain ⟨s', changed, events, htraced, honce⟩ :=
      h.change serialise (value.getD "") hname hi
    refine ⟨s', changed, events, fun more => ?_, ?_, honce⟩
    · exact changeTraced_mono T serialise 2 more s i _ _ htraced
    · rw [VariableContainer.change, ← changeTraced_fst, htraced]
      rfl

end Main

end GMediaRender.NotificationTrace
