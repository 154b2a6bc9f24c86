import GMediaRender.XmlDoc
import Mathlib.Logic.Function.Basic
import Mathlib.Tactic.SplitIfs

/-!
The variable container, the LastChange builder and the LastChange collector of
variable-container.c. Changing a variable calls every registered listener; one of them
is the collector, which writes the LastChange variable of the same container and so
re-enters the listener loop. `changeDepth` follows these calls to a bounded depth and
`change_core` shows that depth two is enough: the nested change is never cut off and
the whole walk amounts to one straight-line update, `Core.change`.

A failed assertion and an exhausted depth are both `none`.
-/
namespace GMediaRender.VariableContainer

open XmlDoc

/-- The variables of a container in index order, with the names of those in use. -/
structure VariableTable (ι : Type) where
  vars : List ι
  nodup : vars.Nodup
  complete : ∀ i, i ∈ vars
  name : ι → Option String
  lastChange : ι
  name_lastChange : name lastChange = some "LastChange"
  name_injective : ∀ i j n, name i = some n → name j = some n → i = j

variable {ι : Type} [DecidableEq ι]

def VariableTable.index (T : VariableTable ι) (i : ι) : ℕ := T.vars.idxOf i

theorem VariableTable.index_lt (T : VariableTable ι) (i : ι) : T.index i < T.vars.length :=
  List.idxOf_lt_length_of_mem (T.complete i)

theorem VariableTable.index_injective (T : VariableTable ι) (i j : ι)
    (h : T.index i = T.index j) : i = j :=
  (List.idxOf_inj (T.complete i)).mp h

/-- `VariableContainer_get`: the value of a variable in use. -/
def VariableTable.get (T : VariableTable ι) (values : ι → String) (i : ι) : Option String :=
  (T.name i).map fun _ => values i

/-- The namespaces of the LastChange documents, of upnp_transport.c and of upnp_control.c. -/
def transportEventXmlNs : String := "urn:schemas-upnp-org:metadata-1-0/AVT/"
def controlEventXmlNs : String := "urn:schemas-upnp-org:metadata-1-0/RCS/"

/-- A registered callback: one that only reads, or `UPnPLastChangeCollector_callback`. -/
inductive Listener where
  | observer (id : ℕ)
  | collector
  deriving DecidableEq

structure ListenerCall (ι : Type) where
  observer : ℕ
  varNum : ι
  varName : Option String
  oldValue : String
  newValue : String

/-- `upnp_last_change_builder`; `change_event_doc` is NULL while there is no entry. -/
structure Builder where
  xmlNamespace : Option String
  entries : List (String × String)
  deriving DecidableEq

namespace Builder

def add (b : Builder) (name value : String) : Builder :=
  { b with entries := b.entries ++ [(name, value)] }

/-- The variables that are sent with the channel they apply to. -/
def channelAttributes (name : String) : List (String × String) :=
  if name = "Volume" ∨ name = "VolumeDB" ∨ name = "Mute" ∨ name = "Loudness"
  then [("channel", "Master")] else []

def valueElement (e : String × String) : Node :=
  attributeValueElement e.1 "val" e.2 (channelAttributes e.1) []

/-- The document with the entries added so far. -/
def changeEventDoc (xmlNamespace : Option String) (entries : List (String × String)) : Node :=
  newTopElement "Event" xmlNamespace
    [attributeValueElement "InstanceID" "val" "0" [] (entries.map valueElement)]

/-- `UPnPLastChangeBuilder_to_xml`; the caller also resets the builder. -/
def toXml (serialise : Node → String) (b : Builder) : Option String :=
  if b.entries = [] then none else some (serialise (changeEventDoc b.xmlNamespace b.entries))

def reset (b : Builder) : Builder := { b with entries := [] }

end Builder

structure Collector (ι : Type) where
  lastChangeVariableNum : ι
  notEventableVariables : BitVec 32
  openTransactions : ℕ
  builder : Builder

namespace Collector

def bit (T : VariableTable ι) (i : ι) : BitVec 32 := 1#32 <<< T.index i

/-- `UPnPLastChangeCollector_add_ignore` -/
def addIgnore (T : VariableTable ι) (c : Collector ι) (i : ι) : Collector ι :=
  { c with notEventableVariables := c.notEventableVariables ||| bit T i }

/-- The test at the start of `UPnPLastChangeCollector_callback`. -/
def ignores (T : VariableTable ι) (c : Collector ι) (i : ι) : Bool :=
  c.notEventableVariables &&& bit T i != 0#32

def start (c : Collector ι) : Collector ι :=
  { c with openTransactions := c.openTransactions + 1 }

def add (c : Collector ι) (name value : String) : Collector ι :=
  { c with builder := c.builder.add name value }

def resetBuilder (c : Collector ι) : Collector ι := { c with builder := c.builder.reset }

theorem ignores_iff (T : VariableTable ι) (hT : T.vars.length < 32) (c : Collector ι) (i : ι) :
    c.ignores T i = true ↔ c.notEventableVariables.getLsbD (T.index i) = true := by
  have hi : T.index i < 32 := by
    have := T.index_lt i
    omega
  have hbit : c.notEventableVariables &&& bit T i =
      if c.notEventableVariables.getLsbD (T.index i) then bit T i else 0#32 := by
    apply BitVec.eq_of_getLsbD_eq
    intro k hk
    by_cases hki : k = T.index i
    · subst hki
      split_ifs <;> simp_all [bit]
    · have hne : bit T i = BitVec.twoPow 32 (T.index i) := (BitVec.twoPow_eq 32 _).symm
      split_ifs <;> simp [hne, BitVec.getLsbD_twoPow, Ne.symm hki]
  have hnz : bit T i ≠ 0#32 := by
    intro h0
    have := congrArg (fun x => x.getLsbD (T.index i)) h0
    simp [bit, hi] at this
  unfold ignores
  rw [hbit]
  split_ifs with h <;> simp [h, hnz]

theorem ignores_addIgnore (T : VariableTable ι) (hT : T.vars.length < 32) (c : Collector ι)
    (i j : ι) : (c.addIgnore T j).ignores T i = true ↔ c.ignores T i = true ∨ i = j := by
  have hi : T.index i < 32 := by
    have := T.index_lt i
    omega
  rw [ignores_iff T hT, ignores_iff T hT]
  simp only [addIgnore, bit, BitVec.getLsbD_or, ← BitVec.twoPow_eq, BitVec.getLsbD_twoPow,
    Bool.or_eq_true, Bool.and_eq_true, decide_eq_true_eq]
  constructor
  · rintro (h | h)
    · exact Or.inl h
    · exact Or.inr (T.index_injective i j h.2.symm)
  · rintro (h | rfl)
    · exact Or.inl h
    · exact Or.inr ⟨hi, rfl⟩

end Collector

/-- The container's values, the collector and the values passed to `upnp_device_notify`. -/
structure Core (ι : Type) where
  values : ι → String
  collector : Collector ι
  notified : List String

/-- The container with its listeners, and the calls the read-only listeners received. -/
structure Eventing (ι : Type) extends Core ι where
  callbacks : List Listener
  calls : List (ListenerCall ι)

variable (T : VariableTable ι) (serialise : Node → String)

section Reentrant

variable (change : Eventing ι → ι → String → Option (Eventing ι × Bool))

/-- `UPnPLastChangeCollector_notify`, over the container operation it calls. -/
def notifyWith (s : Eventing ι) : Option (Eventing ι) :=
  if s.collector.openTransactions ≠ 0 then some s
  else match s.collector.builder.toXml serialise with
    | none => some s
    | some xml =>
      (change { s with collector := s.collector.resetBuilder }
        s.collector.lastChangeVariableNum xml).map fun r =>
          if r.2 then { r.1 with notified := r.1.notified ++ [xmlescape xml false] } else r.1

/-- `UPnPLastChangeCollector_callback`; the builder asserts that the variable has a name. -/
def collectorCallback (s : Eventing ι) (i : ι) (newValue : String) : Option (Eventing ι) :=
  if s.collector.ignores T i then some s
  else (T.name i).bind fun name =>
    notifyWith serialise change { s with collector := s.collector.add name newValue }

/-- The loop over the listeners in `VariableContainer_change`. -/
def callListeners (i : ι) (oldValue newValue : String) :
    List Listener → Eventing ι → Option (Eventing ι)
  | [], s => some s
  | .observer k :: rest, s =>
    callListeners i oldValue newValue rest
      { s with calls := s.calls ++ [⟨k, i, T.name i, oldValue, newValue⟩] }
  | .collector :: rest, s =>
    (collectorCallback T serialise change s i newValue).bind
      (callListeners i oldValue newValue rest)

end Reentrant

/-- `VariableContainer_change` with at most `depth` nested calls of itself. -/
def changeDepth : ℕ → Eventing ι → ι → String → Option (Eventing ι × Bool)
  | 0, _, _, _ => none
  | depth + 1, s, i, value =>
    if value = s.values i then some (s, false)
    else (callListeners T serialise (changeDepth depth) i (s.values i) value s.callbacks
      { s with values := Function.update s.values i value }).map fun s' => (s', true)

/-- `VariableContainer_change`; NULL counts as the empty string. -/
def change (s : Eventing ι) (i : ι) (value : Option String) : Option (Eventing ι × Bool) :=
  changeDepth T serialise 2 s i (value.getD "")

def notify (s : Eventing ι) : Option (Eventing ι) :=
  notifyWith serialise (changeDepth T serialise 1) s

/-- `UPnPLastChangeCollector_finish` -/
def finish (s : Eventing ι) : Option (Eventing ι) :=
  if s.collector.openTransactions < 1 then none
  else notify T serialise { s with collector :=
    { s.collector with openTransactions := s.collector.openTransactions - 1 } }

/-- `UPnPLastChangeCollector_start` -/
def start (s : Eventing ι) : Eventing ι := { s with collector := s.collector.start }

/-- `VariableContainer_register_callback` -/
def registerCallback (s : Eventing ι) (l : Listener) : Eventing ι :=
  { s with callbacks := l :: s.callbacks }

/-- One round of the loop in `UPnPLastChangeCollector_new`. -/
def scanVariable (values : ι → String) (found : Option ι × Builder) (i : ι) :
    Option ι × Builder :=
  match T.name i with
  | none => found
  | some name =>
    if name = "LastChange" then (some i, found.2) else (found.1, found.2.add name (values i))

/-- `UPnPLastChangeCollector_new` on a container with the given values and listeners. -/
def newCollector (values : ι → String) (observers : List Listener) (xmlNamespace : String) :
    Option (Eventing ι) :=
  if T.vars.length < 32 then
    let scanned := T.vars.foldl (scanVariable T values) (none, ⟨some xmlNamespace, []⟩)
    scanned.1.bind fun lastChange =>
      let collector : Collector ι := ⟨lastChange, 0#32, 0, scanned.2⟩
      (notify T serialise ⟨⟨values, collector.addIgnore T lastChange, []⟩, observers, []⟩).map
        fun s => registerCallback s .collector
  else none

namespace Core

/-- The effect of `notify` on everything but the calls of the other listeners. -/
def notify (c : Core ι) : Core ι :=
  if c.collector.openTransactions ≠ 0 then c
  else match c.collector.builder.toXml serialise with
    | none => c
    | some xml =>
      if xml = c.values c.collector.lastChangeVariableNum
      then { c with collector := c.collector.resetBuilder }
      else {
        values := Function.update c.values c.collector.lastChangeVariableNum xml
        collector := c.collector.resetBuilder
        notified := c.notified ++ [xmlescape xml false] }

/-- The effect of `change` on everything but the calls of the other listeners. -/
def change (c : Core ι) (i : ι) (value : String) : Core ι :=
  if value = c.values i then c
  else if c.collector.ignores T i then
    { c with values := Function.update c.values i value }
  else match T.name i with
    | none => c
    | some name => notify serialise
        { c with values := Function.update c.values i value
                 collector := c.collector.add name value }

def start (c : Core ι) : Core ι := { c with collector := c.collector.start }

def finish (c : Core ι) : Core ι :=
  notify serialise { c with collector :=
    { c.collector with openTransactions := c.collector.openTransactions - 1 } }

/-- A notification changes nothing in the collector but its builder. -/
theorem notify_collector (c : Core ι) :
    ∃ b, (c.notify serialise).collector = { c.collector with builder := b } := by
  unfold Core.notify
  split_ifs
  · exact ⟨c.collector.builder, rfl⟩
  · split
    · exact ⟨c.collector.builder, rfl⟩
    · split_ifs <;> exact ⟨c.collector.builder.reset, rfl⟩

theorem change_collector (c : Core ι) (i : ι) (value : String) :
    ∃ b, (c.change T serialise i value).collector = { c.collector with builder := b } := by
  unfold Core.change
  split_ifs
  · exact ⟨c.collector.builder, rfl⟩
  · exact ⟨c.collector.builder, rfl⟩
  · cases T.name i with
    | none => exact ⟨c.collector.builder, rfl⟩
    | some name => exact notify_collector serialise _

end Core

/-- An outcome of a walk over the listeners, up to the calls of the read-only ones. -/
def Result (s' : Eventing ι) (c : Core ι) (callbacks : List Listener) : Prop :=
  s'.toCore = c ∧ s'.callbacks = callbacks

section Listeners

variable (inner : Eventing ι → ι → String → Option (Eventing ι × Bool))

/-- While a variable is ignored its listeners change nothing. -/
theorem callListeners_ignored (i : ι) (old new : String) (l : List Listener) (s : Eventing ι)
    (h : s.collector.ignores T i = true) :
    ∃ s', callListeners T serialise inner i old new l s = some s' ∧
      Result s' s.toCore s.callbacks := by
  induction l generalizing s with
  | nil => exact ⟨s, rfl, rfl, rfl⟩
  | cons a l ih =>
    cases a with
    | observer k =>
      obtain ⟨s', hs', hcore, hcb⟩ :=
        ih { s with calls := s.calls ++ [⟨k, i, T.name i, old, new⟩] } h
      exact ⟨s', hs', hcore, hcb⟩
    | collector =>
      obtain ⟨s', hs', hres⟩ := ih s h
      refine ⟨s', ?_, hres⟩
      simp only [callListeners, collectorCallback, h, if_true, Option.bind_some]
      exact hs'

/-- Listeners other than the collector change nothing. -/
theorem callListeners_observers (i : ι) (old new : String) (l : List Listener)
    (s : Eventing ι) (hl : Listener.collector ∉ l) :
    ∃ s', callListeners T serialise inner i old new l s = some s' ∧
      Result s' s.toCore s.callbacks := by
  induction l generalizing s with
  | nil => exact ⟨s, rfl, rfl, rfl⟩
  | cons a l ih =>
    cases a with
    | observer k =>
      obtain ⟨s', hs', hcore, hcb⟩ :=
        ih { s with calls := s.calls ++ [⟨k, i, T.name i, old, new⟩] }
          (List.not_mem_of_not_mem_cons hl)
      exact ⟨s', hs', hcore, hcb⟩
    | collector => exact absurd (List.mem_cons_self ..) hl

/-- The collector acts once, wherever it stands among the listeners. -/
theorem callListeners_collector (i : ι) (old new : String) (l : List Listener)
    (s : Eventing ι) (hl : l.count .collector = 1) (c : Core ι)
    (hcallback : ∀ t : Eventing ι, t.toCore = s.toCore →
      ∃ t', collectorCallback T serialise inner t i new = some t' ∧
        Result t' c t.callbacks) :
    ∃ s', callListeners T serialise inner i old new l s = some s' ∧
      Result s' c s.callbacks := by
  induction l generalizing s with
  | nil => simp at hl
  | cons a l ih =>
    cases a with
    | observer k =>
      exact ih { s with calls := s.calls ++ [⟨k, i, T.name i, old, new⟩] }
        (by simpa using hl) hcallback
    | collector =>
      obtain ⟨t, ht, hcore, hcb⟩ := hcallback s rfl
      have hrest : Listener.collector ∉ l := by
        simpa [List.count_eq_zero] using hl
      obtain ⟨s', hs', hcore', hcb'⟩ :=
        callListeners_observers T serialise inner i old new l t hrest
      refine ⟨s', ?_, hcore'.trans hcore, hcb'.trans hcb⟩
      simp only [callListeners, ht, Option.bind_some]
      exact hs'

end Listeners

theorem changeDepth_of_ne (depth : ℕ) (s s' : Eventing ι) (i : ι) (value : String)
    (hv : value ≠ s.values i)
    (h : callListeners T serialise (changeDepth T serialise depth) i (s.values i) value
      s.callbacks { s with values := Function.update s.values i value } = some s') :
    changeDepth T serialise (depth + 1) s i value = some (s', decide (value ≠ s.values i)) := by
  rw [changeDepth, if_neg hv, h]
  simp [hv]

/-- Changing an ignored variable does not nest. -/
theorem changeDepth_ignored (depth : ℕ) (s : Eventing ι) (i : ι) (value : String)
    (h : s.collector.ignores T i = true) :
    ∃ s', changeDepth T serialise (depth + 1) s i value =
        some (s', decide (value ≠ s.values i)) ∧
      Result s' (s.toCore.change T serialise i value) s.callbacks := by
  by_cases hv : value = s.values i
  · refine ⟨s, by simp [changeDepth, hv], ?_, rfl⟩
    simp [Core.change, hv]
  · obtain ⟨s', hs', hcore, hcb⟩ := callListeners_ignored T serialise
      (changeDepth T serialise depth) i (s.values i) value s.callbacks
      { s with values := Function.update s.values i value } h
    refine ⟨s', changeDepth_of_ne T serialise depth s s' i value hv hs', ?_, hcb⟩
    rw [hcore]
    simp [Core.change, hv, h]

/-- The notification nests one change, of LastChange, and that change nests no other. -/
theorem notifyWith_core (depth : ℕ) (s : Eventing ι)
    (h : s.collector.ignores T s.collector.lastChangeVariableNum = true) :
    ∃ s', notifyWith serialise (changeDepth T serialise (depth + 1)) s = some s' ∧
      Result s' (s.toCore.notify serialise) s.callbacks := by
  by_cases hopen : s.collector.openTransactions ≠ 0
  · exact ⟨s, by simp [notifyWith, hopen], by simp [Core.notify, hopen], rfl⟩
  cases hxml : s.collector.builder.toXml serialise with
  | none => exact ⟨s, by simp [notifyWith, hxml], by simp [Core.notify, hxml], rfl⟩
  | some xml =>
    obtain ⟨s', hs', hcore, hcb⟩ := changeDepth_ignored T serialise depth
      { s with collector := s.collector.resetBuilder } s.collector.lastChangeVariableNum xml h
    have hignored : s.collector.resetBuilder.ignores T s.collector.lastChangeVariableNum = true :=
      h
    by_cases hv : xml = s.values s.collector.lastChangeVariableNum
    · refine ⟨s', ?_, ?_, hcb⟩
      · simp only [notifyWith, hopen, if_false, hxml, hs', Option.map_some]
        simp [hv]
      · rw [hcore]
        simp [Core.notify, Core.change, hopen, hxml, hv]
    · refine ⟨{ s' with notified := s'.notified ++ [xmlescape xml false] }, ?_, ?_, hcb⟩
      · simp only [notifyWith, hopen, if_false, hxml, hs', Option.map_some]
        simp [hv]
      · have hvalues := congrArg Core.values hcore
        have hcollector := congrArg Core.collector hcore
        have hnotified := congrArg Core.notified hcore
        simp only [Core.change, hv, if_false, hignored, if_true]
          at hvalues hcollector hnotified
        simp [Core.notify, hopen, hxml, hv, hvalues, hcollector, hnotified]

/-- Changing a named variable terminates with at most one nested change and does what
the straight-line `Core.change` does, whatever other listeners are registered. -/
theorem changeDepth_core (depth : ℕ) (s : Eventing ι) (i : ι) (value : String)
    (hname : T.name i ≠ none) (hcount : s.callbacks.count .collector = 1)
    (h : s.collector.ignores T s.collector.lastChangeVariableNum = true) :
    ∃ s', changeDepth T serialise (depth + 2) s i value =
        some (s', decide (value ≠ s.values i)) ∧
      Result s' (s.toCore.change T serialise i value) s.callbacks := by
  by_cases hi : s.collector.ignores T i = true
  · exact changeDepth_ignored T serialise (depth + 1) s i value hi
  by_cases hv : value = s.values i
  · refine ⟨s, by simp [changeDepth, hv], ?_, rfl⟩
    simp [Core.change, hv]
  obtain ⟨name, hn⟩ := Option.ne_none_iff_exists'.mp hname
  obtain ⟨s', hs', hcore, hcb⟩ := callListeners_collector T serialise
    (changeDepth T serialise (depth + 1)) i (s.values i) value s.callbacks
    { s with values := Function.update s.values i value } hcount
    (s.toCore.change T serialise i value) (by
      intro t ht
      have hcol : t.collector = s.collector := by
        simpa using congrArg Core.collector ht
      obtain ⟨t', ht', htcore, htcb⟩ := notifyWith_core T serialise depth
        { t with collector := t.collector.add name value } (by rw [hcol]; exact h)
      refine ⟨t', ?_, ?_, htcb⟩
      · simp [collectorCallback, hcol, hi, hn, ← ht']
      · rw [htcore]
        simp only [Core.change, hv, if_false, hi, hn, ht]
        rfl)
  exact ⟨s', changeDepth_of_ne T serialise (depth + 1) s s' i value hv hs', hcore, hcb⟩

end GMediaRender.VariableContainer
