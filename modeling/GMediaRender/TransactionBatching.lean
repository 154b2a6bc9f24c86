import GMediaRender.LastChangeStream
import GMediaRender.Runs
import Mathlib.Data.Finset.Card

/-!
Sessions of several threads over one collector. A session starts a transaction, changes
variables and finishes the transaction; sessions overlap in any order, and variables also
change outside of all sessions. The changes are sent as one document when the last open
session finishes.
-/
namespace GMediaRender.TransactionBatching

open XmlDoc VariableContainer LastChangeStream Runs

variable {ι τ : Type} [DecidableEq ι] [DecidableEq τ]
variable (T : VariableTable ι) (serialise : Node → String) (ns : String)

/-- The container is `none` after a failed assertion. -/
structure State (τ ι : Type) where
  eventing : Option (Eventing ι)
  opened : Finset τ
  finished : Finset τ

inductive Label (τ ι : Type) where
  | start (t : τ)
  | change (t : τ) (i : ι) (value : Option String)
  | finish (t : τ)
  /-- A change outside of all sessions. -/
  | direct (i : ι) (value : Option String)
  | ignore (i : ι)

def Label.Allowed : Label τ ι → Prop
  | .change _ i _ | .direct i _ => T.name i ≠ none ∧ i ≠ T.lastChange
  | _ => True

def State.apply (s : State τ ι) (op : Op ι) : State τ ι :=
  { s with eventing := s.eventing.bind (op.apply T serialise) }

/-- A session starts once and finishes once; what it cannot do leaves the state as it is. -/
def step (s : State τ ι) : Label τ ι → State τ ι
  | .start t =>
    if t ∈ s.opened ∪ s.finished then s
    else { s.apply T serialise .start with opened := insert t s.opened }
  | .change t i value => if t ∈ s.opened then s.apply T serialise (.change i value) else s
  | .finish t =>
    if t ∈ s.opened then
      { s.apply T serialise .finish with
        opened := s.opened.erase t
        finished := insert t s.finished }
    else s
  | .direct i value => s.apply T serialise (.change i value)
  | .ignore i => s.apply T serialise (.addIgnore i)

/-- What is known of a run: the variables that are ignored, and the changes to the others that
were made since no session was open. -/
structure Noted (ι : Type) where
  ignored : List ι
  changes : List (String × String)

/-- The change of a variable, if it is one and the variable is not ignored. -/
def entry (ignored : List ι) (e : Eventing ι) (i : ι) (value : Option String) :
    List (String × String) :=
  if value.getD "" = e.values i ∨ i ∈ ignored then []
  else (T.name i).toList.map fun name => (name, value.getD "")

/-- The changes that are made in a step. -/
def changed (ignored : List ι) (s : State τ ι) : Label τ ι → List (String × String)
  | .change t i value =>
    if t ∈ s.opened then s.eventing.toList.flatMap (entry T ignored · i value) else []
  | .direct i value => s.eventing.toList.flatMap (entry T ignored · i value)
  | _ => []

/-- The changes made since no session was open, up to the end of a step. -/
def changes (p : State τ ι × Noted ι) (l : Label τ ι) : List (String × String) :=
  p.2.changes ++ changed T p.2.ignored p.1 l

def ignoredAfter (ignored : List ι) : Label τ ι → List ι
  | .ignore i => i :: ignored
  | _ => ignored

def note (noted : Noted ι) (s : State τ ι) (l : Label τ ι) : Noted ι where
  ignored := ignoredAfter noted.ignored l
  changes := if (step T serialise s l).opened = ∅ then [] else changes T (s, noted) l

/-- The element of a change: what the variable has become, and for the variables of a channel
that it is the master's. -/
def changeElement (e : String × String) : Node :=
  .element e.1 (("val", e.2) ::
    if e.1 ∈ ["Volume", "VolumeDB", "Mute", "Loudness"] then [("channel", "Master")] else []) []

/-- The document of some changes: one element for each of them, in their order. -/
def changesDocument (entries : List (String × String)) : Node :=
  .element "Event" [("xmlns", ns)]
    [.element "InstanceID" [("val", "0")] (entries.map changeElement)]

/-- What is sent for some changes: one document with these changes, unless there are none or it
repeats the value of LastChange. -/
def message (lastChange : String) (entries : List (String × String)) : List String :=
  if entries = [] ∨ serialise (changesDocument ns entries) = lastChange then []
  else [xmlescape (serialise (changesDocument ns entries)) false]

/-- A step fails no assertion and leaves as many transactions open as there are open sessions.
While a session is open nothing is sent and LastChange stays; with none open, the changes
since then are sent, and none is left pending. -/
def BatchExact (p : State τ ι × Noted ι) (l : Label τ ι) : Prop :=
  ∃ e e', p.1.eventing = some e ∧ (step T serialise p.1 l).eventing = some e' ∧
    e'.collector.openTransactions = (step T serialise p.1 l).opened.card ∧
    ((step T serialise p.1 l).opened ≠ ∅ →
      e'.notified = e.notified ∧ e'.values T.lastChange = e.values T.lastChange) ∧
    ((step T serialise p.1 l).opened = ∅ →
      e'.notified = e.notified ++ message serialise ns (e.values T.lastChange) (changes T p l) ∧
      e'.collector.builder.entries = [])

section Collecting

/-- The collector with some changes in its builder. -/
structure Collecting (c : Core ι) (noted : List (String × String)) : Prop where
  lastChange : c.collector.lastChangeVariableNum = T.lastChange
  ignored : c.collector.ignores T T.lastChange = true
  xmlNamespace : c.collector.builder.xmlNamespace = some ns
  entries : c.collector.builder.entries = noted

/-- What an operation makes of a collector that has collected some changes by its end. -/
structure Batched (c c' : Core ι) (entries : List (String × String)) : Prop where
  collecting : Collecting T ns c' (if c'.collector.openTransactions = 0 then [] else entries)
  notified : c'.notified = c.notified ++
    if c'.collector.openTransactions = 0
    then message serialise ns (c.values T.lastChange) entries else []
  lastChange : c'.collector.openTransactions ≠ 0 →
    c'.values T.lastChange = c.values T.lastChange

variable {T serialise ns} {c : Core ι} {noted : List (String × String)}

/-- The builder's document is the one of the changes that it was given. -/
theorem changeEventDoc_eq (ns : String) (entries : List (String × String)) :
    Builder.changeEventDoc (some ns) entries = changesDocument ns entries := by
  have hvalue : Builder.valueElement = changeElement := by
    funext e
    simp [Builder.valueElement, Builder.channelAttributes, attributeValueElement, changeElement]
  rw [Builder.changeEventDoc, hvalue]
  rfl

variable (serialise) in
theorem Collecting.toXml (h : Collecting T ns c noted) (hne : noted ≠ []) :
    c.collector.builder.toXml serialise = some (serialise (changesDocument ns noted)) := by
  rw [Builder.toXml, h.entries, if_neg hne, h.xmlNamespace, changeEventDoc_eq]

theorem Collecting.reset (h : Collecting T ns c noted) :
    Collecting T ns { c with collector := c.collector.resetBuilder } [] :=
  ⟨h.lastChange, h.ignored, h.xmlNamespace, rfl⟩

variable (serialise) in
/-- A notification sends what has been collected if no transaction is open. -/
theorem Collecting.notify (h : Collecting T ns c noted) :
    Batched T serialise ns c (c.notify serialise) noted := by
  by_cases hopen : c.collector.openTransactions = 0
  · by_cases hnoted : noted = []
    · have hxml : c.collector.builder.toXml serialise = none := by
        simp [Builder.toXml, h.entries, hnoted]
      have hsame : c.notify serialise = c := by simp [Core.notify, hxml]
      rw [hsame]
      refine ⟨?_, by simp [message, hnoted], fun _ => rfl⟩
      rw [if_pos hopen, ← hnoted]
      exact h
    · have hxml := h.toXml serialise hnoted
      by_cases hrepeat : serialise (changesDocument ns noted) = c.values T.lastChange
      · have hsilent : c.notify serialise = { c with collector := c.collector.resetBuilder } := by
          simp [Core.notify, hopen, hxml, h.lastChange, hrepeat]
        have hopen' : c.collector.resetBuilder.openTransactions = 0 := hopen
        rw [hsilent]
        refine ⟨?_, by simp [message, hrepeat], fun _ => rfl⟩
        rw [if_pos hopen']
        exact h.reset
      · have hsent : c.notify serialise = {
            values :=
              Function.update c.values T.lastChange (serialise (changesDocument ns noted))
            collector := c.collector.resetBuilder
            notified :=
              c.notified ++ [xmlescape (serialise (changesDocument ns noted)) false] } := by
          simp [Core.notify, hopen, hxml, h.lastChange, hrepeat]
        have hopen' : c.collector.resetBuilder.openTransactions = 0 := hopen
        rw [hsent]
        refine ⟨?_, by simp [message, hopen', hnoted, hrepeat], fun hne => absurd hopen' hne⟩
        rw [if_pos hopen']
        exact ⟨h.lastChange, h.ignored, h.xmlNamespace, rfl⟩
  · have hsame : c.notify serialise = c := by simp [Core.notify, hopen]
    rw [hsame]
    refine ⟨?_, by simp [hopen], fun _ => rfl⟩
    rw [if_neg hopen]
    exact h

/-- A step that neither sends nor collects anything. -/
theorem Collecting.batched {c' : Core ι} (h : Collecting T ns c' noted)
    (hnotified : c'.notified = c.notified)
    (hlast : c'.values T.lastChange = c.values T.lastChange)
    (hidle : c'.collector.openTransactions = 0 → noted = []) :
    Batched T serialise ns c c' noted := by
  by_cases hopen : c'.collector.openTransactions = 0
  · obtain rfl := hidle hopen
    exact ⟨by simpa [hopen] using h, by simp [hopen, message, hnotified], fun _ => hlast⟩
  · exact ⟨by simpa [hopen] using h, by simp [hopen, hnotified], fun _ => hlast⟩

/-- What an operation does is counted from the state before the preceding ones if these have
sent nothing. -/
theorem Batched.of_frame {d c' : Core ι} (h : Batched T serialise ns d c' noted)
    (hnotified : d.notified = c.notified)
    (hlast : d.values T.lastChange = c.values T.lastChange) :
    Batched T serialise ns c c' noted where
  collecting := h.collecting
  notified := by
    rw [← hnotified, ← hlast]
    exact h.notified
  lastChange hopen := (h.lastChange hopen).trans hlast

theorem Collecting.add (h : Collecting T ns c noted) (i : ι) (name value : String) :
    Collecting T ns { c with values := Function.update c.values i value
                             collector := c.collector.add name value }
      (noted ++ [(name, value)]) :=
  ⟨h.lastChange, h.ignored, h.xmlNamespace,
    by simp [Collector.add, Builder.add, h.entries]⟩

theorem Collecting.addIgnore (hT : T.vars.length < 32) (h : Collecting T ns c noted) (i : ι) :
    Collecting T ns { c with collector := c.collector.addIgnore T i } noted :=
  ⟨h.lastChange, (Collector.ignores_addIgnore T hT c.collector _ i).mpr (Or.inl h.ignored),
    h.xmlNamespace, h.entries⟩

theorem Collecting.setOpen (h : Collecting T ns c noted) (n : ℕ) :
    Collecting T ns { c with collector := { c.collector with openTransactions := n } } noted :=
  ⟨h.lastChange, h.ignored, h.xmlNamespace, h.entries⟩

/-- A change adds its entry, and is sent at once if no transaction is open. -/
theorem Collecting.change {e : Eventing ι} (h : Collecting T ns e.toCore noted)
    {ignored : List ι} (hignored : ∀ i, e.collector.ignores T i = true ↔ i ∈ ignored) (i : ι)
    (value : Option String) (hname : T.name i ≠ none) (hi : i ≠ T.lastChange)
    (hidle : e.collector.openTransactions = 0 → noted = []) :
    Batched T serialise ns e.toCore (e.toCore.change T serialise i (value.getD ""))
      (noted ++ entry T ignored e i value) := by
  obtain ⟨name, hn⟩ := Option.ne_none_iff_exists'.mp hname
  by_cases hv : value.getD "" = e.values i
  · have hsame : e.toCore.change T serialise i (value.getD "") = e.toCore := by
      simp [Core.change, hv]
    have hentry : entry T ignored e i value = [] := by simp [entry, hv]
    rw [hsame, hentry, List.append_nil]
    exact h.batched rfl rfl hidle
  by_cases hign : e.collector.ignores T i = true
  · have hsame : e.toCore.change T serialise i (value.getD "") =
        { e.toCore with values := Function.update e.values i (value.getD "") } := by
      simp [Core.change, hv, hign]
    have hentry : entry T ignored e i value = [] := by
      simp [entry, (hignored i).mp hign]
    have hcollecting : Collecting T ns
        { e.toCore with values := Function.update e.values i (value.getD "") } noted :=
      ⟨h.lastChange, h.ignored, h.xmlNamespace, h.entries⟩
    rw [hsame, hentry, List.append_nil]
    exact hcollecting.batched rfl (Function.update_of_ne hi.symm _ _) hidle
  · have hsame : e.toCore.change T serialise i (value.getD "") = Core.notify serialise
        { e.toCore with values := Function.update e.values i (value.getD "")
                        collector := e.collector.add name (value.getD "") } := by
      simp [Core.change, hv, hign, hn]
    have hentry : entry T ignored e i value = [(name, value.getD "")] := by
      simp [entry, hv, mt (hignored i).mpr hign, hn]
    rw [hsame, hentry]
    exact ((h.add i name (value.getD "")).notify serialise).of_frame rfl
      (Function.update_of_ne hi.symm _ _)

end Collecting

section Steps

/-- Between two steps: one registered collector holding the noted changes, which ignores the
noted variables, counts the open sessions and holds nothing if there are none. -/
def Batching (p : State τ ι × Noted ι) : Prop :=
  ∃ e, p.1.eventing = some e ∧ e.callbacks.count .collector = 1 ∧
    Collecting T ns e.toCore p.2.changes ∧ e.collector.openTransactions = p.1.opened.card ∧
    (p.1.opened = ∅ → p.2.changes = []) ∧
    ∀ i, e.collector.ignores T i = true ↔ i ∈ p.2.ignored

variable {T serialise ns} {p : State τ ι × Noted ι} {l : Label τ ι}

/-- A step that does one batched operation, keeps the count and ignores what it is told to is
exact. -/
theorem exact_of_batched {e e' : Eventing ι} (he : p.1.eventing = some e)
    (he' : (step T serialise p.1 l).eventing = some e')
    (hregistered : e'.callbacks.count .collector = 1)
    (hbatched : Batched T serialise ns e.toCore e'.toCore (changes T p l))
    (hcard : e'.collector.openTransactions = (step T serialise p.1 l).opened.card)
    (hignored : ∀ i, e'.collector.ignores T i = true ↔ i ∈ ignoredAfter p.2.ignored l) :
    BatchExact T serialise ns p l ∧
      Batching T ns (track (step T serialise) (note T serialise) p l) := by
  have hclosed : e'.collector.openTransactions = 0 ↔ (step T serialise p.1 l).opened = ∅ := by
    rw [hcard]
    exact Finset.card_eq_zero
  have hcollecting := hbatched.collecting
  have hnotified := hbatched.notified
  simp only [hclosed] at hcollecting hnotified
  refine ⟨⟨e, e', he, he', hcard, fun hopen => ⟨?_, ?_⟩, fun hnone => ⟨?_, ?_⟩⟩,
    e', he', hregistered, hcollecting, hcard, fun hnone => ?_, hignored⟩
  · simpa [hopen] using hnotified
  · exact hbatched.lastChange (mt hclosed.mp hopen)
  · simpa [hnone] using hnotified
  · simpa [hnone] using hcollecting.entries
  · exact if_pos hnone

/-- A step that leaves the state as it is. -/
theorem exact_of_idle (h : Batching T ns p) (hstep : step T serialise p.1 l = p.1)
    (hchanged : changed T p.2.ignored p.1 l = [])
    (hkeeps : ignoredAfter p.2.ignored l = p.2.ignored) :
    BatchExact T serialise ns p l ∧
      Batching T ns (track (step T serialise) (note T serialise) p l) := by
  obtain ⟨e, he, hregistered, hcollecting, hcard, hidle, hignored⟩ := h
  refine exact_of_batched he (by rw [hstep]; exact he) hregistered ?_ (by rw [hstep]; exact hcard)
    (by rw [hkeeps]; exact hignored)
  rw [changes, hchanged, List.append_nil]
  exact hcollecting.batched rfl rfl fun h0 => hidle (Finset.card_eq_zero.mp (hcard ▸ h0))

/-- A step that changes a variable, in a session or outside of all. -/
theorem exact_of_change (h : Batching T ns p) (i : ι) (value : Option String)
    (hname : T.name i ≠ none) (hi : i ≠ T.lastChange)
    (hstep : step T serialise p.1 l = p.1.apply T serialise (.change i value))
    (hchanged : changed T p.2.ignored p.1 l =
      p.1.eventing.toList.flatMap (entry T p.2.ignored · i value))
    (hkeeps : ignoredAfter p.2.ignored l = p.2.ignored) :
    BatchExact T serialise ns p l ∧
      Batching T ns (track (step T serialise) (note T serialise) p l) := by
  obtain ⟨e, he, hregistered, hcollecting, hcard, hidle, hignored⟩ := h
  obtain ⟨e', he', hcore, hcallbacks⟩ := changeDepth_core T serialise 0 e i (value.getD "") hname
    hregistered (by rw [hcollecting.lastChange]; exact hcollecting.ignored)
  have hafter : (step T serialise p.1 l).eventing = some e' := by
    simp [hstep, State.apply, he, Op.apply, VariableContainer.change, he']
  obtain ⟨b, hb⟩ := Core.change_collector T serialise e.toCore i (value.getD "")
  have hcollector : e'.collector = { e.collector with builder := b } := by
    rw [congrArg Core.collector hcore, hb]
  refine exact_of_batched he hafter (hcallbacks ▸ hregistered) ?_ ?_ ?_
  · have hentries : changes T p l = p.2.changes ++ entry T p.2.ignored e i value := by
      simp [changes, hchanged, he]
    rw [hentries, hcore]
    exact hcollecting.change hignored i value hname hi
      fun h0 => hidle (Finset.card_eq_zero.mp (hcard ▸ h0))
  · rw [hcollector, hstep]
    exact hcard
  · intro j
    rw [hkeeps, hcollector]
    exact hignored j

theorem exact_of_start (h : Batching T ns p) (t : τ) (ht : t ∉ p.1.opened ∪ p.1.finished) :
    BatchExact T serialise ns p (.start t) ∧
      Batching T ns (track (step T serialise) (note T serialise) p (.start t)) := by
  obtain ⟨e, he, hregistered, hcollecting, hcard, hidle, hignored⟩ := h
  have hafter : (step T serialise p.1 (.start t)).eventing = some (VariableContainer.start e) := by
    simp [step, ht, State.apply, he, Op.apply]
  have hopened : (step T serialise p.1 (.start t)).opened = insert t p.1.opened := by
    simp [step, ht]
  refine exact_of_batched he hafter hregistered ?_ ?_ hignored
  · have hentries : changes T p (.start t) = p.2.changes := List.append_nil _
    rw [hentries]
    exact (hcollecting.setOpen _).batched rfl rfl fun h0 => absurd h0 (Nat.succ_ne_zero _)
  · rw [hopened, Finset.card_insert_of_notMem fun hmem => ht (Finset.mem_union_left _ hmem),
      ← hcard]
    rfl

/-- The last session to finish sends what has been noted. -/
theorem exact_of_finish (h : Batching T ns p) (t : τ) (ht : t ∈ p.1.opened) :
    BatchExact T serialise ns p (.finish t) ∧
      Batching T ns (track (step T serialise) (note T serialise) p (.finish t)) := by
  obtain ⟨e, he, hregistered, hcollecting, hcard, hidle, hignored⟩ := h
  have hpositive : 0 < p.1.opened.card := Finset.card_pos.mpr ⟨t, ht⟩
  obtain ⟨e', he', hcore, hcallbacks⟩ := notifyWith_core T serialise 0
    { e with collector :=
      { e.collector with openTransactions := e.collector.openTransactions - 1 } }
    (by rw [hcollecting.lastChange]; exact hcollecting.ignored)
  have hafter : (step T serialise p.1 (.finish t)).eventing = some e' := by
    simp only [step, if_pos ht, State.apply, he, Option.bind_some, Op.apply,
      VariableContainer.finish]
    rw [if_neg (by omega)]
    exact he'
  have hopened : (step T serialise p.1 (.finish t)).opened = p.1.opened.erase t := by
    simp [step, ht]
  refine exact_of_batched he hafter (hcallbacks ▸ hregistered) ?_ ?_ ?_
  · have hentries : changes T p (.finish t) = p.2.changes := List.append_nil _
    rw [hentries, hcore]
    exact ((hcollecting.setOpen _).notify serialise).of_frame rfl rfl
  · rw [congrArg Core.collector hcore, notify_open, hopened, Finset.card_erase_of_mem ht, ← hcard]
  · obtain ⟨b, hb⟩ := Core.notify_collector serialise { e.toCore with
      collector := { e.collector with openTransactions := e.collector.openTransactions - 1 } }
    intro i
    rw [congrArg Core.collector hcore, hb]
    exact hignored i

theorem exact_of_ignore (hT : T.vars.length < 32) (h : Batching T ns p) (i : ι) :
    BatchExact T serialise ns p (.ignore i) ∧
      Batching T ns (track (step T serialise) (note T serialise) p (.ignore i)) := by
  obtain ⟨e, he, hregistered, hcollecting, hcard, hidle, hignored⟩ := h
  have hafter : (step T serialise p.1 (.ignore i)).eventing =
      some { e with collector := e.collector.addIgnore T i } := by
    simp [step, State.apply, he, Op.apply]
  refine exact_of_batched he hafter hregistered ?_ hcard fun j => ?_
  swap
  · rw [Collector.ignores_addIgnore T hT, hignored j, ignoredAfter, List.mem_cons, or_comm]
  have hentries : changes T p (.ignore i) = p.2.changes := List.append_nil _
  rw [hentries]
  exact (hcollecting.addIgnore hT i).batched rfl rfl
    fun h0 => hidle (Finset.card_eq_zero.mp (hcard ▸ h0))

theorem step_exact (hT : T.vars.length < 32) (p : State τ ι × Noted ι)
    (l : Label τ ι) (h : Batching T ns p) (hl : l.Allowed T) :
    BatchExact T serialise ns p l ∧
      Batching T ns (track (step T serialise) (note T serialise) p l) := by
  cases l with
  | start t =>
    by_cases ht : t ∈ p.1.opened ∪ p.1.finished
    · exact exact_of_idle h (if_pos ht) rfl rfl
    · exact exact_of_start h t ht
  | change t i value =>
    by_cases ht : t ∈ p.1.opened
    · exact exact_of_change h i value hl.1 hl.2 (if_pos ht) (if_pos ht) rfl
    · exact exact_of_idle h (if_neg ht) (if_neg ht) rfl
  | finish t =>
    by_cases ht : t ∈ p.1.opened
    · exact exact_of_finish h t ht
    · exact exact_of_idle h (if_neg ht) rfl rfl
  | direct i value => exact exact_of_change h i value hl.1 hl.2 rfl rfl rfl
  | ignore i => exact exact_of_ignore hT h i

end Steps

section Main

variable (values : ι → String)

omit [DecidableEq τ] in
/-- A new collector has sent what it collected from the container. -/
theorem newCollector_batching (hT : T.vars.length < 32) (observers : List ℕ) :
    ∃ e₀, newCollector T serialise values (observers.map .observer) ns = some e₀ ∧
      Batching T ns ((⟨some e₀, ∅, ∅⟩, ⟨[T.lastChange], []⟩) : State τ ι × Noted ι) := by
  obtain ⟨e₀, hnew, hcore, hregistered⟩ := newCollector_core T serialise ns values hT observers
  have hinitial : Collecting T ns ⟨values, initialCollector T ns values, []⟩
      (initialEntries T values) :=
    ⟨rfl, (initialCollector_ignores hT _).mpr rfl, rfl, rfl⟩
  have hopen : e₀.collector.openTransactions = 0 := by
    rw [congrArg Core.collector hcore, notify_open]
    rfl
  have hcollecting := (hinitial.notify serialise).collecting
  rw [← hcore, if_pos hopen] at hcollecting
  refine ⟨e₀, hnew, e₀, rfl, hregistered, hcollecting, hopen, fun _ => rfl, fun i => ?_⟩
  obtain ⟨b, hb⟩ := Core.notify_collector serialise ⟨values, initialCollector T ns values, []⟩
  rw [congrArg Core.collector hcore, hb, List.mem_singleton]
  exact initialCollector_ignores hT i

/-- Sessions of any threads that overlap in any way are batched exactly, from the start of the
collector on. -/
theorem batching_exact (hT : T.vars.length < 32) (observers : List ℕ) (ls : List (Label τ ι))
    (hls : ∀ l ∈ ls, l.Allowed T) :
    ∃ e₀, newCollector T serialise values (observers.map .observer) ns = some e₀ ∧
      AllSteps (track (step T serialise) (note T serialise)) (BatchExact T serialise ns)
        (⟨some e₀, ∅, ∅⟩, ⟨[T.lastChange], []⟩) ls := by
  obtain ⟨e₀, hnew, hbatching⟩ :=
    newCollector_batching (τ := τ) T serialise ns values hT observers
  exact ⟨e₀, hnew, allSteps_of_labels _ (step_exact hT) hbatching hls⟩

/-- Two sessions that overlap without nesting, and a change between them and after them. -/
theorem batching_exact_overlapping :
    ∃ e₀, newCollector stateTable ixmlDocumentToString !["STOPPED", ""]
        ([7].map .observer) transportEventXmlNs = some e₀ ∧
      AllSteps (track (step stateTable ixmlDocumentToString) (note stateTable ixmlDocumentToString))
        (BatchExact stateTable ixmlDocumentToString transportEventXmlNs)
        ((⟨some e₀, ∅, ∅⟩, ⟨[1], []⟩) : State Bool (Fin 2) × Noted (Fin 2))
        [.start true, .change true 0 (some "PLAYING"), .start false, .direct 0 none, .finish true,
          .change false 0 (some "STOPPED"), .finish false, .direct 0 (some "PLAYING")] :=
  batching_exact stateTable ixmlDocumentToString transportEventXmlNs _ (by decide) [7] _
    (by simp [Label.Allowed, stateTable])

end Main

end GMediaRender.TransactionBatching
