import GMediaRender.VariableContainer
import GMediaRender.UpdateLog
import Mathlib.Data.List.Nodup
import Mathlib.Data.Fin.VecNotation
import Mathlib.Data.Fintype.Basic
import Mathlib.Tactic.FinCases

/-!
The stream of LastChange documents. A publisher of keyed updates describes what the
collector is for; `Represents` ties the container and the collector to it, and every
operation preserves the relation. Replaying the notified documents therefore gives the
values of the evented variables whenever no transaction is open.
-/
namespace GMediaRender.LastChangeStream

open XmlDoc VariableContainer UpdateLog PrefixCode

variable {ι : Type} [DecidableEq ι]
variable (T : VariableTable ι) (serialise : Node → String) (ns : String)

/-- What is done to a container with a collector. -/
inductive Op (ι : Type) where
  | change (i : ι) (value : Option String)
  | start
  | finish
  | addIgnore (i : ι)
  | observe (id : ℕ)

namespace Op

def isStart : Op ι → Bool
  | .start => true
  | _ => false

def isFinish : Op ι → Bool
  | .finish => true
  | _ => false

/-- Changes concern variables in use other than LastChange. -/
def Allowed (op : Op ι) : Prop :=
  match op with
  | .change i _ => T.name i ≠ none ∧ i ≠ T.lastChange
  | _ => True

def apply (s : Eventing ι) : Op ι → Option (Eventing ι)
  | .change i value => (VariableContainer.change T serialise s i value).map Prod.fst
  | .start => some (VariableContainer.start s)
  | .finish => VariableContainer.finish T serialise s
  | .addIgnore i => some { s with collector := s.collector.addIgnore T i }
  | .observe id => some (registerCallback s (.observer id))

end Op

def runOps (s : Eventing ι) (ops : List (Op ι)) : Option (Eventing ι) :=
  ops.foldlM (Op.apply T serialise) s

/-- With `n` transactions open, no prefix has more finishes than transactions to end. -/
def Balanced (n : ℕ) (ops : List (Op ι)) : Prop :=
  ∀ pre, pre <+: ops → pre.countP Op.isFinish ≤ n + pre.countP Op.isStart

/-- The text of the document that carries some entries. -/
def text (entries : List (String × String)) : String :=
  serialise (Builder.changeEventDoc (some ns) entries)

/-- An entry of a document names a variable other than LastChange. -/
def Names (e : String × String) : Prop := ∃ i, T.name i = some e.1 ∧ i ≠ T.lastChange

/-- The entries of a document that the builder makes for this container. -/
def Built (entries : List (String × String)) : Prop :=
  entries ≠ [] ∧ ∀ e ∈ entries, Names T e

/-- Different documents of the builder have different texts. -/
def InjectiveTexts : Prop :=
  ∀ es es', Built T es → Built T es' → text serialise ns es = text serialise ns es' → es = es'

/-- The documents passed to `upnp_device_notify`, as the lists of their entries. -/
def Carries (s : Core ι) (docs : List (List (String × String))) : Prop :=
  (∀ es ∈ docs, Built T es) ∧ s.notified = docs.map fun es => xmlescape (text serialise ns es) false

/-- A reader of all notified documents holds the current values. -/
def Complete (s : Core ι) : Prop :=
  (∃! docs, Carries T serialise ns s docs) ∧
  ∀ docs, Carries T serialise ns s docs →
    ∀ i name, T.name i = some name → i ≠ T.lastChange → s.collector.ignores T i = false →
      replay (fun _ => none) docs.flatten name = some (s.values i)

omit [DecidableEq ι] in
/-- The texts that are sent determine the documents. -/
theorem documents_unique (hinj : InjectiveTexts T serialise ns)
    (docs docs' : List (List (String × String)))
    (hb : ∀ es ∈ docs, Built T es) (hb' : ∀ es ∈ docs', Built T es)
    (h : docs.map (fun es => xmlescape (text serialise ns es) false) =
      docs'.map fun es => xmlescape (text serialise ns es) false) : docs = docs' := by
  induction docs generalizing docs' with
  | nil =>
    cases docs' with
    | nil => rfl
    | cons d ds => simp at h
  | cons es docs ih =>
    cases docs' with
    | nil => simp at h
    | cons es' docs' =>
      simp only [List.map_cons, List.cons.injEq] at h
      have hes : es = es' := hinj es es' (hb es (List.mem_cons_self ..))
        (hb' es' (List.mem_cons_self ..)) (xmlescape_injective _ _ h.1)
      rw [hes, ih docs' (fun d hd => hb d (List.mem_cons_of_mem _ hd))
        (fun d hd => hb' d (List.mem_cons_of_mem _ hd)) h.2]

/-- The collector seen as a publisher of the variables it does not ignore. -/
structure Represents (s : Core ι) (p : Publisher String String) : Prop where
  lastChange : s.collector.lastChangeVariableNum = T.lastChange
  ignored : s.collector.ignores T T.lastChange = true
  xmlNamespace : s.collector.builder.xmlNamespace = some ns
  pending : s.collector.builder.entries = p.pending
  carries : Carries T serialise ns s p.sent
  names : ∀ e ∈ p.pending, Names T e
  stored : ∀ i name, T.name i = some name → i ≠ T.lastChange →
    s.collector.ignores T i = false → p.store name = some (s.values i)
  last : ∀ es, p.sent.getLast? = some es → s.values T.lastChange = text serialise ns es
  -- nothing was sent only if there is nothing to send
  silent : p.sent = [] → ∀ i, T.name i ≠ none → i = T.lastChange
  mirrors : p.Mirrors

/-- Between operations: the relation, one registered collector, and nothing left pending
while no transaction is open. -/
structure Settled (s : Eventing ι) (p : Publisher String String) : Prop where
  represents : Represents T serialise ns s.toCore p
  registered : s.callbacks.count .collector = 1
  idle : s.collector.openTransactions = 0 → p.pending = []

variable {T serialise ns}

theorem Represents.complete (hinj : InjectiveTexts T serialise ns) {s : Core ι}
    {p : Publisher String String} (h : Represents T serialise ns s p) (hp : p.pending = []) :
    Complete T serialise ns s := by
  have hunique : ∀ docs, Carries T serialise ns s docs → docs = p.sent := fun docs hd =>
    documents_unique T serialise ns hinj docs p.sent hd.1 h.carries.1
      (hd.2.symm.trans h.carries.2)
  refine ⟨⟨p.sent, h.carries, hunique⟩, ?_⟩
  intro docs hdocs i name hname hi hign
  rw [hunique docs hdocs]
  have hpub := p.published_eq_store h.mirrors hp
  rw [← h.stored i name hname hi hign, ← hpub]
  rfl

theorem Represents.toXml {s : Core ι} {p : Publisher String String}
    (h : Represents T serialise ns s p) (hp : p.pending ≠ []) :
    s.collector.builder.toXml serialise = some (text serialise ns p.pending) := by
  unfold Builder.toXml
  rw [h.pending, if_neg hp, h.xmlNamespace]
  rfl

/-- A flush of the collector is a flush of the publisher: the stored LastChange value is
the text of the last document, so both suppress the same documents. -/
theorem Represents.notify (hinj : InjectiveTexts T serialise ns) {s : Core ι}
    {p : Publisher String String} (h : Represents T serialise ns s p)
    (hopen : s.collector.openTransactions = 0) :
    Represents T serialise ns (s.notify serialise) p.flush := by
  by_cases hp : p.pending = []
  · have hxml : s.collector.builder.toXml serialise = none := by
      simp [Builder.toXml, h.pending, hp]
    have hs : s.notify serialise = s := by simp [Core.notify, hxml]
    have hflush : p.flush = p := by simp [Publisher.flush, hp]
    rw [hs, hflush]
    exact h
  have hxml := h.toXml hp
  have hbuilt : Built T p.pending := ⟨hp, h.names⟩
  obtain ⟨es, hes⟩ : ∃ es, p.sent.getLast? = some es := by
    by_cases hsent : p.sent = []
    · obtain ⟨e, he⟩ := List.exists_mem_of_ne_nil _ hp
      obtain ⟨i, hi, hne⟩ := h.names e he
      exact absurd (h.silent hsent i (by simp [hi])) hne
    · exact ⟨_, List.getLast?_eq_some_getLast hsent⟩
  have hesbuilt : Built T es := h.carries.1 es (List.mem_of_getLast? hes)
  have hlast := h.last es hes
  by_cases heq : es = p.pending
  · -- the document repeats the last one and is suppressed
    subst heq
    have hs : s.notify serialise = { s with collector := s.collector.resetBuilder } := by
      simp [Core.notify, hopen, hxml, h.lastChange, hlast]
    have hflush : p.flush = ⟨p.store, [], p.sent⟩ := by simp [Publisher.flush, hp, hes]
    rw [hs, hflush]
    exact {
      lastChange := h.lastChange
      ignored := h.ignored
      xmlNamespace := h.xmlNamespace
      pending := rfl
      carries := h.carries
      names := by simp
      stored := h.stored
      last := h.last
      silent := h.silent
      mirrors := hflush ▸ p.flush_mirrors h.mirrors }
  · have hne : text serialise ns p.pending ≠ s.values T.lastChange := by
      rw [hlast]
      exact fun hc => heq (hinj _ _ hbuilt hesbuilt hc).symm
    have hs : s.notify serialise = {
        values := Function.update s.values T.lastChange (text serialise ns p.pending)
        collector := s.collector.resetBuilder
        notified := s.notified ++ [xmlescape (text serialise ns p.pending) false] } := by
      simp [Core.notify, hopen, hxml, h.lastChange, hne]
    have hflush : p.flush = ⟨p.store, [], p.sent ++ [p.pending]⟩ := by
      simp [Publisher.flush, hp, hes, heq]
    rw [hs, hflush]
    exact {
      lastChange := h.lastChange
      ignored := h.ignored
      xmlNamespace := h.xmlNamespace
      pending := rfl
      carries := by
        refine ⟨?_, by simp [h.carries.2]⟩
        intro d hd
        rcases List.mem_append.mp hd with hd | hd
        · exact h.carries.1 d hd
        · rw [List.mem_singleton.mp hd]
          exact hbuilt
      names := by simp
      stored := by
        intro i name hname hi hign
        rw [h.stored i name hname hi hign]
        simp [hi]
      last := by simp
      silent := by simp
      mirrors := hflush ▸ p.flush_mirrors h.mirrors }

/-- Recording a change of an evented variable writes it to the publisher. -/
theorem Represents.write {s : Core ι} {p : Publisher String String}
    (h : Represents T serialise ns s p) (i : ι) (name value : String)
    (hname : T.name i = some name) (hi : i ≠ T.lastChange) :
    Represents T serialise ns
      { s with values := Function.update s.values i value
               collector := s.collector.add name value } (p.write name value) where
  lastChange := h.lastChange
  ignored := h.ignored
  xmlNamespace := h.xmlNamespace
  pending := by simp [Collector.add, Builder.add, Publisher.write, h.pending]
  carries := h.carries
  names := by
    intro e he
    rcases List.mem_append.mp he with he | he
    · exact h.names e he
    · rw [List.mem_singleton.mp he]
      exact ⟨i, hname, hi⟩
  stored := by
    intro j name' hname' hj hign
    by_cases hij : j = i
    · subst hij
      have hnn : name' = name := Option.some.inj (hname'.symm.trans hname)
      simp [Publisher.write, hnn]
    · have hnn : name' ≠ name := fun hc =>
        hij (T.name_injective j i name (hc ▸ hname') hname)
      simp only [Publisher.write, Function.update_of_ne hnn, Function.update_of_ne hij]
      exact h.stored j name' hname' hj hign
  last := by
    intro es hes
    change Function.update s.values i value T.lastChange = _
    rw [Function.update_of_ne hi.symm]
    exact h.last es hes
  silent := h.silent
  mirrors := p.write_mirrors h.mirrors name value

/-- Changing an ignored variable leaves the publisher alone. -/
theorem Represents.changeIgnored {s : Core ι} {p : Publisher String String}
    (h : Represents T serialise ns s p) (i : ι) (value : String) (hi : i ≠ T.lastChange)
    (hign : s.collector.ignores T i = true) :
    Represents T serialise ns { s with values := Function.update s.values i value } p where
  lastChange := h.lastChange
  ignored := h.ignored
  xmlNamespace := h.xmlNamespace
  pending := h.pending
  carries := h.carries
  names := h.names
  stored := by
    intro j name hname hj hjign
    have hij : j ≠ i := by
      rintro rfl
      exact absurd hign (by simpa using hjign)
    simp only [Function.update_of_ne hij]
    exact h.stored j name hname hj hjign
  last := by
    intro es hes
    change Function.update s.values i value T.lastChange = _
    rw [Function.update_of_ne hi.symm]
    exact h.last es hes
  silent := h.silent
  mirrors := h.mirrors

/-- The relation says nothing about the number of open transactions. -/
theorem Represents.setOpen {s : Core ι} {p : Publisher String String}
    (h : Represents T serialise ns s p) (n : ℕ) :
    Represents T serialise ns
      { s with collector := { s.collector with openTransactions := n } } p where
  lastChange := h.lastChange
  ignored := h.ignored
  xmlNamespace := h.xmlNamespace
  pending := h.pending
  carries := h.carries
  names := h.names
  stored := h.stored
  last := h.last
  silent := h.silent
  mirrors := h.mirrors

theorem Represents.addIgnore (hT : T.vars.length < 32) {s : Core ι}
    {p : Publisher String String} (h : Represents T serialise ns s p) (j : ι) :
    Represents T serialise ns { s with collector := s.collector.addIgnore T j } p where
  lastChange := h.lastChange
  ignored := (Collector.ignores_addIgnore T hT s.collector _ j).mpr (Or.inl h.ignored)
  xmlNamespace := h.xmlNamespace
  pending := h.pending
  carries := h.carries
  names := h.names
  stored := by
    intro i name hname hi hign
    apply h.stored i name hname hi
    by_contra hc
    have hadd := (Collector.ignores_addIgnore T hT s.collector i j).mpr (Or.inl (by simpa using hc))
    simp [hadd] at hign
  last := h.last
  silent := h.silent
  mirrors := h.mirrors

theorem notify_open (serialise : Node → String) (s : Core ι) :
    (s.notify serialise).collector.openTransactions = s.collector.openTransactions := by
  obtain ⟨b, hb⟩ := Core.notify_collector serialise s
  rw [hb]

/-- The publisher after a notification: flushed unless a transaction is open. -/
def settled (n : ℕ) (p : Publisher String String) : Publisher String String :=
  if n = 0 then p.flush else p

/-- Notifying settles the state whether or not a transaction is open. -/
theorem Represents.settle (hinj : InjectiveTexts T serialise ns) {s : Core ι}
    {p : Publisher String String} (h : Represents T serialise ns s p) :
    Represents T serialise ns (s.notify serialise) (settled s.collector.openTransactions p) := by
  unfold settled
  split_ifs with hopen
  · exact h.notify hinj hopen
  · have hs : s.notify serialise = s := by simp [Core.notify, hopen]
    rw [hs]
    exact h

theorem settled_pending (p : Publisher String String) : (settled 0 p).pending = [] :=
  p.flush_pending

theorem settled_only {P : String → Prop} {p : Publisher String String} {n : ℕ} (h : p.Only P n)
    (k : ℕ) : (settled k p).Only P n := by
  unfold settled
  split_ifs
  · exact h.flush
  · exact h

/-- What a change does to the publisher: it stays, or the value is written to it. -/
theorem Settled.written (hinj : InjectiveTexts T serialise ns) {s : Eventing ι}
    {p : Publisher String String} (h : Settled T serialise ns s p)
    (i : ι) (value : Option String) (hname : T.name i ≠ none) (hi : i ≠ T.lastChange) :
    ∃ s' p', Op.apply T serialise s (.change i value) = some s' ∧
      s'.toCore = s.toCore.change T serialise i (value.getD "") ∧
      Settled T serialise ns s' p' ∧ (p' = p ∨ ∃ name, p.store name ≠ some (value.getD "") ∧
        p' = settled s.collector.openTransactions (p.write name (value.getD ""))) := by
  have hlc := h.represents.lastChange
  obtain ⟨s', hs', hcore, hcb⟩ := changeDepth_core T serialise 0 s i (value.getD "") hname
    h.registered (by rw [hlc]; exact h.represents.ignored)
  have happly : Op.apply T serialise s (.change i value) = some s' := by
    simp [Op.apply, VariableContainer.change, hs']
  have hreg : s'.callbacks.count .collector = 1 := hcb ▸ h.registered
  obtain ⟨name, hn⟩ := Option.ne_none_iff_exists'.mp hname
  by_cases hv : value.getD "" = s.values i
  · have hsame : s'.toCore = s.toCore := by rw [hcore]; simp [Core.change, hv]
    have hcol : s'.collector = s.collector := congrArg Core.collector hsame
    exact ⟨s', p, happly, hcore,
      ⟨hsame ▸ h.represents, hreg, by rw [hcol]; exact h.idle⟩, Or.inl rfl⟩
  by_cases hign : s.collector.ignores T i = true
  · have hsame : s'.toCore = { s.toCore with
        values := Function.update s.values i (value.getD "") } := by
      rw [hcore]; simp [Core.change, hv, hign]
    have hcol : s'.collector = s.collector := by
      simpa using congrArg Core.collector hsame
    refine ⟨s', p, happly, hcore, ⟨?_, hreg, by rw [hcol]; exact h.idle⟩, Or.inl rfl⟩
    rw [hsame]
    exact h.represents.changeIgnored i _ hi hign
  · have hrep := (h.represents.write i name (value.getD "") hn hi).settle hinj
    have hsame : s'.toCore = Core.notify serialise { s.toCore with
        values := Function.update s.values i (value.getD "")
        collector := s.collector.add name (value.getD "") } := by
      rw [hcore]; simp [Core.change, hv, hign, hn]
    have hopen : s'.collector.openTransactions = s.collector.openTransactions := by
      have hcol := congrArg Core.collector hsame
      rw [hcol, notify_open]
      rfl
    have hnew : p.store name ≠ some (value.getD "") := by
      rw [h.represents.stored i name hn hi (by simpa using hign)]
      exact fun hc => hv (Option.some.inj hc).symm
    rw [← hsame] at hrep
    refine ⟨s', _, happly, hcore, ⟨hrep, hreg, ?_⟩, Or.inr ⟨name, hnew, rfl⟩⟩
    intro h0
    have h0' : s.collector.openTransactions = 0 := hopen.symm.trans h0
    simp only [Collector.add, h0']
    exact settled_pending _

theorem Settled.change (hinj : InjectiveTexts T serialise ns) {s : Eventing ι}
    {p : Publisher String String} (h : Settled T serialise ns s p)
    (i : ι) (value : Option String) (hname : T.name i ≠ none) (hi : i ≠ T.lastChange) :
    ∃ s' p', Op.apply T serialise s (.change i value) = some s' ∧
      s'.toCore = s.toCore.change T serialise i (value.getD "") ∧
      Settled T serialise ns s' p' ∧ p.Record p' := by
  obtain ⟨s', p', happly, hcore, hset, rfl | ⟨name, hnew, rfl⟩⟩ := h.written hinj i value hname hi
  · exact ⟨s', p', happly, hcore, hset, .stay p'⟩
  · refine ⟨s', _, happly, hcore, hset, ?_⟩
    unfold settled
    split_ifs with h0
    · exact .publish p name _ hnew (h.idle h0)
    · exact .write p name _ hnew

theorem Settled.finish (hinj : InjectiveTexts T serialise ns) {s : Eventing ι}
    {p : Publisher String String} (h : Settled T serialise ns s p)
    (hopen : 1 ≤ s.collector.openTransactions) :
    ∃ s', Op.apply T serialise s .finish = some s' ∧
      s'.toCore = s.toCore.finish serialise ∧
      Settled T serialise ns s' (settled (s.collector.openTransactions - 1) p) := by
  have hlc := h.represents.lastChange
  obtain ⟨s', hs', hcore, hcb⟩ := notifyWith_core T serialise 0
    { s with collector :=
      { s.collector with openTransactions := s.collector.openTransactions - 1 } }
    (by rw [hlc]; exact h.represents.ignored)
  have hrep := (h.represents.setOpen (s.collector.openTransactions - 1)).settle hinj
  have hcol := congrArg Core.collector hcore
  refine ⟨s', ?_, hcore, ⟨by rw [hcore]; exact hrep, hcb ▸ h.registered, ?_⟩⟩
  · simp only [Op.apply, VariableContainer.finish, VariableContainer.notify]
    rw [if_neg (by omega)]
    exact hs'
  · rw [hcol, notify_open]
    intro h0
    have h0' : s.collector.openTransactions - 1 = 0 := h0
    rw [h0']
    exact settled_pending p

omit [DecidableEq ι] in
theorem Balanced.tail {n : ℕ} {op : Op ι} {ops : List (Op ι)} (h : Balanced n (op :: ops))
    (m : ℕ) (hm : n + [op].countP Op.isStart = m + [op].countP Op.isFinish) :
    Balanced m ops := by
  intro pre hpre
  have hcons := h (op :: pre) (List.cons_prefix_cons.mpr ⟨rfl, hpre⟩)
  rw [← List.singleton_append, List.countP_append, List.countP_append] at hcons
  omega

/-- Every run of allowed and balanced operations succeeds and ends settled. -/
theorem runOps_settled (hT : T.vars.length < 32) (hinj : InjectiveTexts T serialise ns)
    (ops : List (Op ι)) (s : Eventing ι) (p : Publisher String String)
    (h : Settled T serialise ns s p)
    (hallowed : ∀ op ∈ ops, op.Allowed T)
    (hbal : Balanced s.collector.openTransactions ops) :
    ∃ s' p', runOps T serialise s ops = some s' ∧
      Settled T serialise ns s' p' := by
  induction ops generalizing s p with
  | nil => exact ⟨s, p, rfl, h⟩
  | cons op ops ih =>
    have hrest : ∀ op ∈ ops, op.Allowed T := fun o ho => hallowed o (List.mem_cons_of_mem _ ho)
    have hop := hallowed op (List.mem_cons_self ..)
    -- one operation succeeds, and the rest stays balanced over the new count
    obtain ⟨s', p', hs', hset, hbal'⟩ : ∃ s' p', op.apply T serialise s = some s' ∧
        Settled T serialise ns s' p' ∧
        Balanced s'.collector.openTransactions ops := by
      cases op with
      | change i value =>
        obtain ⟨s', p', hs', hcore, hset, -⟩ := h.change hinj i value hop.1 hop.2
        have hopen : s'.collector.openTransactions = s.collector.openTransactions := by
          obtain ⟨b, hb⟩ := Core.change_collector T serialise s.toCore i (value.getD "")
          rw [hcore, hb]
        exact ⟨s', p', hs', hset, hbal.tail _ (by simp [hopen, Op.isStart, Op.isFinish])⟩
      | start =>
        refine ⟨VariableContainer.start s, p, rfl, ⟨h.represents.setOpen _, h.registered, ?_⟩,
          hbal.tail _ (by simp [VariableContainer.start, Collector.start, Op.isStart,
            Op.isFinish])⟩
        intro hc
        simp [VariableContainer.start, Collector.start] at hc
      | finish =>
        have hpos : 1 ≤ s.collector.openTransactions := by
          have := hbal [.finish] (List.cons_prefix_cons.mpr ⟨rfl, List.nil_prefix⟩)
          simpa [Op.isStart, Op.isFinish] using this
        obtain ⟨s', hs', hcore, hset⟩ := h.finish hinj hpos
        have hopen : s'.collector.openTransactions = s.collector.openTransactions - 1 := by
          rw [hcore]
          exact notify_open serialise _
        refine ⟨s', _, hs', hset, hbal.tail _ ?_⟩
        simp only [hopen, Op.isStart, Op.isFinish, List.countP_singleton, if_true]
        simp
        omega
      | addIgnore i =>
        exact ⟨_, p, rfl, ⟨h.represents.addIgnore hT i, h.registered, h.idle⟩,
          hbal.tail _ (by simp [Op.isStart, Op.isFinish, Collector.addIgnore])⟩
      | observe id =>
        exact ⟨registerCallback s (.observer id), p, rfl,
          ⟨h.represents, by simpa [registerCallback] using h.registered, h.idle⟩,
          hbal.tail _ (by simp [Op.isStart, Op.isFinish, registerCallback])⟩
    obtain ⟨s'', p'', hs'', hset''⟩ := ih s' p' hset hrest hbal'
    refine ⟨s'', p'', ?_, hset''⟩
    simp only [runOps, List.foldlM_cons, hs', Option.bind_eq_bind, Option.bind_some]
    exact hs''

section Start

variable (T) (values : ι → String)

def listedEntry (keep : String → Bool) (i : ι) : Option (String × String) :=
  (T.name i).bind fun name => if keep name then some (name, values i) else none

/-- The variables in use whose names are kept, with their values, in index order. -/
def listedEntries (keep : String → Bool) : List (String × String) :=
  T.vars.filterMap (listedEntry T values keep)

/-- The entries of the document that `UPnPLastChangeCollector_new` sends. -/
def initialEntries : List (String × String) := listedEntries T values (· != "LastChange")

variable {T values}

omit [DecidableEq ι] in
theorem lastChange_of_name {i : ι} (h : T.name i = some "LastChange") : i = T.lastChange :=
  T.name_injective i T.lastChange _ h T.name_lastChange

omit [DecidableEq ι] in
theorem name_ne_lastChange {i : ι} {name : String} (h : T.name i = some name) :
    name ≠ "LastChange" ↔ i ≠ T.lastChange := by
  constructor
  · rintro hne rfl
    exact hne (Option.some.inj (h.symm.trans T.name_lastChange))
  · rintro hne rfl
    exact hne (lastChange_of_name h)

omit [DecidableEq ι] in
theorem mem_listedEntries {keep : String → Bool} {e : String × String} :
    e ∈ listedEntries T values keep ↔
      ∃ i, T.name i = some e.1 ∧ keep e.1 = true ∧ values i = e.2 := by
  unfold listedEntries
  rw [List.mem_filterMap]
  constructor
  · rintro ⟨i, -, hi⟩
    obtain ⟨name, hname, hif⟩ := Option.bind_eq_some_iff.mp hi
    split_ifs at hif with hkeep
    obtain rfl := Option.some.inj hif
    exact ⟨i, hname, hkeep, rfl⟩
  · rintro ⟨i, hname, hkeep, hvalue⟩
    refine ⟨i, T.complete i, ?_⟩
    simp [listedEntry, hname, hkeep, hvalue]

omit [DecidableEq ι] in
theorem listedEntries_nodup (keep : String → Bool) :
    ((listedEntries T values keep).map Prod.fst).Nodup := by
  unfold listedEntries
  rw [List.map_filterMap]
  refine List.Nodup.filterMap ?_ T.nodup
  intro i j name hi hj
  simp only [Option.mem_def, Option.map_eq_some_iff, listedEntry, Option.bind_eq_some_iff] at hi hj
  obtain ⟨e, ⟨n, hn, hif⟩, rfl⟩ := hi
  obtain ⟨e', ⟨n', hn', hif'⟩, heq⟩ := hj
  split_ifs at hif hif'
  obtain rfl := Option.some.inj hif
  obtain rfl := Option.some.inj hif'
  exact T.name_injective i j n hn (hn'.trans (congrArg some heq))

omit [DecidableEq ι] in
theorem mem_initialEntries {e : String × String} :
    e ∈ initialEntries T values ↔
      ∃ i, T.name i = some e.1 ∧ i ≠ T.lastChange ∧ values i = e.2 := by
  unfold initialEntries
  rw [mem_listedEntries]
  constructor
  · rintro ⟨i, hname, hkeep, hvalue⟩
    exact ⟨i, hname, (name_ne_lastChange hname).mp (by simpa using hkeep), hvalue⟩
  · rintro ⟨i, hname, hne, hvalue⟩
    exact ⟨i, hname, by simpa using (name_ne_lastChange hname).mpr hne, hvalue⟩

/-- The loop of `UPnPLastChangeCollector_new` finds LastChange and adds all the others. -/
theorem foldl_scanVariable (l : List ι) (found : Option ι) (b : Builder) :
    l.foldl (scanVariable T values) (found, b) =
      (if T.lastChange ∈ l then some T.lastChange else found,
        { b with
          entries := b.entries ++ l.filterMap (listedEntry T values (· != "LastChange")) }) := by
  induction l generalizing found b with
  | nil => simp
  | cons i l ih =>
    rw [List.foldl_cons]
    cases hname : T.name i with
    | none =>
      have hne : T.lastChange ≠ i := by
        rintro rfl
        simp [T.name_lastChange] at hname
      simp [scanVariable, hname, ih, listedEntry, hne]
    | some name =>
      by_cases hlc : name = "LastChange"
      · subst hlc
        obtain rfl := lastChange_of_name hname
        simp [scanVariable, hname, ih, listedEntry]
      · have hne : T.lastChange ≠ i := by
          rintro rfl
          exact hlc (Option.some.inj (hname.symm.trans T.name_lastChange))
        simp [scanVariable, hname, hlc, ih, listedEntry, hne, Builder.add]

/-- The publisher after the initial document; with no variable to send there is none. -/
def initialPublisher (entries : List (String × String)) : Publisher String String :=
  ⟨replay (fun _ => none) entries, [], if entries = [] then [] else [entries]⟩

variable (T values ns) in
/-- The collector that `UPnPLastChangeCollector_new` sets up before it notifies. -/
def initialCollector : Collector ι := Collector.addIgnore T
  ⟨T.lastChange, 0#32, 0, ⟨some ns, initialEntries T values⟩⟩ T.lastChange

theorem initialCollector_ignores (hT : T.vars.length < 32) (i : ι) :
    (initialCollector T ns values).ignores T i = true ↔ i = T.lastChange := by
  unfold initialCollector
  rw [Collector.ignores_addIgnore T hT]
  simp [Collector.ignores]

variable (T serialise ns values) in
theorem newCollector_core (hT : T.vars.length < 32) (observers : List ℕ) :
    ∃ s, newCollector T serialise values (observers.map .observer) ns = some s ∧
      s.toCore = Core.notify serialise ⟨values, initialCollector T ns values, []⟩ ∧
      s.callbacks.count .collector = 1 := by
  have hobs : Listener.collector ∉ observers.map Listener.observer := by simp
  obtain ⟨s, hs, hcore, hcb⟩ := notifyWith_core T serialise 0
    ⟨⟨values, initialCollector T ns values, []⟩, observers.map .observer, []⟩
    ((initialCollector_ignores hT _).mpr rfl)
  refine ⟨registerCallback s .collector, ?_, hcore, ?_⟩
  · rw [newCollector, if_pos hT, foldl_scanVariable]
    simp only [T.complete, if_true, Option.bind_some, List.nil_append]
    exact congrArg (Option.map fun s => registerCallback s .collector) hs
  · simp [registerCallback, hcb, List.count_eq_zero.mpr hobs]

/-- The initial document makes the new collector complete, provided that LastChange does
not already hold its text: then the document would be suppressed. -/
theorem newCollector_settled (hT : T.vars.length < 32) (observers : List ℕ)
    (hfresh : initialEntries T values ≠ [] →
      values T.lastChange ≠ text serialise ns (initialEntries T values)) :
    ∃ s, newCollector T serialise values (observers.map .observer) ns = some s ∧
      s.collector.openTransactions = 0 ∧
      Settled T serialise ns s (initialPublisher (initialEntries T values)) := by
  obtain ⟨s, hnew, hcore, hreg⟩ := newCollector_core T serialise ns values hT observers
  let c := initialCollector T ns values
  have hign : c.ignores T T.lastChange = true := (initialCollector_ignores hT _).mpr rfl
  have hnamed : ∀ i name, T.name i = some name → i ≠ T.lastChange →
      (name, values i) ∈ initialEntries T values := fun i name hname hi =>
    mem_initialEntries.mpr ⟨i, hname, hi, rfl⟩
  have hstored : ∀ i name, T.name i = some name → i ≠ T.lastChange →
      (initialPublisher (initialEntries T values)).store name = some (values i) :=
    fun i name hname hi =>
      replay_of_nodup _ _ (listedEntries_nodup _) name _ (hnamed i name hname hi)
  refine ⟨_, hnew, ?_, ⟨?_, hreg, fun _ => rfl⟩⟩
  · rw [hcore]
    exact notify_open serialise _
  · rw [hcore]
    by_cases hinit : initialEntries T values = []
    · have hnotify : Core.notify serialise ⟨values, c, []⟩ = ⟨values, c, []⟩ := by
        simp [Core.notify, c, initialCollector, Collector.addIgnore, Builder.toXml, hinit]
      change Represents T serialise ns (Core.notify serialise ⟨values, c, []⟩) _
      rw [hnotify, hinit]
      have hnone : ∀ i, T.name i ≠ none → i = T.lastChange := by
        intro i hi
        by_contra hne
        obtain ⟨name, hname⟩ := Option.ne_none_iff_exists'.mp hi
        simpa [hinit] using hnamed i name hname hne
      exact {
        lastChange := rfl
        ignored := hign
        xmlNamespace := rfl
        pending := hinit
        carries := ⟨by simp [initialPublisher], rfl⟩
        names := by simp [initialPublisher]
        stored := fun i name hname hi _ => absurd (hnone i (by simp [hname])) hi
        last := by simp [initialPublisher]
        silent := fun _ => hnone
        mirrors := rfl }
    · have hxml : c.builder.toXml serialise =
          some (text serialise ns (initialEntries T values)) := by
        simp [c, initialCollector, Collector.addIgnore, Builder.toXml, hinit, text]
      have hnotify : Core.notify serialise ⟨values, c, []⟩ = {
          values := Function.update values T.lastChange
            (text serialise ns (initialEntries T values))
          collector := c.resetBuilder
          notified := [xmlescape (text serialise ns (initialEntries T values)) false] } := by
        simp only [Core.notify, hxml]
        rw [if_neg (by simp [c, initialCollector, Collector.addIgnore]),
          if_neg (by exact (hfresh hinit).symm)]
        rfl
      change Represents T serialise ns (Core.notify serialise ⟨values, c, []⟩) _
      rw [hnotify]
      have hsent : (initialPublisher (initialEntries T values)).sent =
          [initialEntries T values] := by
        simp [initialPublisher, hinit]
      exact {
        lastChange := rfl
        ignored := hign
        xmlNamespace := rfl
        pending := rfl
        carries := by
          rw [hsent]
          refine ⟨?_, rfl⟩
          intro es hes
          obtain rfl := List.mem_singleton.mp hes
          refine ⟨hinit, ?_⟩
          intro e he
          obtain ⟨i, hname, hi, -⟩ := mem_initialEntries.mp he
          exact ⟨i, hname, hi⟩
        names := by simp [initialPublisher]
        stored := by
          intro i name hname hi _
          rw [hstored i name hname hi]
          simp [hi]
        last := by simp [hsent]
        silent := by simp [hsent]
        mirrors := by
          change replay _ [] = _
          rw [replay_nil, Publisher.published, hsent, List.flatten_singleton]
          rfl }

end Start

section Serialiser

theorem nodeText_valueElement (e : String × String) :
    nodeText (Builder.valueElement e) =
      '<' :: (e.1.toList ++ ' ' :: ('v' :: 'a' :: 'l' :: '=' :: '"' :: (ixmlEscape e.2 ++ '"' ::
        ((Builder.channelAttributes e.1).flatMap attributeText ++
          '>' :: '<' :: '/' :: (e.1.toList ++ ['>']))))) := by
  simp [Builder.valueElement, attributeValueElement, nodeText, nodesText, attributeText]

/-- Without a space in the names the elements of a document are read in one way. -/
theorem nodesText_injective (es es' : List (String × String))
    (hes : ∀ e ∈ es, ' ' ∉ e.1.toList) (hes' : ∀ e ∈ es', ' ' ∉ e.1.toList)
    (h : nodesText (es.map Builder.valueElement) = nodesText (es'.map Builder.valueElement)) :
    es = es' := by
  induction es generalizing es' with
  | nil =>
    cases es' with
    | nil => rfl
    | cons e' es' => simp [nodesText, nodeText_valueElement] at h
  | cons e es ih =>
    cases es' with
    | nil => simp [nodesText, nodeText_valueElement] at h
    | cons e' es' =>
      simp only [List.map_cons, nodesText, nodeText_valueElement, List.cons_append,
        List.append_assoc, List.cons.injEq, true_and] at h
      obtain ⟨hname, hrest⟩ := split_at_separator (hes e (List.mem_cons_self ..))
        (hes' e' (List.mem_cons_self ..)) h
      have hname' : e.1 = e'.1 := String.toList_inj.mp hname
      simp only [List.cons.injEq, true_and] at hrest
      obtain ⟨hvalue, htail⟩ := split_at_separator (quote_notMem_ixmlEscape e.2)
        (quote_notMem_ixmlEscape e'.2) hrest
      rw [hname'] at htail
      simp only [List.append_cancel_left_eq, List.cons.injEq, true_and] at htail
      rw [Prod.ext hname' (ixmlEscape_injective _ _ hvalue),
        ih es' (fun d hd => hes d (List.mem_cons_of_mem _ hd))
          (fun d hd => hes' d (List.mem_cons_of_mem _ hd)) htail]

/-- The entries are the only part of a document's text that varies. -/
theorem text_frame (ns : String) : ∃ pre post, ∀ es,
    text ixmlDocumentToString ns es =
      String.ofList (pre ++ (nodesText (es.map Builder.valueElement) ++ post)) := by
  refine ⟨"<?xml version=\"1.0\"?>\r\n".toList ++ ('<' :: ("Event".toList ++
      (attributeText ("xmlns", ns) ++ '>' :: '<' :: ("InstanceID".toList ++
      (attributeText ("val", "0") ++ ['>']))))),
    '<' :: '/' :: ("InstanceID".toList ++ '>' :: '<' :: '/' :: ("Event".toList ++ ['>'])), ?_⟩
  intro es
  unfold text ixmlDocumentToString Builder.changeEventDoc newTopElement attributeValueElement
  simp only [nodeText, nodesText, List.flatMap_cons, List.flatMap_nil, List.append_nil,
    List.append_assoc, List.cons_append, List.nil_append, Option.elim_some]

omit [DecidableEq ι] in
/-- The documented serialiser tells the builder's documents apart. -/
theorem ixmlDocumentToString_injectiveTexts (T : VariableTable ι) (ns : String)
    (hname : ∀ i name, T.name i = some name → ' ' ∉ name.toList) :
    InjectiveTexts T ixmlDocumentToString ns := by
  have hnames : ∀ es, Built T es → ∀ e ∈ es, ' ' ∉ e.1.toList := by
    intro es hes e he
    obtain ⟨i, hi, -⟩ := hes.2 e he
    exact hname i e.1 hi
  obtain ⟨pre, post, hframe⟩ := text_frame ns
  intro es es' hes hes' h
  apply nodesText_injective es es' (hnames es hes) (hnames es' hes')
  rw [hframe, hframe, String.ofList_inj] at h
  exact List.append_cancel_right (List.append_cancel_left h)

end Serialiser

section Main

variable (T serialise ns) (values : ι → String)

/-- Whatever other listeners there are and whatever balanced operations follow, the
notified documents are complete whenever no transaction is open. -/
def StreamComplete : Prop :=
  ∀ (observers : List ℕ) (ops : List (Op ι)), (∀ op ∈ ops, Op.Allowed T op) → Balanced 0 ops →
    ∃ s₀ s, newCollector T serialise values (observers.map .observer) ns = some s₀ ∧
      runOps T serialise s₀ ops = some s ∧
      (s.collector.openTransactions = 0 → Complete T serialise ns s.toCore)

/-- LastChange does not hold the text that the initial document is about to have. -/
def FreshLastChange : Prop :=
  initialEntries T values ≠ [] →
    values T.lastChange ≠ text serialise ns (initialEntries T values)

variable {T serialise ns values}

theorem FreshLastChange.streamComplete (hT : T.vars.length < 32)
    (hinj : InjectiveTexts T serialise ns) (hfresh : FreshLastChange T serialise ns values) :
    StreamComplete T serialise ns values := by
  intro observers ops hallowed hbal
  obtain ⟨s₀, hnew, hopen, hset⟩ := newCollector_settled hT observers hfresh
  obtain ⟨s, p, hrun, hset'⟩ := runOps_settled hT hinj ops s₀ _ hset hallowed (hopen ▸ hbal)
  exact ⟨s₀, s, hnew, hrun, fun h0 => hset'.represents.complete hinj (hset'.idle h0)⟩

/-- When the initial document is suppressed a reader holds nothing. -/
theorem StreamComplete.fresh (hT : T.vars.length < 32)
    (h : StreamComplete T serialise ns values) : FreshLastChange T serialise ns values := by
  intro hinit hsame
  obtain ⟨s₀, s, hnew, hrun, hcomplete⟩ := h [] [] (by simp) (by
    intro pre hpre
    simp [List.prefix_nil.mp hpre])
  obtain ⟨s', hnew', hcore, -⟩ := newCollector_core T serialise ns values hT []
  obtain rfl : s₀ = s' := Option.some.inj (hnew.symm.trans hnew')
  obtain rfl : s₀ = s := Option.some.inj hrun
  have hsilent : s₀.toCore =
      ⟨values, (initialCollector T ns values).resetBuilder, []⟩ := by
    rw [hcore]
    have hxml : (initialCollector T ns values).builder.toXml serialise =
        some (text serialise ns (initialEntries T values)) := by
      simp [initialCollector, Collector.addIgnore, Builder.toXml, hinit, text]
    have hlast : (initialCollector T ns values).lastChangeVariableNum = T.lastChange := rfl
    have hopen : (initialCollector T ns values).openTransactions = 0 := rfl
    simp [Core.notify, hopen, hxml, hlast, hsame]
  obtain ⟨e, he⟩ := List.exists_mem_of_ne_nil _ hinit
  obtain ⟨i, hname, hi, -⟩ := mem_initialEntries.mp he
  have hign : s₀.collector.ignores T i = false := by
    have hcol : s₀.collector = (initialCollector T ns values).resetBuilder :=
      congrArg Core.collector hsilent
    have hinitial : (initialCollector T ns values).ignores T i = false := by
      rw [Bool.eq_false_iff]
      exact fun hc => hi ((initialCollector_ignores hT i).mp hc)
    rw [hcol]
    exact hinitial
  have hcarries : Carries T serialise ns s₀.toCore [] := ⟨by simp, by simp [hsilent]⟩
  have hread := (hcomplete (by rw [hsilent]; rfl)).2 [] hcarries i e.1 hname hi hign
  simp at hread

/-- The documents passed to `upnp_device_notify` let a reader follow the container exactly
when LastChange does not initially hold the text of the first of them. -/
theorem streamComplete_iff (hT : T.vars.length < 32) (hinj : InjectiveTexts T serialise ns) :
    StreamComplete T serialise ns values ↔ FreshLastChange T serialise ns values :=
  ⟨StreamComplete.fresh hT, FreshLastChange.streamComplete hT hinj⟩

/-- A container with one variable besides LastChange. -/
def stateTable : VariableTable (Fin 2) where
  vars := [0, 1]
  nodup := by decide
  complete := by decide
  name := ![some "TransportState", some "LastChange"]
  lastChange := 1
  name_lastChange := rfl
  name_injective := by
    intro i j n hi hj
    have hname := hi.trans hj.symm
    clear hi hj
    revert i j
    decide

theorem stateTable_injectiveTexts :
    InjectiveTexts stateTable ixmlDocumentToString transportEventXmlNs := by
  apply ixmlDocumentToString_injectiveTexts
  have hname : ∀ i, ∀ name ∈ stateTable.name i, ' ' ∉ name.toList := by
    intro i
    fin_cases i <;> simp [stateTable]
  exact fun i name h => hname i name h

theorem streamComplete_stopped :
    StreamComplete stateTable ixmlDocumentToString transportEventXmlNs !["STOPPED", ""] :=
  (streamComplete_iff (by decide) stateTable_injectiveTexts).mpr
    (fun _ => (ixmlDocumentToString_ne_empty _).symm)

/-- LastChange holds the text of the initial document, which is therefore never sent. -/
theorem not_streamComplete_repeated :
    stateTable.vars.length < 32 ∧
      InjectiveTexts stateTable ixmlDocumentToString transportEventXmlNs ∧
      ¬ StreamComplete stateTable ixmlDocumentToString transportEventXmlNs
        !["STOPPED",
          text ixmlDocumentToString transportEventXmlNs [("TransportState", "STOPPED")]] := by
  refine ⟨by decide, stateTable_injectiveTexts, ?_⟩
  intro h
  exact h.fresh (by decide) (by decide) rfl

end Main

end GMediaRender.LastChangeStream
