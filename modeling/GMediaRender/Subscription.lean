import GMediaRender.LastChangeStream
import GMediaRender.Runs

/-!
One subscription request beside transactions of other threads. The handler takes a
snapshot of the variables under the service mutex, releases the mutex and accepts the
subscription with the snapshot as its initial document; from then on, and only from then
on, the subscriber receives what is notified.
-/
namespace GMediaRender.Subscription

open XmlDoc VariableContainer LastChangeStream UpdateLog Runs

/-- Who holds the service mutex: `handle_subscription_request` or some other thread. -/
inductive Party where
  | handler
  | worker (id : ℕ)
  deriving DecidableEq

/-- Where `handle_subscription_request` stands. -/
inductive Phase where
  | requested
  | snapshotted (builder : Builder)
  | released (builder : Builder)
  -- accepted when so many documents had been notified
  | accepted (initial : Option String) (before : ℕ)
  deriving DecidableEq

structure State (ι : Type) where
  eventing : Eventing ι
  mutex : Option Party
  phase : Phase

inductive Label (ι : Type) where
  | acquire (id : ℕ)
  | release (id : ℕ)
  | change (id : ℕ) (i : ι) (value : Option String)
  | start (id : ℕ)
  | finish (id : ℕ)
  | snapshot
  | unlock
  | accept

variable {ι : Type} [DecidableEq ι]
variable (T : VariableTable ι) (serialise : Node → String) (ns : String)

/-- The comparison of the first characters of a name with "A_ARG_TYPE_". -/
def isArgumentType (name : String) : Bool := "A_ARG_TYPE_".toList.isPrefixOf name.toList

def sendsVariable (name : String) : Bool := name != "LastChange" && !isArgumentType name

/-- One round of the loop in `handle_subscription_request`. -/
def snapshotVariable (values : ι → String) (b : Builder) (i : ι) : Builder :=
  match T.name i with
  | none => b
  | some name => if sendsVariable name then b.add name (values i) else b

def takeSnapshot (values : ι → String) : Builder :=
  T.vars.foldl (snapshotVariable T values) ⟨some ns, []⟩

/-- The value of LastChange that is passed to `UpnpAcceptSubscription`; the NULL document of
a builder without entries is no document. -/
def initialDocument (b : Builder) : Option String :=
  (b.toXml serialise).map fun xml => xmlescape xml false

/-- An operation of a transaction, by the thread that holds the service mutex. -/
def operate (s : State ι) (id : ℕ) (op : Op ι) : State ι :=
  if s.mutex = some (.worker id)
  then ((op.apply T serialise s.eventing).map fun e => { s with eventing := e }).getD s
  else s

/-- A step that cannot be taken leaves the state as it is. -/
def step (s : State ι) : Label ι → State ι
  | .acquire id => if s.mutex = none then { s with mutex := some (.worker id) } else s
  | .release id => if s.mutex = some (.worker id) then { s with mutex := none } else s
  | .change id i value => operate T serialise s id (.change i value)
  | .start id => operate T serialise s id .start
  | .finish id => operate T serialise s id .finish
  | .snapshot =>
    match s.phase, s.mutex with
    | .requested, none =>
      ⟨s.eventing, some .handler, .snapshotted (takeSnapshot T ns s.eventing.values)⟩
    | _, _ => s
  | .unlock =>
    match s.phase with
    | .snapshotted b => ⟨s.eventing, none, .released b⟩
    | _ => s
  | .accept =>
    match s.phase with
    | .released b =>
      { s with phase := .accepted (initialDocument serialise b) s.eventing.notified.length }
    | _ => s

/-- A variable whose changes are sent to subscribers. -/
def Evented (c : Collector ι) (i : ι) (name : String) : Prop :=
  T.name i = some name ∧ sendsVariable name = true ∧ c.ignores T i = false

/-- What an accepted subscriber has received. -/
def delivered (s : State ι) : List String :=
  match s.phase with
  | .accepted initial before => initial.toList ++ s.eventing.notified.drop before
  | _ => []

/-- The documents received, as the lists of their entries. -/
def Receives (s : State ι) (docs : List (List (String × String))) : Prop :=
  (∀ es ∈ docs, Built T es) ∧
    delivered s = docs.map fun es => xmlescape (text serialise ns es) false

/-- The copy that a subscriber has of the variables. -/
def copy (docs : List (List (String × String))) : View String String :=
  replay (fun _ => none) docs.flatten

def Accepted (s : State ι) : Prop :=
  match s.phase with
  | .accepted _ _ => True
  | _ => False

instance (s : State ι) : Decidable (Accepted s) := by
  unfold Accepted
  split <;> infer_instance

/-- An accepted subscriber holds the current value of every evented variable whenever no
transaction is open. -/
def UpToDate (s : State ι) : Prop :=
  Accepted s → s.eventing.collector.openTransactions = 0 →
    (∃! docs, Receives T serialise ns s docs) ∧
    ∀ docs, Receives T serialise ns s docs → ∀ i name, Evented T s.eventing.collector i name →
      copy docs name = some (s.eventing.values i)

/-- Transactions change variables in use other than LastChange, and a finish has its
start. -/
def Proper (s : State ι) : Label ι → Prop
  | .change _ i _ => T.name i ≠ none ∧ i ≠ T.lastChange
  | .finish id => s.mutex = some (.worker id) → 1 ≤ s.eventing.collector.openTransactions
  | _ => True

/-- The variable has a change that waits in the builder for the end of a transaction. -/
def Waiting (s : State ι) (name : String) : Prop :=
  name ∈ s.eventing.collector.builder.entries.map Prod.fst

instance (s : State ι) (name : String) : Decidable (Waiting s name) :=
  inferInstanceAs (Decidable (_ ∈ _))

/-- The document in the builder repeats the last one, so that it will not be sent. -/
def Suppressed (s : State ι) : Prop :=
  s.eventing.collector.builder.toXml serialise = some (s.eventing.values T.lastChange)

instance (s : State ι) : Decidable (Suppressed T serialise s) := inferInstanceAs (Decidable (_ = _))

/-- A thread ends the last transaction that is open. -/
def Ends (s : State ι) (id : ℕ) : Prop :=
  s.mutex = some (.worker id) ∧ s.eventing.collector.openTransactions = 1

instance (s : State ι) (id : ℕ) : Decidable (Ends s id) := inferInstanceAs (Decidable (_ ∧ _))

/-- Whether changes that waited in the builder when the subscription was accepted wait still. -/
def stillWaits (waits : Bool) (s : State ι) : Label ι → Bool
  | .accept =>
    match s.phase with
    | .released _ => !s.eventing.collector.builder.entries.isEmpty
    | _ => waits
  | .finish id => waits && !decide (Ends s id)
  | _ => waits

/-- The steps with that history. -/
abbrev watchedStep : State ι × Bool → Label ι → State ι × Bool :=
  track (step T serialise ns) stillWaits

/-- A subscription is accepted with a snapshot that is still current or about to be corrected,
and the document that waits then is not suppressed when it comes to be sent. -/
def Synced (p : State ι × Bool) : Label ι → Prop
  | .accept => ∀ b, p.1.phase = .released b → ∀ i name, Evented T p.1.eventing.collector i name →
      (name, p.1.eventing.values i) ∈ b.entries ∨ Waiting p.1 name
  | .finish id => Ends p.1 id → p.2 = true → ¬ Suppressed T serialise p.1
  | _ => True

section Snapshot

variable {T ns}

omit [DecidableEq ι] in
theorem foldl_snapshotVariable (values : ι → String) (l : List ι) (b : Builder) :
    l.foldl (snapshotVariable T values) b =
      { b with entries := b.entries ++ l.filterMap (listedEntry T values sendsVariable) } := by
  induction l generalizing b with
  | nil => simp
  | cons i l ih =>
    rw [List.foldl_cons, ih]
    cases hname : T.name i with
    | none => simp [snapshotVariable, listedEntry, hname]
    | some name =>
      by_cases hsend : sendsVariable name = true <;>
        simp [snapshotVariable, listedEntry, hname, hsend, Builder.add]

omit [DecidableEq ι] in
theorem takeSnapshot_eq (values : ι → String) :
    takeSnapshot T ns values = ⟨some ns, listedEntries T values sendsVariable⟩ := by
  rw [takeSnapshot, foldl_snapshotVariable]
  rfl

omit [DecidableEq ι] in
theorem sendsVariable_ne {i : ι} {name : String} (hname : T.name i = some name)
    (h : sendsVariable name = true) : i ≠ T.lastChange := by
  apply (name_ne_lastChange hname).mp
  rintro rfl
  simp [sendsVariable] at h

end Snapshot

/-- The snapshot that the handler holds names each variable at most once. -/
def SnapshotOk (b : Builder) : Prop :=
  b.xmlNamespace = some ns ∧ (∀ e ∈ b.entries, Names T e) ∧ (b.entries.map Prod.fst).Nodup

/-- The keys of the variables that are evented under a collector's ignore mask. -/
def EventedKey (c : Collector ι) (name : String) : Prop := ∃ i, Evented T c i name

/-- The documents of a snapshot: one, or none if there is nothing to send. -/
def snapshotDocs (image : List (String × String)) : List (List (String × String)) :=
  if image = [] then [] else [image]

/-- The copy of an accepted subscriber is right on what does not wait to be sent; unless it still
waits for what waited at the acceptance, it is the copy of those who have read everything. -/
def Holds (E : String → Prop) (waits : Bool) (held : View String String)
    (p : Publisher String String) : Prop :=
  if waits = true then p.Follows E held else p.Agrees E held

/-- The invariant: the publisher behind the collector, and what the subscriber has of it. -/
def Tracked (s : State ι) (waits : Bool) (p : Publisher String String) : Prop :=
  match s.phase with
  | .requested => True
  | .snapshotted b => SnapshotOk T ns b
  | .released b => SnapshotOk T ns b
  | .accepted initial before =>
    before ≤ p.sent.length ∧
    ∃ image, (∀ es ∈ snapshotDocs image, Built T es) ∧
      initial.toList = (snapshotDocs image).map (fun es => xmlescape (text serialise ns es) false) ∧
      Holds (EventedKey T s.eventing.collector) waits
        (replay (replay (fun _ => none) image) (p.unread before)) p

def Inv (q : State ι × Bool) : Prop :=
  ∃ p, Settled T serialise ns q.1.eventing p ∧ Tracked T serialise ns q.1 q.2 p

variable {T serialise ns}

theorem snapshotDocs_flatten (image : List (String × String)) :
    (snapshotDocs image).flatten = image := by
  unfold snapshotDocs
  split_ifs with h <;> simp [h]

theorem eventedKey_congr {c c' : Collector ι}
    (h : c'.notEventableVariables = c.notEventableVariables) :
    EventedKey T c' = EventedKey T c := by
  funext name
  simp only [EventedKey, Evented, Collector.ignores, h]

omit [DecidableEq ι] in
theorem Holds.follows {E : String → Prop} {waits : Bool} {held : View String String}
    {p : Publisher String String} (h : Holds E waits held p) (hp : p.Mirrors) :
    p.Follows E held := by
  cases waits with
  | false => exact Publisher.Agrees.follows h hp
  | true => exact h

omit [DecidableEq ι] in
theorem Holds.record {E : String → Prop} {waits : Bool} {init : View String String} {n : ℕ}
    {p p' : Publisher String String} (h : Holds E waits (replay init (p.unread n)) p)
    (hrec : p.Record p') (hn : n ≤ p.sent.length) (hp : p.Mirrors) :
    Holds E waits (replay init (p'.unread n)) p' := by
  cases waits with
  | false => exact Publisher.Agrees.record hrec hn h
  | true => exact Publisher.Follows.record hrec hn h hp

/-- The tracked documents are the ones received, and they give the tracked copy. -/
theorem receives_tracked {s : State ι} {p : Publisher String String}
    (h : Settled T serialise ns s.eventing p) {initial : Option String} {before : ℕ}
    (hphase : s.phase = .accepted initial before) {image : List (String × String)}
    (hbuilt : ∀ es ∈ snapshotDocs image, Built T es)
    (hinitial : initial.toList =
      (snapshotDocs image).map fun es => xmlescape (text serialise ns es) false) :
    Receives T serialise ns s (snapshotDocs image ++ p.sent.drop before) ∧
      copy (snapshotDocs image ++ p.sent.drop before) =
        replay (replay (fun _ => none) image) (p.unread before) := by
  refine ⟨⟨?_, ?_⟩, ?_⟩
  · intro es hes
    rcases List.mem_append.mp hes with hes | hes
    · exact hbuilt es hes
    · exact h.represents.carries.1 es (List.mem_of_mem_drop hes)
  · simp only [delivered, hphase, hinitial, h.represents.carries.2, List.map_append,
      List.map_drop]
  · rw [copy, List.flatten_append, snapshotDocs_flatten, replay_append]
    rfl

theorem Inv.upToDate (hinj : InjectiveTexts T serialise ns) {q : State ι × Bool}
    (h : Inv T serialise ns q) : UpToDate T serialise ns q.1 := by
  obtain ⟨p, hset, htracked⟩ := h
  intro haccepted hopen
  cases hphase : q.1.phase with
  | requested => simp [Accepted, hphase] at haccepted
  | snapshotted b => simp [Accepted, hphase] at haccepted
  | released b => simp [Accepted, hphase] at haccepted
  | accepted initial before =>
    simp only [Tracked, hphase] at htracked
    obtain ⟨hbefore, image, hbuilt, hinitial, hholds⟩ := htracked
    obtain ⟨hreceives, hcopy⟩ := receives_tracked hset hphase hbuilt hinitial
    have hunique : ∀ docs, Receives T serialise ns q.1 docs →
        docs = snapshotDocs image ++ p.sent.drop before := fun docs hd =>
      documents_unique T serialise ns hinj docs _ hd.1 hreceives.1 (hd.2.symm.trans hreceives.2)
    have hfollows := hholds.follows hset.represents.mirrors
    refine ⟨⟨_, hreceives, hunique⟩, ?_⟩
    intro docs hdocs i name hev
    rw [hunique docs hdocs, hcopy, hfollows.upToDate (hset.idle hopen) name ⟨i, hev⟩]
    exact hset.represents.stored i name hev.1 (sendsVariable_ne hev.1 hev.2.1) hev.2.2

theorem Inv.of_fst {q : State ι × Bool} (h : Inv T serialise ns q) {s : State ι} (hs : q.1 = s) :
    Inv T serialise ns (s, q.2) := by
  subst hs
  exact h

/-- The subscriber keeps track of a container operation that the publisher records. -/
theorem Tracked.record {s : State ι} {waits : Bool} {p p' : Publisher String String}
    {e : Eventing ι} (h : Tracked T serialise ns s waits p) (hrec : p.Record p') (hp : p.Mirrors)
    (hmask : e.collector.notEventableVariables = s.eventing.collector.notEventableVariables) :
    Tracked T serialise ns { s with eventing := e } waits p' := by
  unfold Tracked at h ⊢
  cases hphase : s.phase with
  | requested => trivial
  | snapshotted b => simpa only [hphase] using h
  | released b => simpa only [hphase] using h
  | accepted initial before =>
    simp only [hphase] at h ⊢
    obtain ⟨hbefore, image, hbuilt, hinitial, hholds⟩ := h
    refine ⟨hbefore.trans (Publisher.length_record hrec), image, hbuilt, hinitial, ?_⟩
    rw [eventedKey_congr hmask]
    exact hholds.record hrec hbefore hp

/-- A transaction's end loses nothing for the subscriber, except where the document that waited
at the acceptance is suppressed. -/
theorem Tracked.flush {s : State ι} {waits : Bool} {p : Publisher String String} {e : Eventing ι}
    (h : Tracked T serialise ns s waits p) (hset : Settled T serialise ns s.eventing p)
    (hmask : e.collector.notEventableVariables = s.eventing.collector.notEventableVariables)
    (hsent : waits = true → ¬ Suppressed T serialise s) :
    Tracked T serialise ns { s with eventing := e } false p.flush := by
  have hrep := hset.represents
  unfold Tracked at h ⊢
  cases hphase : s.phase with
  | requested => trivial
  | snapshotted b => simpa only [hphase] using h
  | released b => simpa only [hphase] using h
  | accepted initial before =>
    simp only [hphase] at h ⊢
    obtain ⟨hbefore, image, hbuilt, hinitial, hholds⟩ := h
    refine ⟨hbefore.trans (Publisher.length_flush p), image, hbuilt, hinitial, ?_⟩
    rw [eventedKey_congr hmask]
    cases waits with
    | false => exact Publisher.Agrees.flush hbefore hholds
    | true =>
      by_cases hpending : p.pending = []
      · exact (Publisher.Follows.agrees hholds hrep.mirrors hpending).flush hbefore
      · refine Publisher.Follows.flush hbefore hholds hrep.mirrors fun hlast => hsent rfl ?_
        unfold Suppressed
        rw [hrep.toXml hpending, hrep.last p.pending hlast]

/-- Accepting a snapshot that is current, apart from what waits in the builder. -/
theorem Tracked.accept {s : State ι} {p : Publisher String String}
    (hset : Settled T serialise ns s.eventing p) {b : Builder} (hb : SnapshotOk T ns b)
    (hcurrent : ∀ i name, Evented T s.eventing.collector i name →
      (name, s.eventing.values i) ∈ b.entries ∨ Waiting s name) :
    Tracked T serialise ns { s with
      phase := .accepted (initialDocument serialise b) s.eventing.notified.length }
      (!s.eventing.collector.builder.entries.isEmpty) p := by
  obtain ⟨hns, hnames, hnodup⟩ := hb
  have hrep := hset.represents
  have hlen : s.eventing.notified.length = p.sent.length := by
    rw [hrep.carries.2, List.length_map]
  have hunread : p.unread s.eventing.notified.length = [] := by
    simp [Publisher.unread, hlen]
  have hfollows : p.Follows (EventedKey T s.eventing.collector)
      (replay (fun _ => none) b.entries) := by
    rintro name ⟨i, hev⟩ hpending
    have hwaiting : ¬ Waiting s name := by
      unfold Waiting
      rw [hrep.pending]
      exact hpending
    have hmem := (hcurrent i name hev).resolve_right hwaiting
    rw [replay_of_nodup _ _ hnodup name _ hmem]
    exact (hrep.stored i name hev.1 (sendsVariable_ne hev.1 hev.2.1) hev.2.2).symm
  refine ⟨hlen.le, b.entries, ?_, ?_, ?_⟩
  · intro es hes
    unfold snapshotDocs at hes
    split_ifs at hes with hnil
    · simp at hes
    · obtain rfl := List.mem_singleton.mp hes
      exact ⟨hnil, hnames⟩
  · unfold snapshotDocs initialDocument Builder.toXml
    split_ifs with hnil
    · rfl
    · simp [text, hns]
  · rw [hunread, replay_nil, hrep.pending]
    cases hwaits : p.pending with
    | nil => exact hfollows.agrees hrep.mirrors hwaits
    | cons e es => exact hfollows

omit [DecidableEq ι] in
theorem snapshotOk_takeSnapshot (values : ι → String) :
    SnapshotOk T ns (takeSnapshot T ns values) := by
  rw [takeSnapshot_eq]
  refine ⟨rfl, ?_, listedEntries_nodup _⟩
  intro e he
  obtain ⟨i, hname, hsend, -⟩ := mem_listedEntries.mp he
  exact ⟨i, hname, sendsVariable_ne hname hsend⟩

/-- Operations of the container under the service mutex. -/
theorem inv_operate {s : State ι} {waits waits' : Bool} {op : Op ι}
    (h : Inv T serialise ns (s, waits)) (id : ℕ)
    (hop : s.mutex = some (.worker id) → ∀ p, Settled T serialise ns s.eventing p →
      Tracked T serialise ns s waits p → ∃ e p', op.apply T serialise s.eventing = some e ∧
        Settled T serialise ns e p' ∧ Tracked T serialise ns { s with eventing := e } waits' p')
    (hother : s.mutex ≠ some (.worker id) → waits' = waits) :
    Inv T serialise ns (operate T serialise s id op, waits') := by
  unfold Subscription.operate
  split_ifs with hmutex
  · obtain ⟨p, hset, htracked⟩ := h
    obtain ⟨e, p', happly, hset', htracked'⟩ := hop hmutex p hset htracked
    rw [happly]
    exact ⟨p', hset', htracked'⟩
  · rw [hother hmutex]
    exact h

/-- The end of a transaction, which may be the one that waited at the acceptance. -/
theorem inv_finish (hinj : InjectiveTexts T serialise ns) {s : State ι} {waits : Bool} {id : ℕ}
    (h : Inv T serialise ns (s, waits))
    (hproper : s.mutex = some (.worker id) → 1 ≤ s.eventing.collector.openTransactions)
    (hsynced : Ends s id → waits = true → ¬ Suppressed T serialise s) :
    Inv T serialise ns (operate T serialise s id .finish, waits && !decide (Ends s id)) := by
  refine inv_operate h id ?_ fun hmutex => ?_
  · intro hmutex p hset htracked
    obtain ⟨e, happly, hcore, hset'⟩ := hset.finish hinj (hproper hmutex)
    have hmask : e.collector.notEventableVariables =
        s.eventing.collector.notEventableVariables := by
      obtain ⟨b, hb⟩ := Core.notify_collector serialise { s.eventing.toCore with
        collector := { s.eventing.collector with
          openTransactions := s.eventing.collector.openTransactions - 1 } }
      rw [hcore, Core.finish, hb]
    refine ⟨e, _, happly, hset', ?_⟩
    unfold settled
    split_ifs with hopen
    · have hends : Ends s id := by
        have hpos := hproper hmutex
        exact ⟨hmutex, by omega⟩
      rw [decide_eq_true hends, Bool.not_true, Bool.and_false]
      exact htracked.flush hset hmask (hsynced hends)
    · have hgoes : ¬ Ends s id := fun hends => hopen (by rw [hends.2])
      rw [decide_eq_false hgoes, Bool.not_false, Bool.and_true]
      exact htracked.record (.stay p) hset.represents.mirrors hmask
  · have hgoes : ¬ Ends s id := fun hends => hmutex hends.1
    rw [decide_eq_false hgoes, Bool.not_false, Bool.and_true]

theorem inv_step (hinj : InjectiveTexts T serialise ns) (q : State ι × Bool) (l : Label ι)
    (h : Inv T serialise ns q) (hl : Proper T q.1 l ∧ Synced T serialise q l) :
    Inv T serialise ns (watchedStep T serialise ns q l) := by
  obtain ⟨s, waits⟩ := q
  obtain ⟨hproper, hsynced⟩ := hl
  cases l with
  | acquire id =>
    simp only [watchedStep, track, step, stillWaits]
    split_ifs
    · exact h
    · exact h
  | release id =>
    simp only [watchedStep, track, step, stillWaits]
    split_ifs
    · exact h
    · exact h
  | change id i value =>
    refine inv_operate h id ?_ fun _ => rfl
    intro _ p hset htracked
    obtain ⟨e, p', happly, hcore, hset', hrec⟩ := hset.change hinj i value hproper.1 hproper.2
    obtain ⟨b, hb⟩ := Core.change_collector T serialise s.eventing.toCore i (value.getD "")
    refine ⟨e, p', happly, hset', htracked.record hrec hset.represents.mirrors ?_⟩
    rw [hcore, hb]
  | start id =>
    refine inv_operate h id ?_ fun _ => rfl
    intro _ p hset htracked
    refine ⟨_, p, rfl, ⟨hset.represents.setOpen _, hset.registered, ?_⟩,
      htracked.record (.stay p) hset.represents.mirrors rfl⟩
    intro hc
    simp [VariableContainer.start, Collector.start] at hc
  | finish id => exact inv_finish hinj h hproper hsynced
  | snapshot =>
    obtain ⟨p, hset, htracked⟩ := h
    simp only [watchedStep, track, step, stillWaits]
    split
    · exact ⟨p, hset, snapshotOk_takeSnapshot _⟩
    · exact ⟨p, hset, htracked⟩
  | unlock =>
    obtain ⟨p, hset, htracked⟩ := h
    simp only [watchedStep, track, step, stillWaits]
    cases hphase : s.phase with
    | snapshotted b =>
      refine ⟨p, hset, ?_⟩
      simpa only [Tracked, hphase] using htracked
    | requested => exact ⟨p, hset, htracked⟩
    | released b => exact ⟨p, hset, htracked⟩
    | accepted initial before => exact ⟨p, hset, htracked⟩
  | accept =>
    obtain ⟨p, hset, htracked⟩ := h
    simp only [watchedStep, track, step, stillWaits]
    cases hphase : s.phase with
    | released b =>
      simp only [Tracked, hphase] at htracked
      exact ⟨p, hset, Tracked.accept hset htracked (hsynced b hphase)⟩
    | requested => exact ⟨p, hset, htracked⟩
    | snapshotted b => exact ⟨p, hset, htracked⟩
    | accepted initial before => exact ⟨p, hset, htracked⟩

/-- While no transaction is open, accepting a subscription with an outdated snapshot leaves
the subscriber out of date, and only that does. -/
theorem upToDate_accept_iff (hinj : InjectiveTexts T serialise ns) {s : State ι} {waits : Bool}
    (h : Inv T serialise ns (s, waits)) {b : Builder} (hphase : s.phase = .released b)
    (hopen : s.eventing.collector.openTransactions = 0) :
    UpToDate T serialise ns (step T serialise ns s .accept) ↔
      ∀ i name, Evented T s.eventing.collector i name →
        (name, s.eventing.values i) ∈ b.entries := by
  obtain ⟨p, hset, htracked⟩ := h
  have hempty : s.eventing.collector.builder.entries = [] :=
    hset.represents.pending.trans (hset.idle hopen)
  have hb : SnapshotOk T ns b := by simpa only [Tracked, hphase] using htracked
  have hstep : step T serialise ns s .accept =
      { s with phase := .accepted (initialDocument serialise b) s.eventing.notified.length } := by
    simp [step, hphase]
  constructor
  · intro hup i name hev
    rw [hstep] at hup
    obtain ⟨-, hcopy⟩ := hup trivial hopen
    have hreceives : Receives T serialise ns { s with
        phase := .accepted (initialDocument serialise b) s.eventing.notified.length }
        (snapshotDocs b.entries) := by
      refine ⟨?_, ?_⟩
      · intro es hes
        unfold snapshotDocs at hes
        split_ifs at hes with hnil
        · simp at hes
        · obtain rfl := List.mem_singleton.mp hes
          exact ⟨hnil, hb.2.1⟩
      · unfold delivered snapshotDocs initialDocument Builder.toXml
        split_ifs with hnil
        · simp
        · simp [text, hb.1]
    have hread := hcopy _ hreceives i name hev
    rw [copy, snapshotDocs_flatten] at hread
    exact (mem_of_replay _ _ _ _ hread).resolve_right (by simp)
  · intro hcurrent
    have hinv : Inv T serialise ns (watchedStep T serialise ns (s, waits) .accept) := by
      apply inv_step hinj (s, waits) .accept ⟨p, hset, htracked⟩
      refine ⟨trivial, ?_⟩
      intro b' hb'
      obtain rfl : b = b' := Phase.released.inj (hphase.symm.trans hb')
      exact fun i name hev => Or.inl (hcurrent i name hev)
    exact hinv.upToDate hinj

variable (T serialise ns)

/-- A container whose collector was made while LastChange was fresh, and then used. -/
def InService (e : Eventing ι) : Prop :=
  ∃ (values : ι → String) (observers : List ℕ) (ops : List (Op ι)) (e₀ : Eventing ι),
    FreshLastChange T serialise ns values ∧ (∀ op ∈ ops, op.Allowed T) ∧ Balanced 0 ops ∧
    newCollector T serialise values (observers.map .observer) ns = some e₀ ∧
    runOps T serialise e₀ ops = some e

variable {T serialise ns}

theorem InService.inv (hT : T.vars.length < 32) (hinj : InjectiveTexts T serialise ns)
    {e : Eventing ι} (h : InService T serialise ns e) :
    Inv T serialise ns (⟨e, none, .requested⟩, false) := by
  obtain ⟨values, observers, ops, e₀, hfresh, hallowed, hbal, hnew, hrun⟩ := h
  obtain ⟨e₁, hnew', hopen, hset⟩ := newCollector_settled hT observers hfresh
  obtain rfl : e₀ = e₁ := Option.some.inj (hnew.symm.trans hnew')
  obtain ⟨e₂, p, hrun', hset'⟩ := runOps_settled hT hinj ops e₀ _ hset hallowed (hopen ▸ hbal)
  obtain rfl : e = e₂ := Option.some.inj (hrun.symm.trans hrun')
  exact ⟨p, hset', trivial⟩

/-- No update is lost around a subscription in any run that accepts it with a snapshot that
is current or about to be corrected, and then sends the document that was waiting. -/
theorem subscriber_upToDate (hT : T.vars.length < 32) (hinj : InjectiveTexts T serialise ns)
    (e : Eventing ι) (he : InService T serialise ns e) (ls : List (Label ι))
    (h : AllSteps (watchedStep T serialise ns) (fun q l => Proper T q.1 l ∧ Synced T serialise q l)
      (⟨e, none, .requested⟩, false) ls) :
    UpToDate T serialise ns (run (step T serialise ns) ⟨e, none, .requested⟩ ls) := by
  have hinv := run_invariant_of_allSteps _ (inv_step hinj) (he.inv hT hinj) h
  have hrun := run_track_fst (step T serialise ns) stillWaits (⟨e, none, .requested⟩, false) ls
  rw [← hrun]
  exact hinv.upToDate hinj

section Stale

abbrev avtStep : State (Fin 2) → Label (Fin 2) → State (Fin 2) :=
  step stateTable ixmlDocumentToString transportEventXmlNs

omit [DecidableEq ι] in
theorem proper_finish {s : State ι} (h : 1 ≤ s.eventing.collector.openTransactions) (id : ℕ) :
    Proper T s (.finish id) := fun _ => h

theorem synced_finish {q : State ι × Bool} (h : q.2 = true → ¬ Suppressed T serialise q.1)
    (id : ℕ) : Synced T serialise q (.finish id) := fun _ => h

/-- The container of a stopped renderer. -/
def stoppedContainer : Eventing (Fin 2) :=
  (newCollector stateTable ixmlDocumentToString ![ "STOPPED", ""] [] transportEventXmlNs).get
    (by decide +kernel)

theorem stoppedContainer_inService :
    InService stateTable ixmlDocumentToString transportEventXmlNs stoppedContainer :=
  ⟨![ "STOPPED", ""], [], [], stoppedContainer, fun _ => (ixmlDocumentToString_ne_empty _).symm,
    by simp, fun pre hpre => by simp [List.prefix_nil.mp hpre], (Option.some_get _).symm, rfl⟩

/-- A subscription that is accepted in the middle of a transaction, with a snapshot from before. -/
theorem subscriber_upToDate_playing :
    UpToDate stateTable ixmlDocumentToString transportEventXmlNs
      (run avtStep ⟨stoppedContainer, none, .requested⟩ [.snapshot, .unlock, .acquire 0, .start 0,
        .change 0 0 (some "PLAYING"), .accept, .finish 0]) := by
  apply subscriber_upToDate (by decide) stateTable_injectiveTexts stoppedContainer
    stoppedContainer_inService
  refine ⟨⟨trivial, trivial⟩, ⟨trivial, trivial⟩, ⟨trivial, trivial⟩, ⟨trivial, trivial⟩,
    ⟨⟨by simp [stateTable], by decide⟩, trivial⟩, ⟨trivial, ?_⟩,
    ⟨proper_finish (by decide +kernel) 0, synced_finish (fun _ => by decide +kernel) 0⟩, trivial⟩
  rintro b - i name ⟨hname, hsends, -⟩
  fin_cases i
  · obtain rfl := Option.some.inj hname
    exact Or.inr (by decide +kernel)
  · obtain rfl := Option.some.inj hname
    exact absurd hsends (by decide)

/-- A change that is notified between the snapshot and its acceptance. -/
def missedChange : List (Label (Fin 2)) :=
  [.snapshot, .unlock, .acquire 0, .start 0, .change 0 ⟨0, Nat.zero_lt_two⟩ (some "PLAYING"),
    .finish 0, .release 0]

theorem inv_missedChange : ∃ waits, Inv stateTable ixmlDocumentToString transportEventXmlNs
    (run avtStep ⟨stoppedContainer, none, .requested⟩ missedChange, waits) := by
  have hinv : Inv stateTable ixmlDocumentToString transportEventXmlNs
      (run (watchedStep stateTable ixmlDocumentToString transportEventXmlNs)
        (⟨stoppedContainer, none, .requested⟩, false) missedChange) := by
    apply run_invariant_of_allSteps _ (inv_step stateTable_injectiveTexts)
      (stoppedContainer_inService.inv (by decide) stateTable_injectiveTexts)
    exact ⟨⟨trivial, trivial⟩, ⟨trivial, trivial⟩, ⟨trivial, trivial⟩, ⟨trivial, trivial⟩,
      ⟨⟨by simp [stateTable], by decide⟩, trivial⟩,
      ⟨proper_finish (by decide +kernel) 0, synced_finish (by decide +kernel) 0⟩,
      ⟨trivial, trivial⟩, trivial⟩
  have hrun := run_track_fst avtStep stillWaits (⟨stoppedContainer, none, .requested⟩, false)
    missedChange
  exact ⟨_, hinv.of_fst hrun⟩

/-- The renderer plays and no transaction is open, while the snapshot is the one from before. -/
theorem missedChange_end :
    (run avtStep ⟨stoppedContainer, none, .requested⟩ missedChange).phase =
        .released ⟨some transportEventXmlNs, [("TransportState", "STOPPED")]⟩ ∧
      (run avtStep ⟨stoppedContainer, none, .requested⟩
        missedChange).eventing.collector.openTransactions = 0 ∧
      (run avtStep ⟨stoppedContainer, none, .requested⟩
        missedChange).eventing.collector.ignores stateTable 0 = false ∧
      (run avtStep ⟨stoppedContainer, none, .requested⟩
        missedChange).eventing.values 0 = "PLAYING" := by decide +kernel

theorem stale_after_missedChange :
    InService stateTable ixmlDocumentToString transportEventXmlNs stoppedContainer ∧
      AllSteps avtStep (Proper stateTable) ⟨stoppedContainer, none, .requested⟩
        (missedChange ++ [.accept]) ∧
      ¬ UpToDate stateTable ixmlDocumentToString transportEventXmlNs
        (run avtStep ⟨stoppedContainer, none, .requested⟩ (missedChange ++ [.accept])) := by
  refine ⟨stoppedContainer_inService, ?_, ?_⟩
  · exact ⟨trivial, trivial, trivial, trivial, ⟨by simp [stateTable], by decide⟩,
      fun _ => by decide +kernel, trivial, trivial, trivial⟩
  · rw [run_append, run_cons, run_nil]
    intro hup
    obtain ⟨hphase, hclosed, hsent, hplaying⟩ := missedChange_end
    obtain ⟨waits, hinv⟩ := inv_missedChange
    have hcurrent := (upToDate_accept_iff stateTable_injectiveTexts hinv hphase
      hclosed).mp hup 0 "TransportState" ⟨rfl, by decide, hsent⟩
    rw [hplaying] at hcurrent
    simp at hcurrent

end Stale

end GMediaRender.Subscription
