import GMediaRender.OwnedHeap
import GMediaRender.UpnpTransport

/-!
The variable container and its collector with their memory: values are blocks that
`VariableContainer_change` allocates and frees, a listener gets the addresses of the old
and the new value, the collector keeps its document in a block of its own, and an argument
may be the address of another variable's value. Every load checks that the block is still
allocated, so a use after free or a second free is a failed run.
-/
namespace GMediaRender.ContainerMemory

open XmlDoc VariableContainer OwnedHeap

/-- A string, or the document of an `upnp_last_change_builder`. -/
inductive Cell where
  | string (s : String)
  | document (xmlNamespace : Option String) (entries : List (String × String))

/-- A `const char *`: NULL, memory the container has no part in, or a block. -/
inductive Pointer where
  | null
  | outside (s : String)
  | block (a : ℕ)

def readString (h : Heap Cell) : Pointer → Option String
  | .null => none
  | .outside s => some s
  | .block a => match h.load a with
    | some (.string s) => some s
    | _ => none

structure BuilderMemory where
  xmlNamespace : Option String
  changeEventDoc : Option ℕ

structure CollectorMemory (ι : Type) where
  lastChangeVariableNum : ι
  notEventableVariables : BitVec 32
  openTransactions : ℕ
  builder : BuilderMemory

/-- The container, its collector and the heap; the calls of the other listeners and the
values passed to `upnp_device_notify` are recorded. -/
structure Memory (ι : Type) where
  heap : Heap Cell
  values : ι → ℕ
  collector : CollectorMemory ι
  callbacks : List Listener
  calls : List (ListenerCall ι)
  notified : List String

/-- The memory after the builder has changed its document. -/
def Memory.withDocument {ι : Type} (m : Memory ι) (heap : Heap Cell) (doc : Option ℕ) :
    Memory ι :=
  { m with heap := heap, collector.builder.changeEventDoc := doc }

variable {ι : Type} [DecidableEq ι] (A : Allocator) (T : VariableTable ι)
variable (S : Node → String)

/-- The document that `UPnPLastChangeBuilder_add` writes to, made at the first entry. -/
def openDocument (m : Memory ι) : ℕ × Heap Cell :=
  match m.collector.builder.changeEventDoc with
  | some doc => (doc, m.heap)
  | none => m.heap.malloc A (.document m.collector.builder.xmlNamespace [])

/-- `UPnPLastChangeBuilder_add` -/
def builderAdd (m : Memory ι) (name : String) (value : Pointer) : Option (Memory ι) := do
  let v ← readString m.heap value
  let (doc, heap) := openDocument A m
  match heap.load doc with
  | some (.document ns entries) =>
    let heap ← heap.store doc (.document ns (entries ++ [(name, v)]))
    pure (m.withDocument heap (some doc))
  | _ => none

/-- `UPnPLastChangeBuilder_to_xml`: the document is freed, its text is a new block. -/
def builderToXml (m : Memory ι) : Option (Option ℕ × Memory ι) :=
  match m.collector.builder.changeEventDoc with
  | none => some (none, m)
  | some doc =>
    match m.heap.load doc with
    | some (.document ns entries) => do
      let (text, heap) := m.heap.malloc A
        (.string (S (Builder.changeEventDoc ns entries)))
      let heap ← heap.free doc
      pure (some text, m.withDocument heap none)
    | _ => none

/-- The escaped copy that `UPnPLastChangeCollector_notify` sends and frees. -/
def sendEscaped (m : Memory ι) (text : ℕ) : Option (Memory ι) := do
  let xml ← readString m.heap (.block text)
  let (escaped, heap) := m.heap.malloc A (.string (xmlescape xml false))
  let sent ← readString heap (.block escaped)
  let heap ← heap.free escaped
  pure { m with heap := heap, notified := m.notified ++ [sent] }

section Reentrant

variable (change : Memory ι → ι → Pointer → Option (Memory ι × Bool))

/-- `UPnPLastChangeCollector_notify` -/
def notifyWith (m : Memory ι) : Option (Memory ι) :=
  if m.collector.openTransactions ≠ 0 then some m
  else do
    let (text, m) ← builderToXml A S m
    match text with
    | none => pure m
    | some text =>
      let (m, changed) ← change m m.collector.lastChangeVariableNum (.block text)
      let m ← if changed then sendEscaped A m text else pure m
      let heap ← m.heap.free text
      pure { m with heap := heap }

def ignores (m : Memory ι) (i : ι) : Bool :=
  m.collector.notEventableVariables &&& Collector.bit T i != 0#32

/-- `UPnPLastChangeCollector_callback` -/
def collectorCallback (m : Memory ι) (i : ι) (newValue : Pointer) : Option (Memory ι) :=
  if ignores T m i then some m
  else do
    let name ← T.name i
    let m ← builderAdd A m name newValue
    notifyWith A S change m

/-- The loop over the listeners; one that only reads looks at both values. -/
def callListeners (i : ι) (oldValue newValue : Pointer) :
    List Listener → Memory ι → Option (Memory ι)
  | [], m => some m
  | .observer k :: rest, m => do
    let old ← readString m.heap oldValue
    let new ← readString m.heap newValue
    callListeners i oldValue newValue rest
      { m with calls := m.calls ++ [⟨k, i, T.name i, old, new⟩] }
  | .collector :: rest, m => do
    let m ← collectorCallback A T S change m i newValue
    callListeners i oldValue newValue rest m

end Reentrant

/-- NULL stands for the empty string. -/
def orEmpty : Pointer → Pointer
  | .null => .outside ""
  | p => p

/-- `VariableContainer_change` with at most `depth` nested calls of itself. -/
def changeDepth : ℕ → Memory ι → ι → Pointer → Option (Memory ι × Bool)
  | 0, _, _, _ => none
  | depth + 1, m, i, value => do
    let new ← readString m.heap (orEmpty value)
    let current ← readString m.heap (.block (m.values i))
    if new = current then pure (m, false)
    else
      let oldValue := m.values i
      let (newValue, heap) := m.heap.malloc A (.string new)
      let m ← callListeners A T S (changeDepth depth) i (.block oldValue)
        (.block newValue) m.callbacks
        { m with heap := heap, values := Function.update m.values i newValue }
      let heap ← m.heap.free oldValue
      pure ({ m with heap := heap }, true)

def change (m : Memory ι) (i : ι) (value : Pointer) : Option (Memory ι × Bool) :=
  changeDepth A T S 2 m i value

def notify (m : Memory ι) : Option (Memory ι) :=
  notifyWith A S (changeDepth A T S 1) m

/-- `VariableContainer_get` -/
def get (m : Memory ι) (i : ι) : Pointer :=
  match T.name i with
  | none => .null
  | some _ => .block (m.values i)

def start (m : Memory ι) : Memory ι :=
  { m with collector.openTransactions := m.collector.openTransactions + 1 }

/-- `UPnPLastChangeCollector_finish` -/
def finish (m : Memory ι) : Option (Memory ι) :=
  if m.collector.openTransactions < 1 then none
  else notify A T S
    { m with collector.openTransactions := m.collector.openTransactions - 1 }

def addIgnore (m : Memory ι) (i : ι) : Memory ι :=
  { m with collector.notEventableVariables :=
      m.collector.notEventableVariables ||| Collector.bit T i }

section Represents

def valueBlocks (values : ι → ℕ) (strings : ι → String) : List (ℕ × Cell) :=
  T.vars.map fun i => (values i, .string (strings i))

def documentBlocks (doc : Option ℕ) (b : Builder) : List (ℕ × Cell) :=
  doc.toList.map fun a => (a, .document b.xmlNamespace b.entries)

def CollectorMemory.of (c : Collector ι) (doc : Option ℕ) : CollectorMemory ι :=
  ⟨c.lastChangeVariableNum, c.notEventableVariables, c.openTransactions,
    ⟨c.builder.xmlNamespace, doc⟩⟩

/-- The memory holds the values and the pending document of `e`, and beside them only
the blocks of `others`. -/
structure Represents (m : Memory ι) (e : Eventing ι) (others : List (ℕ × Cell)) : Prop where
  holds : m.heap.Holds (valueBlocks T m.values e.values ++
    (documentBlocks m.collector.builder.changeEventDoc e.collector.builder ++ others))
  document : m.collector.builder.changeEventDoc = none ↔ e.collector.builder.entries = []
  collector : m.collector = .of e.collector m.collector.builder.changeEventDoc
  callbacks : m.callbacks = e.callbacks
  calls : m.calls = e.calls
  notified : m.notified = e.notified

variable {A T S} {m : Memory ι} {e : Eventing ι} {F : List (ℕ × Cell)}

theorem readString_of_load {h : Heap Cell} {a : ℕ} {s : String}
    (hload : h.load a = some (.string s)) : readString h (.block a) = some s := by
  simp [readString, hload]

omit [DecidableEq ι] in
theorem mem_valueBlocks (values : ι → ℕ) (strings : ι → String) (i : ι) :
    (values i, Cell.string (strings i)) ∈ valueBlocks T values strings :=
  List.mem_map.mpr ⟨i, T.complete i, rfl⟩

omit [DecidableEq ι] in
/-- The address of a variable reads as its value. -/
theorem Represents.read_value (hm : Represents T m e F) (i : ι) :
    readString m.heap (.block (m.values i)) = some (e.values i) :=
  readString_of_load (hm.holds.load (List.mem_append_left _ (mem_valueBlocks _ _ i)))

omit [DecidableEq ι] in
theorem Represents.read_other (hm : Represents T m e F) {a : ℕ} {s : String}
    (ha : (a, Cell.string s) ∈ F) : readString m.heap (.block a) = some s :=
  readString_of_load (hm.holds.load (by simp [ha]))

theorem Represents.ignores (hm : Represents T m e F) (i : ι) :
    ignores T m i = e.collector.ignores T i := by
  have hmask := congrArg CollectorMemory.notEventableVariables hm.collector
  simp only [ContainerMemory.ignores, Collector.ignores, hmask, CollectorMemory.of]

omit [DecidableEq ι] in
/-- Blocks of others may be listed in any order. -/
theorem Represents.perm (hm : Represents T m e F) {G : List (ℕ × Cell)} (hFG : F.Perm G) :
    Represents T m e G :=
  { hm with holds := hm.holds.perm ((hFG.append_left _).append_left _) }

omit [DecidableEq ι] in
/-- The blocks of others are what remains to allocate and free when the variables and
the document stay. -/
theorem Represents.of_heap (hm : Represents T m e F) {h : Heap Cell} {G : List (ℕ × Cell)}
    (hh : h.Holds (valueBlocks T m.values e.values ++
      (documentBlocks m.collector.builder.changeEventDoc e.collector.builder ++ G))) :
    Represents T { m with heap := h } e G :=
  { hm with holds := hh }

theorem perm_other (V D : List (ℕ × Cell)) (b : ℕ × Cell) (F : List (ℕ × Cell)) :
    (b :: (V ++ (D ++ F))).Perm (V ++ (D ++ b :: F)) := by
  have hD : (b :: (D ++ F)).Perm (D ++ b :: F) := List.perm_middle.symm
  exact List.perm_middle.symm.trans (hD.append_left V)

omit [DecidableEq ι] in
theorem Represents.malloc (hm : Represents T m e F) (c : Cell) :
    Represents T { m with heap := (m.heap.malloc A c).2 } e
      (((m.heap.malloc A c).1, c) :: F) :=
  hm.of_heap ((hm.holds.malloc c).perm (perm_other _ _ _ _))

omit [DecidableEq ι] in
theorem Represents.free {a : ℕ} {c : Cell} (hm : Represents T m e ((a, c) :: F)) :
    ∃ h, m.heap.free a = some h ∧ Represents T { m with heap := h } e F := by
  obtain ⟨h, hfree, hh⟩ := (hm.holds.perm (perm_other _ _ _ _).symm).free
  exact ⟨h, hfree, hm.of_heap hh⟩

omit [DecidableEq ι] in
theorem Represents.withDocument (hm : Represents T m e F) {h : Heap Cell} {doc : Option ℕ}
    {entries : List (String × String)} {G : List (ℕ × Cell)}
    (hdoc : doc = none ↔ entries = [])
    (hh : h.Holds (valueBlocks T m.values e.values ++
      (documentBlocks doc ⟨e.collector.builder.xmlNamespace, entries⟩ ++ G))) :
    Represents T (m.withDocument h doc)
      { e with collector.builder := ⟨e.collector.builder.xmlNamespace, entries⟩ } G := by
  refine ⟨hh, hdoc, ?_, hm.callbacks, hm.calls, hm.notified⟩
  have hcollector := hm.collector
  simp only [Memory.withDocument]
  rw [hcollector]
  rfl

omit [DecidableEq ι] in
theorem Represents.openDocument (hm : Represents T m e F) :
    (openDocument A m).2.Holds (((openDocument A m).1,
        .document e.collector.builder.xmlNamespace e.collector.builder.entries) ::
      (valueBlocks T m.values e.values ++ F)) := by
  have hns : m.collector.builder.xmlNamespace = e.collector.builder.xmlNamespace :=
    congrArg (fun c => c.builder.xmlNamespace) hm.collector
  have hholds := hm.holds
  unfold ContainerMemory.openDocument
  cases hdoc : m.collector.builder.changeEventDoc with
  | none =>
    have hentries := hm.document.mp hdoc
    simp only [hdoc, documentBlocks, Option.toList_none, List.map_nil, List.nil_append]
      at hholds
    rw [hentries, ← hns]
    exact hholds.malloc _
  | some doc =>
    simp only [hdoc, documentBlocks, Option.toList_some, List.map_cons, List.map_nil,
      List.cons_append, List.nil_append] at hholds
    exact hholds.perm List.perm_middle

omit [DecidableEq ι] in
/-- An entry is added to the document; no variable moves. -/
theorem Represents.builderAdd (hm : Represents T m e F) (name : String) {p : Pointer}
    {v : String} (hp : readString m.heap p = some v) :
    ∃ m', builderAdd A m name p = some m' ∧ m'.values = m.values ∧
      Represents T m' { e with collector := e.collector.add name v } F := by
  have hopen := hm.openDocument (A := A)
  obtain ⟨h, hstore, hh⟩ := hopen.store (.document e.collector.builder.xmlNamespace
    (e.collector.builder.entries ++ [(name, v)]))
  have hload := hopen.load (List.mem_cons_self ..)
  refine ⟨m.withDocument h (some (ContainerMemory.openDocument A m).1), ?_, rfl,
    hm.withDocument (by simp) (hh.perm List.perm_middle.symm)⟩
  simp only [ContainerMemory.builderAdd, hp, hload, hstore, Option.bind_eq_bind,
    Option.bind_some, Option.pure_def]

omit [DecidableEq ι] in
/-- The document becomes the block of its text, which the caller has to free. -/
theorem Represents.builderToXml (hm : Represents T m e F)
    (hentries : e.collector.builder.entries ≠ []) :
    ∃ a m', builderToXml A S m = some (some a, m') ∧ m'.values = m.values ∧
      Represents T m' { e with collector := e.collector.resetBuilder }
        ((a, .string (S (Builder.changeEventDoc e.collector.builder.xmlNamespace
          e.collector.builder.entries))) :: F) := by
  cases hdoc : m.collector.builder.changeEventDoc with
  | none => exact absurd (hm.document.mp hdoc) hentries
  | some doc =>
    have hholds := hm.holds
    simp only [hdoc, documentBlocks, Option.toList_some, List.map_cons, List.map_nil,
      List.cons_append, List.nil_append] at hholds
    have hload := hholds.load (a := doc) (x := .document e.collector.builder.xmlNamespace
      e.collector.builder.entries) (by simp)
    have hmalloc := hholds.malloc (A := A) (.string (S
      (Builder.changeEventDoc e.collector.builder.xmlNamespace e.collector.builder.entries)))
    obtain ⟨h, hfree, hh⟩ := (hmalloc.perm
      ((List.perm_middle.cons _).trans (List.Perm.swap _ _ _))).free
    refine ⟨_, m.withDocument h none, ?_, rfl,
      hm.withDocument (by simp) (hh.perm List.perm_middle.symm)⟩
    simp only [ContainerMemory.builderToXml, hdoc, hload, hfree, Option.bind_eq_bind,
      Option.bind_some, Option.pure_def]

omit [DecidableEq ι] in
/-- The escaped copy lives no longer than the call that sends it. -/
theorem Represents.sendEscaped {a : ℕ} {xml : String}
    (hm : Represents T m e ((a, .string xml) :: F)) :
    ∃ m', sendEscaped A m a = some m' ∧ m'.values = m.values ∧
      Represents T m' { e with notified := e.notified ++ [xmlescape xml false] }
        ((a, .string xml) :: F) := by
  have hread := hm.read_other (List.mem_cons_self ..)
  have hcopy := hm.malloc (A := A) (.string (xmlescape xml false))
  have hsent := hcopy.read_other (List.mem_cons_self ..)
  obtain ⟨h, hfree, hrep⟩ := hcopy.free
  refine ⟨{ m with heap := h, notified := m.notified ++ [xmlescape xml false] }, ?_, rfl,
    hrep.holds, hrep.document, hrep.collector, hrep.callbacks, hrep.calls,
    congrArg (· ++ [xmlescape xml false]) hrep.notified⟩
  simp only at hsent hfree
  simp only [ContainerMemory.sendEscaped, hread, hsent, hfree, Option.bind_eq_bind,
    Option.bind_some, Option.pure_def]

end Represents

section Simulation

/-- The collector writes LastChange and does not listen to it. -/
def Locked (e : Eventing ι) : Prop :=
  e.collector.lastChangeVariableNum = T.lastChange ∧ e.collector.ignores T T.lastChange = true

/-- What a change of variable `i` leaves: the memory still represents the container, and
variables other than `i` and LastChange are where they were. -/
structure Carried (m m' : Memory ι) (e e' : Eventing ι) (i : ι) (F : List (ℕ × Cell)) :
    Prop where
  represents : Represents T m' e' F
  locked : Locked T e'
  stays : ∀ j, j ≠ i → j ≠ T.lastChange →
    m'.values j = m.values j ∧ e'.values j = e.values j

/-- The container operation in memory does what the one on values does. -/
def Simulates (inMemory : Memory ι → ι → Pointer → Option (Memory ι × Bool))
    (onValues : Eventing ι → ι → String → Option (Eventing ι × Bool)) : Prop :=
  ∀ m e F i p v e' b, Represents T m e F → Locked T e →
    readString m.heap (orEmpty p) = some v → onValues e i v = some (e', b) →
    ∃ m', inMemory m i p = some (m', b) ∧ Carried T m m' e e' i F

variable {A T S} {m : Memory ι} {e e' : Eventing ι} {F : List (ℕ × Cell)}
variable {inMemory : Memory ι → ι → Pointer → Option (Memory ι × Bool)}
variable {onValues : Eventing ι → ι → String → Option (Eventing ι × Bool)}

theorem Carried.refl (hm : Represents T m e F) (he : Locked T e) (i : ι) :
    Carried T m m e e i F :=
  ⟨hm, he, fun _ _ _ => ⟨rfl, rfl⟩⟩

omit [DecidableEq ι] in
theorem Represents.openTransactions (hm : Represents T m e F) :
    m.collector.openTransactions = e.collector.openTransactions :=
  congrArg CollectorMemory.openTransactions hm.collector

omit [DecidableEq ι] in
theorem Represents.lastChangeVariableNum (hm : Represents T m e F) :
    m.collector.lastChangeVariableNum = e.collector.lastChangeVariableNum :=
  congrArg CollectorMemory.lastChangeVariableNum hm.collector

/-- `UPnPLastChangeCollector_notify` frees all that it allocates. -/
theorem notifyWith_carried (hsim : Simulates T inMemory onValues) (hm : Represents T m e F)
    (he : Locked T e) (h : VariableContainer.notifyWith S onValues e = some e') :
    ∃ m', notifyWith A S inMemory m = some m' ∧ Carried T m m' e e' T.lastChange F := by
  unfold VariableContainer.notifyWith at h
  unfold notifyWith
  rw [hm.openTransactions]
  by_cases hopen : e.collector.openTransactions ≠ 0
  · rw [if_pos hopen] at h ⊢
    obtain rfl := Option.some.inj h
    exact ⟨m, rfl, Carried.refl hm he _⟩
  rw [if_neg hopen] at h ⊢
  by_cases hentries : e.collector.builder.entries = []
  · have hxml : e.collector.builder.toXml S = none := by simp [Builder.toXml, hentries]
    rw [hxml] at h
    obtain rfl := Option.some.inj h
    refine ⟨m, ?_, Carried.refl hm he _⟩
    simp [builderToXml, hm.document.mpr hentries]
  have hxml : e.collector.builder.toXml S = some (S
      (Builder.changeEventDoc e.collector.builder.xmlNamespace e.collector.builder.entries)) := by
    simp [Builder.toXml, hentries]
  simp only [hxml] at h
  obtain ⟨a, m₁, htext, hvalues, hm₁⟩ :=
    hm.builderToXml (A := A) (S := S) hentries
  obtain ⟨⟨e₂, changed⟩, hchange, hresult⟩ := Option.map_eq_some_iff.mp h
  obtain ⟨m₂, hm₂, hcarried⟩ := hsim m₁ _ _ _ (.block a) _ e₂ changed hm₁ he
    (hm₁.read_other (List.mem_cons_self ..)) hchange
  have hlast : m₁.collector.lastChangeVariableNum = e.collector.lastChangeVariableNum :=
    hm₁.lastChangeVariableNum
  have hstays : ∀ j, j ≠ T.lastChange → j ≠ T.lastChange →
      m₂.values j = m.values j ∧ e₂.values j = e.values j := by
    intro j hj _
    have hj' := hcarried.stays j (by rw [he.1]; exact hj) hj
    exact ⟨hj'.1.trans (congrFun hvalues j), hj'.2⟩
  cases changed with
  | false =>
    obtain ⟨heap, hfree, hrep⟩ := hcarried.represents.free
    refine ⟨{ m₂ with heap := heap }, ?_, ?_⟩
    · simp [htext, hlast, hm₂, hfree]
    · obtain rfl : e₂ = e' := by simpa using hresult
      exact ⟨hrep, hcarried.locked, hstays⟩
  | true =>
    obtain ⟨m₃, hsend, hvalues₃, hm₃⟩ := hcarried.represents.sendEscaped (A := A)
    obtain ⟨heap, hfree, hrep⟩ := hm₃.free
    refine ⟨{ m₃ with heap := heap }, ?_, ?_⟩
    · simp [htext, hlast, hm₂, hsend, hfree]
    · obtain rfl := by simpa using hresult
      refine ⟨hrep, hcarried.locked, fun j hj hl => ?_⟩
      exact ⟨(congrFun hvalues₃ j).trans (hstays j hj hl).1, (hstays j hj hl).2⟩

theorem collectorCallback_carried (hsim : Simulates T inMemory onValues)
    (hm : Represents T m e F) (he : Locked T e) (i : ι) {p : Pointer} {v : String}
    (hp : readString m.heap p = some v)
    (h : VariableContainer.collectorCallback T S onValues e i v = some e') :
    ∃ m', collectorCallback A T S inMemory m i p = some m' ∧
      Carried T m m' e e' T.lastChange F := by
  unfold VariableContainer.collectorCallback at h
  unfold collectorCallback
  rw [hm.ignores]
  by_cases hi : e.collector.ignores T i = true
  · rw [if_pos hi] at h ⊢
    obtain rfl := Option.some.inj h
    exact ⟨m, rfl, Carried.refl hm he _⟩
  rw [if_neg hi] at h ⊢
  obtain ⟨name, hname, hnotify⟩ := Option.bind_eq_some_iff.mp h
  obtain ⟨m₁, hadd, hvalues, hm₁⟩ := hm.builderAdd (A := A) name hp
  obtain ⟨m₂, hm₂, hcarried⟩ := notifyWith_carried (A := A) hsim hm₁ he hnotify
  refine ⟨m₂, ?_, hcarried.represents, hcarried.locked, fun j hj hl => ?_⟩
  · simp [hname, hadd, hm₂]
  · have hj' := hcarried.stays j hj hl
    exact ⟨hj'.1.trans (congrFun hvalues j), hj'.2⟩

/-- Both addresses that the listeners get stay readable to the end of the loop: the old
value is freed after it, and a nested change is one of LastChange only. -/
theorem callListeners_carried (hsim : Simulates T inMemory onValues) (i : ι) {a : ℕ}
    {old new : String} (l : List Listener) (hm : Represents T m e F) (he : Locked T e)
    (hold : (a, Cell.string old) ∈ F) (hnew : e.values i = new)
    (h : VariableContainer.callListeners T S onValues i old new l e = some e') :
    ∃ m', callListeners A T S inMemory i (.block a) (.block (m.values i)) l m =
        some m' ∧ Carried T m m' e e' T.lastChange F := by
  induction l generalizing m e with
  | nil =>
    obtain rfl := Option.some.inj h
    exact ⟨m, rfl, Carried.refl hm he _⟩
  | cons b l ih =>
    have hreadNew : readString m.heap (.block (m.values i)) = some new := by
      rw [hm.read_value, hnew]
    cases b with
    | observer k =>
      have hm₁ : Represents T { m with calls := m.calls ++ [⟨k, i, T.name i, old, new⟩] }
          { e with calls := e.calls ++ [⟨k, i, T.name i, old, new⟩] } F :=
        { hm with calls := congrArg (· ++ [⟨k, i, T.name i, old, new⟩]) hm.calls }
      obtain ⟨m', hrest, hcarried⟩ := ih hm₁ he hnew h
      refine ⟨m', ?_, hcarried.represents, hcarried.locked, hcarried.stays⟩
      simpa [callListeners, hm.read_other hold, hreadNew] using hrest
    | collector =>
      obtain ⟨e₁, hcallback, hrest⟩ := Option.bind_eq_some_iff.mp h
      obtain ⟨m₁, hm₁, hc₁⟩ :=
        collectorCallback_carried (A := A) (S := S) hsim hm he i hreadNew hcallback
      have hstay : m₁.values i = m.values i ∧ e₁.values i = e.values i := by
        by_cases hi : i = T.lastChange
        · -- LastChange is ignored, so its listeners leave it alone.
          have hign : e.collector.ignores T i = true := by
            rw [hi]
            exact he.2
          rw [VariableContainer.collectorCallback, if_pos hign] at hcallback
          rw [collectorCallback, hm.ignores, if_pos hign] at hm₁
          obtain rfl := Option.some.inj hcallback
          obtain rfl := Option.some.inj hm₁
          exact ⟨rfl, rfl⟩
        · exact hc₁.stays i hi hi
      obtain ⟨m', hm', hc'⟩ := ih hc₁.represents hc₁.locked (hstay.2.trans hnew) hrest
      rw [hstay.1] at hm'
      refine ⟨m', ?_, hc'.represents, hc'.locked, fun j hj hl => ?_⟩
      · simp only [callListeners, hm₁, Option.bind_eq_bind, Option.bind_some]
        exact hm'
      · have h₁ := hc₁.stays j hj hl
        have h' := hc'.stays j hj hl
        exact ⟨h'.1.trans h₁.1, h'.2.trans h₁.2⟩

/-- The blocks of the values with the one of variable `i` taken out. -/
theorem valueBlocks_split (values : ι → ℕ) (strings : ι → String) (i : ι) :
    ∃ rest, ∀ a s, (valueBlocks T (Function.update values i a)
      (Function.update strings i s)).Perm ((a, Cell.string s) :: rest) := by
  refine ⟨(T.vars.erase i).map fun j => (values j, .string (strings j)), fun a s => ?_⟩
  have hperm := (List.perm_cons_erase (T.complete i)).map fun j =>
    (Function.update values i a j, Cell.string (Function.update strings i s j))
  refine hperm.trans ?_
  simp only [List.map_cons, Function.update_self]
  refine List.Perm.cons _ (List.Perm.of_eq (List.map_congr_left fun j hj => ?_))
  have hne : j ≠ i := (List.Nodup.mem_erase_iff T.nodup).mp hj |>.1
  rw [Function.update_of_ne hne, Function.update_of_ne hne]

/-- The block of the old value becomes one of the blocks of others. -/
theorem Represents.update (hm : Represents T m e F) (i : ι) (new : String) :
    Represents T
      { m with
        heap := (m.heap.malloc A (.string new)).2
        values := Function.update m.values i (m.heap.malloc A (.string new)).1 }
      { e with values := Function.update e.values i new }
      ((m.values i, .string (e.values i)) :: F) := by
  obtain ⟨rest, hrest⟩ := valueBlocks_split (T := T) m.values e.values i
  have hself := hrest (m.values i) (e.values i)
  rw [Function.update_eq_self, Function.update_eq_self] at hself
  have hmalloc := hm.holds.malloc (A := A) (.string new)
  refine ⟨hmalloc.perm ?_, hm.document, hm.collector, hm.callbacks, hm.calls, hm.notified⟩
  refine List.Perm.trans ?_ ((hrest _ new).symm.append_right _)
  refine List.Perm.cons _ ?_
  refine (hself.append_right _).trans ?_
  exact perm_other _ _ _ _

theorem changeDepth_simulates (depth : ℕ) :
    Simulates T (changeDepth A T S depth)
      (VariableContainer.changeDepth T S depth) := by
  induction depth with
  | zero =>
    intro m e F i p v e' b _ _ _ h
    cases h
  | succ depth ih =>
    intro m e F i p v e' b hm he hp h
    have hcurrent := hm.read_value i
    simp only [VariableContainer.changeDepth] at h
    simp only [changeDepth, hp, hcurrent, Option.bind_eq_bind, Option.bind_some,
      Option.pure_def]
    by_cases hv : v = e.values i
    · rw [if_pos hv] at h ⊢
      obtain ⟨rfl, rfl⟩ := Prod.mk.inj (Option.some.inj h)
      exact ⟨m, rfl, Carried.refl hm he _⟩
    rw [if_neg hv] at h ⊢
    obtain ⟨e₁, hlisteners, hresult⟩ := Option.map_eq_some_iff.mp h
    obtain ⟨rfl, rfl⟩ := Prod.mk.inj hresult
    obtain ⟨m₁, hm₁, hcarried⟩ := callListeners_carried (A := A) (S := S) ih i e.callbacks
      (hm.update (A := A) i v) he (List.mem_cons_self ..) (Function.update_self ..) hlisteners
    obtain ⟨heap, hfree, hrep⟩ := hcarried.represents.free
    rw [← hm.callbacks] at hm₁
    simp only [Function.update_self] at hm₁
    refine ⟨{ m₁ with heap := heap }, ?_, hrep, hcarried.locked, fun j hj hl => ?_⟩
    · simp only [hm₁, hfree, Option.bind_some]
    · have hj' := hcarried.stays j hl hl
      exact ⟨hj'.1.trans (Function.update_of_ne hj _ _),
        hj'.2.trans (Function.update_of_ne hj _ _)⟩

end Simulation

end GMediaRender.ContainerMemory
