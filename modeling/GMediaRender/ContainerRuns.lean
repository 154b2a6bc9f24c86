import GMediaRender.ContainerMemory
import GMediaRender.LastChangeStream

/-!
Whole runs of the container in memory, from the allocation of its values to their
release. An argument may be the address that `VariableContainer_get` gave for a variable
of the same container. No run loads or frees a block that is not allocated, the blocks in
use are the values and the pending document, and the addresses of the variables a run
does not change stay valid.
-/
namespace GMediaRender.ContainerRuns

open XmlDoc VariableContainer OwnedHeap ContainerMemory

variable {ι : Type} [DecidableEq ι]

/-- What a caller passes as a new value. -/
inductive Argument (ι : Type) where
  | null
  | outside (s : String)
  | getVar (j : ι)

inductive Call (ι : Type) where
  | change (i : ι) (value : Argument ι)
  | start
  | finish
  | addIgnore (i : ι)
  | observe (id : ℕ)

namespace Argument

def pointer (T : VariableTable ι) (m : Memory ι) : Argument ι → Pointer
  | .null => .null
  | .outside s => .outside s
  | .getVar j => ContainerMemory.get T m j

def value (T : VariableTable ι) (e : Eventing ι) : Argument ι → Option String
  | .null => none
  | .outside s => some s
  | .getVar j => T.get e.values j

end Argument

section Runs

variable (A : Allocator) (T : VariableTable ι) (S : Node → String)

namespace Call

def inMemory (m : Memory ι) : Call ι → Option (Memory ι)
  | .change i v => (ContainerMemory.change A T S m i (v.pointer T m)).map Prod.fst
  | .start => some (ContainerMemory.start m)
  | .finish => ContainerMemory.finish A T S m
  | .addIgnore i => some (ContainerMemory.addIgnore T m i)
  | .observe id => some { m with callbacks := .observer id :: m.callbacks }

/-- The call on the values that the arguments point to. -/
def op (e : Eventing ι) : Call ι → LastChangeStream.Op ι
  | .change i v => .change i (v.value T e)
  | .start => .start
  | .finish => .finish
  | .addIgnore i => .addIgnore i
  | .observe id => .observe id

def onValues (e : Eventing ι) (c : Call ι) : Option (Eventing ι) :=
  (c.op T e).apply T S e

def changes (c : Call ι) (i : ι) : Prop := ∃ v, c = .change i v

end Call

def runMemory (m : Memory ι) (calls : List (Call ι)) : Option (Memory ι) :=
  calls.foldlM (Call.inMemory A T S) m

def runValues (e : Eventing ι) (calls : List (Call ι)) : Option (Eventing ι) :=
  calls.foldlM (Call.onValues T S) e

/-- Only variables in use are changed, and only open transactions are finished; `n` are
open at the start. -/
def Allowed : ℕ → List (Call ι) → Prop
  | _, [] => True
  | n, .change i _ :: calls => T.name i ≠ none ∧ Allowed n calls
  | n, .start :: calls => Allowed (n + 1) calls
  | n, .finish :: calls => 0 < n ∧ Allowed (n - 1) calls
  | n, .addIgnore _ :: calls => Allowed n calls
  | n, .observe _ :: calls => Allowed n calls

/-- `VariableContainer_new`: the values are duplicated one after the other. -/
def newValue (init : ι → Option String) (c : Heap Cell × (ι → ℕ)) (i : ι) :
    Heap Cell × (ι → ℕ) :=
  let (a, heap) := c.1.malloc A (.string ((init i).getD ""))
  (heap, Function.update c.2 i a)

def newContainer (init : ι → Option String) : Heap Cell × (ι → ℕ) :=
  T.vars.foldl (newValue A init) (Heap.empty, fun _ => 0)

/-- One round of the loop in `UPnPLastChangeCollector_new`. -/
def scanVariable (found : Option ι × Memory ι) (i : ι) : Option (Option ι × Memory ι) :=
  match T.name i with
  | none => some found
  | some name =>
    if name = "LastChange" then some (some i, found.2)
    else (builderAdd A found.2 name (ContainerMemory.get T found.2 i)).map
      fun m => (found.1, m)

/-- `UPnPLastChangeCollector_new`. The index of LastChange is not read before the scan
has found it. -/
def newCollector (container : Heap Cell × (ι → ℕ)) (observers : List ℕ)
    (xmlNamespace : String) : Option (Memory ι) :=
  if T.vars.length < 32 then do
    let (found, m) ← T.vars.foldlM (scanVariable A T) (none,
      ⟨container.1, container.2, ⟨T.lastChange, 0#32, 0, ⟨some xmlNamespace, none⟩⟩,
        observers.map .observer, [], []⟩)
    let lastChange ← found
    let m ← notify A T S
      (addIgnore T { m with collector.lastChangeVariableNum := lastChange } lastChange)
    pure { m with callbacks := .collector :: m.callbacks }
  else none

/-- `VariableContainer_delete` and `UPnPLastChangeBuilder_delete` -/
def delete (m : Memory ι) : Option (Heap Cell) :=
  (T.vars.foldlM (fun (heap : Heap Cell) i => heap.free (m.values i)) m.heap).bind fun heap =>
    match m.collector.builder.changeEventDoc with
    | none => some heap
    | some doc => heap.free doc

end Runs

section Simulation

variable {A : Allocator} {T : VariableTable ι} {S : Node → String}
variable {m : Memory ι} {e : Eventing ι} {F : List (ℕ × Cell)}

omit [DecidableEq ι] in
theorem Argument.readString (hm : Represents T m e F) (v : Argument ι) :
    readString m.heap (orEmpty (v.pointer T m)) = some ((v.value T e).getD "") := by
  cases v with
  | null => rfl
  | outside s => rfl
  | getVar j =>
    simp only [Argument.pointer, Argument.value, ContainerMemory.get, VariableTable.get]
    cases hname : T.name j with
    | none => rfl
    | some name => exact hm.read_value j

theorem newValue_holds (init : ι → Option String) (l done : List ι) (c : Heap Cell × (ι → ℕ))
    (hnodup : (done ++ l).Nodup)
    (hc : c.1.Holds (done.map fun i => (c.2 i, .string ((init i).getD "")))) :
    (l.foldl (newValue A init) c).1.Holds ((done ++ l).map fun i =>
      ((l.foldl (newValue A init) c).2 i, .string ((init i).getD ""))) := by
  induction l generalizing done c with
  | nil => simpa using hc
  | cons i l ih =>
    have hi : i ∉ done := by
      intro hmem
      exact (List.nodup_append.mp hnodup).2.2 i hmem i (List.mem_cons_self ..) rfl
    have hassoc : done ++ i :: l = (done ++ [i]) ++ l := by simp
    rw [hassoc] at hnodup ⊢
    refine ih (done ++ [i]) (newValue A init c i) hnodup ?_
    have hmalloc := hc.malloc (A := A) (.string ((init i).getD ""))
    refine hmalloc.perm ?_
    have hdone : (done.map fun j => ((newValue A init c i).2 j,
        Cell.string ((init j).getD ""))) =
        done.map fun j => (c.2 j, Cell.string ((init j).getD "")) := by
      refine List.map_congr_left fun j hj => ?_
      have hne : j ≠ i := fun hji => hi (hji ▸ hj)
      simp [newValue, Function.update_of_ne hne]
    rw [List.map_append, hdone]
    simp only [List.map_cons, List.map_nil, newValue, Function.update_self]
    exact List.perm_append_singleton _ _ |>.symm

theorem newContainer_holds (init : ι → Option String) :
    (newContainer A T init).1.Holds (valueBlocks T (newContainer A T init).2
      fun i => (init i).getD "") :=
  newValue_holds init T.vars [] (Heap.empty, fun _ => 0) (by simpa using T.nodup)
    Heap.holds_empty

omit [DecidableEq ι] in
/-- The scan adds to the document what the scan of the values adds to the builder. -/
theorem scan_represents (l : List ι) (found : Option ι) (hm : Represents T m e F) :
    ∃ m', l.foldlM (scanVariable A T) (found, m) =
        some ((l.foldl (VariableContainer.scanVariable T e.values)
          (found, e.collector.builder)).1, m') ∧
      m'.values = m.values ∧
      Represents T m' { e with collector.builder :=
        (l.foldl (VariableContainer.scanVariable T e.values) (found, e.collector.builder)).2 }
        F := by
  induction l generalizing m e found with
  | nil => exact ⟨m, rfl, rfl, hm⟩
  | cons i l ih =>
    rw [List.foldlM_cons, List.foldl_cons]
    cases hname : T.name i with
    | none =>
      obtain ⟨m', hm', hvalues, hrep⟩ := ih found hm
      refine ⟨m', ?_, hvalues, ?_⟩
      · simpa [scanVariable, VariableContainer.scanVariable, hname] using hm'
      · simpa [VariableContainer.scanVariable, hname] using hrep
    | some name =>
      by_cases hlast : name = "LastChange"
      · obtain ⟨m', hm', hvalues, hrep⟩ := ih (some i) hm
        refine ⟨m', ?_, hvalues, ?_⟩
        · simpa [scanVariable, VariableContainer.scanVariable, hname, hlast] using hm'
        · simpa [VariableContainer.scanVariable, hname, hlast] using hrep
      · have hget : readString m.heap (ContainerMemory.get T m i) = some (e.values i) := by
          simp only [ContainerMemory.get, hname]
          exact hm.read_value i
        obtain ⟨m₁, hadd, hvalues₁, hm₁⟩ := hm.builderAdd (A := A) name hget
        obtain ⟨m', hm', hvalues, hrep⟩ := ih found hm₁
        refine ⟨m', ?_, hvalues.trans hvalues₁, ?_⟩
        · simpa [scanVariable, VariableContainer.scanVariable, hname, hlast, hadd,
            Collector.add] using hm'
        · simpa [VariableContainer.scanVariable, hname, hlast, Collector.add] using hrep

theorem represents_addIgnore (hm : Represents T m e F) (i : ι) :
    Represents T (addIgnore T m i) { e with collector := e.collector.addIgnore T i } F := by
  refine { hm with collector := ?_ }
  have hcollector := hm.collector
  simp only [ContainerMemory.addIgnore]
  rw [hcollector]
  rfl

omit [DecidableEq ι] in
theorem represents_lastChange (hm : Represents T m e F) (i : ι) :
    Represents T { m with collector.lastChangeVariableNum := i }
      { e with collector := { e.collector with lastChangeVariableNum := i } } F := by
  refine { hm with collector := ?_ }
  have hcollector := hm.collector
  simp only
  rw [hcollector]
  rfl

omit [DecidableEq ι] in
theorem represents_transactions (hm : Represents T m e F) (k : ℕ) :
    Represents T { m with collector.openTransactions := k }
      { e with collector := { e.collector with openTransactions := k } } F := by
  refine { hm with collector := ?_ }
  have hcollector := hm.collector
  simp only
  rw [hcollector]
  rfl

/-- What holds between two calls, with `n` transactions open and the blocks of `F` in the
hands of others. -/
structure Sound (T : VariableTable ι) (F : List (ℕ × Cell)) (m : Memory ι) (e : Eventing ι)
    (n : ℕ) : Prop where
  represents : Represents T m e F
  locked : Locked T e
  registered : e.callbacks.count .collector = 1
  transactions : e.collector.openTransactions = n

theorem newCollector_sound (hT : T.vars.length < 32) (init : ι → Option String)
    (observers : List ℕ) (ns : String) :
    ∃ m e, newCollector A T S (newContainer A T init) observers ns = some m ∧
      VariableContainer.newCollector T S (fun i => (init i).getD "")
        (observers.map .observer) ns = some e ∧ Sound T [] m e 0 := by
  obtain ⟨e, hnew, hcore, hcount⟩ := LastChangeStream.newCollector_core T S ns
    (fun i => (init i).getD "") hT observers
  -- the container before the scan
  have hm : Represents T
      ⟨(newContainer A T init).1, (newContainer A T init).2,
        ⟨T.lastChange, 0#32, 0, ⟨some ns, none⟩⟩, observers.map .observer, [], []⟩
      ⟨⟨fun i => (init i).getD "", ⟨T.lastChange, 0#32, 0, ⟨some ns, []⟩⟩, []⟩,
        observers.map .observer, []⟩ [] := by
    refine ⟨?_, ?_, rfl, rfl, rfl, rfl⟩
    · simpa [documentBlocks] using newContainer_holds (A := A) (T := T) init
    · simp
  obtain ⟨m₁, hscan, -, hm₁⟩ := scan_represents (A := A) T.vars none hm
  rw [LastChangeStream.foldl_scanVariable] at hscan hm₁
  simp only [T.complete, if_true, List.nil_append] at hscan hm₁
  have hm₂ := represents_addIgnore (represents_lastChange hm₁ T.lastChange) T.lastChange
  have hlocked := (@LastChangeStream.initialCollector_ignores ι _ T ns
    (fun i => (init i).getD "") hT T.lastChange).mpr rfl
  rw [VariableContainer.newCollector, if_pos hT, LastChangeStream.foldl_scanVariable] at hnew
  simp only [T.complete, if_true, List.nil_append, Option.bind_some] at hnew
  obtain ⟨e₁, hnotify, rfl⟩ := Option.map_eq_some_iff.mp hnew
  obtain ⟨m₃, hm₃, hcarried⟩ := notifyWith_carried (A := A)
    (changeDepth_simulates (A := A) (T := T) (S := S) 1) hm₂
    ⟨rfl, hlocked⟩ hnotify
  refine ⟨{ m₃ with callbacks := .collector :: m₃.callbacks }, registerCallback e₁ .collector,
    ?_, ?_, ?_⟩
  · simp only [newCollector, if_pos hT, hscan, Option.bind_eq_bind, Option.bind_some,
      ContainerMemory.notify, hm₃, Option.pure_def]
  · rw [VariableContainer.newCollector, if_pos hT, LastChangeStream.foldl_scanVariable]
    simp only [T.complete, if_true, List.nil_append, Option.bind_some, hnotify,
      Option.map_some]
  · have hrep := hcarried.represents
    refine ⟨{ hrep with callbacks := congrArg (Listener.collector :: ·) hrep.callbacks },
      hcarried.locked, hcount, ?_⟩
    have hcol := congrArg Core.collector hcore
    obtain ⟨b, hb⟩ := Core.notify_collector S
      ⟨fun i => (init i).getD "", LastChangeStream.initialCollector T ns
        fun i => (init i).getD "", []⟩
    rw [hb] at hcol
    exact congrArg Collector.openTransactions hcol

theorem Sound.ignores_lastChange {n : ℕ} (hs : Sound T F m e n) :
    e.collector.ignores T e.collector.lastChangeVariableNum = true := by
  rw [hs.locked.1]
  exact hs.locked.2

/-- A change returns in memory what it returns on values, and moves no variable but the one
it changes and LastChange. -/
theorem Sound.change {n : ℕ} (hs : Sound T F m e n) {i : ι} (hname : T.name i ≠ none)
    {p : Pointer} {v : String} (hp : readString m.heap (orEmpty p) = some v) :
    ∃ m' e', ContainerMemory.change A T S m i p = some (m', decide (v ≠ e.values i)) ∧
      VariableContainer.changeDepth T S 2 e i v = some (e', decide (v ≠ e.values i)) ∧
      Sound T F m' e' n ∧
      e'.toCore = e.toCore.change T S i v ∧
      ∀ j, j ≠ i → j ≠ T.lastChange → m'.values j = m.values j := by
  obtain ⟨e', hchange, hcore, hcb⟩ := changeDepth_core T S 0 e i v hname hs.registered
    hs.ignores_lastChange
  obtain ⟨m', hm', hcarried⟩ := changeDepth_simulates (A := A) (T := T) (S := S) 2 m e F i p v e' _
    hs.represents hs.locked hp hchange
  refine ⟨m', e', hm', hchange, ⟨hcarried.represents, hcarried.locked, ?_, ?_⟩, hcore,
    fun j hj hl => (hcarried.stays j hj hl).1⟩
  · rw [hcb]
    exact hs.registered
  · obtain ⟨b, hb⟩ := Core.change_collector T S e.toCore i v
    rw [hcore, hb]
    exact hs.transactions

theorem Sound.start {n : ℕ} (hs : Sound T F m e n) :
    Sound T F (ContainerMemory.start m) (VariableContainer.start e) (n + 1) := by
  have hrep := represents_transactions hs.represents (e.collector.openTransactions + 1)
  refine ⟨?_, hs.locked, hs.registered, congrArg (· + 1) hs.transactions⟩
  rw [ContainerMemory.start, VariableContainer.start, Collector.start,
    hs.represents.openTransactions]
  exact hrep

theorem Sound.finish {n : ℕ} (hs : Sound T F m e (n + 1)) :
    ∃ m' e', ContainerMemory.finish A T S m = some m' ∧
      VariableContainer.finish T S e = some e' ∧ Sound T F m' e' n ∧
      e'.toCore = e.toCore.finish S ∧
      ∀ j, j ≠ T.lastChange → m'.values j = m.values j := by
  have hrep := hs.represents
  have hopen : ¬ e.collector.openTransactions < 1 := by
    have := hs.transactions
    omega
  have hm₁ := represents_transactions hrep (e.collector.openTransactions - 1)
  obtain ⟨e', hnotify, hcore, hcb⟩ := notifyWith_core T S 0
    { e with collector := { e.collector with
        openTransactions := e.collector.openTransactions - 1 } } hs.ignores_lastChange
  obtain ⟨m', hm', hcarried⟩ := notifyWith_carried (A := A)
    (changeDepth_simulates (A := A) (T := T) (S := S) 1) hm₁ hs.locked hnotify
  refine ⟨m', e', ?_, ?_, ⟨hcarried.represents, hcarried.locked, ?_, ?_⟩, hcore,
    fun j hj => (hcarried.stays j hj hj).1⟩
  · simp only [ContainerMemory.finish, hrep.openTransactions, if_neg hopen]
    exact hm'
  · simp only [VariableContainer.finish, if_neg hopen]
    exact hnotify
  · rw [hcb]
    exact hs.registered
  · have hcol := congrArg Core.collector hcore
    obtain ⟨b, hb⟩ := Core.notify_collector S
      { e.toCore with collector := { e.collector with
          openTransactions := e.collector.openTransactions - 1 } }
    rw [hb] at hcol
    rw [hcol]
    have := hs.transactions
    simp only
    omega

theorem Sound.addIgnore (hT : T.vars.length < 32) {n : ℕ} (hs : Sound T F m e n) (i : ι) :
    Sound T F (addIgnore T m i) { e with collector := e.collector.addIgnore T i } n :=
  ⟨represents_addIgnore hs.represents i, ⟨hs.locked.1,
    (Collector.ignores_addIgnore T hT e.collector T.lastChange i).mpr (Or.inl hs.locked.2)⟩,
    hs.registered, hs.transactions⟩

theorem Sound.observe {n : ℕ} (hs : Sound T F m e n) (id : ℕ) :
    Sound T F { m with callbacks := .observer id :: m.callbacks }
      (registerCallback e (.observer id)) n := by
  have hrep := hs.represents
  refine ⟨{ hrep with callbacks := congrArg (Listener.observer id :: ·) hrep.callbacks },
    hs.locked, ?_, hs.transactions⟩
  simpa [registerCallback] using hs.registered

/-- One call returns and moves no variable but the one it changes and LastChange. -/
theorem Sound.call (hT : T.vars.length < 32) {n : ℕ} (hs : Sound T F m e n) (c : Call ι)
    (calls : List (Call ι)) (hallowed : Allowed T n (c :: calls)) :
    ∃ n' m' e', c.inMemory A T S m = some m' ∧ c.onValues T S e = some e' ∧
      Sound T F m' e' n' ∧ Allowed T n' calls ∧
      ∀ j, j ≠ T.lastChange → ¬ c.changes j → m'.values j = m.values j := by
  cases c with
  | change i v =>
    obtain ⟨m', e', hm', he', hs', -, hstays⟩ :=
      hs.change (A := A) (S := S) hallowed.1 (v.readString hs.represents)
    refine ⟨n, m', e', ?_, ?_, hs', hallowed.2, fun j hj hc => hstays j ?_ hj⟩
    · simp [Call.inMemory, hm']
    · simp [Call.onValues, Call.op, LastChangeStream.Op.apply, VariableContainer.change, he']
    · intro hji
      exact hc ⟨v, by rw [hji]⟩
  | start =>
    exact ⟨n + 1, ContainerMemory.start m, VariableContainer.start e, rfl, rfl, hs.start,
      hallowed, fun _ _ _ => rfl⟩
  | finish =>
    obtain ⟨k, rfl⟩ : ∃ k, n = k + 1 := ⟨n - 1, by have := hallowed.1; omega⟩
    obtain ⟨m', e', hm', he', hs', -, hstays⟩ := hs.finish (A := A) (S := S)
    exact ⟨k, m', e', hm', he', hs', hallowed.2, fun j hj _ => hstays j hj⟩
  | addIgnore i =>
    exact ⟨n, ContainerMemory.addIgnore T m i, { e with collector := e.collector.addIgnore T i },
      rfl, rfl, hs.addIgnore hT i, hallowed, fun _ _ _ => rfl⟩
  | observe id =>
    exact ⟨n, { m with callbacks := .observer id :: m.callbacks },
      registerCallback e (.observer id), rfl, rfl, hs.observe id, hallowed, fun _ _ _ => rfl⟩

theorem Sound.run (hT : T.vars.length < 32) (calls : List (Call ι)) {n : ℕ}
    (hs : Sound T F m e n) (hallowed : Allowed T n calls) :
    ∃ n' m' e', runMemory A T S m calls = some m' ∧
      runValues T S e calls = some e' ∧ Sound T F m' e' n' ∧
      ∀ j, j ≠ T.lastChange → (∀ c ∈ calls, ¬ c.changes j) → m'.values j = m.values j := by
  induction calls generalizing m e n with
  | nil => exact ⟨n, m, e, rfl, rfl, hs, fun _ _ _ => rfl⟩
  | cons c calls ih =>
    obtain ⟨n₁, m₁, e₁, hm₁, he₁, hs₁, hallowed₁, hstays₁⟩ :=
      hs.call (A := A) (S := S) hT c calls hallowed
    obtain ⟨n', m', e', hm', he', hs', hstays⟩ := ih hs₁ hallowed₁
    refine ⟨n', m', e', ?_, ?_, hs', fun j hj hc => ?_⟩
    · simp only [runMemory, List.foldlM_cons, hm₁, Option.bind_eq_bind, Option.bind_some]
      exact hm'
    · simp only [runValues, List.foldlM_cons, he₁, Option.bind_eq_bind, Option.bind_some]
      exact he'
    · exact (hstays j hj fun d hd => hc d (List.mem_cons_of_mem _ hd)).trans
        (hstays₁ j hj (hc c (List.mem_cons_self ..)))

omit [DecidableEq ι] in
theorem freeAll (l : List ι) (values : ι → ℕ) (cells : ι → Cell) (h : Heap Cell)
    (hh : h.Holds ((l.map fun i => (values i, cells i)) ++ F)) :
    ∃ h', l.foldlM (fun (heap : Heap Cell) i => heap.free (values i)) h = some h' ∧
      h'.Holds F := by
  induction l generalizing h with
  | nil => exact ⟨h, rfl, hh⟩
  | cons i l ih =>
    obtain ⟨h₁, hfree, hh₁⟩ := Heap.Holds.free hh
    obtain ⟨h', hrest, hh'⟩ := ih h₁ hh₁
    refine ⟨h', ?_, hh'⟩
    simp only [List.foldlM_cons, hfree, Option.bind_eq_bind, Option.bind_some]
    exact hrest

omit [DecidableEq ι] in
theorem delete_holds (hm : Represents T m e F) : ∃ h, delete T m = some h ∧ h.Holds F := by
  obtain ⟨h, hall, hh⟩ := freeAll T.vars m.values (fun i => .string (e.values i)) m.heap hm.holds
  unfold delete
  rw [hall, Option.bind_some]
  cases hdoc : m.collector.builder.changeEventDoc with
  | none =>
    rw [hdoc] at hh
    exact ⟨h, rfl, hh⟩
  | some doc =>
    rw [hdoc] at hh
    exact Heap.Holds.free hh

end Simulation

/-- The container with its collector in memory, for any way of choosing addresses: every
allowed run returns, with the values and the listeners' calls of the run on values, and
the blocks in use are the values and the pending document. The address of a variable that
the run does not change stays its address. Deleting the container and its builder leaves
no block. -/
theorem container_memory (A : Allocator) (T : VariableTable ι) (S : Node → String)
    (hT : T.vars.length < 32) (init : ι → Option String) (observers : List ℕ) (ns : String)
    (calls : List (Call ι)) (hcalls : Allowed T 0 calls) :
    ∃ m₀ e₀ m e,
      newCollector A T S (newContainer A T init) observers ns = some m₀ ∧
      VariableContainer.newCollector T S (fun i => (init i).getD "")
        (observers.map .observer) ns = some e₀ ∧
      runMemory A T S m₀ calls = some m ∧ runValues T S e₀ calls = some e ∧
      Represents T m e [] ∧
      (∀ j, j ≠ T.lastChange → (∀ c ∈ calls, ¬ c.changes j) → m.values j = m₀.values j) ∧
      ∃ h, delete T m = some h ∧ h.Holds [] := by
  obtain ⟨m₀, e₀, hm₀, he₀, hs₀⟩ := newCollector_sound (A := A) (S := S) hT init
    observers ns
  obtain ⟨n, m, e, hm, he, hs, hstays⟩ := hs₀.run (A := A) (S := S) hT calls hcalls
  exact ⟨m₀, e₀, m, e, hm₀, he₀, hm, he, hs.represents, hstays, delete_holds hs.represents⟩

/-- A transaction in which a variable is set to what another one was just set to. -/
theorem container_memory_alias :
    ∃ m₀ e₀ m e,
      newCollector nextAddress UpnpTransport.transportTable ixmlDocumentToString
        (newContainer nextAddress UpnpTransport.transportTable
          fun i => some (UpnpTransport.transportDefaultValues i)) [0] "AVT" = some m₀ ∧
      VariableContainer.newCollector UpnpTransport.transportTable ixmlDocumentToString
        (fun i => UpnpTransport.transportDefaultValues i) [.observer 0] "AVT" = some e₀ ∧
      runMemory nextAddress UpnpTransport.transportTable ixmlDocumentToString m₀
        [.start, .change .avUri (.outside "http://a"), .change .curTrackUri (.getVar .avUri),
          .finish] = some m ∧
      runValues UpnpTransport.transportTable ixmlDocumentToString e₀
        [.start, .change .avUri (.outside "http://a"), .change .curTrackUri (.getVar .avUri),
          .finish] = some e ∧
      Represents UpnpTransport.transportTable m e [] := by
  obtain ⟨m₀, e₀, m, e, hm₀, he₀, hm, he, hrep, -⟩ := container_memory nextAddress
    UpnpTransport.transportTable ixmlDocumentToString (by decide)
    (fun i => some (UpnpTransport.transportDefaultValues i)) [0] "AVT"
    [.start, .change .avUri (.outside "http://a"), .change .curTrackUri (.getVar .avUri), .finish]
    ⟨by decide, by decide, by decide, trivial⟩
  exact ⟨m₀, e₀, m, e, hm₀, he₀, hm, he, hrep⟩

end GMediaRender.ContainerRuns
