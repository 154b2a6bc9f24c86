import GMediaRender.EventHistory
import GMediaRender.TransportMemory

/-!
What it means that the AVTransport service in memory holds a state of the service on values,
and that the operations its handlers are made of keep it so. `PointsTo` says which variable's
value a pointer is the address of: such a pointer stays good until that variable is written.
-/
namespace GMediaRender.TransportMemory

open XmlDoc VariableContainer StateVariables ActionRequest OutputSilan UpnpTransport
  OwnedHeap ContainerMemory ContainerRuns EventHistory

section Refinement

/-- The block of a URI that is kept. -/
def uriBlocks : Option ℕ → Option String → List (ℕ × Cell)
  | some a, some s => [(a, .string s)]
  | _, _ => []

/-- Where a run is looked at from: the container, and the changes there were before. -/
structure Origin where
  eventing : Eventing TransportVar
  changes : List (Change TransportVar)

/-- The container has come from the origin by transactions and the changes since then. -/
def Since (S : Node → String) (o : Origin) (changes : List (Change TransportVar))
    (e : Eventing TransportVar) : Prop :=
  ∃ log, Evolves transportTable S o.eventing log e ∧ changes = o.changes ++ log

/-- The container holds the service's values in `n` transactions, beside the blocks `F`; it has
come from the origin `e₀` by the changes that the service has made since then. -/
def Holding (S : Node → String) (e₀ : Origin) (m : ServiceMemory)
    (s : AvTransport) (n : ℕ) (F : List (ℕ × Cell)) : Prop :=
  ∃ e, Sound transportTable F m.container e n ∧
    (∀ i, i ≠ .lastChange → e.values i = s.vars.values i) ∧ Since S e₀ s.vars.changes e

/-- The module's data with its two strings. -/
def withUris (d : SilanData) (uri uriNext : Option String) : SilanData :=
  { d with uri := uri, uriNext := uriNext }

/-- The service in memory holds the state of the service on values, in `n` transactions. -/
structure Refines (S : Node → String) (e₀ : Origin) (m : ServiceMemory)
    (s : AvTransport) (n : ℕ) : Prop where
  state : m.transportState = s.transportState
  silan : s.silan = withUris m.silan s.silan.uri s.silan.uriNext
  uri : m.uri = none ↔ s.silan.uri = none
  uriNext : m.uriNext = none ↔ s.silan.uriNext = none
  container : Holding S e₀ m s n
    (uriBlocks m.uri s.silan.uri ++ uriBlocks m.uriNext s.silan.uriNext)

/-- A pointer that reads as a string, and the variable whose value it is, if of one. -/
inductive PointsTo (m : ServiceMemory) (s : AvTransport) :
    Pointer → String → Option TransportVar → Prop
  | null : PointsTo m s .null "" none
  | outside (v : String) : PointsTo m s (.outside v) v none
  | value (j : TransportVar) (hj : j ≠ .lastChange) :
      PointsTo m s (.block (m.container.values j)) (s.vars.values j) (some j)

/-- Pointers stay good unless they are to the values of the variables that are written. -/
def Kept (W : List TransportVar) (m : ServiceMemory) (s : AvTransport) (m' : ServiceMemory)
    (s' : AvTransport) : Prop :=
  ∀ p v o, PointsTo m s p v o → (∀ j ∈ W, o ≠ some j) → PointsTo m' s' p v o

/-- A variable that handlers may change. -/
def Plain (i : TransportVar) : Prop := transportTable.name i ≠ none ∧ i ≠ .lastChange

instance (i : TransportVar) : Decidable (Plain i) :=
  inferInstanceAs (Decidable (transportTable.name i ≠ none ∧ i ≠ .lastChange))

variable {A : Allocator} {S : Node → String} {e₀ : Origin}
variable {m m' m'' : ServiceMemory} {s s' s'' : AvTransport} {n : ℕ}
variable {p : Pointer} {v : String} {o : Option TransportVar}

theorem Kept.trans {W W' : List TransportVar} (h : Kept W m s m' s')
    (h' : Kept W' m' s' m'' s'') : Kept (W ++ W') m s m'' s'' := by
  intro p v o hp ho
  exact h' p v o (h p v o hp fun j hj => ho j (List.mem_append_left _ hj))
    fun j hj => ho j (List.mem_append_right _ hj)

theorem Refines.read (h : Refines S e₀ m s n) (hp : PointsTo m s p v o) :
    readString m.container.heap (orEmpty p) = some v := by
  obtain ⟨e, hs, hvalues, -⟩ := h.container
  cases hp with
  | null => rfl
  | outside v => rfl
  | value j hj =>
    rw [← hvalues j hj]
    exact hs.represents.read_value j

theorem Refines.read_of_ne (h : Refines S e₀ m s n) (hp : PointsTo m s p v o)
    (hnull : p ≠ .null) : readString m.container.heap p = some v := by
  have hread := h.read hp
  cases p with
  | null => exact absurd rfl hnull
  | outside v => exact hread
  | block a => exact hread

theorem pointsTo_getVar (m : ServiceMemory) (s : AvTransport) {j : TransportVar}
    (hj : Plain j) : PointsTo m s (getVar m j) (s.vars.values j) (some j) ∧
      getVar m j ≠ .null := by
  obtain ⟨name, hname⟩ := Option.ne_none_iff_exists'.mp hj.1
  simp only [getVar, ContainerMemory.get, hname]
  exact ⟨.value j hj.2, fun h => by cases h⟩

theorem Refines.countTracks (h : Refines S e₀ m s n) (hp : PointsTo m s p v o) :
    countTracks m p = some (tracks v) := by
  cases hp with
  | null => rfl
  | outside v => rfl
  | value j hj =>
    have hread := h.read (.value j hj)
    simp only [orEmpty] at hread
    simp only [TransportMemory.countTracks, hread, Option.map_some]

/-- The change of a variable by any pointer that is good. -/
theorem Refines.replaceVar (h : Refines S e₀ m s n) {i : TransportVar} (hi : Plain i)
    (hp : PointsTo m s p v o) :
    ∃ m', replaceVar A S m i p = some (m', (s.vars.change i v).2) ∧
      Refines S e₀ m' { s with vars := s.vars.replaceVar i v } n ∧
      Kept [i] m s m' { s with vars := s.vars.replaceVar i v } := by
  obtain ⟨e, hs, hvalues, hevolves⟩ := h.container
  obtain ⟨c', e', hc', he', hs', hcore, hstays⟩ :=
    hs.change (A := A) (S := S) hi.1 (h.read hp)
  have happly : LastChangeStream.Op.apply transportTable S e (.change i (some v)) = some e' := by
    simp [LastChangeStream.Op.apply, VariableContainer.change, he']
  have hstored : ∀ j, j ≠ .lastChange →
      e'.values j = (s.vars.replaceVar i v).values j := by
    intro j hj
    have hlast : j ≠ e.collector.lastChangeVariableNum := by
      rw [hs.locked.1]
      exact hj
    have hcorej := core_change_values transportTable S e.toCore i v hi.1 j hlast
    rw [hcore, hcorej, Store.replaceVar_values]
    by_cases hji : j = i
    · subst hji
      rw [Function.update_self, Function.update_self]
    · rw [Function.update_of_ne hji, Function.update_of_ne hji]
      exact hvalues j hj
  obtain ⟨log, hevolves, hchanges⟩ := hevolves
  have hsince : Since S e₀ (s.vars.replaceVar i v).changes e' := by
    refine ⟨_, hevolves.change i (some v) hi.1 hi.2 happly, ?_⟩
    rw [Store.replaceVar_changes, Store.replaceVar_changes, hchanges, List.append_assoc,
      ← hvalues i hi.2]
    rfl
  refine ⟨{ m with container := c' }, ?_, ⟨h.state, h.silan, h.uri, h.uriNext, e', hs', hstored,
    hsince⟩, ?_⟩
  · rw [TransportMemory.replaceVar, hc', Option.map_some, Store.change_snd, hvalues i hi.2]
  · intro q w o hq ho
    cases hq with
    | null => exact .null
    | outside w => exact .outside w
    | value j hj =>
      have hji : j ≠ i := fun hji => ho i (List.mem_singleton_self i) (by rw [hji])
      have haddress : c'.values j = m.container.values j := hstays j hji hj
      have hvalue : (s.vars.replaceVar i v).values j = s.vars.values j := by
        rw [Store.replaceVar_values, Function.update_of_ne hji]
      have hto := PointsTo.value (m := { m with container := c' })
        (s := { s with vars := s.vars.replaceVar i v }) j hj
      simp only [haddress, hvalue] at hto
      exact hto

theorem Refines.serviceLock (h : Refines S e₀ m s n) : Refines S e₀ (serviceLock m) s (n + 1) := by
  obtain ⟨e, hs, hvalues, log, hevolves, hchanges⟩ := h.container
  exact ⟨h.state, h.silan, h.uri, h.uriNext, VariableContainer.start e, hs.start, hvalues,
    log, hevolves.start, hchanges⟩

theorem Refines.serviceUnlock (h : Refines S e₀ m s (n + 1)) :
    ∃ m', serviceUnlock A S m = some m' ∧ Refines S e₀ m' s n := by
  obtain ⟨e, hs, hvalues, log, hevolves, hchanges⟩ := h.container
  obtain ⟨c', e', hc', he', hs', hcore, -⟩ := hs.finish (A := A) (S := S)
  refine ⟨{ m with container := c' }, ?_, h.state, h.silan, h.uri, h.uriNext, e', hs',
    fun i hi => ?_, log, hevolves.finish he', hchanges⟩
  · rw [TransportMemory.serviceUnlock, hc', Option.map_some]
  · have hlast : i ≠ e.collector.lastChangeVariableNum := by
      rw [hs.locked.1]
      exact hi
    have hfinish : (e.toCore.finish S).values i = e.values i :=
      core_notify_values S { e.toCore with collector := { e.collector with
        openTransactions := e.collector.openTransactions - 1 } } i hlast
    rw [hcore, hfinish]
    exact hvalues i hi

theorem Refines.replaceTransportUriAndMeta (h : Refines S e₀ m s n) {uri metadata : Pointer}
    {u w : String} {ou ow : Option TransportVar} (hu : PointsTo m s uri u ou)
    (hw : PointsTo m s metadata w ow) (hnull : metadata ≠ .null)
    (hou : ∀ j ∈ [TransportVar.avUri, .avUriMeta, .nrTracks], ou ≠ some j)
    (how : ∀ j ∈ [TransportVar.avUri, .avUriMeta, .nrTracks], ow ≠ some j) :
    ∃ m', replaceTransportUriAndMeta A S m uri metadata = some m' ∧
      Refines S e₀ m' { s with vars := UpnpTransport.replaceTransportUriAndMeta s.vars u w } n ∧
      Kept [.avUri, .avUriMeta, .nrTracks] m s m'
        { s with vars := UpnpTransport.replaceTransportUriAndMeta s.vars u w } := by
  obtain ⟨m₁, hm₁, h₁, hkept₁⟩ :=
    h.replaceVar (A := A) (S := S) (i := .avUri) (by decide) hu
  have hu₁ := hkept₁ _ _ _ hu fun j hj => hou j (by simp_all)
  have hw₁ := hkept₁ _ _ _ hw fun j hj => how j (by simp_all)
  obtain ⟨m₂, hm₂, h₂, hkept₂⟩ :=
    h₁.replaceVar (A := A) (S := S) (i := .avUriMeta) (by decide) hw₁
  have hu₂ := hkept₂ _ _ _ hu₁ fun j hj => hou j (by simp_all)
  have hw₂ := hkept₂ _ _ _ hw₁ fun j hj => how j (by simp_all)
  obtain ⟨m₃, hm₃, h₃, hkept₃⟩ := h₂.replaceVar (A := A) (S := S)
    (i := .nrTracks) (by decide) (.outside (tracks u))
  have hw₃ := hkept₃ _ _ _ hw₂ fun j hj => how j (by simp_all)
  have hread := h₃.read_of_ne hw₃ hnull
  refine ⟨m₃, ?_, h₃, (hkept₁.trans hkept₂).trans hkept₃⟩
  simp only [TransportMemory.replaceTransportUriAndMeta, hm₁, hm₂, h₂.countTracks hu₂, hm₃, hread,
    Option.bind_eq_bind, Option.bind_some, Option.pure_def]

theorem Refines.replaceCurrentUriAndMeta (h : Refines S e₀ m s n) {uri metadata : Pointer}
    {u w : String} {ou ow : Option TransportVar} (hu : PointsTo m s uri u ou)
    (hw : PointsTo m s metadata w ow)
    (hou : ∀ j ∈ [TransportVar.curTrack, .curTrackUri, .curTrackMeta], ou ≠ some j)
    (how : ∀ j ∈ [TransportVar.curTrack, .curTrackUri, .curTrackMeta], ow ≠ some j) :
    ∃ m', replaceCurrentUriAndMeta A S m uri metadata = some m' ∧
      Refines S e₀ m' { s with vars := UpnpTransport.replaceCurrentUriAndMeta s.vars u w } n ∧
      Kept [.curTrack, .curTrackUri, .curTrackMeta] m s m'
        { s with vars := UpnpTransport.replaceCurrentUriAndMeta s.vars u w } := by
  obtain ⟨m₁, hm₁, h₁, hkept₁⟩ := h.replaceVar (A := A) (S := S)
    (i := .curTrack) (by decide) (.outside (tracks u))
  have hu₁ := hkept₁ _ _ _ hu fun j hj => hou j (by simp_all)
  have hw₁ := hkept₁ _ _ _ hw fun j hj => how j (by simp_all)
  obtain ⟨m₂, hm₂, h₂, hkept₂⟩ :=
    h₁.replaceVar (A := A) (S := S) (i := .curTrackUri) (by decide) hu₁
  have hw₂ := hkept₂ _ _ _ hw₁ fun j hj => how j (by simp_all)
  obtain ⟨m₃, hm₃, h₃, hkept₃⟩ :=
    h₂.replaceVar (A := A) (S := S) (i := .curTrackMeta) (by decide) hw₂
  refine ⟨m₃, ?_, h₃, (hkept₁.trans hkept₂).trans hkept₃⟩
  simp only [TransportMemory.replaceCurrentUriAndMeta, h.countTracks hu, hm₁, hm₂, hm₃,
    Option.bind_eq_bind, Option.bind_some, Option.pure_def]

theorem Refines.changeTransportState (h : Refines S e₀ m s n) (new : TransportState)
    (hnew : new ≠ .noMediaPresent) :
    ∃ m', changeTransportState A S m new = some m' ∧
      Refines S e₀ m' (UpnpTransport.changeTransportState s new hnew) n := by
  have hstate : Refines S e₀ { m with transportState := new } { s with transportState := new } n :=
    ⟨rfl, h.silan, h.uri, h.uriNext, h.container⟩
  obtain ⟨m₁, hm₁, h₁, -⟩ := hstate.replaceVar (A := A) (S := S)
    (i := .transportState) (by decide) (.outside (transportStates new))
  simp only [TransportMemory.changeTransportState, hm₁, Option.bind_eq_bind, Option.bind_some,
    Option.pure_def]
  unfold UpnpTransport.changeTransportState
  simp only [Store.change_fst]
  by_cases hchanged : (s.vars.change .transportState (transportStates new)).2 = true
  · rw [if_pos hchanged]
    simp only [if_pos hchanged]
    cases availableActions new with
    | none => exact ⟨m₁, rfl, h₁⟩
    | some actions =>
      obtain ⟨m₂, hm₂, h₂, -⟩ := h₁.replaceVar (A := A) (S := S)
        (i := .curTransportActions) (by decide) (.outside actions)
      refine ⟨m₂, ?_, h₂⟩
      simp only [hm₂, Option.bind_some]
  · rw [if_neg hchanged]
    simp only [if_neg hchanged]
    exact ⟨m₁, rfl, h₁⟩

end Refinement

section Output

variable {A : Allocator} {S : Node → String} {e₀ : Origin}
variable {m : ServiceMemory} {s : AvTransport} {n : ℕ}

theorem storeData_withUris (d : SilanData) (u w : Option String) (b : StatusBit) (param : ℤ) :
    (withUris d u w).storeData b param = withUris (d.storeData b param) u w := by
  cases b <;> rfl

theorem arrive_withUris (b : StatusBit) (reply : Option (ℕ × ℤ)) (cnt : ℕ) (d : SilanData)
    (u w : Option String) :
    arrive b reply cnt (withUris d u w) = withUris (arrive b reply cnt d) u w := by
  unfold arrive
  cases reply with
  | none => rfl
  | some r =>
    simp only [storeData_withUris]
    split_ifs <;> rfl

theorem waitData_withUris (b : StatusBit) (reply : Option (ℕ × ℤ)) (left cnt : ℕ)
    (d : SilanData) (u w : Option String) :
    waitData b reply left cnt (withUris d u w) =
      (withUris (waitData b reply left cnt d).1 u w, (waitData b reply left cnt d).2) := by
  induction left generalizing cnt d with
  | zero => rfl
  | succ left ih =>
    have hstatus : (withUris d u w).status = d.status := rfl
    simp only [waitData, hstatus, arrive_withUris]
    split_ifs
    · exact ih _ _
    · rfl

/-- Sending a command does not look at the strings, and leaves them. -/
theorem sendCmd_withUris (env : Env) (d : SilanData) (u w : Option String) (cmd : Cmd)
    (param : ℤ) (data : Option String) :
    outputSilanSendCmd env (withUris d u w) cmd param data =
      (withUris (outputSilanSendCmd env d cmd param data).1 u w,
        (outputSilanSendCmd env d cmd param data).2) := by
  cases hbit : cmd.bit with
  | none =>
    rw [sendCmd_of_bit_none env _ cmd param data hbit,
      sendCmd_of_bit_none env d cmd param data hbit]
    rfl
  | some b =>
    rw [sendCmd_of_bit env _ cmd param data hbit, sendCmd_of_bit env d cmd param data hbit]
    have hset : ((withUris d u w).setStatus b true).record
        ⟨cmd, param, data, (env cmd).msgsnd⟩ =
        withUris ((d.setStatus b true).record ⟨cmd, param, data, (env cmd).msgsnd⟩) u w := rfl
    simp only [hset, arrive_withUris, waitData_withUris]
    split_ifs <;> rfl

/-- The service on values with another state of the output module. -/
theorem Refines.setSilan {F : List (ℕ × Cell)} {d : SilanData} (h : Holding S e₀ m s n F)
    (hstate : m.transportState = s.transportState)
    (hd : d = withUris m.silan d.uri d.uriNext) (huri : m.uri = none ↔ d.uri = none)
    (hnext : m.uriNext = none ↔ d.uriNext = none)
    (hF : F = uriBlocks m.uri d.uri ++ uriBlocks m.uriNext d.uriNext) :
    Refines S e₀ m { s with silan := d } n :=
  ⟨hstate, hd, huri, hnext, hF ▸ h⟩

theorem Holding.release {F : List (ℕ × Cell)} {a : Option ℕ} {u : Option String}
    (hiff : a = none ↔ u = none) (h : Holding S e₀ m s n (uriBlocks a u ++ F)) :
    ∃ heap, release m a = some (m.setHeap heap) ∧ Holding S e₀ (m.setHeap heap) s n F := by
  cases a with
  | none =>
    have hu := hiff.mp rfl
    subst hu
    exact ⟨m.container.heap, rfl, h⟩
  | some a =>
    cases u with
    | none => exact absurd (hiff.mpr rfl) (by simp)
    | some u =>
      obtain ⟨e, hs, hvalues⟩ := h
      obtain ⟨heap, hfree, hrep⟩ := Represents.free hs.represents
      refine ⟨heap, ?_, e, ⟨hrep, hs.locked, hs.registered, hs.transactions⟩, hvalues⟩
      simp only [TransportMemory.release, hfree, Option.map_some]

theorem Holding.keepCopy {F : List (ℕ × Cell)} (h : Holding S e₀ m s n F) (u : String) :
    ∃ c heap, keepCopy A m (.outside u) = some (c, m.setHeap heap) ∧
      (c = none ↔ nonEmpty u = none) ∧
      Holding S e₀ (m.setHeap heap) s n (uriBlocks c (nonEmpty u) ++ F) := by
  by_cases hu : u = ""
  · refine ⟨none, m.container.heap, ?_, by simp [nonEmpty, hu], ?_⟩
    · simp only [TransportMemory.keepCopy, readString, Option.bind_eq_bind, Option.bind_some,
        if_pos hu, Option.pure_def]
      rfl
    · have hF : uriBlocks none (nonEmpty u) ++ F = F := by simp [uriBlocks]
      rw [hF]
      exact h
  · obtain ⟨e, hs, hvalues⟩ := h
    have hmalloc := Represents.malloc (A := A) hs.represents (.string u)
    refine ⟨some (m.container.heap.malloc A (.string u)).1,
      (m.container.heap.malloc A (.string u)).2, ?_, by simp [nonEmpty, hu], e, ?_, hvalues⟩
    · simp only [TransportMemory.keepCopy, readString, Option.bind_eq_bind, Option.bind_some,
        if_neg hu, Option.pure_def]
    · have hF : uriBlocks (some (m.container.heap.malloc A (.string u)).1) (nonEmpty u) ++ F =
          ((m.container.heap.malloc A (.string u)).1, .string u) :: F := by
        simp [nonEmpty, hu, uriBlocks]
      rw [hF]
      exact ⟨hmalloc, hs.locked, hs.registered, hs.transactions⟩

theorem Holding.perm {F G : List (ℕ × Cell)} (h : Holding S e₀ m s n F) (hFG : F.Perm G) :
    Holding S e₀ m s n G := by
  obtain ⟨e, hs, hvalues⟩ := h
  exact ⟨e, ⟨hs.represents.perm hFG, hs.locked, hs.registered, hs.transactions⟩, hvalues⟩

theorem Refines.silanSetUri (h : Refines S e₀ m s n) (u : String) :
    ∃ m', silanSetUri A m (.outside u) = some m' ∧
      Refines S e₀ m' { s with silan := outputSilanSetUri s.silan u } n := by
  obtain ⟨heap, hrelease, hheld⟩ := Holding.release h.uri h.container
  obtain ⟨c, heap', hcopy, hiff, hheld'⟩ := Holding.keepCopy (A := A) hheld u
  refine ⟨{ (m.setHeap heap).setHeap heap' with uri := c }, ?_, ?_⟩
  · simp only [TransportMemory.silanSetUri, hrelease, hcopy, Option.bind_eq_bind,
      Option.bind_some, Option.pure_def]
  · refine ⟨h.state, ?_, hiff, h.uriNext, hheld'⟩
    have hsilan := h.silan
    simp only [outputSilanSetUri]
    rw [hsilan]
    rfl

theorem Refines.silanSetNextUri (h : Refines S e₀ m s n) (u : String) :
    ∃ m', silanSetNextUri A m (.outside u) = some m' ∧
      Refines S e₀ m' { s with silan := outputSilanSetNextUri s.silan u } n := by
  obtain ⟨heap, hrelease, hheld⟩ :=
    Holding.release h.uriNext (h.container.perm List.perm_append_comm)
  obtain ⟨c, heap', hcopy, hiff, hheld'⟩ := Holding.keepCopy (A := A) hheld u
  refine ⟨{ (m.setHeap heap).setHeap heap' with uriNext := c }, ?_, ?_⟩
  · simp only [TransportMemory.silanSetNextUri, hrelease, hcopy, Option.bind_eq_bind,
      Option.bind_some, Option.pure_def]
  · refine ⟨h.state, ?_, h.uri, hiff, hheld'.perm List.perm_append_comm⟩
    have hsilan := h.silan
    simp only [outputSilanSetNextUri]
    rw [hsilan]
    rfl

/-- A command without a string. -/
theorem Refines.silanSend (h : Refines S e₀ m s n) (env : Env) (cmd : Cmd) (param : ℤ) :
    ∃ m', silanSend env m cmd param none =
        some (m', (outputSilanSendCmd env s.silan cmd param none).2) ∧
      Refines S e₀ m' { s with silan := (outputSilanSendCmd env s.silan cmd param none).1 } n := by
  have hsend := sendCmd_withUris env m.silan s.silan.uri s.silan.uriNext cmd param none
  rw [← h.silan] at hsend
  refine ⟨{ m with silan := (outputSilanSendCmd env m.silan cmd param none).1 }, ?_, ?_⟩
  · simp only [TransportMemory.silanSend, Option.bind_eq_bind, Option.bind_some, Option.pure_def,
      hsend]
  · rw [hsend]
    exact ⟨h.state, rfl, h.uri, h.uriNext, h.container⟩

/-- A URI is sent while its block is there, and freed after it. -/
theorem Refines.silanPlay (h : Refines S e₀ m s n) (env : Env) :
    ∃ m', silanPlay env m = some (m', (outputSilanPlay env s.silan).2) ∧
      Refines S e₀ m' { s with silan := (outputSilanPlay env s.silan).1 } n := by
  cases hm : m.uri with
  | none =>
    have hs := h.uri.mp hm
    rw [outputSilanPlay_none env s.silan hs]
    have hstate : s.silan.state = m.silan.state := by rw [h.silan]; rfl
    simp only [TransportMemory.silanPlay, hm, hstate]
    by_cases hpause : m.silan.state = slmpStatePause
    · simp only [if_pos hpause]
      exact h.silanSend env .slmpPause 0
    · simp only [if_neg hpause]
      exact ⟨m, rfl, h⟩
  | some a =>
    have hsome : s.silan.uri ≠ none := by
      intro hnone
      rw [h.uri.mpr hnone] at hm
      cases hm
    obtain ⟨u, hu⟩ := Option.ne_none_iff_exists'.mp hsome
    have hheld := h.container
    rw [hm, hu] at hheld
    obtain ⟨e, hsound, hvalues⟩ := hheld
    have hread := hsound.represents.read_other (a := a) (s := u) (by simp [uriBlocks])
    let sent : SentCmd := ⟨.slmpPlayUri, 0, some u, (env .slmpPlayUri).msgsnd⟩
    have hheld' : Holding S e₀ { m with silan := (resetPosition m.silan).record sent } s n
        (uriBlocks (some a) (some u) ++ uriBlocks m.uriNext s.silan.uriNext) := by
      have hcontainer := h.container
      rw [hm, hu] at hcontainer
      exact hcontainer
    obtain ⟨heap, hrelease, hfreed⟩ := Holding.release (by simp) hheld'
    have hsend : outputSilanSendCmd env (resetPosition m.silan) .slmpPlayUri 0 (some u) =
        ((resetPosition m.silan).record sent, if (env .slmpPlayUri).msgsnd then 0 else -1) :=
      sendCmd_of_bit_none env (resetPosition m.silan) .slmpPlayUri 0 (some u) rfl
    simp only [hm] at hrelease
    rw [outputSilanPlay_some env s.silan u hu]
    refine ⟨{ ServiceMemory.setHeap
      { m with silan := (resetPosition m.silan).record sent } heap with uri := none }, ?_, ?_⟩
    · simp only [TransportMemory.silanPlay, TransportMemory.silanSend, hm, hread, hsend, hrelease,
        Option.bind_eq_bind, Option.bind_some, Option.map_some, Option.pure_def]
    · refine ⟨h.state, ?_, by simp [playedUri], h.uriNext, hfreed⟩
      have hsilan := h.silan
      simp only [playedUri]
      rw [hsilan]
      rfl

end Output

end GMediaRender.TransportMemory
