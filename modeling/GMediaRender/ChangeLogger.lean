import GMediaRender.NotificationTrace

/-!
The change logger of main.c, and the calls it gets from a container. Before it looks at the
name of the variable it reads the last byte of the value. A container calls its listeners with
the values it is changed to and with the documents of its collector, so the changes that a
service records decide what the logger reads.
-/
namespace GMediaRender.ChangeLogger

open XmlDoc VariableContainer LastChangeStream StateVariables NotificationTrace

section Logger

/-- `size_t`, of which C promises 16 bits. -/
structure SizeT where
  sizeMax : ℕ
  enough : 65535 ≤ sizeMax

def SizeT.bits32 : SizeT := ⟨4294967295, by decide⟩

/-- Subtraction wraps around. -/
def SizeT.sub (w : SizeT) (a b : ℕ) : ℕ := (a + (w.sizeMax + 1) - b) % (w.sizeMax + 1)

def strlen (value : String) : ℕ := value.utf8ByteSize

/-- The bytes of a value with the NUL that ends them. -/
def cString (value : String) : ByteArray := value.toUTF8.push 0

/-- `log_variable_change`: the text that is logged, if any; `none` when the byte it reads is
outside the value. -/
def logVariableChange (w : SizeT) (colorAllowed : Bool) (variableName variableValue : String) :
    Option (Option String) :=
  (cString variableValue)[w.sub (strlen variableValue) 1]?.map fun last =>
    let needsNewline := last ≠ 10
    let varStart := if colorAllowed then "\x1b[1m\x1b[34m" else ""
    let varEnd := if colorAllowed then "\x1b[0m" else ""
    if variableName = "LastChange" then none
    else some (varStart ++ variableName ++ varEnd ++ ": " ++ variableValue ++
      if needsNewline then "\n" else "")

/-- The logger reads inside a value, whatever the name of the variable. -/
def ReadsInside (w : SizeT) (value : String) : Prop :=
  ∀ colorAllowed name, (logVariableChange w colorAllowed name value).isSome = true

theorem logVariableChange_isSome (w : SizeT) (colorAllowed : Bool) (name value : String) :
    (logVariableChange w colorAllowed name value).isSome = true ↔
      w.sub (strlen value) 1 < (cString value).size := by
  simp [logVariableChange]

theorem readsInside_iff (w : SizeT) (value : String) : ReadsInside w value ↔ value ≠ "" := by
  have hindex : ReadsInside w value ↔ w.sub (strlen value) 1 < (cString value).size := by
    simp only [ReadsInside, logVariableChange_isSome, forall_const]
  have hsize : (cString value).size = strlen value + 1 := by
    simp [cString, strlen]
  have henough := w.enough
  rw [hindex, hsize, SizeT.sub]
  constructor
  · rintro h rfl
    have hzero : strlen "" = 0 := rfl
    rw [hzero, Nat.mod_eq_of_lt (by omega)] at h
    omega
  · intro hne
    have hpos : 0 < strlen value := by
      rw [strlen, Nat.pos_iff_ne_zero]
      simpa using hne
    have hsub : strlen value + (w.sizeMax + 1) - 1 = strlen value - 1 + (w.sizeMax + 1) := by
      omega
    rw [hsub, Nat.add_mod_right]
    have hle := Nat.mod_le (strlen value - 1) (w.sizeMax + 1)
    omega

end Logger

section Calls

variable {ι : Type} [DecidableEq ι] {T : VariableTable ι} {serialise : Node → String}

/-- Calls are only added, and the new ones are about values of a kind. -/
structure Adds (P : String → Prop) (s s' : Eventing ι) : Prop where
  kept : ∀ call ∈ s.calls, call ∈ s'.calls
  new : ∀ call ∈ s'.calls, call ∈ s.calls ∨ P call.newValue

variable {P : String → Prop} {s s' s'' : Eventing ι}

omit [DecidableEq ι] in
theorem Adds.of_eq (h : s'.calls = s.calls) : Adds P s s' :=
  ⟨fun _ hcall => h ▸ hcall, fun _ hcall => Or.inl (h ▸ hcall)⟩

omit [DecidableEq ι] in
theorem Adds.trans (h : Adds P s s') (h' : Adds P s' s'') : Adds P s s'' := by
  refine ⟨fun call hcall => h'.kept call (h.kept call hcall), fun call hcall => ?_⟩
  rcases h'.new call hcall with hold | hnew
  · exact h.new call hold
  · exact Or.inr hnew

variable (hdoc : ∀ doc, P (serialise doc))
include hdoc

/-- A container operation that adds calls about values of the kind when it is given one. -/
def AddsWhen (P : String → Prop)
    (change : Eventing ι → ι → String → Option (Eventing ι × Bool)) : Prop :=
  ∀ s i value r, P value → change s i value = some r → Adds P s r.1

omit [DecidableEq ι] in
theorem adds_notifyWith {change : Eventing ι → ι → String → Option (Eventing ι × Bool)}
    (hchange : AddsWhen P change) (h : notifyWith serialise change s = some s') : Adds P s s' := by
  unfold notifyWith at h
  split_ifs at h
  · obtain rfl := Option.some.inj h
    exact Adds.of_eq rfl
  · cases hxml : s.collector.builder.toXml serialise with
    | none =>
      simp only [hxml, Option.some.injEq] at h
      exact Adds.of_eq (by rw [h])
    | some xml =>
      simp only [hxml] at h
      obtain ⟨r, hr, rfl⟩ := Option.map_eq_some_iff.mp h
      have hxmlDoc : P xml := by
        unfold Builder.toXml at hxml
        split_ifs at hxml
        obtain rfl := Option.some.inj hxml
        exact hdoc _
      have hadds := hchange _ _ _ r hxmlDoc hr
      split_ifs
      · exact ⟨hadds.kept, hadds.new⟩
      · exact ⟨hadds.kept, hadds.new⟩

theorem adds_callListeners {change : Eventing ι → ι → String → Option (Eventing ι × Bool)}
    (hchange : AddsWhen P change) {i : ι} {old new : String} (hnew : P new) {l : List Listener}
    (h : callListeners T serialise change i old new l s = some s') : Adds P s s' := by
  induction l generalizing s with
  | nil =>
    obtain rfl := Option.some.inj h
    exact Adds.of_eq rfl
  | cons a l ih =>
    cases a with
    | observer k =>
      have hadd : Adds P s { s with calls := s.calls ++ [⟨k, i, T.name i, old, new⟩] } := by
        refine ⟨fun call hcall => List.mem_append_left _ hcall, fun call hcall => ?_⟩
        rcases List.mem_append.mp hcall with hold | hlast
        · exact Or.inl hold
        · rw [List.mem_singleton.mp hlast]
          exact Or.inr hnew
      exact hadd.trans (ih h)
    | collector =>
      obtain ⟨t, ht, hrest⟩ := Option.bind_eq_some_iff.mp h
      refine Adds.trans ?_ (ih hrest)
      unfold collectorCallback at ht
      split_ifs at ht
      · obtain rfl := Option.some.inj ht
        exact Adds.of_eq rfl
      · obtain ⟨name, -, hnotify⟩ := Option.bind_eq_some_iff.mp ht
        have hadds := adds_notifyWith hdoc hchange hnotify
        exact ⟨hadds.kept, hadds.new⟩

theorem adds_changeDepth (depth : ℕ) : AddsWhen P (changeDepth T serialise depth) := by
  induction depth with
  | zero => exact fun s i value r _ h => nomatch h
  | succ depth ih =>
    intro s i value r hvalue h
    rw [changeDepth] at h
    split_ifs at h
    · obtain rfl := Option.some.inj h
      exact Adds.of_eq rfl
    · obtain ⟨t, ht, rfl⟩ := Option.map_eq_some_iff.mp h
      have hadds := adds_callListeners hdoc ih hvalue ht
      exact ⟨hadds.kept, hadds.new⟩

/-- A listener is told of every change that is made. -/
theorem told_callListeners {change : Eventing ι → ι → String → Option (Eventing ι × Bool)}
    (hchange : AddsWhen P change) {i : ι} {old new : String} (hnew : P new) {l : List Listener}
    {k : ℕ} (hk : .observer k ∈ l)
    (h : callListeners T serialise change i old new l s = some s') :
    ∃ call ∈ s'.calls, call.observer = k ∧ call.newValue = new := by
  induction l generalizing s with
  | nil => exact nomatch hk
  | cons a l ih =>
    cases a with
    | observer k' =>
      by_cases hhere : k' = k
      · subst hhere
        have hadds := adds_callListeners hdoc hchange hnew
          (s := { s with calls := s.calls ++ [⟨k', i, T.name i, old, new⟩] }) h
        exact ⟨⟨k', i, T.name i, old, new⟩, hadds.kept _ (by simp), rfl, rfl⟩
      · have hrest : .observer k ∈ l := by
          rcases List.mem_cons.mp hk with heq | hmem
          · exact absurd (Listener.observer.inj heq).symm hhere
          · exact hmem
        exact ih hrest h
    | collector =>
      obtain ⟨t, -, hrest⟩ := Option.bind_eq_some_iff.mp h
      exact ih (by simpa using hk) hrest

/-- The change an operation of the container asks for. -/
def changeOf : Op ι → Option (ι × String)
  | .change i value => some (i, value.getD "")
  | _ => none

theorem adds_apply {op : Op ι} (hop : ∀ c, changeOf op = some c → P c.2)
    (h : op.apply T serialise s = some s') : Adds P s s' := by
  cases op with
  | change i value =>
    obtain ⟨r, hr, rfl⟩ := Option.map_eq_some_iff.mp h
    exact adds_changeDepth hdoc 2 s i (value.getD "") r (hop _ rfl) hr
  | finish =>
    simp only [Op.apply, VariableContainer.finish] at h
    split_ifs at h
    have hadds := adds_notifyWith hdoc (adds_changeDepth (T := T) hdoc 1) h
    exact ⟨hadds.kept, hadds.new⟩
  | start | addIgnore i | observe id =>
    obtain rfl := Option.some.inj h
    exact Adds.of_eq rfl

theorem adds_runOps {ops : List (Op ι)} (hops : ∀ c ∈ ops.filterMap changeOf, P c.2)
    (h : runOps T serialise s ops = some s') : Adds P s s' := by
  induction ops generalizing s with
  | nil =>
    obtain rfl := Option.some.inj h
    exact Adds.of_eq rfl
  | cons op ops ih =>
    obtain ⟨t, ht, hrest⟩ := Option.bind_eq_some_iff.mp h
    have hop : ∀ c, changeOf op = some c → P c.2 := fun c hc =>
      hops c (List.mem_filterMap.mpr ⟨op, List.mem_cons_self, hc⟩)
    have hops' : ∀ c ∈ ops.filterMap changeOf, P c.2 := by
      intro c hc
      obtain ⟨op', hmem, hc'⟩ := List.mem_filterMap.mp hc
      exact hops c (List.mem_filterMap.mpr ⟨op', List.mem_cons_of_mem _ hmem, hc'⟩)
    exact (adds_apply hdoc hop ht).trans (ih hops' hrest)

end Calls

section Replay

variable {ι : Type} [DecidableEq ι]

/-- The changes lead from one assignment of values to another, each to a value that differs. -/
def Replays (v : ι → String) : List (Change ι) → (ι → String) → Prop
  | [], v' => v' = v
  | c :: cs, v' => c.newValue ≠ v c.varNum ∧
    Replays (Function.update v c.varNum c.newValue) cs v'

theorem Replays.append {v v' v'' : ι → String} {cs cs' : List (Change ι)} (h : Replays v cs v')
    (h' : Replays v' cs' v'') : Replays v (cs ++ cs') v'' := by
  induction cs generalizing v with
  | nil =>
    obtain rfl : v' = v := h
    exact h'
  | cons c cs ih => exact ⟨h.1, ih h.2⟩

variable (T : VariableTable ι)

/-- A variable that a service may write. -/
def Writable (i : ι) : Prop := T.name i ≠ none ∧ i ≠ T.lastChange

instance (i : ι) : Decidable (Writable T i) :=
  inferInstanceAs (Decidable (T.name i ≠ none ∧ i ≠ T.lastChange))

/-- A service has changed variables of its own, and one of the new values is empty exactly
when `P` holds. -/
def Logged (s s' : Store ι) (P : Prop) : Prop :=
  ∃ cs, s'.changes = s.changes ++ cs ∧ Replays s.values cs s'.values ∧
    (∀ c ∈ cs, Writable T c.varNum) ∧ ((∃ c ∈ cs, c.newValue = "") ↔ P)

variable {T} {s s' s'' : Store ι} {P Q : Prop}

theorem Logged.refl (s : Store ι) : Logged T s s False :=
  ⟨[], by simp, rfl, by simp, by simp⟩

theorem Logged.trans (h : Logged T s s' P) (h' : Logged T s' s'' Q) : Logged T s s'' (P ∨ Q) := by
  obtain ⟨cs, hchanges, hreplays, hwritable, hempty⟩ := h
  obtain ⟨cs', hchanges', hreplays', hwritable', hempty'⟩ := h'
  refine ⟨cs ++ cs', by rw [hchanges', hchanges, List.append_assoc], hreplays.append hreplays',
    ?_, ?_⟩
  · intro c hc
    rcases List.mem_append.mp hc with hc | hc
    · exact hwritable c hc
    · exact hwritable' c hc
  · rw [← hempty, ← hempty']
    simp only [List.mem_append, or_and_right, exists_or]

theorem Logged.congr (h : Logged T s s' P) (hPQ : P ↔ Q) : Logged T s s' Q := by
  rwa [← propext hPQ]

/-- One replacement logs an empty value when it takes a value away. -/
theorem logged_replaceVar (s : Store ι) {i : ι} (value : String) (hi : Writable T i) :
    Logged T s (s.replaceVar i value) (value = "" ∧ s.values i ≠ "") := by
  by_cases hv : value = s.values i
  · rw [(s.replaceVar_eq_self i value).mpr hv]
    refine (Logged.refl s).congr ⟨False.elim, fun h => h.2 (hv.symm.trans h.1)⟩
  · have hstore : s.replaceVar i value =
        ⟨Function.update s.values i value, s.changes ++ [⟨i, s.values i, value⟩]⟩ := by
      simp [Store.replaceVar, Store.change, hv]
    rw [hstore]
    refine ⟨[⟨i, s.values i, value⟩], rfl, ⟨hv, rfl⟩, by simpa using hi, ?_⟩
    simp only [List.mem_singleton, exists_eq_left]
    exact ⟨fun h => ⟨h, fun h' => hv (h.trans h'.symm)⟩, fun h => h.1⟩

end Replay

section Container

variable {ι : Type} [DecidableEq ι] {T : VariableTable ι} {serialise : Node → String}

variable (T) in
/-- A container with some listeners that holds the values of a service. -/
structure Follows (l : List Listener) (e : Eventing ι) (v : ι → String) : Prop where
  wired : Wired T e
  registered : l ⊆ e.callbacks
  values : ∀ j, j ≠ T.lastChange → e.values j = v j

variable {l : List Listener} {e e' : Eventing ι} {v : ι → String}

/-- What is not a change leaves the values alone. -/
theorem Follows.apply {op : Op ι} (h : Follows T l e v) (hop : changeOf op = none)
    (happly : op.apply T serialise e = some e') : Follows T l e' v := by
  have hallowed : op.Allowed T := by
    cases op with
    | change i value => exact nomatch hop
    | _ => trivial
  have hwired := h.wired.apply hallowed happly
  cases op with
  | change i value => exact nomatch hop
  | finish =>
    obtain ⟨hcore, hcallbacks⟩ := h.wired.finish happly
    refine ⟨hwired, by rw [hcallbacks]; exact h.registered, fun j hj => ?_⟩
    rw [hcore, Core.finish, core_notify_values serialise _ j (by rw [h.wired.lastChange]; exact hj)]
    exact h.values j hj
  | observe id =>
    obtain rfl := Option.some.inj happly
    exact ⟨hwired, List.subset_cons_of_subset _ h.registered, h.values⟩
  | start | addIgnore i =>
    obtain rfl := Option.some.inj happly
    exact ⟨hwired, h.registered, h.values⟩

theorem Follows.others {ops : List (Op ι)} (h : Follows T l e v)
    (hops : ∀ op ∈ ops, changeOf op = none) (hrun : runOps T serialise e ops = some e') :
    Follows T l e' v := by
  induction ops generalizing e with
  | nil =>
    obtain rfl := Option.some.inj hrun
    exact h
  | cons op ops ih =>
    obtain ⟨t, ht, hrest⟩ := Option.bind_eq_some_iff.mp hrun
    obtain ⟨hop, hops⟩ := List.forall_mem_cons.mp hops
    exact ih (h.apply hop ht) hops hrest

/-- A new container holds the values it is made with. -/
theorem follows_newCollector {ns : String}
    (h : newCollector T serialise v [] ns = some e) : Follows T [] e v := by
  have hobservers : newCollector T serialise v (([] : List ℕ).map .observer) ns = some e := h
  have hwired := wired_newCollector serialise ns hobservers
  obtain ⟨s, hs, hcore, -⟩ := newCollector_core T serialise ns v hwired.few []
  obtain rfl := Option.some.inj (hs.symm.trans h)
  refine ⟨hwired, List.nil_subset _, fun j hj => ?_⟩
  rw [hcore]
  exact core_notify_values serialise ⟨v, initialCollector T ns v, []⟩ j hj

variable (serialise) in
/-- A change of a variable is made in the container too, and the listener is told of it. -/
theorem Follows.change {i : ι} (value : Option String) (h : Follows T l e v)
    (hi : Writable T i) (hv : value.getD "" ≠ v i) : ∃ e',
      (Op.change i value).apply T serialise e = some e' ∧
      Follows T l e' (Function.update v i (value.getD "")) ∧
      ∀ k, .observer k ∈ l →
        ∃ call ∈ e'.calls, call.observer = k ∧ call.newValue = value.getD "" := by
  obtain ⟨e', he', hcore, hcallbacks⟩ := changeDepth_core T serialise 0 e i (value.getD "") hi.1
    h.wired.one h.wired.ignores
  have happly : (Op.change i value).apply T serialise e = some e' := by
    simp [Op.apply, VariableContainer.change, he']
  have hallowed : (Op.change i value).Allowed T := hi
  refine ⟨e', happly, ⟨h.wired.apply hallowed happly, ?_, fun j hj => ?_⟩, fun k hk => ?_⟩
  · rw [hcallbacks]
    exact h.registered
  · rw [hcore, core_change_values T serialise _ i _ hi.1 j (by rw [h.wired.lastChange]; exact hj)]
    by_cases hji : j = i
    · rw [hji, Function.update_self, Function.update_self]
    · rw [Function.update_of_ne hji, Function.update_of_ne hji, h.values j hj]
  · have hdiffers : value.getD "" ≠ e.values i := by
      rw [h.values i hi.2]
      exact hv
    rw [changeDepth, if_neg hdiffers] at he'
    obtain ⟨t, ht, heq⟩ := Option.map_eq_some_iff.mp he'
    obtain rfl : t = e' := congrArg Prod.fst heq
    -- the kind of the values does not matter here
    exact told_callListeners (P := fun _ => True) (fun _ => trivial)
      (adds_changeDepth (fun _ => trivial) 1) trivial (h.registered hk) ht

omit [DecidableEq ι] in
theorem change_of_asked {op : Op ι} {i : ι} {asked : String} (h : changeOf op = some (i, asked)) :
    ∃ value, op = .change i value ∧ value.getD "" = asked := by
  cases op with
  | change j value =>
    obtain ⟨rfl, hvalue⟩ := Prod.mk.inj (Option.some.inj h)
    exact ⟨value, rfl, hvalue⟩
  | _ => exact nomatch h

/-- Operations that ask for the changes of a service tell the listener of each. -/
theorem Follows.told {ops : List (Op ι)} {cs : List (Change ι)} {v' : ι → String} {k : ℕ}
    (h : Follows T l e v) (hk : .observer k ∈ l) (hreplays : Replays v cs v')
    (hwritable : ∀ c ∈ cs, Writable T c.varNum)
    (hops : ops.filterMap changeOf = cs.map fun c => (c.varNum, c.newValue))
    (hrun : runOps T serialise e ops = some e') :
    ∀ c ∈ cs, ∃ call ∈ e'.calls, call.observer = k ∧ call.newValue = c.newValue := by
  induction ops generalizing e v cs with
  | nil =>
    obtain rfl : cs = [] := List.map_eq_nil_iff.mp hops.symm
    exact fun c hc => nomatch hc
  | cons op ops ih =>
    obtain ⟨t, ht, hrest⟩ := Option.bind_eq_some_iff.mp hrun
    cases hop : changeOf op with
    | none =>
      rw [List.filterMap_cons_none hop] at hops
      exact ih (h.apply hop ht) hreplays hwritable hops hrest
    | some asked =>
      rw [List.filterMap_cons_some hop] at hops
      obtain ⟨c, cs, rfl, rfl, htail⟩ := List.map_eq_cons_iff.mp hops.symm
      obtain ⟨hc, hcs⟩ := List.forall_mem_cons.mp hwritable
      obtain ⟨value, rfl, hvalue⟩ := change_of_asked hop
      obtain ⟨t', ht', hfollows, htold⟩ :=
        h.change serialise value hc (by rw [hvalue]; exact hreplays.1)
      obtain rfl := Option.some.inj (ht.symm.trans ht')
      obtain ⟨call, hcall, hobserver, hnew⟩ := htold k hk
      rw [hvalue] at hfollows hnew
      have hkept := (adds_runOps (P := fun _ => True) (fun _ => trivial) (fun _ _ => trivial)
        hrest).kept
      intro c' hc'
      rcases List.mem_cons.mp hc' with rfl | hmem
      · exact ⟨call, hkept call hcall, hobserver, hnew⟩
      · exact ih hfollows hreplays.2 hcs htail.symm hrest c' hmem

variable (serialise) in
/-- The changes of a service can be made in a container that holds its values. -/
theorem Follows.exists_run {cs : List (Change ι)} {v' : ι → String} (h : Follows T l e v)
    (hreplays : Replays v cs v') (hwritable : ∀ c ∈ cs, Writable T c.varNum) :
    ∃ e', runOps T serialise e (cs.map fun c => .change c.varNum (some c.newValue)) = some e' := by
  induction cs generalizing e v with
  | nil => exact ⟨e, rfl⟩
  | cons c cs ih =>
    obtain ⟨hc, hcs⟩ := List.forall_mem_cons.mp hwritable
    obtain ⟨t, ht, hfollows, -⟩ := h.change serialise (some c.newValue) hc hreplays.1
    obtain ⟨e', he'⟩ := ih hfollows hreplays.2 hcs
    refine ⟨e', ?_⟩
    rw [List.map_cons, runOps, List.foldlM_cons]
    exact Option.bind_eq_some_iff.mpr ⟨t, ht, he'⟩

end Container

section Recording

variable {ι : Type} [DecidableEq ι] (T : VariableTable ι) (serialise : Node → String)
  (ns : String)

/-- The calls in a run of a service from `s` to `s'`, of a container with the values of `s` whose
collector is told what to ignore before a listener is registered. Transactions may begin and
end anywhere between the changes. -/
def Recorded (logger : ℕ) (s s' : Store ι) (calls : List (ListenerCall ι)) : Prop :=
  ∃ (e₀ e : Eventing ι) (ignored : List ι) (ops : List (Op ι)),
    newCollector T serialise s.values [] ns = some e₀ ∧
    ops.filterMap changeOf =
      (s'.changes.drop s.changes.length).map (fun c => (c.varNum, c.newValue)) ∧
    runOps T serialise e₀ (ignored.map .addIgnore ++ .observe logger :: ops) = some e ∧
    calls = e.calls

/-- Every call of the logger reads inside its value. -/
def LoggerSafe (w : SizeT) (logger : ℕ) (calls : List (ListenerCall ι)) : Prop :=
  ∀ call ∈ calls, call.observer = logger → ReadsInside w call.newValue

variable {T serialise ns}
variable {logger : ℕ} {s s' : Store ι} {P : Prop} {calls : List (ListenerCall ι)}

variable (serialise ns) in
theorem exists_recorded (hT : T.vars.length < 32) (logger : ℕ) (h : Logged T s s' P) :
    ∃ calls, Recorded T serialise ns logger s s' calls := by
  obtain ⟨cs, hchanges, hreplays, hwritable, -⟩ := h
  obtain ⟨e₀, hnew, -, -⟩ := newCollector_core T serialise ns s.values hT []
  have hfollows : Follows T [] e₀ s.values := follows_newCollector hnew
  have hobserve : Op.apply T serialise e₀ (.observe logger) =
      some (registerCallback e₀ (.observer logger)) := rfl
  obtain ⟨e, he⟩ := (hfollows.apply rfl hobserve).exists_run serialise hreplays hwritable
  refine ⟨e.calls, e₀, e, [], cs.map fun c => .change c.varNum (some c.newValue), hnew, ?_, ?_, rfl⟩
  · rw [hchanges, List.drop_left, List.filterMap_map, ← List.filterMap_eq_map]
    rfl
  · rw [List.map_nil, List.nil_append, runOps, List.foldlM_cons]
    exact Option.bind_eq_some_iff.mpr ⟨_, hobserve, he⟩

theorem newCollector_calls {e : Eventing ι} {values : ι → String}
    (hdoc : ∀ doc, serialise doc ≠ "") (h : newCollector T serialise values [] ns = some e) :
    ∀ call ∈ e.calls, call.newValue ≠ "" := by
  unfold newCollector at h
  split_ifs at h
  obtain ⟨lastChange, -, hnotify⟩ := Option.bind_eq_some_iff.mp h
  obtain ⟨t, ht, rfl⟩ := Option.map_eq_some_iff.mp hnotify
  have hadds := adds_notifyWith (P := (· ≠ "")) hdoc (adds_changeDepth (T := T) hdoc 1) ht
  intro call hcall
  rcases hadds.new call hcall with hold | hnew
  · exact nomatch hold
  · exact hnew

omit [DecidableEq ι] in
theorem changeOf_addIgnore (ignored : List ι) :
    ∀ op ∈ ignored.map Op.addIgnore, changeOf op = none := by
  simp [changeOf]

/-- The logger is registered with a container that holds the values of the service. -/
theorem exists_registered {v : ι → String} {e₀ e : Eventing ι} {ignored : List ι}
    {ops : List (Op ι)} (hnew : newCollector T serialise v [] ns = some e₀)
    (hrun : runOps T serialise e₀ (ignored.map .addIgnore ++ .observe logger :: ops) = some e) :
    ∃ e₁, Follows T [.observer logger] e₁ v ∧ runOps T serialise e₁ ops = some e := by
  rw [runOps, List.foldlM_append] at hrun
  obtain ⟨e₁, hprepare, hregistered⟩ := Option.bind_eq_some_iff.mp hrun
  rw [List.foldlM_cons] at hregistered
  obtain ⟨e₂, hregister, hrest⟩ := Option.bind_eq_some_iff.mp hregistered
  have hfollows := (follows_newCollector hnew).others (changeOf_addIgnore ignored) hprepare
  have happly : Follows T [] e₂ v := hfollows.apply (by rfl) hregister
  obtain rfl := Option.some.inj hregister
  exact ⟨_, ⟨happly.wired, by simp [registerCallback], happly.values⟩, hrest⟩

/-- The logger is safe in a recording exactly when no empty value has been logged. -/
theorem loggerSafe_iff (w : SizeT) (hdoc : ∀ doc, serialise doc ≠ "") (h : Logged T s s' P)
    (hrecorded : Recorded T serialise ns logger s s' calls) :
    LoggerSafe w logger calls ↔ ¬ P := by
  obtain ⟨cs, hchanges, hreplays, hwritable, hempty⟩ := h
  obtain ⟨e₀, e, ignored, ops, hnew, hops, hrun, rfl⟩ := hrecorded
  rw [hchanges, List.drop_left] at hops
  constructor
  · intro hsafe hP
    obtain ⟨c, hc, hvalue⟩ := hempty.mpr hP
    obtain ⟨e₁, hregistered, hrest⟩ := exists_registered hnew hrun
    obtain ⟨call, hcall, hlogger, hnewValue⟩ :=
      hregistered.told List.mem_cons_self hreplays hwritable hops hrest c hc
    rw [hvalue] at hnewValue
    exact (readsInside_iff w _).mp (hsafe call hcall hlogger) hnewValue
  · intro hP call hcall hlogger
    have hnonempty : ∀ c ∈ (ignored.map Op.addIgnore ++ Op.observe logger :: ops).filterMap
        changeOf, c.2 ≠ "" := by
      intro c hc hvalue
      rw [List.filterMap_append, List.filterMap_eq_nil_iff.mpr (changeOf_addIgnore ignored),
        List.nil_append, List.filterMap_cons_none rfl, hops] at hc
      obtain ⟨c', hc', rfl⟩ := List.mem_map.mp hc
      exact hP (hempty.mp ⟨c', hc', hvalue⟩)
    have hadds := adds_runOps (P := (· ≠ "")) hdoc hnonempty hrun
    rcases hadds.new call hcall with hold | hvalue
    · exact (readsInside_iff w _).mpr (newCollector_calls hdoc hnew call hold)
    · exact (readsInside_iff w _).mpr hvalue

end Recording

end GMediaRender.ChangeLogger
