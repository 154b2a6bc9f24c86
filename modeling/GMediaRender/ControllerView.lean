import GMediaRender.EventReader
import GMediaRender.MemoryRuns

/-!
What a controller knows of the AVTransport service. It subscribes at some time and from then on
reads the events it is sent. After every action, message of the player and radio key the values
it has read are those that the service holds in memory, as long as the variables are given no
control characters.
-/
namespace GMediaRender.ControllerView

open XmlDoc XmlReader ActionRequest RendererSystem VariableContainer LastChangeStream Subscription
  UpdateLog EventHistory EventReader OutputSilan UpnpTransport StateVariables OwnedHeap
  ContainerMemory ContainerRuns TransportMemory

section Subscribing

variable {ι : Type} [DecidableEq ι] (T : VariableTable ι) (S : Node → String) (ns : String)

/-- One round of the loop in `handle_subscription_request`: the value is read at the address
that `VariableContainer_get` returns. -/
def snapshotVariable (m : Memory ι) (b : Builder) (i : ι) : Option Builder :=
  match T.name i with
  | none => some b
  | some name =>
    if sendsVariable name
    then (readString m.heap (ContainerMemory.get T m i)).map (b.add name)
    else some b

/-- The value of LastChange that a subscription is accepted with. -/
def subscriptionDocument (m : Memory ι) : Option (Option String) :=
  (T.vars.foldlM (snapshotVariable T m) ⟨some ns, []⟩).map (initialDocument S)

variable {T S ns} {m m' : Memory ι} {e e' : Eventing ι} {F F' : List (ℕ × Cell)}

omit [DecidableEq ι] in
theorem subscriptionDocument_eq (hm : Represents T m e F) :
    subscriptionDocument T S ns m = some (initialDocument S (takeSnapshot T ns e.values)) := by
  have hround : snapshotVariable T m =
      fun b i => pure (Subscription.snapshotVariable T e.values b i) := by
    funext b i
    unfold snapshotVariable Subscription.snapshotVariable
    cases hname : T.name i with
    | none => rfl
    | some name =>
      have hread : readString m.heap (ContainerMemory.get T m i) = some (e.values i) := by
        simp only [ContainerMemory.get, hname]
        exact hm.read_value i
      simp only [hread, Option.map_some]
      split_ifs <;> rfl
  rw [subscriptionDocument, hround, List.foldlM_pure]
  rfl

/-- A controller that subscribes between two transactions has, between any later two, the
values that are in memory. -/
theorem readCopy_memory {parse : String → Option Node} (hparse : ReadsBack S parse)
    (hns : PlainText ns) (hname : ∀ i name, T.name i = some name → IsName name)
    (hinj : InjectiveTexts T S ns) {p : Publisher String String} (hset : Settled T S ns e p)
    (hm : Sound T F m e 0) {log : List (Change ι)} (h : Evolves T S e log e')
    (hm' : Sound T F' m' e' 0) (hvalues : ∀ i, i ≠ T.lastChange → PlainText (e.values i))
    (hlog : ∀ c ∈ log, PlainText c.newValue) :
    ∃ initial view, subscriptionDocument T S ns m = some initial ∧
      readCopy parse (initial.toList ++ m'.notified.drop m.notified.length) = some view ∧
      ∀ i name, Evented T e'.collector i name → view name = some (e'.values i) := by
  obtain ⟨view, hread, hview⟩ := readCopy_late hparse hns hname hinj hset hm.transactions h
    hm'.transactions hvalues hlog
  refine ⟨_, view, subscriptionDocument_eq hm.represents, ?_, hview⟩
  rw [hm.represents.notified, hm'.represents.notified]
  exact hread

end Subscribing

section Transport

variable {A : Allocator} {S : Node → String} {o : Origin} {e₀ : Eventing TransportVar}
variable {m : ServiceMemory} {s : AvTransport} {n : ℕ}

/-- A run may be continued from where it is. -/
theorem Refines.restart (h : Refines S o m s n) :
    ∃ e F, Since S o s.vars.changes e ∧ Sound transportTable F m.container e n ∧
      (∀ i, i ≠ .lastChange → e.values i = s.vars.values i) ∧
      Refines S ⟨e, s.vars.changes⟩ m s n := by
  obtain ⟨e, hsound, hvalues, hsince⟩ := h.container
  exact ⟨e, _, hsince, hsound, hvalues, h.state, h.silan, h.uri, h.uriNext, e, hsound, hvalues,
    [], .refl, (List.append_nil _).symm⟩

theorem runValues_append (s : AvTransport) (steps steps' : List Step) :
    (TransportMemory.runValues s (steps ++ steps')).2 =
      (TransportMemory.runValues (TransportMemory.runValues s steps).2 steps').2 := by
  induction steps generalizing s with
  | nil => rfl
  | cons l steps ih => exact ih _

theorem settled_observe {p : Publisher String String} {e : Eventing TransportVar}
    (h : Settled transportTable S transportEventXmlNs e p) (l : List ℕ) :
    Settled transportTable S transportEventXmlNs (l.foldl observeWith e) p := by
  induction l generalizing e with
  | nil => exact h
  | cons id l ih =>
    exact ih ⟨h.represents, by simpa [observeWith, registerCallback] using h.registered, h.idle⟩

theorem collector_observe (l : List ℕ) (e : Eventing TransportVar) :
    (l.foldl observeWith e).collector = e.collector := by
  induction l generalizing e with
  | nil => rfl
  | cons id l ih => exact ih _

theorem values_observe (l : List ℕ) (e : Eventing TransportVar) :
    (l.foldl observeWith e).values = e.values := by
  induction l generalizing e with
  | nil => rfl
  | cons id l ih => exact ih _

/-- The first event is sent when the collector is made; the positions and LastChange itself are
ignored from then on. -/
theorem eventingInit_settled (hdeclared : Declared S) {observers : List ℕ}
    (he₀ : eventingInit S observers = some e₀) :
    ∃ p, Settled transportTable S transportEventXmlNs e₀ p ∧
      e₀.collector.openTransactions = 0 ∧
      (∀ i, i ≠ .lastChange → e₀.values i = transportDefaultValues i) ∧
      ∀ i, e₀.collector.ignores transportTable i = true ↔ i = .lastChange ∨ i ∈ ignoredVars := by
  obtain ⟨e, p, hnew, hset, hidle, hmask, hvalues⟩ := newCollector_start (T := transportTable)
    (S := S) (by decide) transportDefaultValues
    (hdeclared.fresh (by decide) transportEventXmlNs _)
  rw [eventingInit, hnew, Option.map_some] at he₀
  obtain rfl := Option.some.inj he₀
  obtain ⟨hsame, hopen⟩ := ignore_same (T := transportTable) ignoredVars e
  refine ⟨p, settled_observe (settled_ignore (by decide) hset ignoredVars) observers, ?_,
    fun i hi => ?_, fun i => ?_⟩
  · rw [collector_observe]
    exact hopen.trans hidle
  · rw [values_observe]
    exact (congrFun hsame i).trans (hvalues i hi)
  · rw [collector_observe]
    exact (ignores_ignore (by decide) ignoredVars e i).trans (or_congr_left (hmask i))

theorem plainText_transportDefaultValues (i : TransportVar) :
    PlainText (transportDefaultValues i) := by
  cases i <;> decide

theorem isName_transportVar (i : TransportVar) (name : String)
    (h : transportTable.name i = some name) : IsName name := by
  cases i <;> cases h <;> decide

end Transport

/-- The service on values after a run from start-up. -/
def afterSteps (env : Env) (padmux volume mute : ℤ) (steps : List Step) : AvTransport :=
  (TransportMemory.runValues ⟨.stopped, ⟨transportDefaultValues, []⟩,
    outputSilanInit env padmux volume mute⟩ steps).2

/-- The AVTransport service as a controller sees it, which subscribes after any run from
start-up, between two of its steps: after every further run, what it has read from the first event
and the later ones is, for each variable that is sent, the value that the service holds, if no
variable was given a control character. `S` writes the documents and `parse` is the controller's
parser. -/
theorem controller_view (A : Allocator) {S : Node → String} {parse : String → Option Node}
    (hinj : InjectiveTexts transportTable S transportEventXmlNs) (hdeclared : Declared S)
    (hparse : ReadsBack S parse) (env : Env) (padmux volume mute : ℤ) (observers : List ℕ)
    (steps steps' : List Step)
    (hplain : ∀ c ∈ (afterSteps env padmux volume mute (steps ++ steps')).vars.changes,
      PlainText c.newValue) :
    ∃ m₀ m m' answers answers' initial view,
      upnpTransportInit A S (outputSilanInit env padmux volume mute) observers = some m₀ ∧
      TransportMemory.runMemory A S m₀ steps = some (answers, m) ∧
      subscriptionDocument transportTable S transportEventXmlNs m.container = some initial ∧
      TransportMemory.runMemory A S m steps' = some (answers', m') ∧
      readCopy parse (initial.toList ++ m'.container.notified.drop m.container.notified.length) =
        some view ∧
      ∀ i name, transportTable.name i = some name → sendsVariable name = true →
        i ∉ ignoredVars →
        view name =
          some ((afterSteps env padmux volume mute (steps ++ steps')).vars.values i) := by
  obtain ⟨huri, hnext⟩ := outputSilanInit_uris env padmux volume mute
  obtain ⟨m₀, e₀, hm₀, he₀, h₀⟩ := init_refines (A := A) (S := S)
    (outputSilanInit env padmux volume mute) huri hnext observers
  obtain ⟨m, hm, h⟩ := run_refines (A := A) (S := S) h₀ steps
  obtain ⟨e, F, ⟨log, hevolves, hlog⟩, hsound, -, hfrom⟩ := Refines.restart h
  obtain ⟨m', hm', h'⟩ := run_refines (A := A) (S := S) hfrom steps'
  obtain ⟨e', F', ⟨log', hevolves', hlog'⟩, hsound', hvalues', -⟩ := Refines.restart h'
  have hchanges : (afterSteps env padmux volume mute (steps ++ steps')).vars.changes =
      log ++ log' := by
    rw [afterSteps, runValues_append, hlog', hlog]
    rfl
  rw [hchanges] at hplain
  obtain ⟨p₀, hset₀, hidle₀, hvalues₀, hignored⟩ := eventingInit_settled hdeclared he₀
  obtain ⟨p, hset, -, hmask, hall⟩ := hevolves.settled hinj hset₀
  obtain ⟨-, -, -, hmask', -⟩ := hevolves'.settled hinj hset
  have hstart : ∀ i, i ≠ .lastChange → PlainText (e₀.values i) := fun i hi =>
    hvalues₀ i hi ▸ plainText_transportDefaultValues i
  have hvalues := (hall PlainText p₀.sent.length (fun c hc => hplain c (List.mem_append_left _ hc))
    (allOf_idle hset₀ hidle₀ hstart)).values
  obtain ⟨initial, view, hinitial, hread, hview⟩ := readCopy_memory hparse (by decide)
    isName_transportVar hinj hset hsound hevolves' hsound' hvalues
    fun c hc => hplain c (List.mem_append_right _ hc)
  refine ⟨m₀, m, m', _, _, initial, view, hm₀, hm, hinitial, hm', hread,
    fun i name hi hsends hsent => ?_⟩
  have hne : i ≠ .lastChange := sendsVariable_ne hi hsends
  have hheard : e'.collector.ignores transportTable i = false := by
    have hsame : e'.collector.ignores transportTable i = e₀.collector.ignores transportTable i := by
      rw [Collector.ignores, Collector.ignores, hmask', hmask]
    rw [hsame, ← Bool.not_eq_true, hignored]
    exact fun hor => hor.elim hne hsent
  rw [hview i name ⟨hi, hsends, hheard⟩, hvalues' i hne, afterSteps, runValues_append]

def setUriStep : Step :=
  .action .setAvTransportUri (requestDoc "SetAVTransportURI" [("InstanceID", "0"),
    ("CurrentURI", "http://a/?b=1&c=2"), ("CurrentURIMetaData", "<DIDL-Lite id=\"1\"/>")]) allSent

def playStep : Step :=
  .action .play (requestDoc "Play" [("InstanceID", "0"), ("Speed", "1")]) allSent

theorem controller_view_play : ∃ m₀ m m' answers answers' initial view,
    upnpTransportInit nextAddress ixmlDocumentToString (outputSilanInit allSent 0 50 0) [7] =
      some m₀ ∧
    TransportMemory.runMemory nextAddress ixmlDocumentToString m₀ [setUriStep] = some (answers, m) ∧
    subscriptionDocument transportTable ixmlDocumentToString transportEventXmlNs m.container =
      some initial ∧
    TransportMemory.runMemory nextAddress ixmlDocumentToString m [playStep] = some (answers', m') ∧
    readCopy readDocument (initial.toList ++
      m'.container.notified.drop m.container.notified.length) = some view ∧
    view "TransportState" = some "PLAYING" ∧
    view "AVTransportURIMetaData" = some "<DIDL-Lite id=\"1\"/>" := by
  obtain ⟨m₀, m, m', answers, answers', initial, view, hm₀, hm, hinitial, hm', hread, hview⟩ :=
    controller_view nextAddress (injectiveTexts_of_names _ isName_transportVar)
      declared_ixmlDocumentToString readsBack_readDocument allSent 0 50 0 [7] [setUriStep]
      [playStep] (by decide)
  refine ⟨m₀, m, m', answers, answers', initial, view, hm₀, hm, hinitial, hm', hread, ?_, ?_⟩
  · rw [hview .transportState "TransportState" rfl (by decide) (by decide)]
    decide
  · rw [hview .avUriMeta "AVTransportURIMetaData" rfl (by decide) (by decide)]
    decide

end GMediaRender.ControllerView
