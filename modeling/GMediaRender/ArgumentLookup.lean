import GMediaRender.RendererSystem

/-!
What `upnp_get_string` makes of the shapes that an argument can have in a request: no document,
no list of arguments, no element of the name, an element without children, an element with
text. The handlers of the two URI actions take NULL for a missing argument.
-/
namespace GMediaRender.ArgumentLookup

open XmlDoc StateVariables ActionRequest OutputSilan UpnpTransport RendererSystem

section Lookup

/-- The element of an argument: the first one of its name under the action. -/
def argumentNode (doc : Option (List Node)) (key : String) : Option Node :=
  (doc.bind List.head?).bind fun action => findElement action key

/-- The text of the argument, if there is any, is a single node. -/
def SingleText (doc : Option (List Node)) (key : String) : Prop :=
  ∀ arg, argumentNode doc key = some arg →
    nodeChildren arg = [] ∨ ∃ text, nodeChildren arg = [.text text]

/-- The argument is there, and its text is empty. -/
def EmptyArgument (doc : Option (List Node)) (key : String) : Prop :=
  ∃ arg, argumentNode doc key = some arg ∧ getNodeValue arg = ""

/-- The argument is there as an element without children. -/
def Childless (doc : Option (List Node)) (key : String) : Prop :=
  ∃ arg, argumentNode doc key = some arg ∧ nodeChildren arg = []

/-- An argument that is there has its text, empty or not, and NULL stands for an error. -/
structure Distinguishes (e : ActionEvent) (key : String) : Prop where
  present : ∀ arg, argumentNode e.actionRequest key = some arg →
    (upnpGetString e key).2 = some (getNodeValue arg) ∧ (upnpGetString e key).1.errors = e.errors
  null_iff : (upnpGetString e key).2 = none ↔ (upnpGetString e key).1.errors ≠ e.errors

variable (e : ActionEvent) {doc : Option (List Node)} {key : String} {arg : Node}

theorem upnpGetString_found (h : argumentNode e.actionRequest key = some arg) :
    upnpGetString e key = (e, (nodeChildren arg).head?.bind nodeValue) := by
  obtain ⟨action, haction, hfind⟩ := Option.bind_eq_some_iff.mp h
  obtain ⟨doc, hdoc, hhead⟩ := Option.bind_eq_some_iff.mp haction
  unfold findElement at hfind
  simp [upnpGetString, hdoc, hhead, hfind]

theorem upnpGetString_unfound (h : argumentNode e.actionRequest key = none) :
    ∃ text, upnpGetString e key = (upnpSetError e upnpSoapEInvalidArgs text, none) := by
  unfold argumentNode findElement at h
  unfold upnpGetString
  cases hdoc : e.actionRequest with
  | none => exact ⟨_, rfl⟩
  | some doc =>
    cases hhead : doc.head? with
    | none => exact ⟨"Invalid action request document", by simp only [hhead]⟩
    | some action =>
      have hfind : (nodeChildren action).find? (fun n => nodeName n == key) = none := by
        simpa only [hdoc, hhead, Option.bind_some] using h
      exact ⟨"Missing action request argument (" ++ key ++ ")", by simp only [hhead, hfind]⟩

/-- An element without children is NULL without an error. -/
theorem upnpGetString_childless (h : Childless e.actionRequest key) :
    upnpGetString e key = (e, none) := by
  obtain ⟨arg, hnode, hchildren⟩ := h
  rw [upnpGetString_found e hnode, hchildren]
  rfl

/-- An element with a single text is read like `get_node_value` does. -/
theorem upnpGetString_text (hsingle : SingleText e.actionRequest key)
    (hchildless : ¬ Childless e.actionRequest key)
    (h : argumentNode e.actionRequest key = some arg) :
    upnpGetString e key = (e, some (getNodeValue arg)) := by
  rw [upnpGetString_found e h]
  rcases hsingle arg h with hnone | ⟨text, htext⟩
  · exact absurd ⟨arg, h, hnone⟩ hchildless
  · simp [getNodeValue, htext, nodeValue]

/-- An empty argument is told from a missing one unless it is an element without children. -/
theorem distinguishes_iff (hsingle : SingleText e.actionRequest key) :
    Distinguishes e key ↔ ¬ Childless e.actionRequest key := by
  constructor
  · intro h hchildless
    have herrors := h.null_iff.mp (by rw [upnpGetString_childless e hchildless])
    rw [upnpGetString_childless e hchildless] at herrors
    exact herrors rfl
  · intro hchildless
    cases hnode : argumentNode e.actionRequest key with
    | none =>
      obtain ⟨text, hget⟩ := upnpGetString_unfound e hnode
      refine ⟨fun arg harg => ?_, ?_⟩
      · rw [hnode] at harg
        exact nomatch harg
      · rw [hget]
        simp [upnpSetError]
    | some arg =>
      have hget := upnpGetString_text e hsingle hchildless hnode
      refine ⟨fun arg' harg => ?_, ?_⟩
      · obtain rfl := Option.some.inj (hnode.symm.trans harg)
        rw [hget]
        exact ⟨rfl, rfl⟩
      · rw [hget]
        simp

/-- What the handlers read of an argument that is there. -/
theorem argument_found (hsingle : SingleText doc key) (hchildless : ¬ Childless doc key)
    (h : argumentNode doc key = some arg) : argument doc key = some (getNodeValue arg) :=
  congrArg Prod.snd (upnpGetString_text (newRequest doc) hsingle hchildless h)

theorem argument_childless (h : Childless doc key) : argument doc key = none :=
  congrArg Prod.snd (upnpGetString_childless (newRequest doc) h)

end Lookup

section Requests

variable (s : AvTransport) {doc : Option (List Node)}

/-- The action is carried out: the URI is taken out of its variable and of the output module. -/
structure UriCleared (r : Handled AvTransport) : Prop where
  rc : r.rc = 0
  avUri : r.state.vars.values .avUri = ""
  uri : r.state.silan.uri = none

/-- The same for the URI of the next stream. -/
structure NextUriCleared (r : Handled AvTransport) : Prop where
  rc : r.rc = 0
  nextAvUri : r.state.vars.values .nextAvUri = ""
  uriNext : r.state.silan.uriNext = none

/-- An argument of a request: its element is there, and its text, if any, is a single node. -/
def PlainArgument (doc : Option (List Node)) (key : String) : Prop :=
  (argumentNode doc key).isSome = true ∧ SingleText doc key

theorem given_iff {key : String} (h : PlainArgument doc key) :
    (argument doc key).isSome = true ↔ ¬ Childless doc key := by
  obtain ⟨arg, hnode⟩ := Option.isSome_iff_exists.mp h.1
  constructor
  · intro hgiven hchildless
    rw [argument_childless hchildless] at hgiven
    exact nomatch hgiven
  · intro hchildless
    rw [argument_found h.2 hchildless hnode]
    rfl

theorem argument_empty {key : String} (hempty : EmptyArgument doc key)
    (hsingle : SingleText doc key) (hchildless : ¬ Childless doc key) :
    argument doc key = some "" := by
  obtain ⟨arg, hnode, htext⟩ := hempty
  rw [argument_found hsingle hchildless hnode, htext]

theorem uriCleared_of_empty (hid : (argument doc "InstanceID").isSome = true)
    (huri : argument doc "CurrentURI" = some "") :
    UriCleared (setAvtransportUri s (newRequest doc)) := by
  have hget := upnpGetString_of_some (newRequest doc) "CurrentURI" "" huri
  rw [setAvtransportUri, withInstanceid_some s doc _ hid]
  simp only [hget]
  refine ⟨rfl, ?_, rfl⟩
  split_ifs <;> simp [replaceTransportUriAndMeta, replaceCurrentUriAndMeta]

theorem nextUriCleared_of_empty (hid : (argument doc "InstanceID").isSome = true)
    (huri : argument doc "NextURI" = some "")
    (hmeta : (argument doc "NextURIMetaData").isSome = true) :
    NextUriCleared (setNextAvtransportUri s (newRequest doc)) := by
  obtain ⟨metadata, hmetadata⟩ := Option.isSome_iff_exists.mp hmeta
  have hget := upnpGetString_of_some (newRequest doc) "NextURI" "" huri
  have hgetMeta := upnpGetString_of_some (newRequest doc) "NextURIMetaData" metadata hmetadata
  rw [setNextAvtransportUri, withInstanceid_some s doc _ hid]
  simp only [hget, hgetMeta]
  exact ⟨rfl, by simp, rfl⟩

/-- Without its arguments a URI action fails. -/
theorem setAvtransportUri_rc (h : (setAvtransportUri s (newRequest doc)).rc = 0) :
    (argument doc "InstanceID").isSome = true ∧ (argument doc "CurrentURI").isSome = true := by
  have hid : (argument doc "InstanceID").isSome = true := by
    by_contra hid
    rw [setAvtransportUri, withInstanceid_rc s _ (newRequest doc) hid] at h
    exact absurd h (by decide)
  refine ⟨hid, ?_⟩
  rcases upnpGetString_cases doc "CurrentURI" with ⟨uri, huri, -⟩ | ⟨-, e, hget⟩
  · rw [huri]
    rfl
  · rw [setAvtransportUri, withInstanceid_some s doc _ hid] at h
    simp [hget] at h

theorem setNextAvtransportUri_rc (h : (setNextAvtransportUri s (newRequest doc)).rc = 0) :
    (argument doc "InstanceID").isSome = true ∧ (argument doc "NextURI").isSome = true ∧
      (argument doc "NextURIMetaData").isSome = true := by
  have hid : (argument doc "InstanceID").isSome = true := by
    by_contra hid
    rw [setNextAvtransportUri, withInstanceid_rc s _ (newRequest doc) hid] at h
    exact absurd h (by decide)
  refine ⟨hid, ?_⟩
  rw [setNextAvtransportUri, withInstanceid_some s doc _ hid] at h
  rcases upnpGetString_cases doc "NextURI" with ⟨uri, huri, hget⟩ | ⟨-, e, hget⟩
  · rcases upnpGetString_cases doc "NextURIMetaData" with ⟨metadata, hmeta, -⟩ | ⟨-, e, hget'⟩
    · rw [huri, hmeta]
      exact ⟨rfl, rfl⟩
    · simp [hget, hget'] at h
  · simp [hget] at h

/-- A request to take the URI out is carried out unless an argument is without children. -/
theorem uriCleared_iff (hid : PlainArgument doc "InstanceID")
    (huri : PlainArgument doc "CurrentURI") (hempty : EmptyArgument doc "CurrentURI") :
    UriCleared (setAvtransportUri s (newRequest doc)) ↔
      ¬ Childless doc "InstanceID" ∧ ¬ Childless doc "CurrentURI" := by
  rw [← given_iff hid]
  constructor
  · intro h
    obtain ⟨hgiven, hgiven'⟩ := setAvtransportUri_rc s h.rc
    exact ⟨hgiven, (given_iff huri).mp hgiven'⟩
  · rintro ⟨hgiven, hchildless⟩
    exact uriCleared_of_empty s hgiven (argument_empty hempty huri.2 hchildless)

theorem nextUriCleared_iff (hid : PlainArgument doc "InstanceID")
    (huri : PlainArgument doc "NextURI") (hmeta : PlainArgument doc "NextURIMetaData")
    (hempty : EmptyArgument doc "NextURI") :
    NextUriCleared (setNextAvtransportUri s (newRequest doc)) ↔
      ¬ Childless doc "InstanceID" ∧ ¬ Childless doc "NextURI" ∧
        ¬ Childless doc "NextURIMetaData" := by
  rw [← given_iff hid, ← given_iff hmeta]
  constructor
  · intro h
    obtain ⟨hgiven, hgiven', hgiven''⟩ := setNextAvtransportUri_rc s h.rc
    exact ⟨hgiven, (given_iff huri).mp hgiven', hgiven''⟩
  · rintro ⟨hgiven, hchildless, hgiven'⟩
    exact nextUriCleared_of_empty s hgiven (argument_empty hempty huri.2 hchildless) hgiven'

end Requests

section Main

/-- An argument lookup tells empty from missing, and a URI action with an empty URI takes the
URI out, exactly when no argument that is read is an element without children. -/
theorem lookup_distinguishes (e : ActionEvent) (key : String) (s : AvTransport)
    (doc : Option (List Node)) :
    (SingleText e.actionRequest key →
      (Distinguishes e key ↔ ¬ Childless e.actionRequest key)) ∧
    (PlainArgument doc "InstanceID" → PlainArgument doc "CurrentURI" →
      EmptyArgument doc "CurrentURI" → (UriCleared (setAvtransportUri s (newRequest doc)) ↔
        ¬ Childless doc "InstanceID" ∧ ¬ Childless doc "CurrentURI")) ∧
    (PlainArgument doc "InstanceID" → PlainArgument doc "NextURI" →
      PlainArgument doc "NextURIMetaData" → EmptyArgument doc "NextURI" →
      (NextUriCleared (setNextAvtransportUri s (newRequest doc)) ↔
        ¬ Childless doc "InstanceID" ∧ ¬ Childless doc "NextURI" ∧
          ¬ Childless doc "NextURIMetaData")) :=
  ⟨distinguishes_iff e, uriCleared_iff s, nextUriCleared_iff s⟩

/-- A request of SetAVTransportURI with an empty URI, as libupnp reads it. -/
def emptyUriRequest : Option (List Node) :=
  some [.element "u:SetAVTransportURI" [] [.element "InstanceID" [] [.text "0"],
    .element "CurrentURI" [] [], .element "CurrentURIMetaData" [] [.text "<DIDL-Lite/>"]]]

/-- The renderer with a URI that has not been played. -/
def uriHeld : AvTransport :=
  (Renderer.step (startUp allSent 0 50 0) (setUriAction "http://a/1.mp3")).transport

/-- The empty URI is NULL without an error, and the URI that is held stays. -/
theorem empty_uri_refused : ¬ Distinguishes (newRequest emptyUriRequest) "CurrentURI" ∧
    (setAvtransportUri uriHeld (newRequest emptyUriRequest)).rc = -1 ∧
    (setAvtransportUri uriHeld (newRequest emptyUriRequest)).event.errors = [] ∧
    (setAvtransportUri uriHeld (newRequest emptyUriRequest)).state.vars.values .avUri =
      "http://a/1.mp3" ∧
    (setAvtransportUri uriHeld (newRequest emptyUriRequest)).state.silan.uri =
      some "http://a/1.mp3" := by
  refine ⟨fun h => ?_, by decide, by decide, by decide, by decide⟩
  exact absurd (h.present (.element "CurrentURI" [] []) rfl).1 (by decide)

end Main

end GMediaRender.ArgumentLookup
