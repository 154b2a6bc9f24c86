import GMediaRender.XmlDoc
import GMediaRender.StateVariables
import Mathlib.Data.Int.Notation

/-!
Action requests as upnp_device.c hands them to the handlers: the request document, the
reading of arguments, responses and errors.
-/
namespace GMediaRender.ActionRequest

open XmlDoc StateVariables

/-- `struct action_event` with the request it points to. A document is the list of its
top-level nodes. -/
structure ActionEvent where
  actionRequest : Option (List Node)
  status : ℤ
  errCode : ℤ
  errStr : String
  actionResult : Option (List (String × String))
  /-- The codes that were passed to `upnp_set_error`. -/
  errors : List ℤ
  /-- The message with which `UpnpAddToActionResponse` fails for a key, if it fails. -/
  addError : String → Option String

/-- The arguments of the response, in their order. -/
def response (e : ActionEvent) : List (String × String) := e.actionResult.getD []

def upnpESuccess : ℤ := 0
def upnpSoapEInvalidArgs : ℤ := 402
def upnpSoapEActionFailed : ℤ := 501

/-- What a handler leaves behind: the event, the state of its service, the return code. -/
structure Handled (σ : Type) where
  event : ActionEvent
  state : σ
  rc : ℤ

/-- A request as it reaches `handle_action_request`. -/
def newRequest (doc : Option (List Node)) : ActionEvent :=
  ⟨doc, 0, upnpESuccess, "", none, [], fun _ => none⟩

/-- `upnp_set_error`: the given code is recorded here, but the source does not use it. -/
def upnpSetError (e : ActionEvent) (errorCode : ℤ) (text : String) : ActionEvent :=
  { e with
    status := -1
    errCode := upnpSoapEActionFailed
    errStr := text
    actionResult := none
    errors := e.errors ++ [errorCode] }

def nodeName : Node → String
  | .element tag _ _ => tag
  | .text _ => "#text"

def nodeValue : Node → Option String
  | .element _ _ _ => none
  | .text content => some content

def nodeChildren : Node → List Node
  | .element _ _ children => children
  | .text _ => []

/-- `find_element_in_element` -/
def findElement (n : Node) (key : String) : Option Node :=
  (nodeChildren n).find? fun c => nodeName c == key

/-- `get_node_value`: an element without content has the empty string. -/
def getNodeValue (n : Node) : String := ((nodeChildren n).head?.bind nodeValue).getD ""

/-- `upnp_get_string`: an argument without content is NULL, but no error is set for it. -/
def upnpGetString (e : ActionEvent) (key : String) : ActionEvent × Option String :=
  match e.actionRequest with
  | none => (upnpSetError e upnpSoapEInvalidArgs "Invalid action request document", none)
  | some doc =>
    match doc.head? with
    | none => (upnpSetError e upnpSoapEInvalidArgs "Invalid action request document", none)
    | some action =>
      match (nodeChildren action).find? fun n => nodeName n == key with
      | some arg => (e, (nodeChildren arg).head?.bind nodeValue)
      | none => (upnpSetError e upnpSoapEInvalidArgs
          ("Missing action request argument (" ++ key ++ ")"), none)

/-- `upnp_add_response`: nothing is added after an error; a failure of libupnp leaves the
status alone. -/
def upnpAddResponse (e : ActionEvent) (key value : String) : ActionEvent :=
  if e.status ≠ 0 then e
  else match e.addError key with
    | none => { e with actionResult := some (e.actionResult.getD [] ++ [(key, value)]) }
    | some message =>
      { e with actionResult := none, errCode := upnpSoapEActionFailed, errStr := message }

/-- `upnp_append_variable` -/
def upnpAppendVariable {ι : Type} (e : ActionEvent) (vars : Store ι) (varnum : ι)
    (paramname : String) : ActionEvent :=
  upnpAddResponse e paramname (vars.values varnum)

/-- A list of variables appended in order. -/
def appendVariables {ι : Type} (e : ActionEvent) (vars : Store ι) (l : List (ι × String)) :
    ActionEvent :=
  l.foldl (fun e v => upnpAppendVariable e vars v.1 v.2) e

/-- The argument of a request, whether or not its absence is an error. -/
def argument (doc : Option (List Node)) (key : String) : Option String :=
  (upnpGetString (newRequest doc) key).2

/-- Whether the request has an element for the argument, with or without content. -/
def hasArgument (doc : Option (List Node)) (key : String) : Bool :=
  match doc.bind List.head? with
  | none => false
  | some action => (nodeChildren action).any fun n => nodeName n == key

/-- A request document with an argument for each pair. -/
def requestDoc (action : String) (args : List (String × String)) : Option (List Node) :=
  some [.element action [] (args.map fun a => .element a.1 [] [.text a.2])]

/-- Reading an argument depends on the document only, and leaves it alone. -/
theorem upnpGetString_snd (e : ActionEvent) (key : String) :
    (upnpGetString e key).2 = argument e.actionRequest key := by
  unfold argument upnpGetString
  cases e.actionRequest with
  | none => rfl
  | some doc =>
    simp only [newRequest]
    cases doc.head? with
    | none => rfl
    | some action =>
      simp only
      cases (nodeChildren action).find? fun n => nodeName n == key <;> rfl

@[simp] theorem upnpGetString_actionRequest (e : ActionEvent) (key : String) :
    (upnpGetString e key).1.actionRequest = e.actionRequest := by
  unfold upnpGetString
  split
  · rfl
  · split
    · rfl
    · split <;> rfl

/-- An argument that is there is read without touching the event. -/
theorem upnpGetString_of_some (e : ActionEvent) (key value : String)
    (h : argument e.actionRequest key = some value) : upnpGetString e key = (e, some value) := by
  rw [← upnpGetString_snd e key] at h
  unfold upnpGetString at h ⊢
  cases hdoc : e.actionRequest with
  | none => simp [hdoc] at h
  | some doc =>
    cases hhead : doc.head? with
    | none => simp [hdoc, hhead] at h
    | some action =>
      simp only [hdoc, hhead] at h ⊢
      cases hfind : (nodeChildren action).find? fun n => nodeName n == key with
      | none => simp [hfind] at h
      | some arg =>
        simp only [hfind] at h ⊢
        rw [h]

/-- What is found is the argument, and the event is as before. -/
theorem upnpGetString_some {e e' : ActionEvent} {key value : String}
    (h : upnpGetString e key = (e', some value)) :
    e' = e ∧ argument e.actionRequest key = some value := by
  have harg : argument e.actionRequest key = some value := by
    rw [← upnpGetString_snd e key, h]
  have hsame := (upnpGetString_of_some e key value harg).symm.trans h
  exact ⟨(congrArg Prod.fst hsame).symm, harg⟩

/-- What is not found is an argument without content, or a missing one with an error. -/
theorem upnpGetString_none {e e' : ActionEvent} {key : String}
    (h : upnpGetString e key = (e', none)) :
    argument e.actionRequest key = none ∧
      ((hasArgument e.actionRequest key = true ∧ e' = e) ∨
        (hasArgument e.actionRequest key = false ∧
          ∃ text, e' = upnpSetError e upnpSoapEInvalidArgs text)) := by
  refine ⟨by rw [← upnpGetString_snd e key, h], ?_⟩
  unfold upnpGetString at h
  cases hdoc : e.actionRequest with
  | none =>
    simp only [hdoc] at h
    exact Or.inr ⟨rfl, _, (congrArg Prod.fst h).symm⟩
  | some doc =>
    cases hhead : doc.head? with
    | none =>
      simp only [hdoc, hhead] at h
      exact Or.inr ⟨by simp [hasArgument, hhead], _, (congrArg Prod.fst h).symm⟩
    | some action =>
      simp only [hdoc, hhead] at h
      cases hfind : (nodeChildren action).find? fun n => nodeName n == key with
      | none =>
        simp only [hfind] at h
        have hmissing : ∀ n ∈ nodeChildren action, nodeName n ≠ key := by
          simpa using List.find?_eq_none.mp hfind
        exact Or.inr ⟨by simpa [hasArgument, hhead] using hmissing, _, (congrArg Prod.fst h).symm⟩
      | some arg =>
        simp only [hfind] at h
        have hfound : nodeName arg = key := by simpa using List.find?_some hfind
        refine Or.inl ⟨?_, (congrArg Prod.fst h).symm⟩
        simp only [hasArgument, Option.bind_some, hhead, List.any_eq_true]
        exact ⟨arg, List.mem_of_find?_eq_some hfind, by simpa using hfound⟩

theorem argument_of_missing {doc : Option (List Node)} {key : String}
    (h : hasArgument doc key = false) : argument doc key = none := by
  unfold argument upnpGetString
  cases doc with
  | none => rfl
  | some doc =>
    simp only [newRequest]
    cases hhead : doc.head? with
    | none => rfl
    | some action =>
      have hnone : ((nodeChildren action).find? fun n => nodeName n == key) = none := by
        simpa [hasArgument, hhead] using h
      simp [hnone]

/-- An argument is there and read, or it is missing and the event gets the error. -/
theorem upnpGetString_cases (doc : Option (List Node)) (key : String) :
    (∃ v, argument doc key = some v ∧
      upnpGetString (newRequest doc) key = (newRequest doc, some v)) ∨
      (argument doc key = none ∧ ∃ e, upnpGetString (newRequest doc) key = (e, none)) := by
  cases h : argument doc key with
  | some v => exact Or.inl ⟨v, rfl, upnpGetString_of_some (newRequest doc) key v h⟩
  | none =>
    refine Or.inr ⟨rfl, (upnpGetString (newRequest doc) key).1, ?_⟩
    exact Prod.ext rfl h

end GMediaRender.ActionRequest
