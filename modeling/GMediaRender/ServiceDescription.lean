import GMediaRender.PublishedConstraints
import GMediaRender.Signatures
import GMediaRender.XmlReader

/-!
The service descriptions of upnp.c: the action list and the state table of a service as one
document, and what a controller reads from it. A description reads back as the tables it was
made of, whatever names and values stand in them; a parser gives it with adjacent texts joined
and empty ones left out.
-/
namespace GMediaRender.ServiceDescription

open XmlDoc XmlReader ActionRequest UpnpTime PublishedConstraints Signatures

section Tables

/-- An entry of `actions` with its entry of `action_arguments`. -/
structure ServiceAction (ι : Type) where
  actionName : String
  arguments : Option (List (Argument ι))

/-- What `struct service` has on actions and variables: the first `command_count` actions and
the indices below `variable_count`. -/
structure ServiceTables (ι : Type) where
  actions : List (ServiceAction ι)
  stateVariables : List ι
  variableNames : ι → Option String
  variableMeta : ι → VarMeta

end Tables

section Generator

variable {ι : Type}

/-- `add_value_element_int` on a new element. -/
def valueElementInt (tagname : String) (value : ℤ) : Node := valueElement tagname (printInt value)

/-- `gen_specversion` -/
def genSpecversion (major minor : ℤ) : Node :=
  .element "specVersion" [] [valueElementInt "major" major, valueElementInt "minor" minor]

/-- One round of the loop over an argument list; a variable without a name fails an assertion. -/
def argumentElement (varnames : ι → Option String) (arg : Argument ι) : Option Node :=
  (varnames arg.statevar).map fun statevar => .element "argument" []
    [valueElement "name" arg.name,
      valueElement "direction" (if arg.direction = .dirIn then "in" else "out"),
      valueElement "relatedStateVariable" statevar]

/-- `gen_scpd_action` -/
def genScpdAction (varnames : ι → Option String) (act : ServiceAction ι) : Option Node :=
  match act.arguments with
  | none => some (.element "action" [] [valueElement "name" act.actionName])
  | some arglist => (arglist.mapM (argumentElement varnames)).map fun arguments =>
      .element "action" [] [valueElement "name" act.actionName,
        .element "argumentList" [] arguments]

/-- `gen_scpd_actionlist` -/
def genScpdActionlist (srv : ServiceTables ι) : Option Node :=
  (srv.actions.mapM (genScpdAction srv.variableNames)).map (.element "actionList" [])

/-- `gen_scpd_statevar` on a variable of a service; neither its name nor that of its data type
may be NULL. -/
def statevarElement (srv : ServiceTables ι) (i : ι) : Option Node :=
  (srv.variableNames i).bind fun name =>
    (paramDatatypeNames (srv.variableMeta i).datatype).map fun _ =>
      genScpdStatevar name (srv.variableMeta i)

/-- `gen_scpd_servicestatetable` -/
def genScpdServicestatetable (srv : ServiceTables ι) : Option Node :=
  (srv.stateVariables.mapM (statevarElement srv)).map (.element "serviceStateTable" [])

/-- `generate_scpd` -/
def generateScpd (srv : ServiceTables ι) : Option Node :=
  (genScpdActionlist srv).bind fun actions =>
    (genScpdServicestatetable srv).map fun table =>
      newTopElement "scpd" (some "urn:schemas-upnp-org:service-1-0")
        [genSpecversion 1 0, actions, table]

/-- `upnp_get_scpd`, where `write` gives the text of a document. -/
def upnpGetScpd (write : Node → String) (srv : ServiceTables ι) : Option String :=
  (generateScpd srv).map write

end Generator

section Reader

structure ArgumentInfo where
  name : String
  direction : ParamDir
  relatedStateVariable : String
  deriving DecidableEq

structure ActionInfo where
  name : String
  arguments : Option (List ArgumentInfo)
  deriving DecidableEq

structure VariableInfo where
  name : String
  sendEvents : Bool
  dataType : String
  allowedValues : Option (List String)
  allowedRange : Option ParamRange
  defaultValue : Option String
  deriving DecidableEq

structure ServiceInfo where
  version : ℤ × ℤ
  actions : List ActionInfo
  stateTable : List VariableInfo
  deriving DecidableEq

def readValue (n : Node) (key : String) : Option String := (findElement n key).map getNodeValue

def readDigits (digits : List Char) : Option ℕ :=
  if digits ≠ [] ∧ digits.all Char.isDigit = true then some (Nat.ofDigitChars 10 digits 0)
  else none

/-- A decimal number. -/
def readInt (s : String) : Option ℤ :=
  match s.toList with
  | '-' :: digits => (readDigits digits).map fun n => -(n : ℤ)
  | digits => (readDigits digits).map fun n => (n : ℤ)

def readNumber (n : Node) (key : String) : Option ℤ := (readValue n key).bind readInt

def childrenNamed (n : Node) (key : String) : List Node :=
  (nodeChildren n).filter fun c => nodeName c == key

def readAttribute (n : Node) (name : String) : Option String :=
  match n with
  | .element _ attributes _ => (attributes.find? fun a => a.1 == name).map Prod.snd
  | .text _ => none

def readDirection (s : String) : Option ParamDir :=
  if s = "in" then some .dirIn else if s = "out" then some .dirOut else none

def readArgument (n : Node) : Option ArgumentInfo :=
  (readValue n "name").bind fun name =>
    ((readValue n "direction").bind readDirection).bind fun direction =>
      (readValue n "relatedStateVariable").map fun statevar => ⟨name, direction, statevar⟩

def readAction (n : Node) : Option ActionInfo :=
  (readValue n "name").bind fun name =>
    match findElement n "argumentList" with
    | none => some ⟨name, none⟩
    | some l => ((childrenNamed l "argument").mapM readArgument).map fun args => ⟨name, some args⟩

/-- A range without a step has step 0. -/
def readRange (n : Node) : Option ParamRange :=
  (readNumber n "minimum").bind fun min =>
    (readNumber n "maximum").map fun max => ⟨min, max, (readNumber n "step").getD 0⟩

def readVariable (n : Node) : Option VariableInfo :=
  (readValue n "name").bind fun name =>
    (readValue n "dataType").map fun dataType =>
      { name
        sendEvents := readAttribute n "sendEvents" == some "yes"
        dataType
        allowedValues := (findElement n "allowedValueList").map fun l =>
          (childrenNamed l "allowedValue").map getNodeValue
        allowedRange := (findElement n "allowedValueRange").bind readRange
        defaultValue := readValue n "defaultValue" }

def readVersion (n : Node) : Option (ℤ × ℤ) :=
  (findElement n "specVersion").bind fun v =>
    (readNumber v "major").bind fun major => (readNumber v "minor").map fun minor => (major, minor)

/-- What a controller learns about a service from its description. -/
def readService (n : Node) : Option ServiceInfo :=
  (readVersion n).bind fun version =>
    (findElement n "actionList").bind fun actionList =>
      ((childrenNamed actionList "action").mapM readAction).bind fun actions =>
        (findElement n "serviceStateTable").bind fun table =>
          ((childrenNamed table "stateVariable").mapM readVariable).map fun stateTable =>
            ⟨version, actions, stateTable⟩

end Reader

section Described

variable {ι : Type}

def describeArgument (varnames : ι → Option String) (arg : Argument ι) : Option ArgumentInfo :=
  (varnames arg.statevar).map fun statevar => ⟨arg.name, arg.direction, statevar⟩

def describeAction (varnames : ι → Option String) (act : ServiceAction ι) : Option ActionInfo :=
  match act.arguments with
  | none => some ⟨act.actionName, none⟩
  | some arglist => (arglist.mapM (describeArgument varnames)).map fun args =>
      ⟨act.actionName, some args⟩

def describeVariable (srv : ServiceTables ι) (i : ι) : Option VariableInfo :=
  (srv.variableNames i).bind fun name =>
    (paramDatatypeNames (srv.variableMeta i).datatype).map fun dataType =>
      { name
        sendEvents := (srv.variableMeta i).sendevents = .yes
        dataType
        allowedValues := (srv.variableMeta i).allowedValues
        allowedRange := (srv.variableMeta i).allowedRange
        defaultValue := (srv.variableMeta i).defaultValue }

/-- What the tables of a service say; there is nothing if a name is missing. -/
def describe (srv : ServiceTables ι) : Option ServiceInfo :=
  (srv.actions.mapM (describeAction srv.variableNames)).bind fun actions =>
    (srv.stateVariables.mapM (describeVariable srv)).map fun stateTable =>
      ⟨(1, 0), actions, stateTable⟩

end Described

section Normal

theorem filter_textNode {key : String} (hkey : key ≠ "#text") (s : String) :
    (textNode s).filter (fun c => nodeName c == key) = [] := by
  unfold textNode
  split_ifs
  · rfl
  · simp [nodeName, Ne.symm hkey]

/-- Only texts are joined or left out. -/
theorem filter_normals {key : String} (hkey : key ≠ "#text") (pending : String) (ns : List Node) :
    (normals pending ns).filter (fun c => nodeName c == key) =
      (ns.filter fun c => nodeName c == key).map normal := by
  induction ns generalizing pending with
  | nil => exact filter_textNode hkey pending
  | cons n ns ih =>
    cases n with
    | text content =>
      have hname : (nodeName (.text content) == key) = false := by
        simpa [nodeName] using Ne.symm hkey
      rw [normals, ih, List.filter_cons, hname]
      rfl
    | element tag attributes children =>
      have hname : nodeName (normal (.element tag attributes children)) =
          nodeName (.element tag attributes children) := rfl
      rw [normals, List.filter_append, filter_textNode hkey, List.nil_append, List.filter_cons,
        List.filter_cons, ih, hname]
      by_cases htag : (nodeName (.element tag attributes children) == key) = true
      · rw [if_pos htag, if_pos htag, List.map_cons]
      · rw [if_neg htag, if_neg htag]

theorem childrenNamed_normal {key : String} (hkey : key ≠ "#text") (n : Node) :
    childrenNamed (normal n) key = (childrenNamed n key).map normal := by
  cases n with
  | text content => rfl
  | element tag attributes children => exact filter_normals hkey "" children

theorem findElement_eq (n : Node) (key : String) :
    findElement n key = (childrenNamed n key).head? := (List.head?_filter ..).symm

theorem findElement_element (tag key : String) (attributes : List (String × String))
    (children : List Node) : findElement (.element tag attributes children) key =
      children.find? fun c => nodeName c == key := rfl

theorem findElement_normal {key : String} (hkey : key ≠ "#text") (n : Node) :
    findElement (normal n) key = (findElement n key).map normal := by
  rw [findElement_eq, findElement_eq, childrenNamed_normal hkey, List.head?_map]

@[simp] theorem getNodeValue_normal (tagname value : String) :
    getNodeValue (normal (valueElement tagname value)) = value := by
  by_cases hvalue : value = ""
  · subst hvalue
    rfl
  · simp [valueElement, normal, normals, textNode, hvalue, getNodeValue, nodeChildren, nodeValue]

theorem readValue_normal {key : String} (hkey : key ≠ "#text") (n : Node) :
    readValue (normal n) key = (findElement n key).map fun c => getNodeValue (normal c) := by
  rw [readValue, findElement_normal hkey, Option.map_map]
  rfl

variable {α β : Type}

/-- What is read from the elements of a list, if each element reads back. -/
theorem mapM_normal {g : α → Option Node} {r : Node → Option β} {d : α → Option β}
    (h : ∀ a, (g a).bind (fun n => r (normal n)) = d a) (l : List α) :
    (l.mapM g).bind (fun ns => (ns.map normal).mapM r) = l.mapM d := by
  induction l with
  | nil => rfl
  | cons a l ih =>
    rw [List.mapM_cons, List.mapM_cons, ← ih, ← h a]
    cases g a with
    | none => rfl
    | some n =>
      cases l.mapM g with
      | none =>
        cases hr : r (normal n) <;> simp [hr]
      | some ns => simp

theorem isSome_mapM {g : α → Option β} (l : List α) :
    (l.mapM g).isSome ↔ ∀ a ∈ l, (g a).isSome := by
  induction l with
  | nil => simp
  | cons a l ih =>
    rw [List.mapM_cons, List.forall_mem_cons, ← ih]
    cases hga : g a with
    | none => simp
    | some b => cases l.mapM g <;> simp

theorem map_of_mapM {γ : Type} {g : α → Option β} {p : β → γ} {q : α → γ}
    (h : ∀ a b, g a = some b → p b = q a) {l : List α} {bs : List β} (hl : l.mapM g = some bs) :
    bs.map p = l.map q := by
  induction l generalizing bs with
  | nil =>
    obtain rfl : bs = [] := (Option.some.inj hl).symm
    rfl
  | cons a l ih =>
    rw [List.mapM_cons, Option.bind_eq_bind, Option.bind_eq_some_iff] at hl
    obtain ⟨b, hb, hl⟩ := hl
    rw [Option.bind_eq_bind, Option.bind_eq_some_iff] at hl
    obtain ⟨bs', hbs', hl⟩ := hl
    obtain rfl : bs = b :: bs' := (Option.some.inj hl).symm
    rw [List.map_cons, List.map_cons, h a b hb, ih hbs']

theorem mem_of_mapM {g : α → Option β} {l : List α} {bs : List β} (h : l.mapM g = some bs) {b : β}
    (hb : b ∈ bs) : ∃ a ∈ l, g a = some b := by
  induction l generalizing bs with
  | nil =>
    obtain rfl : bs = [] := (Option.some.inj h).symm
    cases hb
  | cons a l ih =>
    rw [List.mapM_cons, Option.bind_eq_bind, Option.bind_eq_some_iff] at h
    obtain ⟨c, hc, h⟩ := h
    rw [Option.bind_eq_bind, Option.bind_eq_some_iff] at h
    obtain ⟨cs, hcs, h⟩ := h
    obtain rfl : bs = c :: cs := (Option.some.inj h).symm
    rcases List.mem_cons.mp hb with rfl | hb
    · exact ⟨a, List.mem_cons_self, hc⟩
    · obtain ⟨a', ha', hgb⟩ := ih hcs hb
      exact ⟨a', List.mem_cons_of_mem a ha', hgb⟩

/-- The children of an element that is made of a list, as they are read. -/
theorem childrenNamed_list {g : α → Option Node} {r : Node → Option β} {d : α → Option β}
    (tag : String) {key : String} (hkey : key ≠ "#text")
    (hname : ∀ a n, g a = some n → nodeName n = key)
    (h : ∀ a, (g a).bind (fun n => r (normal n)) = d a) (l : List α) :
    ((l.mapM g).map (Node.element tag [])).bind
      (fun n => (childrenNamed (normal n) key).mapM r) = l.mapM d := by
  rw [← mapM_normal h l]
  cases hl : l.mapM g with
  | none => rfl
  | some ns =>
    have hall : ns.filter (fun c => nodeName c == key) = ns := by
      rw [List.filter_eq_self]
      intro n hn
      obtain ⟨a, -, ha⟩ := mem_of_mapM hl hn
      simp [hname a n ha]
    rw [Option.map_some, Option.bind_some, Option.bind_some, childrenNamed_normal hkey,
      childrenNamed, nodeChildren, hall]

end Normal

section ReadBack

variable {ι : Type}

theorem readArgument_argumentElement (varnames : ι → Option String) (arg : Argument ι) :
    (argumentElement varnames arg).bind (fun n => readArgument (normal n)) =
      describeArgument varnames arg := by
  unfold argumentElement describeArgument
  cases varnames arg.statevar with
  | none => rfl
  | some statevar =>
    cases hdir : arg.direction <;>
      simp [readArgument, readValue_normal, findElement_element, readDirection]

theorem readAction_genScpdAction (varnames : ι → Option String) (act : ServiceAction ι) :
    (genScpdAction varnames act).bind (fun n => readAction (normal n)) =
      describeAction varnames act := by
  unfold genScpdAction describeAction
  cases act.arguments with
  | none =>
    simp [readAction, readValue_normal, findElement_normal, findElement_element]
  | some arglist =>
    have hargs := childrenNamed_list "argumentList" (r := readArgument)
      (show "argument" ≠ "#text" by decide) (fun arg n hn => ?_)
      (readArgument_argumentElement varnames) arglist
    · simp only [← hargs]
      cases arglist.mapM (argumentElement varnames) with
      | none => rfl
      | some arguments =>
        simp [readAction, readValue_normal, findElement_normal, findElement_element,
          nodeName_element]
    · obtain ⟨statevar, -, rfl⟩ := Option.map_eq_some_iff.mp hn
      rfl

theorem readDigits_toDigits (n : ℕ) : readDigits (Nat.toDigits 10 n) = some n := by
  have hdigits : (Nat.toDigits 10 n).all Char.isDigit = true :=
    List.all_eq_true.mpr fun _ hc => Nat.isDigit_of_mem_toDigits (by decide) (by decide) hc
  rw [readDigits, if_pos ⟨Nat.toDigits_ne_nil, hdigits⟩, Nat.ofDigitChars_toDigits (by decide)
    (by decide)]

theorem readInt_printInt (n : ℤ) : readInt (printInt n) = some n := by
  cases n with
  | ofNat n =>
    have hlist : (printInt (Int.ofNat n)).toList = Nat.toDigits 10 n := Nat.toList_repr
    have hdigits := readDigits_toDigits n
    obtain ⟨c, digits, hcons⟩ := List.exists_cons_of_ne_nil (Nat.toDigits_ne_nil (b := 10) (n := n))
    have hdigit : c.isDigit = true :=
      Nat.isDigit_of_mem_toDigits (b := 10) (n := n) (by decide) (by decide)
        (hcons ▸ List.mem_cons_self)
    have hminus : c ≠ '-' := by
      rintro rfl
      exact absurd hdigit (by decide)
    rw [hcons] at hlist hdigits
    unfold readInt
    rw [hlist]
    split
    · next h => exact absurd (List.cons.inj h).1 hminus
    · rw [hdigits]
      rfl
  | negSucc n =>
    have hlist : (printInt (Int.negSucc n)).toList = '-' :: Nat.toDigits 10 (n + 1) := by
      simp [printInt, toString, Int.repr]
    simp only [readInt, hlist, readDigits_toDigits]
    rfl

theorem readNumber_normal {key : String} (hkey : key ≠ "#text") (n : Node) {value : ℤ}
    (h : findElement n key = some (valueElement key (printInt value))) :
    readNumber (normal n) key = some value := by
  rw [readNumber, readValue_normal hkey, h, Option.map_some, Option.bind_some,
    getNodeValue_normal, readInt_printInt]

@[simp] theorem nodeName_allowedValueRange (range : ParamRange) :
    nodeName (allowedValueRange range) = "allowedValueRange" := rfl

theorem readRange_allowedValueRange (range : ParamRange) :
    readRange (normal (allowedValueRange range)) = some range := by
  have hmin : readNumber (normal (allowedValueRange range)) "minimum" = some range.min :=
    readNumber_normal (by decide) _ rfl
  have hmax : readNumber (normal (allowedValueRange range)) "maximum" = some range.max :=
    readNumber_normal (by decide) _ rfl
  have hstep : (readNumber (normal (allowedValueRange range)) "step").getD 0 = range.step := by
    by_cases hzero : range.step = 0
    · have hnone : findElement (allowedValueRange range) "step" = none := by
        simp [allowedValueRange, findElement_element, valueElementLong, hzero]
      rw [readNumber, readValue_normal (by decide), hnone, hzero]
      rfl
    · have hsome : findElement (allowedValueRange range) "step" =
          some (valueElement "step" (printInt range.step)) := by
        simp [allowedValueRange, findElement_element, valueElementLong, hzero]
      rw [readNumber_normal (by decide) _ hsome, Option.getD_some]
  rw [readRange, hmin, hmax, hstep]
  rfl

theorem readVariable_genScpdStatevar (name dataType : String) (m : VarMeta)
    (hdata : paramDatatypeNames m.datatype = some dataType) :
    readVariable (normal (genScpdStatevar name m)) = some
      ⟨name, m.sendevents = .yes, dataType, m.allowedValues, m.allowedRange, m.defaultValue⟩ := by
  have hname : readValue (normal (genScpdStatevar name m)) "name" = some name := by
    simp [readValue_normal, genScpdStatevar, findElement_element]
  have htype : readValue (normal (genScpdStatevar name m)) "dataType" = some dataType := by
    simp [readValue_normal, genScpdStatevar, findElement_element, hdata]
  have hevents : (readAttribute (normal (genScpdStatevar name m)) "sendEvents" == some "yes") =
      decide (m.sendevents = .yes) := by
    cases hsend : m.sendevents <;> simp [genScpdStatevar, normal, readAttribute, hsend]
  have hlist (l : List String) : (childrenNamed (normal (.element "allowedValueList" []
      (l.map (valueElement "allowedValue")))) "allowedValue").map getNodeValue = l := by
    have hall : (l.map (valueElement "allowedValue")).filter
        (fun c => nodeName c == "allowedValue") = l.map (valueElement "allowedValue") := by
      rw [List.filter_eq_self]
      intro n hn
      obtain ⟨v, -, rfl⟩ := List.mem_map.mp hn
      rfl
    rw [childrenNamed_normal (by decide), childrenNamed, nodeChildren, hall, List.map_map,
      List.map_map]
    exact (List.map_congr_left fun v _ => getNodeValue_normal _ v).trans (List.map_id l)
  obtain ⟨sendevents, datatype, values, range, default⟩ := m
  have hvalues : (findElement (normal (genScpdStatevar name
      ⟨sendevents, datatype, values, range, default⟩)) "allowedValueList").map
      (fun l => (childrenNamed l "allowedValue").map getNodeValue) = values := by
    rw [findElement_normal (by decide), Option.map_map]
    cases values <;> cases range <;> cases default <;>
      simp [genScpdStatevar, findElement_element, nodeName_element, hlist]
  have hrange : (findElement (normal (genScpdStatevar name
      ⟨sendevents, datatype, values, range, default⟩)) "allowedValueRange").bind
      readRange = range := by
    rw [findElement_normal (by decide)]
    cases values <;> cases range <;> cases default <;>
      simp [genScpdStatevar, findElement_element, nodeName_element, readRange_allowedValueRange]
  have hdefault : readValue (normal (genScpdStatevar name
      ⟨sendevents, datatype, values, range, default⟩)) "defaultValue" = default := by
    cases values <;> cases range <;> cases default <;>
      simp [readValue_normal, genScpdStatevar, findElement_element, nodeName_element]
  rw [readVariable, hname, htype, hevents, hvalues, hrange, hdefault]
  rfl

theorem readVariable_statevarElement (srv : ServiceTables ι) (i : ι) :
    (statevarElement srv i).bind (fun n => readVariable (normal n)) = describeVariable srv i := by
  unfold statevarElement describeVariable
  cases srv.variableNames i with
  | none => rfl
  | some name =>
    cases hdata : paramDatatypeNames (srv.variableMeta i).datatype with
    | none => rfl
    | some dataType => exact readVariable_genScpdStatevar name dataType _ hdata

end ReadBack

section Names

variable {ι : Type}

theorem allNamed_iff (ns : List Node) : AllNamed ns ↔ ∀ n ∈ ns, Named n := by
  induction ns with
  | nil => simp [AllNamed]
  | cons n ns ih => rw [AllNamed, ih, List.forall_mem_cons]

theorem allNamed_mapM {α : Type} {g : α → Option Node} (h : ∀ a n, g a = some n → Named n)
    {l : List α} {ns : List Node} (hl : l.mapM g = some ns) : AllNamed ns := by
  rw [allNamed_iff]
  intro n hn
  obtain ⟨a, -, ha⟩ := mem_of_mapM hl hn
  exact h a n ha

theorem named_valueElement {tagname : String} (htag : IsName tagname) (value : String) :
    Named (valueElement tagname value) := ⟨htag, by simp, trivial, trivial⟩

theorem named_argumentElement (varnames : ι → Option String) (arg : Argument ι) (n : Node)
    (hn : argumentElement varnames arg = some n) : Named n := by
  obtain ⟨statevar, -, rfl⟩ := Option.map_eq_some_iff.mp hn
  exact ⟨by decide, by simp, named_valueElement (by decide) _, named_valueElement (by decide) _,
    named_valueElement (by decide) _, trivial⟩

theorem named_genScpdAction (varnames : ι → Option String) (act : ServiceAction ι) (n : Node)
    (hn : genScpdAction varnames act = some n) : Named n := by
  unfold genScpdAction at hn
  cases hargs : act.arguments with
  | none =>
    rw [hargs] at hn
    obtain rfl := Option.some.inj hn
    exact ⟨by decide, by simp, named_valueElement (by decide) _, trivial⟩
  | some arglist =>
    rw [hargs] at hn
    obtain ⟨arguments, hlist, rfl⟩ := Option.map_eq_some_iff.mp hn
    have hnamed := allNamed_mapM (named_argumentElement varnames) hlist
    exact ⟨by decide, by simp, named_valueElement (by decide) _,
      ⟨by decide, by simp, hnamed⟩, trivial⟩

theorem named_genScpdStatevar (name : String) (m : VarMeta) : Named (genScpdStatevar name m) := by
  have hvalue (tag value : String) (htag : IsName tag) := named_valueElement htag value
  refine ⟨by decide, ⟨by simp; decide, by simp⟩, (allNamed_iff _).mpr fun n hn => ?_⟩
  simp only [List.mem_append, List.mem_cons, List.not_mem_nil, or_false, Option.mem_toList,
    Option.map_eq_some_iff] at hn
  rcases hn with (((rfl | rfl) | ⟨l, -, rfl⟩) | ⟨range, -, rfl⟩) | ⟨value, -, rfl⟩
  · exact hvalue _ _ (by decide)
  · exact hvalue _ _ (by decide)
  · refine ⟨by decide, by simp, (allNamed_iff _).mpr fun n hn => ?_⟩
    obtain ⟨v, -, rfl⟩ := List.mem_map.mp hn
    exact hvalue _ _ (by decide)
  · refine ⟨by decide, by simp, (allNamed_iff _).mpr fun n hn => ?_⟩
    have hcases : n = valueElementLong "minimum" range.min ∨
        n = valueElementLong "maximum" range.max ∨ n = valueElementLong "step" range.step := by
      split_ifs at hn <;> simp at hn <;> tauto
    rcases hcases with rfl | rfl | rfl <;> exact hvalue _ _ (by decide)
  · exact hvalue _ _ (by decide)

theorem named_statevarElement (srv : ServiceTables ι) (i : ι) (n : Node)
    (hn : statevarElement srv i = some n) : Named n := by
  obtain ⟨name, -, hn⟩ := Option.bind_eq_some_iff.mp hn
  obtain ⟨dataType, -, rfl⟩ := Option.map_eq_some_iff.mp hn
  exact named_genScpdStatevar name _

end Names

section RoundTrip

variable {ι : Type} (srv : ServiceTables ι)

theorem readVersion_genSpecversion (rest : List Node) :
    readVersion (normal (newTopElement "scpd" (some "urn:schemas-upnp-org:service-1-0")
      (genSpecversion 1 0 :: rest))) = some (1, 0) := by
  have hmajor : readNumber (normal (genSpecversion 1 0)) "major" = some 1 :=
    readNumber_normal (by decide) _ rfl
  have hminor : readNumber (normal (genSpecversion 1 0)) "minor" = some 0 :=
    readNumber_normal (by decide) _ rfl
  have hversion : findElement (newTopElement "scpd" (some "urn:schemas-upnp-org:service-1-0")
      (genSpecversion 1 0 :: rest)) "specVersion" = some (genSpecversion 1 0) := rfl
  rw [readVersion, findElement_normal (by decide), hversion, Option.map_some, Option.bind_some,
    hmajor, Option.bind_some, hminor, Option.map_some]

theorem nodeName_genScpdAction (varnames : ι → Option String) (act : ServiceAction ι) (n : Node)
    (hn : genScpdAction varnames act = some n) : nodeName n = "action" := by
  unfold genScpdAction at hn
  cases hargs : act.arguments with
  | none =>
    rw [hargs] at hn
    exact congrArg nodeName (Option.some.inj hn).symm
  | some arglist =>
    rw [hargs] at hn
    obtain ⟨arguments, -, rfl⟩ := Option.map_eq_some_iff.mp hn
    rfl

theorem nodeName_statevarElement (i : ι) (n : Node) (hn : statevarElement srv i = some n) :
    nodeName n = "stateVariable" := by
  obtain ⟨name, -, hn⟩ := Option.bind_eq_some_iff.mp hn
  obtain ⟨dataType, -, rfl⟩ := Option.map_eq_some_iff.mp hn
  rfl

def ArgumentsNamed (act : ServiceAction ι) : Prop :=
  ∀ arglist, act.arguments = some arglist →
    ∀ arg ∈ arglist, (srv.variableNames arg.statevar).isSome

def VariableNamed (i : ι) : Prop :=
  (srv.variableNames i).isSome ∧ (paramDatatypeNames (srv.variableMeta i).datatype).isSome

/-- The names that a description needs are there. -/
structure Complete : Prop where
  actions : ∀ act ∈ srv.actions, ArgumentsNamed srv act
  stateVariables : ∀ i ∈ srv.stateVariables, VariableNamed srv i

variable {srv} in
theorem complete_iff {α β : Type} {g : ServiceAction ι → Option α} {h : ι → Option β}
    (hg : ∀ act, (g act).isSome ↔ ArgumentsNamed srv act)
    (hh : ∀ i, (h i).isSome ↔ VariableNamed srv i) :
    (srv.actions.mapM g).isSome ∧ (srv.stateVariables.mapM h).isSome ↔ Complete srv := by
  rw [isSome_mapM, isSome_mapM]
  constructor
  · rintro ⟨hactions, hvariables⟩
    exact ⟨fun act hact => (hg act).mp (hactions act hact),
      fun i hi => (hh i).mp (hvariables i hi)⟩
  · rintro ⟨hactions, hvariables⟩
    exact ⟨fun act hact => (hg act).mpr (hactions act hact),
      fun i hi => (hh i).mpr (hvariables i hi)⟩

theorem describe_isSome : (describe srv).isSome ↔ Complete srv := by
  rw [← complete_iff (g := describeAction srv.variableNames) (h := describeVariable srv)]
  · unfold describe
    cases srv.actions.mapM (describeAction srv.variableNames) <;> simp
  · intro act
    unfold describeAction ArgumentsNamed
    cases act.arguments <;> simp [isSome_mapM, describeArgument]
  · intro i
    unfold describeVariable VariableNamed
    cases srv.variableNames i <;> simp

theorem generateScpd_isSome : (generateScpd srv).isSome ↔ Complete srv := by
  rw [← complete_iff (g := genScpdAction srv.variableNames) (h := statevarElement srv)]
  · unfold generateScpd genScpdActionlist genScpdServicestatetable
    cases srv.actions.mapM (genScpdAction srv.variableNames) <;> simp
  · intro act
    unfold genScpdAction ArgumentsNamed
    cases act.arguments <;> simp [isSome_mapM, argumentElement]
  · intro i
    unfold statevarElement VariableNamed
    cases srv.variableNames i <;> simp

theorem upnpGetScpd_isSome (write : Node → String) :
    (upnpGetScpd write srv).isSome ↔ Complete srv := by
  rw [upnpGetScpd, Option.isSome_map, generateScpd_isSome]

/-- A controller reads from a service description what the tables say. -/
theorem scpd_read :
    (generateScpd srv).bind (fun root => readService (normal root)) = describe srv := by
  have hactions := childrenNamed_list "actionList" (by decide)
    (nodeName_genScpdAction srv.variableNames) (readAction_genScpdAction srv.variableNames)
    srv.actions
  have htable := childrenNamed_list "serviceStateTable" (by decide)
    (nodeName_statevarElement srv) (readVariable_statevarElement srv) srv.stateVariables
  rw [generateScpd, describe, ← hactions, ← htable, genScpdActionlist, genScpdServicestatetable]
  cases srv.actions.mapM (genScpdAction srv.variableNames) with
  | none => rfl
  | some actionNodes =>
    cases srv.stateVariables.mapM (statevarElement srv) with
    | none => simp only [Option.map_some, Option.map_none, Option.bind_some, Option.bind_none,
        Option.bind_fun_none]
    | some variableNodes =>
      have hversion := readVersion_genSpecversion
        [.element "actionList" [] actionNodes, .element "serviceStateTable" [] variableNodes]
      have hlist (key : String) (hkey : key ≠ "#text") := findElement_normal hkey
        (newTopElement "scpd" (some "urn:schemas-upnp-org:service-1-0") [genSpecversion 1 0,
          .element "actionList" [] actionNodes, .element "serviceStateTable" [] variableNodes])
      simp only [Option.map_some, Option.bind_some, readService, hversion,
        hlist "actionList" (by decide), hlist "serviceStateTable" (by decide)]
      rfl

/-- A service description is made exactly if every name it needs is there, and then a controller
reads from it what the tables say. -/
theorem scpd_readBack : ((generateScpd srv).isSome ↔ Complete srv) ∧
    ((describe srv).isSome ↔ Complete srv) ∧
    (generateScpd srv).bind (fun root => readService (normal root)) = describe srv :=
  ⟨generateScpd_isSome srv, describe_isSome srv, scpd_read srv⟩

variable {srv}

theorem named_genSpecversion (major minor : ℤ) : Named (genSpecversion major minor) :=
  ⟨by decide, by simp, named_valueElement (by decide) _, named_valueElement (by decide) _,
    trivial⟩

theorem generateScpd_eq_some {root : Node} (h : generateScpd srv = some root) :
    ∃ actions table, root = newTopElement "scpd" (some "urn:schemas-upnp-org:service-1-0")
        [genSpecversion 1 0, .element "actionList" [] actions,
          .element "serviceStateTable" [] table] ∧
      AllNamed actions ∧ AllNamed table := by
  obtain ⟨actionList, hlist, h⟩ := Option.bind_eq_some_iff.mp h
  obtain ⟨stateTable, hstates, rfl⟩ := Option.map_eq_some_iff.mp h
  obtain ⟨actions, hactions, rfl⟩ := Option.map_eq_some_iff.mp hlist
  obtain ⟨table, htable, rfl⟩ := Option.map_eq_some_iff.mp hstates
  exact ⟨actions, table, rfl, allNamed_mapM (named_genScpdAction srv.variableNames) hactions,
    allNamed_mapM (named_statevarElement srv) htable⟩

/-- A description of plain characters that is written and parsed. -/
theorem parse_generateScpd {write : Node → String} {parse : String → Option Node}
    (hparse : ReadsBack write parse) {root : Node} (h : generateScpd srv = some root)
    (hplain : Plain root) : parse (write root) = some (normal root) := by
  obtain ⟨actions, table, rfl, hactions, htable⟩ := generateScpd_eq_some h
  exact hparse.parse_write _ _ _ ⟨by decide, by simp; decide, named_genSpecversion 1 0,
    ⟨by decide, by simp, hactions⟩, ⟨by decide, by simp, htable⟩, trivial⟩ hplain

end RoundTrip

section Listed

variable {ι : Type} {srv : ServiceTables ι} {info : ServiceInfo}

theorem describe_eq_some (h : describe srv = some info) : info.version = (1, 0) ∧
    srv.actions.mapM (describeAction srv.variableNames) = some info.actions ∧
    srv.stateVariables.mapM (describeVariable srv) = some info.stateTable := by
  obtain ⟨actions, hactions, h⟩ := Option.bind_eq_some_iff.mp h
  obtain ⟨stateTable, htable, rfl⟩ := Option.map_eq_some_iff.mp h
  exact ⟨rfl, hactions, htable⟩

theorem name_describeAction {varnames : ι → Option String} {act : ServiceAction ι}
    {a : ActionInfo} (ha : describeAction varnames act = some a) : a.name = act.actionName := by
  unfold describeAction at ha
  cases hargs : act.arguments with
  | none =>
    rw [hargs] at ha
    exact congrArg ActionInfo.name (Option.some.inj ha).symm
  | some arglist =>
    rw [hargs] at ha
    obtain ⟨args, -, rfl⟩ := Option.map_eq_some_iff.mp ha
    rfl

/-- The actions are listed under their names, in the order of the table. -/
theorem describe_actions (h : describe srv = some info) :
    info.actions.map ActionInfo.name = srv.actions.map ServiceAction.actionName :=
  map_of_mapM (fun _ _ ha => name_describeAction ha) (describe_eq_some h).2.1

theorem describe_stateTable (h : describe srv = some info) :
    info.stateTable.map (fun v => some v.name) = srv.stateVariables.map srv.variableNames := by
  refine map_of_mapM (fun i v hv => ?_) (describe_eq_some h).2.2
  obtain ⟨name, hname, hv⟩ := Option.bind_eq_some_iff.mp hv
  obtain ⟨dataType, -, rfl⟩ := Option.map_eq_some_iff.mp hv
  exact hname.symm

theorem mem_stateTable (h : describe srv = some info) {name : String} :
    (∃ v ∈ info.stateTable, v.name = name) ↔
      ∃ i ∈ srv.stateVariables, srv.variableNames i = some name := by
  have hmem : some name ∈ info.stateTable.map (fun v => some v.name) ↔
      some name ∈ srv.stateVariables.map srv.variableNames := by rw [describe_stateTable h]
  simpa using hmem

/-- An argument is listed with a variable of the state table, if its variable is one of the
service's. -/
theorem related_mem_stateTable (h : describe srv = some info)
    (hvars : ∀ act ∈ srv.actions, ∀ arglist, act.arguments = some arglist →
      ∀ arg ∈ arglist, arg.statevar ∈ srv.stateVariables)
    {a : ActionInfo} (ha : a ∈ info.actions) {args : List ArgumentInfo}
    (hargs : a.arguments = some args) {arg : ArgumentInfo} (harg : arg ∈ args) :
    ∃ v ∈ info.stateTable, v.name = arg.relatedStateVariable := by
  obtain ⟨act, hact, ha⟩ := mem_of_mapM (describe_eq_some h).2.1 ha
  unfold describeAction at ha
  cases harguments : act.arguments with
  | none =>
    rw [harguments] at ha
    obtain rfl := Option.some.inj ha
    cases hargs
  | some arglist =>
    rw [harguments] at ha
    obtain ⟨args', hlist, rfl⟩ := Option.map_eq_some_iff.mp ha
    obtain rfl := Option.some.inj hargs
    obtain ⟨source, hsource, harg⟩ := mem_of_mapM hlist harg
    obtain ⟨statevar, hname, rfl⟩ := Option.map_eq_some_iff.mp harg
    exact (mem_stateTable h).mpr
      ⟨source.statevar, hvars act hact arglist harguments source hsource, hname⟩

end Listed

end GMediaRender.ServiceDescription
