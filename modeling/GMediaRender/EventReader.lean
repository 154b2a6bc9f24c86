import GMediaRender.ActionRequest
import GMediaRender.EventHistory
import GMediaRender.Subscription
import GMediaRender.XmlReader

/-!
What a controller reads from the events it receives. The value of LastChange is escaped once for
the event that carries it; the text that comes out is a document of its own, with an element
for each variable. Reading it gives the entries that the builder collected, as long as their
values have plain characters. Who writes the documents and who parses them are parameters.
-/
namespace GMediaRender.EventReader

open XmlDoc XmlReader ActionRequest VariableContainer StateVariables LastChangeStream Subscription
  EntityCode UpdateLog EventHistory

section Reader

/-- The name and the value of a variable's element. -/
def readEntry : Node → Option (String × String)
  | .element name attributes _ =>
    (attributes.find? fun a => a.1 == "val").map fun a => (name, a.2)
  | .text _ => none

variable (parse : String → Option Node)

/-- The entries of a LastChange document. -/
def readLastChange (xml : String) : Option (List (String × String)) :=
  (parse xml).bind fun event =>
    (findElement event "InstanceID").bind fun instanceId => (nodeChildren instanceId).mapM readEntry

/-- The text that an event has for LastChange: the line ends are read first, then the entities
are replaced. -/
def eventText (doc : String) : String := unescape (lineEnds doc).toList

/-- The entries of what is notified for LastChange. -/
def readEvent (doc : String) : Option (List (String × String)) :=
  readLastChange parse (eventText doc)

/-- The copy of the variables that a controller has after some events. -/
def readCopy (docs : List String) : Option (View String String) :=
  (docs.mapM (readEvent parse)).map copy

end Reader

section RoundTrip

/-- All five entities are replaced, of which `xmlescape` uses three. -/
theorem unescape_xmlescape (xml : String) : unescape (xmlescape xml false).toList = xml := by
  have hcode : ∀ c, (∃ e ∈ ixmlEntities.entities, e.symbol = c ∧
      xmlescapeChar false c = ixmlEntities.word e) ∨
        (c ≠ ixmlEntities.mark ∧ xmlescapeChar false c = [c]) := by
    intro c
    by_cases hless : c = '<'
    · exact Or.inl ⟨⟨"lt;".toList, '<'⟩, by decide, hless.symm, by rw [hless]; rfl⟩
    by_cases hgreater : c = '>'
    · exact Or.inl ⟨⟨"gt;".toList, '>'⟩, by decide, hgreater.symm, by rw [hgreater]; rfl⟩
    by_cases hamp : c = '&'
    · exact Or.inl ⟨⟨"amp;".toList, '&'⟩, by decide, hamp.symm, by rw [hamp]; rfl⟩
    exact Or.inr ⟨hamp, by simp [xmlescapeChar, hless, hgreater, hamp]⟩
  rw [unescape, xmlescape, String.toList_ofList, ixmlEntities.replace_flatMap hcode,
    String.ofList_toList]

/-- The text of a document comes out of an event as it was, but for its line ends. -/
theorem eventText_xmlescape (xml : String) : eventText (xmlescape xml false) = lineEnds xml := by
  have hcode : lineEndsFrom false (xml.toList.flatMap (xmlescapeChar false)) =
      (lineEndsFrom false xml.toList).flatMap (xmlescapeChar false) := by
    refine lineEndsFrom_flatMap (by decide) (by decide) (fun c hreturn hnew => ?_) false _
    unfold xmlescapeChar
    split_ifs
    · decide
    · decide
    · decide
    · decide
    · exact ⟨List.cons_ne_nil c [], by simpa using Ne.symm hreturn, by simpa using Ne.symm hnew⟩
  have hunescape := unescape_xmlescape (lineEnds xml)
  simp only [xmlescape, lineEnds, String.toList_ofList] at hunescape
  simp only [eventText, lineEnds, xmlescape, String.toList_ofList, hcode]
  exact hunescape

theorem normals_valueElements (entries : List (String × String)) :
    normals "" (entries.map Builder.valueElement) = entries.map Builder.valueElement := by
  induction entries with
  | nil => rfl
  | cons e entries ih =>
    have hcons : normals "" (Builder.valueElement e :: entries.map Builder.valueElement) =
        Builder.valueElement e :: normals "" (entries.map Builder.valueElement) := rfl
    rw [List.map_cons, hcons, ih]

theorem isName_val : IsName "val" := by decide

theorem isName_xmlns : IsName "xmlns" := by decide

/-- The attributes of a variable's element, with or without a channel. -/
theorem named_valueElement {e : String × String} (he : IsName e.1) :
    Named (Builder.valueElement e) := by
  refine ⟨he, ?_, trivial⟩
  unfold Builder.channelAttributes
  split_ifs
  · simp only [List.forall_mem_cons, List.map_cons, List.map_nil]
    exact ⟨⟨isName_val, by decide, by simp⟩, by decide⟩
  · simp only [List.forall_mem_cons, List.map_cons, List.map_nil]
    exact ⟨⟨isName_val, by simp⟩, by decide⟩

theorem plain_valueElement {e : String × String} (he : PlainText e.2) :
    Plain (Builder.valueElement e) := by
  refine ⟨?_, trivial⟩
  unfold Builder.channelAttributes
  split_ifs
  · simp only [List.forall_mem_cons]
    exact ⟨he, by decide, by simp⟩
  · simp only [List.forall_mem_cons]
    exact ⟨he, by simp⟩

theorem allNamed_valueElements {entries : List (String × String)}
    (h : ∀ e ∈ entries, IsName e.1) : AllNamed (entries.map Builder.valueElement) := by
  induction entries with
  | nil => trivial
  | cons e entries ih =>
    obtain ⟨he, hrest⟩ := List.forall_mem_cons.mp h
    exact ⟨named_valueElement he, ih hrest⟩

theorem allPlain_valueElements {entries : List (String × String)}
    (h : ∀ e ∈ entries, PlainText e.2) : AllPlain (entries.map Builder.valueElement) := by
  induction entries with
  | nil => trivial
  | cons e entries ih =>
    obtain ⟨he, hrest⟩ := List.forall_mem_cons.mp h
    exact ⟨plain_valueElement he, ih hrest⟩

theorem mapM_readEntry (entries : List (String × String)) :
    (entries.map Builder.valueElement).mapM readEntry = some entries := by
  induction entries with
  | nil => rfl
  | cons e entries ih =>
    have hentry : readEntry (Builder.valueElement e) = some e := rfl
    rw [List.map_cons, List.mapM_cons, hentry, ih]
    rfl

variable {S : Node → String} {parse : String → Option Node} (hparse : ReadsBack S parse)
include hparse

/-- The text of a document is read as its entries. -/
theorem readLastChange_text {ns : String} (hns : PlainText ns) {entries : List (String × String)}
    (hnames : ∀ e ∈ entries, IsName e.1) (hplain : ∀ e ∈ entries, PlainText e.2) :
    readLastChange parse (text S ns entries) = some entries := by
  have hnamed : Named (Builder.changeEventDoc (some ns) entries) := by
    refine ⟨by decide, ⟨?_, by simp⟩,
      ⟨⟨by decide, ⟨?_, by simp⟩, allNamed_valueElements hnames⟩, trivial⟩⟩
    · intro a ha
      obtain rfl : a = ("xmlns", ns) := by simpa using ha
      exact isName_xmlns
    · intro a ha
      obtain rfl : a = ("val", "0") := by simpa using ha
      exact isName_val
  have hvalues : Plain (Builder.changeEventDoc (some ns) entries) := by
    refine ⟨?_, ⟨?_, allPlain_valueElements hplain⟩, trivial⟩
    · intro a ha
      obtain rfl : a = ("xmlns", ns) := by simpa using ha
      exact hns
    · intro a ha
      obtain rfl : a = ("val", "0") := by simpa using ha
      exact (by decide : PlainText "0")
  have hread : parse (text S ns entries) =
      some (normal (Builder.changeEventDoc (some ns) entries)) :=
    hparse.parse_write _ _ _ hnamed hvalues
  have hnormal : normal (Builder.changeEventDoc (some ns) entries) =
      .element "Event" [("xmlns", ns)] [.element "InstanceID" [("val", "0")]
        (normals "" (entries.map Builder.valueElement))] := rfl
  rw [readLastChange, hread, hnormal, normals_valueElements, Option.bind_some]
  exact mapM_readEntry entries

/-- The parser reads the line ends of a document as those of any other text. -/
theorem readLastChange_lineEnds (xml : String) :
    readLastChange parse (lineEnds xml) = readLastChange parse xml := by
  rw [readLastChange, readLastChange, hparse.parse_lineEnds]

theorem readEvent_text {ns : String} (hns : PlainText ns) {entries : List (String × String)}
    (hnames : ∀ e ∈ entries, IsName e.1) (hplain : ∀ e ∈ entries, PlainText e.2) :
    readEvent parse (xmlescape (text S ns entries) false) = some entries := by
  rw [readEvent, eventText_xmlescape, readLastChange_lineEnds hparse,
    readLastChange_text hparse hns hnames hplain]

end RoundTrip

section Controllers

variable {ι : Type} [DecidableEq ι] {T : VariableTable ι} {ns : String} {S : Node → String}

/-- The documents of a controller that is given a snapshot of some values when so many documents
have been sent, and the later ones. -/
def lateDocs (T : VariableTable ι) (values : ι → String) (before : ℕ)
    (p : Publisher String String) : List (List (String × String)) :=
  snapshotDocs (listedEntries T values sendsVariable) ++ p.sent.drop before

variable {s s' : Eventing ι} {p p' : Publisher String String}

theorem lateDocs_texts (hset : Settled T S ns s p) (hset' : Settled T S ns s' p') :
    (initialDocument S (takeSnapshot T ns s.values)).toList ++
        s'.notified.drop s.notified.length =
      (lateDocs T s.values p.sent.length p').map fun es => xmlescape (text S ns es) false := by
  have hlen : s.notified.length = p.sent.length := by
    rw [hset.represents.carries.2, List.length_map]
  have hinitial : (initialDocument S (takeSnapshot T ns s.values)).toList =
      (snapshotDocs (listedEntries T s.values sendsVariable)).map fun es =>
        xmlescape (text S ns es) false := by
    unfold initialDocument Builder.toXml snapshotDocs
    rw [takeSnapshot_eq]
    split_ifs with hnil
    · rfl
    · rfl
  rw [hinitial, hset'.represents.carries.2, hlen, lateDocs, List.map_append, List.map_drop]

/-- Between transactions the snapshot and the later documents give the values of the variables
that are sent. -/
theorem copy_lateDocs (hset : Settled T S ns s p)
    (hidle : s.collector.openTransactions = 0) (hset' : Settled T S ns s' p')
    (hidle' : s'.collector.openTransactions = 0) (hsent : p.sent <+: p'.sent)
    (hmask : s'.collector.notEventableVariables = s.collector.notEventableVariables) {i : ι}
    {name : String} (hev : Evented T s'.collector i name) :
    copy (lateDocs T s.values p.sent.length p') name = some (s'.values i) := by
  obtain ⟨hi, hsends, hheard⟩ := hev
  have hne := sendsVariable_ne hi hsends
  have hheard₀ : s.collector.ignores T i = false := by
    rw [Collector.ignores, ← hmask]
    exact hheard
  have hsnapshot : SnapshotOk T ns (takeSnapshot T ns s.values) :=
    snapshotOk_takeSnapshot s.values
  rw [takeSnapshot_eq] at hsnapshot
  have hstart : replay (fun _ => none) (listedEntries T s.values sendsVariable) name =
      p.published name := by
    have hmem : (name, s.values i) ∈ listedEntries T s.values sendsVariable :=
      mem_listedEntries.mpr ⟨i, hi, hsends, rfl⟩
    rw [replay_of_nodup _ _ hsnapshot.2.2 name _ hmem,
      p.published_eq_store hset.represents.mirrors (hset.idle hidle),
      hset.represents.stored i name hi hne hheard₀]
  have hcopy : copy (lateDocs T s.values p.sent.length p') =
      replay (replay (fun _ => none) (listedEntries T s.values sendsVariable))
        (p'.unread p.sent.length) := by
    rw [copy, lateDocs, List.flatten_append, snapshotDocs_flatten, replay_append]
    rfl
  rw [hcopy, Publisher.replay_unread hsent hstart,
    p'.published_eq_store hset'.represents.mirrors (hset'.idle hidle'),
    hset'.represents.stored i name hi hne hheard]

/-- Each of these documents is one that a builder may have written, and of plain characters if
the values are. -/
theorem plain_lateDocs (hset' : Settled T S ns s' p')
    (hvalues : ∀ i, i ≠ T.lastChange → PlainText (s.values i))
    (hlater : ∀ es ∈ p'.sent.drop p.sent.length, ∀ e ∈ es, PlainText e.2) :
    ∀ es ∈ lateDocs T s.values p.sent.length p', Built T es ∧ ∀ e ∈ es, PlainText e.2 := by
  have hsnapshot : SnapshotOk T ns (takeSnapshot T ns s.values) :=
    snapshotOk_takeSnapshot s.values
  rw [takeSnapshot_eq] at hsnapshot
  intro es hes
  rcases List.mem_append.mp hes with hes | hes
  · unfold snapshotDocs at hes
    split_ifs at hes with hnil
    · simp at hes
    · obtain rfl := List.mem_singleton.mp hes
      refine ⟨⟨hnil, hsnapshot.2.1⟩, fun e he => ?_⟩
      obtain ⟨i, hi, hsends, hvalue⟩ := mem_listedEntries.mp (show (e.1, e.2) ∈ _ from he)
      exact hvalue ▸ hvalues i (sendsVariable_ne hi hsends)
  · exact ⟨hset'.represents.carries.1 es (List.mem_of_mem_drop hes), hlater es hes⟩

variable {parse : String → Option Node} (hparse : ReadsBack S parse) (hns : PlainText ns)
  (hname : ∀ i name, T.name i = some name → IsName name)
include hparse hns hname

omit [DecidableEq ι] in
theorem readCopy_texts {docs : List (List (String × String))} (hdocs : ∀ es ∈ docs, Built T es)
    (hplain : ∀ es ∈ docs, ∀ e ∈ es, PlainText e.2) :
    readCopy parse (docs.map fun es => xmlescape (text S ns es) false) = some (copy docs) := by
  have hread : (docs.map fun es => xmlescape (text S ns es) false).mapM (readEvent parse) =
      some docs := by
    induction docs with
    | nil => rfl
    | cons es docs ih =>
      obtain ⟨hes, hrest⟩ := List.forall_mem_cons.mp hdocs
      obtain ⟨hvalues, hvaluesRest⟩ := List.forall_mem_cons.mp hplain
      have hnames : ∀ e ∈ es, IsName e.1 := by
        intro e he
        obtain ⟨i, hi, -⟩ := hes.2 e he
        exact hname i e.1 hi
      rw [List.map_cons, List.mapM_cons, readEvent_text hparse hns hnames hvalues,
        ih hrest hvaluesRest]
      rfl
  rw [readCopy, hread, Option.map_some]

/-- A controller that is given a snapshot between two transactions and reads every event after
it has, between transactions, the values of the variables that are sent, if all of them have
plain characters. -/
theorem readCopy_late (hinj : InjectiveTexts T S ns) (hset : Settled T S ns s p)
    (hidle : s.collector.openTransactions = 0) {log : List (Change ι)} (h : Evolves T S s log s')
    (hidle' : s'.collector.openTransactions = 0)
    (hvalues : ∀ i, i ≠ T.lastChange → PlainText (s.values i))
    (hlog : ∀ c ∈ log, PlainText c.newValue) :
    ∃ view, readCopy parse ((initialDocument S (takeSnapshot T ns s.values)).toList ++
        s'.notified.drop s.notified.length) = some view ∧
      ∀ i name, Evented T s'.collector i name → view name = some (s'.values i) := by
  obtain ⟨p', hset', hsent, hmask, hall⟩ := h.settled hinj hset
  have hlater := (hall PlainText p.sent.length hlog (allOf_idle hset hidle hvalues)).published.sent
  have hdocs := plain_lateDocs hset' hvalues hlater
  refine ⟨copy (lateDocs T s.values p.sent.length p'), ?_, fun i name hev =>
    copy_lateDocs hset hidle hset' hidle' hsent hmask hev⟩
  rw [lateDocs_texts hset hset', readCopy_texts hparse hns hname (fun es hes => (hdocs es hes).1)
    fun es hes => (hdocs es hes).2]

end Controllers

section Serialiser

/-- A text of a document begins with the XML declaration. -/
def Declared (S : Node → String) : Prop := ∀ root, "<?xml".toList <+: (S root).toList

theorem declared_ixmlDocumentToString : Declared ixmlDocumentToString := fun root =>
  ⟨" version=\"1.0\"?>\r\n".toList ++ nodeText root, String.toList_ofList.symm⟩

/-- LastChange starts as an element, and the first event with the XML declaration. -/
theorem Declared.fresh {S : Node → String} (h : Declared S) {value : String}
    (hvalue : value.toList[1]? = some 'E') (ns : String) (entries : List (String × String)) :
    value ≠ text S ns entries := by
  rintro rfl
  obtain ⟨rest, hrest⟩ := h (Builder.changeEventDoc (some ns) entries)
  rw [text, ← hrest] at hvalue
  exact absurd hvalue (by simp)

theorem injectiveTexts_of_names {ι : Type} {T : VariableTable ι} (ns : String)
    (hname : ∀ i name, T.name i = some name → IsName name) :
    InjectiveTexts T ixmlDocumentToString ns := by
  refine ixmlDocumentToString_injectiveTexts T ns fun i name hi hspace => ?_
  have hchar := (hname i name hi).nameChar ' ' hspace
  exact absurd hchar (by decide)

end Serialiser

end GMediaRender.EventReader
