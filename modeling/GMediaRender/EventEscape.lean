import GMediaRender.Subscription
import GMediaRender.XmlEscape

/-!
What escaping does to the documents that are sent to subscribers. The three entities form a
table, so an escaped text is read back whatever it contains, and every document that a
subscriber receives is the escaped form of one that the builder has made.
-/
namespace GMediaRender.EventEscape

open XmlDoc VariableContainer LastChangeStream Subscription EntityCode HeapBlock XmlEscape Runs

/-- The entities that stand for characters in text that is not an attribute value. -/
def xmlEntities : EntityTable UInt8 where
  mark := byte '&'
  entities := [⟨ascii "lt;", byte '<'⟩, ⟨ascii "gt;", byte '>'⟩, ⟨ascii "amp;", byte '&'⟩]
  mark_notMem_body := by decide
  eq_of_body_le := by decide
  mark_escaped := by decide

def utf8 (text : String) : List UInt8 := text.toList.flatMap String.utf8EncodeChar

/-- Text without angle brackets in which every ampersand begins an entity. -/
structure Escaped (text : List UInt8) : Prop where
  noLess : byte '<' ∉ text
  noGreater : byte '>' ∉ text
  entity : ∀ before after, text = before ++ byte '&' :: after →
    ∃ e ∈ xmlEntities.entities, xmlEntities.word e <+: byte '&' :: after

/-- A received document gives the bytes of `xml` when its entities are replaced. -/
def UnescapesTo (doc xml : String) : Prop :=
  Escaped (utf8 doc) ∧ xmlEntities.replace (utf8 doc) = utf8 xml

section Bytes

theorem escapeByte_eq (c : UInt8) : escapeByte false c = xmlEntities.escape c := by
  unfold escapeByte EntityTable.escape
  simp only [xmlEntities, List.find?_cons]
  by_cases hless : c = byte '<'
  · subst hless
    decide
  by_cases hgreater : c = byte '>'
  · subst hgreater
    decide
  by_cases hamp : c = byte '&'
  · subst hamp
    decide
  simp [hless, hgreater, hamp, Ne.symm hless, Ne.symm hgreater, Ne.symm hamp]

theorem escapeBytes_eq (str : List UInt8) :
    escapeBytes false str = str.flatMap xmlEntities.escape := by
  rw [escapeBytes, funext escapeByte_eq]

theorem escapeBytes_escaped (str : List UInt8) : Escaped (escapeBytes false str) := by
  rw [escapeBytes_eq]
  refine ⟨?_, ?_, ?_⟩
  · exact xmlEntities.notMem_escape (by decide) (by decide) str
  · exact xmlEntities.notMem_escape (by decide) (by decide) str
  · exact xmlEntities.word_of_mark str

theorem replace_escapeBytes (str : List UInt8) :
    xmlEntities.replace (escapeBytes false str) = str := by
  rw [escapeBytes_eq]
  exact xmlEntities.replace_escape str

example : escapeBytes false (ascii "&amp;lt;") = ascii "&amp;amp;lt;" ∧
    xmlEntities.replace (ascii "&amp;amp;lt;") = ascii "&amp;lt;" := by decide

/-- Escaping a string of C does not put a NUL into it. -/
theorem escapeBytes_noNul (attr : Bool) (str : CString) : 0 ∉ escapeBytes attr str.bytes := by
  intro hmem
  obtain ⟨c, hc, hzero⟩ := List.mem_flatMap.mp hmem
  unfold escapeByte at hzero
  split_ifs at hzero
  · exact absurd hzero (by decide)
  · exact absurd hzero (by decide)
  · exact absurd hzero (by decide)
  · exact absurd hzero (by decide)
  · exact str.noNul (List.mem_singleton.mp hzero ▸ hc)

/-- An escaped string with its NUL is read back. -/
theorem readString_escapeBytes (attr : Bool) (str : CString) :
    Block.readString ((escapeBytes attr str.bytes ++ [0]).map some) =
      some (escapeBytes attr str.bytes) := by
  simpa using Block.readString_append ⟨_, escapeBytes_noNul attr str⟩ []

/-- The string that `xmlescape` returns. -/
theorem readString_xmlescape (room : ℕ → Bool) (str : CString) (block : Block)
    (h : 5 * str.bytes.length + 1 < 2 ^ 31)
    (hblock : XmlEscape.xmlescape room str false = some block) :
    Block.readString block.bytes = some (escapeBytes false str.bytes) := by
  have hle := escapeBytes_length_le false str.bytes
  rw [xmlescape_eq str false room (by omega)] at hblock
  split_ifs at hblock
  obtain rfl := Option.some.inj hblock
  exact readString_escapeBytes false str

end Bytes

section Characters

/-- A byte below 128 stands for the character with its number. -/
theorem toNat_of_mem_utf8 {c : Char} {b : UInt8} (hb : b ∈ String.utf8EncodeChar c)
    (hlow : b.toNat < 128) : c.toNat = b.toNat := by
  unfold String.utf8EncodeChar at hb
  simp only [Char.toNat_val] at hb
  split_ifs at hb <;> simp only [List.mem_cons, List.not_mem_nil, or_false] at hb
  all_goals rcases hb with rfl | rfl | rfl | rfl
  all_goals
    simp only [UInt8.toNat_ofNat'] at hlow ⊢
    omega

theorem byte_notMem_utf8 {c d : Char} (hd : d.toNat < 128) (hne : c ≠ d) :
    byte d ∉ String.utf8EncodeChar c := by
  intro hmem
  have hbyte : (byte d).toNat = d.toNat := by
    simp only [byte, Nat.toUInt8, UInt8.toNat_ofNat']
    omega
  have hnat := toNat_of_mem_utf8 hmem (hbyte ▸ hd)
  exact hne (Char.toNat_inj.mp (hnat.trans hbyte))

/-- Escaping a character is escaping the bytes of its encoding. -/
theorem utf8_xmlescapeChar (attr : Bool) (c : Char) :
    (xmlescapeChar attr c).flatMap String.utf8EncodeChar =
      (String.utf8EncodeChar c).flatMap (escapeByte attr) := by
  by_cases hless : c = '<'
  · subst hless
    cases attr <;> decide
  by_cases hquote : c = '"'
  · subst hquote
    cases attr <;> decide
  by_cases hgreater : c = '>'
  · subst hgreater
    cases attr <;> decide
  by_cases hamp : c = '&'
  · subst hamp
    cases attr <;> decide
  have hchar : xmlescapeChar attr c = [c] := by
    simp [xmlescapeChar, hless, hquote, hgreater, hamp]
  have hbyte : ∀ b ∈ String.utf8EncodeChar c, escapeByte attr b = [b] := by
    intro b hb
    have hne : ∀ d : Char, d.toNat < 128 → c ≠ d → b ≠ byte d := by
      intro d hd hcd heq
      exact byte_notMem_utf8 hd hcd (heq ▸ hb)
    simp [escapeByte, hne '<' (by decide) hless, hne '"' (by decide) hquote,
      hne '>' (by decide) hgreater, hne '&' (by decide) hamp]
  rw [hchar, List.flatMap_congr hbyte]
  simp

theorem utf8_xmlescape (text : String) (attr : Bool) :
    utf8 (XmlDoc.xmlescape text attr) = escapeBytes attr (utf8 text) := by
  simp only [utf8, XmlDoc.xmlescape, String.toList_ofList, escapeBytes, List.flatMap_assoc]
  exact List.flatMap_congr fun c _ => utf8_xmlescapeChar attr c

/-- Replacing the entities of an escaped document gives back the document. -/
theorem xmlescape_unescapesTo (xml : String) : UnescapesTo (XmlDoc.xmlescape xml false) xml := by
  unfold UnescapesTo
  rw [utf8_xmlescape]
  exact ⟨escapeBytes_escaped (utf8 xml), replace_escapeBytes (utf8 xml)⟩

end Characters

section Documents

variable {ι : Type} [DecidableEq ι]
variable (T : VariableTable ι) (serialise : Node → String) (ns : String)

/-- A document that gives one made by the builder when its entities are replaced. -/
def Made (doc : String) : Prop :=
  ∃ (b : Builder) (xml : String), b.toXml serialise = some xml ∧ UnescapesTo doc xml

def AllMade (s : Eventing ι) : Prop := ∀ doc ∈ s.notified, Made serialise doc

section Walk

variable {inner : Eventing ι → ι → String → Option (Eventing ι × Bool)}
  (hinner : ∀ s i value r, inner s i value = some r → AllMade serialise s → AllMade serialise r.1)
include hinner

omit [DecidableEq ι] in
theorem notifyWith_made {s s' : Eventing ι} (h : notifyWith serialise inner s = some s')
    (hs : AllMade serialise s) : AllMade serialise s' := by
  unfold notifyWith at h
  split_ifs at h
  · obtain rfl := Option.some.inj h
    exact hs
  · split at h
    · obtain rfl := Option.some.inj h
      exact hs
    · next xml hxml =>
      obtain ⟨r, hr, rfl⟩ := Option.map_eq_some_iff.mp h
      have hmade := hinner _ _ _ r hr hs
      split_ifs
      · intro doc hdoc
        rcases List.mem_append.mp hdoc with hold | hnew
        · exact hmade doc hold
        · obtain rfl := List.mem_singleton.mp hnew
          exact ⟨s.collector.builder, xml, hxml, xmlescape_unescapesTo xml⟩
      · exact hmade

theorem callListeners_made (i : ι) (old new : String) (l : List Listener) {s s' : Eventing ι}
    (h : callListeners T serialise inner i old new l s = some s') (hs : AllMade serialise s) :
    AllMade serialise s' := by
  induction l generalizing s with
  | nil =>
    obtain rfl := Option.some.inj h
    exact hs
  | cons a l ih =>
    cases a with
    | observer k => exact ih h hs
    | collector =>
      obtain ⟨t, ht, hrest⟩ := Option.bind_eq_some_iff.mp h
      refine ih hrest ?_
      unfold collectorCallback at ht
      split_ifs at ht
      · obtain rfl := Option.some.inj ht
        exact hs
      · obtain ⟨name, -, hnotify⟩ := Option.bind_eq_some_iff.mp ht
        exact notifyWith_made serialise hinner hnotify hs

end Walk

theorem changeDepth_made (depth : ℕ) (s : Eventing ι) (i : ι) (value : String)
    (r : Eventing ι × Bool) (h : changeDepth T serialise depth s i value = some r)
    (hs : AllMade serialise s) : AllMade serialise r.1 := by
  induction depth generalizing s i value r with
  | zero => simp [changeDepth] at h
  | succ depth ih =>
    rw [changeDepth] at h
    split_ifs at h
    · obtain rfl := Option.some.inj h
      exact hs
    · obtain ⟨s', hs', rfl⟩ := Option.map_eq_some_iff.mp h
      exact callListeners_made T serialise ih i _ value _ hs' hs

variable {T serialise} in
theorem Op.apply_made {s s' : Eventing ι} {op : Op ι} (h : op.apply T serialise s = some s')
    (hs : AllMade serialise s) : AllMade serialise s' := by
  cases op with
  | change i value =>
    obtain ⟨r, hr, rfl⟩ := Option.map_eq_some_iff.mp h
    exact changeDepth_made T serialise 2 s i _ r hr hs
  | start =>
    obtain rfl := Option.some.inj h
    exact hs
  | finish =>
    simp only [Op.apply, VariableContainer.finish] at h
    split_ifs at h
    exact notifyWith_made serialise (changeDepth_made T serialise 1) h hs
  | addIgnore i =>
    obtain rfl := Option.some.inj h
    exact hs
  | observe id =>
    obtain rfl := Option.some.inj h
    exact hs

theorem newCollector_made {values : ι → String} {observers : List Listener} {e : Eventing ι}
    (h : newCollector T serialise values observers ns = some e) : AllMade serialise e := by
  unfold newCollector at h
  split_ifs at h
  obtain ⟨lastChange, -, h⟩ := Option.bind_eq_some_iff.mp h
  obtain ⟨s, hs, rfl⟩ := Option.map_eq_some_iff.mp h
  have hmade : AllMade serialise s := by
    refine notifyWith_made serialise (changeDepth_made T serialise 1) hs fun doc hdoc => ?_
    exact absurd hdoc List.not_mem_nil
  exact hmade

theorem initialDocument_made {b : Builder} {doc : String}
    (h : initialDocument serialise b = some doc) :
    ∃ xml, b.toXml serialise = some xml ∧ UnescapesTo doc xml := by
  obtain ⟨xml, hxml, rfl⟩ := Option.map_eq_some_iff.mp h
  exact ⟨xml, hxml, xmlescape_unescapesTo xml⟩

/-- What has been notified has been made by the builder, and so has an initial document. -/
structure Invariant (s : State ι) : Prop where
  notified : AllMade serialise s.eventing
  initial : ∀ initial before, s.phase = .accepted initial before →
    ∀ doc ∈ initial, Made serialise doc

variable {serialise}

omit [DecidableEq ι] in
theorem Invariant.delivered {s : State ι} (h : Invariant serialise s) :
    ∀ doc ∈ delivered s, Made serialise doc := by
  intro doc hdoc
  unfold Subscription.delivered at hdoc
  split at hdoc
  · next initial before hphase =>
    rcases List.mem_append.mp hdoc with hinitial | hnotified
    · exact h.initial initial before hphase doc (Option.mem_toList.mp hinitial)
    · exact h.notified doc (List.mem_of_mem_drop hnotified)
  · exact absurd hdoc List.not_mem_nil

theorem Invariant.operate {s : State ι} (h : Invariant serialise s) (id : ℕ) (op : Op ι) :
    Invariant serialise (operate T serialise s id op) := by
  unfold Subscription.operate
  split_ifs
  · cases happly : op.apply T serialise s.eventing with
    | none => exact h
    | some e => exact ⟨Op.apply_made happly h.notified, h.initial⟩
  · exact h

theorem Invariant.step {s : State ι} (h : Invariant serialise s) (l : Label ι) :
    Invariant serialise (step T serialise ns s l) := by
  cases l with
  | acquire id =>
    simp only [Subscription.step]
    split_ifs
    · exact ⟨h.notified, h.initial⟩
    · exact h
  | release id =>
    simp only [Subscription.step]
    split_ifs
    · exact ⟨h.notified, h.initial⟩
    · exact h
  | change id i value => exact h.operate T id (.change i value)
  | start id => exact h.operate T id .start
  | finish id => exact h.operate T id .finish
  | snapshot =>
    simp only [Subscription.step]
    split
    · exact ⟨h.notified, fun _ _ hphase => by cases hphase⟩
    · exact h
  | unlock =>
    simp only [Subscription.step]
    split
    · exact ⟨h.notified, fun _ _ hphase => by cases hphase⟩
    · exact h
  | accept =>
    simp only [Subscription.step]
    split
    · next b _ =>
      refine ⟨h.notified, fun initial before hphase doc hdoc => ?_⟩
      obtain ⟨rfl, -⟩ := Phase.accepted.inj hphase
      obtain ⟨xml, hxml, hunescape⟩ := initialDocument_made serialise hdoc
      exact ⟨b, xml, hxml, hunescape⟩
    · exact h

/-- What a notification sends is the escaped form of the document in the builder. -/
theorem notify_sends {s s' : Eventing ι}
    (h : s.collector.ignores T s.collector.lastChangeVariableNum = true)
    (hnotify : VariableContainer.notify T serialise s = some s') :
    s'.notified = s.notified ∨ ∃ xml doc, s.collector.builder.toXml serialise = some xml ∧
      s'.notified = s.notified ++ [doc] ∧ UnescapesTo doc xml := by
  obtain ⟨t, ht, hcore, -⟩ := notifyWith_core T serialise 0 s h
  obtain rfl := Option.some.inj (ht.symm.trans hnotify)
  rw [congrArg Core.notified hcore]
  unfold Core.notify
  split_ifs
  · exact Or.inl rfl
  · split
    · exact Or.inl rfl
    · next xml hxml =>
      split_ifs
      · exact Or.inl rfl
      · exact Or.inr ⟨xml, _, hxml, rfl, xmlescape_unescapesTo xml⟩

variable (serialise)

end Documents

end GMediaRender.EventEscape
