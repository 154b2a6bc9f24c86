import GMediaRender.EntityCode
import GMediaRender.XmlDoc

/-!
Reading the text of a document back. `ReadsBack` says what is relied on where one program writes
a document and another one parses it. The reader here is an instance: it takes the characters one
by one, with a stack of the elements that are open; entities are replaced where a text or an
attribute value ends. If the contents are of plain characters the text of a node is read as the
node, with adjacent texts joined and empty ones left out.
-/
namespace GMediaRender.XmlReader

open XmlDoc EntityCode

section Characters

/-- The entities of the serialised text. -/
def ixmlEntities : EntityTable Char where
  mark := '&'
  entities := [⟨"lt;".toList, '<'⟩, ⟨"gt;".toList, '>'⟩, ⟨"amp;".toList, '&'⟩,
    ⟨"apos;".toList, '\''⟩, ⟨"quot;".toList, '"'⟩]
  mark_notMem_body := by decide
  eq_of_body_le := by decide
  mark_escaped := by decide

theorem ixmlEscapeChar_eq (c : Char) : ixmlEscapeChar c = ixmlEntities.escape c := by
  unfold ixmlEscapeChar EntityTable.escape
  simp only [ixmlEntities, List.find?_cons]
  by_cases hless : c = '<'
  · subst hless
    decide
  by_cases hgreater : c = '>'
  · subst hgreater
    decide
  by_cases hamp : c = '&'
  · subst hamp
    decide
  by_cases hapos : c = '\''
  · subst hapos
    decide
  by_cases hquot : c = '"'
  · subst hquot
    decide
  simp [hless, hgreater, hamp, hapos, hquot, Ne.symm hless, Ne.symm hgreater, Ne.symm hamp,
    Ne.symm hapos, Ne.symm hquot]

def unescape (raw : List Char) : String := String.ofList (ixmlEntities.replace raw)

theorem unescape_ixmlEscape (s : String) : unescape (ixmlEscape s) = s := by
  rw [unescape, ixmlEscape, funext ixmlEscapeChar_eq, ixmlEntities.replace_escape,
    String.ofList_toList]

theorem less_notMem_ixmlEscape (s : String) : '<' ∉ ixmlEscape s := by
  rw [ixmlEscape, funext ixmlEscapeChar_eq]
  exact ixmlEntities.notMem_escape (by decide) (by decide) s.toList

theorem ixmlEscape_append (s t : String) : ixmlEscape (s ++ t) = ixmlEscape s ++ ixmlEscape t := by
  simp [ixmlEscape]

/-- The characters of the names of elements and attributes. -/
def nameChar (c : Char) : Bool := c.isAlphanum || c ∈ ['_', '-', '.', ':']

structure IsName (s : String) : Prop where
  first : (s.toList.head?.any Char.isAlpha) = true
  nameChar : ∀ c ∈ s.toList, nameChar c = true

instance (s : String) : Decidable (IsName s) :=
  decidable_of_iff (s.toList.head?.any Char.isAlpha = true ∧ s.toList.all nameChar = true)
    ⟨fun h => ⟨h.1, List.all_eq_true.mp h.2⟩, fun h => ⟨h.1, List.all_eq_true.mpr h.2⟩⟩

theorem IsName.ne_nil {s : String} (h : IsName s) : s.toList ≠ [] := by
  intro hnil
  have hfirst := h.first
  rw [hnil] at hfirst
  cases hfirst

/-- Neither a control character nor one that XML does not have. -/
def plainChar (c : Char) : Bool := 0x20 ≤ c.toNat && c.toNat ∉ [0xfffe, 0xffff]

/-- A text that a parser hands on as it is, also where it is the value of an attribute. -/
def PlainText (s : String) : Prop := s.toList.all plainChar = true

instance (s : String) : Decidable (PlainText s) :=
  inferInstanceAs (Decidable (s.toList.all plainChar = true))

theorem PlainText.plainChar {s : String} (h : PlainText s) : ∀ c ∈ s.toList, plainChar c = true :=
  List.all_eq_true.mp h

theorem plainChar_of_nameChar {c : Char} (h : nameChar c = true) : plainChar c = true := by
  have hletters : c.isAlphanum = (decide (c.val ≥ 65 ∧ c.val ≤ 90) ||
      decide (c.val ≥ 97) && decide (c.val ≤ 122) ||
      decide (c.val ≥ 48) && decide (c.val ≤ 57)) := rfl
  simp only [nameChar, hletters, Bool.or_eq_true, Bool.and_eq_true, decide_eq_true_eq,
    UInt32.le_iff_toNat_le, List.mem_cons, List.not_mem_nil, or_false] at h
  have hrange : 0x20 ≤ c.toNat ∧ c.toNat < 0x80 := by
    have hval : c.val.toNat = c.toNat := rfl
    rcases h with ((⟨hlow, hhigh⟩ | ⟨hlow, hhigh⟩) | ⟨hlow, hhigh⟩) | rfl | rfl | rfl | rfl
    · exact ⟨by simp at hlow; omega, by simp at hhigh; omega⟩
    · exact ⟨by simp at hlow; omega, by simp at hhigh; omega⟩
    · exact ⟨by simp at hlow; omega, by simp at hhigh; omega⟩
    all_goals decide
  have hother : c.toNat ∉ [0xfffe, 0xffff] := by simp; omega
  simp [plainChar, hrange.1, hother]

/-- Escaping writes plain characters for plain ones. -/
theorem plainChar_ixmlEscape {s : String} (h : PlainText s) :
    ∀ c ∈ ixmlEscape s, plainChar c = true := by
  intro c hc
  obtain ⟨d, hd, hc⟩ := List.mem_flatMap.mp hc
  unfold ixmlEscapeChar at hc
  have hword (word : String) (hword : PlainText word) (hc : c ∈ word.toList) :
      XmlReader.plainChar c = true := hword.plainChar c hc
  split_ifs at hc
  · exact hword "&lt;" (by decide) hc
  · exact hword "&gt;" (by decide) hc
  · exact hword "&amp;" (by decide) hc
  · exact hword "&apos;" (by decide) hc
  · exact hword "&quot;" (by decide) hc
  · obtain rfl := List.mem_singleton.mp hc
    exact h.plainChar c hd

end Characters

section LineEnds

/-- The line ends of a text after a carriage return, or not after one, each written as one
character. -/
def lineEndsFrom (returned : Bool) : List Char → List Char
  | [] => []
  | c :: text =>
    if c = '\r' then '\n' :: lineEndsFrom true text
    else if c = '\n' ∧ returned = true then lineEndsFrom false text
    else c :: lineEndsFrom false text

/-- What a parser does first with the line ends of a text. -/
def lineEnds (xml : String) : String := String.ofList (lineEndsFrom false xml.toList)

theorem lineEndsFrom_of_notMem {text : List Char} (h : '\r' ∉ text) :
    lineEndsFrom false text = text := by
  induction text with
  | nil => rfl
  | cons c text ih =>
    have hc : c ≠ '\r' := fun heq => h (heq ▸ List.mem_cons_self)
    have hrest := ih (List.not_mem_of_not_mem_cons h)
    simp [lineEndsFrom, hc, hrest]

theorem return_notMem_lineEndsFrom (returned : Bool) (text : List Char) :
    '\r' ∉ lineEndsFrom returned text := by
  induction text generalizing returned with
  | nil => exact List.not_mem_nil
  | cons c text ih =>
    unfold lineEndsFrom
    split_ifs with hreturn hnew
    · exact List.not_mem_cons_of_ne_of_not_mem (by decide) (ih true)
    · exact ih false
    · exact List.not_mem_cons_of_ne_of_not_mem (Ne.symm hreturn) (ih false)

theorem lineEndsFrom_lineEnds (xml : String) :
    lineEndsFrom false (lineEnds xml).toList = lineEndsFrom false xml.toList := by
  rw [lineEnds, String.toList_ofList,
    lineEndsFrom_of_notMem (return_notMem_lineEndsFrom false xml.toList)]

/-- A part of a text without line ends. -/
theorem lineEndsFrom_append {word : List Char} (hne : word ≠ []) (hreturn : '\r' ∉ word)
    (hnew : '\n' ∉ word) (returned : Bool) (text : List Char) :
    lineEndsFrom returned (word ++ text) = word ++ lineEndsFrom false text := by
  induction word generalizing returned with
  | nil => exact absurd rfl hne
  | cons c word ih =>
    have hc : c ≠ '\r' := fun heq => hreturn (heq ▸ List.mem_cons_self)
    have hc' : c ≠ '\n' := fun heq => hnew (heq ▸ List.mem_cons_self)
    have hfirst : lineEndsFrom returned (c :: (word ++ text)) =
        c :: lineEndsFrom false (word ++ text) := by simp [lineEndsFrom, hc, hc']
    rw [List.cons_append, hfirst]
    cases word with
    | nil => rfl
    | cons d word =>
      rw [ih (List.cons_ne_nil d word) (List.not_mem_of_not_mem_cons hreturn)
        (List.not_mem_of_not_mem_cons hnew) false]
      rfl

/-- Line ends may be put right before or after a coding that leaves them alone. -/
theorem lineEndsFrom_flatMap {code : Char → List Char} (hreturn : code '\r' = ['\r'])
    (hnew : code '\n' = ['\n']) (hother : ∀ c, c ≠ '\r' → c ≠ '\n' →
      code c ≠ [] ∧ '\r' ∉ code c ∧ '\n' ∉ code c) (returned : Bool) (text : List Char) :
    lineEndsFrom returned (text.flatMap code) = (lineEndsFrom returned text).flatMap code := by
  induction text generalizing returned with
  | nil => rfl
  | cons c text ih =>
    rw [List.flatMap_cons]
    by_cases hc : c = '\r'
    · subst hc
      simp [lineEndsFrom, hreturn, hnew, ih]
    by_cases hc' : c = '\n'
    · subst hc'
      cases returned <;> simp [lineEndsFrom, hnew, ih]
    obtain ⟨hne, hr, hn⟩ := hother c hc hc'
    rw [lineEndsFrom_append hne hr hn, ih]
    simp [lineEndsFrom, hc, hc']

end LineEnds

section Reader

/-- An element that is open, with the children read so far. -/
structure Frame where
  tag : String
  attributes : List (String × String)
  children : List Node

/-- A text that is not empty. -/
def textNode (s : String) : List Node := if s = "" then [] else [.text s]

def Frame.add (f : Frame) (nodes : List Node) : Frame :=
  { f with children := f.children ++ nodes }

def Frame.set (f : Frame) (name value : String) : Frame :=
  { f with attributes := f.attributes ++ [(name, value)] }

def Frame.node (f : Frame) : Node := .element f.tag f.attributes f.children

inductive Mode where
  | text (raw : List Char)
  /-- After `<`. -/
  | tag
  | name (tag : List Char)
  | inTag (f : Frame)
  | attr (f : Frame) (name : List Char)
  /-- After `=`. -/
  | equals (f : Frame) (name : List Char)
  | value (f : Frame) (name raw : List Char)
  | close (tag : List Char)

/-- The mode and the open elements, the innermost first; the last one is the document. -/
structure State where
  mode : Mode
  stack : List Frame

/-- The end of an opening tag or the space before an attribute. -/
def endName (f : Frame) (stack : List Frame) (c : Char) : Option State :=
  if c = ' ' then some ⟨.attr f [], stack⟩
  else if c = '>' then some ⟨.text [], f :: stack⟩
  else none

/-- A closing tag closes the innermost element, which has its name. -/
def closeElement (tag : List Char) : List Frame → Option State
  | f :: parent :: stack =>
    if f.tag.toList = tag then some ⟨.text [], parent.add [f.node] :: stack⟩ else none
  | _ => none

/-- White space in the value of an attribute. -/
def valueChar (c : Char) : Char := if c = '\t' ∨ c = '\n' then ' ' else c

def step (s : State) (c : Char) : Option State :=
  match s.mode with
  | .text raw =>
    match s.stack with
    | f :: stack =>
      if c = '<' then some ⟨.tag, f.add (textNode (unescape raw)) :: stack⟩
      else some ⟨.text (raw ++ [c]), f :: stack⟩
    | [] => none
  | .tag =>
    if c = '/' then some ⟨.close [], s.stack⟩
    else if nameChar c then some ⟨.name [c], s.stack⟩ else none
  | .name tag =>
    if nameChar c then some ⟨.name (tag ++ [c]), s.stack⟩
    else endName ⟨String.ofList tag, [], []⟩ s.stack c
  | .inTag f => endName f s.stack c
  | .attr f name =>
    if nameChar c then some ⟨.attr f (name ++ [c]), s.stack⟩
    else if c = '=' then some ⟨.equals f name, s.stack⟩ else none
  | .equals f name => if c = '"' then some ⟨.value f name [], s.stack⟩ else none
  | .value f name raw =>
    if c = '"' then
      some ⟨.inTag (f.set (String.ofList name) (unescape raw)), s.stack⟩
    else some ⟨.value f name (raw ++ [valueChar c]), s.stack⟩
  | .close tag =>
    if nameChar c then some ⟨.close (tag ++ [c]), s.stack⟩
    else if c = '>' then closeElement tag s.stack else none

def feed (text : List Char) (s : State) : Option State := text.foldlM step s

/-- The nodes of a text that leaves no element open. -/
def readNodes (text : List Char) : Option (List Node) :=
  (feed text ⟨.text [], [⟨"", [], []⟩]⟩).bind fun s =>
    match s with
    | ⟨.text raw, [f]⟩ => some (f.children ++ textNode (unescape raw))
    | _ => none

def prolog : List Char := "<?xml version=\"1.0\"?>\n".toList

/-- The characters that a document may have, when its line ends are read. -/
def xmlChar (c : Char) : Bool := plainChar c || c ∈ ['\t', '\n']

/-- The root of a document: after the prolog there is one node. -/
def readRoot (text : List Char) : Option Node :=
  if prolog.isPrefixOf text && text.all xmlChar then
    (readNodes (text.drop prolog.length)).bind fun nodes =>
      match nodes with
      | [root] => some root
      | _ => none
  else none

def readDocument (xml : String) : Option Node := readRoot (lineEndsFrom false xml.toList)

end Reader

section Normal

mutual

/-- A node with adjacent texts joined and empty texts left out. -/
def normal : Node → Node
  | .element tag attributes children => .element tag attributes (normals "" children)
  | .text content => .text content

/-- The nodes of a list after the text `pending`. -/
def normals (pending : String) : List Node → List Node
  | [] => textNode pending
  | n :: ns =>
    match n with
    | .text content => normals (pending ++ content) ns
    | .element .. => textNode pending ++ normal n :: normals "" ns

end

mutual

/-- The names of elements and attributes are names, and those of attributes are different. -/
def Named : Node → Prop
  | .element tag attributes children =>
    IsName tag ∧ ((∀ a ∈ attributes, IsName a.1) ∧ (attributes.map Prod.fst).Nodup) ∧
      AllNamed children
  | .text _ => True

def AllNamed : List Node → Prop
  | [] => True
  | n :: ns => Named n ∧ AllNamed ns

end

mutual

/-- The texts and the values of attributes have plain characters alone. -/
def Plain : Node → Prop
  | .element _ attributes children => (∀ a ∈ attributes, PlainText a.2) ∧ AllPlain children
  | .text content => PlainText content

def AllPlain : List Node → Prop
  | [] => True
  | n :: ns => Plain n ∧ AllPlain ns

end

mutual

def decidePlain : (n : Node) → Decidable (Plain n)
  | .element _ attributes children =>
    haveI := decideAllPlain children
    inferInstanceAs (Decidable ((∀ a ∈ attributes, PlainText a.2) ∧ AllPlain children))
  | .text content => inferInstanceAs (Decidable (PlainText content))

def decideAllPlain : (ns : List Node) → Decidable (AllPlain ns)
  | [] => isTrue trivial
  | n :: ns =>
    haveI := decidePlain n
    haveI := decideAllPlain ns
    inferInstanceAs (Decidable (Plain n ∧ AllPlain ns))

end

instance (n : Node) : Decidable (Plain n) := decidePlain n

/-- What is relied on where `write` gives the text of a document and `parse` reads it: a document
of plain characters comes back with adjacent texts joined and empty ones left out, and `parse`
does not tell different line ends apart. -/
structure ReadsBack (write : Node → String) (parse : String → Option Node) : Prop where
  parse_write : ∀ tag attributes children, Named (.element tag attributes children) →
    Plain (.element tag attributes children) →
      parse (write (.element tag attributes children)) =
        some (normal (.element tag attributes children))
  parse_lineEnds : ∀ xml, parse (lineEnds xml) = parse xml

end Normal

section Feed

theorem feed_append (a b : List Char) (s : State) :
    feed (a ++ b) s = (feed a s).bind (feed b) := List.foldlM_append

theorem feed_append_of_eq {a : List Char} {s s' : State} (h : feed a s = some s')
    (b : List Char) : feed (a ++ b) s = feed b s' := by
  rw [feed_append, h, Option.bind_some]

theorem feed_cons_of_eq {c : Char} {s s' : State} (h : step s c = some s') (b : List Char) :
    feed (c :: b) s = feed b s' := by
  rw [feed, List.foldlM_cons, h]
  rfl

/-- Characters that are collected one after the other. -/
theorem feed_collect (mode : List Char → Mode) {stack : List Frame} {text : List Char}
    (h : ∀ c ∈ text, ∀ got, step ⟨mode got, stack⟩ c = some ⟨mode (got ++ [c]), stack⟩)
    (got : List Char) : feed text ⟨mode got, stack⟩ = some ⟨mode (got ++ text), stack⟩ := by
  induction text generalizing got with
  | nil => rw [List.append_nil]; rfl
  | cons c text ih =>
    obtain ⟨hc, htext⟩ := List.forall_mem_cons.mp h
    rw [feed_cons_of_eq (hc got), ih htext, List.append_assoc, List.singleton_append]

theorem feed_text (f : Frame) (stack : List Frame) (s : String) (raw : List Char) :
    feed (ixmlEscape s) ⟨.text raw, f :: stack⟩ =
      some ⟨.text (raw ++ ixmlEscape s), f :: stack⟩ := by
  refine feed_collect .text (fun c hc got => ?_) raw
  have hne : c ≠ '<' := fun heq => less_notMem_ixmlEscape s (heq ▸ hc)
  simp only [step, if_neg hne]

theorem valueChar_of_plainChar {c : Char} (h : plainChar c = true) : valueChar c = c := by
  have hspace : ¬ (c = '\t' ∨ c = '\n') := by
    rintro (rfl | rfl)
    · exact absurd h (by decide)
    · exact absurd h (by decide)
  exact if_neg hspace

theorem feed_value (f : Frame) (stack : List Frame) (name : List Char) {s : String}
    (hs : PlainText s) : feed (ixmlEscape s ++ ['"']) ⟨.value f name [], stack⟩ =
      some ⟨.inTag (f.set (String.ofList name) s), stack⟩ := by
  have hvalue : feed (ixmlEscape s) ⟨.value f name [], stack⟩ =
      some ⟨.value f name ([] ++ ixmlEscape s), stack⟩ := by
    refine feed_collect (.value f name) (fun c hc got => ?_) []
    have hne : c ≠ '"' := fun heq => quote_notMem_ixmlEscape s (heq ▸ hc)
    simp only [step, if_neg hne, valueChar_of_plainChar (plainChar_ixmlEscape hs c hc)]
  have hend : step ⟨.value f name (ixmlEscape s), stack⟩ '"' =
      some ⟨.inTag (f.set (String.ofList name) s), stack⟩ := by
    simp only [step, if_true, unescape_ixmlEscape]
  rw [feed_append_of_eq hvalue, List.nil_append, feed_cons_of_eq hend]
  rfl

theorem feed_attribute {f : Frame} {stack : List Frame} {a : String × String}
    (ha : IsName a.1) (hplain : PlainText a.2) (rest : List Char) :
    feed (attributeText a ++ rest) ⟨.inTag f, stack⟩ =
      feed rest ⟨.inTag (f.set a.1 a.2), stack⟩ := by
  have hname : feed a.1.toList ⟨.attr f [], stack⟩ =
      some ⟨.attr f ([] ++ a.1.toList), stack⟩ := by
    refine feed_collect (.attr f) (fun c hc got => ?_) []
    simp only [step, ha.nameChar c hc, if_true]
  have hequals : step ⟨.attr f a.1.toList, stack⟩ '=' = some ⟨.equals f a.1.toList, stack⟩ := rfl
  have hquote : step ⟨.equals f a.1.toList, stack⟩ '"' =
      some ⟨.value f a.1.toList [], stack⟩ := rfl
  have hspace : step ⟨.inTag f, stack⟩ ' ' = some ⟨.attr f [], stack⟩ := rfl
  have hvalue := feed_value f stack a.1.toList hplain
  rw [String.ofList_toList] at hvalue
  have htext : attributeText a ++ rest =
      ' ' :: (a.1.toList ++ ('=' :: '"' :: ((ixmlEscape a.2 ++ ['"']) ++ rest))) := by
    simp [attributeText]
  rw [htext, feed_cons_of_eq hspace, feed_append_of_eq hname, List.nil_append,
    feed_cons_of_eq hequals, feed_cons_of_eq hquote, feed_append_of_eq hvalue]

theorem feed_attributes {stack : List Frame} (attributes : List (String × String))
    (hnames : ∀ a ∈ attributes, IsName a.1) (hplain : ∀ a ∈ attributes, PlainText a.2)
    (f : Frame) (rest : List Char) :
    feed (attributes.flatMap attributeText ++ rest) ⟨.inTag f, stack⟩ =
      feed rest ⟨.inTag { f with attributes := f.attributes ++ attributes }, stack⟩ := by
  induction attributes generalizing f with
  | nil => rw [List.append_nil]; rfl
  | cons a attributes ih =>
    obtain ⟨ha, hrest⟩ := List.forall_mem_cons.mp hnames
    obtain ⟨hp, hplain⟩ := List.forall_mem_cons.mp hplain
    rw [List.flatMap_cons, List.append_assoc, feed_attribute ha hp, ih hrest hplain]
    simp only [Frame.set, List.append_assoc, List.singleton_append]

/-- The name of an element ends where an attribute or the end of the tag comes. -/
theorem feed_endName {tag : String} {stack : List Frame} {c : Char} (hc : nameChar c = false)
    (rest : List Char) : feed (c :: rest) ⟨.name tag.toList, stack⟩ =
      feed (c :: rest) ⟨.inTag ⟨tag, [], []⟩, stack⟩ := by
  have hstep : step ⟨.name tag.toList, stack⟩ c = step ⟨.inTag ⟨tag, [], []⟩, stack⟩ c := by
    simp only [step, hc, String.ofList_toList]
    rfl
  rw [feed, feed, List.foldlM_cons, List.foldlM_cons, hstep]

theorem feed_open {tag : String} {attributes : List (String × String)} (htag : IsName tag)
    (hnames : ∀ a ∈ attributes, IsName a.1) (hplain : ∀ a ∈ attributes, PlainText a.2)
    (pending : String) (f : Frame) (stack : List Frame) (rest : List Char) :
    feed ('<' :: (tag.toList ++ (attributes.flatMap attributeText ++ '>' :: rest)))
        ⟨.text (ixmlEscape pending), f :: stack⟩ =
      feed rest ⟨.text [], ⟨tag, attributes, []⟩ :: f.add (textNode pending) :: stack⟩ := by
  let open' := f.add (textNode pending) :: stack
  have hless : step ⟨.text (ixmlEscape pending), f :: stack⟩ '<' = some ⟨.tag, open'⟩ := by
    simp only [step, if_true, unescape_ixmlEscape, open']
  obtain ⟨c, name, hname⟩ := List.exists_cons_of_ne_nil htag.ne_nil
  have hchars : ∀ d ∈ c :: name, nameChar d = true := hname ▸ htag.nameChar
  obtain ⟨hc, hchars⟩ := List.forall_mem_cons.mp hchars
  have hfirst : step ⟨.tag, open'⟩ c = some ⟨.name [c], open'⟩ := by
    have hslash : c ≠ '/' := by
      rintro rfl
      exact absurd hc (by decide)
    simp only [step, if_neg hslash, hc, if_true]
  have hrest : feed name ⟨.name [c], open'⟩ = some ⟨.name ([c] ++ name), open'⟩ := by
    refine feed_collect .name (fun d hd got => ?_) [c]
    simp only [step, hchars d hd, if_true]
  have hend : ∃ d text, attributes.flatMap attributeText ++ '>' :: rest = d :: text ∧
      nameChar d = false := by
    cases attributes with
    | nil => exact ⟨'>', rest, rfl, by decide⟩
    | cons a attributes =>
      refine ⟨' ', a.1.toList ++ '=' :: '"' :: (ixmlEscape a.2 ++ '"' ::
        (attributes.flatMap attributeText ++ '>' :: rest)), ?_, by decide⟩
      simp [attributeText]
  have hclose : step ⟨.inTag ⟨tag, attributes, []⟩, open'⟩ '>' =
      some ⟨.text [], ⟨tag, attributes, []⟩ :: open'⟩ := rfl
  obtain ⟨d, text, htext, hd⟩ := hend
  rw [feed_cons_of_eq hless, hname, List.cons_append, feed_cons_of_eq hfirst,
    feed_append_of_eq hrest, List.singleton_append, ← hname, htext, feed_endName hd, ← htext,
    feed_attributes attributes hnames hplain, List.nil_append, feed_cons_of_eq hclose]

theorem feed_close {tag : String} (htag : IsName tag) (attributes : List (String × String))
    (children : List Node) (pending : String) (f : Frame) (stack : List Frame) :
    feed ('<' :: '/' :: (tag.toList ++ ['>']))
        ⟨.text (ixmlEscape pending), ⟨tag, attributes, children⟩ :: f :: stack⟩ =
      some ⟨.text [], f.add [.element tag attributes (children ++ textNode pending)] :: stack⟩ := by
  let last : Frame := ⟨tag, attributes, children ++ textNode pending⟩
  have hless : step ⟨.text (ixmlEscape pending), ⟨tag, attributes, children⟩ :: f :: stack⟩ '<' =
      some ⟨.tag, last :: f :: stack⟩ := by
    simp only [step, if_true, unescape_ixmlEscape, Frame.add, last]
  have hslash : step ⟨.tag, last :: f :: stack⟩ '/' = some ⟨.close [], last :: f :: stack⟩ := rfl
  have hname : feed tag.toList ⟨.close [], last :: f :: stack⟩ =
      some ⟨.close ([] ++ tag.toList), last :: f :: stack⟩ := by
    refine feed_collect .close (fun d hd got => ?_) []
    simp only [step, htag.nameChar d hd, if_true]
  have hclose : step ⟨.close tag.toList, last :: f :: stack⟩ '>' =
      some ⟨.text [], f.add [last.node] :: stack⟩ := by
    have hname : nameChar '>' = false := by decide
    simp only [step, hname, closeElement, last]
    rfl
  rw [feed_cons_of_eq hless, feed_cons_of_eq hslash, feed_append_of_eq hname, List.nil_append,
    feed_cons_of_eq hclose]
  rfl

end Feed

section RoundTrip

/-- The children that are read from the text of some nodes. -/
theorem feed_nodesText (ns : List Node) (hns : AllNamed ns) (hplain : AllPlain ns)
    (pending : String) (f : Frame) (stack : List Frame) : ∃ pending' children,
      feed (nodesText ns) ⟨.text (ixmlEscape pending), f :: stack⟩ =
        some ⟨.text (ixmlEscape pending'), { f with children := children } :: stack⟩ ∧
      children ++ textNode pending' = f.children ++ normals pending ns :=
  match ns, hns, hplain with
  | [], _, _ => ⟨pending, f.children, rfl, rfl⟩
  | .text content :: ns, hns, hplain => by
    obtain ⟨pending', children, hfeed, hchildren⟩ :=
      feed_nodesText ns hns.2 hplain.2 (pending ++ content) f stack
    have htext := feed_text f stack content (ixmlEscape pending)
    rw [← ixmlEscape_append] at htext
    refine ⟨pending', children, ?_, hchildren⟩
    rw [nodesText, nodeText, feed_append_of_eq htext, hfeed]
  | .element tag attributes inner :: ns, hns, hplain => by
    obtain ⟨⟨htag, ⟨hnames, -⟩, hinner⟩, hns⟩ := hns
    obtain ⟨⟨hvalues, hinnerPlain⟩, hplain⟩ := hplain
    let g := f.add (textNode pending)
    obtain ⟨last, children, hfeed, hchildren⟩ :=
      feed_nodesText inner hinner hinnerPlain "" ⟨tag, attributes, []⟩ (g :: stack)
    obtain ⟨pending', all, hrest, hall⟩ :=
      feed_nodesText ns hns hplain "" (g.add [.element tag attributes (normals "" inner)]) stack
    have hempty : ixmlEscape "" = [] := rfl
    have hclose := feed_close htag attributes children last g stack
    rw [hchildren, List.nil_append] at hclose
    rw [hempty] at hfeed hrest
    have htext : nodesText (.element tag attributes inner :: ns) =
        '<' :: (tag.toList ++ (attributes.flatMap attributeText ++ '>' :: (nodesText inner ++
          (('<' :: '/' :: (tag.toList ++ ['>'])) ++ nodesText ns)))) := by
      simp [nodesText, nodeText]
    refine ⟨pending', all, ?_, ?_⟩
    · rw [htext, feed_open htag hnames hvalues, feed_append_of_eq hfeed, feed_append_of_eq hclose,
        hrest]
      rfl
    · rw [hall]
      simp only [Frame.add, normals, normal, g, List.append_assoc, List.singleton_append]

theorem readNodes_nodesText (ns : List Node) (hns : AllNamed ns) (hplain : AllPlain ns) :
    readNodes (nodesText ns) = some (normals "" ns) := by
  obtain ⟨pending, children, hfeed, hchildren⟩ :=
    feed_nodesText ns hns hplain "" ⟨"", [], []⟩ []
  have hempty : ixmlEscape "" = [] := rfl
  rw [hempty] at hfeed
  rw [readNodes, hfeed, Option.bind_some]
  simp only [unescape_ixmlEscape, hchildren, List.nil_append]

theorem plainChar_attributeText {a : String × String} (hname : IsName a.1)
    (hvalue : PlainText a.2) : ∀ c ∈ attributeText a, plainChar c = true := by
  intro c hc
  simp only [attributeText, List.mem_cons, List.mem_append, List.not_mem_nil, or_false] at hc
  rcases hc with rfl | hc | rfl | rfl | hc | rfl
  · decide
  · exact plainChar_of_nameChar (hname.nameChar c hc)
  · decide
  · decide
  · exact plainChar_ixmlEscape hvalue c hc
  · decide

/-- The text of nodes of plain characters has plain characters. -/
theorem plainChar_nodesText (ns : List Node) (hns : AllNamed ns) (hplain : AllPlain ns) :
    ∀ c ∈ nodesText ns, plainChar c = true :=
  match ns, hns, hplain with
  | [], _, _ => fun c hc => absurd hc List.not_mem_nil
  | .text content :: ns, hns, hplain => by
    have hrest := plainChar_nodesText ns hns.2 hplain.2
    intro c hc
    rw [nodesText, nodeText, List.mem_append] at hc
    exact hc.elim (plainChar_ixmlEscape hplain.1 c) (hrest c)
  | .element tag attributes inner :: ns, hns, hplain => by
    obtain ⟨⟨htag, ⟨hnames, -⟩, hinner⟩, hns⟩ := hns
    obtain ⟨⟨hvalues, hinnerPlain⟩, hplain⟩ := hplain
    have hchildren := plainChar_nodesText inner hinner hinnerPlain
    have hrest := plainChar_nodesText ns hns hplain
    have hattributes : ∀ c ∈ attributes.flatMap attributeText, plainChar c = true := by
      intro c hc
      obtain ⟨a, ha, hc⟩ := List.mem_flatMap.mp hc
      exact plainChar_attributeText (hnames a ha) (hvalues a ha) c hc
    have hname : ∀ c ∈ tag.toList, plainChar c = true := fun c hc =>
      plainChar_of_nameChar (htag.nameChar c hc)
    intro c hc
    simp only [nodesText, nodeText, List.mem_append, List.mem_cons, List.not_mem_nil,
      or_false] at hc
    rcases hc with (rfl | hc | hc | rfl | hc | rfl | rfl | hc | rfl) | hc
    · decide
    · exact hname c hc
    · exact hattributes c hc
    · decide
    · exact hchildren c hc
    · decide
    · decide
    · exact hname c hc
    · decide
    · exact hrest c hc

/-- The text of a document is read as the document. -/
theorem readDocument_ixmlDocumentToString (tag : String) (attributes : List (String × String))
    (children : List Node) (h : Named (.element tag attributes children))
    (hplain : Plain (.element tag attributes children)) :
    readDocument (ixmlDocumentToString (.element tag attributes children)) =
      some (normal (.element tag attributes children)) := by
  have hnodes := readNodes_nodesText [.element tag attributes children] ⟨h, trivial⟩
    ⟨hplain, trivial⟩
  have hchars := plainChar_nodesText [.element tag attributes children] ⟨h, trivial⟩
    ⟨hplain, trivial⟩
  have htext : nodesText [.element tag attributes children] =
      nodeText (.element tag attributes children) := by
    rw [nodesText, nodesText, List.append_nil]
  have hnormal : normals "" [.element tag attributes children] =
      [normal (.element tag attributes children)] := rfl
  rw [htext] at hnodes hchars
  rw [hnormal] at hnodes
  let text := nodeText (.element tag attributes children)
  have hreturn : '\r' ∉ text := fun hmem => absurd (hchars _ hmem) (by decide)
  have hends : lineEndsFrom false (ixmlDocumentToString (.element tag attributes children)).toList =
      prolog ++ text := by
    have hwritten : (ixmlDocumentToString (.element tag attributes children)).toList =
        "<?xml version=\"1.0\"?>\r\n".toList ++ text := String.toList_ofList
    have hsplit : "<?xml version=\"1.0\"?>\r\n".toList =
        "<?xml version=\"1.0\"?>".toList ++ ['\r', '\n'] := by decide
    have hprolog : prolog = "<?xml version=\"1.0\"?>".toList ++ ['\n'] := by decide
    have hfirst : lineEndsFrom false (['\r', '\n'] ++ text) = ['\n'] ++ text := by
      simp [lineEndsFrom, lineEndsFrom_of_notMem hreturn]
    rw [hwritten, hsplit, List.append_assoc, lineEndsFrom_append (by decide) (by decide)
      (by decide), hfirst, ← List.append_assoc, ← hprolog]
  have hprefix : prolog.isPrefixOf (prolog ++ text) :=
    List.isPrefixOf_iff_prefix.mpr (List.prefix_append _ _)
  have hdeclaration : prolog.all xmlChar = true := by decide
  have hall : (prolog ++ text).all xmlChar = true := by
    rw [List.all_append, hdeclaration, Bool.true_and, List.all_eq_true]
    exact fun c hc => by simp [xmlChar, hchars c hc]
  rw [readDocument, hends, readRoot, hprefix, hall, Bool.and_self, if_pos rfl, List.drop_left,
    hnodes, Option.bind_some]

theorem readsBack_readDocument : ReadsBack ixmlDocumentToString readDocument where
  parse_write tag attributes children := readDocument_ixmlDocumentToString tag attributes children
  parse_lineEnds xml := congrArg readRoot (lineEndsFrom_lineEnds xml)

end RoundTrip

end GMediaRender.XmlReader
