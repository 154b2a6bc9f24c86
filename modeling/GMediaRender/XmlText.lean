import GMediaRender.XmlReader

/-!
The texts that stand for an XML tree, whoever has written them. A special character stands for
itself, where XML lets it, or as an entity, every other character for itself; an attribute comes
after white space and has quotes of either kind. An element has an end tag, and there are no
comments.
-/
namespace GMediaRender.XmlText

open XmlDoc XmlReader

section Texts

def special (c : Char) : Bool := c = '<' || c = '>' || c = '&' || c = '\'' || c = '"'

def blank (c : Char) : Bool := c ∈ [' ', '\t', '\n', '\r']

/-- A text and what is written for it in a document. -/
inductive Written : List Char → List Char → Prop
  | nil : Written [] []
  | self {text raw : List Char} (c : Char) (hless : c ≠ '<') (hmark : c ≠ '&')
      (h : Written text raw) : Written (c :: text) (c :: raw)
  | entity {text raw : List Char} (c : Char) (hc : special c = true) (body : List Char)
      (hbody : '<' ∉ body) (h : Written text raw) : Written (c :: text) ('&' :: (body ++ raw))

/-- What is written for attributes. -/
def AttributesText : List (String × String) → List Char → Prop
  | [], text => text = []
  | a :: attributes, text => ∃ blanks quote value rest, blanks ≠ [] ∧
      (∀ c ∈ blanks, blank c = true) ∧ (quote = '"' ∨ quote = '\'') ∧
      Written a.2.toList value ∧ quote ∉ value ∧ AttributesText attributes rest ∧
      text = blanks ++ (a.1.toList ++ '=' :: quote :: (value ++ quote :: rest))

mutual

def TextOf : Node → List Char → Prop
  | .element tag attributes children, text => ∃ attrs body, AttributesText attributes attrs ∧
      TextsOf children body ∧ text =
        '<' :: (tag.toList ++ (attrs ++ '>' :: (body ++ '<' :: '/' :: (tag.toList ++ ['>']))))
  | .text content, text => Written content.toList text

def TextsOf : List Node → List Char → Prop
  | [], text => text = []
  | n :: ns, text => ∃ first rest, TextOf n first ∧ TextsOf ns rest ∧ text = first ++ rest

end

/-- A document, with or without an XML declaration, and what may come after the root. -/
structure DocumentText (root : Node) (text : String) : Prop where
  noNul : '\x00' ∉ text.toList
  parts : ∃ declaration body after,
    (declaration = [] ∨ ∃ more, declaration = '<' :: '?' :: more ∧ '<' ∉ more) ∧
    TextOf root body ∧ '<' ∉ after ∧ text.toList = declaration ++ (body ++ after)

end Texts

section Contents

theorem Written.append {text text' raw raw' : List Char} (h : Written text raw)
    (h' : Written text' raw') : Written (text ++ text') (raw ++ raw') := by
  induction h with
  | nil => exact h'
  | self c hless hmark _ ih => exact .self c hless hmark ih
  | entity c hc body hbody _ ih =>
    rw [List.cons_append, List.cons_append, List.append_assoc]
    exact .entity c hc body hbody ih

theorem Written.less_notMem {text raw : List Char} (h : Written text raw) : '<' ∉ raw := by
  induction h with
  | nil => exact List.not_mem_nil
  | self c hless _ _ ih => exact List.not_mem_cons_of_ne_of_not_mem hless.symm ih
  | entity c _ body hbody _ ih => simp [hbody, ih]

theorem less_notMem_name {s : String} (h : IsName s) : '<' ∉ s.toList := fun hmem =>
  absurd (h.nameChar _ hmem) (by decide)

theorem less_notMem_attributes {attributes : List (String × String)} {text : List Char}
    (h : AttributesText attributes text) (hnames : ∀ a ∈ attributes, IsName a.1) : '<' ∉ text := by
  induction attributes generalizing text with
  | nil =>
    obtain rfl : text = [] := h
    exact List.not_mem_nil
  | cons a attributes ih =>
    obtain ⟨ha, hrest⟩ := List.forall_mem_cons.mp hnames
    obtain ⟨blanks, quote, value, rest, -, hblanks, hquote, hvalue, -, h, rfl⟩ := h
    have hblank : '<' ∉ blanks := fun hmem => absurd (hblanks _ hmem) (by decide)
    have hless : '<' ≠ quote := by
      rcases hquote with rfl | rfl <;> decide
    simp [hblank, less_notMem_name ha, hless, hvalue.less_notMem, ih h hrest]

/-- The text before the first element. -/
def leadingText : List Node → String
  | .text content :: ns => content ++ leadingText ns
  | _ => ""

/-- What is written for some nodes begins with their leading text. -/
theorem TextsOf.leading {ns : List Node} {text : List Char} (h : TextsOf ns text)
    (after : List Char) : ∃ raw rest, Written (leadingText ns).toList raw ∧
      text ++ '<' :: after = raw ++ '<' :: rest := by
  induction ns generalizing text with
  | nil =>
    obtain rfl : text = [] := h
    exact ⟨[], after, .nil, rfl⟩
  | cons n ns ih =>
    obtain ⟨first, more, hfirst, hmore, rfl⟩ := h
    cases n with
    | text content =>
      obtain ⟨raw, rest, hraw, hrest⟩ := ih hmore
      have hwritten : Written content.toList first := hfirst
      refine ⟨first ++ raw, rest, ?_, ?_⟩
      · rw [leadingText, String.toList_append]
        exact hwritten.append hraw
      · rw [List.append_assoc, hrest, List.append_assoc]
    | element tag attributes children =>
      obtain ⟨attrs, body, -, -, rfl⟩ := hfirst
      exact ⟨[], _, .nil, rfl⟩

end Contents

section Serialiser

theorem written_ixmlEscape (s : String) : Written s.toList (ixmlEscape s) := by
  unfold ixmlEscape
  induction s.toList with
  | nil => exact .nil
  | cons c text ih =>
    rw [List.flatMap_cons]
    unfold ixmlEscapeChar
    split_ifs with hless hgreater hamp hapos hquot
    · exact .entity c (by simp [special, hless]) "lt;".toList (by decide) ih
    · exact .entity c (by simp [special, hgreater]) "gt;".toList (by decide) ih
    · exact .entity c (by simp [special, hamp]) "amp;".toList (by decide) ih
    · exact .entity c (by simp [special, hapos]) "apos;".toList (by decide) ih
    · exact .entity c (by simp [special, hquot]) "quot;".toList (by decide) ih
    · exact .self c hless hamp ih

theorem attributesText_attributeText (attributes : List (String × String)) :
    AttributesText attributes (attributes.flatMap attributeText) := by
  induction attributes with
  | nil => rfl
  | cons a attributes ih =>
    refine ⟨[' '], '"', ixmlEscape a.2, _, List.cons_ne_nil _ _, by simp [blank], Or.inl rfl,
      written_ixmlEscape a.2, quote_notMem_ixmlEscape a.2, ih, ?_⟩
    simp [attributeText]

theorem textsOf_nodesText : (ns : List Node) → TextsOf ns (nodesText ns)
  | [] => rfl
  | .text content :: ns =>
    ⟨_, _, written_ixmlEscape content, textsOf_nodesText ns, by rw [nodesText, nodeText]⟩
  | .element _ attributes children :: ns =>
    ⟨_, _, ⟨_, _, attributesText_attributeText attributes, textsOf_nodesText children, rfl⟩,
      textsOf_nodesText ns, by rw [nodesText, nodeText]⟩

theorem documentText_ixmlDocumentToString {root : Node}
    (hnul : '\x00' ∉ (ixmlDocumentToString root).toList) :
    DocumentText root (ixmlDocumentToString root) := by
  refine ⟨hnul, "<?xml version=\"1.0\"?>\r\n".toList, nodeText root, [], ?_, ?_,
    List.not_mem_nil, ?_⟩
  · exact Or.inr ⟨"xml version=\"1.0\"?>\r\n".toList, by decide, by decide⟩
  · obtain ⟨first, rest, hfirst, hrest, htext⟩ := textsOf_nodesText [root]
    obtain rfl : rest = [] := hrest
    have hone : nodesText [root] = nodeText root := by rw [nodesText, nodesText, List.append_nil]
    rw [hone, List.append_nil] at htext
    rwa [htext]
  · rw [List.append_nil]
    exact String.toList_ofList

end Serialiser

end GMediaRender.XmlText
