import GMediaRender.PrefixCode
import Mathlib.Tactic.SplitIfs

/-!
XML documents and their texts. The document tree is the one xmldoc.c builds with the
DOM functions of libupnp. The text of a document is written by libupnp, whose sources
are not part of this repository: `ixmlDocumentToString` writes down its documented
output (prolog, no added white space, five escaped characters) and serves as the
concrete serialiser where one is needed. `xmlescape` is the escaping of xmlescape.c.
-/
namespace GMediaRender.XmlDoc

open PrefixCode

inductive Node where
  | element (tag : String) (attributes : List (String × String)) (children : List Node)
  | text (content : String)

/-- `xmldoc_new_topelement`: the namespace, when there is one, becomes an attribute. -/
def newTopElement (tag : String) (xmlns : Option String) (children : List Node) : Node :=
  .element tag (xmlns.elim [] fun ns => [("xmlns", ns)]) children

/-- `add_attributevalue_element`, with the attributes set on the element afterwards. -/
def attributeValueElement (tag attr value : String) (more : List (String × String))
    (children : List Node) : Node :=
  .element tag ((attr, value) :: more) children

def ixmlEscapeChar (c : Char) : List Char :=
  if c = '<' then "&lt;".toList
  else if c = '>' then "&gt;".toList
  else if c = '&' then "&amp;".toList
  else if c = '\'' then "&apos;".toList
  else if c = '"' then "&quot;".toList
  else [c]

def ixmlEscape (s : String) : List Char := s.toList.flatMap ixmlEscapeChar

def attributeText (a : String × String) : List Char :=
  ' ' :: (a.1.toList ++ '=' :: '"' :: (ixmlEscape a.2 ++ ['"']))

mutual

def nodeText : Node → List Char
  | .element tag attributes children =>
    '<' :: (tag.toList ++ (attributes.flatMap attributeText ++ '>' :: (nodesText children ++
      '<' :: '/' :: (tag.toList ++ ['>']))))
  | .text content => ixmlEscape content

def nodesText : List Node → List Char
  | [] => []
  | n :: ns => nodeText n ++ nodesText ns

end

/-- The documented output of libupnp's `ixmlDocumenttoString`. -/
def ixmlDocumentToString (root : Node) : String :=
  String.ofList ("<?xml version=\"1.0\"?>\r\n".toList ++ nodeText root)

theorem ixmlDocumentToString_ne_empty (root : Node) : ixmlDocumentToString root ≠ "" := by
  intro h
  have hlist : "<?xml version=\"1.0\"?>\r\n".toList ++ nodeText root = [] :=
    String.ofList_inj.mp (h.trans rfl)
  exact absurd (List.append_eq_nil_iff.mp hlist).1 (by decide)

theorem ixmlEscapeChar_prefixFree : PrefixFree ixmlEscapeChar where
  ne_nil c := by
    unfold ixmlEscapeChar
    split_ifs <;> simp
  eq_of_code_le a b h := by
    unfold ixmlEscapeChar at h
    split_ifs at h <;> simp_all

theorem quote_notMem_ixmlEscape (s : String) : '"' ∉ ixmlEscape s := by
  apply notMem_flatMap
  intro c
  unfold ixmlEscapeChar
  split_ifs <;> simp_all
  all_goals tauto

theorem ixmlEscape_injective (s t : String) (h : ixmlEscape s = ixmlEscape t) : s = t :=
  String.toList_inj.mp (ixmlEscapeChar_prefixFree.flatMap_injective h)

/-- The replacement of one character in the loops of `xmlescape_real`. -/
def xmlescapeChar (attr : Bool) (c : Char) : List Char :=
  if c = '<' then "&lt;".toList
  else if attr && c = '"' then "%22".toList
  else if c = '>' then "&gt;".toList
  else if c = '&' then "&amp;".toList
  else [c]

def xmlescape (str : String) (attr : Bool) : String :=
  String.ofList (str.toList.flatMap (xmlescapeChar attr))

theorem xmlescapeChar_prefixFree : PrefixFree (xmlescapeChar false) where
  ne_nil c := by
    unfold xmlescapeChar
    split_ifs <;> simp
  eq_of_code_le a b h := by
    unfold xmlescapeChar at h
    split_ifs at h <;> simp_all

/-- Escaping text that is not an attribute value loses nothing. -/
theorem xmlescape_injective (s t : String) (h : xmlescape s false = xmlescape t false) :
    s = t :=
  String.toList_inj.mp (xmlescapeChar_prefixFree.flatMap_injective (String.ofList_inj.mp h))

example : xmlescape "<a b=\"1\">&amp;" false = "&lt;a b=\"1\"&gt;&amp;amp;" := by decide

end GMediaRender.XmlDoc
