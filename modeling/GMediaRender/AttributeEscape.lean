import GMediaRender.EventEscape

/-!
Escaping for an attribute value. The double quote is replaced by `%22`, which is no entity and
whose mark is not escaped: a reader of the attribute finds `%22` where the string has a quote,
and cannot tell it from the `%22` of another string.
-/
namespace GMediaRender.AttributeEscape

open EventEscape HeapBlock PrefixCode XmlEscape

/-- What `xmlescape` returns, without a write outside of the memory that it asks for. -/
def Returns (room : ℕ → Bool) (str : CString) (attr : Bool) (text : List UInt8) : Prop :=
  ∃ block, XmlEscape.xmlescape room str attr = some block ∧ block.inBounds = true ∧
    Block.readString block.bytes = some text

/-- The string with `%22` for every double quote. -/
def percentQuotes (str : List UInt8) : List UInt8 := spell (byte '"') (ascii "%22") str

/-- The escaped forms `x` and `y` stand in an attribute value, and tell `s` from `t`. -/
structure KeptApart (s t : CString) (x y : List UInt8) : Prop where
  ne : s ≠ t → x ≠ y
  noMarkup : ∀ c ∈ ascii "<>\"", c ∉ x ∧ c ∉ y

section Texts

theorem returns_iff (room : ℕ → Bool) (str : CString) (attr : Bool) (text : List UInt8) :
    Returns room str attr text ↔ (escapeBytes attr str.bytes).length + 1 < 2 ^ 31 ∧
      room ((escapeBytes attr str.bytes).length + 1) = true ∧
      text = escapeBytes attr str.bytes := by
  have hread := readString_escapeBytes attr str
  constructor
  · rintro ⟨block, hblock, hok, htext⟩
    have hfits := fits_of_xmlescape str attr hblock hok
    rw [xmlescape_eq str attr room hfits] at hblock
    split_ifs at hblock with hroom
    obtain rfl := Option.some.inj hblock
    exact ⟨hfits, hroom, Option.some.inj (htext.symm.trans hread)⟩
  · rintro ⟨hfits, hroom, rfl⟩
    exact ⟨_, by rw [xmlescape_eq str attr room hfits, if_pos hroom], rfl, hread⟩

/-- The branch for the quote comes before the others, none of which it hides. -/
theorem escapeByte_true (c : UInt8) : escapeByte true c =
    (if c = byte '"' then ascii "%22" else [c]).flatMap (escapeByte false) := by
  by_cases hquote : c = byte '"'
  · subst hquote
    decide
  · simp [escapeByte, hquote]

theorem escapeBytes_true (str : List UInt8) :
    escapeBytes true str = escapeBytes false (percentQuotes str) := by
  rw [escapeBytes, funext escapeByte_true, escapeBytes, percentQuotes, spell, List.flatMap_assoc]

/-- A reader of the attribute finds `%22` for the quotes. -/
theorem replace_escapeBytes_true (str : List UInt8) :
    xmlEntities.replace (escapeBytes true str) = percentQuotes str := by
  rw [escapeBytes_true, replace_escapeBytes]

theorem escapeBytes_true_inj (s t : List UInt8) :
    escapeBytes true s = escapeBytes true t ↔ percentQuotes s = percentQuotes t := by
  constructor
  · intro h
    rw [← replace_escapeBytes_true, h, replace_escapeBytes_true]
  · intro h
    rw [escapeBytes_true, h, ← escapeBytes_true]

theorem escapeBytes_true_noMarkup (str : List UInt8) :
    ∀ c ∈ ascii "<>\"", c ∉ escapeBytes true str := by
  have hcodes : ∀ c ∈ ascii "<>\"", ∀ b, c ∉ escapeByte true b := by
    intro c hc b
    have hcases : c = byte '<' ∨ c = byte '>' ∨ c = byte '"' := by
      simpa [ascii, byte] using hc
    unfold escapeByte
    split_ifs with hless hquote hgreater hamp
    case neg =>
      intro hb
      obtain rfl := List.mem_singleton.mp hb
      rcases hcases with h | h | h
      · exact hless h
      · exact hgreater h
      · exact hquote (by simpa using h)
    all_goals rcases hcases with rfl | rfl | rfl <;> decide
  intro c hc
  exact notMem_flatMap (hcodes c hc) str

end Texts

section Pairs

variable {room : ℕ → Bool} {s t : CString} {x y : List UInt8}

theorem keptApart_iff (hx : Returns room s true x) (hy : Returns room t true y) :
    KeptApart s t x y ↔ (s ≠ t → percentQuotes s.bytes ≠ percentQuotes t.bytes) := by
  obtain ⟨-, -, rfl⟩ := (returns_iff ..).mp hx
  obtain ⟨-, -, rfl⟩ := (returns_iff ..).mp hy
  constructor
  · intro h hst hsame
    exact h.ne hst ((escapeBytes_true_inj _ _).mpr hsame)
  · intro h
    refine ⟨fun hst hxy => h hst ((escapeBytes_true_inj _ _).mp hxy), fun c hc => ⟨?_, ?_⟩⟩
    · exact escapeBytes_true_noMarkup s.bytes c hc
    · exact escapeBytes_true_noMarkup t.bytes c hc

/-- A text with the same form as a string of C, and what is returned for the string. -/
theorem returns_of_percentQuotes (hx : Returns room s true x) {bytes : List UInt8}
    (h : percentQuotes bytes = percentQuotes s.bytes) :
    ∃ u : CString, u.bytes = bytes ∧ Returns room u true x := by
  have hsame : escapeBytes true bytes = escapeBytes true s.bytes :=
    (escapeBytes_true_inj _ _).mpr h
  have hno : 0 ∉ bytes := by
    intro hmem
    refine escapeBytes_noNul true s ?_
    rw [← hsame]
    exact List.mem_flatMap.mpr ⟨0, hmem, by decide⟩
  refine ⟨⟨bytes, hno⟩, rfl, (returns_iff ..).mpr ?_⟩
  rw [hsame]
  exact (returns_iff ..).mp hx

theorem quote_notMem_percent : byte '"' ∉ ascii "%22" := by decide

/-- What is returned for two strings tells them apart exactly if they differ with `%22` for
every double quote. What is returned for one string is its own exactly if the string has
neither of the two, and it is read back exactly if the string has no double quote. -/
theorem attribute_reversible_iff (hx : Returns room s true x) (hy : Returns room t true y) :
    (KeptApart s t x y ↔ (s ≠ t → percentQuotes s.bytes ≠ percentQuotes t.bytes)) ∧
      ((∀ u z, Returns room u true z → KeptApart s u x z) ↔
        byte '"' ∉ s.bytes ∧ ¬ ascii "%22" <:+: s.bytes) ∧
      (xmlEntities.replace x = s.bytes ↔ byte '"' ∉ s.bytes) := by
  refine ⟨keptApart_iff hx hy, ?_, ?_⟩
  · rw [← spell_unique_iff quote_notMem_percent]
    constructor
    · intro h bytes hsame
      obtain ⟨u, rfl, hu⟩ := returns_of_percentQuotes hx hsame
      by_contra hne
      exact (h u x hu).ne (fun heq => hne (congrArg CString.bytes heq.symm)) rfl
    · intro h u z hz
      refine (keptApart_iff hx hz).mpr fun hsu hsame => hsu ?_
      cases s
      cases u
      exact (CString.mk.injEq ..).mpr (h _ hsame.symm).symm
  · obtain ⟨-, -, rfl⟩ := (returns_iff ..).mp hx
    rw [replace_escapeBytes_true]
    exact spell_eq_self_iff quote_notMem_percent s.bytes

/-- A quotation, and the same words without the quotes. -/
theorem attribute_reversible_quotation :
    KeptApart (.ofString "\"a\"") (.ofString "a") (ascii "%22a%22") (ascii "a") := by
  have hx : Returns (fun _ => true) (.ofString "\"a\"") true (ascii "%22a%22") :=
    (returns_iff ..).mpr ⟨by decide, rfl, by decide⟩
  have hy : Returns (fun _ => true) (.ofString "a") true (ascii "a") :=
    (returns_iff ..).mpr ⟨by decide, rfl, by decide⟩
  exact (attribute_reversible_iff hx hy).1.mpr fun _ => by decide

/-- A double quote and the text `%22` are escaped alike. -/
theorem quote_not_kept_apart : ¬ ∀ (room : ℕ → Bool) (s t : CString) (x y : List UInt8),
    Returns room s true x → Returns room t true y → KeptApart s t x y := by
  intro h
  have hquote : Returns (fun _ => true) (.ofString "\"") true (ascii "%22") :=
    (returns_iff ..).mpr ⟨by decide, rfl, by decide⟩
  have hpercent : Returns (fun _ => true) (.ofString "%22") true (ascii "%22") :=
    (returns_iff ..).mpr ⟨by decide, rfl, by decide⟩
  refine (h _ _ _ _ _ hquote hpercent).ne (fun heq => ?_) rfl
  exact absurd (congrArg CString.bytes heq) (by decide)

end Pairs

end GMediaRender.AttributeEscape
