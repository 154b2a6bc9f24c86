import GMediaRender.PrefixCode

/-!
Texts in which special symbols stand as entities: words that begin with a mark. A table of
entities says how a text is escaped and how an escaped text is read, from left to right.
The mark itself has an entity, so that whatever a text contains it is read back.
-/
namespace GMediaRender.EntityCode

open PrefixCode

variable {α : Type*}

/-- What follows the mark in an entity, and the symbol the entity stands for. -/
structure Entity (α : Type*) where
  body : List α
  symbol : α
  deriving DecidableEq

structure EntityTable (α : Type*) where
  mark : α
  entities : List (Entity α)
  mark_notMem_body : ∀ e ∈ entities, mark ∉ e.body
  eq_of_body_le : ∀ e ∈ entities, ∀ f ∈ entities, e.body <+: f.body → e = f
  mark_escaped : ∃ e ∈ entities, e.symbol = mark

namespace EntityTable

variable (t : EntityTable α)

def word (e : Entity α) : List α := t.mark :: e.body

variable [DecidableEq α]

def escape (a : α) : List α :=
  match t.entities.find? fun e => e.symbol = a with
  | some e => t.word e
  | none => [a]

/-- Replaces entities from left to right. The first `skip` symbols belong to an entity that
has been replaced. -/
def replaceFrom : ℕ → List α → List α
  | _, [] => []
  | skip + 1, _ :: text => replaceFrom skip text
  | 0, a :: text =>
    match t.entities.find? fun e => (t.word e).isPrefixOf (a :: text) with
    | some e => e.symbol :: replaceFrom e.body.length text
    | none => a :: replaceFrom 0 text

def replace (text : List α) : List α := t.replaceFrom 0 text

theorem replaceFrom_skip (skipped text : List α) :
    t.replaceFrom skipped.length (skipped ++ text) = t.replaceFrom 0 text := by
  induction skipped with
  | nil => rfl
  | cons a skipped ih => exact ih

/-- An entity at the front of a text is the one that is found there. -/
theorem find_word {e : Entity α} (he : e ∈ t.entities) (text : List α) :
    (t.entities.find? fun f => (t.word f).isPrefixOf (t.word e ++ text)) = some e := by
  cases hfound : t.entities.find? fun f => (t.word f).isPrefixOf (t.word e ++ text) with
  | none =>
    have hnot := List.find?_eq_none.mp hfound e he
    simp at hnot
  | some f =>
    have hf : f ∈ t.entities := List.mem_of_find?_eq_some hfound
    have hprefix : t.word f <+: t.word e ++ text := by
      simpa using List.find?_some hfound
    have hbody : e.body <+: f.body ∨ f.body <+: e.body :=
      (List.prefix_or_prefix_of_prefix (List.prefix_append (t.word e) text) hprefix).imp
        (fun h => (List.cons_prefix_cons.mp h).2) fun h => (List.cons_prefix_cons.mp h).2
    rcases hbody with hle | hle
    · rw [t.eq_of_body_le e he f hf hle]
    · rw [t.eq_of_body_le f hf e he hle]

/-- Reading replaces an entity at the front of a text and goes on behind it. -/
theorem replace_word {e : Entity α} (he : e ∈ t.entities) (text : List α) :
    t.replace (t.word e ++ text) = e.symbol :: t.replace text := by
  have hfound := t.find_word he text
  simp only [word, List.cons_append] at hfound
  simp only [replace, word, List.cons_append, replaceFrom, hfound, replaceFrom_skip]

/-- A symbol without an entity is not the mark and is read as itself. -/
theorem replace_symbol {a : α} (h : ∀ e ∈ t.entities, e.symbol ≠ a) (text : List α) :
    t.replace (a :: text) = a :: t.replace text := by
  have hnone : (t.entities.find? fun e => (t.word e).isPrefixOf (a :: text)) = none := by
    refine List.find?_eq_none.mpr fun e _ hprefix => ?_
    obtain ⟨f, hf, hmark⟩ := t.mark_escaped
    have hle : t.mark :: e.body <+: a :: text := by simpa [word] using hprefix
    exact h f hf (hmark.trans (List.cons_prefix_cons.mp hle).1)
  simp only [replace, replaceFrom, hnone]

/-- The code of a symbol is the entity of that symbol or, if it has none, the symbol. -/
theorem escape_cases (a : α) :
    (∃ e ∈ t.entities, e.symbol = a ∧ t.escape a = t.word e) ∨
      ((∀ e ∈ t.entities, e.symbol ≠ a) ∧ t.escape a = [a]) := by
  unfold escape
  cases hfound : t.entities.find? fun e => e.symbol = a with
  | none => exact Or.inr ⟨by simpa using hfound, rfl⟩
  | some e =>
    have hsymbol : e.symbol = a := by simpa using List.find?_some hfound
    exact Or.inl ⟨e, List.mem_of_find?_eq_some hfound, hsymbol, rfl⟩

/-- Replacing the entities of an escaped text gives back the text. -/
theorem replace_escape (xs : List α) : t.replace (xs.flatMap t.escape) = xs := by
  induction xs with
  | nil => rfl
  | cons a xs ih =>
    rw [List.flatMap_cons]
    rcases t.escape_cases a with ⟨e, he, hsymbol, hescape⟩ | ⟨hnone, hescape⟩
    · rw [hescape, t.replace_word he, hsymbol, ih]
    · rw [hescape, List.singleton_append, t.replace_symbol hnone, ih]

/-- A symbol other than the mark is read as itself. -/
theorem replace_unmarked {a : α} (h : a ≠ t.mark) (text : List α) :
    t.replace (a :: text) = a :: t.replace text := by
  have hnone : (t.entities.find? fun e => (t.word e).isPrefixOf (a :: text)) = none := by
    refine List.find?_eq_none.mpr fun e _ hfound => ?_
    have hle : t.mark :: e.body <+: a :: text := by simpa [word] using hfound
    exact h (List.cons_prefix_cons.mp hle).1.symm
  simp only [replace, replaceFrom, hnone]

/-- An escaping that spares some symbols is undone as well, if it does not spare the mark. -/
theorem replace_flatMap {code : α → List α}
    (hcode : ∀ a, (∃ e ∈ t.entities, e.symbol = a ∧ code a = t.word e) ∨
      (a ≠ t.mark ∧ code a = [a])) (xs : List α) : t.replace (xs.flatMap code) = xs := by
  induction xs with
  | nil => rfl
  | cons a xs ih =>
    rw [List.flatMap_cons]
    rcases hcode a with ⟨e, he, hsymbol, hword⟩ | ⟨hmark, hspared⟩
    · rw [hword, t.replace_word he, hsymbol, ih]
    · rw [hspared, List.singleton_append, t.replace_unmarked hmark, ih]

/-- In an escaped text every mark begins an entity. -/
theorem word_of_mark (xs before after : List α)
    (h : xs.flatMap t.escape = before ++ t.mark :: after) :
    ∃ e ∈ t.entities, t.word e <+: t.mark :: after := by
  induction xs generalizing before with
  | nil => simp at h
  | cons a xs ih =>
    rw [List.flatMap_cons] at h
    rcases List.append_eq_append_iff.mp h with ⟨rest, hbefore, hrest⟩ | ⟨inside, hcode, hafter⟩
    · exact ih rest hrest
    cases inside with
    | nil => exact ih [] hafter.symm
    | cons b inside =>
      obtain ⟨rfl, rfl⟩ := List.cons.inj hafter
      rcases t.escape_cases a with ⟨e, he, -, hescape⟩ | ⟨hnone, hescape⟩
      · rw [hescape] at hcode
        cases before with
        | nil => exact ⟨e, he, hcode ▸ ⟨xs.flatMap t.escape, rfl⟩⟩
        | cons b before =>
          have hbody : e.body = before ++ t.mark :: inside := (List.cons.inj hcode).2
          exact absurd (hbody ▸ List.mem_append_right _ List.mem_cons_self)
            (t.mark_notMem_body e he)
      · obtain ⟨f, hf, hmark⟩ := t.mark_escaped
        have hmem : t.mark ∈ [a] :=
          hescape ▸ hcode ▸ List.mem_append_right _ List.mem_cons_self
        exact absurd (hmark.trans (List.mem_singleton.mp hmem)) (hnone f hf)

/-- A symbol that has an entity and occurs in no entity does not occur in escaped texts. -/
theorem notMem_escape {a : α} (ha : ∃ e ∈ t.entities, e.symbol = a)
    (hword : ∀ e ∈ t.entities, a ∉ t.word e) (xs : List α) : a ∉ xs.flatMap t.escape := by
  refine notMem_flatMap (fun b hmem => ?_) xs
  rcases t.escape_cases b with ⟨e, he, -, hescape⟩ | ⟨hnone, hescape⟩
  · exact hword e he (hescape ▸ hmem)
  · obtain ⟨e, he, hsymbol⟩ := ha
    have hab : a = b := List.mem_singleton.mp (hescape ▸ hmem)
    exact hnone e he (hsymbol.trans hab)

end EntityTable

end GMediaRender.EntityCode
