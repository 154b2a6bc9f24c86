import Mathlib.Data.List.Basic

/-!
Texts built by replacing every symbol of a word by a code word. When no code word is
a prefix of another one the text determines the word, and a separator that occurs in
no code word ends the coded part of a longer text. Where only one symbol is replaced, by a
word over the others, its word reads the same whether it was written or spelled.
-/
namespace GMediaRender.PrefixCode

variable {α β : Type*}

/-- Code words are nonempty and none is a prefix of the code word of another symbol. -/
structure PrefixFree (c : α → List β) : Prop where
  ne_nil : ∀ a, c a ≠ []
  eq_of_code_le : ∀ a b, c a <+: c b → a = b

/-- A text over a prefix-free code is read in one way. -/
theorem PrefixFree.flatMap_injective {c : α → List β} (hc : PrefixFree c) :
    Function.Injective (fun xs : List α => xs.flatMap c) := by
  intro xs
  induction xs with
  | nil =>
    intro ys h
    cases ys with
    | nil => rfl
    | cons b ys =>
      have hnil : c b = [] := by
        have h' : [] = c b ++ ys.flatMap c := h
        exact (List.append_eq_nil_iff.mp h'.symm).1
      exact absurd hnil (hc.ne_nil b)
  | cons a xs ih =>
    intro ys h
    cases ys with
    | nil =>
      have h' : c a ++ xs.flatMap c = [] := h
      exact absurd (List.append_eq_nil_iff.mp h').1 (hc.ne_nil a)
    | cons b ys =>
      have h' : c a ++ xs.flatMap c = c b ++ ys.flatMap c := h
      have hab : a = b := by
        rcases List.prefix_or_prefix_of_prefix (List.prefix_append (c a) (xs.flatMap c))
          (h' ▸ List.prefix_append (c b) (ys.flatMap c)) with hp | hp
        · exact hc.eq_of_code_le a b hp
        · exact (hc.eq_of_code_le b a hp).symm
      subst b
      rw [ih (List.append_cancel_left h')]

theorem notMem_flatMap {c : α → List β} {t : β} (ht : ∀ a, t ∉ c a) (xs : List α) :
    t ∉ xs.flatMap c := by
  simp [ht]

/-- The part before the first separator and the part after it are determined. -/
theorem split_at_separator {t : β} {xs ys r s : List β} (hx : t ∉ xs) (hy : t ∉ ys)
    (h : xs ++ t :: r = ys ++ t :: s) : xs = ys ∧ r = s := by
  induction xs generalizing ys with
  | nil =>
    cases ys with
    | nil => exact ⟨rfl, (List.cons.inj h).2⟩
    | cons b ys => exact absurd (List.cons.inj h).1 (List.ne_of_not_mem_cons hy)
  | cons a xs ih =>
    cases ys with
    | nil => exact absurd (List.cons.inj h).1.symm (List.ne_of_not_mem_cons hx)
    | cons b ys =>
      obtain ⟨hab, htail⟩ := List.cons.inj h
      obtain ⟨hxs, hrs⟩ := ih (List.not_mem_of_not_mem_cons hx)
        (List.not_mem_of_not_mem_cons hy) htail
      exact ⟨by rw [hab, hxs], hrs⟩

section Spelling

variable [DecidableEq α] (a : α) (w : List α)

/-- Writes `w` for every `a`. -/
def spell (xs : List α) : List α := xs.flatMap fun x => if x = a then w else [x]

@[simp] theorem spell_append (xs ys : List α) :
    spell a w (xs ++ ys) = spell a w xs ++ spell a w ys :=
  List.flatMap_append

@[simp] theorem spell_cons_self (xs : List α) : spell a w (a :: xs) = w ++ spell a w xs := by
  simp [spell]

theorem spell_of_notMem {xs : List α} (h : a ∉ xs) : spell a w xs = xs := by
  have hsymbol : ∀ x ∈ xs, (if x = a then w else [x]) = [x] := by
    intro x hx
    have hne : x ≠ a := fun heq => h (heq ▸ hx)
    exact if_neg hne
  rw [spell, List.flatMap_congr hsymbol, List.flatMap_singleton']

variable {a w} (ha : a ∉ w)

include ha

theorem notMem_spell (xs : List α) : a ∉ spell a w xs := by
  refine notMem_flatMap (fun x => ?_) xs
  split_ifs with hx
  · exact ha
  · simpa using Ne.symm hx

theorem spell_eq_self_iff (xs : List α) : spell a w xs = xs ↔ a ∉ xs := by
  constructor
  · intro h
    exact h ▸ notMem_spell ha xs
  · exact spell_of_notMem a w

/-- The texts that share their spelling with no other one are those without the symbol and
without its word. -/
theorem spell_unique_iff (xs : List α) :
    (∀ ys, spell a w ys = spell a w xs → ys = xs) ↔ a ∉ xs ∧ ¬ w <:+: xs := by
  constructor
  · intro h
    constructor
    · have hspelled : spell a w (spell a w xs) = spell a w xs :=
        spell_of_notMem a w (notMem_spell ha xs)
      exact (spell_eq_self_iff ha xs).mp (h _ hspelled)
    · rintro ⟨before, after, rfl⟩
      have hsame : before ++ a :: after = before ++ w ++ after := by
        apply h
        simp [spell_of_notMem a w ha]
      rw [List.append_assoc] at hsame
      have hrest : a :: after = w ++ after := List.append_cancel_left hsame
      cases w with
      | nil => exact absurd (congrArg List.length hrest) (by simp)
      | cons b w => exact ha ((List.cons.inj hrest).1 ▸ List.mem_cons_self)
  · rintro ⟨hxs, hword⟩ ys h
    rw [spell_of_notMem a w hxs] at h
    by_cases hys : a ∈ ys
    · obtain ⟨before, after, rfl⟩ := List.append_of_mem hys
      refine absurd ⟨spell a w before, spell a w after, ?_⟩ hword
      rw [← h, spell_append, spell_cons_self, List.append_assoc]
    · rwa [spell_of_notMem a w hys] at h

end Spelling

end GMediaRender.PrefixCode
