import Mathlib.Data.List.Basic

/-!
The first place of a text where a pattern stands, where characters count as the same if a
function does not tell them apart. A pattern is not found where its first character is missing,
and a word with a terminator is found at a name only if it is the whole name.
-/
namespace GMediaRender.FirstMatch

variable {α β : Type*} [DecidableEq β] (f : α → β)

/-- The text begins with the pattern. -/
def begins (pattern text : List α) : Bool := (pattern.map f).isPrefixOf (text.map f)

/-- The text from the first place on where the pattern stands. -/
def search (pattern : List α) : List α → Option (List α)
  | [] => if begins f pattern [] then some [] else none
  | c :: cs => if begins f pattern (c :: cs) then some (c :: cs) else search pattern cs

variable {f} {pattern : List α}

theorem search_of_begins {text : List α} (h : begins f pattern text = true) :
    search f pattern text = some text := by
  cases text with
  | nil => exact if_pos h
  | cons c cs => exact if_pos h

theorem search_cons_of_not {c : α} {cs : List α} (h : ¬begins f pattern (c :: cs) = true) :
    search f pattern (c :: cs) = search f pattern cs := if_neg h

theorem begins_cons_cons (p : α) (c : α) (cs : List α) :
    begins f (p :: pattern) (c :: cs) = true ↔ f p = f c ∧ begins f pattern cs = true := by
  simp [begins]

/-- Where the first character of the pattern is missing there is nothing to be found. -/
theorem search_append {p : α} {a : List α} (h : ∀ c ∈ a, f p ≠ f c) (b : List α) :
    search f (p :: pattern) (a ++ b) = search f (p :: pattern) b := by
  induction a with
  | nil => rfl
  | cons c a ih =>
    obtain ⟨hc, ha⟩ := List.forall_mem_cons.mp h
    rw [List.cons_append, search_cons_of_not, ih ha]
    rw [begins_cons_cons]
    exact fun hbegins => hc hbegins.1

/-- A word with its terminator stands at a name if it is that name, with the terminator after. -/
theorem begins_word {word name : List α} {stop next : α} (hword : ∀ c ∈ word, f c ≠ f next)
    (hname : ∀ c ∈ name, f stop ≠ f c) (rest : List α) :
    begins f (word ++ [stop]) (name ++ next :: rest) = true ↔
      word.map f = name.map f ∧ f stop = f next := by
  induction word generalizing name with
  | nil =>
    cases name with
    | nil => simp [begins]
    | cons n name =>
      have hn := hname n (List.mem_cons_self ..)
      simp [begins, hn]
  | cons w word ih =>
    obtain ⟨hw, hrest⟩ := List.forall_mem_cons.mp hword
    cases name with
    | nil => simp [begins, hw]
    | cons n name =>
      have hname' := (List.forall_mem_cons.mp hname).2
      rw [List.cons_append, List.cons_append, begins_cons_cons, ih hrest hname', List.map_cons,
        List.map_cons, List.cons.injEq, and_assoc]

end GMediaRender.FirstMatch
