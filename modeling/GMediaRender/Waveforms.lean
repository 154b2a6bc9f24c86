import Mathlib.Data.List.Forall2

/-!
Waveforms of light and dark, one level for each unit of time, and lists of readings of them. A
glitch is a short light between two long darks. A waveform is `Cleaned` by clearing glitches one
after the other; that takes no time away and adds no light.
-/
namespace GMediaRender.Waveforms

open List

/-- Clearing lights of at most `light` between darks of more than `dark`. -/
inductive Cleaned (dark light : ℕ) (w : List Bool) : List Bool → Prop
  | refl : Cleaned dark light w w
  | clear {u v : List Bool} {a p b : ℕ}
      (h : Cleaned dark light w
        (u ++ (replicate a false ++ (replicate p true ++ (replicate b false ++ v)))))
      (ha : dark < a) (hp : p ≤ light) (hb : dark < b) :
      Cleaned dark light w (u ++ (replicate (a + p + b) false ++ v))

section Cleaned

variable {dark light : ℕ} {w w' w'' : List Bool}

/-- A glitch that is all of a waveform but the dark before and after it. -/
theorem Cleaned.merge {a p b : ℕ} (ha : dark < a) (hp : p ≤ light) (hb : dark < b) :
    Cleaned dark light (replicate a false ++ replicate p true ++ replicate b false)
      (replicate (a + p + b) false) := by
  have hrefl : Cleaned dark light (replicate a false ++ replicate p true ++ replicate b false)
      ([] ++ (replicate a false ++ (replicate p true ++ (replicate b false ++ [])))) := by
    simp only [List.append_nil, List.nil_append, List.append_assoc]
    exact .refl
  have hclear := hrefl.clear ha hp hb
  rwa [List.append_nil, List.nil_append] at hclear

theorem Cleaned.trans (h : Cleaned dark light w w') (h' : Cleaned dark light w' w'') :
    Cleaned dark light w w'' := by
  induction h' with
  | refl => exact h
  | clear _ ha hp hb ih => exact .clear ih ha hp hb

theorem Cleaned.append (h : Cleaned dark light w w') (x : List Bool) :
    Cleaned dark light (w ++ x) (w' ++ x) := by
  induction h with
  | refl => exact .refl
  | @clear u v a p b _ ha hp hb ih =>
    simp only [List.append_assoc] at ih ⊢
    exact .clear ih ha hp hb

theorem Cleaned.prepend (h : Cleaned dark light w w') (x : List Bool) :
    Cleaned dark light (x ++ w) (x ++ w') := by
  induction h with
  | refl => exact .refl
  | @clear u v a p b _ ha hp hb ih =>
    rw [← List.append_assoc] at ih ⊢
    exact .clear ih ha hp hb

/-- A level that is light in the second is light in the first. -/
def NoLight (x y : Bool) : Prop := y = true → x = true

theorem forall₂_refl (l : List Bool) : Forall₂ NoLight l l :=
  forall₂_same.mpr fun _ _ h => h

theorem forall₂_dark (l : List Bool) : Forall₂ NoLight l (replicate l.length false) := by
  induction l with
  | nil => exact .nil
  | cons x l ih => exact .cons (fun h => Bool.noConfusion h) ih

theorem forall₂_trans {l l' l'' : List Bool} (h : Forall₂ NoLight l l')
    (h' : Forall₂ NoLight l' l'') : Forall₂ NoLight l l'' := by
  induction h generalizing l'' with
  | nil => exact h'
  | cons hx _ ih =>
    cases h' with
    | cons hy hrest => exact .cons (fun hz => hx (hy hz)) (ih hrest)

/-- Every moment stays, and no light is added. -/
theorem Cleaned.forall₂ (h : Cleaned dark light w w') : Forall₂ NoLight w w' := by
  induction h with
  | refl => exact forall₂_refl w
  | @clear u v a p b _ _ _ _ ih =>
    refine forall₂_trans ih (rel_append (forall₂_refl u) ?_)
    have hlength : (replicate a false ++ (replicate p true ++ replicate b false)).length =
        a + p + b := by
      simp only [length_append, length_replicate]
      omega
    have hdark := forall₂_dark (replicate a false ++ (replicate p true ++ replicate b false))
    rw [hlength] at hdark
    have hrest := rel_append hdark (forall₂_refl v)
    simpa only [List.append_assoc] using hrest

theorem Cleaned.length_eq (h : Cleaned dark light w w') : w.length = w'.length :=
  h.forall₂.length_eq

end Cleaned

section Readings

/-- The waveforms that a list of readings stands for, each a level and a time from which it may
have lasted some other time. -/
inductive Denotes (lasts : Bool × ℕ → ℕ → Prop) : List (Bool × ℕ) → List Bool → Prop
  | nil : Denotes lasts [] []
  | cons {s : Bool × ℕ} {k : ℕ} {ss : List (Bool × ℕ)} {w : List Bool} (hk : lasts s k)
      (h : Denotes lasts ss w) : Denotes lasts (s :: ss) (replicate k s.1 ++ w)

variable {lasts : Bool × ℕ → ℕ → Prop} {ss ss' : List (Bool × ℕ)} {w w' : List Bool}

theorem Denotes.append (h : Denotes lasts ss w) (h' : Denotes lasts ss' w') :
    Denotes lasts (ss ++ ss') (w ++ w') := by
  induction h with
  | nil => exact h'
  | cons hk _ ih =>
    rw [List.append_assoc]
    exact .cons hk ih

theorem Denotes.single {s : Bool × ℕ} {k : ℕ} (hk : lasts s k) :
    Denotes lasts [s] (replicate k s.1) := by
  have h := Denotes.cons hk Denotes.nil
  rwa [List.append_nil] at h

end Readings

end GMediaRender.Waveforms
