import GMediaRender.UpnpTime
import Mathlib.Data.Fin.Basic

/-!
The text of a time, `H+:MM:SS` with an optional fraction, and what the two conversions do with
it: what is printed for a number of seconds that is not negative is such a text, and such a
text is read as its seconds as long as they fit.
-/
namespace GMediaRender.TimeFormat

open UpnpTime

section Format

def IsDigits (f : List Char) : Prop := f ≠ [] ∧ ∀ c ∈ f, c.isDigit = true

/-- Nothing, or a point with digits or with a ratio below one. -/
inductive Fraction : List Char → Prop
  | none : Fraction []
  | decimal (f : List Char) (hf : IsDigits f) : Fraction ('.' :: f)
  | ratio (f g : List Char) (hf : IsDigits f) (hg : IsDigits g)
      (hlt : digitsValue f < digitsValue g) : Fraction ('.' :: (f ++ '/' :: g))

/-- A time that is well formed. -/
structure TimeText where
  hours : List Char
  isDigits : IsDigits hours
  minute : Fin 60
  second : Fin 60
  fraction : List Char
  isFraction : Fraction fraction

def twoDigits (n : ℕ) : List Char := [(n / 10).digitChar, (n % 10).digitChar]

namespace TimeText

variable (t : TimeText)

def chars : List Char :=
  t.hours ++ ':' :: (twoDigits t.minute ++ ':' :: (twoDigits t.second ++ t.fraction))

def text : String := String.ofList t.chars

def seconds : ℕ := digitsValue t.hours * 3600 + t.minute * 60 + t.second

end TimeText

/-- The text is that of a time. -/
def IsTime (s : String) : Prop := ∃ t : TimeText, s = t.text

theorem not_isTime_of_no_colon {s : String} (h : ':' ∉ s.toList) : ¬ IsTime s := by
  rintro ⟨t, rfl⟩
  exact h (by simp [TimeText.text, TimeText.chars])

end Format

section Scan

theorem spanDigits_digits {ds : List Char} (hds : ∀ c ∈ ds, c.isDigit = true) (width : ℕ)
    (rest : List Char) (hwidth : ds.length ≤ width)
    (hrest : width = ds.length ∨ ∀ c ∈ rest.head?, c.isDigit = false) :
    spanDigits width (ds ++ rest) = (ds, rest) := by
  induction ds generalizing width with
  | nil =>
    cases width with
    | zero => cases rest <;> rfl
    | succ width =>
      cases rest with
      | nil => rfl
      | cons c rest =>
        have hc : c.isDigit = false := by simpa using hrest
        simp [spanDigits, hc]
  | cons d ds ih =>
    obtain ⟨hd, hds⟩ := List.forall_mem_cons.mp hds
    obtain ⟨width, rfl⟩ : ∃ n, width = n + 1 :=
      ⟨width - 1, by simp only [List.length_cons] at hwidth; omega⟩
    simp only [List.length_cons] at hwidth hrest
    have hspan := ih hds width (by omega) (hrest.imp (by omega) id)
    simp [spanDigits, hd, hspan]

/-- A digit is no space and no sign. -/
theorem not_sign_of_isDigit {c : Char} (h : c.isDigit = true) :
    isSpace c = false ∧ c ≠ '-' ∧ c ≠ '+' := by
  refine ⟨?_, ?_, ?_⟩
  · by_contra hspace
    simp only [isSpace, Bool.not_eq_false, Bool.or_eq_true, decide_eq_true_eq] at hspace
    rcases hspace with ((((rfl | rfl) | rfl) | rfl) | rfl) | rfl <;> exact absurd h (by decide)
  · rintro rfl
    exact absurd h (by decide)
  · rintro rfl
    exact absurd h (by decide)

theorem scanInt_digits {ds : List Char} (hds : IsDigits ds) (width : ℕ) (rest : List Char)
    (hwidth : ds.length ≤ width)
    (hrest : width = ds.length ∨ ∀ c ∈ rest.head?, c.isDigit = false) :
    scanInt width (ds ++ rest) = some (clampInt (digitsValue ds), rest) := by
  obtain ⟨hne, hall⟩ := hds
  cases ds with
  | nil => exact absurd rfl hne
  | cons d ds =>
    obtain ⟨hspace, hminus, hplus⟩ := not_sign_of_isDigit (List.forall_mem_cons.mp hall).1
    have hspan := spanDigits_digits hall width rest hwidth hrest
    simp only [List.cons_append] at hspan ⊢
    have hdrop : (d :: (ds ++ rest)).dropWhile isSpace = d :: (ds ++ rest) :=
      List.dropWhile_cons_of_neg (by simp [hspace])
    simp [scanInt, hdrop, hminus, hplus, hspan]

end Scan

section Parse

theorem isDigits_twoDigits (n : Fin 60) : IsDigits (twoDigits n) := by
  have htens : (n : ℕ) / 10 < 10 := by omega
  have hunits : (n : ℕ) % 10 < 10 := by omega
  simp [IsDigits, twoDigits, Nat.isDigit_digitChar, htens, hunits]

theorem digitsValue_twoDigits (n : Fin 60) : digitsValue (twoDigits n) = n := by
  have htens : ((n : ℕ) / 10).digitChar.toNat - 48 = n / 10 :=
    Nat.toNat_digitChar_sub_48_of_lt_ten (by omega)
  have hunits : ((n : ℕ) % 10).digitChar.toNat - 48 = n % 10 :=
    Nat.toNat_digitChar_sub_48_of_lt_ten (by omega)
  have hzero : '0'.toNat = 48 := rfl
  simp only [digitsValue, twoDigits, List.foldl_cons, List.foldl_nil, hzero, htens, hunits]
  omega

theorem scanInt_twoDigits (n : Fin 60) (rest : List Char) :
    scanInt 2 (twoDigits n ++ rest) = some ((n : ℤ), rest) := by
  rw [scanInt_digits (isDigits_twoDigits n) 2 rest le_rfl (Or.inl rfl), digitsValue_twoDigits]
  have hclamp : clampInt (n : ℕ) = (n : ℤ) := by
    have hn := n.isLt
    simp only [clampInt]
    omega
  rw [hclamp]

variable (t : TimeText)

/-- All three numbers are read; the hours may not fit. -/
theorem scanTime_text : scanTime t.text =
    (clampInt (digitsValue t.hours), (t.minute : ℤ), (t.second : ℤ)) := by
  have hlist : t.text.toList = t.chars := by simp [TimeText.text]
  have hlength : t.hours.length ≤ t.text.length + 1 := by
    simp only [TimeText.text, String.length_ofList, TimeText.chars, List.length_append]
    omega
  have hhours := scanInt_digits t.isDigits (t.text.length + 1)
    (':' :: (twoDigits t.minute ++ ':' :: (twoDigits t.second ++ t.fraction))) hlength
    (Or.inr (by simp))
  simp only [scanTime, hlist, TimeText.chars, hhours, scanInt_twoDigits]

theorem parseUpnpTime_text : parseUpnpTime t.text =
    wrapInt (clampInt (digitsValue t.hours) * 3600 + t.minute * 60 + t.second) := by
  simp only [parseUpnpTime, scanTime_text, wrapInt, Int.bmod_add_bmod, Int.add_bmod_bmod]

/-- A time is read as its seconds exactly when they fit an int. -/
theorem parseUpnpTime_eq_seconds : parseUpnpTime t.text = t.seconds ↔ t.seconds < 2 ^ 31 := by
  rw [parseUpnpTime_text]
  constructor
  · intro h
    have hlt := wrapInt_lt (clampInt (digitsValue t.hours) * 3600 + t.minute * 60 + t.second)
    omega
  · intro h
    have hclamp : clampInt (digitsValue t.hours) = digitsValue t.hours := by
      simp only [TimeText.seconds] at h
      simp only [clampInt]
      omega
    have hsum : (digitsValue t.hours : ℤ) * 3600 + t.minute * 60 + t.second = t.seconds := by
      simp [TimeText.seconds]
    rw [hclamp, hsum]
    exact wrapInt_of_fits (by omega) (by omega)

end Parse

section Print

theorem printInt_ofNat (n : ℕ) : (printInt n).toList = Nat.toDigits 10 n := Nat.toList_repr

theorem isDigits_toDigits (n : ℕ) : IsDigits (Nat.toDigits 10 n) :=
  ⟨Nat.toDigits_ne_nil, fun _ hc => Nat.isDigit_of_mem_toDigits (by decide) (by decide) hc⟩

theorem printInt02_toList (n : Fin 60) : (printInt02 (n : ℕ)).toList = twoDigits n := by
  by_cases hlt : (n : ℕ) < 10
  · have hrange : (0 : ℤ) ≤ (n : ℕ) ∧ ((n : ℕ) : ℤ) < 10 := by omega
    have htens : (n : ℕ) / 10 = 0 := by omega
    have hunits : (n : ℕ) % 10 = n := by omega
    rw [printInt02, if_pos hrange, String.toList_append, printInt_ofNat,
      Nat.toDigits_of_lt_base hlt, twoDigits, htens, hunits]
    rfl
  · have hrange : ¬ ((0 : ℤ) ≤ (n : ℕ) ∧ ((n : ℕ) : ℤ) < 10) := by omega
    rw [printInt02, if_neg hrange, printInt_ofNat, Nat.toDigits_of_base_le (by omega) (by omega),
      Nat.toDigits_of_lt_base (by omega)]
    rfl

/-- A negative number is printed with its sign. -/
theorem minus_mem_printInt {n : ℤ} (h : n < 0) : '-' ∈ (printInt n).toList := by
  obtain ⟨m, rfl⟩ := Int.eq_negSucc_of_lt_zero h
  simp [printInt, toString, Int.repr]

theorem minus_mem_printInt02 {n : ℤ} (h : n < 0) : '-' ∈ (printInt02 n).toList := by
  have hneg : ¬ (0 ≤ n ∧ n < 10) := by omega
  rw [printInt02, if_neg hneg]
  exact minus_mem_printInt h

theorem IsDigits.minus_not_mem {f : List Char} (h : IsDigits f) : '-' ∉ f := by
  intro hmem
  exact absurd (h.2 '-' hmem) (by decide)

theorem Fraction.minus_not_mem {f : List Char} (h : Fraction f) : '-' ∉ f := by
  cases h with
  | none => simp
  | decimal f hf => simp [hf.minus_not_mem]
  | ratio f g hf hg => simp [hf.minus_not_mem, hg.minus_not_mem]

theorem minus_not_mem_text (t : TimeText) : '-' ∉ t.chars := by
  have hminute := (isDigits_twoDigits t.minute).minus_not_mem
  have hsecond := (isDigits_twoDigits t.second).minus_not_mem
  simp [TimeText.chars, t.isDigits.minus_not_mem, hminute, hsecond, t.isFraction.minus_not_mem]

/-- The time that is printed for a number of seconds. -/
def printed (n : ℕ) : TimeText where
  hours := Nat.toDigits 10 (n / 3600)
  isDigits := isDigits_toDigits _
  minute := ⟨n % 3600 / 60, by omega⟩
  second := ⟨n % 60, by omega⟩
  fraction := []
  isFraction := .none

/-- The parts of a number of seconds, as `print_upnp_time` divides it. -/
theorem divided (n : ℕ) : (n : ℤ).tdiv 3600 = (n / 3600 : ℕ) ∧
    ((n : ℤ).tmod 3600).tdiv 60 = ((printed n).minute : ℕ) ∧
    (((n : ℤ).tmod 3600).tmod 60).tdiv 1 = ((printed n).second : ℕ) := by
  have hmod : (n : ℤ).tmod 3600 = (n : ℤ) % 3600 := Int.tmod_eq_emod_of_nonneg (by omega)
  have hmod' : ((n : ℤ) % 3600).tmod 60 = (n : ℤ) % 3600 % 60 :=
    Int.tmod_eq_emod_of_nonneg (by omega)
  rw [hmod, hmod', Int.tdiv_eq_ediv_of_nonneg (by omega), Int.tdiv_eq_ediv_of_nonneg (by omega),
    Int.tdiv_one]
  simp only [printed]
  omega

theorem printUpnpTime_ofNat (n : ℕ) : printUpnpTime n = (printed n).text := by
  have hminute := printInt02_toList (printed n).minute
  have hsecond := printInt02_toList (printed n).second
  obtain ⟨hhour, hminute', hsecond'⟩ := divided n
  apply String.toList_inj.mp
  simp only [printUpnpTime, divideLeaveRemainder, hhour, hminute', hsecond', String.toList_append]
  rw [printInt_ofNat, hminute, hsecond]
  simp [TimeText.text, TimeText.chars, printed]

/-- One of the parts of a negative number is negative. -/
theorem minus_mem_printUpnpTime {n : ℤ} (h : n < 0) : '-' ∈ (printUpnpTime n).toList := by
  obtain ⟨m, rfl⟩ : ∃ m : ℕ, n = -m := ⟨n.natAbs, by omega⟩
  obtain ⟨hhour, hminute, hsecond⟩ := divided m
  simp only [printUpnpTime, divideLeaveRemainder, Int.neg_tdiv, Int.neg_tmod, hhour, hminute,
    hsecond, String.toList_append, List.mem_append]
  by_cases hhour : m / 3600 = 0
  · by_cases hminute : ((printed m).minute : ℕ) = 0
    · have hneg : -(((printed m).second : ℕ) : ℤ) < 0 := by
        simp only [printed] at hminute ⊢
        omega
      exact Or.inr (minus_mem_printInt02 hneg)
    · exact Or.inl (Or.inl (Or.inr (minus_mem_printInt02 (by omega))))
  · exact Or.inl (Or.inl (Or.inl (Or.inl (minus_mem_printInt (by omega)))))

/-- What is printed is a time unless it is for a negative number. -/
theorem isTime_printUpnpTime (n : ℤ) : IsTime (printUpnpTime n) ↔ 0 ≤ n := by
  constructor
  · rintro ⟨t, ht⟩
    by_contra hneg
    have hminus := minus_mem_printUpnpTime (n := n) (by omega)
    rw [ht, TimeText.text, String.toList_ofList] at hminus
    exact minus_not_mem_text t hminus
  · intro h
    obtain ⟨m, rfl⟩ := Int.eq_ofNat_of_zero_le h
    exact ⟨printed m, printUpnpTime_ofNat m⟩

end Print

end GMediaRender.TimeFormat
