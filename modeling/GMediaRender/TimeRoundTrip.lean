import GMediaRender.HeapBlock
import GMediaRender.TimeFormat
import Mathlib.Data.List.Induction

/-!
Times printed and read back. A number of seconds that is not negative is printed into the
buffer of its callers without being cut off and is read back as itself; a text without a
superfluous zero is printed again as it was.
-/
namespace GMediaRender.TimeRoundTrip

open HeapBlock UpnpTime TimeFormat

section Buffer

/-- The size of the buffer `tbuf` for a time. -/
def tbufSize : ℕ := 32

/-- `snprintf` of a text to a new buffer: as much of the text as leaves room for a NUL. -/
def snprintf (size : ℕ) (text : CString) : Block :=
  if size = 0 then Block.malloc size
  else (Block.malloc size).writeAll 0 (text.bytes.take (size - 1) ++ [0])

/-- `print_upnp_time` to a new buffer. -/
def printUpnpTimeTo (size : ℕ) (t : ℤ) : Block := snprintf size (.ofString (printUpnpTime t))

/-- A text with room for its NUL is not cut off. -/
theorem snprintf_eq_strcpy {size : ℕ} {text : CString} (h : text.bytes.length < size) :
    snprintf size text = (Block.malloc size).strcpy text := by
  rw [snprintf, if_neg (by omega), List.take_of_length_le (by omega)]
  rfl

end Buffer

section Bytes

/-- A character of ASCII other than NUL. -/
def IsAscii (c : Char) : Prop := 0 < c.toNat ∧ c.toNat < 128

theorem utf8_ascii {c : Char} (h : IsAscii c) : String.utf8EncodeChar c = [c.toNat.toUInt8] := by
  have hle : c.val.toNat ≤ 0x7f := Nat.le_of_lt_succ h.2
  rw [String.utf8EncodeChar, if_pos hle]
  rfl

/-- The C string of an ASCII text has a byte for each character. -/
theorem ofString_ascii {text : String} (h : ∀ c ∈ text.toList, IsAscii c) :
    (CString.ofString text).bytes = ascii text := by
  have hbytes : text.toList.flatMap String.utf8EncodeChar = ascii text := by
    rw [List.flatMap_congr fun c hc => utf8_ascii (h c hc), ascii, List.map_eq_flatMap]
  rw [← hbytes]
  refine CString.ofString_bytes fun hzero => ?_
  obtain ⟨c, hc, hmem⟩ := List.mem_flatMap.mp hzero
  have hascii := h c hc
  rw [utf8_ascii hascii, List.mem_singleton] at hmem
  have hnat : c.toNat % 256 = 0 := by
    simpa [Nat.toUInt8] using (congrArg UInt8.toNat hmem).symm
  obtain ⟨hpos, hlt⟩ := hascii
  omega

theorem isAscii_of_isDigit {c : Char} (h : c.isDigit = true) : IsAscii c := by
  obtain ⟨hlow, hhigh⟩ := Char.isDigit_iff_toNat.mp h
  have hzero : '0'.toNat = 48 := rfl
  have hnine : '9'.toNat = 57 := rfl
  exact ⟨by omega, by omega⟩

theorem isAscii_printed (n : ℕ) : ∀ c ∈ (printed n).text.toList, IsAscii c := by
  have hcolon : IsAscii ':' := ⟨by decide, by decide⟩
  have hdigits {f : List Char} (hf : IsDigits f) : ∀ c ∈ f, IsAscii c :=
    fun c hc => isAscii_of_isDigit (hf.2 c hc)
  intro c hc
  simp only [TimeText.text, String.toList_ofList, TimeText.chars, printed, List.append_nil,
    List.mem_append, List.mem_cons] at hc
  rcases hc with hc | rfl | hc | rfl | hc
  · exact hdigits (isDigits_toDigits _) c hc
  · exact hcolon
  · exact hdigits (isDigits_twoDigits (printed n).minute) c hc
  · exact hcolon
  · exact hdigits (isDigits_twoDigits (printed n).second) c hc

/-- Six digits of hours, two of minutes and of seconds, and two colons. -/
theorem length_printed_le {n : ℕ} (h : n < 2 ^ 31) : (printed n).text.toList.length ≤ 12 := by
  have hhours : (Nat.toDigits 10 (n / 3600)).length ≤ 6 :=
    (Nat.length_toDigits_le_iff (by decide) (by decide)).mpr (by omega)
  simp only [TimeText.text, String.toList_ofList, TimeText.chars, printed, twoDigits,
    List.length_append, List.length_cons, List.length_nil]
  omega

end Bytes

section Digits

theorem digitsValue_snoc (ds : List Char) (c : Char) :
    digitsValue (ds ++ [c]) = 10 * digitsValue ds + (c.toNat - '0'.toNat) := by
  simp [digitsValue]

theorem digitsValue_toDigits (n : ℕ) : digitsValue (Nat.toDigits 10 n) = n :=
  Nat.ofDigitChars_ten_toDigits

theorem digitChar_of_isDigit {c : Char} (h : c.isDigit = true) :
    (c.toNat - '0'.toNat).digitChar = c ∧ c.toNat - '0'.toNat < 10 := by
  obtain ⟨hlow, hhigh⟩ := Char.isDigit_iff_toNat.mp h
  have hzero : '0'.toNat = 48 := rfl
  have hnine : '9'.toNat = 57 := rfl
  have hlt : c.toNat - '0'.toNat < 10 := by omega
  refine ⟨Char.toNat_inj.mp ?_, hlt⟩
  have hsub := Nat.toNat_digitChar_sub_48_of_lt_ten hlt
  have hdigit : (c.toNat - '0'.toNat).digitChar.isDigit = true := by
    simp only [Nat.isDigit_digitChar, hlt, decide_true]
  have hge := (Char.isDigit_iff_toNat.mp hdigit).1
  omega

/-- A number that is written without a zero in front of it. -/
def NoLeadingZero (ds : List Char) : Prop := ds = ['0'] ∨ ds.head? ≠ some '0'

/-- Digits without a superfluous zero are those printed for their value. -/
theorem toDigits_digitsValue {ds : List Char} (hds : IsDigits ds) (hzero : NoLeadingZero ds) :
    Nat.toDigits 10 (digitsValue ds) = ds := by
  induction ds using List.reverseRecOn with
  | nil => exact absurd rfl hds.1
  | append_singleton ds c ih =>
    obtain ⟨hchar, hlt⟩ := digitChar_of_isDigit (hds.2 c (List.mem_append_right _ (by simp)))
    rw [digitsValue_snoc]
    by_cases hnil : ds = []
    · subst hnil
      have hvalue : 10 * digitsValue [] + (c.toNat - '0'.toNat) = c.toNat - '0'.toNat :=
        Nat.zero_add _
      rw [hvalue, Nat.toDigits_of_lt_base hlt, hchar]
      rfl
    have hhead : ds.head? ≠ some '0' := by
      rcases hzero with hone | hhead
      · have hlength := congrArg List.length hone
        simp only [List.length_append, List.length_cons, List.length_nil] at hlength
        exact absurd (List.eq_nil_of_length_eq_zero (by omega)) hnil
      · rwa [List.head?_append_of_ne_nil _ hnil] at hhead
    have hprev := ih ⟨hnil, fun d hd => hds.2 d (List.mem_append_left _ hd)⟩ (Or.inr hhead)
    have hpos : 0 < digitsValue ds := by
      by_contra hnot
      have hvalue : digitsValue ds = 0 := by omega
      rw [hvalue, Nat.toDigits_zero] at hprev
      exact hhead (by rw [← hprev]; rfl)
    rw [← Nat.toDigits_append_toDigits (by decide) hpos hlt, hprev, Nat.toDigits_of_lt_base hlt,
      hchar]

end Digits

section Main

def FitsInt (x : ℤ) : Prop := -(2 ^ 31) ≤ x ∧ x < 2 ^ 31

/-- The products and sums of `parse_upnp_time` are ints. -/
structure NoOverflow (timeString : String) : Prop where
  hours : FitsInt ((scanTime timeString).1 * 3600)
  minutes : FitsInt ((scanTime timeString).2.1 * 60)
  sum : FitsInt ((scanTime timeString).1 * 3600 + (scanTime timeString).2.1 * 60)
  total : FitsInt ((scanTime timeString).1 * 3600 + (scanTime timeString).2.1 * 60 +
    (scanTime timeString).2.2)

/-- `H:MM:SS` without a superfluous zero in front, and of so many seconds as fit an int. -/
def IsCanonical (s : String) : Prop :=
  ∃ t : TimeText, s = t.text ∧ t.fraction = [] ∧ NoLeadingZero t.hours ∧
    t.seconds ≤ 2147483647

theorem seconds_printed (n : ℕ) : (printed n).seconds = n := by
  simp only [TimeText.seconds, printed, digitsValue_toDigits]
  omega

/-- The numbers that are read back are those that were printed. -/
theorem scanTime_printed {n : ℕ} (h : n < 2 ^ 31) : scanTime (printed n).text =
    (((n / 3600 : ℕ) : ℤ), ((n % 3600 / 60 : ℕ) : ℤ), ((n % 60 : ℕ) : ℤ)) := by
  have hclamp : clampInt (n / 3600 : ℕ) = (n / 3600 : ℕ) := by
    simp only [clampInt]
    omega
  rw [scanTime_text]
  simp only [printed, digitsValue_toDigits, hclamp]

theorem noOverflow_printed {n : ℕ} (h : n < 2 ^ 31) : NoOverflow (printed n).text := by
  constructor
  all_goals
    simp only [scanTime_printed h, FitsInt]
    omega

/-- The whole text and its NUL are in the buffer. -/
theorem readString_printed {n : ℕ} (h : n < 2 ^ 31) :
    (printUpnpTimeTo tbufSize n).inBounds = true ∧
      Block.readString (printUpnpTimeTo tbufSize n).bytes = some (ascii (printUpnpTime n)) := by
  have hascii := ofString_ascii (isAscii_printed n)
  have hlength := length_printed_le h
  have hroom : (CString.ofString (printed n).text).bytes.length < tbufSize := by
    rw [hascii, ascii, List.length_map, tbufSize]
    omega
  rw [printUpnpTimeTo, printUpnpTime_ofNat, snprintf_eq_strcpy hroom]
  refine ⟨(Block.inBounds_strcpy_malloc _).mpr hroom, ?_⟩
  rw [Block.readString_strcpy_malloc _ hroom, hascii]

/-- A canonical text is the one that is printed for its seconds. -/
theorem printed_seconds {t : TimeText} (hfraction : t.fraction = [])
    (hzero : NoLeadingZero t.hours) : (printed t.seconds).text = t.text := by
  have hhour : t.seconds / 3600 = digitsValue t.hours := by
    simp only [TimeText.seconds]
    omega
  have hminute : (printed t.seconds).minute = t.minute := by
    apply Fin.ext
    simp only [printed, TimeText.seconds]
    omega
  have hsecond : (printed t.seconds).second = t.second := by
    apply Fin.ext
    simp only [printed, TimeText.seconds]
    omega
  have hhours : (printed t.seconds).hours = t.hours := by
    simp only [printed, hhour, toDigits_digitsValue t.isDigits hzero]
  simp only [TimeText.text, TimeText.chars, hhours, hminute, hsecond, hfraction]
  rfl

/-- What is printed for the seconds of an int fits the buffer and is read back as them, and a
canonical text is printed again when it has been read. -/
theorem times_round_trip :
    (∀ t : ℤ, 0 ≤ t → t ≤ 2147483647 →
      (printUpnpTime t).length + 1 ≤ tbufSize ∧
      (printUpnpTimeTo tbufSize t).inBounds = true ∧
      Block.readString (printUpnpTimeTo tbufSize t).bytes = some (ascii (printUpnpTime t)) ∧
      NoOverflow (printUpnpTime t) ∧ parseUpnpTime (printUpnpTime t) = t) ∧
    ∀ s, IsCanonical s → printUpnpTime (parseUpnpTime s) = s := by
  constructor
  · intro t hnonneg hle
    obtain ⟨n, rfl⟩ := Int.eq_ofNat_of_zero_le hnonneg
    have hlt : n < 2 ^ 31 := by omega
    obtain ⟨hbounds, hread⟩ := readString_printed hlt
    refine ⟨?_, hbounds, hread, ?_, ?_⟩
    · rw [printUpnpTime_ofNat, ← String.length_toList, tbufSize]
      have hlength := length_printed_le hlt
      omega
    · rw [printUpnpTime_ofNat]
      exact noOverflow_printed hlt
    · have hseconds := seconds_printed n
      rw [printUpnpTime_ofNat, (parseUpnpTime_eq_seconds _).mpr (by omega), hseconds]
  · intro s hs
    obtain ⟨t, rfl, hfraction, hzero, hle⟩ := hs
    rw [(parseUpnpTime_eq_seconds t).mpr (by omega), printUpnpTime_ofNat,
      printed_seconds hfraction hzero]

end Main

end GMediaRender.TimeRoundTrip
