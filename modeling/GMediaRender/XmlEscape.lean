import GMediaRender.EntityCode
import GMediaRender.HeapBlock
import GMediaRender.UpnpTime

/-!
xmlescape.c. `xmlescape_real` has one loop that measures and one that writes. Both are
followed as they stand; what they have in common is the code of one byte, `escapeByte`.
-/
namespace GMediaRender.XmlEscape

open EntityCode HeapBlock UpnpTime

def byte (c : Char) : UInt8 := c.toNat.toUInt8

/-- The loop of `xmlescape_real` without a target. -/
def sizeLoop (attr : Bool) : List UInt8 → ℤ → ℤ
  | [], len => len
  | c :: str, len =>
    if c = byte '<' then sizeLoop attr str (wrapInt (len + 4))
    else if attr && c = byte '"' then sizeLoop attr str (wrapInt (len + 3))
    else if c = byte '>' then sizeLoop attr str (wrapInt (len + 4))
    else if c = byte '&' then sizeLoop attr str (wrapInt (len + 5))
    else sizeLoop attr str (wrapInt (len + 1))

/-- The loop of `xmlescape_real` with a target. -/
def writeLoop (attr : Bool) : List UInt8 → Block → ℤ → Block × ℤ
  | [], target, len => (target, len)
  | c :: str, target, len =>
    if c = byte '<' then
      writeLoop attr str (target.writeAll len (ascii "&lt;")) (wrapInt (len + 4))
    else if attr && c = byte '"' then
      writeLoop attr str (target.writeAll len (ascii "%22")) (wrapInt (len + 3))
    else if c = byte '>' then
      writeLoop attr str (target.writeAll len (ascii "&gt;")) (wrapInt (len + 4))
    else if c = byte '&' then
      writeLoop attr str (target.writeAll len (ascii "&amp;")) (wrapInt (len + 5))
    else writeLoop attr str (target.write len c) (wrapInt (len + 1))

/-- `xmlescape_real`. The result is the target as it is left, and what is stored as the length
if the caller asks for one. -/
def xmlescapeReal (str : CString) (target : Option Block) (length attr : Bool) :
    Option Block × Option ℤ :=
  match target with
  | some block =>
    let written := writeLoop attr str.bytes block 0
    (some (written.1.write written.2 0), if length then some written.2 else none)
  | none => (none, if length then some (sizeLoop attr str.bytes 0) else none)

/-- `xmlescape`; without memory it has no target to write to and returns NULL. -/
def xmlescape (room : ℕ → Bool) (str : CString) (attr : Bool) : Option Block :=
  let len := (xmlescapeReal str none true attr).2.getD 0
  (xmlescapeReal str (Block.allocate room (wrapInt (len + 1))) false attr).1

/-- What stands for one byte of the string. -/
def escapeByte (attr : Bool) (c : UInt8) : List UInt8 :=
  if c = byte '<' then ascii "&lt;"
  else if attr && c = byte '"' then ascii "%22"
  else if c = byte '>' then ascii "&gt;"
  else if c = byte '&' then ascii "&amp;"
  else [c]

def escapeBytes (attr : Bool) (str : List UInt8) : List UInt8 :=
  str.flatMap (escapeByte attr)

section Loops

/-- Counting on by some bytes, as long as the count is an int. -/
theorem wrapInt_add {len count : ℕ} (h : len + count < 2 ^ 31) :
    wrapInt ((len : ℤ) + count) = (len + count : ℕ) := by
  rw [wrapInt_of_fits (by omega) (by omega), Int.natCast_add]

variable (attr : Bool)

theorem escapeByte_length_le (c : UInt8) : (escapeByte attr c).length ≤ 5 := by
  unfold escapeByte
  split_ifs <;> simp [ascii]

theorem escapeBytes_length_le (str : List UInt8) :
    (escapeBytes attr str).length ≤ 5 * str.length := by
  induction str with
  | nil => exact Nat.le_refl 0
  | cons c str ih =>
    have hc := escapeByte_length_le attr c
    simp only [escapeBytes, List.flatMap_cons, List.length_append, List.length_cons] at ih ⊢
    omega

/-- A round of the sizing loop adds the length of the code of its byte. -/
theorem sizeLoop_cons (c : UInt8) (str : List UInt8) (len : ℤ) :
    sizeLoop attr (c :: str) len =
      sizeLoop attr str (wrapInt (len + (escapeByte attr c).length)) := by
  unfold escapeByte
  rw [sizeLoop]
  split_ifs <;> rfl

/-- A round of the writing loop writes the code of its byte and adds its length. -/
theorem writeLoop_cons (c : UInt8) (str : List UInt8) (target : Block) (len : ℤ) :
    writeLoop attr (c :: str) target len =
      writeLoop attr str (target.writeAll len (escapeByte attr c))
        (wrapInt (len + (escapeByte attr c).length)) := by
  unfold escapeByte
  rw [writeLoop]
  split_ifs <;> rfl

/-- Where the length fits into an int, the sizing loop counts the bytes of the escaped string. -/
theorem sizeLoop_eq (str : List UInt8) (len : ℕ)
    (h : len + (escapeBytes attr str).length < 2 ^ 31) :
    sizeLoop attr str len = (len + (escapeBytes attr str).length : ℕ) := by
  induction str generalizing len with
  | nil => rfl
  | cons c str ih =>
    simp only [escapeBytes, List.flatMap_cons, List.length_append] at h ih ⊢
    rw [sizeLoop_cons, wrapInt_add (by omega), ih _ (by omega), Nat.add_assoc]

/-- Where the length fits into an int, the writing loop writes the escaped string and counts
what it writes. -/
theorem writeLoop_eq (str : List UInt8) (target : Block) (len : ℕ)
    (h : len + (escapeBytes attr str).length < 2 ^ 31) :
    writeLoop attr str target len = (target.writeAll len (escapeBytes attr str),
      ((len + (escapeBytes attr str).length : ℕ) : ℤ)) := by
  induction str generalizing target len with
  | nil => rfl
  | cons c str ih =>
    simp only [escapeBytes, List.flatMap_cons, List.length_append] at h ih ⊢
    rw [writeLoop_cons, wrapInt_add (by omega), ih _ _ (by omega), Block.writeAll_append,
      Nat.add_assoc, Int.natCast_add]

theorem escapeByte_ne_nil (c : UInt8) : escapeByte attr c ≠ [] := by
  unfold escapeByte
  split_ifs <;> simp [ascii]

variable {attr}

theorem inBounds_of_writeLoop {str : List UInt8} {target : Block} {len : ℤ}
    (h : (writeLoop attr str target len).1.inBounds = true) : target.inBounds = true := by
  induction str generalizing target len with
  | nil => exact h
  | cons c str ih =>
    rw [writeLoop_cons] at h
    exact Block.inBounds_of_writeAll (ih h)

/-- A writing loop that keeps to a target whose size is an int does not wrap around. -/
theorem fits_of_writeLoop {str : List UInt8} {target : Block} {len : ℕ}
    (hsize : target.bytes.length < 2 ^ 31) (hlen : len ≤ target.bytes.length)
    (h : (writeLoop attr str target len).1.inBounds = true) :
    len + (escapeBytes attr str).length ≤ target.bytes.length := by
  induction str generalizing target len with
  | nil => simpa [escapeBytes] using hlen
  | cons c str ih =>
    rw [writeLoop_cons] at h
    have hwritten := inBounds_of_writeLoop h
    have hle := Block.le_of_writeAll (escapeByte_ne_nil attr c) hwritten
    rw [wrapInt_add (by omega)] at h
    have hrest := ih (by simpa using hsize) (by rw [Block.writeAll_length]; omega) h
    simp only [Block.writeAll_length] at hrest
    simp only [escapeBytes, List.flatMap_cons, List.length_append] at hrest ⊢
    omega

end Loops

section Passes

variable (str : CString) (attr : Bool)

theorem sizing_eq (h : (escapeBytes attr str.bytes).length < 2 ^ 31) :
    xmlescapeReal str none true attr =
      (none, some ((escapeBytes attr str.bytes).length : ℤ)) := by
  have hsize := sizeLoop_eq attr str.bytes 0 (by omega)
  rw [Int.natCast_zero, Nat.zero_add] at hsize
  simp [xmlescapeReal, hsize]

theorem writing_eq (h : (escapeBytes attr str.bytes).length < 2 ^ 31) (target : Block)
    (length : Bool) : xmlescapeReal str (some target) length attr =
      (some (target.writeAll 0 (escapeBytes attr str.bytes ++ [0])),
        if length then some ((escapeBytes attr str.bytes).length : ℤ) else none) := by
  have hwrite := writeLoop_eq attr str.bytes target 0 (by omega)
  rw [Int.natCast_zero, Nat.zero_add] at hwrite
  simp only [xmlescapeReal, hwrite, Block.writeAll_append, Block.writeAll]
  rw [Int.zero_add]

/-- The block that is allocated holds the escaped string and nothing else. -/
theorem xmlescape_eq (room : ℕ → Bool)
    (h : (escapeBytes attr str.bytes).length + 1 < 2 ^ 31) :
    xmlescape room str attr =
      if room ((escapeBytes attr str.bytes).length + 1) then
        some ⟨(escapeBytes attr str.bytes ++ [0]).map some, true⟩ else none := by
  have hwrap : wrapInt ((escapeBytes attr str.bytes).length + 1) =
      ((escapeBytes attr str.bytes).length + 1 : ℕ) := wrapInt_add h
  rw [xmlescape, sizing_eq str attr (by omega), Option.getD_some, hwrap, Block.allocate,
    Int.toNat_natCast]
  by_cases hroom : room ((escapeBytes attr str.bytes).length + 1) = true
  · rw [if_pos ⟨Int.natCast_nonneg _, hroom⟩, if_pos hroom, writing_eq str attr (by omega)]
    have hfree := Block.writeAll_free [] (escapeBytes attr str.bytes ++ [0]) 0 true
    simpa [Block.malloc] using hfree
  · rw [if_neg fun hboth => hroom hboth.2, if_neg hroom]
    rfl

/-- A string that is returned, and was written in bounds, has a length that fits into an int. -/
theorem fits_of_xmlescape {room : ℕ → Bool} {block : Block}
    (h : xmlescape room str attr = some block) (hok : block.inBounds = true) :
    (escapeBytes attr str.bytes).length + 1 < 2 ^ 31 := by
  have hlt := wrapInt_lt ((xmlescapeReal str none true attr).2.getD 0 + 1)
  unfold xmlescape at h
  cases htarget : Block.allocate room
      (wrapInt ((xmlescapeReal str none true attr).2.getD 0 + 1)) with
  | none =>
    simp only [htarget] at h
    exact absurd h (by simp [xmlescapeReal])
  | some target =>
    simp only [htarget] at h
    obtain rfl := Option.some.inj h
    have hsize := Block.length_of_allocate htarget
    obtain ⟨hloop, -, hend⟩ := Block.inBounds_of_write hok
    have hfits : 0 + (escapeBytes attr str.bytes).length ≤ target.bytes.length :=
      fits_of_writeLoop (by omega) (Nat.zero_le _) hloop
    rw [← Int.natCast_zero, writeLoop_eq attr str.bytes target 0 (by omega)] at hend
    simp only [Block.writeAll_length] at hend
    omega

/-- The two passes agree: what is counted without a target is what is written with one, and
the bytes of the string and its NUL fill the block exactly. -/
theorem passes_agree (h : 5 * str.bytes.length + 1 < 2 ^ 31) :
    (xmlescapeReal str none true attr).2 =
        some ((escapeBytes attr str.bytes).length : ℤ) ∧
      (∀ target length, xmlescapeReal str (some target) length attr =
        (some (target.writeAll 0 (escapeBytes attr str.bytes ++ [0])),
          if length then some ((escapeBytes attr str.bytes).length : ℤ) else none)) ∧
      ∀ room, xmlescape room str attr =
        if room ((escapeBytes attr str.bytes).length + 1) then
          some ⟨(escapeBytes attr str.bytes ++ [0]).map some, true⟩ else none := by
  have hle := escapeBytes_length_le attr str.bytes
  refine ⟨?_, ?_, ?_⟩
  · rw [sizing_eq str attr (by omega)]
  · intro target length
    exact writing_eq str attr (by omega) target length
  · intro room
    exact xmlescape_eq str attr room (by omega)

/-- A text with a tag, an entity and quotes, escaped as an attribute value. -/
theorem passes_agree_quoted :
    (xmlescapeReal (.ofString "<a b=\"&lt;\">") none true true).2 = some 26 ∧
      XmlEscape.xmlescape (fun _ => true) (.ofString "<a b=\"&lt;\">") true =
        some ⟨(ascii "&lt;a b=%22&amp;lt;%22&gt;" ++ [0]).map some, true⟩ := by
  obtain ⟨hsize, -, hblock⟩ := passes_agree (.ofString "<a b=\"&lt;\">") true (by decide)
  exact ⟨hsize.trans (by decide), (hblock _).trans (by decide)⟩

end Passes

end GMediaRender.XmlEscape
