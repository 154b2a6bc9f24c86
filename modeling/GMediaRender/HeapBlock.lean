import Mathlib.Data.Int.Notation
import Mathlib.Data.List.Basic
import Mathlib.Data.List.TakeWhile
import Mathlib.Tactic.SplitIfs

/-!
A block of memory with the bytes that have been written to it. A write outside the block is
recorded and otherwise lost, so that a program keeps to its blocks exactly when the record
stays clear.
-/
namespace GMediaRender.HeapBlock

/-- A byte that was never written is `none`. -/
structure Block where
  bytes : List (Option UInt8)
  inBounds : Bool
  deriving DecidableEq

/-- The bytes of a C string. -/
structure CString where
  bytes : List UInt8
  noNul : 0 ∉ bytes

/-- The string that a text is in C: its UTF-8 form up to the first NUL. -/
def CString.ofString (text : String) : CString where
  bytes := (text.toList.flatMap String.utf8EncodeChar).takeWhile (· ≠ 0)
  noNul h := by simpa using List.mem_takeWhile_imp h

theorem CString.ofString_bytes {text : String}
    (h : 0 ∉ text.toList.flatMap String.utf8EncodeChar) :
    (CString.ofString text).bytes = text.toList.flatMap String.utf8EncodeChar := by
  refine List.takeWhile_eq_self_iff.mpr fun byte hbyte => ?_
  have hne : byte ≠ 0 := fun heq => h (heq ▸ hbyte)
  simpa using hne

/-- The bytes of a literal in ASCII. -/
def ascii (literal : String) : List UInt8 := literal.toList.map fun c => c.toNat.toUInt8

namespace Block

def malloc (size : ℕ) : Block := ⟨List.replicate size none, true⟩

/-- `malloc` with an int, where `room` says for which sizes there is memory. -/
def allocate (room : ℕ → Bool) (size : ℤ) : Option Block :=
  if 0 ≤ size ∧ room size.toNat then some (malloc size.toNat) else none

/-- A negative size is too large for every allocator. -/
def realloc (b : Block) (size : ℤ) : Option Block :=
  if 0 ≤ size then
    some { b with
      bytes := b.bytes.take size.toNat ++ List.replicate (size.toNat - b.bytes.length) none }
  else none

def write (b : Block) (pos : ℤ) (byte : UInt8) : Block :=
  if 0 ≤ pos ∧ pos < b.bytes.length then { b with bytes := b.bytes.set pos.toNat (some byte) }
  else { b with inBounds := false }

/-- Bytes one after the other, as strncpy writes them. -/
def writeAll (b : Block) (pos : ℤ) : List UInt8 → Block
  | [] => b
  | byte :: bytes => (b.write pos byte).writeAll (pos + 1) bytes

def strcpy (b : Block) (s : CString) : Block := b.writeAll 0 (s.bytes ++ [0])

/-- The bytes up to the first NUL, if they have all been written. -/
def readString : List (Option UInt8) → Option (List UInt8)
  | some byte :: bytes => if byte = 0 then some [] else (readString bytes).map (byte :: ·)
  | _ => none

theorem length_of_allocate {room : ℕ → Bool} {size : ℤ} {b : Block}
    (h : allocate room size = some b) : (b.bytes.length : ℤ) = size := by
  unfold allocate at h
  split_ifs at h with hroom
  obtain rfl := Option.some.inj h
  simp only [malloc, List.length_replicate]
  exact Int.toNat_of_nonneg hroom.1

section Write

variable (b : Block) (pos : ℤ)

@[simp] theorem write_length (byte : UInt8) : (b.write pos byte).bytes.length = b.bytes.length := by
  unfold write
  split_ifs <;> simp

@[simp] theorem writeAll_length (bytes : List UInt8) :
    (b.writeAll pos bytes).bytes.length = b.bytes.length := by
  induction bytes generalizing b pos with
  | nil => rfl
  | cons byte bytes ih => rw [writeAll, ih, write_length]

/-- Bytes written next to one another are one sequence. -/
theorem writeAll_append (first second : List UInt8) : b.writeAll pos (first ++ second) =
    (b.writeAll pos first).writeAll (pos + first.length) second := by
  induction first generalizing b pos with
  | nil => simp [writeAll]
  | cons byte first ih =>
    have hpos : pos + 1 + (first.length : ℤ) = pos + ((byte :: first).length : ℕ) := by
      simp only [List.length_cons]
      omega
    simp only [List.cons_append, writeAll]
    rw [ih, hpos]

variable {b pos}

/-- A write outside the block is not forgotten. -/
theorem inBounds_of_write {byte : UInt8} (h : (b.write pos byte).inBounds = true) :
    b.inBounds = true ∧ 0 ≤ pos ∧ pos < b.bytes.length := by
  unfold write at h
  split_ifs at h with hpos
  · exact ⟨h, hpos⟩

theorem inBounds_of_writeAll {bytes : List UInt8} (h : (b.writeAll pos bytes).inBounds = true) :
    b.inBounds = true := by
  induction bytes generalizing b pos with
  | nil => exact h
  | cons byte bytes ih => exact (inBounds_of_write (ih h)).1

theorem le_of_writeAll {bytes : List UInt8} (hne : bytes ≠ [])
    (h : (b.writeAll pos bytes).inBounds = true) : pos + bytes.length ≤ b.bytes.length := by
  induction bytes generalizing b pos with
  | nil => exact absurd rfl hne
  | cons byte bytes ih =>
    rw [writeAll] at h
    obtain ⟨-, -, hpos⟩ := inBounds_of_write (inBounds_of_writeAll h)
    by_cases hlast : bytes = []
    · subst hlast
      simp only [List.length_cons, List.length_nil]
      omega
    · have hle := ih hlast h
      simp only [write_length, List.length_cons] at hle ⊢
      omega

theorem write_at (before : List (Option UInt8)) (old : Option UInt8) (rest : List (Option UInt8))
    (byte : UInt8) (ok : Bool) : write ⟨before ++ old :: rest, ok⟩ before.length byte =
      ⟨before ++ some byte :: rest, ok⟩ := by
  have hpos : (0 : ℤ) ≤ before.length ∧
      (before.length : ℤ) < ((before ++ old :: rest).length : ℕ) := by
    simp only [List.length_append, List.length_cons]
    omega
  rw [write, if_pos hpos]
  simp

/-- Bytes take the place of as many others. -/
theorem writeAll_at (before old rest : List (Option UInt8)) (bytes : List UInt8) (ok : Bool)
    (hold : old.length = bytes.length) :
    writeAll ⟨before ++ (old ++ rest), ok⟩ before.length bytes =
      ⟨before ++ (bytes.map some ++ rest), ok⟩ := by
  induction bytes generalizing before old with
  | nil =>
    obtain rfl := List.length_eq_zero_iff.mp hold
    rfl
  | cons byte bytes ih =>
    obtain ⟨was, old, rfl⟩ := List.exists_cons_of_length_eq_add_one hold
    have hpos : (before.length : ℤ) + 1 = ((before ++ [some byte]).length : ℕ) := by simp
    have hwrite := write_at before was (old ++ rest) byte ok
    have hrest := ih (before ++ [some byte]) old (by simpa using hold)
    rw [writeAll, List.cons_append, hwrite, hpos, List.append_cons, hrest]
    simp

/-- Writing to the first free bytes extends what has been written. -/
theorem writeAll_free (done bytes : List UInt8) (free : ℕ) (ok : Bool) :
    writeAll ⟨done.map some ++ List.replicate (bytes.length + free) none, ok⟩ done.length bytes =
      ⟨(done ++ bytes).map some ++ List.replicate free none, ok⟩ := by
  have hat := writeAll_at (done.map some) (List.replicate bytes.length none)
    (List.replicate free none) bytes ok List.length_replicate
  rw [List.length_map, ← List.replicate_add] at hat
  rw [hat, List.map_append, List.append_assoc]

/-- Growing a full block leaves room for the difference. -/
theorem realloc_grow (done : List UInt8) (more : ℕ) (ok : Bool) :
    realloc ⟨done.map some, ok⟩ (done.length + more) =
      some ⟨done.map some ++ List.replicate more none, ok⟩ := by
  have hsize : ((done.length : ℤ) + more).toNat = done.length + more := by omega
  rw [realloc, if_pos (by omega), hsize, List.take_of_length_le (by simp)]
  simp

theorem realloc_inBounds {b' : Block} {size : ℤ} (h : b.realloc size = some b') :
    b'.inBounds = b.inBounds := by
  unfold realloc at h
  split_ifs at h
  obtain rfl := Option.some.inj h
  rfl

theorem realloc_length {b' : Block} {size : ℤ} (h : b.realloc size = some b') :
    (b'.bytes.length : ℤ) = size := by
  unfold realloc at h
  split_ifs at h
  obtain rfl := Option.some.inj h
  simp only [List.length_append, List.length_take, List.length_replicate]
  omega

end Write

/-- A string is read back up to its NUL. -/
theorem readString_append (s : CString) (rest : List (Option UInt8)) :
    readString (s.bytes.map some ++ some 0 :: rest) = some s.bytes := by
  obtain ⟨bytes, hno⟩ := s
  induction bytes with
  | nil => simp [readString]
  | cons byte bytes ih =>
    obtain ⟨hbyte, hbytes⟩ := not_or.mp (mt List.mem_cons.mpr hno)
    simp [readString, Ne.symm hbyte, ih hbytes]

section Copy

variable (s : CString) {size : ℕ}

theorem strcpy_malloc (h : s.bytes.length < size) : (malloc size).strcpy s =
    ⟨s.bytes.map some ++ some 0 :: List.replicate (size - (s.bytes.length + 1)) none, true⟩ := by
  have hsize : size = (s.bytes ++ [0]).length + (size - (s.bytes.length + 1)) := by
    simp only [List.length_append, List.length_singleton]
    omega
  have hfree := writeAll_free [] (s.bytes ++ [0]) (size - (s.bytes.length + 1)) true
  rw [← hsize] at hfree
  simpa [strcpy, malloc] using hfree

/-- A copy stays in a new block if and only if there is room for the NUL. -/
theorem inBounds_strcpy_malloc :
    ((malloc size).strcpy s).inBounds = true ↔ s.bytes.length < size := by
  constructor
  · intro h
    have hle := le_of_writeAll (List.concat_ne_nil 0 s.bytes) h
    simp only [malloc, List.length_append, List.length_singleton, List.length_replicate] at hle
    omega
  · intro h
    rw [strcpy_malloc s h]

/-- A copy that stays in a new block is the whole string. -/
theorem readString_strcpy_malloc (h : s.bytes.length < size) :
    readString ((malloc size).strcpy s).bytes = some s.bytes := by
  rw [strcpy_malloc s h]
  exact readString_append s _

end Copy

end Block

end GMediaRender.HeapBlock
