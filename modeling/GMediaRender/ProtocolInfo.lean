import GMediaRender.HeapBlock
import GMediaRender.UpnpTime
import Mathlib.Algebra.GroupWithZero.Nat

/-!
How `connmgr_init` builds SinkProtocolInfo: for every registered type the buffer is enlarged
by a computed amount, and an entry is written into it. The amounts match, so that the buffer is
filled exactly; the list without a type is the one that does not fit.
-/
namespace GMediaRender.ProtocolInfo

open UpnpTime HeapBlock

section Build

def entryHead : List UInt8 := ascii "http-get:*:"

def entryTail : List UInt8 := ascii ":*,"

/-- The variables of `connmgr_init`; the pointer is an offset into the buffer. -/
structure Building where
  buf : Block
  p : ℤ
  bufsize : ℤ

/-- The pass of the loop for one type, unless the buffer cannot be enlarged. -/
def addEntry (b : Building) (mimeType : CString) : Option Building :=
  let bufsize := wrapInt (b.bufsize + (mimeType.bytes.length + 1 + 8 + 3 + 2))
  let offset := wrapInt b.p
  (b.buf.realloc bufsize).map fun buf =>
    let p := offset
    let buf := buf.writeAll p entryHead
    let p := p + 11
    let buf := buf.writeAll p mimeType.bytes
    let p := p + mimeType.bytes.length
    let buf := buf.writeAll p entryTail
    ⟨buf, p + 3, bufsize⟩

/-- The last comma gives way to the NUL, which is written again. -/
def finish (b : Building) : Block :=
  let b := if b.p > 0 then { b with p := b.p - 1, buf := b.buf.write (b.p - 1) 0 } else b
  b.buf.write b.p 0

/-- `connmgr_init` for the list of the supported types: the buffer as it is handed to the
variable, or nothing if it fails. -/
def connmgrInit (supportedTypes : List CString) : Option Block :=
  (supportedTypes.foldlM addEntry ⟨Block.malloc 0, 0, 0⟩).map finish

end Build

section Main

/-- The entry of a type, with its comma. -/
def entry (mimeType : CString) : List UInt8 := entryHead ++ mimeType.bytes ++ entryTail

/-- The entries, separated by commas. -/
def protocolInfo (types : List CString) : List UInt8 :=
  List.intercalate (ascii ",") (types.map fun t => entryHead ++ t.bytes ++ ascii ":*")

/-- The size of the buffer for some types. -/
def bufferSize (types : List CString) : ℕ := (types.map fun t => t.bytes.length + 14).sum

/-- Every write is in the buffer, and the variable gets the list of the entries. -/
structure BuiltExactly (types : List CString) : Prop where
  built : ∃ buf, connmgrInit types = some buf ∧ buf.inBounds = true ∧
    Block.readString buf.bytes = some (protocolInfo types)

theorem entry_length (t : CString) : (entry t).length = t.bytes.length + 14 := by
  have hhead : entryHead.length = 11 := by decide
  have htail : entryTail.length = 3 := by decide
  simp only [entry, List.length_append, hhead, htail]
  omega

theorem flatMap_entry_length (types : List CString) :
    (types.flatMap entry).length = bufferSize types := by
  simp [bufferSize, List.length_flatMap, entry_length]

/-- The state after some types: the buffer is filled with their entries. -/
def filled (done : List UInt8) : Building :=
  ⟨⟨done.map some, true⟩, done.length, done.length⟩

/-- The pointer moves over the bytes written, and these are as many as the buffer grows by. -/
theorem addEntry_eq (b : Building) (t : CString) : addEntry b t =
    (b.buf.realloc (wrapInt (b.bufsize + (entry t).length))).map fun buf =>
      ⟨buf.writeAll (wrapInt b.p) (entry t), wrapInt b.p + (entry t).length,
        wrapInt (b.bufsize + (entry t).length)⟩ := by
  have hhead : entryHead.length = 11 := by decide
  have hsize : b.bufsize + (t.bytes.length + 1 + 8 + 3 + 2) = b.bufsize + (entry t).length := by
    rw [entry_length]
    omega
  have hend : wrapInt b.p + 11 + t.bytes.length + 3 = wrapInt b.p + (entry t).length := by
    rw [entry_length]
    omega
  have hmiddle : wrapInt b.p + 11 + (t.bytes.length : ℤ) =
      wrapInt b.p + ((entryHead ++ t.bytes).length : ℕ) := by
    rw [List.length_append, hhead]
    omega
  simp only [addEntry, hsize, hend, entry]
  rw [hmiddle]
  simp only [Block.writeAll_append, hhead]
  rfl

theorem wrapInt_length {bytes : List UInt8} (h : bytes.length < 2 ^ 31) :
    wrapInt bytes.length = bytes.length := wrapInt_of_fits (by omega) (by omega)

theorem addEntry_filled (done : List UInt8) (t : CString)
    (h : (done ++ entry t).length < 2 ^ 31) :
    addEntry (filled done) t = some (filled (done ++ entry t)) := by
  rw [List.length_append] at h
  have hsize : wrapInt ((filled done).bufsize + (entry t).length) =
      done.length + (entry t).length := wrapInt_of_fits (by simp only [filled]; omega)
    (by simp only [filled]; omega)
  have hoffset : wrapInt (filled done).p = done.length := wrapInt_length (by omega)
  have hwrite := Block.writeAll_free done (entry t) 0 true
  rw [addEntry_eq, hsize, hoffset, filled, Block.realloc_grow]
  simp only [Nat.add_zero, List.replicate_zero, List.append_nil] at hwrite
  simp [hwrite, filled]

theorem foldlM_filled (types : List CString) (done : List UInt8)
    (h : (done ++ types.flatMap entry).length < 2 ^ 31) :
    types.foldlM addEntry (filled done) = some (filled (done ++ types.flatMap entry)) := by
  induction types generalizing done with
  | nil => simp
  | cons t types ih =>
    have hsplit : done ++ (t :: types).flatMap entry =
        (done ++ entry t) ++ types.flatMap entry := by simp
    rw [hsplit] at h ⊢
    have hfits : (done ++ entry t).length < 2 ^ 31 := by
      rw [List.length_append] at h
      omega
    rw [List.foldlM_cons, addEntry_filled done t hfits]
    exact ih (done ++ entry t) h

/-- A write outside the buffer stays one. -/
theorem addEntry_inBounds {b b' : Building} {t : CString} (h : addEntry b t = some b')
    (hok : b'.buf.inBounds = true) : b.buf.inBounds = true := by
  rw [addEntry_eq, Option.map_eq_some_iff] at h
  obtain ⟨buf, hrealloc, rfl⟩ := h
  rw [← Block.realloc_inBounds hrealloc]
  exact Block.inBounds_of_writeAll hok

theorem foldlM_inBounds {types : List CString} {b b' : Building}
    (h : types.foldlM addEntry b = some b') (hok : b'.buf.inBounds = true) :
    b.buf.inBounds = true := by
  induction types generalizing b with
  | nil =>
    obtain rfl : b = b' := by simpa using h
    exact hok
  | cons t types ih =>
    rw [List.foldlM_cons] at h
    obtain ⟨next, hnext, hrest⟩ := Option.bind_eq_some_iff.mp h
    exact addEntry_inBounds hnext (ih hrest)

/-- An entry that the buffer's size cannot count is not written into the buffer. -/
theorem addEntry_overflow {done : List UInt8} {t : CString} {b : Building}
    (hdone : done.length < 2 ^ 31) (h : addEntry (filled done) t = some b)
    (hok : b.buf.inBounds = true) : (done ++ entry t).length < 2 ^ 31 := by
  rw [addEntry_eq, Option.map_eq_some_iff] at h
  obtain ⟨buf, hrealloc, rfl⟩ := h
  have hsize := Block.realloc_length hrealloc
  have hne : entry t ≠ [] := by
    apply List.ne_nil_of_length_pos
    rw [entry_length]
    omega
  have hwritten : (buf.writeAll (wrapInt (filled done).p) (entry t)).inBounds = true := hok
  have hle := Block.le_of_writeAll hne hwritten
  have hoffset : wrapInt (filled done).p = done.length := wrapInt_length (by omega)
  have hlt := wrapInt_lt ((filled done).bufsize + (entry t).length)
  rw [List.length_append]
  omega

theorem fits_of_foldlM {types : List CString} {done : List UInt8} {b : Building}
    (hdone : done.length < 2 ^ 31) (h : types.foldlM addEntry (filled done) = some b)
    (hok : b.buf.inBounds = true) : (done ++ types.flatMap entry).length < 2 ^ 31 := by
  induction types generalizing done with
  | nil => simpa using hdone
  | cons t types ih =>
    rw [List.foldlM_cons] at h
    obtain ⟨next, hnext, hrest⟩ := Option.bind_eq_some_iff.mp h
    have hfits := addEntry_overflow hdone hnext (foldlM_inBounds hrest hok)
    rw [addEntry_filled done t hfits] at hnext
    obtain rfl := Option.some.inj hnext
    simpa using ih hfits hrest

/-- Every entry but the last is followed by a comma that stays. -/
theorem flatMap_entry (types : List CString) (hne : types ≠ []) :
    types.flatMap entry = protocolInfo types ++ ascii "," := by
  have hentry : ∀ t, entry t = entryHead ++ t.bytes ++ ascii ":*" ++ ascii "," := by
    intro t
    have htail : entryTail = ascii ":*" ++ ascii "," := by decide
    rw [entry, htail, ← List.append_assoc]
  induction types with
  | nil => exact absurd rfl hne
  | cons t types ih =>
    rw [List.flatMap_cons, hentry]
    by_cases hlast : types = []
    · subst hlast
      simp [protocolInfo]
    · rw [ih hlast]
      simp [protocolInfo, List.intercalate_cons_of_ne_nil, hlast]

theorem flatMap_entry_noNul (types : List CString) : 0 ∉ types.flatMap entry := by
  have hhead : 0 ∉ entryHead := by decide
  have htail : 0 ∉ entryTail := by decide
  simp only [List.mem_flatMap, not_exists, not_and]
  intro t _
  simp [entry, hhead, htail, t.noNul]

/-- The NUL takes the place of the last comma. -/
theorem finish_filled (types : List CString) (hne : types ≠ []) :
    finish (filled (types.flatMap entry)) =
      ⟨(protocolInfo types).map some ++ [some 0], true⟩ := by
  have hsplit := flatMap_entry types hne
  have hlength : ((types.flatMap entry).length : ℤ) = ((protocolInfo types).map some).length + 1 := by
    rw [hsplit]
    simp [ascii]
  have hp : (filled (types.flatMap entry)).p > 0 := by
    simp only [filled]
    omega
  have hpos : (filled (types.flatMap entry)).p - 1 = ((protocolInfo types).map some).length := by
    simp only [filled]
    omega
  have hbuf : (filled (types.flatMap entry)).buf =
      ⟨(protocolInfo types).map some ++ [some 44], true⟩ := by
    simp [filled, hsplit, ascii]
  simp only [finish, if_pos hp, hpos, hbuf, Block.write_at]

theorem finish_inBounds {b : Building} (h : (finish b).inBounds = true) :
    b.buf.inBounds = true := by
  obtain ⟨hok, -⟩ := Block.inBounds_of_write h
  split_ifs at hok
  · exact (Block.inBounds_of_write hok).1
  · exact hok

/-- SinkProtocolInfo is built exactly and in bounds if there is a type and the buffer's size
fits an int, and not otherwise. -/
theorem builtExactly_iff (types : List CString) :
    BuiltExactly types ↔ types ≠ [] ∧ bufferSize types < 2 ^ 31 := by
  have hstart : (⟨Block.malloc 0, 0, 0⟩ : Building) = filled [] := rfl
  constructor
  · rintro ⟨buf, hbuilt, hok, -⟩
    rw [connmgrInit, hstart, Option.map_eq_some_iff] at hbuilt
    obtain ⟨b, hloop, rfl⟩ := hbuilt
    constructor
    · rintro rfl
      obtain rfl : filled [] = b := by simpa using hloop
      exact absurd hok (by decide)
    · have hfits := fits_of_foldlM (by simp) hloop (finish_inBounds hok)
      rwa [List.nil_append, flatMap_entry_length] at hfits
  · rintro ⟨hne, hfits⟩
    have hloop := foldlM_filled types [] (by rwa [List.nil_append, flatMap_entry_length])
    refine ⟨_, by rw [connmgrInit, hstart, hloop]; rfl, ?_, ?_⟩
    · rw [List.nil_append, finish_filled types hne]
    · have hno : 0 ∉ protocolInfo types := by
        have hall := flatMap_entry_noNul types
        rw [flatMap_entry types hne] at hall
        exact fun hmem => hall (List.mem_append_left _ hmem)
      rw [List.nil_append, finish_filled types hne]
      exact Block.readString_append ⟨protocolInfo types, hno⟩ []

/-- Without a type the NUL is written into a buffer of no bytes. -/
theorem not_builtExactly_nil : ¬ BuiltExactly [] := by
  rintro ⟨buf, hbuilt, hok, -⟩
  obtain rfl := Option.some.inj hbuilt
  exact absurd hok (by decide)

end Main

end GMediaRender.ProtocolInfo
