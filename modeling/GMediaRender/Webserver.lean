import GMediaRender.HeapBlock
import GMediaRender.Runs
import GMediaRender.UpnpTime
import Mathlib.Data.List.Induction

/-!
webserver.c: the documents that are registered from memory and how they are served. A path is
looked up once for its size and once for its contents. A position is an off_t, whose width is
a parameter; a length returned by a read is an int.
-/
namespace GMediaRender.Webserver

open HeapBlock Runs UpnpTime

/-- A document in memory: `len` bytes of what `contents` points to. -/
structure VirtualFile where
  virtualFname : String
  contents : List UInt8
  contentType : String
  len : ℕ
  len_le : len ≤ contents.length

/-- The arguments of `webserver_register_buf`, and whether there is memory for the entry. -/
structure Registration where
  path : String
  contents : CString
  contentType : String
  allocated : Bool

/-- The memory that holds a string, with its NUL. -/
def Registration.buffer (r : Registration) : List UInt8 := r.contents.bytes ++ [0]

theorem Registration.len_le (r : Registration) : r.contents.bytes.length ≤ r.buffer.length := by
  simp [buffer]

/-- `webserver_register_buf` -/
def webserverRegisterBuf (virtualFiles : List VirtualFile) (r : Registration) :
    List VirtualFile × ℤ :=
  if r.allocated then
    (⟨r.path, r.buffer, r.contentType, r.contents.bytes.length, r.len_le⟩ :: virtualFiles, 0)
  else (virtualFiles, -1)

/-- The documents after some registrations. -/
def registerAll (rs : List Registration) : List VirtualFile :=
  run (fun files r => (webserverRegisterBuf files r).1) [] rs

/-- The width of off_t, which has a sign and at least 31 other bits. -/
structure OffT where
  bits : ℕ
  le_bits : 31 ≤ bits

namespace OffT

variable (w : OffT)

def wrap (x : ℤ) : ℤ := x.bmod (2 ^ (w.bits + 1))

def Fits (x : ℤ) : Prop := -(2 ^ w.bits) ≤ x ∧ x < 2 ^ w.bits

variable {w}

theorem wrap_of_fits {x : ℤ} (h : w.Fits x) : w.wrap x = x := by
  have hpow : ((2 ^ (w.bits + 1) : ℕ) : ℤ) = 2 * 2 ^ w.bits := by
    rw [Nat.pow_succ]
    push_cast
    omega
  obtain ⟨hlow, hhigh⟩ := h
  exact Int.bmod_eq_of_le (by omega) (by omega)

theorem fits_of_lt {x : ℤ} (hlow : -(2 ^ 31) ≤ x) (hhigh : x < 2 ^ 31) : w.Fits x := by
  have hpow : (2 : ℤ) ^ 31 ≤ 2 ^ w.bits := by
    exact_mod_cast Nat.pow_le_pow_right (by decide : 0 < 2) w.le_bits
  exact ⟨by omega, by omega⟩

end OffT

variable (w : OffT)

/-- `File_Info` -/
structure FileInfo where
  fileLength : ℤ
  lastModified : ℤ
  isDirectory : Bool
  isReadable : Bool
  contentType : String
  deriving DecidableEq

/-- `webserver_get_info`; -1 is `none`. -/
def webserverGetInfo (filename : String) : List VirtualFile → Option FileInfo
  | [] => none
  | virtfile :: next =>
    if filename = virtfile.virtualFname then
      some ⟨w.wrap virtfile.len, 0, false, true, virtfile.contentType⟩
    else webserverGetInfo filename next

structure WebServerFile where
  pos : ℤ
  contents : List UInt8
  len : ℕ
  len_le : len ≤ contents.length

inductive OpenMode where
  | read
  | write
  deriving DecidableEq

/-- The loop of `webserver_open`. There is memory for the handle: the code does not check. -/
def openLoop (filename : String) : List VirtualFile → Option WebServerFile
  | [] => none
  | vf :: next =>
    if filename = vf.virtualFname then some ⟨0, vf.contents, vf.len, vf.len_le⟩
    else openLoop filename next

/-- `webserver_open` -/
def webserverOpen (filename : String) (mode : OpenMode) (virtualFiles : List VirtualFile) :
    Option WebServerFile :=
  if mode ≠ .read then none else openLoop filename virtualFiles

def minimum (a b : ℤ) : ℤ := if a < b then a else b

/-- The bytes that memcpy takes, unless it leaves the memory at its source. -/
def memcpy (source : List UInt8) (start len : ℤ) : Option (List UInt8) :=
  if 0 ≤ start ∧ 0 ≤ len ∧ start + len ≤ source.length then
    some ((source.drop start.toNat).take len.toNat)
  else none

/-- `webserver_read`: the handle, the bytes in the buffer and the result. Both sizes become
ints; the difference is the same modulo 2^32 whether it is signed or not. -/
def webserverRead (file : WebServerFile) (buflen : ℕ) :
    Option (WebServerFile × List UInt8 × ℤ) :=
  let len := minimum (wrapInt buflen) (wrapInt (file.len - file.pos))
  (memcpy file.contents file.pos len).map fun buf =>
    (if len < 0 then file else { file with pos := w.wrap (file.pos + len) }, buf, len)

inductive Origin where
  | seekSet
  | seekCur
  | seekEnd
  | other
  deriving DecidableEq

/-- `webserver_seek` -/
def webserverSeek (file : WebServerFile) (offset : ℤ) (origin : Origin) : WebServerFile × ℤ :=
  let newpos : ℤ := match origin with
    | .seekSet => offset
    | .seekCur => w.wrap (file.pos + offset)
    | .seekEnd => w.wrap (file.len + offset)
    | .other => -1
  if newpos < 0 ∨ newpos > file.len then (file, -1) else ({ file with pos := newpos }, 0)

inductive Call where
  | read (buflen : ℕ)
  | seek (offset : ℤ) (origin : Origin)

/-- The handle after a call. -/
def step (file : WebServerFile) : Call → WebServerFile
  | .read buflen => ((webserverRead w file buflen).map Prod.fst).getD file
  | .seek offset origin => (webserverSeek w file offset origin).1

/-- Reads with buffers of the given sizes up to the first that returns nothing. -/
def readUntilZero : List ℕ → WebServerFile → Option (List UInt8)
  | [], _ => none
  | buflen :: rest, file =>
    (webserverRead w file buflen).bind fun r =>
      if r.2.2 = 0 then some [] else (readUntilZero rest r.1).map (r.2.1 ++ ·)

section Lookup

/-- The last registration of a path that had memory for its entry. -/
def latest (rs : List Registration) (path : String) : Option Registration :=
  (rs.filter fun r => r.allocated && r.path = path).getLast?

theorem webserverGetInfo_eq (path : String) (files : List VirtualFile) :
    webserverGetInfo w path files = (files.find? fun vf => path = vf.virtualFname).map
      fun vf => ⟨w.wrap vf.len, 0, false, true, vf.contentType⟩ := by
  induction files with
  | nil => rfl
  | cons vf files ih =>
    rw [webserverGetInfo, List.find?_cons]
    by_cases hpath : path = vf.virtualFname
    · simp [hpath]
    · simp [hpath, ih]

theorem webserverOpen_eq (path : String) (files : List VirtualFile) :
    webserverOpen path .read files = (files.find? fun vf => path = vf.virtualFname).map
      fun vf => ⟨0, vf.contents, vf.len, vf.len_le⟩ := by
  rw [webserverOpen, if_neg fun h => h rfl]
  induction files with
  | nil => rfl
  | cons vf files ih =>
    rw [openLoop, List.find?_cons]
    by_cases hpath : path = vf.virtualFname
    · simp [hpath]
    · simp [hpath, ih]

/-- The entry that is found first is the one of the latest registration. -/
theorem find_registerAll (rs : List Registration) (path : String) :
    ((registerAll rs).find? fun vf => path = vf.virtualFname) = (latest rs path).map fun r =>
      ⟨r.path, r.buffer, r.contentType, r.contents.bytes.length, r.len_le⟩ := by
  induction rs using List.reverseRecOn with
  | nil => rfl
  | append_singleton rs r ih =>
    have hrun : registerAll (rs ++ [r]) = (webserverRegisterBuf (registerAll rs) r).1 := by
      simp [registerAll]
    rw [hrun, webserverRegisterBuf, latest, List.filter_append]
    by_cases hallocated : r.allocated = true
    · rw [if_pos hallocated, List.find?_cons]
      by_cases hpath : path = r.path
      · simp [hallocated, hpath]
      · simp [hpath, Ne.symm hpath, ih, latest]
    · rw [if_neg hallocated, ih]
      simp [hallocated, latest]

end Lookup

section Handle

/-- The position a seek asks for. -/
def seekTarget (file : WebServerFile) (offset : ℤ) : Origin → Option ℤ
  | .seekSet => some offset
  | .seekCur => some (file.pos + offset)
  | .seekEnd => some (file.len + offset)
  | .other => none

/-- Buffers below 2^31 bytes, and seeks whose sum is an off_t. -/
def Fits (file : WebServerFile) : Call → Prop
  | .read buflen => buflen < 2 ^ 31
  | .seek offset origin => ∀ target ∈ seekTarget file offset origin, w.Fits target

/-- A handle on a document whose position lies in it. -/
structure Serves (document : List UInt8) (file : WebServerFile) : Prop where
  contents : file.contents.take file.len = document
  len : file.len = document.length
  nonneg : 0 ≤ file.pos
  le_length : file.pos ≤ document.length

/-- A read returns what is left of the document, as far as the buffer takes it; a seek moves to
a position in the document or is rejected and leaves the handle alone. -/
def Correct (document : List UInt8) (file : WebServerFile) : Call → Prop
  | .read buflen =>
    let count := min buflen (document.length - file.pos.toNat)
    webserverRead w file buflen = some ({ file with pos := file.pos + count },
      (document.drop file.pos.toNat).take count, (count : ℤ))
  | .seek offset origin =>
    webserverSeek w file offset origin =
      match (seekTarget file offset origin).filter fun t : ℤ => 0 ≤ t ∧ t ≤ document.length with
      | some target => ({ file with pos := target }, 0)
      | none => (file, -1)

variable {w} {document : List UInt8} {file : WebServerFile}

theorem Serves.read (h : Serves document file) (hlength : document.length < 2 ^ 31)
    {buflen : ℕ} (hbuflen : buflen < 2 ^ 31) : Correct w document file (.read buflen) := by
  obtain ⟨pos, hpos⟩ := Int.eq_ofNat_of_zero_le h.nonneg
  have hle := h.le_length
  have hcontents := file.len_le
  have hlen := h.len
  rw [hpos] at hle
  have hcount : minimum (wrapInt buflen) (wrapInt (file.len - file.pos)) =
      (min buflen (document.length - pos) : ℕ) := by
    rw [hpos, hlen, wrapInt_of_fits (by omega) (by omega), wrapInt_of_fits (by omega) (by omega),
      minimum]
    split_ifs <;> omega
  have hbytes : ∀ n, n ≤ file.len - pos →
      (file.contents.drop pos).take n = (document.drop pos).take n := by
    intro n hn
    rw [← h.contents, List.drop_take, List.take_take, Nat.min_eq_left hn]
  have hcopy : memcpy file.contents file.pos (min buflen (document.length - pos) : ℕ) =
      some ((document.drop pos).take (min buflen (document.length - pos))) := by
    rw [memcpy, if_pos (by omega), hpos, Int.toNat_natCast, Int.toNat_natCast,
      hbytes _ (by omega)]
  have hfits : w.wrap (file.pos + (min buflen (document.length - pos) : ℕ)) =
      file.pos + (min buflen (document.length - pos) : ℕ) :=
    OffT.wrap_of_fits (OffT.fits_of_lt (by omega) (by omega))
  have hnat : file.pos.toNat = pos := by omega
  simp only [Correct, webserverRead, hnat, hcount, hcopy, hfits, Option.map_some]
  rw [if_neg (by omega)]

theorem Serves.seek (h : Serves document file) {offset : ℤ} {origin : Origin}
    (hfits : Fits w file (.seek offset origin)) :
    Correct w document file (.seek offset origin) := by
  have hlen := h.len
  have hcases : ∀ newpos : ℤ,
      (if newpos < 0 ∨ newpos > file.len then (file, (-1 : ℤ)) else ({ file with pos := newpos }, 0)) =
        match (some newpos).filter fun t : ℤ => 0 ≤ t ∧ t ≤ document.length with
        | some target => ({ file with pos := target }, 0)
        | none => (file, -1) := by
    intro newpos
    by_cases hin : 0 ≤ newpos ∧ newpos ≤ document.length
    · rw [if_neg (by omega), Option.filter_some_pos (by simpa using hin)]
    · rw [if_pos (by omega), Option.filter_some_neg (by simpa using hin)]
  cases origin with
  | seekSet => exact hcases offset
  | seekCur =>
    have hwrap := OffT.wrap_of_fits (hfits _ rfl)
    simp only [Correct, webserverSeek, hwrap]
    exact hcases _
  | seekEnd =>
    have hwrap := OffT.wrap_of_fits (hfits _ rfl)
    simp only [Correct, webserverSeek, hwrap]
    exact hcases _
  | other => simp [Correct, webserverSeek, seekTarget]

/-- What a correct call returns leaves the handle on its document. -/
theorem Serves.next (h : Serves document file) {call : Call}
    (hcorrect : Correct w document file call) : Serves document (step w file call) := by
  have hle := h.le_length
  have hnonneg := h.nonneg
  cases call with
  | read buflen =>
    have hread : webserverRead w file buflen = _ := hcorrect
    rw [step, hread]
    refine ⟨h.contents, h.len, ?_, ?_⟩
    · simp only [Option.map_some, Option.getD_some]
      omega
    · simp only [Option.map_some, Option.getD_some]
      omega
  | seek offset origin =>
    have hseek : webserverSeek w file offset origin = _ := hcorrect
    rw [step, hseek]
    split
    · next target htarget =>
      obtain ⟨-, hin⟩ := Option.filter_eq_some_iff.mp htarget
      simp only [decide_eq_true_eq] at hin
      exact ⟨h.contents, h.len, hin.1, hin.2⟩
    · exact h

theorem Serves.correct (h : Serves document file) (hlength : document.length < 2 ^ 31)
    {call : Call} (hfits : Fits w file call) : Correct w document file call := by
  cases call with
  | read buflen => exact h.read hlength hfits
  | seek offset origin => exact h.seek hfits

/-- Reading on until nothing is returned gives the rest of the document. -/
theorem Serves.readUntilZero (h : Serves document file) (hlength : document.length < 2 ^ 31)
    {buffers : List ℕ} (hbuffers : ∀ buflen ∈ buffers, 0 < buflen ∧ buflen < 2 ^ 31)
    (hmany : document.length - file.pos.toNat < buffers.length) :
    readUntilZero w buffers file = some (document.drop file.pos.toNat) := by
  induction buffers generalizing file with
  | nil => simp at hmany
  | cons buflen buffers ih =>
    obtain ⟨hbuflen, hrest⟩ := List.forall_mem_cons.mp hbuffers
    have hread : webserverRead w file buflen = _ := h.read hlength hbuflen.2
    have hnext := h.next (w := w) (h.read hlength hbuflen.2)
    rw [step, hread, Option.map_some, Option.getD_some] at hnext
    rw [Webserver.readUntilZero, hread, Option.bind_some]
    dsimp only at hnext ⊢
    have hnonneg := h.nonneg
    by_cases hend : document.length - file.pos.toNat = 0
    · have hnil : document.drop file.pos.toNat = [] := List.drop_eq_nil_of_le (by omega)
      rw [if_pos (by omega), hnil]
    · have hdrop : (file.pos + (min buflen (document.length - file.pos.toNat) : ℕ)).toNat =
          file.pos.toNat + min buflen (document.length - file.pos.toNat) := by omega
      have htail := ih hnext hrest (by
        simp only [List.length_cons, hdrop] at hmany ⊢
        omega)
      rw [if_neg (by omega), htail, Option.map_some, hdrop, ← List.drop_drop,
        List.take_append_drop]

end Handle

/-- What `webserver_get_info` says about a registered document. -/
def Registration.info (r : Registration) : FileInfo :=
  ⟨w.wrap r.contents.bytes.length, 0, false, true, r.contentType⟩

/-- A new handle on a registered document. -/
def Registration.handle (r : Registration) : WebServerFile :=
  ⟨0, r.buffer, r.contents.bytes.length, r.len_le⟩

theorem Registration.handle_serves (r : Registration) : Serves r.contents.bytes r.handle where
  contents := by simp [handle, buffer]
  len := rfl
  nonneg := Int.le_refl 0
  le_length := Int.natCast_nonneg _

/-- Served documents are complete: both lookups find the latest registration of a path, every
call on its handle is correct, and reading from the start gives the whole document. -/
theorem served_complete (rs : List Registration) (path : String) :
    ((webserverGetInfo w path (registerAll rs)).isSome ↔
      (webserverOpen path .read (registerAll rs)).isSome) ∧
    webserverGetInfo w path (registerAll rs) = (latest rs path).map (Registration.info w) ∧
    webserverOpen path .read (registerAll rs) = (latest rs path).map Registration.handle ∧
    ∀ r ∈ latest rs path, r.contents.bytes.length < 2 ^ 31 →
      ∀ calls, AllSteps (step w) (Fits w) r.handle calls →
        AllSteps (step w) (Correct w r.contents.bytes) r.handle calls ∧
        (0 ≤ (run (step w) r.handle calls).pos ∧
          (run (step w) r.handle calls).pos ≤ r.contents.bytes.length) ∧
        ∀ buffers : List ℕ, (∀ buflen ∈ buffers, 0 < buflen ∧ buflen < 2 ^ 31) →
          r.contents.bytes.length < buffers.length →
          (run (step w) r.handle calls).pos = 0 →
          readUntilZero w buffers (run (step w) r.handle calls) = some r.contents.bytes ∧
            (r.info w).fileLength = r.contents.bytes.length := by
  have hinfo : webserverGetInfo w path (registerAll rs) =
      (latest rs path).map (Registration.info w) := by
    rw [webserverGetInfo_eq, find_registerAll, Option.map_map]
    rfl
  have hopen : webserverOpen path .read (registerAll rs) =
      (latest rs path).map Registration.handle := by
    rw [webserverOpen_eq, find_registerAll, Option.map_map]
    rfl
  refine ⟨?_, hinfo, hopen, ?_⟩
  · rw [hinfo, hopen, Option.isSome_map, Option.isSome_map]
  intro r _ hlength calls hfits
  have hstep : ∀ file call, Serves r.contents.bytes file → Fits w file call →
      Correct w r.contents.bytes file call ∧ Serves r.contents.bytes (step w file call) := by
    intro file call h hcall
    have hcorrect := h.correct hlength hcall
    exact ⟨hcorrect, h.next hcorrect⟩
  have hserves : Serves r.contents.bytes (run (step w) r.handle calls) :=
    run_invariant_of_allSteps (step w) (fun file call h hcall => (hstep file call h hcall).2)
      r.handle_serves hfits
  refine ⟨?_, ⟨hserves.nonneg, hserves.le_length⟩, ?_⟩
  · exact allSteps_of_allSteps (step w) hstep r.handle_serves hfits
  intro buffers hbuffers hmany hstart
  have hread := hserves.readUntilZero (w := w) hlength hbuffers (by omega)
  rw [hstart, Int.toNat_zero, List.drop_zero] at hread
  exact ⟨hread, OffT.wrap_of_fits (OffT.fits_of_lt (by omega) (by omega))⟩

end GMediaRender.Webserver
