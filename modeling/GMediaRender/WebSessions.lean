import GMediaRender.HandleTable
import GMediaRender.Webserver

/-!
Downloads beside each other. `webserver_open` allocates a handle, the calls that follow read and
move it through its address, and `webserver_close` frees it, while other downloads do the same and
documents are registered. Each download goes as if it were the only one: over the document that
its path had when it was opened.
-/
namespace GMediaRender.WebSessions

open HeapBlock OwnedHeap HandleTable Webserver

/-- The bytes in the buffer, and the result of the call. -/
abbrev Reply := List UInt8 × ℤ

abbrev Request := String × OpenMode

variable (w : OffT)

section Code

def serve (file : WebServerFile) : Call → Option (WebServerFile × Reply)
  | .read buflen => (webserverRead w file buflen).map fun r => (r.1, r.2.1, r.2.2)
  | .seek offset origin => some ((webserverSeek w file offset origin).1, [],
      (webserverSeek w file offset origin).2)

/-- The handles of the web server. -/
def webserver : Behaviour (List VirtualFile) Request Call Registration WebServerFile Reply where
  create virtualFiles request := webserverOpen request.1 request.2 virtualFiles
  act := serve w
  update virtualFiles r := (webserverRegisterBuf virtualFiles r).1

end Code

section Documents

instance (x : ℤ) : Decidable (w.Fits x) :=
  inferInstanceAs (Decidable (-(2 ^ w.bits) ≤ x ∧ x < 2 ^ w.bits))

/-- A position in a document. -/
structure Cursor where
  document : List UInt8
  pos : ℕ
  le_length : pos ≤ document.length

namespace Cursor

def target (c : Cursor) (offset : ℤ) : Origin → Option ℤ
  | .seekSet => some offset
  | .seekCur => some (c.pos + offset)
  | .seekEnd => some (c.document.length + offset)
  | .other => none

def advance (c : Cursor) (buflen : ℕ) : Cursor where
  document := c.document
  pos := c.pos + min buflen (c.document.length - c.pos)
  le_length := by
    have := c.le_length
    omega

/-- A read takes what is left, as far as the buffer goes; a seek goes to a position in the
document or is refused. Buffers of 2^31 bytes and sums that are no off_t are left out. -/
def call (c : Cursor) : Call → Option (Cursor × Reply)
  | .read buflen =>
    if buflen < 2 ^ 31 then
      some (c.advance buflen, (c.document.drop c.pos).take buflen,
        (min buflen (c.document.length - c.pos) : ℕ))
    else none
  | .seek offset origin =>
    match c.target offset origin with
    | none => some (c, [], -1)
    | some target =>
      if w.Fits target then
        if h : 0 ≤ target ∧ target ≤ c.document.length then
          some (⟨c.document, target.toNat, by omega⟩, [], 0)
        else some (c, [], -1)
      else none

end Cursor

/-- A download of the document that was registered last under its path. -/
def documents : Behaviour (List Registration) Request Call Registration Cursor Reply where
  create rs request :=
    if request.2 = .read then
      (latest rs request.1).map fun r => ⟨r.contents.bytes, 0, Nat.zero_le _⟩
    else none
  act := Cursor.call w
  update rs r := rs ++ [r]

end Documents

section Simulation

/-- The position of a cursor as a handle has it. -/
structure IsAt (c : Cursor) (file : WebServerFile) : Prop where
  serves : Serves c.document file
  pos : file.pos = c.pos
  short : c.document.length < 2 ^ 31

/-- The documents that are served are those registered, none of 2^31 bytes or more. -/
structure Holds (rs : List Registration) (files : List VirtualFile) : Prop where
  registered : files = registerAll rs
  short : ∀ r ∈ rs, r.contents.bytes.length < 2 ^ 31

variable {w} {c : Cursor} {file : WebServerFile}

theorem mem_of_latest {rs : List Registration} {path : String} {r : Registration}
    (h : latest rs path = some r) : r ∈ rs :=
  List.mem_of_mem_filter (List.mem_of_mem_getLast? (Option.mem_def.mpr h))

theorem opened {rs : List Registration} {files : List VirtualFile} (h : Holds rs files)
    (request : Request) : Option.Rel IsAt ((documents w).create rs request)
      ((webserver w).create files request) := by
  obtain ⟨path, mode⟩ := request
  cases mode with
  | write => exact .none
  | read =>
    have hopen : webserverOpen path .read files = (latest rs path).map Registration.handle := by
      rw [h.registered, webserverOpen_eq, find_registerAll, Option.map_map]
      rfl
    have hcreate : (webserver w).create files (path, .read) =
        (latest rs path).map Registration.handle := hopen
    rw [hcreate, documents]
    simp only [if_true]
    cases hlatest : latest rs path with
    | none => exact .none
    | some r => exact .some ⟨r.handle_serves, rfl, h.short r (mem_of_latest hlatest)⟩

theorem IsAt.read (h : IsAt c file) {buflen : ℕ} (hbuflen : buflen < 2 ^ 31) :
    ∃ file', serve w file (.read buflen) = some (file', (c.document.drop c.pos).take buflen,
        ((min buflen (c.document.length - c.pos) : ℕ) : ℤ)) ∧ IsAt (c.advance buflen) file' := by
  have hcorrect := h.serves.read (w := w) h.short hbuflen
  have hserves := h.serves.next hcorrect
  have hnat : file.pos.toNat = c.pos := by rw [h.pos, Int.toNat_natCast]
  have hread : webserverRead w file buflen = some ({ file with
      pos := file.pos + (min buflen (c.document.length - c.pos) : ℕ) },
      (c.document.drop c.pos).take (min buflen (c.document.length - c.pos)),
      ((min buflen (c.document.length - c.pos) : ℕ) : ℤ)) := by
    rw [← hnat]
    exact hcorrect
  rw [Webserver.step, hread, Option.map_some, Option.getD_some] at hserves
  have htake : (c.document.drop c.pos).take (min buflen (c.document.length - c.pos)) =
      (c.document.drop c.pos).take buflen := by
    rw [← List.length_drop]
    exact List.take_eq_take_min.symm
  refine ⟨_, ?_, hserves, ?_, h.short⟩
  · rw [serve, hread, Option.map_some, htake]
  · simp only [h.pos, Cursor.advance]
    push_cast
    rfl

theorem IsAt.seek (h : IsAt c file) {offset : ℤ} {origin : Origin} {c' : Cursor} {reply : Reply}
    (hcall : c.call w (.seek offset origin) = some (c', reply)) :
    ∃ file', serve w file (.seek offset origin) = some (file', reply) ∧ IsAt c' file' := by
  have htarget : seekTarget file offset origin = c.target offset origin := by
    cases origin <;> simp [seekTarget, Cursor.target, h.pos, h.serves.len]
  have hfits : Fits w file (.seek offset origin) := by
    intro target hmem
    rw [htarget, Option.mem_def] at hmem
    simp only [Cursor.call, hmem] at hcall
    by_contra hnot
    rw [if_neg (fun hin => hnot hin)] at hcall
    cases hcall
  have hcorrect := h.serves.seek hfits
  simp only [Correct, htarget] at hcorrect
  cases hat : c.target offset origin with
  | none =>
    simp only [Cursor.call, hat, Option.some.injEq, Prod.mk.injEq] at hcall
    obtain ⟨rfl, rfl⟩ := hcall
    rw [hat] at hcorrect
    exact ⟨file, by rw [serve, hcorrect]; rfl, h⟩
  | some target =>
    have hin := hfits target (htarget ▸ hat)
    simp only [Cursor.call, hat] at hcall
    rw [if_pos hin] at hcall
    rw [hat] at hcorrect
    by_cases hdocument : 0 ≤ target ∧ target ≤ c.document.length
    · rw [dif_pos hdocument] at hcall
      simp only [Option.some.injEq, Prod.mk.injEq] at hcall
      obtain ⟨rfl, rfl⟩ := hcall
      rw [Option.filter_some_pos (by simpa using hdocument)] at hcorrect
      refine ⟨{ file with pos := target }, by rw [serve, hcorrect], ⟨h.serves.contents,
        h.serves.len, hdocument.1, hdocument.2⟩, ?_, h.short⟩
      exact (Int.toNat_of_nonneg hdocument.1).symm
    · rw [dif_neg hdocument] at hcall
      simp only [Option.some.injEq, Prod.mk.injEq] at hcall
      obtain ⟨rfl, rfl⟩ := hcall
      rw [Option.filter_some_neg (by simpa using hdocument)] at hcorrect
      exact ⟨file, by rw [serve, hcorrect], h⟩

/-- The web server answers as its documents would. -/
theorem documents_webserver : Simulates (documents w) (webserver w) Holds IsAt
    fun r => r.contents.bytes.length < 2 ^ 31 where
  create rs files h request := opened h request
  act c file h call c' reply hcall := by
    cases call with
    | seek offset origin => exact h.seek hcall
    | read buflen =>
      have hdef : (documents w).act c (.read buflen) = c.call w (.read buflen) := rfl
      rw [hdef, Cursor.call] at hcall
      split_ifs at hcall with hbuflen
      simp only [Option.some.injEq, Prod.mk.injEq] at hcall
      obtain ⟨rfl, rfl⟩ := hcall
      exact h.read hbuflen
  update rs files h r hr := by
    refine ⟨?_, fun r' hr' => ?_⟩
    · rw [h.registered]
      simp [webserver, documents, registerAll]
    · rcases List.mem_append.mp hr' with hmem | hmem
      · exact h.short r' hmem
      · exact List.mem_singleton.mp hmem ▸ hr

end Simulation

variable {κ : Type} [DecidableEq κ]

/-- Any number of downloads beside each other and beside registrations, for any way of choosing
addresses: every call returns, each caller is answered what the document that its path had when
it was opened would answer it, and what is allocated is one handle for each open download. The
documents and the buffers are below 2^31 bytes, and the sums that are seeked to are an off_t. -/
theorem downloads_isolated (A : Allocator) (cmds : List (Command κ Request Call Registration))
    (hshort : ∀ r, .update r ∈ cmds → r.contents.bytes.length < 2 ^ 31)
    (hcalls : ∀ k, (runOwn (documents w) k ([], none) cmds).isSome) :
    ∃ files t answers, HandleTable.run (webserver w) A ([], .empty) cmds =
        some ((files, t), answers) ∧
      (∀ k, (runOwn (documents w) k ([], none) cmds).map Prod.snd =
        some (answersTo k answers)) ∧
      (∀ k k' a, t.held k = some a → t.held k' = some a → k = k') ∧
      ∀ a, a ∈ t.heap.addresses ↔ ∃ k, t.held k = some a := by
  have hholds : Holds [] [] := ⟨rfl, by simp⟩
  have hown : ∀ k, ∃ r p, runOwn (documents w) k ([], none) cmds = some r ∧
      runOwn (webserver w) k ([], none) cmds = some (p, r.2) := by
    intro k
    obtain ⟨r, hr⟩ := Option.isSome_iff_exists.mp (hcalls k)
    obtain ⟨files, o, hrun, -, -⟩ :=
      documents_webserver.runOwn k cmds hshort hholds (.none (r := IsAt)) hr
    exact ⟨r, _, hr, hrun⟩
  obtain ⟨files, t, objects, answers, hrun, hkeeps, hanswers⟩ :=
    run_isolated (A := A) (B := webserver w) (s := []) cmds keeps_empty fun k => by
      obtain ⟨r, p, -, hrun⟩ := hown k
      rw [hrun]
      rfl
  refine ⟨files, t, answers, hrun, fun k => ?_, fun k k' a hk hk' => hkeeps.held_injective hk hk',
    fun a => hkeeps.mem_addresses⟩
  obtain ⟨r, p, hr, hweb⟩ := hown k
  have hsame := hweb.symm.trans (hanswers k)
  rw [hr, Option.map_some, (Prod.mk.inj (Option.some.inj hsame)).2]

/-- A handle is closed and its address is given to another download. -/
def twoDownloads : List (Command Bool Request Call Registration) :=
  [.update ⟨"/a", .ofString "one", "text/xml", true⟩, .open true ("/a", .read),
    .call true (.read 2), .close true, .update ⟨"/a", .ofString "two", "text/xml", true⟩,
    .open false ("/a", .read), .call true (.read 9), .call false (.seek 1 .seekSet),
    .call false (.read 9)]

theorem downloads_isolated_reuse : ∃ files t answers,
    HandleTable.run (webserver ⟨31, le_rfl⟩) nextAddress ([], .empty) twoDownloads =
      some ((files, t), answers) ∧
    (∀ k, (runOwn (documents ⟨31, le_rfl⟩) k ([], none) twoDownloads).map Prod.snd =
      some (answersTo k answers)) ∧
    (∀ k k' a, t.held k = some a → t.held k' = some a → k = k') ∧
    ∀ a, a ∈ t.heap.addresses ↔ ∃ k, t.held k = some a := by
  refine downloads_isolated ⟨31, le_rfl⟩ nextAddress twoDownloads (fun r hr => ?_) (by decide)
  have hcases : r = ⟨"/a", .ofString "one", "text/xml", true⟩ ∨
      r = ⟨"/a", .ofString "two", "text/xml", true⟩ := by
    simpa [twoDownloads] using hr
  rcases hcases with rfl | rfl
  · decide
  · decide

end GMediaRender.WebSessions
