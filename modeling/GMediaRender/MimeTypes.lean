import GMediaRender.AliasClosure
import GMediaRender.HeapBlock

/-!
The list of supported types in upnp_connmgr.c. Registering a type also registers its aliases,
in part through a further call of `register_mime_type`. What the calls leave is the closure of
the registered types under a table of aliases.
-/
namespace GMediaRender.MimeTypes

open AliasClosure HeapBlock

/-- Strings of C are equal if strcmp finds no different byte. -/
instance : DecidableEq CString := fun s t =>
  decidable_of_iff (s.bytes = t.bytes) (by cases s; cases t; simp)

section Register

/-- The loop of `register_mime_type_internal`: whether it returns at an entry. -/
def isSupported : List CString → CString → Bool
  | [], _ => false
  | entry :: next, mimeType => if entry = mimeType then true else isSupported next mimeType

/-- `register_mime_type_internal`. A new entry, for which there is always memory, becomes the
first one. -/
def registerMimeTypeInternal (supportedTypes : List CString) (mimeType : CString) :
    List CString :=
  if isSupported supportedTypes mimeType then supportedTypes else mimeType :: supportedTypes

/-- `register_mime_type`, or nothing if it takes more than `depth` calls of the function inside
one another. -/
def registerMimeType : ℕ → List CString → CString → Option (List CString)
  | 0, _, _ => none
  | depth + 1, supportedTypes, mimeType => do
    let types := registerMimeTypeInternal supportedTypes mimeType
    let types ←
      if CString.ofString "audio/mpeg" = mimeType then
        let types := registerMimeTypeInternal types (.ofString "audio/x-mpeg")
        let types := registerMimeTypeInternal types (.ofString "audio/x-scpls")
        registerMimeType depth types (.ofString "audio/L16;rate=44100;channels=2")
      else some types
    let types := if CString.ofString "audio/x-alac" = mimeType then
      registerMimeTypeInternal types (.ofString "audio/alac") else types
    let types := if CString.ofString "audio/x-aiff" = mimeType then
      registerMimeTypeInternal types (.ofString "audio/aiff") else types
    let types := if CString.ofString "audio/x-m4a" = mimeType then
      let types := registerMimeTypeInternal types (.ofString "audio/m4a")
      registerMimeTypeInternal types (.ofString "audio/mp4") else types
    some types

/-- The supported types after some calls, of which there are none at first. -/
def supportedAfter (depth : ℕ) (calls : List CString) : Option (List CString) :=
  calls.foldlM (registerMimeType depth) []

end Register

section Aliases

/-- The types that come with others, and those that they come with. -/
def aliasTable : List (CString × List CString) := [
  (.ofString "audio/mpeg", [.ofString "audio/x-mpeg", .ofString "audio/x-scpls",
    .ofString "audio/L16;rate=44100;channels=2"]),
  (.ofString "audio/x-alac", [.ofString "audio/alac"]),
  (.ofString "audio/x-aiff", [.ofString "audio/aiff"]),
  (.ofString "audio/x-m4a", [.ofString "audio/m4a", .ofString "audio/mp4"])]

def aliases (table : List (CString × List CString)) (mimeType : CString) : List CString :=
  table.flatMap fun row => if row.1 = mimeType then row.2 else []

theorem aliases_nil (m : CString) : aliases [] m = [] := rfl

theorem aliases_cons (t : CString) (more : List CString) (table : List (CString × List CString))
    (m : CString) :
    aliases ((t, more) :: table) m = (if t = m then more else []) ++ aliases table m :=
  List.flatMap_cons

theorem aliases_cons_of_ne {t m : CString} (h : t ≠ m) (more : List CString)
    (table : List (CString × List CString)) :
    aliases ((t, more) :: table) m = aliases table m := by
  rw [aliases_cons, if_neg h, List.nil_append]

theorem aliases_of_mem_aliases (m : CString) :
    ∀ t ∈ aliases aliasTable m, aliases aliasTable t = [] := by
  have hrows : ∀ row ∈ aliasTable, ∀ t ∈ row.2, aliases aliasTable t = [] := by decide
  intro t ht
  obtain ⟨row, hrow, hmem⟩ := List.mem_flatMap.mp ht
  split_ifs at hmem
  · exact hrows row hrow t hmem
  · exact absurd hmem List.not_mem_nil

end Aliases

section Calls

theorem isSupported_iff (types : List CString) (m : CString) :
    isSupported types m = true ↔ m ∈ types := by
  induction types with
  | nil => simp [isSupported]
  | cons entry next ih =>
    by_cases hentry : entry = m
    · simp [isSupported, hentry]
    · simp [isSupported, hentry, ih, Ne.symm hentry]

theorem registerMimeTypeInternal_eq (types : List CString) (m : CString) :
    registerMimeTypeInternal types m = types.insert m := by
  by_cases hm : m ∈ types
  · rw [registerMimeTypeInternal, if_pos ((isSupported_iff types m).mpr hm),
      List.insert_of_mem hm]
  · rw [registerMimeTypeInternal, if_neg fun h => hm ((isSupported_iff types m).mp h),
      List.insert_of_not_mem hm]

/-- A call for a type other than audio/mpeg makes no further call. -/
theorem registerMimeType_of_ne (depth : ℕ) (types : List CString) {m : CString}
    (hm : CString.ofString "audio/mpeg" ≠ m) : registerMimeType (depth + 1) types m =
      some (insertAll types (m :: aliases aliasTable m)) := by
  have haliases : aliases aliasTable m =
      (if CString.ofString "audio/x-alac" = m then [.ofString "audio/alac"] else []) ++
      ((if CString.ofString "audio/x-aiff" = m then [.ofString "audio/aiff"] else []) ++
      (if CString.ofString "audio/x-m4a" = m then
        [.ofString "audio/m4a", .ofString "audio/mp4"] else [])) := by
    rw [aliasTable, aliases_cons_of_ne hm, aliases_cons, aliases_cons, aliases_cons, aliases_nil,
      List.append_nil]
  rw [haliases, insertAll_cons, insertAll_append, insertAll_append, insertAll_ite, insertAll_ite,
    insertAll_ite, registerMimeType]
  simp only [if_neg hm, Option.bind_eq_bind, Option.bind_some, registerMimeTypeInternal_eq,
    insertAll_cons, insertAll_nil]

/-- A call registers its type and then the aliases, and two calls inside one another suffice. -/
theorem registerMimeType_eq (depth : ℕ) (types : List CString) (m : CString) :
    registerMimeType (depth + 2) types m =
      some (insertAll types (m :: aliases aliasTable m)) := by
  by_cases hm : CString.ofString "audio/mpeg" = m
  · subst hm
    have hinner := registerMimeType_of_ne depth
      (insertAll types [.ofString "audio/mpeg", .ofString "audio/x-mpeg",
        .ofString "audio/x-scpls"]) (m := .ofString "audio/L16;rate=44100;channels=2") (by decide)
    have hnone : aliases aliasTable (.ofString "audio/L16;rate=44100;channels=2") = [] := by decide
    have hsome : aliases aliasTable (.ofString "audio/mpeg") = [.ofString "audio/x-mpeg",
      .ofString "audio/x-scpls", .ofString "audio/L16;rate=44100;channels=2"] := by decide
    have halac : CString.ofString "audio/x-alac" ≠ CString.ofString "audio/mpeg" := by decide
    have haiff : CString.ofString "audio/x-aiff" ≠ CString.ofString "audio/mpeg" := by decide
    have hm4a : CString.ofString "audio/x-m4a" ≠ CString.ofString "audio/mpeg" := by decide
    simp only [hnone, insertAll_cons, insertAll_nil] at hinner
    rw [hsome, registerMimeType]
    simp only [if_pos, if_neg halac, if_neg haiff, if_neg hm4a, registerMimeTypeInternal_eq, hinner,
      Option.bind_eq_bind, Option.bind_some, insertAll_cons, insertAll_nil]
  · exact registerMimeType_of_ne (depth + 1) types hm

theorem supportedAfter_eq (depth : ℕ) (calls : List CString) : supportedAfter (depth + 2) calls =
    some (insertAll [] (calls.flatMap fun m => m :: aliases aliasTable m)) := by
  have hrun : ∀ types, calls.foldlM (registerMimeType (depth + 2)) types =
      some (insertAll types (calls.flatMap fun m => m :: aliases aliasTable m)) := by
    induction calls with
    | nil => exact fun _ => rfl
    | cons m calls ih =>
      intro types
      rw [List.foldlM_cons, registerMimeType_eq, List.flatMap_cons, insertAll_append]
      exact ih _
  exact hrun []

/-- The calls leave every registered type and every alias once, whatever their order and
however often a type is registered, and every call returns, as does the one inside it. -/
theorem registry_closed (calls : List CString) :
    (∃ types, (∀ depth, supportedAfter (depth + 2) calls = some types) ∧
      Closure (aliases aliasTable) calls types ∧
      (∀ t ∈ types, ∀ a ∈ aliases aliasTable t, a ∈ types) ∧
      ∀ calls', (∀ m, m ∈ calls ↔ m ∈ calls') →
        ∃ types', (∀ depth, supportedAfter (depth + 2) calls' = some types') ∧
          types.Perm types') ∧
    (∀ types m, ∃ types', ∀ depth, registerMimeType (depth + 2) types m = some types') ∧
    ∀ types, ∃ types', ∀ depth, registerMimeType (depth + 1) types
      (.ofString "audio/L16;rate=44100;channels=2") = some types' := by
  refine ⟨?_, ?_, ?_⟩
  · have hclosure := closure_insertAll (aliases aliasTable)
    refine ⟨_, fun depth => supportedAfter_eq depth calls, hclosure calls, fun t ht a ha => ?_,
      fun calls' hsame => ?_⟩
    · exact (hclosure calls).aliases_subset aliases_of_mem_aliases ht ha
    · exact ⟨_, fun depth => supportedAfter_eq depth calls',
        (hclosure calls).perm (hclosure calls') hsame⟩
  · intro types m
    exact ⟨_, fun depth => registerMimeType_eq depth types m⟩
  · intro types
    exact ⟨_, fun depth => registerMimeType_of_ne depth types (by decide)⟩

/-- The table in which every type with x- only has its plain form for an alias. -/
def plainTable : List (CString × List CString) := [
  (.ofString "audio/mpeg", [.ofString "audio/x-mpeg", .ofString "audio/x-scpls",
    .ofString "audio/L16;rate=44100;channels=2"]),
  (.ofString "audio/x-alac", [.ofString "audio/alac"]),
  (.ofString "audio/x-aiff", [.ofString "audio/aiff"]),
  (.ofString "audio/x-m4a", [.ofString "audio/m4a"])]

/-- Registering audio/x-m4a also adds audio/mp4. -/
theorem not_plain_closure : ¬ ∀ depth calls types, supportedAfter (depth + 2) calls = some types →
    Closure (aliases plainTable) calls types := by
  intro h
  have hclosure := h 0 [.ofString "audio/x-m4a"] [.ofString "audio/mp4", .ofString "audio/m4a",
    .ofString "audio/x-m4a"] (by decide)
  obtain ⟨m, hm, halias⟩ := (hclosure.mem_iff (.ofString "audio/mp4")).mp (by decide)
  obtain rfl := List.mem_singleton.mp hm
  exact absurd halias (by decide)

end Calls

end GMediaRender.MimeTypes
