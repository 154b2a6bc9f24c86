import GMediaRender.FirstMatch
import GMediaRender.OutputSilan
import GMediaRender.TimeFormat
import GMediaRender.XmlText
import Mathlib.Data.List.TakeWhile

/-!
The settings with which the output module starts. output_silan.c takes them out of two XML files
by looking for a tag in the text and reading the number after it. On the text of an XML tree, as
whoever may have written it, that is the number in the first element with this name, whatever the
texts and attributes contain. A file that cannot be opened ends the program.
-/
namespace GMediaRender.StoredSettings

open XmlDoc XmlReader XmlText UpnpTime TimeFormat OutputSilan FirstMatch

section Code

def silanSlmpKeyPadmux : String := "<setpadmux>"
def silanSystemKeyVolume : String := "<volume>"
def silanSystemKeyMute : String := "<mute>"

/-- `strcasestr`: the text from the first place on where the needle stands in any case. -/
def strcasestr (haystack needle : String) : Option String :=
  (search Char.toLower needle.toList haystack.toList).map String.ofList

inductive StoredFile where
  /-- `fopen` fails. -/
  | unopened
  /-- The contents are missing if the file cannot be examined or read. -/
  | opened (contents : Option String)

/-- A buffer as a string of C. -/
def beforeNul (buf : String) : String := String.ofList (buf.toList.takeWhile (· ≠ '\x00'))

/-- `output_silan_read_file`; the NULL of `fopen` is not negative, and `fclose` gets it. -/
def outputSilanReadFile : StoredFile → Option (Option String)
  | .unopened => none
  | .opened contents => some ((contents.filter (· ≠ "")).map beforeNul)

/-- The number after a key, if the key is there. -/
def numberAfter (buf key : String) : Option ℤ :=
  (strcasestr buf key).map fun pos => atoi (String.ofList (pos.toList.drop key.length))

/-- A setting is 0 if nothing is stored for it. -/
def setting (buf : Option String) (key : String) : ℤ := (buf.bind (numberAfter · key)).getD 0

/-- `output_silan_init` with the two files. -/
def outputSilanInitStored (env : Env) (slmp system : StoredFile) : Option SilanData :=
  (outputSilanReadFile slmp).bind fun slmp =>
    (outputSilanReadFile system).map fun system =>
      outputSilanInit env (setting slmp silanSlmpKeyPadmux) (setting system silanSystemKeyVolume)
        (setting system silanSystemKeyMute)

end Code

section Meaning

mutual

/-- The children of the first element with a name in lower case and without attributes. -/
def firstElement (name : List Char) : Node → Option (List Node)
  | .element tag attributes children =>
    if tag.toList.map Char.toLower = name ∧ attributes = [] then some children
    else firstAmong name children
  | .text _ => none

def firstAmong (name : List Char) : List Node → Option (List Node)
  | [] => none
  | n :: ns => (firstElement name n).or (firstAmong name ns)

end

/-- What a tree stores under a name. -/
def stored (name : String) (root : Node) : ℤ :=
  ((firstElement name.toList root).map fun children => atoi (leadingText children)).getD 0

end Meaning

section Characters

theorem isLower_toLower {c : Char} (hupper : c.val ≥ 'A'.val ∧ c.val ≤ 'Z'.val) :
    c.toLower.isLower = true := by
  have hlow : 65 ≤ c.val.toNat := UInt32.le_iff_toNat_le.mp hupper.1
  have hhigh : c.val.toNat ≤ 90 := UInt32.le_iff_toNat_le.mp hupper.2
  have hlower : c.toLower.val = c.val + 32 := congrArg Char.val (dif_pos hupper)
  have hval : c.toLower.val.toNat = c.val.toNat + 32 := by
    have hwraps : (c.val + 32).toNat = (c.val.toNat + 32) % 2 ^ 32 := UInt32.toNat_add _ _
    rw [hlower, hwraps]
    omega
  have ha : 'a'.val.toNat = 97 := rfl
  have hz : 'z'.val.toNat = 122 := rfl
  change (decide ('a'.val ≤ c.toLower.val) && decide (c.toLower.val ≤ 'z'.val)) = true
  simp only [Bool.and_eq_true, decide_eq_true_eq, UInt32.le_iff_toNat_le]
  omega

/-- A character that is no letter is the lower case of no other. -/
theorem ne_toLower {c x : Char} (hx : x.toLower = x) (hnot : x.isLower = false) (hne : c ≠ x) :
    x.toLower ≠ c.toLower := by
  intro h
  rw [hx] at h
  by_cases hupper : c.val ≥ 'A'.val ∧ c.val ≤ 'Z'.val
  · have hlower := isLower_toLower hupper
    rw [← h, hnot] at hlower
    exact Bool.noConfusion hlower
  · have hsame : c.toLower = c := dif_neg hupper
    exact hne (h.trans hsame).symm

theorem ne_toLower_of_notMem {x : Char} (hx : x.toLower = x) (hnot : x.isLower = false)
    {text : List Char} (h : x ∉ text) : ∀ c ∈ text, x.toLower ≠ c.toLower :=
  fun _ hc => ne_toLower hx hnot fun heq => h (heq ▸ hc)

end Characters

section Search

/-- The name of a setting, as the keys spell it. -/
structure IsKey (name : String) : Prop extends IsName name where
  lower : ∀ c ∈ name.toList, c.toLower = c

instance (name : String) : Decidable (IsKey name) :=
  decidable_of_iff (IsName name ∧ name.toList.all (fun c => c.toLower = c) = true)
    ⟨fun h => ⟨h.1, by simpa using h.2⟩, fun h => ⟨h.1, by simpa using h.lower⟩⟩

def tagOf (name : String) : List Char := '<' :: (name.toList ++ ['>'])

/-- What follows the tag in a text. -/
def found (name : String) (text : List Char) : Option (List Char) :=
  (search Char.toLower (tagOf name) text).map (·.drop (tagOf name).length)

theorem found_append (name : String) {a : List Char} (h : '<' ∉ a) (b : List Char) :
    found name (a ++ b) = found name b := by
  rw [found, found, tagOf, search_append (ne_toLower_of_notMem rfl rfl h)]

variable {name : String} (hkey : IsKey name)

theorem found_cons_of_not {text : List Char}
    (h : ¬begins Char.toLower (tagOf name) ('<' :: text) = true) :
    found name ('<' :: text) = found name text := by
  rw [found, found, search_cons_of_not h]

include hkey

theorem IsKey.map_lower : name.toList.map Char.toLower = name.toList :=
  (List.map_congr_left hkey.lower).trans (List.map_id _)

theorem IsKey.ne_toLower {x : Char} (hx : nameChar x = false) (hlower : x.toLower = x)
    (hnot : x.isLower = false) : ∀ c ∈ name.toList, c.toLower ≠ x.toLower := by
  intro c hc
  refine (StoredSettings.ne_toLower hlower hnot ?_).symm
  rintro rfl
  rw [hkey.nameChar c hc] at hx
  exact Bool.noConfusion hx

/-- The tag is found at an element with this name, if it has no attributes. -/
theorem begins_element {tag : String} (htag : IsName tag) {attributes : List (String × String)}
    {attrs : List Char} (hattrs : AttributesText attributes attrs) (rest : List Char) :
    begins Char.toLower (tagOf name) ('<' :: (tag.toList ++ (attrs ++ '>' :: rest))) = true ↔
      tag.toList.map Char.toLower = name.toList ∧ attributes = [] := by
  have hname := ne_toLower_of_notMem rfl rfl fun hmem : '>' ∈ tag.toList =>
    absurd (htag.nameChar _ hmem) (by decide)
  rw [tagOf, begins_cons_cons]
  cases attributes with
  | nil =>
    obtain rfl : attrs = [] := hattrs
    have hstop := hkey.ne_toLower (x := '>') rfl rfl rfl
    rw [List.nil_append, begins_word hstop hname, hkey.map_lower]
    simp [eq_comm]
  | cons a attributes =>
    obtain ⟨blanks, quote, value, more, hne, hblanks, -, -, -, -, rfl⟩ := hattrs
    obtain ⟨b, blanks, rfl⟩ := List.exists_cons_of_ne_nil hne
    have hblank := hblanks b List.mem_cons_self
    have hcases : b = ' ' ∨ b = '\t' ∨ b = '\n' ∨ b = '\r' := by simpa [blank] using hblank
    have hstop : ∀ c ∈ name.toList, c.toLower ≠ b.toLower := by
      rcases hcases with rfl | rfl | rfl | rfl <;> exact hkey.ne_toLower rfl rfl rfl
    have hnot : '>'.toLower ≠ b.toLower := by
      rcases hcases with rfl | rfl | rfl | rfl <;> decide
    rw [List.cons_append, List.cons_append, begins_word hstop hname]
    exact iff_of_false (fun h => hnot h.2.2) fun h => List.cons_ne_nil _ _ h.2

/-- No name begins with a slash or a question mark. -/
theorem found_markup {x : Char} (hx : nameChar x = false) (hlower : x.toLower = x)
    (hnot : x.isLower = false) (hless : x ≠ '<') (text : List Char) :
    found name ('<' :: x :: text) = found name text := by
  obtain ⟨c, rest, hname⟩ := List.exists_cons_of_ne_nil hkey.ne_nil
  have hfirst := hkey.ne_toLower hx hlower hnot c (hname ▸ List.mem_cons_self ..)
  have hnone : ¬begins Char.toLower (tagOf name) ('<' :: x :: text) = true := by
    rw [tagOf, hname, List.cons_append, begins_cons_cons, begins_cons_cons]
    exact fun h => hfirst h.2.1
  have hnotless : '<' ∉ [x] := by simpa using hless.symm
  rw [found_cons_of_not hnone]
  exact found_append name hnotless text

/-- What is found in a text before `rest`: the children of an element, or what `rest` has. -/
def Finds (name : String) (text rest : List Char) : Option (List Node) → Prop
  | some children => ∃ body after, TextsOf children body ∧
      found name text = some (body ++ '<' :: after)
  | none => found name text = found name rest

omit hkey in
theorem Finds.or {text middle rest : List Char} {o o' : Option (List Node)}
    (h : Finds name text middle o) (h' : Finds name middle rest o') :
    Finds name text rest (o.or o') := by
  cases o with
  | some children => exact h
  | none =>
    have hfound : found name text = found name middle := h
    cases o' with
    | none => exact hfound.trans h'
    | some children =>
      obtain ⟨body, after, hbody, hafter⟩ := h'
      exact ⟨body, after, hbody, hfound.trans hafter⟩

/-- Looking for the tag goes through the elements in the order of the document. -/
theorem finds_textsOf (ns : List Node) (hns : AllNamed ns) {text : List Char}
    (h : TextsOf ns text) (rest : List Char) :
    Finds name (text ++ rest) rest (firstAmong name.toList ns) :=
  match ns, hns with
  | [], _ => by
    obtain rfl : text = [] := h
    exact rfl
  | .text content :: ns, hns => by
    obtain ⟨first, more, hfirst, hmore, rfl⟩ := h
    have hwritten : Written content.toList first := hfirst
    have hskip : Finds name (first ++ more ++ rest) (more ++ rest) none := by
      rw [List.append_assoc]
      exact found_append name hwritten.less_notMem _
    exact hskip.or (finds_textsOf ns hns.2 hmore rest)
  | .element tag attributes inner :: ns, hns => by
    obtain ⟨⟨htag, ⟨hnames, -⟩, hinner⟩, hns⟩ := hns
    obtain ⟨first, more, ⟨attrs, body, hattrs, hbody, rfl⟩, hmore, rfl⟩ := h
    let last := more ++ rest
    let close := '<' :: '/' :: (tag.toList ++ '>' :: last)
    let opened := tag.toList ++ (attrs ++ '>' :: (body ++ close))
    have htext : '<' :: (tag.toList ++ (attrs ++ '>' :: (body ++ '<' :: '/' ::
        (tag.toList ++ ['>'])))) ++ more ++ rest = '<' :: opened := by
      simp [close, last, opened]
    have hbegins := begins_element hkey htag hattrs (body ++ close)
    rw [htext, firstAmong, firstElement]
    split_ifs with hnamed
    · obtain ⟨hlower, rfl⟩ := hnamed
      obtain rfl : attrs = [] := hattrs
      have hlength : tag.toList.length = name.toList.length := by
        rw [← hlower, List.length_map]
      refine ⟨body, '/' :: (tag.toList ++ '>' :: last), hbody, ?_⟩
      rw [found, search_of_begins (hbegins.mpr ⟨hlower, rfl⟩)]
      simp [tagOf, ← hlength, close]
    · have hskip : Finds name ('<' :: opened) (body ++ close) none := by
        have hhead : '<' ∉ tag.toList ++ (attrs ++ ['>']) := by
          simp [less_notMem_name htag, less_notMem_attributes hattrs hnames]
        have happend := found_append name hhead (body ++ close)
        have hnot := found_cons_of_not fun h => hnamed (hbegins.mp h)
        refine hnot.trans (Eq.trans ?_ happend)
        simp
      have hclose : Finds name close last none := by
        have htail : '<' ∉ tag.toList ++ ['>'] := by simp [less_notMem_name htag]
        have happend := found_append name htail last
        rw [List.append_assoc] at happend
        exact (found_markup hkey rfl rfl rfl (by decide) _).trans happend
      exact (hskip.or (finds_textsOf inner hinner hbody close)).or
        (hclose.or (finds_textsOf ns hns hmore rest))

end Search

section Stops

/-- No number goes on with this text. -/
def Stops (text : List Char) : Prop :=
  ∀ c ∈ text.head?, isSpace c = false ∧ c.isDigit = false ∧ c ≠ '-' ∧ c ≠ '+'

variable {stop : List Char} (hstop : Stops stop)

include hstop

theorem spanDigits_append (a : List Char) (w w' : ℕ) (hw : a.length ≤ w) (hw' : a.length ≤ w') :
    (spanDigits w (a ++ stop)).1 = (spanDigits w' a).1 := by
  induction a generalizing w w' with
  | nil =>
    have hnone : ∀ w, (spanDigits w stop).1 = [] := by
      intro w
      cases w with
      | zero => rfl
      | succ w =>
        cases stop with
        | nil => rfl
        | cons c stop =>
          have hdigit := (hstop c rfl).2.1
          simp [spanDigits, hdigit]
    rw [List.nil_append, hnone]
    cases w' <;> rfl
  | cons c a ih =>
    obtain ⟨w, rfl⟩ : ∃ n, w = n + 1 := ⟨w - 1, by simp only [List.length_cons] at hw; omega⟩
    obtain ⟨w', rfl⟩ : ∃ n, w' = n + 1 := ⟨w' - 1, by simp only [List.length_cons] at hw'; omega⟩
    simp only [List.length_cons] at hw hw'
    have hrest := ih w w' (by omega) (by omega)
    rw [List.cons_append, spanDigits, spanDigits]
    split_ifs
    · rw [hrest]
    · rfl

theorem dropWhile_append_stop (a : List Char) :
    (a ++ stop).dropWhile isSpace = a.dropWhile isSpace ++ stop := by
  induction a with
  | nil =>
    cases stop with
    | nil => rfl
    | cons c stop => simp [(hstop c rfl).1]
  | cons c a ih =>
    rw [List.cons_append, List.dropWhile_cons, List.dropWhile_cons, ih]
    split_ifs <;> rfl

end Stops

section Numbers

/-- The number of the digits that were read. -/
def numberOf (negative : Bool) (ds : List Char) : Option ℤ :=
  if ds = [] then none
  else some (clampInt (if negative then -(digitsValue ds : ℤ) else digitsValue ds))

/-- The sign and the digits of a number, without the spaces before it. -/
def scanned (width : ℕ) : List Char → Option ℤ
  | '-' :: rest => numberOf true (spanDigits (width - 1) rest).1
  | '+' :: rest => numberOf false (spanDigits (width - 1) rest).1
  | cs => numberOf false (spanDigits width cs).1

theorem scanned_other {width : ℕ} {c : Char} {text : List Char} (hminus : c ≠ '-')
    (hplus : c ≠ '+') :
    scanned width (c :: text) = numberOf false (spanDigits width (c :: text)).1 := by
  simp [scanned, hminus, hplus]

theorem scanInt_fst (width : ℕ) (cs : List Char) :
    (scanInt width cs).map Prod.fst = scanned width (cs.dropWhile isSpace) := by
  unfold scanInt
  generalize cs.dropWhile isSpace = text
  rcases text with _ | ⟨c, text⟩
  · cases width <;> rfl
  · by_cases hminus : c = '-'
    · subst hminus
      change _ = numberOf true (spanDigits (width - 1) text).1
      simp only
      rcases spanDigits (width - 1) text with ⟨_ | ⟨d, ds⟩, rest⟩ <;> rfl
    · by_cases hplus : c = '+'
      · subst hplus
        change _ = numberOf false (spanDigits (width - 1) text).1
        simp only
        rcases spanDigits (width - 1) text with ⟨_ | ⟨d, ds⟩, rest⟩ <;> rfl
      · rw [scanned_other hminus hplus]
        simp only [Char.isValue, List.cons.injEq, hminus, false_and, imp_self, implies_true, hplus,
          Bool.false_eq_true, if_false]
        rcases spanDigits width (c :: text) with ⟨_ | ⟨d, ds⟩, rest⟩ <;> rfl

theorem scanned_append {stop : List Char} (hstop : Stops stop) (a : List Char) {w w' : ℕ}
    (hw : a.length ≤ w) (hw' : a.length ≤ w') : scanned w (a ++ stop) = scanned w' a := by
  have hspan := spanDigits_append hstop a w w' hw hw'
  rcases a with _ | ⟨c, a⟩
  · rcases stop with _ | ⟨c, stop⟩
    · cases w <;> cases w' <;> rfl
    · obtain ⟨-, -, hminus, hplus⟩ := hstop c rfl
      rw [List.nil_append] at hspan ⊢
      rw [scanned_other hminus hplus, hspan]
      rfl
  · simp only [List.length_cons] at hw hw'
    have hrest := spanDigits_append hstop a (w - 1) (w' - 1) (by omega) (by omega)
    by_cases hminus : c = '-'
    · subst hminus
      exact congrArg (numberOf true) hrest
    · by_cases hplus : c = '+'
      · subst hplus
        exact congrArg (numberOf false) hrest
      · rw [List.cons_append] at hspan ⊢
        rw [scanned_other hminus hplus, scanned_other hminus hplus, hspan]

/-- A number is not changed by what follows, if it cannot go on there. -/
theorem atoi_append {stop stop' : List Char} (hstop : Stops stop) (hstop' : Stops stop')
    (a : List Char) : atoi (String.ofList (a ++ stop)) = atoi (String.ofList (a ++ stop')) := by
  have hatoi : ∀ cs, atoi (String.ofList cs) =
      (scanned (cs.length + 1) (cs.dropWhile isSpace)).getD 0 := by
    intro cs
    rw [← scanInt_fst, atoi, String.toList_ofList, String.length_ofList]
    cases scanInt (cs.length + 1) cs <;> rfl
  have hplain : ∀ stop, Stops stop → atoi (String.ofList (a ++ stop)) =
      (scanned (a.length + 1) (a.dropWhile isSpace)).getD 0 := by
    intro stop hstop
    have hshort := (List.dropWhile_sublist isSpace (l := a)).length_le
    rw [hatoi, dropWhile_append_stop hstop]
    have hscanned : scanned ((a ++ stop).length + 1) (a.dropWhile isSpace ++ stop) =
        scanned (a.length + 1) (a.dropWhile isSpace) :=
      scanned_append hstop _ (by rw [List.length_append]; omega) (by omega)
    rw [hscanned]
  rw [hplain stop hstop, hplain stop' hstop']

end Numbers

section Settings

theorem stops_special {c : Char} (h : special c = true) (rest : List Char) : Stops (c :: rest) := by
  rintro d hd
  cases hd
  simp only [special, Bool.or_eq_true, decide_eq_true_eq] at h
  rcases h with (((rfl | rfl) | rfl) | rfl) | rfl <;> decide

/-- A text and what is written for it are the same up to a place where no number goes on. -/
theorem written_split {text raw : List Char} (h : Written text raw) (rest : List Char) :
    ∃ same tail tail', text = same ++ tail ∧ raw ++ '<' :: rest = same ++ tail' ∧
      Stops tail ∧ Stops tail' := by
  induction h with
  | nil => exact ⟨[], [], '<' :: rest, rfl, rfl, by simp [Stops], stops_special rfl rest⟩
  | @self text raw c hless hmark _ ih =>
    by_cases hc : special c = true
    · exact ⟨[], c :: text, c :: (raw ++ '<' :: rest), rfl, rfl, stops_special hc _,
        stops_special hc _⟩
    · obtain ⟨same, tail, tail', rfl, hraw, hstop, hstop'⟩ := ih
      exact ⟨c :: same, tail, tail', rfl, by rw [List.cons_append, hraw, List.cons_append], hstop,
        hstop'⟩
  | @entity text raw c hc body _ _ _ =>
    exact ⟨[], c :: text, '&' :: (body ++ raw ++ '<' :: rest), rfl, rfl, stops_special hc _,
      stops_special rfl _⟩

/-- A number is read from what is written for a text as from the text. -/
theorem atoi_written {content : String} {raw : List Char} (h : Written content.toList raw)
    (rest : List Char) : atoi (String.ofList (raw ++ '<' :: rest)) = atoi content := by
  obtain ⟨same, tail, tail', htext, hraw, hstop, hstop'⟩ := written_split h rest
  rw [hraw, atoi_append hstop' hstop, ← htext, String.ofList_toList]

section Document

variable {key name : String} (hname : IsKey name)

include hname

/-- The number after a key in the text of a document is the one that the document stores. -/
theorem setting_documentText (htag : key.toList = tagOf name) {root : Node} (hroot : Named root)
    {text : String} (h : DocumentText root text) :
    setting (some text) key = stored name root := by
  obtain ⟨declaration, body, after, hdeclaration, hbody, hafter, htext⟩ := h.parts
  have hlength : key.length = (tagOf name).length := by rw [← htag, String.length_toList]
  have hskip : found name (declaration ++ (body ++ after)) = found name (body ++ after) := by
    rcases hdeclaration with rfl | ⟨more, rfl, hless⟩
    · rfl
    · exact (found_markup hname rfl rfl rfl (by decide) _).trans (found_append name hless _)
  have hnumber : numberAfter text key =
      (found name (body ++ after)).map fun text => atoi (String.ofList text) := by
    rw [← hskip, ← htext, found, Option.map_map, ← hlength, ← htag]
    simp only [numberAfter, strcasestr, Option.map_map, Function.comp_def, String.toList_ofList]
  have hone : TextsOf [root] body := ⟨body, [], hbody, rfl, (List.append_nil body).symm⟩
  have hfinds := finds_textsOf hname [root] ⟨hroot, trivial⟩ hone after
  have hfirst : firstAmong name.toList [root] = firstElement name.toList root :=
    Option.or_none
  rw [hfirst] at hfinds
  simp only [setting, Option.bind_some, hnumber, stored]
  cases hfound : firstElement name.toList root with
  | none =>
    rw [hfound] at hfinds
    have hnone : found name (body ++ after) = none := by
      have hend := found_append name hafter []
      rw [List.append_nil] at hend
      exact (hfinds.trans hend).trans rfl
    rw [hnone]
    rfl
  | some children =>
    rw [hfound] at hfinds
    obtain ⟨inner, after, hinner, hafter⟩ := hfinds
    obtain ⟨raw, rest, hraw, hrest⟩ := hinner.leading after
    rw [hafter, Option.map_some, hrest, atoi_written hraw]
    rfl

omit hname in
/-- A document has text, and no NUL in it. -/
theorem outputSilanReadFile_documentText {root : Node} (hroot : ∃ tag attributes children,
    root = .element tag attributes children) {text : String} (h : DocumentText root text) :
    outputSilanReadFile (.opened (some text)) = some (some text) := by
  obtain ⟨declaration, body, after, -, hbody, -, htext⟩ := h.parts
  obtain ⟨tag, attributes, children, rfl⟩ := hroot
  obtain ⟨attrs, inner, -, -, rfl⟩ := hbody
  have hne : text ≠ "" := by
    rintro rfl
    simp at htext
  have hall : ∀ c ∈ text.toList, decide (c ≠ '\x00') = true := fun c hc =>
    decide_eq_true fun heq => h.noNul (heq ▸ hc)
  have hsame : beforeNul text = text := by
    rw [beforeNul, List.takeWhile_eq_self_iff.mpr hall, String.ofList_toList]
  simp [outputSilanReadFile, Option.filter, hne, hsame]

end Document

theorem outputSilanInitStored_eq_none (env : Env) (slmp system : StoredFile) :
    outputSilanInitStored env slmp system = none ↔ slmp = .unopened ∨ system = .unopened := by
  cases slmp <;> cases system <;> simp [outputSilanInitStored, outputSilanReadFile]

theorem outputSilanInit_settings (env : Env) (padmux volume mute : ℤ) :
    (outputSilanInit env padmux volume mute).padmux = padmux ∧
      (outputSilanInit env padmux volume mute).volume = volume ∧
      (outputSilanInit env padmux volume mute).mute = mute ∧
      (outputSilanInit env padmux volume mute).sent =
        [⟨.setPadMux, padmux, none, (env .setPadMux).msgsnd⟩,
          ⟨.spdifIn, 0, none, (env .spdifIn).msgsnd⟩] := by
  let d : SilanData := outputSilanSetAmpPower ⟨slmpStateStop, fun _ => false, none, none, mute,
    volume, 0, 0, padmux, [], []⟩ true
  have hspdifin : d.status .spdifin = false := rfl
  have hinit : outputSilanInit env padmux volume mute =
      ((d.setStatus .spdifin true).record
        ⟨.setPadMux, padmux, none, (env .setPadMux).msgsnd⟩).record
          ⟨.spdifIn, 0, none, (env .spdifIn).msgsnd⟩ := by
    change outputSilanSetSpdifin env d = _
    simp only [outputSilanSetSpdifin, hspdifin, Bool.false_eq_true, if_false,
      sendCmd_of_bit_none env _ .setPadMux _ none rfl,
      sendCmd_of_bit_none env _ .spdifIn _ none rfl]
    rfl
  rw [hinit]
  exact ⟨rfl, rfl, rfl, rfl⟩

/-- The settings are read back from the files as they are stored in them, whoever has written
these, and the player is switched to the stored input. -/
theorem settings_restored (env : Env) {slmp system : Node} {slmpText systemText : String}
    (hslmp : Named slmp) (hsystem : Named system) (hslmpText : DocumentText slmp slmpText)
    (hsystemText : DocumentText system systemText)
    (helement : ∀ root ∈ [slmp, system], ∃ tag attributes children,
      root = .element tag attributes children) :
    ∃ d, outputSilanInitStored env (.opened (some slmpText)) (.opened (some systemText)) = some d ∧
      d.padmux = stored "setpadmux" slmp ∧ d.volume = stored "volume" system ∧
      d.mute = stored "mute" system ∧
      d.sent = [⟨.setPadMux, stored "setpadmux" slmp, none, (env .setPadMux).msgsnd⟩,
        ⟨.spdifIn, 0, none, (env .spdifIn).msgsnd⟩] := by
  have hpadmux : IsKey "setpadmux" := by decide
  have hvolume : IsKey "volume" := by decide
  have hmute : IsKey "mute" := by decide
  have hpadmuxKey : silanSlmpKeyPadmux.toList = tagOf "setpadmux" := rfl
  have hvolumeKey : silanSystemKeyVolume.toList = tagOf "volume" := rfl
  have hmuteKey : silanSystemKeyMute.toList = tagOf "mute" := rfl
  refine ⟨_, ?_, outputSilanInit_settings env (stored "setpadmux" slmp) (stored "volume" system)
    (stored "mute" system)⟩
  simp only [outputSilanInitStored,
    outputSilanReadFile_documentText (helement slmp (by simp)) hslmpText,
    outputSilanReadFile_documentText (helement system (by simp)) hsystemText, Option.bind_some,
    Option.map_some, setting_documentText hpadmux hpadmuxKey hslmp hslmpText,
    setting_documentText hvolume hvolumeKey hsystem hsystemText,
    setting_documentText hmute hmuteKey hsystem hsystemText]

def storedInput : Node := .element "Slmp" [] [.element "SetPadMux" [] [.text "2"]]

/-- A volume is mentioned in an attribute and in a text before it is stored. -/
def mentionedVolume : Node :=
  .element "System" [("note", "<volume>9</volume>")]
    [.element "info" [] [.text "<volume>7"], .element "Volume" [] [.text " 35", .text "&"]]

theorem settings_restored_mentionedVolume : ∃ d,
    outputSilanInitStored (fun _ => ⟨true, none⟩)
      (.opened (some (ixmlDocumentToString storedInput)))
      (.opened (some (ixmlDocumentToString mentionedVolume))) = some d ∧
    d.padmux = stored "setpadmux" storedInput ∧ d.volume = stored "volume" mentionedVolume ∧
    d.mute = stored "mute" mentionedVolume ∧
    d.sent = [⟨.setPadMux, stored "setpadmux" storedInput, none, true⟩,
      ⟨.spdifIn, 0, none, true⟩] := by
  have hslmp : Named storedInput :=
    ⟨by decide, by decide, ⟨by decide, by decide, trivial, trivial⟩, trivial⟩
  have hsystem : Named mentionedVolume := by
    refine ⟨by decide, by decide, ⟨by decide, by decide, trivial, trivial⟩, ?_, trivial⟩
    exact ⟨by decide, by decide, trivial, trivial, trivial⟩
  refine settings_restored (fun _ => ⟨true, none⟩) hslmp hsystem
    (documentText_ixmlDocumentToString (by decide +kernel))
    (documentText_ixmlDocumentToString (by decide +kernel)) fun root hroot => ?_
  rcases List.mem_pair.mp hroot with rfl | rfl
  · exact ⟨_, _, _, rfl⟩
  · exact ⟨_, _, _, rfl⟩

example : stored "setpadmux" storedInput = 2 ∧ stored "volume" mentionedVolume = 35 ∧
    stored "mute" mentionedVolume = 0 := by decide

end Settings

end GMediaRender.StoredSettings
