import GMediaRender.Runs
import GMediaRender.Waveforms
import Mathlib.Data.Nat.Bitwise

/-!
lirc_silan.c: the infra-red driver that records how long light and dark last between two
interrupts. A noise filter holds a long dark back until it is clear whether the light after it is
more than a glitch. The pin of the receiver is followed beside the driver, which sees its edges
alone; what is read from the device stands for the levels the pin has had, without the glitches.
-/
namespace GMediaRender.LircSilan

open Runs Waveforms

section Code

def pulseBit : ℕ := 2 ^ 24

def pulseMask : ℕ := 2 ^ 24 - 1

def rbufLen : ℕ := 256

/-- The static variables of `frbwrite`. -/
structure Filter where
  pulse : ℕ
  space : ℕ
  ptr : ℕ

/-- `frbwrite`: the filter after it, and the values that it gives to `rbwrite`. -/
def frbwrite (f : Filter) (l : ℕ) : Filter × List ℕ :=
  if 0 < f.ptr ∧ l &&& pulseBit ≠ 0 then
    if 250 < f.pulse + (l &&& pulseMask) then
      ({ f with pulse := 0, ptr := 0 }, [f.space, (f.pulse + (l &&& pulseMask)) ||| pulseBit])
    else ({ f with pulse := f.pulse + (l &&& pulseMask) }, [])
  else if l &&& pulseBit = 0 then
    if f.ptr = 0 then
      if 20000 < l then ({ f with space := l, ptr := f.ptr + 1 }, []) else (f, [l])
    else if 20000 < l then
      ({ f with space := min (min (f.space + f.pulse) pulseMask + l) pulseMask, pulse := 0 }, [])
    else ({ f with pulse := 0, ptr := 0 }, [f.space, f.pulse ||| pulseBit, l])
  else (f, [l])

/-- The buffer of the device, and how often it was found full. -/
structure Buffer where
  queue : List ℕ
  overruns : ℕ

def rbwrite (b : Buffer) (l : ℕ) : Buffer :=
  if rbufLen ≤ b.queue.length then { b with overruns := b.overruns + 1 }
  else { b with queue := b.queue ++ [l] }

/-- `struct timeval` -/
structure TimeVal where
  sec : ℤ
  usec : ℕ
  usec_lt : usec < 1000000

/-- What is passed to `frbwrite`, with the sense it is judged by: after a really long time the
light must have been off, and the sense is wrong if it says otherwise. The clock may jump
backwards. -/
def reading (sense signal : Bool) (lasttv tv : TimeVal) : Bool × ℕ :=
  let deltv := tv.sec - lasttv.sec
  let backwards := tv.sec < lasttv.sec ∨ tv.sec = lasttv.sec ∧ tv.usec < lasttv.usec
  let data := if backwards ∨ 15 < deltv then pulseMask
    else (deltv * 1000000 + ((tv.usec : ℤ) - lasttv.usec)).toNat
  let sense' := if ¬ backwards ∧ 15 < deltv ∧ (signal ^^ sense) = false then !sense else sense
  (sense', if signal ^^ sense' then data else data ||| pulseBit)

/-- The sense is -1, here `none`, until the port has been probed. -/
structure Driver where
  sense : Option Bool
  lasttv : TimeVal
  filter : Filter
  rbuf : Buffer

/-- `init_port`: the votes of the probes where the module was given no sense. -/
def initPort (sense : Option Bool) (probes : List Bool) : Option Bool :=
  match sense with
  | none => some (decide (probes.count false ≤ probes.count true))
  | some sense => some sense

/-- `irq_handler`, with the level of the pin and the time. -/
def irqHandler (d : Driver) (signal : Bool) (tv : TimeVal) : Driver :=
  match d.sense with
  | none => d
  | some sense =>
    let r := reading sense signal d.lasttv tv
    let written := frbwrite d.filter r.2
    ⟨some r.1, tv, written.1, written.2.foldl rbwrite d.rbuf⟩

/-- `set_use_inc`, which takes the time; `frbwrite` goes on with what it holds. -/
def setUseInc (d : Driver) (tv : TimeVal) : Driver := { d with lasttv := tv }

end Code

section Session

/-- The level of the pin, and since when it has been watched at this level. -/
structure Pin where
  level : Bool
  since : TimeVal

inductive Event where
  /-- The level of the pin changes, and the interrupt comes. -/
  | edge (tv : TimeVal)
  | read (n : ℕ)
  /-- The device is closed and opened again, with the level that the pin then has; so many values
  that were still to be read are thrown away. -/
  | reopen (level : Bool) (tv : TimeVal) (lost : ℕ)

/-- The driver, the pin, what was read from the device, and as history what the filter has
written, how many values were thrown away and the light of every moment between the interrupts. -/
structure Session where
  driver : Driver
  pin : Pin
  read : List ℕ
  written : List ℕ
  lost : ℕ
  seen : List Bool

def TimeVal.micros (tv : TimeVal) : ℤ := tv.sec * 1000000 + tv.usec

def elapsed (lasttv tv : TimeVal) : ℕ := (tv.micros - lasttv.micros).toNat

/-- There is light at one level of the pin, the low one for a receiver that is active low. -/
def lit (activeLow level : Bool) : Bool := level ^^ activeLow

/-- A value as a level and a time. -/
def signalOf (l : ℕ) : Bool × ℕ := (decide (l &&& pulseBit ≠ 0), l &&& pulseMask)

/-- What the interrupt at an edge gives to `frbwrite`. -/
def interruptValue (d : Driver) (signal : Bool) (tv : TimeVal) : Option ℕ :=
  d.sense.map fun sense => (reading sense signal d.lasttv tv).2

def step (activeLow : Bool) (s : Session) : Event → Session
  | .edge tv =>
    { s with
      driver := irqHandler s.driver (!s.pin.level) tv
      pin := ⟨!s.pin.level, tv⟩
      written := s.written ++ ((interruptValue s.driver (!s.pin.level) tv).map fun l =>
        (frbwrite s.driver.filter l).2).getD []
      seen := s.seen ++ List.replicate (elapsed s.pin.since tv) (lit activeLow s.pin.level) }
  | .read n =>
    { s with
      driver := { s.driver with rbuf := { s.driver.rbuf with
        queue := s.driver.rbuf.queue.drop n } }
      read := s.read ++ s.driver.rbuf.queue.take n }
  | .reopen level tv lost =>
    { s with
      driver := { setUseInc s.driver tv with rbuf := { s.driver.rbuf with
        queue := s.driver.rbuf.queue.drop lost } }
      pin := ⟨level, tv⟩
      lost := s.lost + (s.driver.rbuf.queue.take lost).length }

/-- The device is opened for the first time after the port was probed. -/
def opened (sense : Option Bool) (probes : List Bool) (pin : Pin) : Session :=
  ⟨⟨initPort sense probes, pin.since, ⟨0, 0, 0⟩, ⟨[], 0⟩⟩, pin, [], [], 0, []⟩

/-- While the device is open the clock does not go backwards, and no light lasts more than 15
seconds. -/
def Natural (activeLow : Bool) : Pin → List Event → Prop
  | _, [] => True
  | pin, .edge tv :: es => pin.since.micros ≤ tv.micros ∧
      (lit activeLow pin.level = true → elapsed pin.since tv ≤ 15000000) ∧
      Natural activeLow ⟨!pin.level, tv⟩ es
  | pin, .read _ :: es => Natural activeLow pin es
  | _, .reopen level tv _ :: es => Natural activeLow ⟨level, tv⟩ es

end Session

section Values

variable {n : ℕ}

theorem signalOf_space (hn : n ≤ pulseMask) : signalOf n = (false, n) := by
  have hlt : n < 2 ^ 24 := by
    simp only [pulseMask] at hn
    omega
  have hbit : n &&& pulseBit = 0 := by
    rw [pulseBit, Nat.and_two_pow, Nat.testBit_lt_two_pow hlt]
    rfl
  have hmask : n &&& pulseMask = n := by
    rw [pulseMask, Nat.and_two_pow_sub_one_eq_mod, Nat.mod_eq_of_lt hlt]
  simp [signalOf, hbit, hmask]

theorem or_pulseBit (hn : n ≤ pulseMask) : n ||| pulseBit = pulseBit + n := by
  have hlt : n < 2 ^ 24 := by
    simp only [pulseMask] at hn
    omega
  have hadd := Nat.two_pow_add_eq_or_of_lt hlt 1
  rw [Nat.mul_one] at hadd
  rw [Nat.or_comm, pulseBit, hadd]

theorem signalOf_pulse (hn : n ≤ pulseMask) : signalOf (n ||| pulseBit) = (true, n) := by
  have hlt : n < 2 ^ 24 := by
    simp only [pulseMask] at hn
    omega
  have hbit : (n ||| pulseBit) &&& pulseBit ≠ 0 := by
    rw [pulseBit, Nat.and_two_pow, Nat.testBit_or, Nat.testBit_two_pow_self, Bool.or_true]
    decide
  have hmask : (n ||| pulseBit) &&& pulseMask = n := by
    rw [or_pulseBit hn, pulseMask, Nat.and_two_pow_sub_one_eq_mod, pulseBit, Nat.add_mod_left,
      Nat.mod_eq_of_lt hlt]
  simp [signalOf, hbit, hmask]

/-- A value for a level and a time. -/
def valueOf (light : Bool) (n : ℕ) : ℕ := if light then n ||| pulseBit else n

theorem signalOf_valueOf (light : Bool) (hn : n ≤ pulseMask) :
    signalOf (valueOf light n) = (light, n) := by
  cases light with
  | true => exact signalOf_pulse hn
  | false => exact signalOf_space hn

end Values

section NoiseFilter

/-- How long a reading may have lasted: a dark of `pulseMask` is any of more than 15 seconds. -/
def Lasts (s : Bool × ℕ) (k : ℕ) : Prop :=
  k = s.2 ∨ s.1 = false ∧ s.2 = pulseMask ∧ 15000000 < k

/-- A long dark that is held back, with the light after it. -/
def held (f : Filter) : List (Bool × ℕ) :=
  if f.ptr = 0 then [] else [(false, f.space), (true, f.pulse)]

structure Filter.Ok (f : Filter) : Prop where
  idle : f.ptr = 0 → f.pulse = 0
  pulse : f.pulse ≤ 250
  space : f.ptr ≠ 0 → 20000 < f.space ∧ f.space ≤ pulseMask

/-- After every long dark comes a light that is no glitch, or that a short dark follows. -/
def Glitchless (ss : List (Bool × ℕ)) : Prop :=
  ∀ i a, ss[i]? = some (false, a) → 20000 < a → ∃ p, ss[i + 1]? = some (true, p) ∧
    (250 < p ∨ ∃ b, ss[i + 2]? = some (false, b) ∧ b ≤ 20000)

theorem glitchless_nil : Glitchless [] := by
  intro i a h
  simp at h

theorem Glitchless.append {ss ss' : List (Bool × ℕ)} (h : Glitchless ss) (h' : Glitchless ss') :
    Glitchless (ss ++ ss') := by
  intro i a hi ha
  by_cases hlt : i < ss.length
  · rw [List.getElem?_append_left hlt] at hi
    obtain ⟨p, hp, hor⟩ := h i a hi ha
    obtain ⟨hlt₁, -⟩ := List.getElem?_eq_some_iff.mp hp
    refine ⟨p, by rw [List.getElem?_append_left hlt₁, hp], hor.imp_right ?_⟩
    rintro ⟨b, hb, hshort⟩
    obtain ⟨hlt₂, -⟩ := List.getElem?_eq_some_iff.mp hb
    exact ⟨b, by rw [List.getElem?_append_left hlt₂, hb], hshort⟩
  · rw [List.getElem?_append_right (by omega)] at hi
    obtain ⟨p, hp, hor⟩ := h' _ a hi ha
    refine ⟨p, ?_, hor.imp_right ?_⟩
    · have hindex : i + 1 - ss.length = i - ss.length + 1 := by omega
      rw [List.getElem?_append_right (by omega), hindex]
      exact hp
    · rintro ⟨b, hb, hshort⟩
      refine ⟨b, ?_, hshort⟩
      have hindex : i + 2 - ss.length = i - ss.length + 2 := by omega
      rw [List.getElem?_append_right (by omega), hindex]
      exact hb

theorem glitchless_single {s : Bool × ℕ} (h : s.1 = false → s.2 ≤ 20000) : Glitchless [s] := by
  intro i a hi ha
  cases i with
  | zero =>
    obtain rfl : s = (false, a) := Option.some.inj hi
    exact absurd (h rfl) (by simpa using ha)
  | succ i => simp at hi

theorem glitchless_light {a p : ℕ} (h : 250 < p) : Glitchless [(false, a), (true, p)] := by
  intro i b hi hb
  rcases i with _ | _ | i
  · exact ⟨p, rfl, Or.inl h⟩
  · simp at hi
  · simp at hi

theorem glitchless_short {a p b : ℕ} (h : b ≤ 20000) :
    Glitchless [(false, a), (true, p), (false, b)] := by
  intro i c hi hc
  rcases i with _ | _ | _ | i
  · exact ⟨p, rfl, Or.inr ⟨b, rfl, h⟩⟩
  · simp at hi
  · obtain ⟨-, rfl⟩ := Prod.mk.inj (Option.some.inj hi)
    omega
  · simp at hi

/-- What the filter lets through, and what it then holds back, is what it held before with the
reading after it, without its glitch. -/
structure Filters (f' : Filter) (light : Bool) (k : ℕ) (v : List Bool)
    (written : List ℕ) : Prop where
  ok : f'.Ok
  glitchless : Glitchless (written.map signalOf)
  waveform : ∃ u v', Denotes Lasts (written.map signalOf) u ∧ Denotes Lasts (held f') v' ∧
    Cleaned 20000 250 (v ++ List.replicate k light) (u ++ v')

variable {f : Filter} {n k : ℕ} {v : List Bool}

theorem frbwrite_pulse (hn : n ≤ pulseMask) : frbwrite f (valueOf true n) =
    if 0 < f.ptr then
      if 250 < f.pulse + n then
        ({ f with pulse := 0, ptr := 0 }, [f.space, valueOf true (f.pulse + n)])
      else ({ f with pulse := f.pulse + n }, [])
    else (f, [valueOf true n]) := by
  have hsignal := signalOf_valueOf true hn
  obtain ⟨hbit, hmask⟩ := Prod.mk.inj hsignal
  simp only [decide_eq_true_eq] at hbit
  unfold frbwrite
  rw [hmask]
  by_cases hptr : 0 < f.ptr
  · rw [if_pos ⟨hptr, hbit⟩, if_pos hptr]
    rfl
  · rw [if_neg fun h => hptr h.1, if_neg hbit, if_neg hptr]

theorem frbwrite_space (hn : n ≤ pulseMask) : frbwrite f (valueOf false n) =
    if f.ptr = 0 then
      if 20000 < n then ({ f with space := n, ptr := f.ptr + 1 }, []) else (f, [n])
    else if 20000 < n then
      ({ f with space := min (min (f.space + f.pulse) pulseMask + n) pulseMask, pulse := 0 }, [])
    else ({ f with pulse := 0, ptr := 0 }, [f.space, valueOf true f.pulse, n]) := by
  have hsignal := signalOf_valueOf false hn
  obtain ⟨hbit, -⟩ := Prod.mk.inj hsignal
  have hzero : valueOf false n &&& pulseBit = 0 := by simpa using hbit
  unfold frbwrite
  rw [if_neg fun h => h.2 hzero, if_pos hzero]
  rfl

theorem lasts_light {p : ℕ} (h : Lasts (true, n) p) : p = n := by
  rcases h with h | ⟨h, -⟩
  · exact h
  · exact Bool.noConfusion h

theorem held_waveform (hptr : f.ptr ≠ 0) (hv : Denotes Lasts (held f) v) :
    ∃ a, Lasts (false, f.space) a ∧ v = List.replicate a false ++ List.replicate f.pulse true := by
  rw [held, if_neg hptr] at hv
  cases hv with
  | @cons _ a _ _ ha hrest =>
    cases hrest with
    | @cons _ p _ _ hp hnil =>
      cases hnil
      obtain rfl := lasts_light hp
      exact ⟨a, ha, by rw [List.append_nil]⟩

theorem held_idle (hptr : f.ptr = 0) (hv : Denotes Lasts (held f) v) : v = [] := by
  rw [held, if_pos hptr] at hv
  cases hv
  rfl

theorem denotes_held {a : ℕ} (hptr : f.ptr ≠ 0) (ha : Lasts (false, f.space) a) :
    Denotes Lasts (held f) (List.replicate a false ++ List.replicate f.pulse true) := by
  rw [held, if_neg hptr]
  have hpulse : Lasts (true, f.pulse) f.pulse := Or.inl rfl
  exact .cons ha (.single hpulse)

theorem denotes_idle (hptr : f.ptr = 0) : Denotes Lasts (held f) [] := by
  rw [held, if_pos hptr]
  exact .nil

theorem Filter.Ok.light (h : f.Ok) (hn : n + 250 ≤ pulseMask) (hv : Denotes Lasts (held f) v) :
    Filters (frbwrite f (valueOf true n)).1 true n v (frbwrite f (valueOf true n)).2 := by
  have hpulse := h.pulse
  have hread : Lasts (true, n) n := Or.inl rfl
  rw [frbwrite_pulse (by omega)]
  by_cases hptr : f.ptr = 0
  · rw [if_neg (by omega)]
    obtain rfl := held_idle hptr hv
    have hvalue := signalOf_valueOf true (n := n) (by omega)
    refine ⟨h, ?_, List.replicate n true, [], ?_, denotes_idle hptr, ?_⟩
    · rw [List.map_singleton, hvalue]
      exact glitchless_single Bool.noConfusion
    · rw [List.map_singleton, hvalue]
      exact .single hread
    · rw [List.nil_append, List.append_nil]
      exact .refl
  rw [if_pos (by omega)]
  obtain ⟨a, ha, rfl⟩ := held_waveform hptr hv
  obtain ⟨hlong, hspace⟩ := h.space hptr
  have hjoin : List.replicate a false ++ List.replicate f.pulse true ++ List.replicate n true =
      List.replicate a false ++ List.replicate (f.pulse + n) true := by
    rw [List.append_assoc, List.replicate_add]
  by_cases henough : 250 < f.pulse + n
  · rw [if_pos henough]
    have hvalues : [f.space, valueOf true (f.pulse + n)].map signalOf =
        [(false, f.space), (true, f.pulse + n)] := by
      rw [List.map_cons, List.map_singleton, signalOf_space hspace,
        signalOf_valueOf true (by omega)]
    refine ⟨⟨fun _ => rfl, Nat.zero_le _, fun hne => absurd rfl hne⟩, ?_,
      List.replicate a false ++ List.replicate (f.pulse + n) true, [], ?_, .nil, ?_⟩
    · rw [hvalues]
      exact glitchless_light henough
    · have hboth : Lasts (true, f.pulse + n) (f.pulse + n) := Or.inl rfl
      rw [hvalues]
      exact .cons ha (.single hboth)
    · rw [hjoin, List.append_nil]
      exact .refl
  · rw [if_neg henough]
    refine ⟨⟨fun hzero => absurd hzero hptr, by simpa using henough, fun _ => ⟨hlong, hspace⟩⟩,
      glitchless_nil, [], List.replicate a false ++ List.replicate (f.pulse + n) true, .nil, ?_, ?_⟩
    · exact denotes_held (f := { f with pulse := f.pulse + n }) hptr ha
    · rw [hjoin, List.nil_append]
      exact .refl

/-- A dark and a dark with a glitch between them read as one dark. -/
theorem lasts_merged {a p k : ℕ} (ha : Lasts (false, f.space) a) (hk : Lasts (false, n) k) :
    Lasts (false, min (min (f.space + p) pulseMask + n) pulseMask) (a + p + k) := by
  simp only [Lasts, pulseMask, true_and] at *
  omega

theorem Filter.Ok.dark (h : f.Ok) (hn : n ≤ pulseMask) (hk : Lasts (false, n) k)
    (hv : Denotes Lasts (held f) v) :
    Filters (frbwrite f (valueOf false n)).1 false k v (frbwrite f (valueOf false n)).2 := by
  have hpulse := h.pulse
  have hvalue := signalOf_space hn
  have hsame : 20000 < n ∨ k = n := by
    rcases hk with hk | ⟨-, hmask, -⟩
    · exact Or.inr hk
    · simp only [pulseMask] at hmask
      omega
  rw [frbwrite_space hn]
  by_cases hptr : f.ptr = 0
  · obtain rfl := held_idle hptr hv
    rw [if_pos hptr]
    by_cases hlong : 20000 < n
    · rw [if_pos hlong]
      refine ⟨⟨fun hzero => by simp at hzero, hpulse, fun _ => ⟨hlong, hn⟩⟩, glitchless_nil, [],
        List.replicate k false ++ List.replicate f.pulse true, .nil, ?_, ?_⟩
      · exact denotes_held (f := { f with space := n, ptr := f.ptr + 1 }) (by simp) hk
      · rw [h.idle hptr, List.replicate_zero, List.append_nil, List.nil_append]
        exact .refl
    · rw [if_neg hlong]
      refine ⟨h, ?_, List.replicate k false, [], ?_, denotes_idle hptr, ?_⟩
      · rw [List.map_singleton, hvalue]
        exact glitchless_single fun _ => by simpa using hlong
      · rw [List.map_singleton, hvalue]
        exact .single hk
      · rw [List.nil_append, List.append_nil]
        exact .refl
  rw [if_neg hptr]
  obtain ⟨a, ha, rfl⟩ := held_waveform hptr hv
  obtain ⟨hheld, hspace⟩ := h.space hptr
  by_cases hlong : 20000 < n
  · rw [if_pos hlong]
    refine ⟨⟨fun _ => rfl, Nat.zero_le _, fun _ => ⟨?_, Nat.min_le_right ..⟩⟩, glitchless_nil, [],
      List.replicate (a + f.pulse + k) false ++ List.replicate 0 true, .nil, ?_, ?_⟩
    · simp only [pulseMask]
      omega
    · exact denotes_held (f := { f with
        space := min (min (f.space + f.pulse) pulseMask + n) pulseMask, pulse := 0 }) hptr
        (lasts_merged ha hk)
    · have hdark : 20000 < a ∧ 20000 < k := by
        simp only [Lasts, pulseMask, true_and] at ha hk
        omega
      have hmerged := Cleaned.merge hdark.1 hpulse hdark.2
      simpa using hmerged
  · rw [if_neg hlong]
    have hkn : k = n := hsame.resolve_left hlong
    have hvalues : [f.space, valueOf true f.pulse, n].map signalOf =
        [(false, f.space), (true, f.pulse), (false, n)] := by
      rw [List.map_cons, List.map_cons, List.map_singleton, signalOf_space hspace,
        signalOf_valueOf true (by simp only [pulseMask]; omega), hvalue]
    refine ⟨⟨fun _ => rfl, Nat.zero_le _, fun hne => absurd rfl hne⟩, ?_,
      List.replicate a false ++ (List.replicate f.pulse true ++ List.replicate k false), [], ?_,
      .nil, ?_⟩
    · rw [hvalues]
      exact glitchless_short (by omega)
    · have hlight : Lasts (true, f.pulse) f.pulse := Or.inl rfl
      rw [hvalues]
      exact .cons ha (.cons hlight (.single hk))
    · rw [List.append_nil, List.append_assoc]
      exact .refl

end NoiseFilter

section Readings

variable {lasttv tv : TimeVal}

/-- With a clock that does not go backwards and a sense that is right, a value says how long it
has been light or dark, and the sense stays. -/
theorem reading_lasts (activeLow level : Bool) (h : lasttv.micros ≤ tv.micros)
    (hshort : lit activeLow level = true → elapsed lasttv tv ≤ 15000000) : ∃ n,
    reading activeLow (!level) lasttv tv = (activeLow, valueOf (lit activeLow level) n) ∧
    n ≤ pulseMask ∧ Lasts (lit activeLow level, n) (elapsed lasttv tv) ∧
    (lit activeLow level = true → n = elapsed lasttv tv ∧ n + 250 ≤ pulseMask) := by
  have hold := lasttv.usec_lt
  have hnew := tv.usec_lt
  simp only [TimeVal.micros] at h
  simp only [elapsed, TimeVal.micros] at hshort
  have hforward : ¬ (tv.sec < lasttv.sec ∨ tv.sec = lasttv.sec ∧ tv.usec < lasttv.usec) := by
    omega
  have hlit : (!level ^^ activeLow) = !lit activeLow level := by
    cases level <;> cases activeLow <;> rfl
  by_cases hlate : 15 < tv.sec - lasttv.sec
  · have hdark : lit activeLow level = false := by
      by_contra hlight
      have htime := hshort (by simpa using hlight)
      omega
    rw [hdark] at hlit ⊢
    have hsense : ((!level) ^^ activeLow) = true := hlit
    have hdata : reading activeLow (!level) lasttv tv = (activeLow, valueOf false pulseMask) := by
      simp [reading, hforward, hlate, hsense, valueOf]
    refine ⟨pulseMask, hdata, le_rfl, Or.inr ⟨rfl, rfl, ?_⟩, Bool.noConfusion⟩
    simp only [elapsed, TimeVal.micros]
    omega
  · have helapsed : ((tv.sec - lasttv.sec) * 1000000 + ((tv.usec : ℤ) - lasttv.usec)).toNat =
        elapsed lasttv tv := by
      simp only [elapsed, TimeVal.micros]
      congr 1
      omega
    have hdata : reading activeLow (!level) lasttv tv =
        (activeLow, valueOf (lit activeLow level) (elapsed lasttv tv)) := by
      simp only [reading, hforward, hlate, false_and, or_self, if_false, and_false, helapsed, hlit]
      cases lit activeLow level <;> rfl
    have hbound : elapsed lasttv tv ≤ 15999999 := by
      simp only [elapsed, TimeVal.micros]
      omega
    refine ⟨_, hdata, ?_, Or.inl rfl, fun _ => ⟨rfl, ?_⟩⟩
    · simp only [pulseMask]
      omega
    · simp only [pulseMask]
      omega

end Readings

section Runs

/-- What is read from the device, is queued or is held back stands for what was seen. -/
structure Inv (activeLow : Bool) (s : Session) : Prop where
  ok : s.driver.filter.Ok
  glitchless : Glitchless (s.written.map signalOf)
  waveform : ∃ u v, Denotes Lasts (s.written.map signalOf) u ∧
    Denotes Lasts (held s.driver.filter) v ∧ Cleaned 20000 250 s.seen (u ++ v)
  delivered : (s.read ++ s.driver.rbuf.queue).Sublist s.written
  complete : s.driver.rbuf.overruns = 0 → s.lost = 0 →
    s.read ++ s.driver.rbuf.queue = s.written
  room : s.driver.rbuf.queue.length ≤ rbufLen
  sense : s.driver.sense = some activeLow
  lasttv : s.driver.lasttv = s.pin.since

/-- Values that find the buffer full are lost, and counted. -/
theorem foldl_rbwrite (ls : List ℕ) (b : Buffer) : ∃ kept,
    (ls.foldl rbwrite b).queue = b.queue ++ kept ∧ kept.Sublist ls ∧
    b.overruns ≤ (ls.foldl rbwrite b).overruns ∧
    ((ls.foldl rbwrite b).overruns = b.overruns → kept = ls) ∧
    (b.queue.length ≤ rbufLen → (ls.foldl rbwrite b).queue.length ≤ rbufLen) := by
  induction ls generalizing b with
  | nil => exact ⟨[], by simp, .slnil, le_rfl, fun _ => rfl, fun h => h⟩
  | cons l ls ih =>
    obtain ⟨kept, hqueue, hsub, hle, hall, hroom⟩ := ih (rbwrite b l)
    by_cases hfull : rbufLen ≤ b.queue.length
    · have hb : rbwrite b l = { b with overruns := b.overruns + 1 } := if_pos hfull
      simp only [hb] at hqueue hle hall hroom
      simp only [List.foldl_cons, hb]
      exact ⟨kept, hqueue, hsub.cons l, by omega, fun heq => by omega, hroom⟩
    · have hb : rbwrite b l = { b with queue := b.queue ++ [l] } := if_neg hfull
      simp only [hb] at hqueue hle hall hroom
      simp only [List.foldl_cons, hb]
      refine ⟨l :: kept, ?_, hsub.cons_cons l, hle, fun heq => by rw [hall heq], fun _ => hroom ?_⟩
      · rw [hqueue, List.append_assoc]
        rfl
      · simp only [List.length_append, List.length_singleton]
        omega

variable {activeLow : Bool} {s : Session}

theorem inv_opened {sense : Option Bool} {probes : List Bool}
    (hsense : initPort sense probes = some activeLow) (pin : Pin) :
    Inv activeLow (opened sense probes pin) where
  ok := ⟨fun _ => rfl, Nat.zero_le _, fun h => absurd rfl h⟩
  glitchless := glitchless_nil
  waveform := ⟨[], [], .nil, .nil, .refl⟩
  delivered := .slnil
  complete := fun _ _ => rfl
  room := Nat.zero_le _
  sense := hsense
  lasttv := rfl

theorem Inv.read (h : Inv activeLow s) (n : ℕ) : Inv activeLow (step activeLow s (.read n)) where
  ok := h.ok
  glitchless := h.glitchless
  waveform := h.waveform
  delivered := by
    have hsame : s.read ++ s.driver.rbuf.queue.take n ++ s.driver.rbuf.queue.drop n =
        s.read ++ s.driver.rbuf.queue := by
      rw [List.append_assoc, List.take_append_drop]
    simpa only [step, hsame] using h.delivered
  complete := by
    have hsame : s.read ++ s.driver.rbuf.queue.take n ++ s.driver.rbuf.queue.drop n =
        s.read ++ s.driver.rbuf.queue := by
      rw [List.append_assoc, List.take_append_drop]
    simpa only [step, hsame] using h.complete
  room := by
    have hroom := h.room
    simp only [step, List.length_drop]
    omega
  sense := h.sense
  lasttv := h.lasttv

/-- What the filter holds back when the device is closed it still holds back when it is opened
again. -/
theorem Inv.reopen (h : Inv activeLow s) (level : Bool) (tv : TimeVal) (lost : ℕ) :
    Inv activeLow (step activeLow s (.reopen level tv lost)) where
  ok := h.ok
  glitchless := h.glitchless
  waveform := h.waveform
  delivered :=
    ((List.Sublist.refl s.read).append (List.drop_sublist lost s.driver.rbuf.queue)).trans
      h.delivered
  complete := by
    intro hoverruns hlost
    have hnone : s.lost = 0 ∧ (s.driver.rbuf.queue.take lost).length = 0 := by
      simp only [step] at hlost
      omega
    have hall : s.driver.rbuf.queue.drop lost = s.driver.rbuf.queue := by
      have hsplit := List.take_append_drop lost s.driver.rbuf.queue
      rwa [List.length_eq_zero_iff.mp hnone.2, List.nil_append] at hsplit
    simpa only [step, hall] using h.complete hoverruns hnone.1
  room := by
    have hroom := h.room
    simp only [step, List.length_drop]
    omega
  sense := h.sense
  lasttv := rfl

theorem Inv.edge (h : Inv activeLow s) {tv : TimeVal} (htv : s.pin.since.micros ≤ tv.micros)
    (hshort : lit activeLow s.pin.level = true → elapsed s.pin.since tv ≤ 15000000) :
    Inv activeLow (step activeLow s (.edge tv)) := by
  obtain ⟨n, hread, hn, hlasts, hlight⟩ := reading_lasts activeLow s.pin.level htv hshort
  generalize hlit : lit activeLow s.pin.level = light at hread hlasts hlight
  obtain ⟨u, v, hu, hv, hclean⟩ := h.waveform
  have hfilters : Filters (frbwrite s.driver.filter (valueOf light n)).1 light
      (elapsed s.pin.since tv) v (frbwrite s.driver.filter (valueOf light n)).2 := by
    cases light with
    | true =>
      obtain ⟨htime, hbound⟩ := hlight rfl
      rw [← htime]
      exact h.ok.light hbound hv
    | false => exact h.ok.dark hn hlasts hv
  obtain ⟨u', v', hu', hv', hclean'⟩ := hfilters.waveform
  obtain ⟨kept, hqueue, hsub, hle, hall, hroom⟩ :=
    foldl_rbwrite (frbwrite s.driver.filter (valueOf light n)).2 s.driver.rbuf
  have hstep : step activeLow s (.edge tv) =
      ⟨⟨some activeLow, tv, (frbwrite s.driver.filter (valueOf light n)).1,
        (frbwrite s.driver.filter (valueOf light n)).2.foldl rbwrite s.driver.rbuf⟩,
        ⟨!s.pin.level, tv⟩, s.read,
        s.written ++ (frbwrite s.driver.filter (valueOf light n)).2, s.lost,
        s.seen ++ List.replicate (elapsed s.pin.since tv) light⟩ := by
    simp only [step, irqHandler, interruptValue, h.sense, h.lasttv, hread, hlit, Option.map_some,
      Option.getD_some]
  rw [hstep]
  refine ⟨hfilters.ok, ?_, ⟨u ++ u', v', ?_, hv', ?_⟩, ?_, fun hzero hlost => ?_, hroom h.room,
    rfl, rfl⟩
  · rw [List.map_append]
    exact h.glitchless.append hfilters.glitchless
  · rw [List.map_append]
    exact hu.append hu'
  · have hmore := (hclean.append (List.replicate (elapsed s.pin.since tv) light))
    rw [List.append_assoc] at hmore ⊢
    exact hmore.trans (hclean'.prepend u)
  · rw [hqueue, ← List.append_assoc]
    exact h.delivered.append hsub
  · simp only at hzero
    have hnone : s.driver.rbuf.overruns = 0 := by omega
    rw [hqueue, ← List.append_assoc, h.complete hnone hlost, hall (by omega)]

theorem inv_run (h : Inv activeLow s) (es : List Event) (hes : Natural activeLow s.pin es) :
    Inv activeLow (run (step activeLow) s es) := by
  induction es generalizing s with
  | nil => exact h
  | cons e es ih =>
    cases e with
    | read n => exact ih (h.read n) hes
    | reopen level tv lost => exact ih (h.reopen level tv lost) hes
    | edge tv => exact ih (h.edge hes.1 hes.2.1) hes.2.2

end Runs

/-- A glitch in a long dark, and then a header; the device is closed and opened after the dark. -/
def glitchAndHeader : List Event :=
  [.edge ⟨0, 30000, by decide⟩, .edge ⟨0, 30100, by decide⟩, .edge ⟨0, 60100, by decide⟩,
    .reopen false ⟨9, 0, by decide⟩ 0, .edge ⟨9, 9000, by decide⟩, .read 8]

example : (run (step true) (opened none [true, true, false] ⟨true, ⟨0, 0, by decide⟩⟩)
    glitchAndHeader).read = [60100, 9000 ||| pulseBit] := by decide

end GMediaRender.LircSilan
