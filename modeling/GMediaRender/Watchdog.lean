import GMediaRender.OutputCalls

/-!
The counters of the watchdog against the passes they are meant to count. A pass of the watchdog
is described once, field by field; how many passes have really gone by is kept in a history
variable beside the run.
-/
namespace GMediaRender.Watchdog

open OutputSilan RendererSystem OutputCalls Runs

section Passes

/-- The reading shows an SPDIF lock. -/
def locked (lock : Option ℤ) : Bool := lock.any (· ≠ 0)

variable (env : Env) (c : Counters) (d : SilanData) (lock : Option ℤ)

theorem setAmpMute_status (m : Bool) :
    (outputSilanSetAmpMute d m).status = Function.update d.status .ampMute m := by
  unfold outputSilanSetAmpMute
  split_ifs <;> rfl

theorem setAmpPower_power (m : Bool) : (outputSilanSetAmpPower d m).status .ampPower = m := by
  simp [outputSilanSetAmpPower]

theorem setAmpPower_spdifin (m : Bool) :
    (outputSilanSetAmpPower d m).status .spdifin = d.status .spdifin := by
  unfold outputSilanSetAmpPower
  split_ifs <;> simp [SilanData.gpioWrite, setAmpMute_status]

theorem setSpdifin_spdifin : (outputSilanSetSpdifin env d).status .spdifin = true := by
  unfold outputSilanSetSpdifin
  split_ifs with h
  · exact h
  · simp only [sendCmd_of_bit_none _ _ .setPadMux _ _ rfl, sendCmd_of_bit_none _ _ .spdifIn _ _ rfl,
      SilanData.record, setStatus_status, Function.update_self]

@[simp] theorem watchAmpMute_cntStop : (watchAmpMute c d).1.cntStop = c.cntStop := by
  unfold watchAmpMute
  split_ifs <;> rfl

@[simp] theorem watchAmpMute_cntUnlock : (watchAmpMute c d).1.cntUnlock = c.cntUnlock := by
  unfold watchAmpMute
  split_ifs <;> rfl

@[simp] theorem watchAmpMute_power :
    (watchAmpMute c d).2.status .ampPower = d.status .ampPower := by
  unfold watchAmpMute
  split_ifs <;> simp [setAmpMute_status]

@[simp] theorem watchAmpMute_spdifin :
    (watchAmpMute c d).2.status .spdifin = d.status .spdifin := by
  unfold watchAmpMute
  split_ifs <;> simp [setAmpMute_status]

/-- The part of a pass before the delayed unmuting. -/
def watch : Counters × SilanData :=
  if d.status .spdifin then watchSpdifin c d lock else watchPlayer env c d

/-- What that part can do. -/
inductive Watched : Counters × SilanData → Prop
  | locked (hspdifin : d.status .spdifin = true) (hlock : locked lock = true)
      (hpower : d.status .ampPower = true) : Watched ({ c with cntUnlock := 0 }, d)
  | lockedUp (hspdifin : d.status .spdifin = true) (hlock : locked lock = true)
      (hpower : d.status .ampPower = false) :
      Watched ({ c with cntUnlock := 0, cntMute := 0 }, outputSilanSetAmpPower d true)
  | unlocked (hspdifin : d.status .spdifin = true) (hlock : locked lock = false)
      (hcnt : c.cntUnlock < silanAutoPowerOff ∨
        c.cntUnlock = silanAutoPowerOff ∧ d.status .ampPower = false) :
      Watched ({ c with cntUnlock := c.cntUnlock + 1 }, d)
  | powerOff (hspdifin : d.status .spdifin = true) (hlock : locked lock = false)
      (hcnt : c.cntUnlock = silanAutoPowerOff) (hpower : d.status .ampPower = true) :
      Watched ({ c with cntUnlock := c.cntUnlock + 1 }, outputSilanSetAmpPower d false)
  | unlockedOn (hspdifin : d.status .spdifin = true) (hlock : locked lock = false)
      (hcnt : silanAutoPowerOff < c.cntUnlock) : Watched (c, d)
  | playing (hspdifin : d.status .spdifin = false) (hplay : d.state = slmpStatePlay)
      (hpower : d.status .ampPower = true) : Watched ({ c with cntStop := 0 }, d)
  | playingUp (hspdifin : d.status .spdifin = false) (hplay : d.state = slmpStatePlay)
      (hpower : d.status .ampPower = false) :
      Watched ({ c with cntStop := 0, cntMute := 0 }, outputSilanSetAmpPower d true)
  | still (hspdifin : d.status .spdifin = false) (hplay : d.state ≠ slmpStatePlay)
      (hcnt : c.cntStop < silanAutoSpdifin) : Watched ({ c with cntStop := c.cntStop + 1 }, d)
  | toSpdifin (hspdifin : d.status .spdifin = false) (hplay : d.state ≠ slmpStatePlay)
      (hcnt : c.cntStop = silanAutoSpdifin) :
      Watched ({ c with cntStop := c.cntStop + 1 }, outputSilanSetSpdifin env d)
  | stillOn (hspdifin : d.status .spdifin = false) (hplay : d.state ≠ slmpStatePlay)
      (hcnt : silanAutoSpdifin < c.cntStop) : Watched (c, d)

theorem watch_watched : Watched env c d lock (watch env c d lock) := by
  unfold watch
  by_cases hspdifin : d.status .spdifin = true
  · rw [if_pos hspdifin]
    unfold watchSpdifin
    split_ifs with hlock hpower hlt heq hpower
    · exact .locked hspdifin hlock hpower
    · exact .lockedUp hspdifin hlock (by simpa using hpower)
    · exact .unlocked hspdifin (by simpa [locked] using hlock) (Or.inl hlt)
    · exact .powerOff hspdifin (by simpa [locked] using hlock) heq hpower
    · exact .unlocked hspdifin (by simpa [locked] using hlock)
        (Or.inr ⟨heq, by simpa using hpower⟩)
    · exact .unlockedOn hspdifin (by simpa [locked] using hlock) (by omega)
  · rw [if_neg hspdifin]
    rw [Bool.not_eq_true] at hspdifin
    unfold watchPlayer
    split_ifs with hplay hpower hlt heq
    · exact .playing hspdifin hplay hpower
    · exact .playingUp hspdifin hplay (by simpa using hpower)
    · exact .still hspdifin hplay hlt
    · exact .toSpdifin hspdifin hplay heq
    · exact .stillOn hspdifin hplay (by omega)

end Passes

section Steps

def power (s : Renderer) : Bool := s.silan.status .ampPower

def inSpdifin (s : Renderer) : Bool := s.silan.status .spdifin

def IsPass (e : Event) : Prop := ∃ lock env, e = .idlePass lock env

/-- The counters and the bits after a pass, but for the unmuting. -/
structure Passed (r : Counters × SilanData) (s' : Renderer) : Prop where
  cntStop : s'.counters.cntStop = r.1.cntStop
  cntUnlock : s'.counters.cntUnlock = r.1.cntUnlock
  power : power s' = r.2.status .ampPower
  inSpdifin : inSpdifin s' = r.2.status .spdifin

theorem passed_idlePass (s : Renderer) (lock : Option ℤ) (env : Env) :
    Passed (watch env s.counters s.silan lock) (s.step (.idlePass lock env)) where
  cntStop := watchAmpMute_cntStop _ _
  cntUnlock := watchAmpMute_cntUnlock _ _
  power := watchAmpMute_power _ _
  inSpdifin := watchAmpMute_spdifin _ _

/-- The other events leave the amplifier and the counters alone. -/
theorem kept_of_not_isPass {s : Renderer} {e : Event} (h : ¬ IsPass e) :
    Kept s.silan (s.step e).silan ∧ (s.step e).counters = s.counters := by
  rcases step_called s e with hpass | ⟨⟨env, hcalled⟩, hcounters⟩
  · exact absurd hpass h
  · exact ⟨hcalled.kept, hcounters⟩

end Steps

section PowerOff

/-- A pass of the watchdog in SPDIF-in mode without a lock. -/
def UnlockedPass (s : Renderer) : Event → Prop
  | .idlePass lock _ => inSpdifin s = true ∧ locked lock = false
  | _ => False

instance (s : Renderer) (e : Event) : Decidable (UnlockedPass s e) :=
  match e with
  | .idlePass lock _ => inferInstanceAs (Decidable (inSpdifin s = true ∧ locked lock = false))
  | .action _ _ _ | .key _ _ | .message _ _ => isFalse id

theorem UnlockedPass.pass {s : Renderer} {e : Event} (h : UnlockedPass s e) :
    ∃ lock env, e = .idlePass lock env ∧ inSpdifin s = true ∧ locked lock = false := by
  cases e with
  | idlePass lock env => exact ⟨lock, env, rfl, h⟩
  | action a doc env => exact h.elim
  | key k env => exact h.elim
  | message m env => exact h.elim

/-- The unlocked passes since the last pass with a lock or since the mode was entered. -/
def noteUnlocked (n : ℕ) (s : Renderer) (e : Event) : ℕ :=
  if inSpdifin s && inSpdifin (s.step e) then
    match e with
    | .idlePass lock _ => if locked lock then 0 else n + 1
    | _ => n
  else 0

theorem noteUnlocked_of_not_isPass {s : Renderer} {e : Event} (h : ¬ IsPass e) (n : ℕ) :
    noteUnlocked n s e = if inSpdifin s && inSpdifin (s.step e) then n else 0 := by
  cases e with
  | idlePass lock env => exact absurd ⟨lock, env, rfl⟩ h
  | _ => rfl

/-- The amplifier goes off in the pass after SILAN_AUTO_POWER_OFF unlocked ones, and in no
other step; it is off after that. -/
structure PowersOffInTime (p : Renderer × ℕ) (e : Event) : Prop where
  off_iff : power p.1 = true ∧ power (p.1.step e) = false ↔
    power p.1 = true ∧ UnlockedPass p.1 e ∧ p.2 + 1 = silanAutoPowerOff + 1
  off : UnlockedPass p.1 e → silanAutoPowerOff + 1 ≤ p.2 + 1 → power (p.1.step e) = false

/-- Where unlocked passes begin with the amplifier on, the counter begins with them. -/
def StartsUnlocked (p : Renderer × ℕ) (e : Event) : Prop :=
  UnlockedPass p.1 e → p.2 = 0 → power p.1 = true → p.1.counters.cntUnlock = 0

instance (p : Renderer × ℕ) (e : Event) : Decidable (StartsUnlocked p e) :=
  inferInstanceAs (Decidable (_ → _ → _ → _))

/-- The counter counts the unlocked passes, as long as the amplifier is on. -/
def CountsUnlocked (p : Renderer × ℕ) : Prop :=
  inSpdifin p.1 = true → 0 < p.2 → power p.1 = true →
    p.1.counters.cntUnlock = p.2 ∧ p.2 ≤ silanAutoPowerOff

/-- An unlocked pass counts, and switches the amplifier off when the counter is full. -/
theorem unlockedPass_step {s : Renderer} {e : Event} (h : UnlockedPass s e) :
    inSpdifin (s.step e) = true ∧
      (power (s.step e) = true ↔
        power s = true ∧ s.counters.cntUnlock ≠ silanAutoPowerOff) ∧
      (s.counters.cntUnlock ≤ silanAutoPowerOff →
        (s.step e).counters.cntUnlock = s.counters.cntUnlock + 1) := by
  obtain ⟨lock, env, rfl, hspdifin, hlock⟩ := h.pass
  have hpassed := passed_idlePass s lock env
  have hwatched := watch_watched env s.counters s.silan lock
  rw [hpassed.power, hpassed.inSpdifin, hpassed.cntUnlock]
  generalize watch env s.counters s.silan lock = r at hwatched
  unfold inSpdifin at hspdifin
  unfold power
  cases hwatched with
  | locked _ hlock' => simp [hlock] at hlock'
  | lockedUp _ hlock' => simp [hlock] at hlock'
  | unlocked _ _ hcnt =>
    refine ⟨hspdifin, ?_, fun _ => rfl⟩
    rcases hcnt with hlt | ⟨-, hoff⟩
    · simp [hlt.ne]
    · simp [hoff]
  | powerOff _ _ hcnt hpower =>
    refine ⟨by rw [setAmpPower_spdifin]; exact hspdifin, ?_, fun _ => rfl⟩
    simp [setAmpPower_power, hcnt]
  | unlockedOn _ _ hcnt => exact ⟨hspdifin, by simp [hcnt.ne'], fun hle => by omega⟩
  | playing hstream | playingUp hstream | still hstream | toSpdifin hstream | stillOn hstream =>
    simp [hspdifin] at hstream

/-- No other step switches the amplifier off. -/
theorem power_of_not_unlockedPass {s : Renderer} {e : Event} (h : ¬ UnlockedPass s e)
    (hpower : power s = true) : power (s.step e) = true := by
  by_cases hpass : IsPass e
  · obtain ⟨lock, env, rfl⟩ := hpass
    have hpassed := passed_idlePass s lock env
    have hwatched := watch_watched env s.counters s.silan lock
    rw [hpassed.power]
    generalize watch env s.counters s.silan lock = r at hwatched
    cases hwatched with
    | unlocked hspdifin hlock => exact absurd ⟨hspdifin, hlock⟩ h
    | powerOff hspdifin hlock => exact absurd ⟨hspdifin, hlock⟩ h
    | lockedUp => exact setAmpPower_power _ _
    | playingUp => exact setAmpPower_power _ _
    | toSpdifin => exact (kept_setSpdifin env s.silan).power.trans hpower
    | _ => exact hpower
  · exact (kept_of_not_isPass hpass).1.power.trans hpower

/-- A step that is no unlocked pass starts the count again or leaves everything alone. -/
theorem noteUnlocked_of_not_unlockedPass {s : Renderer} {e : Event} (h : ¬ UnlockedPass s e)
    (n : ℕ) : noteUnlocked n s e = 0 ∨ noteUnlocked n s e = n ∧ inSpdifin s = true ∧
      power (s.step e) = power s ∧ (s.step e).counters = s.counters := by
  by_cases hpass : IsPass e
  · obtain ⟨lock, env, rfl⟩ := hpass
    left
    unfold noteUnlocked
    split_ifs with hboth
    · have hlock : locked lock = true := by
        by_contra hlock
        exact h ⟨(Bool.and_eq_true_iff.mp hboth).1, by simpa using hlock⟩
      exact if_pos hlock
    · rfl
  · obtain ⟨hkept, hcounters⟩ := kept_of_not_isPass (s := s) hpass
    rw [noteUnlocked_of_not_isPass hpass]
    split_ifs with hboth
    · exact Or.inr ⟨rfl, (Bool.and_eq_true_iff.mp hboth).1, hkept.power, hcounters⟩
    · exact Or.inl rfl

theorem noteUnlocked_of_unlockedPass {s : Renderer} {e : Event} (h : UnlockedPass s e) (n : ℕ) :
    noteUnlocked n s e = n + 1 := by
  have hafter := (unlockedPass_step h).1
  obtain ⟨lock, env, rfl, hspdifin, hlock⟩ := h.pass
  simp [noteUnlocked, hspdifin, hlock, hafter]

theorem powersOff_step (p : Renderer × ℕ) (e : Event) (h : CountsUnlocked p)
    (hstart : StartsUnlocked p e) :
    PowersOffInTime p e ∧ CountsUnlocked (track Renderer.step noteUnlocked p e) := by
  obtain ⟨s, n⟩ := p
  by_cases hun : UnlockedPass s e
  · obtain ⟨hspdifin, hpower, hcnt⟩ := unlockedPass_step hun
    obtain ⟨lock, env, -, hin, -⟩ := hun.pass
    have hcount : power s = true → s.counters.cntUnlock = n ∧ n ≤ silanAutoPowerOff := by
      intro hon
      rcases Nat.eq_zero_or_pos n with rfl | hpos
      · exact ⟨hstart hun rfl hon, Nat.zero_le _⟩
      · exact h hin hpos hon
    refine ⟨⟨?_, fun _ hlong => ?_⟩, fun _ _ hon => ?_⟩
    · rw [← Bool.not_eq_true, hpower]
      constructor
      · rintro ⟨hon, hoff⟩
        have hn := hcount hon
        refine ⟨hon, hun, ?_⟩
        have hfull : s.counters.cntUnlock = silanAutoPowerOff := by
          by_contra hne
          exact hoff ⟨hon, hne⟩
        omega
      · rintro ⟨hon, -, hlast⟩
        have hn := hcount hon
        exact ⟨hon, fun hstays => hstays.2 (by omega)⟩
    · rw [← Bool.not_eq_true, hpower]
      rintro ⟨hon, hne⟩
      have hn := hcount hon
      simp only at hlong
      omega
    · obtain ⟨hon', hne⟩ := hpower.mp hon
      have hn := hcount hon'
      simp only [track, noteUnlocked_of_unlockedPass hun, hcnt (by omega)]
      omega
  · have hstays := fun hon => power_of_not_unlockedPass hun hon
    refine ⟨⟨?_, fun hpass => absurd hpass hun⟩, ?_⟩
    · constructor
      · rintro ⟨hon, hoff⟩
        simp [hstays hon] at hoff
      · rintro ⟨-, hpass, -⟩
        exact absurd hpass hun
    · rintro - hpos hon
      rcases noteUnlocked_of_not_unlockedPass hun n with hzero | ⟨hsame, hin, hpower, hcounters⟩
      · simp [track, hzero] at hpos
      · simp only [track, hsame] at hpos hon ⊢
        rw [hcounters]
        exact h hin hpos (hpower.symm.trans hon)

/-- In a run where every count of unlocked passes starts with the counter at zero, the amplifier
goes off in time. -/
theorem powersOff_run (env : Env) (padmux volume mute : ℤ) (es : List Event)
    (hstart : AllSteps (track Renderer.step noteUnlocked) StartsUnlocked
      (startUp env padmux volume mute, 0) es) :
    AllSteps (track Renderer.step noteUnlocked) PowersOffInTime
      (startUp env padmux volume mute, 0) es := by
  refine allSteps_of_allSteps _ powersOff_step ?_ hstart
  intro _ hpos
  exact absurd hpos (lt_irrefl 0)

/-- A pass of the watchdog without a lock. -/
def unlockedPass : Event := .idlePass none allSent

/-- The amplifier goes off in the first stay without a signal. -/
theorem powersOff_first : AllSteps (track Renderer.step noteUnlocked) PowersOffInTime
    (startUp allSent 0 0 0, 0) (List.replicate 301 unlockedPass) :=
  powersOff_run allSent 0 0 0 _ (by decide +kernel)

/-- Passes of a stay that a Play ends are counted in the next stay. -/
def leftoverUnlocked : List Event :=
  List.replicate 300 unlockedPass ++
    [setUriAction "http://a/1.mp3", playAction, .key .radio allSent]

theorem not_powersOff_leftover : ¬ AllSteps (track Renderer.step noteUnlocked) PowersOffInTime
    (startUp allSent 0 0 0, 0) (leftoverUnlocked ++ [unlockedPass]) := by
  rw [allSteps_append]
  rintro ⟨-, hlast, -⟩
  obtain ⟨-, -, hcount⟩ := hlast.off_iff.mp ⟨by decide +kernel, by decide +kernel⟩
  exact absurd hcount (by decide +kernel)

end PowerOff

section Return

/-- A pass of the watchdog outside SPDIF-in mode while nothing plays. -/
def StillPass (s : Renderer) : Event → Prop
  | .idlePass _ _ => inSpdifin s = false ∧ s.silan.state ≠ slmpStatePlay
  | _ => False

instance (s : Renderer) (e : Event) : Decidable (StillPass s e) :=
  match e with
  | .idlePass _ _ => inferInstanceAs (Decidable (inSpdifin s = false ∧ _))
  | .action _ _ _ | .key _ _ | .message _ _ => isFalse id

theorem StillPass.pass {s : Renderer} {e : Event} (h : StillPass s e) :
    ∃ lock env, e = .idlePass lock env ∧ inSpdifin s = false ∧
      s.silan.state ≠ slmpStatePlay := by
  cases e with
  | idlePass lock env => exact ⟨lock, env, rfl, h⟩
  | action a doc env => exact h.elim
  | key k env => exact h.elim
  | message m env => exact h.elim

/-- The still passes since the last pass in PLAY or since SPDIF-in mode was left. -/
def noteStill (n : ℕ) (s : Renderer) (e : Event) : ℕ :=
  if inSpdifin s || inSpdifin (s.step e) then 0
  else match e with
    | .idlePass _ _ => if s.silan.state = slmpStatePlay then 0 else n + 1
    | _ => n

theorem noteStill_of_not_isPass {s : Renderer} {e : Event} (h : ¬ IsPass e) (n : ℕ) :
    noteStill n s e = if inSpdifin s || inSpdifin (s.step e) then 0 else n := by
  cases e with
  | idlePass lock env => exact absurd ⟨lock, env, rfl⟩ h
  | _ => rfl

/-- The watchdog switches to SPDIF-in mode in the pass after SILAN_AUTO_SPDIFIN still ones, and
in no other. -/
structure SwitchesInTime (p : Renderer × ℕ) (e : Event) : Prop where
  switch_iff : IsPass e ∧ inSpdifin p.1 = false ∧ inSpdifin (p.1.step e) = true ↔
    StillPass p.1 e ∧ p.2 + 1 = silanAutoSpdifin + 1
  switch : StillPass p.1 e → silanAutoSpdifin + 1 ≤ p.2 + 1 → inSpdifin (p.1.step e) = true

/-- Where still passes begin, the counter begins with them. -/
def StartsStill (p : Renderer × ℕ) (e : Event) : Prop :=
  StillPass p.1 e → p.2 = 0 → p.1.counters.cntStop = 0

instance (p : Renderer × ℕ) (e : Event) : Decidable (StartsStill p e) :=
  inferInstanceAs (Decidable (_ → _ → _))

/-- The counter counts the still passes. -/
def CountsStill (p : Renderer × ℕ) : Prop :=
  inSpdifin p.1 = false → 0 < p.2 → p.1.counters.cntStop = p.2 ∧ p.2 ≤ silanAutoSpdifin

/-- A still pass counts, and switches to SPDIF-in mode when the counter is full. -/
theorem stillPass_step {s : Renderer} {e : Event} (h : StillPass s e) :
    (inSpdifin (s.step e) = true ↔ s.counters.cntStop = silanAutoSpdifin) ∧
      (s.counters.cntStop ≤ silanAutoSpdifin →
        (s.step e).counters.cntStop = s.counters.cntStop + 1) := by
  obtain ⟨lock, env, rfl, hstream, hstill⟩ := h.pass
  have hpassed := passed_idlePass s lock env
  have hwatched := watch_watched env s.counters s.silan lock
  rw [hpassed.inSpdifin, hpassed.cntStop]
  generalize watch env s.counters s.silan lock = r at hwatched
  unfold inSpdifin at hstream
  cases hwatched with
  | locked hspdifin | lockedUp hspdifin | unlocked hspdifin | powerOff hspdifin
  | unlockedOn hspdifin => simp [hstream] at hspdifin
  | playing _ hplay => exact absurd hplay hstill
  | playingUp _ hplay => exact absurd hplay hstill
  | still _ _ hcnt => exact ⟨by simp [hstream, hcnt.ne], fun _ => rfl⟩
  | toSpdifin _ _ hcnt => exact ⟨by simp [setSpdifin_spdifin, hcnt], fun _ => rfl⟩
  | stillOn _ _ hcnt => exact ⟨by simp [hstream, hcnt.ne'], fun hle => by omega⟩

/-- No other pass leaves the streams. -/
theorem inSpdifin_of_not_stillPass {s : Renderer} {e : Event} (h : ¬ StillPass s e)
    (hpass : IsPass e) (hstream : inSpdifin s = false) : inSpdifin (s.step e) = false := by
  obtain ⟨lock, env, rfl⟩ := hpass
  have hpassed := passed_idlePass s lock env
  have hwatched := watch_watched env s.counters s.silan lock
  rw [hpassed.inSpdifin]
  generalize watch env s.counters s.silan lock = r at hwatched
  cases hwatched with
  | still _ hplay => exact absurd ⟨hstream, hplay⟩ h
  | toSpdifin _ hplay => exact absurd ⟨hstream, hplay⟩ h
  | lockedUp => exact (setAmpPower_spdifin _ _).trans hstream
  | powerOff => exact (setAmpPower_spdifin _ _).trans hstream
  | playingUp => exact (setAmpPower_spdifin _ _).trans hstream
  | _ => exact hstream

theorem noteStill_of_not_stillPass {s : Renderer} {e : Event} (h : ¬ StillPass s e) (n : ℕ) :
    noteStill n s e = 0 ∨ noteStill n s e = n ∧ inSpdifin s = false ∧
      (s.step e).counters = s.counters := by
  by_cases hpass : IsPass e
  · obtain ⟨lock, env, rfl⟩ := hpass
    left
    unfold noteStill
    split_ifs with hboth hplay
    · rfl
    · rfl
    · rw [Bool.or_eq_true, not_or, Bool.not_eq_true] at hboth
      exact absurd ⟨hboth.1, hplay⟩ h
  · rw [noteStill_of_not_isPass hpass]
    split_ifs with hboth
    · exact Or.inl rfl
    · rw [Bool.or_eq_true, not_or, Bool.not_eq_true] at hboth
      exact Or.inr ⟨rfl, hboth.1, (kept_of_not_isPass hpass).2⟩

/-- A still pass that does not switch is counted. -/
theorem noteStill_of_stillPass {s : Renderer} {e : Event} (h : StillPass s e) (n : ℕ)
    (hstays : inSpdifin (s.step e) = false) : noteStill n s e = n + 1 := by
  obtain ⟨lock, env, rfl, hstream, hstill⟩ := h.pass
  simp [noteStill, hstream, hstill, hstays]

theorem switches_step (p : Renderer × ℕ) (e : Event) (h : CountsStill p)
    (hstart : StartsStill p e) :
    SwitchesInTime p e ∧ CountsStill (track Renderer.step noteStill p e) := by
  obtain ⟨s, n⟩ := p
  by_cases hstill : StillPass s e
  · obtain ⟨hswitch, hcnt⟩ := stillPass_step hstill
    obtain ⟨lock, env, hpass, hstream, -⟩ := hstill.pass
    have hcount : s.counters.cntStop = n ∧ n ≤ silanAutoSpdifin := by
      rcases Nat.eq_zero_or_pos n with rfl | hpos
      · exact ⟨hstart hstill rfl, Nat.zero_le _⟩
      · exact h hstream hpos
    refine ⟨⟨?_, fun _ hlong => ?_⟩, fun hstays _ => ?_⟩
    · rw [hswitch]
      constructor
      · rintro ⟨-, -, hfull⟩
        exact ⟨hstill, by omega⟩
      · rintro ⟨-, hlast⟩
        exact ⟨⟨lock, env, hpass⟩, hstream, by omega⟩
    · rw [hswitch]
      simp only at hlong
      omega
    · simp only [track] at hstays ⊢
      have hnot : s.counters.cntStop ≠ silanAutoSpdifin := by
        intro hfull
        rw [hswitch.mpr hfull] at hstays
        cases hstays
      rw [noteStill_of_stillPass hstill n hstays, hcnt (by omega)]
      omega
  · refine ⟨⟨?_, fun hpass => absurd hpass hstill⟩, ?_⟩
    · constructor
      · rintro ⟨hpass, hstream, hafter⟩
        rw [inSpdifin_of_not_stillPass hstill hpass hstream] at hafter
        cases hafter
      · rintro ⟨hpass, -⟩
        exact absurd hpass hstill
    · rintro - hpos
      rcases noteStill_of_not_stillPass hstill n with hzero | ⟨hsame, hstream, hcounters⟩
      · simp [track, hzero] at hpos
      · simp only [track, hsame] at hpos ⊢
        rw [hcounters]
        exact h hstream hpos

/-- In a run where every count of still passes starts with the counter at zero, the watchdog
returns to SPDIF-in mode in time. -/
theorem switches_run (env : Env) (padmux volume mute : ℤ) (es : List Event)
    (hstart : AllSteps (track Renderer.step noteStill) StartsStill
      (startUp env padmux volume mute, 0) es) :
    AllSteps (track Renderer.step noteStill) SwitchesInTime
      (startUp env padmux volume mute, 0) es := by
  refine allSteps_of_allSteps _ switches_step ?_ hstart
  intro _ hpos
  exact absurd hpos (lt_irrefl 0)

/-- A URI is set and handed to the player, which does not start. -/
def playUnanswered : List Event := [setUriAction "http://a/1.mp3", playAction]

theorem switches_first : AllSteps (track Renderer.step noteStill) SwitchesInTime
    (startUp allSent 0 0 0, 0) (playUnanswered ++ List.replicate 121 unlockedPass) :=
  switches_run allSent 0 0 0 _ (by decide +kernel)

/-- Passes before a KEY_RADIO are counted after the next Play. -/
def leftoverStill : List Event :=
  playUnanswered ++ List.replicate 120 unlockedPass ++ .key .radio allSent :: playUnanswered

theorem not_switches_leftover : ¬ AllSteps (track Renderer.step noteStill) SwitchesInTime
    (startUp allSent 0 0 0, 0) (leftoverStill ++ [unlockedPass]) := by
  rw [allSteps_append]
  rintro ⟨-, hlast, -⟩
  obtain ⟨-, hcount⟩ := hlast.switch_iff.mp
    ⟨⟨none, allSent, rfl⟩, by decide +kernel, by decide +kernel⟩
  exact absurd hcount (by decide +kernel)

end Return

end GMediaRender.Watchdog
