import GMediaRender.Watchdog

/-!
The two pins of the amplifier. Their last values are the bits of the status; power is switched
only while the amplifier is muted, and it stays muted until some passes after it has been
powered up.
-/
namespace GMediaRender.Amplifier

open OutputSilan RendererSystem OutputCalls Watchdog Runs

section Pins

/-- The value last written to a pin. -/
def pin (log : List (Gpio × ℤ)) (num : Gpio) : Option ℤ :=
  (log.reverse.find? fun w => w.1 == num).map Prod.snd

/-- The amplifier is muted if the power has just been switched, and while it is off. -/
def MutedFor (log : List (Gpio × ℤ)) : Prop :=
  (log.getLast?.map Prod.fst = some .ampPower ∨ pin log .ampPower = some 1) →
    pin log .ampMute = some 1

/-- That has been so after every write. -/
def PopFree (log : List (Gpio × ℤ)) : Prop := ∀ before, before <+: log → MutedFor before

variable (log : List (Gpio × ℤ)) (num : Gpio) (value : ℤ)

@[simp] theorem pin_snoc_self : pin (log ++ [(num, value)]) num = some value := by
  simp [pin]

theorem pin_snoc_of_ne (other : Gpio) (h : num ≠ other) :
    pin (log ++ [(num, value)]) other = pin log other := by
  simp [pin, h]

variable {log}

theorem PopFree.snoc (h : PopFree log) (w : Gpio × ℤ) (hw : MutedFor (log ++ [w])) :
    PopFree (log ++ [w]) := by
  intro before hbefore
  rcases List.prefix_concat_iff.mp hbefore with rfl | hprefix
  · exact hw
  · exact h before hprefix

theorem popFree_nil : PopFree [] := by
  intro before hbefore
  rw [List.prefix_nil.mp hbefore]
  simp [MutedFor, pin]

end Pins

section Bits

@[simp] theorem setStatus_gpio (d : SilanData) (b : StatusBit) (v : Bool) :
    (d.setStatus b v).gpio = d.gpio := rfl

@[simp] theorem gpioWrite_gpio (d : SilanData) (num : Gpio) (value : ℤ) :
    (d.gpioWrite num value).gpio = d.gpio ++ [(num, value)] := rfl

@[simp] theorem gpioWrite_status (d : SilanData) (num : Gpio) (value : ℤ) :
    (d.gpioWrite num value).status = d.status := rfl

/-- The pins show the bits, and the amplifier has been muted when it had to be. -/
structure PinsShown (d : SilanData) : Prop where
  mutePin : pin d.gpio .ampMute = some (if d.status .ampMute then 1 else 0)
  powerPin : pin d.gpio .ampPower = some (if d.status .ampPower then 0 else 1)
  popFree : PopFree d.gpio

variable {d d' : SilanData}

theorem PinsShown.kept (h : PinsShown d) (hkept : Kept d d') : PinsShown d' := by
  obtain ⟨hmute, hpower, hpop⟩ := h
  exact ⟨by rw [hkept.gpio, hkept.mute, hmute], by rw [hkept.gpio, hkept.power, hpower],
    by rw [hkept.gpio]; exact hpop⟩

/-- Muting is always right; unmuting wants the power on. -/
theorem PinsShown.setAmpMute (h : PinsShown d) (m : Bool)
    (hm : m = true ∨ d.status .ampPower = true) : PinsShown (outputSilanSetAmpMute d m) := by
  unfold outputSilanSetAmpMute
  by_cases hne : m ≠ d.status .ampMute
  · rw [if_pos hne]
    have hpower : pin (d.gpio ++ [(Gpio.ampMute, if m then 1 else 0)]) .ampPower =
        pin d.gpio .ampPower := pin_snoc_of_ne _ _ _ _ (by decide)
    refine ⟨?_, ?_, h.popFree.snoc _ ?_⟩
    · simp
    · simpa [hpower] using h.powerPin
    · intro hcase
      rcases hm with rfl | hon
      · exact pin_snoc_self _ _ _
      · rw [hpower, h.powerPin, hon] at hcase
        simp at hcase
  · rw [if_neg hne]
    have hsame : d.setStatus .ampMute m = d := by
      rw [not_not.mp hne]
      simp [SilanData.setStatus]
    rw [hsame]
    exact h

theorem PinsShown.setAmpPower (h : PinsShown d) (m : Bool) :
    PinsShown (outputSilanSetAmpPower d m) := by
  unfold outputSilanSetAmpPower
  by_cases hne : m ≠ d.status .ampPower
  · rw [if_pos hne]
    have hmuted := h.setAmpMute true (Or.inl rfl)
    generalize hd : outputSilanSetAmpMute d true = muted at hmuted
    have hbit : muted.status .ampMute = true := by
      rw [← hd, setAmpMute_status]
      exact Function.update_self _ _ _
    have hmute : pin (muted.gpio ++ [(Gpio.ampPower, if m then 0 else 1)]) .ampMute =
        some 1 := by
      rw [pin_snoc_of_ne _ _ _ _ (by decide), hmuted.mutePin, hbit]
      rfl
    refine ⟨?_, ?_, hmuted.popFree.snoc _ fun _ => hmute⟩
    · simpa [hbit] using hmute
    · simp
  · rw [if_neg hne]
    have hsame : d.setStatus .ampPower m = d := by
      rw [not_not.mp hne]
      simp [SilanData.setStatus]
    rw [hsame]
    exact h

end Bits

section Unmuting

/-- With the number of passes since power-up: the amplifier is muted for the first of them, and
the counter counts those. -/
structure Counted (cnt : ℕ) (d : SilanData) (k : ℕ) : Prop where
  off : d.status .ampPower = false → k = 0
  muted_iff : d.status .ampMute = true ↔ d.status .ampPower = false ∨ k ≤ silanAmpUnmute
  cnt_eq : d.status .ampPower = true → k ≤ silanAmpUnmute → cnt = k

variable {env : Env} {c : Counters} {d : SilanData} {lock : Option ℤ} {k : ℕ}

theorem Counted.kept {d' : SilanData} {cnt : ℕ} (h : Counted cnt d k) (hkept : Kept d d') :
    Counted cnt d' k := by
  obtain ⟨hoff, hmuted, hcnt⟩ := h
  exact ⟨by rwa [hkept.power], by rwa [hkept.power, hkept.mute], by rwa [hkept.power]⟩

/-- Whenever the power is switched, the amplifier is muted. -/
theorem setAmpPower_mute (m : Bool) (h : d.status .ampPower = !m) :
    (outputSilanSetAmpPower d m).status .ampMute = true := by
  have hne : m ≠ d.status .ampPower := by simp [h]
  simp [outputSilanSetAmpPower, hne, setAmpMute_status]

theorem counted_powerUp (h : Counted c.cntMute d k) (hoff : d.status .ampPower = false) :
    Counted 0 (outputSilanSetAmpPower d true) k := by
  have hzero := h.off hoff
  have hmute := setAmpPower_mute true (hoff.trans rfl)
  have hpower := setAmpPower_power d true
  subst hzero
  exact ⟨fun _ => rfl, by simp [hmute], fun _ _ => rfl⟩

theorem counted_powerOff {cnt : ℕ} (hon : d.status .ampPower = true) :
    Counted cnt (outputSilanSetAmpPower d false) 0 := by
  have hmute := setAmpPower_mute false (hon.trans rfl)
  have hpower := setAmpPower_power d false
  exact ⟨fun _ => rfl, by simp [hmute], by simp [hpower]⟩

/-- The first part of a pass keeps the count, or powers the amplifier off. -/
theorem counted_watched {r : Counters × SilanData} (h : Counted c.cntMute d k)
    (hwatched : Watched env c d lock r) :
    Counted r.1.cntMute r.2 (if r.2.status .ampPower then k else 0) := by
  have hsame : ∀ d' : SilanData, Kept d d' →
      Counted c.cntMute d' (if d'.status .ampPower then k else 0) := by
    intro d' hkept
    have hcounted := h.kept hkept
    by_cases hon : d'.status .ampPower = true
    · rwa [if_pos hon]
    · rw [if_neg hon, ← hcounted.off (by simpa using hon)]
      exact hcounted
  cases hwatched with
  | lockedUp _ _ hoff =>
    simp only [setAmpPower_power, if_true]
    exact counted_powerUp h hoff
  | playingUp _ _ hoff =>
    simp only [setAmpPower_power, if_true]
    exact counted_powerUp h hoff
  | powerOff _ _ _ hon =>
    simp only [setAmpPower_power, Bool.false_eq_true, if_false]
    exact counted_powerOff hon
  | toSpdifin => exact hsame _ (kept_setSpdifin env d)
  | _ => exact hsame d (.refl d)

/-- The second part unmutes in the pass after SILAN_AMP_UNMUTE ones. -/
theorem counted_watchAmpMute (h : Counted c.cntMute d k) :
    Counted (watchAmpMute c d).1.cntMute (watchAmpMute c d).2
      (if d.status .ampPower then k + 1 else 0) := by
  by_cases hon : d.status .ampPower = true
  · rw [if_pos hon]
    by_cases hk : k ≤ silanAmpUnmute
    · have hmute := h.muted_iff.mpr (Or.inr hk)
      have hcnt := h.cnt_eq hon hk
      unfold watchAmpMute
      simp only [hon, hmute, Bool.and_self, if_true]
      by_cases hlt : c.cntMute < silanAmpUnmute
      · rw [if_pos hlt]
        refine ⟨by simp [hon], ?_, fun _ _ => by simp [hcnt]⟩
        simp only [hon, hmute, true_iff]
        omega
      · have heq : c.cntMute = silanAmpUnmute := by omega
        rw [if_neg hlt, if_pos heq]
        refine ⟨by simp [setAmpMute_status, hon], ?_, fun _ hlong => by omega⟩
        simp only [setAmpMute_status, Function.update_self]
        simp [← heq, hcnt, hon]
    · have hunmuted : d.status .ampMute = false := by
        have hnot := mt h.muted_iff.mp (by simp [hon, hk])
        simpa using hnot
      have hidle : watchAmpMute c d = (c, d) := by simp [watchAmpMute, hunmuted]
      rw [hidle]
      refine ⟨by simp [hon], ?_, fun _ hle => by omega⟩
      simp only [hunmuted, hon]
      simp
      omega
  · have hidle : watchAmpMute c d = (c, d) := by simp [watchAmpMute, hon]
    rw [if_neg hon, hidle, ← h.off (by simpa using hon)]
    exact h

theorem PinsShown.watched {r : Counters × SilanData} (h : PinsShown d)
    (hwatched : Watched env c d lock r) : PinsShown r.2 := by
  cases hwatched with
  | lockedUp => exact h.setAmpPower true
  | playingUp => exact h.setAmpPower true
  | powerOff => exact h.setAmpPower false
  | toSpdifin => exact h.kept (kept_setSpdifin env d)
  | _ => exact h

theorem PinsShown.watchAmpMute (h : PinsShown d) :
    PinsShown (OutputSilan.watchAmpMute c d).2 := by
  unfold OutputSilan.watchAmpMute
  split_ifs with hboth
  · exact h
  · exact h.setAmpMute false (Or.inr (Bool.and_eq_true_iff.mp hboth).1)
  · exact h
  · exact h

end Unmuting

section Main

/-- The passes since power-up that have ended with the power on. -/
def notePowered (k : ℕ) (s : Renderer) (e : Event) : ℕ :=
  if power (s.step e) then
    match e with
    | .idlePass _ _ => k + 1
    | _ => k
  else 0

/-- The pins and the muting are as they should be. -/
structure AmpControlled (p : Renderer × ℕ) : Prop where
  pins : PinsShown p.1.silan
  muted_iff : p.1.silan.status .ampMute = true ↔ power p.1 = false ∨ p.2 ≤ silanAmpUnmute

/-- The invariant that the counter keeps up. -/
def Controlled (p : Renderer × ℕ) : Prop :=
  PinsShown p.1.silan ∧ Counted p.1.counters.cntMute p.1.silan p.2

theorem controlled_idlePass (s : Renderer) (k : ℕ) (lock : Option ℤ) (env : Env)
    (h : Controlled (s, k)) :
    Controlled (track Renderer.step notePowered (s, k) (.idlePass lock env)) := by
  obtain ⟨hpins, hcounted⟩ := h
  have hpower := (passed_idlePass s lock env).power
  have hwatched := watch_watched env s.counters s.silan lock
  have hcount := counted_watchAmpMute (counted_watched hcounted hwatched)
  have hnote : notePowered k s (.idlePass lock env) =
      if (watch env s.counters s.silan lock).2.status .ampPower then
        (if (watch env s.counters s.silan lock).2.status .ampPower then k else 0) + 1
      else 0 := by
    simp only [notePowered, hpower]
    split_ifs <;> rfl
  rw [← hnote] at hcount
  exact ⟨(hpins.watched hwatched).watchAmpMute, hcount⟩

theorem notePowered_of_not_isPass {e : Event} (h : ¬ IsPass e) (k : ℕ) (s : Renderer) :
    notePowered k s e = if power (s.step e) then k else 0 := by
  cases e with
  | idlePass lock env => exact absurd ⟨lock, env, rfl⟩ h
  | _ => rfl

theorem controlled_kept (s : Renderer) (k : ℕ) (e : Event) (h : Controlled (s, k))
    (hpass : ¬ IsPass e) : Controlled (track Renderer.step notePowered (s, k) e) := by
  obtain ⟨hpins, hcounted⟩ := h
  obtain ⟨hkept, hcounters⟩ := kept_of_not_isPass (s := s) hpass
  have hcount := hcounted.kept hkept
  refine ⟨hpins.kept hkept, ?_⟩
  simp only [track, hcounters, notePowered_of_not_isPass hpass]
  split_ifs with hon
  · exact hcount
  · rw [← hcount.off (by simpa [power] using hon)]
    exact hcount

theorem controlled_step (p : Renderer × ℕ) (e : Event) (h : Controlled p) :
    Controlled (track Renderer.step notePowered p e) := by
  obtain ⟨s, k⟩ := p
  by_cases hpass : IsPass e
  · obtain ⟨lock, env, rfl⟩ := hpass
    exact controlled_idlePass s k lock env h
  · exact controlled_kept s k e h hpass

/-- `output_silan_init` powers the amplifier up, muted. -/
theorem controlled_startUp (env : Env) (padmux volume mute : ℤ) :
    Controlled (startUp env padmux volume mute, 0) := by
  let d : SilanData := ⟨slmpStateStop, fun _ => false, none, none, mute, volume, 0, 0, padmux,
    [], []⟩
  have hkept : Kept (outputSilanSetAmpPower d true) (startUp env padmux volume mute).silan :=
    kept_setSpdifin env _
  have hlog : (outputSilanSetAmpPower d true).gpio = [(.ampMute, 1), (.ampPower, 0)] := rfl
  have hpop : PopFree ([] ++ [(.ampMute, 1)] ++ [(.ampPower, 0)]) :=
    (popFree_nil.snoc (.ampMute, 1) (by simp [MutedFor, pin])).snoc (.ampPower, 0)
      (by simp [MutedFor, pin])
  have hpins : PinsShown (outputSilanSetAmpPower d true) :=
    ⟨by rw [hlog]; rfl, by rw [hlog]; rfl, by rw [hlog]; exact hpop⟩
  refine ⟨hpins.kept hkept, Counted.kept ?_ hkept⟩
  exact ⟨by simp [setAmpPower_power], by simp [setAmpPower_mute (d := d) true rfl], fun _ _ => rfl⟩

/-- In every state of every run the pins show the bits of the amplifier, its power has only been
switched while it was muted, and it is muted unless SILAN_AMP_UNMUTE + 1 passes have ended with
the power on since it was powered up. -/
theorem ampControlled_run (env : Env) (padmux volume mute : ℤ) (es : List Event) :
    AmpControlled (run (track Renderer.step notePowered)
      (startUp env padmux volume mute, 0) es) := by
  obtain ⟨hpins, hcounted⟩ := run_invariant _ controlled_step
    (controlled_startUp env padmux volume mute) es
  exact ⟨hpins, hcounted.muted_iff⟩

end Main

end GMediaRender.Amplifier
