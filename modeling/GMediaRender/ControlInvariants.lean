import GMediaRender.ErrorReports

/-!
Volume and mute are kept twice, in the output module and in the variables of the
RenderingControl service. Every step changes both copies alike, with two exceptions: a new
volume lifts the mute of the module only, and the volume that the module starts with is
taken over as it was stored. The two copies of the mute are the same as long as no volume
is set while it is on; the volume is in its range once it has been set.
-/
namespace GMediaRender.ControlInvariants

open XmlDoc StateVariables ActionRequest OutputSilan UpnpTime UpnpControl ErrorReports
  RendererSystem Runs

inductive Label where
  | action (cmd : ControlCmd) (doc : Option (List Node)) (env : Env)
  | volumeUp (env : Env)
  | volumeDown (env : Env)
  | mute (env : Env)

def step (s : Control) : Label → Control
  | .action cmd doc env => (controlActions env s (newRequest doc) cmd).state
  | .volumeUp env => volumeKey env s 1
  | .volumeDown env => volumeKey env s (-1)
  | .mute env => muteKey env s

section Renderer

/-- The event of the renderer that is a step of the service. -/
def Label.event : Label → Event
  | .action cmd doc env => .action (.control cmd) doc env
  | .volumeUp env => .key .volumeUp env
  | .volumeDown env => .key .volumeDown env
  | .mute env => .key .mute env

theorem controlPart_step (s : Renderer) (l : Label) :
    (s.step l.event).controlPart = step s.controlPart l := by
  cases l <;> rfl

theorem controlPart_run (s : Renderer) (ls : List Label) :
    (run Renderer.step s (ls.map Label.event)).controlPart = run step s.controlPart ls := by
  induction ls generalizing s with
  | nil => rfl
  | cons l ls ih => rw [List.map_cons, run_cons, run_cons, ih, controlPart_step]

end Renderer

/-- What a step sets. -/
inductive Setting where
  | volume (value : ℤ)
  | mute (value : ℤ)

def Label.setting (s : Control) : Label → Option Setting
  | .action .setVol doc _ => (argument doc "DesiredVolume").map fun value => .volume (atoi value)
  | .action .setMute doc _ => (argument doc "DesiredMute").map fun value => .mute (atoi value)
  | .action _ _ _ => none
  | .volumeUp _ =>
    if s.silan.volume < 100 then some (.volume (volumeChange s.silan.volume 1)) else none
  | .volumeDown _ =>
    if s.silan.volume > 0 then some (.volume (volumeChange s.silan.volume (-1))) else none
  | .mute _ => some (.mute (if s.silan.mute = 0 then 1 else 0))

/-- The two copies of volume and mute. -/
structure Copies where
  volumeVar : String
  muteVar : String
  volume : ℤ
  mute : ℤ

def copies (s : Control) : Copies :=
  ⟨s.vars.values .volume, s.vars.values .mute, s.silan.volume, s.silan.mute⟩

/-- The mute as the variable shows it. -/
def muteText (value : ℤ) : String := if value = 0 then "0" else "1"

/-- The copies after a setting: a volume is brought into its range and lifts the mute of the
output module. -/
def Copies.apply (c : Copies) : Setting → Copies
  | .volume value => ⟨printInt (clampVolume value), c.muteVar, clampVolume value, 0⟩
  | .mute value => ⟨c.volumeVar, muteText value, c.volume, value⟩

section Step

variable (s : Control) (env : Env)

theorem copies_setVolume (value : ℤ) : copies (upnpControlSetVolume env s value).1 =
    (copies s).apply (.volume value) := by
  rw [upnpControlSetVolume_eq]
  simp [copies, Copies.apply, SilanData.record]

theorem copies_setMute (value : ℤ) : copies (upnpControlSetMute env s value).1 =
    (copies s).apply (.mute value) := by
  obtain ⟨sent, hset⟩ := upnpControlSetMute_fst env s value
  rw [hset]
  simp [copies, Copies.apply, muteText]

theorem copies_volumeKey (dir : ℤ) : copies (volumeKey env s dir) =
    if (dir > 0 ∧ s.silan.volume < 100) ∨ (dir < 0 ∧ s.silan.volume > 0) then
      (copies s).apply (.volume (volumeChange s.silan.volume dir))
    else copies s := by
  unfold volumeKey
  split_ifs
  · exact copies_setVolume _ env _
  · rfl

theorem copies_action (cmd : ControlCmd) (doc : Option (List Node)) :
    copies (step s (.action cmd doc env)) =
      ((Label.action cmd doc env).setting s).elim (copies s) (copies s).apply := by
  cases cmd with
  | setVol =>
    simp only [step, controlActions, setVolume, Label.setting]
    rcases upnpGetString_cases doc "DesiredVolume" with ⟨value, harg, hget⟩ | ⟨harg, e, hget⟩
    · simp [harg, hget, copies_setVolume]
    · simp [harg, hget]
  | setMute =>
    simp only [step, controlActions, setMute, Label.setting]
    rcases upnpGetString_cases doc "DesiredMute" with ⟨value, harg, hget⟩ | ⟨harg, e, hget⟩
    · simp [harg, hget, copies_setMute]
    · simp [harg, hget]
  | listPresets => exact congrArg copies (cmdObtainVariable_state s _ _ _)
  | getMute => exact congrArg copies (cmdObtainVariable_state s _ _ _)
  | getVol => exact congrArg copies (cmdObtainVariable_state s _ _ _)

/-- A step does to the copies what its setting says, whether or not the player can be told. -/
theorem copies_step (l : Label) :
    copies (step s l) = (l.setting s).elim (copies s) (copies s).apply := by
  cases l with
  | action cmd doc env => exact copies_action s env cmd doc
  | volumeUp env =>
    simp only [step, Label.setting, copies_volumeKey]
    by_cases h : s.silan.volume < 100 <;> simp [h]
  | volumeDown env =>
    simp only [step, Label.setting, copies_volumeKey]
    by_cases h : s.silan.volume > 0 <;> simp [h]
  | mute env => exact copies_setMute s env _

end Step

/-- The steps that set a volume. -/
def SetsVolume (s : Control) : Label → Prop
  | .action .setVol doc _ => Given doc "DesiredVolume"
  | .volumeUp _ => s.silan.volume < 100
  | .volumeDown _ => s.silan.volume > 0
  | _ => False

theorem setsVolume_iff (s : Control) (l : Label) :
    SetsVolume s l ↔ ∃ value, l.setting s = some (.volume value) := by
  rcases l with ⟨cmd, doc, env⟩ | env | env | env
  case action =>
    cases cmd with
    | setVol =>
      simp only [SetsVolume, Given, Label.setting]
      cases argument doc "DesiredVolume" <;> simp
    | setMute =>
      simp only [SetsVolume, Label.setting]
      cases argument doc "DesiredMute" <;> simp
    | listPresets | getMute | getVol => simp [SetsVolume, Label.setting]
  all_goals simp [SetsVolume, Label.setting]

section Mute

/-- The variable shows whether the output module is muted. -/
def MuteAgrees (s : Control) : Prop := s.vars.values .mute = muteText s.silan.mute

instance (s : Control) : Decidable (MuteAgrees s) :=
  inferInstanceAs (Decidable (_ = _))

theorem muteText_eq_zero {value : ℤ} : muteText value = "0" ↔ value = 0 := by
  unfold muteText
  split_ifs with h <;> simp [h]

/-- Only a volume that is set while the mute is on separates the two. -/
theorem muteAgrees_step (s : Control) (l : Label) (h : MuteAgrees s) :
    MuteAgrees (step s l) ↔ (SetsVolume s l → s.silan.mute = 0) := by
  have hcopies := copies_step s l
  have hvar : (step s l).vars.values .mute = _ := congrArg Copies.muteVar hcopies
  have hmute : (step s l).silan.mute = _ := congrArg Copies.mute hcopies
  have hagrees : (copies s).muteVar = muteText s.silan.mute := h
  rw [setsVolume_iff, MuteAgrees, hvar, hmute]
  cases hset : l.setting s with
  | none =>
    refine iff_of_true hagrees ?_
    rintro ⟨value, hnone⟩
    exact absurd hnone (by simp)
  | some setting =>
    cases setting with
    | mute value => simp [Copies.apply]
    | volume value =>
      have hzero : muteText 0 = "0" := rfl
      simp only [Option.elim_some, Copies.apply, hagrees, hzero, muteText_eq_zero]
      simp

/-- The mute that controllers see stays that of the output module throughout a run exactly when
no volume is set while the mute is on. -/
theorem muteAgrees_run_iff (s : Control) (h : MuteAgrees s) (ls : List Label) :
    AllSteps step (fun s l => MuteAgrees (step s l)) s ls ↔
      AllSteps step (fun s l => SetsVolume s l → s.silan.mute = 0) s ls :=
  allSteps_next_iff step muteAgrees_step h ls

def started : Control := (startUp allSent 0 50 0).controlPart

def setMuteLabel (value : String) : Label :=
  .action .setMute (requestDoc "SetMute"
    [("InstanceID", "0"), ("Channel", "Master"), ("DesiredMute", value)]) allSent

def setVolumeLabel (value : String) : Label :=
  .action .setVol (requestDoc "SetVolume"
    [("InstanceID", "0"), ("Channel", "Master"), ("DesiredVolume", value)]) allSent

theorem muteAgrees_run_muteKey : MuteAgrees started ∧
    (AllSteps step (fun s l => MuteAgrees (step s l)) started [.mute allSent, .mute allSent] ↔
      AllSteps step (fun s l => SetsVolume s l → s.silan.mute = 0) started
        [.mute allSent, .mute allSent]) :=
  have h : MuteAgrees started := by decide
  ⟨h, muteAgrees_run_iff started h _⟩

/-- The mute is on, a volume is set: the module is no longer muted, controllers still see it
muted. -/
theorem not_muteAgrees_setVolume : MuteAgrees started ∧
    ¬ MuteAgrees (run step started [setMuteLabel "1", setVolumeLabel "20"]) := by
  decide

end Mute

section Volume

/-- The variable shows the volume of the output module, and that is in its range. -/
structure VolumeInRange (s : Control) : Prop where
  agrees : s.vars.values .volume = printInt s.silan.volume
  min_le : volumeRangeMin ≤ s.silan.volume
  le_max : s.silan.volume ≤ volumeRangeMax

theorem min_le_clampVolume (value : ℤ) : volumeRangeMin ≤ clampVolume value := le_max_left _ _

theorem clampVolume_le_max (value : ℤ) : clampVolume value ≤ volumeRangeMax :=
  max_le (by decide) (min_le_left _ _)

/-- A volume that is set is in its range wherever it comes from. -/
theorem volumeInRange_of_setsVolume {s : Control} {l : Label} (h : SetsVolume s l) :
    VolumeInRange (step s l) := by
  obtain ⟨value, hset⟩ := (setsVolume_iff s l).mp h
  have hcopies : copies (step s l) = (copies s).apply (.volume value) := by
    rw [copies_step, hset]
    rfl
  have hvar : (step s l).vars.values .volume = printInt (clampVolume value) :=
    congrArg Copies.volumeVar hcopies
  have hvolume : (step s l).silan.volume = clampVolume value := congrArg Copies.volume hcopies
  rw [← hvolume] at hvar
  exact ⟨hvar, hvolume ▸ min_le_clampVolume value, hvolume ▸ clampVolume_le_max value⟩

/-- Any other step keeps both copies of the volume. -/
theorem volume_of_not_setsVolume {s : Control} {l : Label} (h : ¬ SetsVolume s l) :
    (step s l).vars.values .volume = s.vars.values .volume ∧
      (step s l).silan.volume = s.silan.volume := by
  have hcopies := copies_step s l
  have hvar : (step s l).vars.values .volume = _ := congrArg Copies.volumeVar hcopies
  have hvolume : (step s l).silan.volume = _ := congrArg Copies.volume hcopies
  rw [hvar, hvolume]
  cases hset : l.setting s with
  | none => exact ⟨rfl, rfl⟩
  | some setting =>
    cases setting with
    | mute value => exact ⟨rfl, rfl⟩
    | volume value => exact absurd ((setsVolume_iff s l).mpr ⟨value, hset⟩) h

theorem VolumeInRange.congr {s s' : Control} (h : VolumeInRange s)
    (hvar : s'.vars.values .volume = s.vars.values .volume)
    (hvolume : s'.silan.volume = s.silan.volume) : VolumeInRange s' := by
  refine ⟨?_, hvolume ▸ h.min_le, hvolume ▸ h.le_max⟩
  rw [hvar, hvolume]
  exact h.agrees

theorem volumeInRange_step (s : Control) (l : Label) :
    VolumeInRange (step s l) ↔ VolumeInRange s ∨ SetsVolume s l := by
  by_cases h : SetsVolume s l
  · exact iff_of_true (volumeInRange_of_setsVolume h) (Or.inr h)
  · obtain ⟨hvar, hvolume⟩ := volume_of_not_setsVolume h
    rw [or_iff_left h]
    exact ⟨fun hnext => hnext.congr hvar.symm hvolume.symm, fun hrange => hrange.congr hvar hvolume⟩

theorem volumeInRange_run (s : Control) (ls : List Label) :
    VolumeInRange (run step s ls) ↔
      VolumeInRange s ∨ ¬ AllSteps step (fun s l => ¬ SetsVolume s l) s ls := by
  induction ls generalizing s with
  | nil => simp
  | cons l ls ih =>
    rw [run_cons, ih, volumeInRange_step, allSteps_cons, not_and_or, not_not, or_assoc]

section StartUp

variable (env : Env) (padmux volume mute : ℤ)

theorem outputSilanSetSpdifin_volume (d : SilanData) :
    (outputSilanSetSpdifin env d).volume = d.volume := by
  unfold outputSilanSetSpdifin
  split_ifs
  · rfl
  · simp only [sendCmd_of_bit_none env _ .spdifIn 0 none rfl,
      sendCmd_of_bit_none env _ .setPadMux _ none rfl]
    rfl

/-- The module starts with the stored volume, whatever it is. -/
theorem outputSilanInit_volume : (outputSilanInit env padmux volume mute).volume = volume :=
  outputSilanSetSpdifin_volume env _

theorem volumeInRange_startUp : VolumeInRange (startUp env padmux volume mute).controlPart ↔
    volumeRangeMin ≤ volume ∧ volume ≤ volumeRangeMax := by
  have hvolume : (startUp env padmux volume mute).controlPart.silan.volume = volume :=
    outputSilanInit_volume env padmux volume mute
  have hvar : (startUp env padmux volume mute).controlPart.vars.values .volume =
      printInt (outputSilanInit env padmux volume mute).volume := by
    simp [startUp, Renderer.controlPart, upnpControlInit]
  constructor
  · intro h
    exact ⟨hvolume ▸ h.min_le, hvolume ▸ h.le_max⟩
  · rintro ⟨hmin, hmax⟩
    exact ⟨hvar, hvolume.symm ▸ hmin, hvolume.symm ▸ hmax⟩

/-- From start-up with any stored volume the volume is in its range and the same in both places
exactly if the stored one is in the range or a volume has been set since. -/
theorem volumeInRange_run_iff (ls : List Label) :
    VolumeInRange (run step (startUp env padmux volume mute).controlPart ls) ↔
      (volumeRangeMin ≤ volume ∧ volume ≤ volumeRangeMax) ∨
        ¬ AllSteps step (fun s l => ¬ SetsVolume s l) (startUp env padmux volume mute).controlPart
          ls := by
  rw [volumeInRange_run, volumeInRange_startUp]

/-- A stored volume of 150 is published as it is. -/
theorem not_volumeInRange_stored :
    ¬ VolumeInRange (run step (startUp allSent 0 150 0).controlPart []) := by
  intro h
  exact absurd h.le_max (by decide)

end StartUp

end Volume

end GMediaRender.ControlInvariants
