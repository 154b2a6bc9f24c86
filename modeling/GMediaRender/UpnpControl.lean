import GMediaRender.ActionRequest
import GMediaRender.OutputSilan
import GMediaRender.UpnpTime
import Mathlib.Data.Fintype.Defs

/-!
The RenderingControl service of upnp_control.c over the output module: volume and mute,
for the action handlers and for the infra-red keys.
-/
namespace GMediaRender.UpnpControl

open XmlDoc VariableContainer StateVariables ActionRequest OutputSilan UpnpTime

/-- The indices CONTROL_VAR_… -/
inductive ControlVar where
  | lastChange
  | presetNameList
  | aatChannel
  | aatInstanceId
  | aatPresetName
  | mute
  | volume
  | unknown
  deriving DecidableEq

def controlVariableNames : ControlVar → Option String
  | .lastChange => some "LastChange"
  | .presetNameList => some "PresetNameList"
  | .aatChannel => some "A_ARG_TYPE_Channel"
  | .aatInstanceId => some "A_ARG_TYPE_InstanceID"
  | .aatPresetName => some "A_ARG_TYPE_PresetName"
  | .mute => some "Mute"
  | .volume => some "Volume"
  | .unknown => none

def controlDefaultValues : ControlVar → String
  | .lastChange => "<Event xmlns = \"urn:schemas-upnp-org:metadata-1-0/RCS/\"/>"
  | .presetNameList => ""
  | .aatChannel => ""
  | .aatInstanceId => "0"
  | .aatPresetName => ""
  | .mute => "0"
  | .volume => "0"
  | .unknown => ""

def controlVars : List ControlVar :=
  [.lastChange, .presetNameList, .aatChannel, .aatInstanceId, .aatPresetName, .mute, .volume,
    .unknown]

theorem controlVars_nodup : controlVars.Nodup := by decide

theorem mem_controlVars (i : ControlVar) : i ∈ controlVars := by
  cases i <;> decide

instance : Fintype ControlVar := ⟨⟨controlVars, controlVars_nodup⟩, mem_controlVars⟩

theorem controlVariableNames_injective (i j : ControlVar) (n : String)
    (hi : controlVariableNames i = some n) (hj : controlVariableNames j = some n) : i = j := by
  have hall : ∀ i j, controlVariableNames i = controlVariableNames j →
      controlVariableNames i ≠ none → i = j := by decide +kernel
  exact hall i j (hi.trans hj.symm) (by simp [hi])

/-- The variable container of the service. -/
def controlTable : VariableTable ControlVar where
  vars := controlVars
  nodup := controlVars_nodup
  complete := mem_controlVars
  name := controlVariableNames
  lastChange := .lastChange
  name_lastChange := rfl
  name_injective := controlVariableNames_injective

/-- The state behind the service: its variables and the output module. -/
structure Control where
  vars : Store ControlVar
  silan : SilanData

def volumeRangeMin : ℤ := 0
def volumeRangeMax : ℤ := 100

section Handlers

variable (env : Env) (s : Control)

/-- `cmd_obtain_variable` -/
def cmdObtainVariable (e : ActionEvent) (varnum : ControlVar) (paramname : String) :
    Handled Control :=
  match upnpGetString e "InstanceID" with
  | (e, none) => ⟨e, s, -1⟩
  | (e, some _) => ⟨upnpAppendVariable e s.vars varnum paramname, s, 0⟩

def listPresets (e : ActionEvent) : Handled Control :=
  cmdObtainVariable s e .presetNameList "CurrentPresetNameList"

def getMute (e : ActionEvent) : Handled Control := cmdObtainVariable s e .mute "CurrentMute"

def getVolume (e : ActionEvent) : Handled Control := cmdObtainVariable s e .volume "CurrentVolume"

def upnpControlSetMute (value : ℤ) : Control × ℤ :=
  let r := outputSilanSetMute env s.silan value
  (⟨s.vars.replaceVar .mute (if value = 0 then "0" else "1"), r.1⟩, r.2)

def setMute (e : ActionEvent) : Handled Control :=
  match upnpGetString e "DesiredMute" with
  | (e, none) => ⟨e, s, -1⟩
  | (e, some value) =>
    let r := upnpControlSetMute env s (atoi value)
    ⟨e, r.1, r.2⟩

def upnpControlSetVolume (value : ℤ) : Control × ℤ :=
  let value := if value < volumeRangeMin then volumeRangeMin else value
  let value := if value > volumeRangeMax then volumeRangeMax else value
  let r := outputSilanSetVolume env s.silan value
  (⟨s.vars.replaceVar .volume (printInt value), r.1⟩, r.2)

def setVolume (e : ActionEvent) : Handled Control :=
  match upnpGetString e "DesiredVolume" with
  | (e, none) => ⟨e, s, -1⟩
  | (e, some value) =>
    let r := upnpControlSetVolume env s (atoi value)
    ⟨e, r.1, r.2⟩

/-- The actions of the service. -/
inductive ControlCmd where
  | listPresets
  | getMute
  | setMute
  | getVol
  | setVol
  deriving DecidableEq

/-- The handler that `control_actions` gives for an action. -/
def controlActions (e : ActionEvent) : ControlCmd → Handled Control
  | .listPresets => listPresets s e
  | .getMute => getMute s e
  | .setMute => setMute env s e
  | .getVol => getVolume s e
  | .setVol => setVolume env s e

/-- The volume and mute keys of `output_silan_loop`. -/
def volumeKey (dir : ℤ) : Control :=
  if (dir > 0 ∧ s.silan.volume < 100) ∨ (dir < 0 ∧ s.silan.volume > 0) then
    let volume := volumeChange s.silan.volume dir
    (upnpControlSetVolume env { s with silan := { s.silan with volume := volume } } volume).1
  else s

def muteKey : Control :=
  (upnpControlSetMute env s (if s.silan.mute = 0 then 1 else 0)).1

end Handlers

section Outputs

variable (env : Env) (s : Control)

/-- The volume that is set for a number: the nearest one in the range. -/
def clampVolume (value : ℤ) : ℤ := max volumeRangeMin (min volumeRangeMax value)

/-- The volume is stored in both places and the mute is lifted, whether or not the player can
be told. -/
theorem upnpControlSetVolume_eq (value : ℤ) : upnpControlSetVolume env s value =
    (⟨s.vars.replaceVar .volume (printInt (clampVolume value)),
      { s.silan with mute := 0, volume := clampVolume value }.record
        ⟨.slmpSetVolume, clampVolume value, none, (env .slmpSetVolume).msgsnd⟩⟩,
      if (env .slmpSetVolume).msgsnd then 0 else -1) := by
  have hclamp : (if (if value < volumeRangeMin then volumeRangeMin else value) > volumeRangeMax
      then volumeRangeMax else if value < volumeRangeMin then volumeRangeMin else value) =
      clampVolume value := by
    simp only [clampVolume, volumeRangeMin, volumeRangeMax]
    split_ifs <;> omega
  simp only [upnpControlSetVolume, hclamp, outputSilanSetVolume]
  rw [sendCmd_of_bit_none env _ .slmpSetVolume _ _ rfl]

/-- The mute is stored as it is given; the player is told if that is a change. -/
theorem upnpControlSetMute_fst (value : ℤ) : ∃ sent,
    (upnpControlSetMute env s value).1 =
      ⟨s.vars.replaceVar .mute (if value = 0 then "0" else "1"),
        { s.silan with mute := value, sent := sent }⟩ := by
  by_cases hdiffer : ((value == 0) != (s.silan.mute == 0)) = true
  · simp only [upnpControlSetMute, outputSilanSetMute, hdiffer, if_true,
      sendCmd_of_bit_none env s.silan .slmpMute value none rfl]
    exact ⟨_, rfl⟩
  · simp only [upnpControlSetMute, outputSilanSetMute, hdiffer]
    exact ⟨s.silan.sent, rfl⟩

theorem upnpControlSetMute_snd (value : ℤ) : (upnpControlSetMute env s value).2 = 0 ↔
    (value = 0 ↔ s.silan.mute = 0) ∨ (env .slmpMute).msgsnd = true := by
  simp only [upnpControlSetMute, outputSilanSetMute,
    sendCmd_of_bit_none env s.silan .slmpMute value none rfl]
  split_ifs <;> simp_all

/-- The actions that report the variables change nothing. -/
theorem cmdObtainVariable_state (e : ActionEvent) (varnum : ControlVar) (paramname : String) :
    (cmdObtainVariable s e varnum paramname).state = s := by
  unfold cmdObtainVariable
  rcases upnpGetString e "InstanceID" with ⟨e', _ | id⟩ <;> rfl

/-- An action leaves the service as it is, or it sets the mute or the volume. -/
theorem controlActions_state (e : ActionEvent) (cmd : ControlCmd) :
    (controlActions env s e cmd).state = s ∨
      (∃ value, (controlActions env s e cmd).state = (upnpControlSetMute env s value).1) ∨
      ∃ value, (controlActions env s e cmd).state = (upnpControlSetVolume env s value).1 := by
  cases cmd with
  | listPresets | getMute | getVol => exact Or.inl (cmdObtainVariable_state s _ _ _)
  | setMute =>
    simp only [controlActions, setMute]
    rcases upnpGetString e "DesiredMute" with ⟨e', _ | value⟩
    · exact Or.inl rfl
    · exact Or.inr (Or.inl ⟨atoi value, rfl⟩)
  | setVol =>
    simp only [controlActions, setVolume]
    rcases upnpGetString e "DesiredVolume" with ⟨e', _ | value⟩
    · exact Or.inl rfl
    · exact Or.inr (Or.inr ⟨atoi value, rfl⟩)

end Outputs

/-- `upnp_control_init`: the variables take over the output module's volume and mute. -/
def upnpControlInit (d : SilanData) : Control :=
  let vars : Store ControlVar := ⟨controlDefaultValues, []⟩
  let vars := vars.replaceVar .volume (printInt d.volume)
  ⟨vars.replaceVar .mute (printInt d.mute), d⟩

end GMediaRender.UpnpControl
