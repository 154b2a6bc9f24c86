import GMediaRender.ControlInvariants
import GMediaRender.EventReader

/-!
The RenderingControl service over its variable container, as its controllers see it. Actions and
the volume and mute keys change volume and mute in transactions; what a controller has read from
the events it was sent is what the actions would answer it, and its volume is the one of the
output module.
-/
namespace GMediaRender.ControlView

open XmlDoc XmlReader VariableContainer LastChangeStream Subscription UpdateLog EventHistory
  EventReader StateVariables ActionRequest OutputSilan UpnpTime UpnpControl ControlInvariants
  RendererSystem Runs

section Code

/-- The service with its container and its collector. -/
structure ControlService where
  eventing : Eventing ControlVar
  silan : SilanData

variable (S : Node → String) (env : Env) (s : ControlService)

def serviceLock : ControlService := { s with eventing := VariableContainer.start s.eventing }

def serviceUnlock : Option ControlService :=
  (VariableContainer.finish controlTable S s.eventing).map fun e => { s with eventing := e }

def replaceVar (i : ControlVar) (value : String) : Option ControlService :=
  (VariableContainer.change controlTable S s.eventing i (some value)).map
    fun r => { s with eventing := r.1 }

def cmdObtainVariable (e : ActionEvent) (varnum : ControlVar) (paramname : String) :
    Handled ControlService :=
  match upnpGetString e "InstanceID" with
  | (e, none) => ⟨e, s, -1⟩
  | (e, some _) => ⟨upnpAddResponse e paramname (s.eventing.values varnum), s, 0⟩

def upnpControlSetMute (value : ℤ) : Option (ControlService × ℤ) := do
  let s ← replaceVar S (serviceLock s) .mute (if value = 0 then "0" else "1")
  let r := outputSilanSetMute env s.silan value
  let s ← serviceUnlock S { s with silan := r.1 }
  pure (s, r.2)

def upnpControlSetVolume (value : ℤ) : Option (ControlService × ℤ) := do
  let value := if value < volumeRangeMin then volumeRangeMin else value
  let value := if value > volumeRangeMax then volumeRangeMax else value
  let s ← replaceVar S (serviceLock s) .volume (printInt value)
  let r := outputSilanSetVolume env s.silan value
  let s ← serviceUnlock S { s with silan := r.1 }
  pure (s, r.2)

/-- `set_mute` and `set_volume`: an argument is passed on as a number. -/
def setNumber (e : ActionEvent) (key : String)
    (set : ℤ → Option (ControlService × ℤ)) : Option (Handled ControlService) :=
  match upnpGetString e key with
  | (e, none) => some ⟨e, s, -1⟩
  | (e, some value) => (set (atoi value)).map fun r => ⟨e, r.1, r.2⟩

def controlActions (e : ActionEvent) : ControlCmd → Option (Handled ControlService)
  | .listPresets => some (cmdObtainVariable s e .presetNameList "CurrentPresetNameList")
  | .getMute => some (cmdObtainVariable s e .mute "CurrentMute")
  | .setMute => setNumber s e "DesiredMute" (upnpControlSetMute S env s)
  | .getVol => some (cmdObtainVariable s e .volume "CurrentVolume")
  | .setVol => setNumber s e "DesiredVolume" (upnpControlSetVolume S env s)

def volumeKey (dir : ℤ) : Option ControlService :=
  if (dir > 0 ∧ s.silan.volume < 100) ∨ (dir < 0 ∧ s.silan.volume > 0) then
    let volume := volumeChange s.silan.volume dir
    (upnpControlSetVolume S env { s with silan := { s.silan with volume := volume } } volume).map
      Prod.fst
  else some s

def muteKey : Option ControlService :=
  (upnpControlSetMute S env s (if s.silan.mute = 0 then 1 else 0)).map Prod.fst

/-- `handle_action_request` opens a transaction of its own around an action. -/
def stepEvented (s : ControlService) : Label → Option (Option (ActionEvent × ℤ) × ControlService)
  | .action cmd doc env => do
    let r ← controlActions S env (serviceLock s) (newRequest doc) cmd
    let s ← serviceUnlock S r.state
    pure (some (r.event, r.rc), s)
  | .volumeUp env => (volumeKey S env s 1).map fun s => (none, s)
  | .volumeDown env => (volumeKey S env s (-1)).map fun s => (none, s)
  | .mute env => (muteKey S env s).map fun s => (none, s)

def runEvented (s : ControlService) :
    List Label → Option (List (Option (ActionEvent × ℤ)) × ControlService)
  | [] => some ([], s)
  | l :: ls =>
    (stepEvented S s l).bind fun r =>
      (runEvented r.2 ls).map fun rest => (r.1 :: rest.1, rest.2)

/-- `upnp_control_init` over the initialised output module -/
def controlInit (d : SilanData) : Option ControlService :=
  (newCollector controlTable S (upnpControlInit d).vars.values [] controlEventXmlNs).map fun e =>
    ⟨[ControlVar.aatChannel, .aatInstanceId, .aatPresetName].foldl (ignore controlTable) e, d⟩

end Code

section Refinement

/-- The event and the return code of an action on values. -/
def answer (c : Control) : Label → Option (ActionEvent × ℤ)
  | .action cmd doc env =>
    some ((UpnpControl.controlActions env c (newRequest doc) cmd).event,
      (UpnpControl.controlActions env c (newRequest doc) cmd).rc)
  | .volumeUp _ | .volumeDown _ | .mute _ => none

def answers (c : Control) : List Label → List (Option (ActionEvent × ℤ))
  | [] => []
  | l :: ls => answer c l :: answers (step c l) ls

/-- The container has come from `e₀`, and its variables were given values of plain characters. -/
def PlainSince (S : Node → String) (e₀ e : Eventing ControlVar) : Prop :=
  ∃ log, Evolves controlTable S e₀ log e ∧ ∀ c ∈ log, PlainText c.newValue

/-- The service holds the state on values, in `n` transactions, and has come from `e₀`. -/
structure Follows (S : Node → String) (e₀ : Eventing ControlVar) (s : ControlService)
    (c : Control) (n : ℕ) : Prop where
  silan : s.silan = c.silan
  values : ∀ i, i ≠ .lastChange → s.eventing.values i = c.vars.values i
  settled : ∃ p, Settled controlTable S controlEventXmlNs s.eventing p
  transactions : s.eventing.collector.openTransactions = n
  evolves : PlainSince S e₀ s.eventing

theorem plainText_printInt (n : ℤ) : PlainText (printInt n) := by
  have hdigits (m : ℕ) : ∀ c ∈ Nat.toDigits 10 m, plainChar c = true := by
    intro c hc
    have hdigit := Nat.isDigit_of_mem_toDigits (by decide) (by decide) hc
    exact plainChar_of_nameChar (by simp [nameChar, Char.isAlphanum, hdigit])
  cases n with
  | ofNat m =>
    have hlist : (printInt (Int.ofNat m)).toList = Nat.toDigits 10 m := Nat.toList_repr
    rw [PlainText, hlist]
    exact List.all_eq_true.mpr (hdigits m)
  | negSucc m =>
    have hlist : (printInt (Int.negSucc m)).toList = '-' :: Nat.toDigits 10 (m + 1) := by
      simp [printInt, toString, Int.repr]
    rw [PlainText, hlist, List.all_cons, Bool.and_eq_true]
    exact ⟨by decide, List.all_eq_true.mpr (hdigits (m + 1))⟩

variable {S : Node → String} {e₀ : Eventing ControlVar} {s : ControlService} {c : Control} {n : ℕ}
variable (hinj : InjectiveTexts controlTable S controlEventXmlNs)

theorem Follows.lock (h : Follows S e₀ s c n) : Follows S e₀ (serviceLock s) c (n + 1) := by
  obtain ⟨p, hset⟩ := h.settled
  obtain ⟨log, hevolves, hplain⟩ := h.evolves
  refine ⟨h.silan, h.values, ⟨p, hset.represents.setOpen _, hset.registered, fun hidle => ?_⟩, ?_,
    log, hevolves.start, hplain⟩
  · simp [serviceLock, VariableContainer.start, Collector.start] at hidle
  · simp [serviceLock, VariableContainer.start, Collector.start, h.transactions]

theorem Follows.setSilan (h : Follows S e₀ s c n) (d : SilanData) :
    Follows S e₀ { s with silan := d } { c with silan := d } n :=
  ⟨rfl, h.values, h.settled, h.transactions, h.evolves⟩

include hinj

theorem Follows.unlock (h : Follows S e₀ s c (n + 1)) :
    ∃ s', serviceUnlock S s = some s' ∧ Follows S e₀ s' c n := by
  obtain ⟨p, hset⟩ := h.settled
  have hopened : 1 ≤ s.eventing.collector.openTransactions := by
    have := h.transactions
    omega
  obtain ⟨e, he, hcore, hset'⟩ := hset.finish hinj hopened
  obtain ⟨log, hevolves, hplain⟩ := h.evolves
  have hfinish : VariableContainer.finish controlTable S s.eventing = some e := he
  refine ⟨{ s with eventing := e }, by rw [serviceUnlock, hfinish, Option.map_some], h.silan,
    fun i hi => ?_, ⟨_, hset'⟩, ?_, log, hevolves.finish hfinish, hplain⟩
  · have hne : i ≠ s.eventing.collector.lastChangeVariableNum := by
      rw [hset.represents.lastChange]
      exact hi
    exact ((congrFun (congrArg Core.values hcore) i).trans (core_notify_values S _ i hne)).trans
      (h.values i hi)
  · obtain ⟨b, hb⟩ := Core.notify_collector S { s.eventing.toCore with collector :=
      { s.eventing.collector with
        openTransactions := s.eventing.collector.openTransactions - 1 } }
    have hcollector := (congrArg Core.collector hcore).trans hb
    have hopen : e.collector.openTransactions =
        s.eventing.collector.openTransactions - 1 :=
      congrArg Collector.openTransactions hcollector
    change e.collector.openTransactions = n
    rw [hopen, h.transactions, Nat.add_sub_cancel]

theorem Follows.replaceVar (h : Follows S e₀ s c n) {i : ControlVar}
    (hname : controlTable.name i ≠ none) (hi : i ≠ .lastChange) {value : String}
    (hvalue : PlainText value) :
    ∃ s', ControlView.replaceVar S s i value = some s' ∧
      Follows S e₀ s' { c with vars := c.vars.replaceVar i value } n := by
  obtain ⟨p, hset⟩ := h.settled
  obtain ⟨e, p', he, hcore, hset', -⟩ := hset.change hinj i (some value) hname hi
  obtain ⟨r, hr, rfl⟩ := Option.map_eq_some_iff.mp he
  obtain ⟨log, hevolves, hplain⟩ := h.evolves
  refine ⟨{ s with eventing := r.1 }, by rw [ControlView.replaceVar, hr, Option.map_some], h.silan,
    fun j hj => ?_, ⟨p', hset'⟩, ?_, _, hevolves.change i (some value) hname hi he, ?_⟩
  · have hne : j ≠ s.eventing.collector.lastChangeVariableNum := by
      rw [hset.represents.lastChange]
      exact hj
    have hvalue : r.1.values j = Function.update s.eventing.values i value j :=
      (congrFun (congrArg Core.values hcore) j).trans
        (core_change_values controlTable S _ i value hname j hne)
    rw [hvalue, Store.replaceVar_values]
    by_cases hji : j = i
    · rw [hji, Function.update_self, Function.update_self]
    · rw [Function.update_of_ne hji, Function.update_of_ne hji, h.values j hj]
  · obtain ⟨b, hb⟩ := Core.change_collector controlTable S s.eventing.toCore i value
    have hcollector := (congrArg Core.collector hcore).trans hb
    exact (congrArg Collector.openTransactions hcollector).trans h.transactions
  · rw [Store.replaceVar_changes]
    intro change hchange
    rcases List.mem_append.mp hchange with hchange | hchange
    · exact hplain change hchange
    · split_ifs at hchange
      · cases hchange
      · obtain rfl := List.mem_singleton.mp hchange
        exact hvalue

theorem Follows.setMute (h : Follows S e₀ s c n) (env : Env) (value : ℤ) :
    ∃ s', upnpControlSetMute S env s value =
        some (s', (UpnpControl.upnpControlSetMute env c value).2) ∧
      Follows S e₀ s' (UpnpControl.upnpControlSetMute env c value).1 n := by
  have hplain : PlainText (if value = 0 then "0" else "1") := by split_ifs <;> decide
  obtain ⟨s₁, hs₁, h₁⟩ := h.lock.replaceVar hinj (i := .mute) (by decide) (by decide) hplain
  have hsilan : s₁.silan = c.silan := h₁.silan
  obtain ⟨s₂, hs₂, h₂⟩ :=
    (h₁.setSilan (outputSilanSetMute env c.silan value).1).unlock hinj
  refine ⟨s₂, ?_, h₂⟩
  simp only [upnpControlSetMute, hs₁, hsilan, hs₂, Option.bind_eq_bind, Option.bind_some,
    Option.pure_def]
  rfl

theorem Follows.setVolume (h : Follows S e₀ s c n) (env : Env) (value : ℤ) :
    ∃ s', upnpControlSetVolume S env s value =
        some (s', (UpnpControl.upnpControlSetVolume env c value).2) ∧
      Follows S e₀ s' (UpnpControl.upnpControlSetVolume env c value).1 n := by
  let clamped := if (if value < volumeRangeMin then volumeRangeMin else value) > volumeRangeMax
    then volumeRangeMax else if value < volumeRangeMin then volumeRangeMin else value
  obtain ⟨s₁, hs₁, h₁⟩ := h.lock.replaceVar hinj (i := .volume) (by decide) (by decide)
    (plainText_printInt clamped)
  have hsilan : s₁.silan = c.silan := h₁.silan
  obtain ⟨s₂, hs₂, h₂⟩ :=
    (h₁.setSilan (outputSilanSetVolume env c.silan clamped).1).unlock hinj
  refine ⟨s₂, ?_, h₂⟩
  simp only [clamped] at hs₁ hs₂
  simp only [upnpControlSetVolume, hs₁, hsilan, hs₂, Option.bind_eq_bind, Option.bind_some,
    Option.pure_def]
  rfl

/-- Two outcomes of a handler with the same event and return code, and the same state. -/
structure Agrees (S : Node → String) (e₀ : Eventing ControlVar) (r : Handled ControlService)
    (r' : Handled Control) (n : ℕ) : Prop where
  event : r.event = r'.event
  rc : r.rc = r'.rc
  state : Follows S e₀ r.state r'.state n

omit hinj in
theorem Follows.obtainVariable (h : Follows S e₀ s c n) (e : ActionEvent) (varnum : ControlVar)
    (hvar : varnum ≠ .lastChange) (paramname : String) :
    Agrees S e₀ (cmdObtainVariable s e varnum paramname)
      (UpnpControl.cmdObtainVariable c e varnum paramname) n := by
  unfold cmdObtainVariable UpnpControl.cmdObtainVariable
  rcases upnpGetString e "InstanceID" with ⟨e', _ | id⟩
  · exact ⟨rfl, rfl, h⟩
  · refine ⟨?_, rfl, h⟩
    simp only [upnpAppendVariable, h.values varnum hvar]

theorem Follows.actions (h : Follows S e₀ s c n) (env : Env) (e : ActionEvent) (cmd : ControlCmd) :
    ∃ r, controlActions S env s e cmd = some r ∧
      Agrees S e₀ r (UpnpControl.controlActions env c e cmd) n := by
  cases cmd with
  | listPresets => exact ⟨_, rfl, h.obtainVariable e .presetNameList (by decide) _⟩
  | getMute => exact ⟨_, rfl, h.obtainVariable e .mute (by decide) _⟩
  | getVol => exact ⟨_, rfl, h.obtainVariable e .volume (by decide) _⟩
  | setMute =>
    simp only [controlActions, setNumber, UpnpControl.controlActions, UpnpControl.setMute]
    rcases upnpGetString e "DesiredMute" with ⟨e', _ | value⟩
    · exact ⟨_, rfl, rfl, rfl, h⟩
    · obtain ⟨s', hs', h'⟩ := h.setMute hinj env (atoi value)
      simp only [hs', Option.map_some]
      exact ⟨_, rfl, rfl, rfl, h'⟩
  | setVol =>
    simp only [controlActions, setNumber, UpnpControl.controlActions, UpnpControl.setVolume]
    rcases upnpGetString e "DesiredVolume" with ⟨e', _ | value⟩
    · exact ⟨_, rfl, rfl, rfl, h⟩
    · obtain ⟨s', hs', h'⟩ := h.setVolume hinj env (atoi value)
      simp only [hs', Option.map_some]
      exact ⟨_, rfl, rfl, rfl, h'⟩

theorem Follows.volumeKey (h : Follows S e₀ s c n) (env : Env) (dir : ℤ) :
    ∃ s', ControlView.volumeKey S env s dir = some s' ∧
      Follows S e₀ s' (UpnpControl.volumeKey env c dir) n := by
  unfold ControlView.volumeKey UpnpControl.volumeKey
  rw [h.silan]
  split_ifs with hin
  · obtain ⟨s', hs', h'⟩ := (h.setSilan { c.silan with
      volume := volumeChange c.silan.volume dir }).setVolume hinj env
        (volumeChange c.silan.volume dir)
    exact ⟨s', by simp only [hs', Option.map_some], h'⟩
  · exact ⟨s, rfl, h⟩

theorem Follows.step (h : Follows S e₀ s c 0) (l : Label) :
    ∃ s', stepEvented S s l = some (answer c l, s') ∧
      Follows S e₀ s' (ControlInvariants.step c l) 0 := by
  cases l with
  | action cmd doc env =>
    obtain ⟨r, hr, hagrees⟩ := h.lock.actions hinj env (newRequest doc) cmd
    obtain ⟨s', hs', h'⟩ := hagrees.state.unlock hinj
    refine ⟨s', ?_, h'⟩
    simp only [stepEvented, hr, hs', hagrees.event, hagrees.rc, Option.bind_eq_bind,
      Option.bind_some, Option.pure_def, answer]
  | volumeUp env =>
    obtain ⟨s', hs', h'⟩ := h.volumeKey hinj env 1
    exact ⟨s', by rw [stepEvented, hs', Option.map_some]; rfl, h'⟩
  | volumeDown env =>
    obtain ⟨s', hs', h'⟩ := h.volumeKey hinj env (-1)
    exact ⟨s', by rw [stepEvented, hs', Option.map_some]; rfl, h'⟩
  | mute env =>
    obtain ⟨s', hs', h'⟩ := h.setMute hinj env (if s.silan.mute = 0 then 1 else 0)
    rw [h.silan] at hs' h'
    refine ⟨s', ?_, h'⟩
    simp only [stepEvented, muteKey, h.silan, hs', Option.map_some]
    rfl

theorem Follows.run (h : Follows S e₀ s c 0) (ls : List Label) :
    ∃ s', runEvented S s ls = some (answers c ls, s') ∧
      Follows S e₀ s' (Runs.run ControlInvariants.step c ls) 0 := by
  induction ls generalizing s c with
  | nil => exact ⟨s, rfl, h⟩
  | cons l ls ih =>
    obtain ⟨s₁, hs₁, h₁⟩ := h.step hinj l
    obtain ⟨s', hs', h'⟩ := ih h₁
    refine ⟨s', ?_, h'⟩
    simp only [runEvented, hs₁, hs', Option.bind_some, Option.map_some, answers]

end Refinement

section Start

theorem isName_controlVar (i : ControlVar) (name : String)
    (h : controlTable.name i = some name) : IsName name := by
  cases i <;> cases h <;> decide

theorem plainText_upnpControlInit (d : SilanData) (i : ControlVar) :
    PlainText ((upnpControlInit d).vars.values i) := by
  have hdefault : PlainText (controlDefaultValues i) := by cases i <;> decide
  by_cases hmute : i = .mute
  · subst hmute
    simp only [upnpControlInit, Store.replaceVar_values, Function.update_self]
    exact plainText_printInt _
  by_cases hvolume : i = .volume
  · subst hvolume
    simp only [upnpControlInit, Store.replaceVar_values, Function.update_of_ne hmute,
      Function.update_self]
    exact plainText_printInt _
  · simp only [upnpControlInit, Store.replaceVar_values, Function.update_of_ne hmute,
      Function.update_of_ne hvolume]
    exact hdefault

/-- Volume and mute are set before the collector is there. -/
theorem controlInit_follows (hdeclared : Declared S) (d : SilanData) : ∃ s,
    controlInit S d = some s ∧ Follows S s.eventing s (upnpControlInit d) 0 ∧
    ∀ i, s.eventing.collector.ignores controlTable i = true ↔
      i = .lastChange ∨ i ∈ [ControlVar.aatChannel, .aatInstanceId, .aatPresetName] := by
  have hlast : (upnpControlInit d).vars.values controlTable.lastChange =
      controlDefaultValues .lastChange := by
    simp [upnpControlInit, controlTable]
  have hfresh : (upnpControlInit d).vars.values controlTable.lastChange ≠
      text S controlEventXmlNs (initialEntries controlTable (upnpControlInit d).vars.values) :=
    hdeclared.fresh (by rw [hlast]; decide) _ _
  obtain ⟨e, p, hnew, hset, hidle, hmask, hvalues⟩ :=
    newCollector_start (by decide) (upnpControlInit d).vars.values hfresh
  let ignored : List ControlVar := [.aatChannel, .aatInstanceId, .aatPresetName]
  obtain ⟨hsame, hopen⟩ := ignore_same (T := controlTable) ignored e
  refine ⟨_, by rw [controlInit, hnew, Option.map_some], ⟨rfl, fun i hi => ?_,
    ⟨p, settled_ignore (by decide) hset ignored⟩, hopen.trans hidle, [], .refl, by simp⟩,
    fun i => ?_⟩
  · exact (congrFun hsame i).trans (hvalues i hi)
  · exact (ignores_ignore (by decide) ignored e i).trans (or_congr_left (hmask i))

/-- The variables that are ignored have no part in what subscribers are sent. -/
theorem argument_not_sent {i : ControlVar}
    (hi : i ∈ [ControlVar.aatChannel, .aatInstanceId, .aatPresetName]) {name : String}
    (hname : controlTable.name i = some name) : sendsVariable name = false := by
  have hcases : i = .aatChannel ∨ i = .aatInstanceId ∨ i = .aatPresetName := by simpa using hi
  rcases hcases with rfl | rfl | rfl
  · cases hname
    decide
  · cases hname
    decide
  · cases hname
    decide

/-- The variable shows the volume of the output module. -/
theorem volume_shown_step (c : Control)
    (h : c.vars.values .volume = printInt c.silan.volume) (l : Label) :
    (step c l).vars.values .volume = printInt (step c l).silan.volume := by
  have hcopies := copies_step c l
  have hvar : (step c l).vars.values .volume = (copies (step c l)).volumeVar := rfl
  have hmodule : (step c l).silan.volume = (copies (step c l)).volume := rfl
  rw [hvar, hmodule, hcopies]
  cases l.setting c with
  | none => exact h
  | some setting =>
    cases setting with
    | volume value => rfl
    | mute value => exact h

theorem volume_shown (d : SilanData) (ls : List Label) :
    (run step (upnpControlInit d) ls).vars.values .volume =
      printInt (run step (upnpControlInit d) ls).silan.volume := by
  refine run_invariant (I := fun c => c.vars.values .volume = printInt c.silan.volume) step
    (fun c l h => volume_shown_step c h l) ?_ ls
  simp [upnpControlInit]

end Start

/-- The RenderingControl service as a controller sees it, which subscribes after any run of
actions and of volume and mute keys from start-up, between two of them: after every further run it
has read the values that the service answers with, and its volume is the one of the output module.
`S` writes the documents and `parse` is the controller's parser. -/
theorem control_view {S : Node → String} {parse : String → Option Node}
    (hinj : InjectiveTexts controlTable S controlEventXmlNs) (hdeclared : Declared S)
    (hparse : ReadsBack S parse) (env : Env) (padmux volume mute : ℤ) (ls ls' : List Label) :
    ∃ s₀ s s' view,
      controlInit S (outputSilanInit env padmux volume mute) = some s₀ ∧
      runEvented S s₀ ls = some (answers (upnpControlInit
        (outputSilanInit env padmux volume mute)) ls, s) ∧
      runEvented S s ls' = some (answers (run step (upnpControlInit
        (outputSilanInit env padmux volume mute)) ls) ls', s') ∧
      readCopy parse ((initialDocument S (takeSnapshot controlTable controlEventXmlNs
        s.eventing.values)).toList ++ s'.eventing.notified.drop s.eventing.notified.length) =
          some view ∧
      (∀ i name, controlTable.name i = some name → sendsVariable name = true →
        view name = some ((run step (upnpControlInit (outputSilanInit env padmux volume mute))
          (ls ++ ls')).vars.values i)) ∧
      view "Volume" = some (printInt s'.silan.volume) := by
  let d := outputSilanInit env padmux volume mute
  let c := upnpControlInit d
  obtain ⟨s₀, hs₀, h₀, hignored⟩ := controlInit_follows hdeclared d
  obtain ⟨s, hs, h⟩ := h₀.run hinj ls
  have hfrom : Follows S s.eventing s (run step c ls) 0 :=
    ⟨h.silan, h.values, h.settled, h.transactions, [], .refl, by simp⟩
  obtain ⟨s', hs', h'⟩ := hfrom.run hinj ls'
  obtain ⟨p₀, hset₀⟩ := h₀.settled
  obtain ⟨log, hevolves, hplain⟩ := h.evolves
  obtain ⟨p₁, -, -, hmask, hall⟩ := hevolves.settled hinj hset₀
  have hvalues₀ := (hall PlainText p₀.sent.length hplain (allOf_idle hset₀ h₀.transactions
    fun i hi => h₀.values i hi ▸ plainText_upnpControlInit d i)).values
  obtain ⟨p, hset⟩ := h.settled
  obtain ⟨log', hevolves', hplain'⟩ := h'.evolves
  obtain ⟨-, -, -, hmask', -⟩ := hevolves'.settled hinj hset
  have hns : PlainText controlEventXmlNs := by decide
  obtain ⟨view, hread, hview⟩ := readCopy_late hparse hns isName_controlVar hinj hset
    h.transactions hevolves' h'.transactions hvalues₀ hplain'
  have hvalues : ∀ i name, controlTable.name i = some name → sendsVariable name = true →
      view name = some ((run step c (ls ++ ls')).vars.values i) := by
    intro i name hi hsends
    have hne : i ≠ .lastChange := sendsVariable_ne hi hsends
    have hsame : s'.eventing.collector.ignores controlTable i =
        s₀.eventing.collector.ignores controlTable i := by
      rw [Collector.ignores, Collector.ignores, hmask', hmask]
    have hheard : s'.eventing.collector.ignores controlTable i = false := by
      rw [hsame, ← Bool.not_eq_true, hignored]
      rintro (hlast | hmem)
      · exact hne hlast
      · rw [argument_not_sent hmem hi] at hsends
        cases hsends
    rw [hview i name ⟨hi, hsends, hheard⟩, h'.values i hne, run_append]
  refine ⟨s₀, s, s', view, hs₀, hs, hs', hread, hvalues, ?_⟩
  rw [hvalues .volume "Volume" rfl (by decide), volume_shown, run_append, ← h'.silan]

theorem control_view_keys : ∃ s₀ s s' view,
    controlInit ixmlDocumentToString (outputSilanInit allSent 0 50 0) = some s₀ ∧
    runEvented ixmlDocumentToString s₀ [.volumeUp allSent] = some ([none], s) ∧
    runEvented ixmlDocumentToString s [.mute allSent, .volumeUp allSent] =
      some ([none, none], s') ∧
    readCopy readDocument ((initialDocument ixmlDocumentToString (takeSnapshot controlTable
      controlEventXmlNs s.eventing.values)).toList ++
        s'.eventing.notified.drop s.eventing.notified.length) = some view ∧
    view "Volume" = some "59" ∧ view "Mute" = some "1" := by
  obtain ⟨s₀, s, s', view, hs₀, hs, hs', hread, hview, -⟩ :=
    control_view (injectiveTexts_of_names _ isName_controlVar) declared_ixmlDocumentToString
      readsBack_readDocument allSent 0 50 0 [.volumeUp allSent] [.mute allSent, .volumeUp allSent]
  refine ⟨s₀, s, s', view, hs₀, hs, hs', hread, ?_, ?_⟩
  · rw [hview .volume "Volume" rfl (by decide)]
    decide
  · rw [hview .mute "Mute" rfl (by decide)]
    decide

end GMediaRender.ControlView
