import GMediaRender.UpnpDevice

/-!
How failures of action requests are reported. A handler tells of a failure by its return
code and by `upnp_set_error`; the controller sees ErrCode. Whether the two agree depends on
the arguments of the request and on what the output module is able to do.
-/
namespace GMediaRender.ErrorReports

open XmlDoc StateVariables ActionRequest OutputSilan UpnpTime UpnpTransport UpnpControl
  UpnpConnmgr RendererSystem UpnpDevice

/-- A request as it reaches the device, with what `UpnpAddToActionResponse` fails for. -/
def request (doc : Option (List Node)) (addError : String → Option String) : ActionEvent :=
  { newRequest doc with addError := addError }

/-- ErrCode is success exactly when the handler has returned 0 without an error, and it is the
code of every error that the handler has set. -/
def Reports {σ : Type} (r : Handled σ) (errCode : ℤ) : Prop :=
  (errCode = upnpESuccess ↔ r.rc = 0 ∧ r.event.errors = []) ∧ ∀ c ∈ r.event.errors, errCode = c

/-- The device reports what the callback of the action has done. -/
def Faithful (env : Env) (s : Device) (e : ActionEvent) (a : DeviceAction) : Prop :=
  Reports (callback env s e a) (handleActionRequest env s e a.serviceId a.actionName).event.errCode

section Conditions

variable (doc : Option (List Node)) (addError : String → Option String) (env : Env)

/-- The request has an argument with content. -/
def Given (key : String) : Prop := (argument doc key).isSome = true

variable {doc} in
theorem given_of_some {key value : String} (h : argument doc key = some value) : Given doc key := by
  simp [Given, h]

variable {doc} in
theorem not_given_of_none {key : String} (h : argument doc key = none) : ¬ Given doc key := by
  simp [Given, h]

/-- The player can be told to play: the URI that was set, or what it has paused. -/
def Playable (d : SilanData) : Prop :=
  (d.uri ≠ none ∧ (env .slmpPlayUri).msgsnd = true) ∨
    (d.uri = none ∧ d.state = slmpStatePause ∧ (env .slmpPause).msgsnd = true)

theorem outputSilanPlay_snd (d : SilanData) : (outputSilanPlay env d).2 = 0 ↔ Playable env d := by
  unfold Playable
  cases huri : d.uri with
  | some uri =>
    rw [outputSilanPlay_some env d uri huri]
    simp
  | none =>
    rw [outputSilanPlay_none env d huri, outputSilanPause_eq]
    split_ifs <;> simp_all

/-- When the outcome of an AVTransport action with an instance is reported. -/
def TransportReported (s : AvTransport) : TransportCmd → Prop
  | .setAvTransportUri =>
    Given doc "CurrentURI" ∧ hasArgument doc "CurrentURIMetaData" = true
  | .setNextAvTransportUri => Given doc "NextURI" ∧ Given doc "NextURIMetaData"
  | .stop => s.transportState ≠ .noMediaPresent
  | .play => s.transportState = .playing ∨
      ((s.transportState = .stopped ∨ s.transportState = .pausedPlayback) ∧ Playable env s.silan)
  | .pause => s.transportState = .pausedPlayback ∨
      (s.transportState = .playing ∧ (env .slmpPause).msgsnd = true)
  | .seek => Given doc "Unit" ∧ (argument doc "Unit" = some "REL_TIME" → Given doc "Target")
  | _ => True

/-- When the outcome of a RenderingControl action is reported. -/
def ControlReported (d : SilanData) : ControlCmd → Prop
  | .setMute => ∃ value, argument doc "DesiredMute" = some value ∧
      ((atoi value = 0 ↔ d.mute = 0) ∨ (env .slmpMute).msgsnd = true)
  | .setVol => Given doc "DesiredVolume" ∧ (env .slmpSetVolume).msgsnd = true
  | _ => Given doc "InstanceID"

/-- When the outcome of a ConnectionManager action is reported: the failure of
GetCurrentConnectionIDs only if libupnp has failed as well. -/
def ConnmgrReported : ConnmgrCmd → Prop
  | .getCurrentConnectionIds => addError "ConnectionIDs" ≠ none
  | .setCurrentConnectionInfo => Given doc "ConnectionID"
  | _ => True

def Reported (s : Device) : DeviceAction → Prop
  | .renderer (.transport cmd) =>
    Given doc "InstanceID" ∧ TransportReported doc env s.renderer.transport cmd
  | .renderer (.control cmd) => ControlReported doc env s.renderer.silan cmd
  | .connmgr cmd => ConnmgrReported doc addError cmd

end Conditions

section Endings

variable {σ : Type} {r : Handled σ}

/-- The report of a handler by `handle_action_request`. -/
def Told (r : Handled σ) : Prop := Reports r (finishRequest r.event r.rc).errCode

theorem told_of_accepted (hrc : r.rc = 0) (herrors : r.event.errors = []) : Told r := by
  simp [Told, Reports, finishRequest, hrc, herrors]

/-- An error is reported as success or as a failed action, never by its code. -/
theorem not_told_of_error (hcode : r.event.errCode = upnpSoapEActionFailed) (c : ℤ)
    (hc : c ∈ r.event.errors) (hsuccess : c ≠ upnpESuccess) (hfailed : c ≠ upnpSoapEActionFailed) :
    ¬ Told r := by
  intro h
  have hreport := h.2 c hc
  simp only [finishRequest, hcode] at hreport
  split_ifs at hreport
  · exact hsuccess hreport.symm
  · exact hfailed hreport.symm

/-- Without an error a failure is reported exactly if libupnp has left one. -/
theorem told_of_silent (hrc : r.rc ≠ 0) (herrors : r.event.errors = []) :
    Told r ↔ r.event.errCode ≠ upnpESuccess := by
  simp [Told, Reports, finishRequest, hrc, herrors]

/-- The event while nothing has gone wrong. -/
structure Clean (e : ActionEvent) : Prop where
  errors : e.errors = []
  errCode : e.errCode = upnpESuccess
  status : e.status = 0

theorem clean_request (doc : Option (List Node)) (addError : String → Option String) :
    Clean (request doc addError) := ⟨rfl, rfl, rfl⟩

variable {e e' : ActionEvent} {key : String}

theorem not_told_setError (e : ActionEvent) (code : ℤ) (text : String) (s : σ) (rc : ℤ)
    (hsuccess : code ≠ upnpESuccess) (hfailed : code ≠ upnpSoapEActionFailed) :
    ¬ Told (⟨upnpSetError e code text, s, rc⟩ : Handled σ) :=
  not_told_of_error rfl code (by simp [upnpSetError]) hsuccess hfailed

/-- A handler that gives up for want of an argument is reported as a success if the argument
is there without content. -/
theorem not_told_argument (he : Clean e) (h : upnpGetString e key = (e', none)) (s : σ) :
    ¬ Told (⟨e', s, -1⟩ : Handled σ) := by
  obtain ⟨-, ⟨-, rfl⟩ | ⟨-, text, rfl⟩⟩ := upnpGetString_none h
  · rw [told_of_silent (show (-1 : ℤ) ≠ 0 by decide) he.errors]
    exact not_not.mpr he.errCode
  · exact not_told_setError _ _ _ _ _ (by decide) (by decide)

/-- A handler that gives up on an argument reports nothing of what asks for the argument. -/
theorem told_missing (he : Clean e) (h : upnpGetString e key = (e', none)) (s : σ) {P : Prop}
    (hP : P → Given e.actionRequest key) : Told (⟨e', s, -1⟩ : Handled σ) ↔ P :=
  iff_of_false (not_told_argument he h s)
    fun hp => not_given_of_none (upnpGetString_none h).1 (hP hp)

@[simp] theorem upnpAddResponse_errors (e : ActionEvent) (key value : String) :
    (upnpAddResponse e key value).errors = e.errors := by
  unfold upnpAddResponse
  split_ifs
  · rfl
  · cases e.addError key <;> rfl

@[simp] theorem upnpAddResponse_status (e : ActionEvent) (key value : String) :
    (upnpAddResponse e key value).status = e.status := by
  unfold upnpAddResponse
  split_ifs
  · rfl
  · cases e.addError key <;> rfl

/-- Responses cause no error and leave the status as it is. -/
theorem appendVariables_clean {ι : Type} (vars : Store ι) (l : List (ι × String))
    (e : ActionEvent) : (appendVariables e vars l).errors = e.errors ∧
      (appendVariables e vars l).status = e.status := by
  induction l generalizing e with
  | nil => exact ⟨rfl, rfl⟩
  | cons v l ih =>
    obtain ⟨herrors, hstatus⟩ := ih (upnpAppendVariable e vars v.1 v.2)
    exact ⟨herrors.trans (upnpAddResponse_errors ..), hstatus.trans (upnpAddResponse_status ..)⟩

theorem told_appendVariables {ι : Type} (he : Clean e) (vars : Store ι) (l : List (ι × String))
    (s : σ) : Told (⟨appendVariables e vars l, s, 0⟩ : Handled σ) :=
  told_of_accepted rfl ((appendVariables_clean vars l e).1.trans he.errors)

theorem told_of_clean (he : Clean e) (s : σ) : Told (⟨e, s, 0⟩ : Handled σ) :=
  told_of_accepted rfl he.errors

/-- An argument that is looked up without giving up is an error only if it is missing. -/
theorem told_lookup (he : Clean e) (key : String) (s : σ) :
    Told (⟨(upnpGetString e key).1, s, 0⟩ : Handled σ) ↔
      hasArgument e.actionRequest key = true := by
  cases hget : upnpGetString e key with
  | mk e' arg =>
    cases arg with
    | none =>
      obtain ⟨-, ⟨harg, rfl⟩ | ⟨harg, text, rfl⟩⟩ := upnpGetString_none hget
      · exact iff_of_true (told_of_clean he s) harg
      · exact iff_of_false (not_told_setError _ _ _ _ _ (by decide) (by decide)) (by simp [harg])
    | some value =>
      obtain ⟨rfl, hvalue⟩ := upnpGetString_some hget
      refine iff_of_true (told_of_clean he s) ?_
      by_contra hmissing
      have hnone := argument_of_missing (by simpa using hmissing)
      exact absurd (hnone.symm.trans hvalue) (by simp)

end Endings

section Handlers

variable {e : ActionEvent}

theorem told_withInstanceid (s : AvTransport) (body : ActionEvent → Handled AvTransport) :
    Told (withInstanceid s e body) ↔ Given e.actionRequest "InstanceID" ∧ Told (body e) := by
  by_cases hgiven : Given e.actionRequest "InstanceID"
  · rw [withInstanceid_given s body e hgiven]
    exact (and_iff_right hgiven).symm
  · obtain ⟨e', -, hfails⟩ := withInstanceid_missing s body e hgiven
    rw [hfails]
    exact iff_of_false (not_told_setError _ _ _ _ _ (by decide) (by decide))
      fun h => hgiven h.1

variable (he : Clean e) (env : Env)
include he

theorem told_reportVariables (s : AvTransport) (l : List (TransportVar × String)) :
    Told (reportVariables s e l) ↔ Given e.actionRequest "InstanceID" ∧ True := by
  rw [reportVariables, told_withInstanceid]
  exact and_congr_right fun _ => iff_of_true (told_appendVariables he _ _ _) trivial

theorem told_setAvtransportUri (s : AvTransport) : Told (setAvtransportUri s e) ↔
    Given e.actionRequest "InstanceID" ∧
      TransportReported e.actionRequest env s .setAvTransportUri := by
  rw [setAvtransportUri, told_withInstanceid]
  refine and_congr_right fun _ => ?_
  cases hget : upnpGetString e "CurrentURI" with
  | mk e' arg =>
    cases arg with
    | none =>
      exact told_missing he hget s And.left
    | some uri =>
      obtain ⟨rfl, hvalue⟩ := upnpGetString_some hget
      have hgiven := given_of_some hvalue
      exact (told_lookup he "CurrentURIMetaData" _).trans (and_iff_right hgiven).symm

theorem told_setNextAvtransportUri (s : AvTransport) : Told (setNextAvtransportUri s e) ↔
    Given e.actionRequest "InstanceID" ∧
      TransportReported e.actionRequest env s .setNextAvTransportUri := by
  rw [setNextAvtransportUri, told_withInstanceid]
  refine and_congr_right fun _ => ?_
  cases hget : upnpGetString e "NextURI" with
  | mk e' arg =>
    cases arg with
    | none =>
      exact told_missing he hget s And.left
    | some uri =>
      obtain ⟨rfl, hvalue⟩ := upnpGetString_some hget
      cases hget' : upnpGetString e' "NextURIMetaData" with
      | mk e'' arg' =>
        simp only [hget']
        cases arg' with
        | none =>
          exact told_missing he hget' _ And.right
        | some metadata =>
          obtain ⟨rfl, hvalue'⟩ := upnpGetString_some hget'
          exact iff_of_true (told_of_clean he _) ⟨given_of_some hvalue, given_of_some hvalue'⟩

theorem told_stop (s : AvTransport) : Told (UpnpTransport.stop env s e) ↔
    Given e.actionRequest "InstanceID" ∧ TransportReported e.actionRequest env s .stop := by
  rw [UpnpTransport.stop, told_withInstanceid]
  refine and_congr_right fun _ => ?_
  unfold TransportReported
  cases s.transportState with
  | noMediaPresent =>
    exact iff_of_false (not_told_setError _ _ _ _ _ (by decide) (by decide)) fun h => h rfl
  | _ => exact iff_of_true (told_of_clean he _) (by simp)

theorem told_startPlaying (s : AvTransport) :
    Told (startPlaying env s e) ↔ Playable env s.silan := by
  rw [← outputSilanPlay_snd]
  unfold startPlaying
  by_cases hrc : (outputSilanPlay env s.silan).2 = 0
  · simp only [hrc, ne_eq, not_true_eq_false, if_false, iff_true]
    exact told_of_clean he _
  · simp only [hrc, ne_eq, not_false_eq_true, if_true, iff_false]
    exact not_told_setError _ _ _ _ _ (by decide) (by decide)

theorem told_play (s : AvTransport) : Told (UpnpTransport.play env s e) ↔
    Given e.actionRequest "InstanceID" ∧ TransportReported e.actionRequest env s .play := by
  rw [UpnpTransport.play, told_withInstanceid]
  refine and_congr_right fun _ => ?_
  unfold TransportReported
  cases s.transportState with
  | playing => exact iff_of_true (told_of_clean he _) (Or.inl rfl)
  | stopped => exact (told_startPlaying he env _).trans (by simp)
  | pausedPlayback => exact (told_startPlaying he env _).trans (by simp)
  | _ => exact iff_of_false (not_told_setError _ _ _ _ _ (by decide) (by decide)) (by simp)

theorem told_pauseStream (s : AvTransport) : Told (pauseStream env s e) ↔
    Given e.actionRequest "InstanceID" ∧ TransportReported e.actionRequest env s .pause := by
  rw [pauseStream, told_withInstanceid]
  refine and_congr_right fun _ => ?_
  unfold TransportReported
  cases s.transportState with
  | pausedPlayback => exact iff_of_true (told_of_clean he _) (Or.inl rfl)
  | playing =>
    simp only [outputSilanPause_eq]
    by_cases hsend : (env .slmpPause).msgsnd = true
    · simp only [hsend]
      exact iff_of_true (told_of_clean he _) (by simp)
    · simp only [hsend]
      exact iff_of_false (not_told_setError _ _ _ _ _ (by decide) (by decide)) (by simp)
  | _ => exact iff_of_false (not_told_setError _ _ _ _ _ (by decide) (by decide)) (by simp)

theorem told_seek (s : AvTransport) : Told (seek env s e) ↔
    Given e.actionRequest "InstanceID" ∧ TransportReported e.actionRequest env s .seek := by
  rw [seek, told_withInstanceid]
  refine and_congr_right fun _ => ?_
  cases hget : upnpGetString e "Unit" with
  | mk e' arg =>
    cases arg with
    | none =>
      exact told_missing he hget s And.left
    | some unit =>
      obtain ⟨rfl, hvalue⟩ := upnpGetString_some hget
      by_cases hunit : unit = "REL_TIME"
      · subst hunit
        simp only [if_true]
        cases hget' : upnpGetString e' "Target" with
        | mk e'' arg' =>
          cases arg' with
          | none =>
            exact told_missing he hget' s fun h => h.2 hvalue
          | some target =>
            obtain ⟨rfl, hvalue'⟩ := upnpGetString_some hget'
            exact iff_of_true (told_of_clean he _)
              ⟨given_of_some hvalue, fun _ => given_of_some hvalue'⟩
      · simp only [hunit, if_false]
        exact iff_of_true (told_of_clean he _)
          ⟨given_of_some hvalue, fun h => absurd (Option.some.inj (hvalue.symm.trans h)) hunit⟩

theorem told_transportActions (s : AvTransport) (cmd : TransportCmd) :
    Told (transportActions env s e cmd) ↔
      Given e.actionRequest "InstanceID" ∧ TransportReported e.actionRequest env s cmd := by
  cases cmd with
  | setAvTransportUri => exact told_setAvtransportUri he env s
  | setNextAvTransportUri => exact told_setNextAvtransportUri he env s
  | stop => exact told_stop he env s
  | play => exact told_play he env s
  | pause => exact told_pauseStream he env s
  | seek => exact told_seek he env s
  | getPositionInfo =>
    refine (told_withInstanceid s _).trans (and_congr_right fun _ => ?_)
    exact iff_of_true (told_appendVariables he _ _ _) trivial
  | _ => exact told_reportVariables he s _

theorem told_cmdObtainVariable (s : Control) (i : ControlVar) (paramname : String) :
    Told (cmdObtainVariable s e i paramname) ↔ Given e.actionRequest "InstanceID" := by
  unfold cmdObtainVariable
  cases hget : upnpGetString e "InstanceID" with
  | mk e' arg =>
    cases arg with
    | none =>
      exact told_missing he hget s id
    | some instanceId =>
      obtain ⟨rfl, hvalue⟩ := upnpGetString_some hget
      exact iff_of_true (told_appendVariables he s.vars [(i, paramname)] s) (given_of_some hvalue)

/-- A handler that passes on the return code of the output module reports it only if it is 0. -/
theorem told_rc {σ : Type} (s : σ) (rc : ℤ) : Told (⟨e, s, rc⟩ : Handled σ) ↔ rc = 0 := by
  by_cases hrc : rc = 0
  · subst hrc
    exact iff_of_true (told_of_clean he s) rfl
  · have hsilent : Told (⟨e, s, rc⟩ : Handled σ) ↔ e.errCode ≠ upnpESuccess :=
      told_of_silent hrc he.errors
    simp [hsilent, he.errCode, hrc]

theorem told_controlActions (s : Control) (cmd : ControlCmd) :
    Told (controlActions env s e cmd) ↔ ControlReported e.actionRequest env s.silan cmd := by
  cases cmd with
  | setMute =>
    change Told (setMute env s e) ↔ _
    unfold setMute
    cases hget : upnpGetString e "DesiredMute" with
    | mk e' arg =>
      cases arg with
      | none =>
        have hnone := (upnpGetString_none hget).1
        exact iff_of_false (not_told_argument he hget s) (by simp [ControlReported, hnone])
      | some value =>
        obtain ⟨rfl, hvalue⟩ := upnpGetString_some hget
        refine (told_rc he _ _).trans ((upnpControlSetMute_snd env s (atoi value)).trans ?_)
        simp [ControlReported, hvalue]
  | setVol =>
    change Told (setVolume env s e) ↔ _
    unfold setVolume
    cases hget : upnpGetString e "DesiredVolume" with
    | mk e' arg =>
      cases arg with
      | none =>
        exact told_missing he hget s And.left
      | some value =>
        obtain ⟨rfl, hvalue⟩ := upnpGetString_some hget
        refine (told_rc he _ _).trans ?_
        simp [upnpControlSetVolume_eq, ControlReported, given_of_some hvalue]
  | _ => exact told_cmdObtainVariable he s _ _

theorem told_connmgrActions (s : Store ConnmgrVar) (cmd : ConnmgrCmd) :
    Told (connmgrActions s e cmd) ↔ ConnmgrReported e.actionRequest e.addError cmd := by
  cases cmd with
  | getProtocolInfo =>
    have hclean := appendVariables_clean s [(.srcProtoInfo, "Source"), (.sinkProtoInfo, "Sink")] e
    exact iff_of_true
      (told_of_accepted (hclean.2.trans he.status) (hclean.1.trans he.errors)) trivial
  | getCurrentConnectionIds =>
    refine (told_of_silent (show (-1 : ℤ) ≠ 0 by decide)
      ((upnpAddResponse_errors ..).trans he.errors)).trans ?_
    have hstatus := he.status
    cases hadd : e.addError "ConnectionIDs" with
    | none =>
      simp [connmgrActions, getCurrentConnIds, upnpAddResponse, ConnmgrReported, hstatus, hadd,
        he.errCode]
    | some message =>
      simp [connmgrActions, getCurrentConnIds, upnpAddResponse, ConnmgrReported, hstatus, hadd,
        upnpSoapEActionFailed, upnpESuccess]
  | setCurrentConnectionInfo =>
    change Told (getCurrentConnInfo s e) ↔ _
    unfold getCurrentConnInfo
    cases hget : upnpGetString e "ConnectionID" with
    | mk e' arg =>
      cases arg with
      | none =>
        exact told_missing he hget s id
      | some value =>
        obtain ⟨rfl, hvalue⟩ := upnpGetString_some hget
        exact iff_of_true (told_appendVariables he _ _ _) (given_of_some hvalue)
  | prepareForConnection => exact iff_of_true (told_appendVariables he _ _ _) trivial

end Handlers

section Main

variable (env : Env) (s : Device) (doc : Option (List Node)) (addError : String → Option String)

theorem faithful_iff_told (e : ActionEvent) (a : DeviceAction) :
    Faithful env s e a ↔ Told (callback env s e a) := by
  simp only [Faithful, Told, handleActionRequest, findAction_actionName]

/-- What happened to a request is reported, whatever the action, the state and the request,
exactly when the handler had no occasion to fail without a code or to set an error. -/
theorem faithful_iff (a : DeviceAction) :
    Faithful env s (request doc addError) a ↔ Reported doc addError env s a := by
  have he := clean_request doc addError
  rw [faithful_iff_told]
  rcases a with (cmd | cmd) | cmd
  · exact told_transportActions he env s.renderer.transport cmd
  · exact told_controlActions he env s.renderer.controlPart cmd
  · exact told_connmgrActions he s.connmgr cmd

/-- The device after start-up. -/
def started : Device := ⟨startUp allSent 0 50 0, ⟨connmgrDefaultValues, []⟩⟩

/-- A Pause while nothing plays is refused with 701, which the controller is not told. -/
theorem not_faithful_pause : ¬ Faithful allSent started
    (request (requestDoc "Pause" [("InstanceID", "0")]) fun _ => none)
    (.renderer (.transport .pause)) := by
  rw [faithful_iff_told]
  exact not_told_of_error rfl upnpTransportETransitionNa (List.mem_singleton.mpr rfl) (by decide)
    (by decide)

end Main

end GMediaRender.ErrorReports
