import GMediaRender.ErrorReports

/-!
The argument lists that the services publish, and the responses that the handlers make. A
list and a handler are written independently; the response matches the list unless the
handler reads another variable than the one declared, or leaves arguments out.
-/
namespace GMediaRender.Signatures

open XmlDoc StateVariables ActionRequest OutputSilan UpnpTransport UpnpControl UpnpConnmgr
  RendererSystem UpnpDevice ErrorReports

section Tables

inductive ParamDir where
  | dirIn
  | dirOut
  deriving DecidableEq

/-- `struct argument` -/
structure Argument (ι : Type) where
  name : String
  direction : ParamDir
  statevar : ι

/-- The `argument_list` of upnp_transport.c. -/
def transportArguments : TransportCmd → List (Argument TransportVar)
  | .setAvTransportUri => [⟨"InstanceID", .dirIn, .aatInstanceId⟩,
      ⟨"CurrentURI", .dirIn, .avUri⟩, ⟨"CurrentURIMetaData", .dirIn, .avUriMeta⟩]
  | .getDeviceCapabilities => [⟨"InstanceID", .dirIn, .aatInstanceId⟩,
      ⟨"PlayMedia", .dirOut, .playMedia⟩, ⟨"RecMedia", .dirOut, .recMedia⟩,
      ⟨"RecQualityModes", .dirOut, .posRecQualMode⟩]
  | .getMediaInfo => [⟨"InstanceID", .dirIn, .aatInstanceId⟩, ⟨"NrTracks", .dirOut, .nrTracks⟩,
      ⟨"MediaDuration", .dirOut, .curMediaDur⟩, ⟨"CurrentURI", .dirOut, .avUri⟩,
      ⟨"CurrentURIMetaData", .dirOut, .avUriMeta⟩, ⟨"NextURI", .dirOut, .nextAvUri⟩,
      ⟨"NextURIMetaData", .dirOut, .nextAvUriMeta⟩, ⟨"PlayMedium", .dirOut, .playMedium⟩,
      ⟨"RecordMedium", .dirOut, .recMedium⟩, ⟨"WriteStatus", .dirOut, .recMediumWrStatus⟩]
  | .setNextAvTransportUri => [⟨"InstanceID", .dirIn, .aatInstanceId⟩,
      ⟨"NextURI", .dirIn, .nextAvUri⟩, ⟨"NextURIMetaData", .dirIn, .nextAvUriMeta⟩]
  | .getTransportInfo => [⟨"InstanceID", .dirIn, .aatInstanceId⟩,
      ⟨"CurrentTransportState", .dirOut, .transportState⟩,
      ⟨"CurrentTransportStatus", .dirOut, .transportStatus⟩,
      ⟨"CurrentSpeed", .dirOut, .transportPlaySpeed⟩]
  | .getPositionInfo => [⟨"InstanceID", .dirIn, .aatInstanceId⟩, ⟨"Track", .dirOut, .curTrack⟩,
      ⟨"TrackDuration", .dirOut, .curTrackDur⟩, ⟨"TrackMetaData", .dirOut, .curTrackMeta⟩,
      ⟨"TrackURI", .dirOut, .curTrackUri⟩, ⟨"RelTime", .dirOut, .relTimePos⟩,
      ⟨"AbsTime", .dirOut, .absTimePos⟩, ⟨"RelCount", .dirOut, .relCtrPos⟩,
      ⟨"AbsCount", .dirOut, .absCtrPos⟩]
  | .getTransportSettings => [⟨"InstanceID", .dirIn, .aatInstanceId⟩,
      ⟨"PlayMode", .dirOut, .curPlayMode⟩, ⟨"RecQualityMode", .dirOut, .curRecQualMode⟩]
  | .stop => [⟨"InstanceID", .dirIn, .aatInstanceId⟩]
  | .play => [⟨"InstanceID", .dirIn, .aatInstanceId⟩, ⟨"Speed", .dirIn, .transportPlaySpeed⟩]
  | .pause => [⟨"InstanceID", .dirIn, .aatInstanceId⟩]
  | .seek => [⟨"InstanceID", .dirIn, .aatInstanceId⟩, ⟨"Unit", .dirIn, .aatSeekMode⟩,
      ⟨"Target", .dirIn, .aatSeekTarget⟩]
  | .getCurrentTransportActions => [⟨"InstanceID", .dirIn, .aatInstanceId⟩,
      ⟨"Actions", .dirOut, .curTransportActions⟩]

/-- The `argument_list` of upnp_control.c. -/
def controlArguments : ControlCmd → List (Argument ControlVar)
  | .listPresets => [⟨"InstanceID", .dirIn, .aatInstanceId⟩,
      ⟨"CurrentPresetNameList", .dirOut, .presetNameList⟩]
  | .getMute => [⟨"InstanceID", .dirIn, .aatInstanceId⟩, ⟨"Channel", .dirIn, .aatChannel⟩,
      ⟨"CurrentMute", .dirOut, .mute⟩]
  | .setMute => [⟨"InstanceID", .dirIn, .aatInstanceId⟩, ⟨"Channel", .dirIn, .aatChannel⟩,
      ⟨"DesiredMute", .dirIn, .mute⟩]
  | .getVol => [⟨"InstanceID", .dirIn, .aatInstanceId⟩, ⟨"Channel", .dirIn, .aatChannel⟩,
      ⟨"CurrentVolume", .dirOut, .volume⟩]
  | .setVol => [⟨"InstanceID", .dirIn, .aatInstanceId⟩, ⟨"Channel", .dirIn, .aatChannel⟩,
      ⟨"DesiredVolume", .dirIn, .volume⟩]

/-- The `argument_list` of upnp_connmgr.c. -/
def connmgrArguments : ConnmgrCmd → List (Argument ConnmgrVar)
  | .getProtocolInfo => [⟨"Source", .dirOut, .srcProtoInfo⟩, ⟨"Sink", .dirOut, .sinkProtoInfo⟩]
  | .getCurrentConnectionIds => [⟨"ConnectionIDs", .dirOut, .curConnIds⟩]
  | .setCurrentConnectionInfo => [⟨"ConnectionID", .dirIn, .aatConnId⟩,
      ⟨"RcsID", .dirOut, .aatRcsId⟩, ⟨"AVTransportID", .dirOut, .aatAvtId⟩,
      ⟨"ProtocolInfo", .dirOut, .aatProtoInfo⟩, ⟨"PeerConnectionManager", .dirOut, .aatConnMgr⟩,
      ⟨"PeerConnectionID", .dirOut, .aatConnId⟩, ⟨"Direction", .dirOut, .aatDir⟩,
      ⟨"Status", .dirOut, .aatConnStatus⟩]
  | .prepareForConnection => [⟨"RemoteProtocolInfo", .dirIn, .aatProtoInfo⟩,
      ⟨"PeerConnectionManager", .dirIn, .aatConnMgr⟩, ⟨"PeerConnectionID", .dirIn, .aatConnId⟩,
      ⟨"Direction", .dirIn, .aatDir⟩, ⟨"ConnectionID", .dirOut, .aatConnId⟩,
      ⟨"AVTransportID", .dirOut, .aatAvtId⟩, ⟨"RcsID", .dirOut, .aatRcsId⟩]

variable {ι : Type}

def outArguments (l : List (Argument ι)) : List (Argument ι) :=
  l.filter fun a => a.direction = .dirOut

/-- The response that an argument list promises. -/
def declared (l : List (Argument ι)) (vars : Store ι) : List (String × String) :=
  (outArguments l).map fun a => (a.name, vars.values a.statevar)

def declaredResponse (s : Device) : DeviceAction → List (String × String)
  | .renderer (.transport cmd) => declared (transportArguments cmd) s.renderer.transport.vars
  | .renderer (.control cmd) => declared (controlArguments cmd) s.renderer.control
  | .connmgr cmd => declared (connmgrArguments cmd) s.connmgr

end Tables

/-- If the handler succeeds, the response is the declared one, with the values that the
variables have then. -/
def MatchesSignature (env : Env) (s : Device) (e : ActionEvent) (a : DeviceAction) : Prop :=
  let r := handleActionRequest env s e a.serviceId a.actionName
  (callback env s e a).rc = 0 → r.event.actionResult = some (declaredResponse r.state a)

section Conditions

variable (doc : Option (List Node)) (addError : String → Option String)

/-- libupnp adds all of the response. -/
def Added {ι : Type} (l : List (Argument ι)) : Prop := ∀ a ∈ outArguments l, addError a.name = none

/-- When an AVTransport action keeps to its signature. -/
def TransportSigned (v : TransportVar → String) (cmd : TransportCmd) : Prop :=
  Given doc "InstanceID" → Added addError (transportArguments cmd) ∧
    match cmd with
    | .getDeviceCapabilities | .getTransportSettings => False
    | .getMediaInfo => v .recMedia = v .playMedium
    | _ => True

def ControlSigned (cmd : ControlCmd) : Prop :=
  Given doc "InstanceID" → Added addError (controlArguments cmd)

/-- When a ConnectionManager action keeps to its signature; GetCurrentConnectionIDs never
succeeds. -/
def ConnmgrSigned (v : ConnmgrVar → String) : ConnmgrCmd → Prop
  | .getProtocolInfo => Added addError (connmgrArguments .getProtocolInfo)
  | .getCurrentConnectionIds => True
  | .setCurrentConnectionInfo =>
    Given doc "ConnectionID" → Added addError (connmgrArguments .setCurrentConnectionInfo)
  | .prepareForConnection =>
    Added addError (connmgrArguments .prepareForConnection) ∧ v .curConnIds = v .aatConnId

def Signed (s : Device) : DeviceAction → Prop
  | .renderer (.transport cmd) =>
    TransportSigned doc addError s.renderer.transport.vars.values cmd
  | .renderer (.control cmd) => ControlSigned doc addError cmd
  | .connmgr cmd => ConnmgrSigned doc addError s.connmgr.values cmd

end Conditions

section Responses

variable {ι : Type} {e e' : ActionEvent}

/-- An addition that libupnp fails for empties the response. -/
theorem upnpAddResponse_response (hstatus : e.status = 0) (key value : String) :
    response (upnpAddResponse e key value) =
      if e.addError key = none then response e ++ [(key, value)] else [] := by
  cases hadd : e.addError key <;> simp [response, upnpAddResponse, hstatus, hadd]

theorem upnpAddResponse_addError (key value : String) :
    (upnpAddResponse e key value).addError = e.addError := by
  unfold upnpAddResponse
  split_ifs
  · rfl
  · cases e.addError key <;> rfl

theorem appendVariables_response (vars : Store ι) (l : List (ι × String))
    (hstatus : e.status = 0) (hadded : ∀ v ∈ l, e.addError v.2 = none) :
    response (appendVariables e vars l) =
      response e ++ l.map fun v => (v.2, vars.values v.1) := by
  induction l generalizing e with
  | nil => simp [appendVariables]
  | cons v l ih =>
    obtain ⟨hv, hl⟩ := List.forall_mem_cons.mp hadded
    have hrest := ih (e := upnpAppendVariable e vars v.1 v.2)
      ((upnpAddResponse_status ..).trans hstatus)
      (by rw [upnpAppendVariable, upnpAddResponse_addError]; exact hl)
    change response (appendVariables (upnpAppendVariable e vars v.1 v.2) vars l) = _
    rw [hrest, upnpAppendVariable, upnpAddResponse_response hstatus, if_pos hv]
    simp

theorem appendVariables_length (vars : Store ι) (l : List (ι × String)) (hstatus : e.status = 0) :
    (response (appendVariables e vars l)).length ≤ (response e).length + l.length ∧
      ((∃ v ∈ l, e.addError v.2 ≠ none) →
        (response (appendVariables e vars l)).length < (response e).length + l.length) := by
  induction l generalizing e with
  | nil => simp [appendVariables]
  | cons v l ih =>
    have hrest := ih (e := upnpAppendVariable e vars v.1 v.2)
      ((upnpAddResponse_status ..).trans hstatus)
    rw [upnpAppendVariable, upnpAddResponse_response hstatus, upnpAddResponse_addError] at hrest
    change (response (appendVariables (upnpAppendVariable e vars v.1 v.2) vars l)).length ≤ _ ∧
      (_ → (response (appendVariables (upnpAppendVariable e vars v.1 v.2) vars l)).length < _)
    rw [upnpAppendVariable, List.length_cons]
    by_cases hv : e.addError v.2 = none
    · simp only [if_pos hv, List.length_append, List.length_singleton] at hrest
      refine ⟨by omega, fun hfails => ?_⟩
      have hlater : ∃ w ∈ l, e.addError w.2 ≠ none := by simpa [hv] using hfails
      have := hrest.2 hlater
      omega
    · simp only [if_neg hv, List.length_nil] at hrest
      exact ⟨by omega, fun _ => by omega⟩

/-- The response of a list of variables is the declared one if all of it is added and the
variables have the values of the declared ones. -/
theorem appended_iff (vars : Store ι) (l : List (ι × String)) (D : List (Argument ι))
    (hstatus : e.status = 0) (hempty : e.actionResult = none)
    (hnames : l.map Prod.snd = (outArguments D).map Argument.name) :
    response (appendVariables e vars l) = declared D vars ↔
      Added e.addError D ∧ l.map (fun v => (v.2, vars.values v.1)) = declared D vars := by
  have hnil : response e = [] := by simp [response, hempty]
  have hadded : (∀ v ∈ l, e.addError v.2 = none) ↔ Added e.addError D := by
    have hnames' : (∀ n ∈ l.map Prod.snd, e.addError n = none) ↔
        ∀ n ∈ (outArguments D).map Argument.name, e.addError n = none := by rw [hnames]
    rwa [List.forall_mem_map, List.forall_mem_map] at hnames'
  by_cases hall : ∀ v ∈ l, e.addError v.2 = none
  · rw [appendVariables_response vars l hstatus hall, hnil, List.nil_append]
    exact (and_iff_right (hadded.mp hall)).symm
  · refine iff_of_false (fun h => ?_) fun h => hall (hadded.mpr h.1)
    have hshort := (appendVariables_length vars l hstatus).2 (by simpa using hall)
    have hlength : l.length = (outArguments D).length := by simpa using congrArg List.length hnames
    rw [h, hnil, declared, List.length_map, ← hlength, List.length_nil] at hshort
    omega

/-- Reading an argument adds nothing to the response. -/
theorem upnpGetString_actionResult {key : String} {arg : Option String}
    (hempty : e.actionResult = none) (h : upnpGetString e key = (e', arg)) :
    e'.actionResult = none := by
  cases arg with
  | none =>
    obtain ⟨-, ⟨-, rfl⟩ | ⟨-, text, rfl⟩⟩ := upnpGetString_none h
    · exact hempty
    · rfl
  | some value =>
    obtain ⟨rfl, -⟩ := upnpGetString_some h
    exact hempty

end Responses

section Handlers

variable {e : ActionEvent} (env : Env)

theorem withInstanceid_silent (s : AvTransport) (body : ActionEvent → Handled AvTransport)
    (hbody : (body e).event.actionResult = none) :
    (withInstanceid s e body).event.actionResult = none := by
  by_cases hid : (argument e.actionRequest "InstanceID").isSome = true
  · rw [withInstanceid_given s body e hid]
    exact hbody
  · obtain ⟨e', -, hfails⟩ := withInstanceid_missing s body e hid
    rw [hfails]
    rfl

variable (hempty : e.actionResult = none)
include hempty

theorem startPlaying_silent (s : AvTransport) :
    (startPlaying env s e).event.actionResult = none := by
  simp only [startPlaying]
  split_ifs
  · rfl
  · exact hempty

/-- The AVTransport actions without declared output make no response. -/
theorem transportActions_silent (s : AvTransport) (cmd : TransportCmd)
    (hcmd : outArguments (transportArguments cmd) = []) :
    (transportActions env s e cmd).event.actionResult = none := by
  cases cmd with
  | setAvTransportUri =>
    refine withInstanceid_silent s _ ?_
    cases hget : upnpGetString e "CurrentURI" with
    | mk e' arg =>
      have hempty' := upnpGetString_actionResult hempty hget
      cases arg with
      | none => exact hempty'
      | some uri => exact upnpGetString_actionResult hempty' rfl
  | setNextAvTransportUri =>
    refine withInstanceid_silent s _ ?_
    cases hget : upnpGetString e "NextURI" with
    | mk e' arg =>
      have hempty' := upnpGetString_actionResult hempty hget
      cases arg with
      | none => exact hempty'
      | some uri =>
        cases hget' : upnpGetString e' "NextURIMetaData" with
        | mk e'' arg' =>
          have hempty'' := upnpGetString_actionResult hempty' hget'
          simp only [hget']
          cases arg' <;> exact hempty''
  | stop =>
    refine withInstanceid_silent s _ ?_
    cases s.transportState <;> first | exact hempty | rfl
  | play =>
    refine withInstanceid_silent s _ ?_
    cases s.transportState with
    | playing => exact hempty
    | stopped => exact startPlaying_silent env hempty _
    | pausedPlayback => exact startPlaying_silent env hempty _
    | _ => rfl
  | pause =>
    refine withInstanceid_silent s _ ?_
    cases s.transportState with
    | pausedPlayback => exact hempty
    | playing =>
      simp only
      split_ifs
      · rfl
      · exact hempty
    | _ => rfl
  | seek =>
    refine withInstanceid_silent s _ ?_
    cases hget : upnpGetString e "Unit" with
    | mk e' arg =>
      have hempty' := upnpGetString_actionResult hempty hget
      cases arg with
      | none => exact hempty'
      | some unit =>
        simp only
        split_ifs
        · cases hget' : upnpGetString e' "Target" with
          | mk e'' arg' =>
            have hempty'' := upnpGetString_actionResult hempty' hget'
            cases arg' <;> exact hempty''
        · exact hempty'
  | _ => simp [outArguments, transportArguments] at hcmd

theorem controlActions_silent (s : Control) (cmd : ControlCmd)
    (hcmd : outArguments (controlArguments cmd) = []) :
    (controlActions env s e cmd).event.actionResult = none := by
  cases cmd with
  | setMute =>
    change (setMute env s e).event.actionResult = none
    unfold setMute
    cases hget : upnpGetString e "DesiredMute" with
    | mk e' arg =>
      have hempty' := upnpGetString_actionResult hempty hget
      cases arg <;> exact hempty'
  | setVol =>
    change (setVolume env s e).event.actionResult = none
    unfold setVolume
    cases hget : upnpGetString e "DesiredVolume" with
    | mk e' arg =>
      have hempty' := upnpGetString_actionResult hempty hget
      cases arg <;> exact hempty'
  | _ => simp [outArguments, controlArguments] at hcmd

end Handlers

section Services

/-- The response of a handler is the expected one, if the handler succeeds. -/
def Responds {σ : Type} (r : Handled σ) (expected : σ → List (String × String)) : Prop :=
  r.rc = 0 → response r.event = expected r.state

/-- A handler that fails has nothing to respond. -/
theorem responds_of_fails {σ : Type} (e : ActionEvent) (s : σ)
    (expected : σ → List (String × String)) : Responds ⟨e, s, -1⟩ expected :=
  fun hrc => absurd hrc (show (-1 : ℤ) ≠ 0 by decide)

/-- What is asked of the response to a request with an argument, when the argument is missing. -/
theorem responds_missing {σ : Type} {e e' : ActionEvent} {key : String}
    (h : upnpGetString e key = (e', none)) (s : σ) (expected : σ → List (String × String))
    {P : Prop} : Responds ⟨e', s, -1⟩ expected ↔ (Given e.actionRequest key → P) :=
  iff_of_true (responds_of_fails e' s expected)
    fun hgiven => absurd hgiven (not_given_of_none (upnpGetString_none h).1)

variable {e : ActionEvent} (hempty : e.actionResult = none) (hstatus : e.status = 0) (env : Env)
include hempty

/-- An action that declares output but reports nothing matches only if it fails. -/
theorem responds_nothing (s : AvTransport) (D : List (Argument TransportVar))
    (hD : outArguments D ≠ []) :
    Responds (reportVariables s e []) (fun t => declared D t.vars) ↔
      ¬ Given e.actionRequest "InstanceID" := by
  by_cases hid : Given e.actionRequest "InstanceID"
  · refine iff_of_false (fun h => ?_) fun h => h hid
    rw [reportVariables, withInstanceid_given s _ e hid] at h
    have hresponse : response e = declared D s.vars := h rfl
    simp [response, hempty, declared, hD] at hresponse
  · refine iff_of_true (fun hrc => ?_) hid
    rw [reportVariables, withInstanceid_rc s _ e hid] at hrc
    exact absurd hrc (by decide)

theorem responds_silent (s : AvTransport) (cmd : TransportCmd)
    (hcmd : outArguments (transportArguments cmd) = []) :
    Responds (transportActions env s e cmd)
      (fun t => declared (transportArguments cmd) t.vars) := by
  have hresponse : response (transportActions env s e cmd).event = [] := by
    rw [response, transportActions_silent env hempty s cmd hcmd]
    rfl
  have hdeclared : ∀ t : AvTransport, declared (transportArguments cmd) t.vars = [] := by
    intro t
    rw [declared, hcmd]
    rfl
  exact fun _ => hresponse.trans (hdeclared _).symm

include hstatus

theorem responds_reportVariables (s s' : AvTransport) (l : List (TransportVar × String))
    (D : List (Argument TransportVar))
    (hnames : l.map Prod.snd = (outArguments D).map Argument.name) :
    Responds (withInstanceid s e fun e => ⟨appendVariables e s'.vars l, s', 0⟩)
        (fun t => declared D t.vars) ↔
      (Given e.actionRequest "InstanceID" → Added e.addError D ∧
        l.map (fun v => (v.2, s'.vars.values v.1)) = declared D s'.vars) := by
  by_cases hid : Given e.actionRequest "InstanceID"
  · rw [withInstanceid_given s _ e hid, forall_prop_of_true hid]
    exact (forall_prop_of_true rfl).trans (appended_iff s'.vars l D hstatus hempty hnames)
  · refine iff_of_true (fun hrc => ?_) fun h => absurd h hid
    rw [withInstanceid_rc s _ e hid] at hrc
    exact absurd hrc (by decide)

theorem responds_transport (s : AvTransport) (cmd : TransportCmd) :
    Responds (transportActions env s e cmd) (fun t => declared (transportArguments cmd) t.vars) ↔
      TransportSigned e.actionRequest e.addError s.vars.values cmd := by
  have hreport := fun (s' : AvTransport) l =>
    responds_reportVariables hempty hstatus s s' l (transportArguments cmd)
  have hsilent := responds_silent hempty env s cmd
  cases cmd with
  | getMediaInfo =>
    refine (hreport s _ rfl).trans (imp_congr_right fun _ => and_congr_right fun _ => ?_)
    simp [declared, outArguments, transportArguments]
  | getTransportInfo =>
    exact (hreport s _ rfl).trans
      (imp_congr_right fun _ => and_congr_right fun _ => iff_of_true rfl trivial)
  | getPositionInfo =>
    exact (hreport (updateTrackTime env s) _ rfl).trans
      (imp_congr_right fun _ => and_congr_right fun _ => iff_of_true rfl trivial)
  | getCurrentTransportActions =>
    exact (hreport s _ rfl).trans
      (imp_congr_right fun _ => and_congr_right fun _ => iff_of_true rfl trivial)
  | getDeviceCapabilities =>
    refine (responds_nothing hempty s _ (by simp [outArguments, transportArguments])).trans ?_
    simp [TransportSigned]
  | getTransportSettings =>
    refine (responds_nothing hempty s _ (by simp [outArguments, transportArguments])).trans ?_
    simp [TransportSigned]
  | _ =>
    refine iff_of_true (hsilent rfl) fun _ => ⟨fun a ha => ?_, trivial⟩
    exact absurd ha List.not_mem_nil

theorem responds_cmdObtainVariable (s : Control) (i : ControlVar) (paramname : String)
    (D : List (Argument ControlVar)) (hD : outArguments D = [⟨paramname, .dirOut, i⟩]) :
    Responds (cmdObtainVariable s e i paramname) (fun t => declared D t.vars) ↔
      (Given e.actionRequest "InstanceID" → Added e.addError D) := by
  unfold cmdObtainVariable
  cases hget : upnpGetString e "InstanceID" with
  | mk e' arg =>
    cases arg with
    | none =>
      exact responds_missing hget s _
    | some instanceId =>
      obtain ⟨rfl, hvalue⟩ := upnpGetString_some hget
      have happended := appended_iff s.vars [(i, paramname)] D hstatus hempty (by simp [hD])
      refine (forall_prop_of_true rfl).trans (happended.trans ?_)
      rw [forall_prop_of_true (given_of_some hvalue)]
      exact and_iff_left (by simp [declared, hD])

theorem responds_control (s : Control) (cmd : ControlCmd) :
    Responds (controlActions env s e cmd) (fun t => declared (controlArguments cmd) t.vars) ↔
      ControlSigned e.actionRequest e.addError cmd := by
  cases cmd with
  | listPresets =>
    exact responds_cmdObtainVariable hempty hstatus s .presetNameList "CurrentPresetNameList" _ rfl
  | getMute => exact responds_cmdObtainVariable hempty hstatus s .mute "CurrentMute" _ rfl
  | getVol => exact responds_cmdObtainVariable hempty hstatus s .volume "CurrentVolume" _ rfl
  | setMute =>
    refine iff_of_true (fun _ => ?_) fun _ a ha => absurd ha List.not_mem_nil
    rw [response, controlActions_silent env hempty s .setMute rfl]
    rfl
  | setVol =>
    refine iff_of_true (fun _ => ?_) fun _ a ha => absurd ha List.not_mem_nil
    rw [response, controlActions_silent env hempty s .setVol rfl]
    rfl

theorem responds_connmgr (s : Store ConnmgrVar) (cmd : ConnmgrCmd) :
    Responds (connmgrActions s e cmd) (fun t => declared (connmgrArguments cmd) t) ↔
      ConnmgrSigned e.actionRequest e.addError s.values cmd := by
  have happended := fun l => appended_iff (e := e) s l (connmgrArguments cmd) hstatus hempty
  cases cmd with
  | getProtocolInfo =>
    have hrc : (connmgrActions s e .getProtocolInfo).rc = 0 :=
      (appendVariables_clean s _ e).2.trans hstatus
    exact (forall_prop_of_true hrc).trans ((happended _ rfl).trans (and_iff_left rfl))
  | getCurrentConnectionIds =>
    exact iff_of_true (responds_of_fails _ s _) trivial
  | setCurrentConnectionInfo =>
    change Responds (getCurrentConnInfo s e) _ ↔ _
    unfold getCurrentConnInfo
    cases hget : upnpGetString e "ConnectionID" with
    | mk e' arg =>
      cases arg with
      | none =>
        exact responds_missing hget s _
      | some value =>
        obtain ⟨rfl, hvalue⟩ := upnpGetString_some hget
        refine (forall_prop_of_true rfl).trans ((happended _ rfl).trans ?_)
        rw [ConnmgrSigned, forall_prop_of_true (given_of_some hvalue)]
        exact and_iff_left rfl
  | prepareForConnection =>
    refine (forall_prop_of_true rfl).trans ((happended _ rfl).trans (and_congr_right fun _ => ?_))
    simp [declared, outArguments, connmgrArguments]

end Services

section Main

variable (env : Env) (s : Device) (doc : Option (List Node)) (addError : String → Option String)

theorem matchesSignature_iff_responds (e : ActionEvent) (a : DeviceAction) :
    MatchesSignature env s e a ↔ Responds (callback env s e a) (declaredResponse · a) := by
  simp only [MatchesSignature, handleActionRequest, findAction_actionName, finishRequest, Responds,
    response, Option.some.injEq]

/-- Whatever the values of the variables and the request, a successful action responds with the
declared arguments in the declared order and with the values of the declared variables,
exactly when it is not one of the actions that leave arguments out, or reads in place of a
declared variable another one of the same value. -/
theorem matchesSignature_iff (a : DeviceAction) :
    MatchesSignature env s (request doc addError) a ↔ Signed doc addError s a := by
  rw [matchesSignature_iff_responds]
  rcases a with (cmd | cmd) | cmd
  · exact responds_transport rfl rfl env s.renderer.transport cmd
  · exact responds_control rfl rfl env s.renderer.controlPart cmd
  · exact responds_connmgr rfl rfl s.connmgr cmd

/-- PlayMedium is declared as PlaybackStorageMedium, but PossibleRecordStorageMedia is reported
for it. -/
theorem not_matchesSignature_getMediaInfo : ¬ MatchesSignature allSent started
    (request (requestDoc "GetMediaInfo" [("InstanceID", "0")]) fun _ => none)
    (.renderer (.transport .getMediaInfo)) := by
  rw [matchesSignature_iff_responds]
  intro h
  have hresponse := h rfl
  revert hresponse
  decide

end Main

end GMediaRender.Signatures
