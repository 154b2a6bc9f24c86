import GMediaRender.ChangeLogger
import GMediaRender.ErrorReports
import GMediaRender.SeekTargets

/-!
The values that the two services hand to the change logger in a run of the renderer. Times,
numbers and names are never empty; a URI, its metadata and the target of a seek may be.
-/
namespace GMediaRender.LoggedValues

open XmlDoc VariableContainer StateVariables ActionRequest OutputSilan UpnpTime UpnpTransport
  UpnpControl RendererSystem ErrorReports SeekTargets Runs ChangeLogger

section Texts

theorem printInt_ne_empty (n : ℤ) : printInt n ≠ "" := by
  cases n with
  | ofNat n => exact Nat.repr_ne_empty
  | negSucc n => simp [printInt, toString, Int.repr, String.append_eq_empty_iff]

theorem printUpnpTime_ne_empty (t : ℤ) : printUpnpTime t ≠ "" := by
  simp [printUpnpTime, String.append_eq_empty_iff]

theorem tracks_ne_empty (uri : String) : tracks uri ≠ "" := by
  unfold tracks
  split_ifs <;> decide

theorem transportStates_ne_empty (st : TransportState) : transportStates st ≠ "" := by
  cases st <;> decide

theorem availableActions_ne_empty {st : TransportState} {actions : String}
    (h : availableActions st = some actions) : actions ≠ "" := by
  rintro rfl
  cases st <;> exact absurd h (by decide)

end Texts

section Transport

/-- Replacing a variable by a text that is never empty. -/
theorem logged_nonempty {i : TransportVar} {value : String} (v : Store TransportVar)
    (hi : Writable transportTable i) (hvalue : value ≠ "") :
    Logged transportTable v (v.replaceVar i value) False :=
  (logged_replaceVar v value hi).congr (by simp [hvalue])

/-- A URI or its metadata is taken away from a variable. -/
def Emptied (v : TransportVar → String) (i : TransportVar) (value : String) : Prop :=
  value = "" ∧ v i ≠ ""

theorem logged_uri {i : TransportVar} (v : Store TransportVar) (value : String)
    (hi : Writable transportTable i) :
    Logged transportTable v (v.replaceVar i value) (Emptied v.values i value) :=
  logged_replaceVar v value hi

theorem logged_replaceTransportUriAndMeta (v : Store TransportVar) (uri metadata : String) :
    Logged transportTable v (replaceTransportUriAndMeta v uri metadata)
      (Emptied v.values .avUri uri ∨ Emptied v.values .avUriMeta metadata) := by
  have huri := logged_uri v (i := .avUri) uri (by decide)
  have hmeta := logged_uri (v.replaceVar .avUri uri) (i := .avUriMeta) metadata
    (by decide)
  have htracks := logged_nonempty (i := .nrTracks)
    ((v.replaceVar .avUri uri).replaceVar .avUriMeta metadata) (by decide)
    (tracks_ne_empty uri)
  exact ((huri.trans hmeta).trans htracks).congr (by simp [Emptied])

theorem logged_replaceCurrentUriAndMeta (v : Store TransportVar) (uri metadata : String) :
    Logged transportTable v (replaceCurrentUriAndMeta v uri metadata)
      (Emptied v.values .curTrackUri uri ∨ Emptied v.values .curTrackMeta metadata) := by
  have htracks := logged_nonempty (i := .curTrack) v (by decide) (tracks_ne_empty uri)
  have huri := logged_uri (v.replaceVar .curTrack (tracks uri)) (i := .curTrackUri) uri
    (by decide)
  have hmeta := logged_uri ((v.replaceVar .curTrack (tracks uri)).replaceVar .curTrackUri uri)
    (i := .curTrackMeta) metadata (by decide)
  exact ((htracks.trans huri).trans hmeta).congr (by simp [Emptied])

theorem logged_changeTransportState (s : AvTransport) (new : TransportState)
    (hnew : new ≠ .noMediaPresent) :
    Logged transportTable s.vars (changeTransportState s new hnew).vars False := by
  have hstate := logged_nonempty (i := .transportState) s.vars (by decide)
    (transportStates_ne_empty new)
  unfold changeTransportState
  simp only [Store.change_fst]
  split_ifs
  · cases hactions : availableActions new with
    | none => exact hstate
    | some actions =>
      have hoffered := logged_nonempty (i := .curTransportActions)
        (s.vars.replaceVar .transportState (transportStates new)) (by decide)
        (availableActions_ne_empty hactions)
      exact (hstate.trans hoffered).congr (by simp)
  · exact hstate

/-- The feedback that takes a value away. -/
def FeedbackEmpties (v : TransportVar → String) : PlayFeedback → Prop
  | .playStopped => ∃ i ∈ [TransportVar.avUri, .avUriMeta, .curTrackUri, .curTrackMeta], v i ≠ ""
  | .playStartedNextStream => ∃ i ∈ [TransportVar.avUri, .avUriMeta, .curTrackUri, .curTrackMeta,
      .nextAvUri, .nextAvUriMeta], v i ≠ ""

/-- A stream becomes the advertised one and the current track. -/
theorem logged_bothUris (v : Store TransportVar) (uri metadata : String) :
    Logged transportTable v
      (replaceCurrentUriAndMeta (replaceTransportUriAndMeta v uri metadata) uri metadata)
      ((Emptied v.values .avUri uri ∨ Emptied v.values .avUriMeta metadata) ∨
        (Emptied v.values .curTrackUri uri ∨ Emptied v.values .curTrackMeta metadata)) := by
  have hadvertised := logged_replaceTransportUriAndMeta v uri metadata
  have hcurrent := logged_replaceCurrentUriAndMeta (replaceTransportUriAndMeta v uri metadata) uri
    metadata
  refine (hadvertised.trans hcurrent).congr ?_
  simp [Emptied, replaceTransportUriAndMeta]

/-- The variables of the next stream are cleared. -/
theorem logged_nextCleared (v : Store TransportVar) :
    Logged transportTable v ((v.replaceVar .nextAvUri "").replaceVar .nextAvUriMeta "")
      (v.values .nextAvUri ≠ "" ∨ v.values .nextAvUriMeta ≠ "") := by
  have huri := logged_uri v (i := .nextAvUri) "" (by decide)
  have hmeta := logged_uri (v.replaceVar .nextAvUri "") (i := .nextAvUriMeta) "" (by decide)
  exact (huri.trans hmeta).congr (by simp [Emptied])

theorem logged_feedback (s : AvTransport) (fb : PlayFeedback) :
    Logged transportTable s.vars (transitionFromOutput s fb).vars
      (FeedbackEmpties s.vars.values fb) := by
  cases fb with
  | playStopped =>
    have hcleared := logged_bothUris s.vars "" ""
    have hvars : ∀ v, Logged transportTable v (toStopped { s with vars := v }).vars False :=
      fun v => logged_changeTransportState { s with vars := v } .stopped (by decide)
    have hstopped := hcleared.trans (hvars _)
    refine Logged.congr hstopped ?_
    simp [Emptied, FeedbackEmpties, or_assoc]
  | playStartedNextStream =>
    have hboth := logged_bothUris s.vars (s.vars.getVar .nextAvUri) (s.vars.getVar .nextAvUriMeta)
    simp only [transitionFromOutput]
    refine (hboth.trans (logged_nextCleared _)).congr ?_
    simp [Emptied, FeedbackEmpties, replaceTransportUriAndMeta, replaceCurrentUriAndMeta,
      Store.getVar]
    tauto

end Transport

section Actions

variable (env : Env) (s : AvTransport) (doc : Option (List Node))

/-- The stream that a SetAVTransportURI sets takes a URI or metadata away. -/
def SetUriEmpties (uri metadata : String) : Prop :=
  (Emptied s.vars.values .avUri uri ∨ Emptied s.vars.values .avUriMeta metadata) ∨
    (s.transportState = .playing ∧ (Emptied s.vars.values .curTrackUri uri ∨
      Emptied s.vars.values .curTrackMeta metadata))

/-- The action that takes a value away. -/
def ActionEmpties : TransportCmd → Prop
  | .setAvTransportUri => Given doc "InstanceID" ∧ ∃ uri, argument doc "CurrentURI" = some uri ∧
      SetUriEmpties s uri ((argument doc "CurrentURIMetaData").getD "")
  | .setNextAvTransportUri => Given doc "InstanceID" ∧ ∃ uri, argument doc "NextURI" = some uri ∧
      (Emptied s.vars.values .nextAvUri uri ∨ ∃ metadata,
        argument doc "NextURIMetaData" = some metadata ∧
          Emptied s.vars.values .nextAvUriMeta metadata)
  | .play => Given doc "InstanceID" ∧
      (s.transportState = .stopped ∨ s.transportState = .pausedPlayback) ∧ Playable env s.silan ∧
      (Emptied s.vars.values .curTrackUri (s.vars.values .avUri) ∨
        Emptied s.vars.values .curTrackMeta (s.vars.values .avUriMeta))
  | .seek => ∃ target, soughtTarget doc = some target ∧ (env .slmpSeek).msgsnd = true ∧
      Emptied s.vars.values .relTimePos target
  | _ => False

variable {env s doc}

/-- An action without an instance logs nothing. -/
theorem logged_missing {cmd : TransportCmd} {P : Prop} (h : ¬ Given doc "InstanceID")
    (hP : ¬ P) : Logged transportTable s.vars
      (transportActions env s (newRequest doc) cmd).state.vars P := by
  rw [transportActions_missing s env cmd h]
  exact (Logged.refl s.vars).congr (iff_of_false not_false hP)

theorem logged_setUri (hid : Given doc "InstanceID") :
    Logged transportTable s.vars (setAvtransportUri s (newRequest doc)).state.vars
      (∃ uri, argument doc "CurrentURI" = some uri ∧
        SetUriEmpties s uri ((argument doc "CurrentURIMetaData").getD "")) := by
  rw [setAvtransportUri, withInstanceid_some s doc _ hid]
  rcases upnpGetString_cases doc "CurrentURI" with ⟨uri, huri, hget⟩ | ⟨hnone, e, hget⟩
  · have hmetadata : (upnpGetString (newRequest doc) "CurrentURIMetaData").2 =
        argument doc "CurrentURIMetaData" := rfl
    simp only [hget, hmetadata, huri, Option.some.injEq, exists_eq_left']
    by_cases hplaying : s.transportState = .playing
    · rw [if_pos hplaying]
      exact (logged_bothUris s.vars uri _).congr (by simp [SetUriEmpties, hplaying])
    · rw [if_neg hplaying]
      exact (logged_replaceTransportUriAndMeta s.vars uri _).congr
        (by simp [SetUriEmpties, hplaying])
  · simp only [hget]
    exact (Logged.refl s.vars).congr (by simp [hnone])

theorem logged_setNextUri (hid : Given doc "InstanceID") :
    Logged transportTable s.vars (setNextAvtransportUri s (newRequest doc)).state.vars
      (∃ uri, argument doc "NextURI" = some uri ∧
        (Emptied s.vars.values .nextAvUri uri ∨ ∃ metadata,
          argument doc "NextURIMetaData" = some metadata ∧
            Emptied s.vars.values .nextAvUriMeta metadata)) := by
  rw [setNextAvtransportUri, withInstanceid_some s doc _ hid]
  rcases upnpGetString_cases doc "NextURI" with ⟨uri, huri, hget⟩ | ⟨hnone, e, hget⟩
  · have hnext := logged_uri s.vars (i := .nextAvUri) uri (by decide)
    simp only [hget, huri, Option.some.injEq, exists_eq_left']
    rcases upnpGetString_cases doc "NextURIMetaData" with
      ⟨metadata, hmeta, hget'⟩ | ⟨hnone, e, hget'⟩
    · simp only [hget', hmeta, Option.some.injEq, exists_eq_left']
      have hnextMeta := logged_uri (s.vars.replaceVar .nextAvUri uri) (i := .nextAvUriMeta)
        metadata (by decide)
      exact (hnext.trans hnextMeta).congr (by simp [Emptied])
    · simp only [hget', hnone]
      exact hnext.congr (by simp)
  · simp only [hget]
    exact (Logged.refl s.vars).congr (by simp [hnone])

variable (env) in
theorem logged_startPlaying (t : AvTransport) (e : ActionEvent) :
    Logged transportTable t.vars (startPlaying env t e).state.vars (Playable env t.silan ∧
      (Emptied t.vars.values .curTrackUri (t.vars.values .avUri) ∨
        Emptied t.vars.values .curTrackMeta (t.vars.values .avUriMeta))) := by
  unfold startPlaying
  by_cases hplay : Playable env t.silan
  · have hrc : (outputSilanPlay env t.silan).2 = 0 := (outputSilanPlay_snd env t.silan).mpr hplay
    rw [if_neg (by simp [hrc])]
    let t' : AvTransport := { t with silan := (outputSilanPlay env t.silan).1 }
    have hswitched : Logged transportTable t.vars (toPlaying t').vars False :=
      logged_changeTransportState t' .playing (by decide)
    have hcurrent := logged_replaceCurrentUriAndMeta (toPlaying t').vars
      ((toPlaying t').vars.getVar .avUri) ((toPlaying t').vars.getVar .avUriMeta)
    have hkept (i : TransportVar) (hi : i ≠ .transportState) (hi' : i ≠ .curTransportActions) :
        (toPlaying t').vars.values i = t.vars.values i :=
      changeTransportState_values t' .playing (by decide) i hi hi'
    refine (hswitched.trans hcurrent).congr ?_
    simp [Emptied, hplay, Store.getVar, hkept]
  · have hrc : (outputSilanPlay env t.silan).2 ≠ 0 :=
      mt (outputSilanPlay_snd env t.silan).mp hplay
    rw [if_pos hrc]
    exact (Logged.refl t.vars).congr (by simp [hplay])

theorem logged_play (hid : Given doc "InstanceID") :
    Logged transportTable s.vars (play env s (newRequest doc)).state.vars
      ((s.transportState = .stopped ∨ s.transportState = .pausedPlayback) ∧
        Playable env s.silan ∧ (Emptied s.vars.values .curTrackUri (s.vars.values .avUri) ∨
          Emptied s.vars.values .curTrackMeta (s.vars.values .avUriMeta))) := by
  rw [play, withInstanceid_some s doc _ hid]
  cases hstate : s.transportState with
  | stopped =>
    have hzero : kZeroTime ≠ "" := by decide
    have hrewound := logged_nonempty (i := .relTimePos) s.vars (by decide) hzero
    have hstarted := logged_startPlaying env
      { s with vars := s.vars.replaceVar .relTimePos kZeroTime } (newRequest doc)
    simp only [hstate] at hstarted ⊢
    exact (hrewound.trans hstarted).congr (by simp [Emptied])
  | pausedPlayback =>
    have hstarted := logged_startPlaying env s (newRequest doc)
    exact hstarted.congr (by simp)
  | _ => exact (Logged.refl s.vars).congr (by simp)

theorem logged_seek : Logged transportTable s.vars (seek env s (newRequest doc)).state.vars
    (∃ target, soughtTarget doc = some target ∧ (env .slmpSeek).msgsnd = true ∧
      Emptied s.vars.values .relTimePos target) := by
  cases hsought : soughtTarget doc with
  | none =>
    rw [seek_of_not_sought env s hsought]
    exact (Logged.refl s.vars).congr (by simp)
  | some target =>
    rw [seek_of_sought env s hsought]
    simp only [Option.some.injEq, exists_eq_left']
    split_ifs with hsent
    · exact (logged_uri s.vars target (by decide)).congr (by simp [hsent])
    · exact (Logged.refl s.vars).congr (by simp [hsent])

theorem logged_getPositionInfo (hid : Given doc "InstanceID") :
    Logged transportTable s.vars (getPositionInfo env s (newRequest doc)).state.vars False := by
  rw [getPositionInfo, withInstanceid_some s doc _ hid]
  have hduration := logged_nonempty (i := .curTrackDur) s.vars (by decide)
    (printUpnpTime_ne_empty (outputSilanGetPosition env s.silan).2.1)
  have hposition := logged_nonempty (i := .relTimePos) (s.vars.replaceVar .curTrackDur
    (printUpnpTime (outputSilanGetPosition env s.silan).2.1)) (by decide)
    (printUpnpTime_ne_empty (outputSilanGetPosition env s.silan).2.2)
  exact (hduration.trans hposition).congr (by simp)

theorem logged_stop (hid : Given doc "InstanceID") :
    Logged transportTable s.vars (stop env s (newRequest doc)).state.vars False := by
  have hstopped := logged_changeTransportState
    { s with silan := (outputSilanStop env s.silan).1 } .stopped (by decide)
  rw [stop, withInstanceid_some s doc _ hid]
  cases s.transportState <;> first | exact Logged.refl s.vars | exact hstopped

theorem logged_pauseStream (hid : Given doc "InstanceID") :
    Logged transportTable s.vars (pauseStream env s (newRequest doc)).state.vars False := by
  have hpaused := logged_changeTransportState
    { s with silan := (outputSilanPause env s.silan).1 } .pausedPlayback (by decide)
  rw [pauseStream, withInstanceid_some s doc _ hid]
  cases s.transportState with
  | playing =>
    simp only
    split_ifs
    · exact Logged.refl s.vars
    · exact hpaused
  | _ => exact Logged.refl s.vars

/-- An AVTransport action logs an empty value exactly when it takes one away. -/
theorem logged_transportActions (cmd : TransportCmd) :
    Logged transportTable s.vars (transportActions env s (newRequest doc) cmd).state.vars
      (ActionEmpties env s doc cmd) := by
  by_cases hid : Given doc "InstanceID"
  · cases cmd with
    | setAvTransportUri => exact (logged_setUri hid).congr (by simp [ActionEmpties, hid])
    | setNextAvTransportUri => exact (logged_setNextUri hid).congr (by simp [ActionEmpties, hid])
    | play => exact (logged_play hid).congr (by simp [ActionEmpties, hid])
    | seek => exact logged_seek
    | getPositionInfo => exact logged_getPositionInfo hid
    | stop => exact logged_stop hid
    | pause => exact logged_pauseStream hid
    | _ =>
      simp only [transportActions, getCurrentTransportactions, getDeviceCaps, getMediaInfo,
        getTransportInfo, getTransportSettings, reportVariables_state]
      exact Logged.refl s.vars
  · have hsought : soughtTarget doc = none := if_neg hid
    refine logged_missing hid ?_
    cases cmd <;> simp [ActionEmpties, hid, hsought]

end Actions

section Control

variable {env : Env} {s : Control} {e : ActionEvent}

theorem logged_volume (value : ℤ) :
    Logged controlTable s.vars (upnpControlSetVolume env s value).1.vars False := by
  rw [upnpControlSetVolume_eq]
  exact (logged_replaceVar s.vars _ (by decide)).congr (by simp [printInt_ne_empty])

variable (env) in
theorem logged_mute (value : ℤ) :
    Logged controlTable s.vars (upnpControlSetMute env s value).1.vars False := by
  obtain ⟨sent, hset⟩ := upnpControlSetMute_fst env s value
  rw [hset]
  refine (logged_replaceVar s.vars _ (by decide)).congr ?_
  split_ifs <;> simp

/-- A RenderingControl action never logs an empty value. -/
theorem logged_controlActions (cmd : ControlCmd) :
    Logged controlTable s.vars (controlActions env s e cmd).state.vars False := by
  rcases controlActions_state env s e cmd with hstate | ⟨value, hstate⟩ | ⟨value, hstate⟩
  · rw [hstate]
    exact Logged.refl s.vars
  · rw [hstate]
    exact logged_mute env value
  · rw [hstate]
    exact logged_volume value

theorem logged_volumeKey (dir : ℤ) :
    Logged controlTable s.vars (volumeKey env s dir).vars False := by
  unfold volumeKey
  split_ifs
  · exact logged_volume _
  · exact Logged.refl s.vars

end Control

section Steps

/-- The step takes a value away from a variable that had one. -/
def Empties (s : Renderer) : Event → Prop
  | .action (.transport cmd) doc env => ActionEmpties env s.transport doc cmd
  | .key .radio _ => FeedbackEmpties s.transport.vars.values .playStopped
  | .message m env => ∃ fb, (outputSilanRecvCmd env s.silan m).2 = some fb ∧
      FeedbackEmpties s.transport.vars.values fb
  | _ => False

variable (s : Renderer) (e : Event)

theorem logged_receive (s : AvTransport) (m : Message) (env : Env) :
    Logged transportTable s.vars (receive s m env).vars
      (∃ fb, (outputSilanRecvCmd env s.silan m).2 = some fb ∧
        FeedbackEmpties s.vars.values fb) := by
  cases hfb : (outputSilanRecvCmd env s.silan m).2 with
  | none =>
    have hvars : (receive s m env).vars = s.vars := by simp [receive, hfb]
    rw [hvars]
    exact (Logged.refl s.vars).congr (by simp)
  | some fb =>
    let t : AvTransport := { s with silan := (outputSilanRecvCmd env s.silan m).1 }
    have hvars : (receive s m env).vars = (transitionFromOutput t fb).vars := by
      simp [receive, hfb, t]
    rw [hvars]
    exact (logged_feedback t fb).congr (by simp [t])

theorem logged_transport :
    Logged transportTable s.transport.vars (s.step e).transport.vars (Empties s e) := by
  rcases e with ⟨cmd | cmd, doc, env⟩ | ⟨_ | _ | _ | _, env⟩ | ⟨m, env⟩ | ⟨lock, env⟩
  case action.transport => exact logged_transportActions cmd
  case key.radio =>
    exact logged_feedback { s.transport with silan := outputSilanSetSpdifin env s.silan }
      .playStopped
  case message => exact logged_receive s.transport m env
  all_goals exact Logged.refl _

theorem logged_control : Logged controlTable s.control (s.step e).control False := by
  rcases e with ⟨cmd | cmd, doc, env⟩ | ⟨_ | _ | _ | _, env⟩ | ⟨m, env⟩ | ⟨lock, env⟩
  case action.control => exact logged_controlActions (s := s.controlPart) cmd
  case key.volumeUp => exact logged_volumeKey (s := s.controlPart) 1
  case key.volumeDown => exact logged_volumeKey (s := s.controlPart) (-1)
  case key.mute => exact logged_mute env (s := s.controlPart) _
  all_goals exact Logged.refl _

end Steps

section Main

/-- No step takes a value away. -/
def KeepsValues (s : Renderer) (es : List Event) : Prop :=
  AllSteps Renderer.step (fun s e => ¬ Empties s e) s es

theorem logged_transport_run (s : Renderer) (es : List Event) :
    Logged transportTable s.transport.vars (run Renderer.step s es).transport.vars
      (¬ KeepsValues s es) := by
  induction es generalizing s with
  | nil => exact (Logged.refl _).congr (by simp [KeepsValues])
  | cons e es ih =>
    refine ((logged_transport s e).trans (ih (s.step e))).congr ?_
    simp only [KeepsValues, allSteps_cons]
    tauto

theorem logged_control_run (s : Renderer) (es : List Event) :
    Logged controlTable s.control (run Renderer.step s es).control False := by
  induction es generalizing s with
  | nil => exact Logged.refl _
  | cons e es ih => exact ((logged_control s e).trans (ih (s.step e))).congr (by simp)

variable (serialise : Node → String) (logger : ℕ)

/-- The calls that the logger gets from the two services in a run of the renderer, registered
with both like in `main`. -/
structure RunRecorded (s s' : Renderer) (transportCalls : List (ListenerCall TransportVar))
    (controlCalls : List (ListenerCall ControlVar)) : Prop where
  transport : Recorded transportTable serialise transportEventXmlNs logger s.transport.vars
    s'.transport.vars transportCalls
  control : Recorded controlTable serialise controlEventXmlNs logger s.control s'.control
    controlCalls

/-- The logger reads inside every value it is handed exactly when no step of the run gives the
empty string to a variable that had a value. -/
theorem logger_reads_inside (w : SizeT) (hdoc : ∀ doc, serialise doc ≠ "") (env : Env)
    (padmux volume mute : ℤ) (es : List Event) :
    (∃ transportCalls controlCalls, RunRecorded serialise logger (startUp env padmux volume mute)
      (run Renderer.step (startUp env padmux volume mute) es) transportCalls controlCalls) ∧
    ∀ transportCalls controlCalls, RunRecorded serialise logger (startUp env padmux volume mute)
      (run Renderer.step (startUp env padmux volume mute) es) transportCalls controlCalls →
      (LoggerSafe w logger transportCalls ∧ LoggerSafe w logger controlCalls ↔
        KeepsValues (startUp env padmux volume mute) es) := by
  have htransport := logged_transport_run (startUp env padmux volume mute) es
  have hcontrol := logged_control_run (startUp env padmux volume mute) es
  constructor
  · obtain ⟨transportCalls, hcalls⟩ :=
      exists_recorded serialise transportEventXmlNs (by decide) logger htransport
    obtain ⟨controlCalls, hcalls'⟩ :=
      exists_recorded serialise controlEventXmlNs (by decide) logger hcontrol
    exact ⟨transportCalls, controlCalls, hcalls, hcalls'⟩
  · intro transportCalls controlCalls hrecorded
    rw [loggerSafe_iff w hdoc htransport hrecorded.transport,
      loggerSafe_iff w hdoc hcontrol hrecorded.control, not_not]
    simp

/-- A URI is set and the volume is turned up. -/
def setAndTurnUp : List Event := [setUriAction "http://a/1.mp3", .key .volumeUp allSent]

theorem logger_reads_inside_setAndTurnUp :
    (∃ transportCalls controlCalls, RunRecorded ixmlDocumentToString 0 (startUp allSent 0 50 0)
      (run Renderer.step (startUp allSent 0 50 0) setAndTurnUp) transportCalls controlCalls) ∧
    ∀ transportCalls controlCalls, RunRecorded ixmlDocumentToString 0 (startUp allSent 0 50 0)
      (run Renderer.step (startUp allSent 0 50 0) setAndTurnUp) transportCalls controlCalls →
      (LoggerSafe .bits32 0 transportCalls ∧ LoggerSafe .bits32 0 controlCalls ↔
        KeepsValues (startUp allSent 0 50 0) setAndTurnUp) :=
  logger_reads_inside ixmlDocumentToString 0 .bits32 ixmlDocumentToString_ne_empty allSent 0 50 0
    setAndTurnUp

/-- A URI is set, and the radio key takes it away. -/
def setAndLeave : List Event := [setUriAction "http://a/1.mp3", .key .radio allSent]

/-- The URI that is taken away is logged as the empty string, and the logger reads outside it. -/
theorem logger_reads_outside : ∃ calls,
    Recorded transportTable ixmlDocumentToString transportEventXmlNs 0
      (startUp allSent 0 50 0).transport.vars
      (run Renderer.step (startUp allSent 0 50 0) setAndLeave).transport.vars calls ∧
    ¬ LoggerSafe .bits32 0 calls := by
  have hlogged := logged_transport_run (startUp allSent 0 50 0) setAndLeave
  obtain ⟨calls, hcalls⟩ :=
    exists_recorded ixmlDocumentToString transportEventXmlNs (by decide) 0 hlogged
  refine ⟨calls, hcalls, fun hsafe => ?_⟩
  have hkeeps := (loggerSafe_iff _ ixmlDocumentToString_ne_empty hlogged hcalls).mp hsafe
  refine hkeeps fun h => ?_
  exact h.2.1 ⟨.avUri, by decide, by decide⟩

end Main

end GMediaRender.LoggedValues
