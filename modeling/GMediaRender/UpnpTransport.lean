import GMediaRender.ActionRequest
import GMediaRender.OutputSilan
import GMediaRender.UpnpTime
import Mathlib.Data.Fintype.Defs

/-!
The AVTransport service of upnp_transport.c over the output module: its variables, the
action handlers and the feedback from the output. A handler runs under the service mutex,
so it is one function of the service's state; it returns the event with the response or
the error, the new state and its return code.
-/
namespace GMediaRender.UpnpTransport

open XmlDoc VariableContainer StateVariables ActionRequest OutputSilan UpnpTime

/-- The indices TRANSPORT_VAR_… -/
inductive TransportVar where
  | transportStatus
  | nextAvUri
  | nextAvUriMeta
  | curTrackMeta
  | relCtrPos
  | aatInstanceId
  | aatSeekTarget
  | playMedium
  | relTimePos
  | recMedia
  | curPlayMode
  | transportPlaySpeed
  | playMedia
  | absTimePos
  | curTrack
  | curTrackUri
  | curTransportActions
  | nrTracks
  | avUri
  | absCtrPos
  | curRecQualMode
  | curMediaDur
  | aatSeekMode
  | avUriMeta
  | recMedium
  | recMediumWrStatus
  | lastChange
  | curTrackDur
  | transportState
  | posRecQualMode
  | unknown
  deriving DecidableEq

def transportVariableNames : TransportVar → Option String
  | .transportState => some "TransportState"
  | .transportStatus => some "TransportStatus"
  | .playMedium => some "PlaybackStorageMedium"
  | .recMedium => some "RecordStorageMedium"
  | .playMedia => some "PossiblePlaybackStorageMedia"
  | .recMedia => some "PossibleRecordStorageMedia"
  | .curPlayMode => some "CurrentPlayMode"
  | .transportPlaySpeed => some "TransportPlaySpeed"
  | .recMediumWrStatus => some "RecordMediumWriteStatus"
  | .curRecQualMode => some "CurrentRecordQualityMode"
  | .posRecQualMode => some "PossibleRecordQualityModes"
  | .nrTracks => some "NumberOfTracks"
  | .curTrack => some "CurrentTrack"
  | .curTrackDur => some "CurrentTrackDuration"
  | .curMediaDur => some "CurrentMediaDuration"
  | .curTrackMeta => some "CurrentTrackMetaData"
  | .curTrackUri => some "CurrentTrackURI"
  | .avUri => some "AVTransportURI"
  | .avUriMeta => some "AVTransportURIMetaData"
  | .nextAvUri => some "NextAVTransportURI"
  | .nextAvUriMeta => some "NextAVTransportURIMetaData"
  | .relTimePos => some "RelativeTimePosition"
  | .absTimePos => some "AbsoluteTimePosition"
  | .relCtrPos => some "RelativeCounterPosition"
  | .absCtrPos => some "AbsoluteCounterPosition"
  | .lastChange => some "LastChange"
  | .aatSeekMode => some "A_ARG_TYPE_SeekMode"
  | .aatSeekTarget => some "A_ARG_TYPE_SeekTarget"
  | .aatInstanceId => some "A_ARG_TYPE_InstanceID"
  | .curTransportActions => some "CurrentTransportActions"
  | .unknown => none

def kZeroTime : String := "0:00:00"

def transportDefaultValues : TransportVar → String
  | .transportState => "STOPPED"
  | .transportStatus => "OK"
  | .playMedium => "SPDIF"
  | .recMedium => "NOT_IMPLEMENTED"
  | .playMedia => "SPDIF,UNKNOWN"
  | .recMedia => "NOT_IMPLEMENTED"
  | .curPlayMode => "NORMAL"
  | .transportPlaySpeed => "1"
  | .recMediumWrStatus => "NOT_IMPLEMENTED"
  | .curRecQualMode => "NOT_IMPLEMENTED"
  | .posRecQualMode => "NOT_IMPLEMENTED"
  | .nrTracks => "0"
  | .curTrack => "0"
  | .curTrackDur => kZeroTime
  | .curMediaDur => ""
  | .curTrackMeta => ""
  | .curTrackUri => ""
  | .avUri => ""
  | .avUriMeta => ""
  | .nextAvUri => ""
  | .nextAvUriMeta => ""
  | .relTimePos => kZeroTime
  | .absTimePos => "NOT_IMPLEMENTED"
  | .relCtrPos => "2147483647"
  | .absCtrPos => "2147483647"
  | .lastChange => "<Event xmlns=\"urn:schemas-upnp-org:metadata-1-0/AVT/\"/>"
  | .aatSeekMode => "TRACK_NR"
  | .aatSeekTarget => ""
  | .aatInstanceId => "0"
  | .curTransportActions => "PLAY"
  | .unknown => ""

/-- The variables in the order of their indices. -/
def transportVars : List TransportVar :=
  [.transportStatus, .nextAvUri, .nextAvUriMeta, .curTrackMeta, .relCtrPos, .aatInstanceId,
    .aatSeekTarget, .playMedium, .relTimePos, .recMedia, .curPlayMode, .transportPlaySpeed,
    .playMedia, .absTimePos, .curTrack, .curTrackUri, .curTransportActions, .nrTracks, .avUri,
    .absCtrPos, .curRecQualMode, .curMediaDur, .aatSeekMode, .avUriMeta, .recMedium,
    .recMediumWrStatus, .lastChange, .curTrackDur, .transportState, .posRecQualMode, .unknown]

theorem transportVars_nodup : transportVars.Nodup := by decide

theorem mem_transportVars (i : TransportVar) : i ∈ transportVars := by
  cases i <;> decide

instance : Fintype TransportVar := ⟨⟨transportVars, transportVars_nodup⟩, mem_transportVars⟩

theorem transportVariableNames_injective (i j : TransportVar) (n : String)
    (hi : transportVariableNames i = some n) (hj : transportVariableNames j = some n) : i = j := by
  have hall : ∀ i j, transportVariableNames i = transportVariableNames j →
      transportVariableNames i ≠ none → i = j := by decide +kernel
  exact hall i j (hi.trans hj.symm) (by simp [hi])

/-- The variable container of the service. -/
def transportTable : VariableTable TransportVar where
  vars := transportVars
  nodup := transportVars_nodup
  complete := mem_transportVars
  name := transportVariableNames
  lastChange := .lastChange
  name_lastChange := rfl
  name_injective := transportVariableNames_injective

inductive TransportState where
  | stopped
  | playing
  | transitioning
  | pausedPlayback
  | pausedRecording
  | recording
  | noMediaPresent
  deriving DecidableEq

def transportStates : TransportState → String
  | .stopped => "STOPPED"
  | .playing => "PLAYING"
  | .transitioning => "TRANSITIONING"
  | .pausedPlayback => "PAUSED_PLAYBACK"
  | .pausedRecording => "PAUSED_RECORDING"
  | .recording => "RECORDING"
  | .noMediaPresent => "NO_MEDIA_PRESENT"

/-- The state behind the service: its instance variables and the output module. -/
structure AvTransport where
  transportState : TransportState
  vars : Store TransportVar
  silan : SilanData

def upnpTransportETransitionNa : ℤ := 701

section Variables

/-- The number of tracks that go with a URI. -/
def tracks (uri : String) : String := if uri = "" then "0" else "1"

def replaceTransportUriAndMeta (v : Store TransportVar) (uri metadata : String) :
    Store TransportVar :=
  let v := v.replaceVar .avUri uri
  let v := v.replaceVar .avUriMeta metadata
  v.replaceVar .nrTracks (tracks uri)

def replaceCurrentUriAndMeta (v : Store TransportVar) (uri metadata : String) :
    Store TransportVar :=
  let v := v.replaceVar .curTrack (tracks uri)
  let v := v.replaceVar .curTrackUri uri
  v.replaceVar .curTrackMeta metadata

/-- The actions that a state offers; some states are never switched to. -/
def availableActions : TransportState → Option String
  | .stopped => some "PLAY"
  | .playing => some "PAUSE,STOP,SEEK"
  | .pausedPlayback => some "PLAY,STOP"
  | .transitioning | .pausedRecording | .recording | .noMediaPresent => none

/-- `change_transport_state` with its assertion as a hypothesis. -/
def changeTransportState (s : AvTransport) (newState : TransportState)
    (_ : newState ≠ .noMediaPresent) : AvTransport :=
  let r := s.vars.change .transportState (transportStates newState)
  let vars := if r.2 then
      match availableActions newState with
      | some actions => r.1.replaceVar .curTransportActions actions
      | none => r.1
    else r.1
  { s with transportState := newState, vars := vars }

def toStopped (s : AvTransport) : AvTransport := changeTransportState s .stopped nofun

def toPlaying (s : AvTransport) : AvTransport := changeTransportState s .playing nofun

def toPausedPlayback (s : AvTransport) : AvTransport :=
  changeTransportState s .pausedPlayback nofun

/-- Switching states leaves the variables of the streams alone. -/
theorem changeTransportState_values (s : AvTransport) (new : TransportState)
    (hnew : new ≠ .noMediaPresent) (i : TransportVar) (hi : i ≠ .transportState)
    (hi' : i ≠ .curTransportActions) :
    (changeTransportState s new hnew).vars.values i = s.vars.values i := by
  unfold changeTransportState
  simp only
  split_ifs
  · cases availableActions new <;> simp [hi, hi']
  · simp [hi]

@[simp] theorem changeTransportState_transportState (s : AvTransport) (new : TransportState)
    (hnew : new ≠ .noMediaPresent) : (changeTransportState s new hnew).transportState = new := rfl

@[simp] theorem changeTransportState_silan (s : AvTransport) (new : TransportState)
    (hnew : new ≠ .noMediaPresent) : (changeTransportState s new hnew).silan = s.silan := rfl

end Variables

section Handlers

variable (env : Env) (s : AvTransport)

def obtainInstanceid (e : ActionEvent) : ActionEvent × Bool :=
  match upnpGetString e "InstanceID" with
  | (e, some _) => (e, true)
  | (e, none) => (upnpSetError e upnpSoapEInvalidArgs "Missing InstanceID", false)

/-- The first step of every handler. -/
def withInstanceid (e : ActionEvent) (body : ActionEvent → Handled AvTransport) :
    Handled AvTransport :=
  match obtainInstanceid e with
  | (e, true) => body e
  | (e, false) => ⟨e, s, -1⟩

section Instanceid

variable (doc : Option (List Node)) (body : ActionEvent → Handled AvTransport)

theorem withInstanceid_given (e : ActionEvent)
    (h : (argument e.actionRequest "InstanceID").isSome = true) :
    withInstanceid s e body = body e := by
  obtain ⟨id, hid⟩ := Option.isSome_iff_exists.mp h
  simp [withInstanceid, obtainInstanceid, upnpGetString_of_some e _ id hid]

theorem withInstanceid_some (h : (argument doc "InstanceID").isSome = true) :
    withInstanceid s (newRequest doc) body = body (newRequest doc) :=
  withInstanceid_given s body (newRequest doc) h

/-- Without an instance the handler fails with an error and does nothing else. -/
theorem withInstanceid_missing (e : ActionEvent)
    (h : ¬ (argument e.actionRequest "InstanceID").isSome = true) :
    ∃ e', upnpGetString e "InstanceID" = (e', none) ∧ withInstanceid s e body =
      ⟨upnpSetError e' upnpSoapEInvalidArgs "Missing InstanceID", s, -1⟩ := by
  cases hget : upnpGetString e "InstanceID" with
  | mk e' arg =>
    cases arg with
    | none => exact ⟨e', rfl, by simp [withInstanceid, obtainInstanceid, hget]⟩
    | some id => simp [(upnpGetString_some hget).2] at h

theorem withInstanceid_none (h : ¬ (argument doc "InstanceID").isSome = true) :
    (withInstanceid s (newRequest doc) body).state = s := by
  obtain ⟨e', -, hfails⟩ := withInstanceid_missing s body (newRequest doc) h
  rw [hfails]

theorem withInstanceid_rc (e : ActionEvent)
    (h : ¬ (argument e.actionRequest "InstanceID").isSome = true) :
    (withInstanceid s e body).rc = -1 := by
  obtain ⟨e', -, hfails⟩ := withInstanceid_missing s body e h
  rw [hfails]

end Instanceid

/-- A handler that reports the values of variables. -/
def reportVariables (e : ActionEvent) (l : List (TransportVar × String)) :
    Handled AvTransport :=
  withInstanceid s e fun e => ⟨appendVariables e s.vars l, s, 0⟩

def getMediaInfo (e : ActionEvent) : Handled AvTransport :=
  reportVariables s e [(.nrTracks, "NrTracks"), (.curMediaDur, "MediaDuration"),
    (.avUri, "CurrentURI"), (.avUriMeta, "CurrentURIMetaData"), (.nextAvUri, "NextURI"),
    (.nextAvUriMeta, "NextURIMetaData"), (.recMedia, "PlayMedium"), (.recMedium, "RecordMedium"),
    (.recMediumWrStatus, "WriteStatus")]

def getTransportInfo (e : ActionEvent) : Handled AvTransport :=
  reportVariables s e [(.transportState, "CurrentTransportState"),
    (.transportStatus, "CurrentTransportStatus"), (.transportPlaySpeed, "CurrentSpeed")]

def getCurrentTransportactions (e : ActionEvent) : Handled AvTransport :=
  reportVariables s e [(.curTransportActions, "Actions")]

def getTransportSettings (e : ActionEvent) : Handled AvTransport := reportVariables s e []

def getDeviceCaps (e : ActionEvent) : Handled AvTransport := reportVariables s e []

def setAvtransportUri (e : ActionEvent) : Handled AvTransport :=
  withInstanceid s e fun e =>
    match upnpGetString e "CurrentURI" with
    | (e, none) => ⟨e, s, -1⟩
    | (e, some uri) =>
      let r := upnpGetString e "CurrentURIMetaData"
      -- a missing metadata argument counts as empty, though the error stays in the event
      let metadata := r.2.getD ""
      let vars := replaceTransportUriAndMeta s.vars uri metadata
      let vars := if s.transportState = .playing
        then replaceCurrentUriAndMeta vars uri metadata else vars
      ⟨r.1, { s with vars := vars, silan := outputSilanSetUri s.silan uri }, 0⟩

def setNextAvtransportUri (e : ActionEvent) : Handled AvTransport :=
  withInstanceid s e fun e =>
    match upnpGetString e "NextURI" with
    | (e, none) => ⟨e, s, -1⟩
    | (e, some nextUri) =>
      let s := { s with
        vars := s.vars.replaceVar .nextAvUri nextUri
        silan := outputSilanSetNextUri s.silan nextUri }
      match upnpGetString e "NextURIMetaData" with
      | (e, none) => ⟨e, s, -1⟩
      | (e, some metadata) => ⟨e, { s with vars := s.vars.replaceVar .nextAvUriMeta metadata }, 0⟩

/-- `update_track_time` -/
def updateTrackTime : AvTransport :=
  let r := outputSilanGetPosition env s.silan
  let vars := s.vars.replaceVar .curTrackDur (printUpnpTime r.2.1)
  let vars := vars.replaceVar .relTimePos (printUpnpTime r.2.2)
  { s with vars := vars, silan := r.1 }

def getPositionInfo (e : ActionEvent) : Handled AvTransport :=
  withInstanceid s e fun e =>
    let s := updateTrackTime env s
    ⟨appendVariables e s.vars [(.curTrack, "Track"), (.curTrackDur, "TrackDuration"),
      (.curTrackMeta, "TrackMetaData"), (.curTrackUri, "TrackURI"), (.relTimePos, "RelTime"),
      (.absTimePos, "AbsTime"), (.relCtrPos, "RelCount"), (.absCtrPos, "AbsCount")], s, 0⟩

/-- The error for an action that the transport state does not allow. -/
def transitionNa (e : ActionEvent) (action : String) : ActionEvent :=
  upnpSetError e upnpTransportETransitionNa
    ("Transition to " ++ action ++ " not allowed; allowed=" ++ s.vars.getVar .curTransportActions)

def stop (e : ActionEvent) : Handled AvTransport :=
  withInstanceid s e fun e =>
    match s.transportState with
    | .stopped => ⟨e, s, 0⟩
    | .playing | .transitioning | .pausedRecording | .recording | .pausedPlayback =>
      ⟨e, toStopped { s with silan := (outputSilanStop env s.silan).1 }, 0⟩
    | .noMediaPresent => ⟨transitionNa s e "STOP", s, 0⟩

/-- The part of `play` that starts or resumes playing. -/
def startPlaying (e : ActionEvent) : Handled AvTransport :=
  let r := outputSilanPlay env s.silan
  let s := { s with silan := r.1 }
  if r.2 ≠ 0 then ⟨upnpSetError e 704 "Playing failed", s, -1⟩
  else
    let s := toPlaying s
    let avUri := s.vars.getVar .avUri
    let avMeta := s.vars.getVar .avUriMeta
    ⟨e, { s with vars := replaceCurrentUriAndMeta s.vars avUri avMeta }, 0⟩

def play (e : ActionEvent) : Handled AvTransport :=
  withInstanceid s e fun e =>
    match s.transportState with
    | .playing => ⟨e, s, 0⟩
    | .stopped => startPlaying env { s with vars := s.vars.replaceVar .relTimePos kZeroTime } e
    | .pausedPlayback => startPlaying env s e
    | .noMediaPresent | .transitioning | .pausedRecording | .recording =>
      ⟨transitionNa s e "PLAY", s, -1⟩

def pauseStream (e : ActionEvent) : Handled AvTransport :=
  withInstanceid s e fun e =>
    match s.transportState with
    | .pausedPlayback => ⟨e, s, 0⟩
    | .playing =>
      let r := outputSilanPause env s.silan
      let s := { s with silan := r.1 }
      if r.2 ≠ 0 then ⟨upnpSetError e 704 "Pause failed", s, -1⟩
      else ⟨e, toPausedPlayback s, 0⟩
    | _ => ⟨transitionNa s e "PAUSE", s, -1⟩

def seek (e : ActionEvent) : Handled AvTransport :=
  withInstanceid s e fun e =>
    match upnpGetString e "Unit" with
    | (e, none) => ⟨e, s, -1⟩
    | (e, some unit) =>
      if unit = "REL_TIME" then
        match upnpGetString e "Target" with
        | (e, none) => ⟨e, s, -1⟩
        | (e, some target) =>
          let r := outputSilanSeek env s.silan (parseUpnpTime target)
          let s := { s with silan := r.1 }
          ⟨e, if r.2 = 0 then { s with vars := s.vars.replaceVar .relTimePos target } else s, 0⟩
      else ⟨e, s, 0⟩

end Handlers

/-- `transition_from_output` -/
def transitionFromOutput (s : AvTransport) : PlayFeedback → AvTransport
  | .playStopped =>
    let vars := replaceTransportUriAndMeta s.vars "" ""
    let vars := replaceCurrentUriAndMeta vars "" ""
    toStopped { s with vars := vars }
  | .playStartedNextStream =>
    let avUri := s.vars.getVar .nextAvUri
    let avMeta := s.vars.getVar .nextAvUriMeta
    let vars := replaceTransportUriAndMeta s.vars avUri avMeta
    let vars := replaceCurrentUriAndMeta vars avUri avMeta
    let vars := vars.replaceVar .nextAvUri ""
    { s with vars := vars.replaceVar .nextAvUriMeta "" }

@[simp] theorem transitionFromOutput_silan (s : AvTransport) (fb : PlayFeedback) :
    (transitionFromOutput s fb).silan = s.silan := by
  cases fb with
  | playStopped => simp only [transitionFromOutput, toStopped, changeTransportState_silan]
  | playStartedNextStream => simp only [transitionFromOutput]

/-- The actions of the service. -/
inductive TransportCmd where
  | getCurrentTransportActions
  | getDeviceCapabilities
  | getMediaInfo
  | getPositionInfo
  | getTransportInfo
  | getTransportSettings
  | pause
  | play
  | seek
  | setAvTransportUri
  | stop
  | setNextAvTransportUri
  deriving DecidableEq

/-- The handler that `transport_actions` gives for an action. -/
def transportActions (env : Env) (s : AvTransport) (e : ActionEvent) :
    TransportCmd → Handled AvTransport
  | .getCurrentTransportActions => getCurrentTransportactions s e
  | .getDeviceCapabilities => getDeviceCaps s e
  | .getMediaInfo => getMediaInfo s e
  | .getPositionInfo => getPositionInfo env s e
  | .getTransportInfo => getTransportInfo s e
  | .getTransportSettings => getTransportSettings s e
  | .pause => pauseStream env s e
  | .play => play env s e
  | .seek => seek env s e
  | .setAvTransportUri => setAvtransportUri s e
  | .stop => stop env s e
  | .setNextAvTransportUri => setNextAvtransportUri s e

section State

variable (s : AvTransport) {doc : Option (List Node)}

/-- An action without an instance leaves the service alone. -/
theorem transportActions_missing (env : Env) (cmd : TransportCmd)
    (h : ¬ (argument doc "InstanceID").isSome = true) :
    (transportActions env s (newRequest doc) cmd).state = s := by
  cases cmd <;> exact withInstanceid_none s doc _ h

theorem reportVariables_state (doc : Option (List Node)) (l : List (TransportVar × String)) :
    (reportVariables s (newRequest doc) l).state = s := by
  by_cases hid : (argument doc "InstanceID").isSome = true
  · rw [reportVariables, withInstanceid_some s doc _ hid]
  · exact withInstanceid_none s doc _ hid

end State

end GMediaRender.UpnpTransport
