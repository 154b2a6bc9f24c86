import GMediaRender.ContainerRuns

/-!
The AVTransport service in memory: its handlers and the end of a stream with the addresses
they pass on. An action may hand the address of one variable's value to the change of
another, and `silan_data` owns copies of the URIs of the current and the next stream in the
same heap. Every handler does in memory what it does on values, whatever the addresses.
The end of a stream is one step here as the handlers are, although `output_silan_recv_cmd` frees
and moves the URIs in a thread of its own and under no mutex.
-/
namespace GMediaRender.TransportMemory

open XmlDoc VariableContainer StateVariables ActionRequest OutputSilan UpnpTime UpnpTransport
  OwnedHeap ContainerMemory ContainerRuns

/-- The service with its container; `silan` is `silan_data` but for its two pointers. -/
structure ServiceMemory where
  transportState : TransportState
  container : Memory TransportVar
  silan : SilanData
  uri : Option ℕ
  uriNext : Option ℕ

def ServiceMemory.setHeap (m : ServiceMemory) (heap : Heap Cell) : ServiceMemory :=
  { m with container := { m.container with heap := heap } }

variable (A : Allocator) (S : Node → String)

section Output

/-- `free` of a pointer that may be NULL. -/
def release (m : ServiceMemory) : Option ℕ → Option ServiceMemory
  | none => some m
  | some a => (m.container.heap.free a).map m.setHeap

/-- The copy of a URI that is kept: none of a missing or an empty one. -/
def keepCopy (m : ServiceMemory) : Pointer → Option (Option ℕ × ServiceMemory)
  | .null => some (none, m)
  | p => do
    let s ← readString m.container.heap p
    if s = "" then pure (none, m)
    else
      let (a, heap) := m.container.heap.malloc A (.string s)
      pure (some a, m.setHeap heap)

/-- `output_silan_set_uri` -/
def silanSetUri (m : ServiceMemory) (uri : Pointer) : Option ServiceMemory := do
  let m ← release m m.uri
  let (copy, m) ← keepCopy A m uri
  pure { m with uri := copy }

/-- `output_silan_set_next_uri` -/
def silanSetNextUri (m : ServiceMemory) (uri : Pointer) : Option ServiceMemory := do
  let m ← release m m.uriNext
  let (copy, m) ← keepCopy A m uri
  pure { m with uriNext := copy }

/-- `output_silan_send_cmd`, which copies the data into the message. -/
def silanSend (env : Env) (m : ServiceMemory) (cmd : Cmd) (param : ℤ) (data : Option ℕ) :
    Option (ServiceMemory × ℤ) := do
  let text ← match data with
    | none => pure none
    | some a => (readString m.container.heap (.block a)).map some
  let r := outputSilanSendCmd env m.silan cmd param text
  pure ({ m with silan := r.1 }, r.2)

/-- The data of the module when a stream is about to start. -/
def resetPosition (d : SilanData) : SilanData :=
  { d.setStatus .spdifin false with duration := 0, position := 0 }

/-- `output_silan_play` -/
def silanPlay (env : Env) (m : ServiceMemory) : Option (ServiceMemory × ℤ) :=
  match m.uri with
  | some a => do
    let (m, res) ← silanSend env { m with silan := resetPosition m.silan } .slmpPlayUri 0 (some a)
    let m ← release m (some a)
    pure ({ m with uri := none }, res)
  | none =>
    if m.silan.state = slmpStatePause then silanSend env m .slmpPause 0 none
    else some (m, -1)

end Output

section Variables

/-- The service's `replace_var` -/
def replaceVar (m : ServiceMemory) (i : TransportVar) (value : Pointer) :
    Option (ServiceMemory × Bool) :=
  (ContainerMemory.change A transportTable S m.container i value).map fun r =>
    ({ m with container := r.1 }, r.2)

/-- The service's `get_var` -/
def getVar (m : ServiceMemory) (i : TransportVar) : Pointer :=
  ContainerMemory.get transportTable m.container i

def serviceLock (m : ServiceMemory) : ServiceMemory :=
  { m with container := ContainerMemory.start m.container }

def serviceUnlock (m : ServiceMemory) : Option ServiceMemory :=
  (ContainerMemory.finish A transportTable S m.container).map fun c =>
    { m with container := c }

/-- `(uri != NULL && strlen(uri) > 0) ? "1" : "0"` -/
def countTracks (m : ServiceMemory) : Pointer → Option String
  | .null => some "0"
  | p => (readString m.container.heap p).map tracks

/-- The metadata are looked at once more at the end, to see whether to update them. -/
def replaceTransportUriAndMeta (m : ServiceMemory) (uri metadata : Pointer) :
    Option ServiceMemory := do
  let (m, _) ← replaceVar A S m .avUri uri
  let (m, _) ← replaceVar A S m .avUriMeta metadata
  let n ← countTracks m uri
  let (m, _) ← replaceVar A S m .nrTracks (.outside n)
  let _ ← readString m.container.heap metadata
  pure m

def replaceCurrentUriAndMeta (m : ServiceMemory) (uri metadata : Pointer) :
    Option ServiceMemory := do
  let n ← countTracks m uri
  let (m, _) ← replaceVar A S m .curTrack (.outside n)
  let (m, _) ← replaceVar A S m .curTrackUri uri
  let (m, _) ← replaceVar A S m .curTrackMeta metadata
  pure m

/-- `change_transport_state` -/
def changeTransportState (m : ServiceMemory) (newState : TransportState) :
    Option ServiceMemory := do
  let (m, changed) ← replaceVar A S { m with transportState := newState }
    .transportState (.outside (transportStates newState))
  if changed then
    match availableActions newState with
    | some actions => do
      let (m, _) ← replaceVar A S m .curTransportActions (.outside actions)
      pure m
    | none => pure m
  else pure m

end Variables

section Handlers

variable (env : Env) (m : ServiceMemory)

def obtaining (e : ActionEvent) (body : ActionEvent → Option (Handled ServiceMemory)) :
    Option (Handled ServiceMemory) :=
  match obtainInstanceid e with
  | (e, true) => body e
  | (e, false) => some ⟨e, m, -1⟩

/-- A handler's body between `service_lock` and `service_unlock`. -/
def locked (body : ServiceMemory → Option (Handled ServiceMemory)) :
    Option (Handled ServiceMemory) := do
  let r ← body (serviceLock m)
  let m ← serviceUnlock A S r.state
  pure { r with state := m }

/-- An argument of the request, NULL when it is missing or without content. -/
def ofArgument : Option String → Pointer
  | none => .null
  | some s => .outside s

/-- `upnp_append_variable` for a list of variables. -/
def appendVariables (e : ActionEvent) (l : List (TransportVar × String)) :
    Option ActionEvent :=
  l.foldlM (fun e v => (readString m.container.heap (getVar m v.1)).map
    (upnpAddResponse e v.2)) e

def reportVariables (e : ActionEvent) (l : List (TransportVar × String)) :
    Option (Handled ServiceMemory) :=
  obtaining m e fun e => (appendVariables m e l).map fun e => ⟨e, m, 0⟩

def setAvtransportUri (e : ActionEvent) : Option (Handled ServiceMemory) :=
  obtaining m e fun e =>
    match upnpGetString e "CurrentURI" with
    | (e, none) => some ⟨e, m, -1⟩
    | (e, some uri) => locked A S m fun m => do
      let r := upnpGetString e "CurrentURIMetaData"
      let m ← replaceTransportUriAndMeta A S m (.outside uri) (.outside (r.2.getD ""))
      let m ← if m.transportState = .playing
        then replaceCurrentUriAndMeta A S m (.outside uri) (ofArgument r.2)
        else pure m
      let m ← silanSetUri A m (.outside uri)
      pure ⟨r.1, m, 0⟩

def setNextAvtransportUri (e : ActionEvent) : Option (Handled ServiceMemory) :=
  obtaining m e fun e =>
    match upnpGetString e "NextURI" with
    | (e, none) => some ⟨e, m, -1⟩
    | (e, some nextUri) => locked A S m fun m => do
      let m ← silanSetNextUri A m (.outside nextUri)
      let (m, _) ← replaceVar A S m .nextAvUri (.outside nextUri)
      match upnpGetString e "NextURIMetaData" with
      | (e, none) => pure ⟨e, m, -1⟩
      | (e, some metadata) =>
        let (m, _) ← replaceVar A S m .nextAvUriMeta (.outside metadata)
        pure ⟨e, m, 0⟩

/-- `update_track_time`; `output_silan_get_position` never fails. -/
def updateTrackTime : Option ServiceMemory := do
  let (m, _) ← silanSend env m .slmpGetTimePos 0 none
  let m := serviceLock m
  let (m, _) ← replaceVar A S m .curTrackDur (.outside (printUpnpTime m.silan.duration))
  let (m, _) ← replaceVar A S m .relTimePos (.outside (printUpnpTime m.silan.position))
  serviceUnlock A S m

def getPositionInfo (e : ActionEvent) : Option (Handled ServiceMemory) :=
  obtaining m e fun e => do
    let m ← updateTrackTime A S env m
    let e ← appendVariables m e [(.curTrack, "Track"), (.curTrackDur, "TrackDuration"),
      (.curTrackMeta, "TrackMetaData"), (.curTrackUri, "TrackURI"), (.relTimePos, "RelTime"),
      (.absTimePos, "AbsTime"), (.relCtrPos, "RelCount"), (.absCtrPos, "AbsCount")]
    pure ⟨e, m, 0⟩

/-- The error for an action that the state does not allow, with the actions it allows. -/
def transitionNa (e : ActionEvent) (action : String) : Option ActionEvent :=
  (readString m.container.heap (getVar m .curTransportActions)).map fun actions =>
    upnpSetError e upnpTransportETransitionNa
      ("Transition to " ++ action ++ " not allowed; allowed=" ++ actions)

def stop (e : ActionEvent) : Option (Handled ServiceMemory) :=
  obtaining m e fun e => locked A S m fun m =>
    match m.transportState with
    | .stopped => some ⟨e, m, 0⟩
    | .playing | .transitioning | .pausedRecording | .recording | .pausedPlayback => do
      let (m, _) ← silanSend env m .slmpStop 0 none
      let m ← changeTransportState A S m .stopped
      pure ⟨e, m, 0⟩
    | .noMediaPresent => (transitionNa m e "STOP").map fun e => ⟨e, m, 0⟩

def startPlaying (e : ActionEvent) : Option (Handled ServiceMemory) := do
  let (m, res) ← silanPlay env m
  if res ≠ 0 then pure ⟨upnpSetError e 704 "Playing failed", m, -1⟩
  else
    let m ← changeTransportState A S m .playing
    let m ← replaceCurrentUriAndMeta A S m (getVar m .avUri) (getVar m .avUriMeta)
    pure ⟨e, m, 0⟩

def play (e : ActionEvent) : Option (Handled ServiceMemory) :=
  obtaining m e fun e => locked A S m fun m =>
    match m.transportState with
    | .playing => some ⟨e, m, 0⟩
    | .stopped => do
      let (m, _) ← replaceVar A S m .relTimePos (.outside kZeroTime)
      startPlaying A S env m e
    | .pausedPlayback => startPlaying A S env m e
    | .noMediaPresent | .transitioning | .pausedRecording | .recording =>
      (transitionNa m e "PLAY").map fun e => ⟨e, m, -1⟩

def pauseStream (e : ActionEvent) : Option (Handled ServiceMemory) :=
  obtaining m e fun e => locked A S m fun m =>
    match m.transportState with
    | .pausedPlayback => some ⟨e, m, 0⟩
    | .playing => do
      let (m, res) ← silanSend env m .slmpPause 0 none
      if res ≠ 0 then pure ⟨upnpSetError e 704 "Pause failed", m, -1⟩
      else
        let m ← changeTransportState A S m .pausedPlayback
        pure ⟨e, m, 0⟩
    | _ => (transitionNa m e "PAUSE").map fun e => ⟨e, m, -1⟩

def seek (e : ActionEvent) : Option (Handled ServiceMemory) :=
  obtaining m e fun e =>
    match upnpGetString e "Unit" with
    | (e, none) => some ⟨e, m, -1⟩
    | (e, some unit) =>
      if unit = "REL_TIME" then
        match upnpGetString e "Target" with
        | (e, none) => some ⟨e, m, -1⟩
        | (e, some target) => locked A S m fun m => do
          let (m, res) ← silanSend env m .slmpSeek (parseUpnpTime target) none
          if res = 0 then
            let (m, _) ← replaceVar A S m .relTimePos (.outside target)
            pure ⟨e, m, 0⟩
          else pure ⟨e, m, 0⟩
      else some ⟨e, m, 0⟩

/-- The handler that `transport_actions` gives for an action. -/
def transportActions (e : ActionEvent) : TransportCmd → Option (Handled ServiceMemory)
  | .getCurrentTransportActions => reportVariables m e [(.curTransportActions, "Actions")]
  | .getDeviceCapabilities => reportVariables m e []
  | .getMediaInfo => reportVariables m e [(.nrTracks, "NrTracks"),
      (.curMediaDur, "MediaDuration"), (.avUri, "CurrentURI"),
      (.avUriMeta, "CurrentURIMetaData"), (.nextAvUri, "NextURI"),
      (.nextAvUriMeta, "NextURIMetaData"), (.recMedia, "PlayMedium"),
      (.recMedium, "RecordMedium"), (.recMediumWrStatus, "WriteStatus")]
  | .getPositionInfo => getPositionInfo A S env m e
  | .getTransportInfo => reportVariables m e [(.transportState, "CurrentTransportState"),
      (.transportStatus, "CurrentTransportStatus"), (.transportPlaySpeed, "CurrentSpeed")]
  | .getTransportSettings => reportVariables m e []
  | .pause => pauseStream A S env m e
  | .play => play A S env m e
  | .seek => seek A S env m e
  | .setAvTransportUri => setAvtransportUri A S m e
  | .stop => stop A S env m e
  | .setNextAvTransportUri => setNextAvtransportUri A S m e

end Handlers

section Feedback

/-- `transition_from_output`: the next stream's addresses are used for the whole of it. -/
def transitionFromOutput (m : ServiceMemory) (fb : PlayFeedback) : Option ServiceMemory :=
  let m := serviceLock m
  match fb with
  | .playStopped => do
    let m ← replaceTransportUriAndMeta A S m (.outside "") (.outside "")
    let m ← replaceCurrentUriAndMeta A S m (.outside "") (.outside "")
    let m ← changeTransportState A S m .stopped
    serviceUnlock A S m
  | .playStartedNextStream => do
    let avUri := getVar m .nextAvUri
    let avMeta := getVar m .nextAvUriMeta
    let m ← replaceTransportUriAndMeta A S m avUri avMeta
    let m ← replaceCurrentUriAndMeta A S m avUri avMeta
    let (m, _) ← replaceVar A S m .nextAvUri (.outside "")
    let (m, _) ← replaceVar A S m .nextAvUriMeta (.outside "")
    serviceUnlock A S m

/-- The end of a stream: the block of the next URI becomes that of the current one. No handler
runs meanwhile. -/
def silanFinishStream (env : Env) (m : ServiceMemory) : Option (ServiceMemory × PlayFeedback) :=
  match m.uriNext with
  | some a => do
    let m ← release m m.uri
    let (m, _) ← silanSend env { m with uri := some a, uriNext := none } .slmpPlayUri 0 (some a)
    pure (m, .playStartedNextStream)
  | none => some (m, .playStopped)

/-- One round of `output_silan_recv_cmd` with the callback it makes. -/
def silanRecvCmd (env : Env) (m : ServiceMemory) (msg : Message) : Option ServiceMemory :=
  if msg.des ≠ swaSignalUi then some m
  else
    let m := { m with silan := storeMessage m.silan msg }
    if msg.cmd = .slmpPlayState && endOfStream m.silan then do
      let (m, fb) ← silanFinishStream env m
      transitionFromOutput A S m fb
    else some m

end Feedback

end GMediaRender.TransportMemory
