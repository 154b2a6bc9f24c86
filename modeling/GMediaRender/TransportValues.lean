import GMediaRender.UpnpTransport

/-!
The five actions that steer a stream, and the feedback of the output, on the values of the
transport variables alone: without the record of the changes that listeners were told
about, and without the event of the request. What they do to the values is written as
functions of the values, so that it can be seen which of them commute.
-/
namespace GMediaRender.TransportValues

open XmlDoc StateVariables ActionRequest OutputSilan UpnpTransport UpnpTime

abbrev Values := TransportVar → String

section Values

/-- The transport state has been switched. -/
def switched (new : TransportState) (v : Values) : Values :=
  if v .transportState = transportStates new then v
  else
    let v := Function.update v .transportState (transportStates new)
    match availableActions new with
    | some actions => Function.update v .curTransportActions actions
    | none => v

/-- The time has been set to zero. -/
def rewound : Values → Values := fun v => Function.update v .relTimePos kZeroTime

/-- The current track has become the advertised one. -/
def trackStarted (v : Values) : Values
  | .curTrackUri => v .avUri
  | .curTrackMeta => v .avUriMeta
  | .curTrack => tracks (v .avUri)
  | i => v i

/-- The next stream has become the advertised one and the current track. -/
def nextStarted (v : Values) : Values
  | .avUri | .curTrackUri => v .nextAvUri
  | .avUriMeta | .curTrackMeta => v .nextAvUriMeta
  | .nrTracks | .curTrack => tracks (v .nextAvUri)
  | .nextAvUri | .nextAvUriMeta => ""
  | i => v i

/-- Nothing is advertised any more. -/
def cleared (v : Values) : Values
  | .avUri | .curTrackUri | .avUriMeta | .curTrackMeta => ""
  | .nrTracks | .curTrack => tracks ""
  | i => v i

def uriSet (uri metadata : String) (v : Values) : Values
  | .avUri => uri
  | .avUriMeta => metadata
  | .nrTracks => tracks uri
  | i => v i

/-- The next stream has been set; its metadata may be missing. -/
def queued (uri : String) (metadata : Option String) (v : Values) : Values
  | .nextAvUri => uri
  | .nextAvUriMeta => metadata.getD (v .nextAvUriMeta)
  | i => v i

variable (new : TransportState) (v : Values)

theorem switched_nextStarted : switched new (nextStarted v) = nextStarted (switched new v) := by
  have h : nextStarted v .transportState = v .transportState := rfl
  unfold switched
  rw [h]
  split_ifs
  · rfl
  · cases availableActions new <;> funext i <;> cases i <;> rfl

theorem switched_nextAvUri : switched new v .nextAvUri = v .nextAvUri := by
  unfold switched
  split_ifs
  · rfl
  · cases availableActions new <;> rfl

theorem rewound_nextStarted : rewound (nextStarted v) = nextStarted (rewound v) := by
  funext i
  cases i <;> rfl

theorem trackStarted_nextStarted : trackStarted (nextStarted v) = nextStarted (trackStarted v) := by
  funext i
  cases i <;> rfl

variable (uri : String) (metadata : Option String)

theorem switched_queued :
    switched new (queued uri metadata v) = queued uri metadata (switched new v) := by
  have h : queued uri metadata v .transportState = v .transportState := rfl
  unfold switched
  rw [h]
  split_ifs
  · rfl
  · cases availableActions new <;> funext i <;> cases i <;> rfl

theorem rewound_queued : rewound (queued uri metadata v) = queued uri metadata (rewound v) := by
  funext i
  cases i <;> rfl

theorem trackStarted_queued :
    trackStarted (queued uri metadata v) = queued uri metadata (trackStarted v) := by
  funext i
  cases i <;> rfl

theorem cleared_queued : cleared (queued uri metadata v) = queued uri metadata (cleared v) := by
  funext i
  cases i <;> rfl

theorem uriSet_queued (uri' metadata' : String) :
    uriSet uri' metadata' (queued uri metadata v) =
      queued uri metadata (uriSet uri' metadata' v) := by
  funext i
  cases i <;> rfl

end Values

section Stores

variable (v : Store TransportVar) (uri metadata : String)

theorem replaceTransportUriAndMeta_values :
    (replaceTransportUriAndMeta v uri metadata).values = uriSet uri metadata v.values := by
  funext i
  cases i <;> simp [replaceTransportUriAndMeta, uriSet]

theorem replaceCurrentUriAndMeta_values (h : v.values .avUri = uri)
    (h' : v.values .avUriMeta = metadata) :
    (replaceCurrentUriAndMeta v uri metadata).values = trackStarted v.values := by
  funext i
  cases i <;> simp [replaceCurrentUriAndMeta, trackStarted, h, h']

theorem clearVars_values :
    (replaceCurrentUriAndMeta (replaceTransportUriAndMeta v "" "") "" "").values =
      cleared v.values := by
  funext i
  cases i <;> simp [replaceTransportUriAndMeta, replaceCurrentUriAndMeta, cleared]

theorem transitionFromOutput_next_values (s : AvTransport) :
    (transitionFromOutput s .playStartedNextStream).vars.values = nextStarted s.vars.values := by
  funext i
  cases i <;> simp [transitionFromOutput, replaceTransportUriAndMeta, replaceCurrentUriAndMeta,
    nextStarted, Store.getVar]

theorem changeTransportState_values_eq (s : AvTransport) (new : TransportState)
    (hnew : new ≠ .noMediaPresent) :
    (changeTransportState s new hnew).vars.values = switched new s.vars.values := by
  simp only [changeTransportState, switched, Store.change_snd, Store.change_fst, decide_eq_true_eq]
  by_cases h : s.vars.values .transportState = transportStates new
  · rw [if_neg (by simp [h]), if_pos h, Store.replaceVar_values, ← h, Function.update_eq_self]
  · rw [if_pos (Ne.symm h), if_neg h]
    cases availableActions new <;> simp

end Stores

/-- What of the service's state is compared: the variables' values, not their changes. -/
structure Visible where
  state : TransportState
  values : Values
  silan : SilanData

def visible (s : AvTransport) : Visible := ⟨s.transportState, s.vars.values, s.silan⟩

/-- The actions that steer a stream. -/
inductive StreamAction where
  | setUri
  | setNextUri
  | play
  | pause
  | stop
  deriving DecidableEq

def StreamAction.command : StreamAction → TransportCmd
  | setUri => .setAvTransportUri
  | setNextUri => .setNextAvTransportUri
  | play => .play
  | pause => .pause
  | stop => .stop

/-- A request for one of the actions, and how its sends go. -/
structure Request where
  action : StreamAction
  doc : Option (List Node)
  env : Env

/-- The handler of the requested action, run as one step. -/
def act (s : AvTransport) (r : Request) : AvTransport :=
  (transportActions r.env s (newRequest r.doc) r.action.command).state

namespace Visible

variable (env : Env) (p : Visible)

def setUri (uri metadata : String) : Visible :=
  { p with
    values := if p.state = .playing then trackStarted (uriSet uri metadata p.values)
      else uriSet uri metadata p.values
    silan := outputSilanSetUri p.silan uri }

def setNextUri (uri : String) (metadata : Option String) : Visible :=
  { p with
    values := queued uri metadata p.values
    silan := outputSilanSetNextUri p.silan uri }

def startPlaying : Visible :=
  if (outputSilanPlay env p.silan).2 ≠ 0 then { p with silan := (outputSilanPlay env p.silan).1 }
  else ⟨.playing, trackStarted (switched .playing p.values), (outputSilanPlay env p.silan).1⟩

def play : Visible :=
  match p.state with
  | .stopped => startPlaying env { p with values := rewound p.values }
  | .pausedPlayback => startPlaying env p
  | _ => p

def pause : Visible :=
  if p.state = .playing then
    if (outputSilanPause env p.silan).2 ≠ 0
    then { p with silan := (outputSilanPause env p.silan).1 }
    else ⟨.pausedPlayback, switched .pausedPlayback p.values, (outputSilanPause env p.silan).1⟩
  else p

def stop : Visible :=
  if p.state = .stopped ∨ p.state = .noMediaPresent then p
  else ⟨.stopped, switched .stopped p.values, (outputSilanStop env p.silan).1⟩

def feedback : PlayFeedback → Visible
  | .playStopped => ⟨.stopped, switched .stopped (cleared p.values), p.silan⟩
  | .playStartedNextStream => { p with values := nextStarted p.values }

/-- The queued next URI becomes the current one. -/
def takeNext : Visible := { p with silan := OutputSilan.takeNext p.silan }

/-- The end-of-stream branch of the receiver, with its callback. -/
def endStream : Visible :=
  feedback { p with silan := (finishStream env p.silan).1 } (finishStream env p.silan).2

/-- What the receiver stores of a message. -/
def store (m : Message) : Visible :=
  if m.des = swaSignalUi then { p with silan := storeMessage p.silan m } else p

/-- What a request does: nothing if an argument that the handler needs is missing. -/
def act (r : Request) : Visible :=
  if (argument r.doc "InstanceID").isSome then
    match r.action with
    | .setUri =>
      match argument r.doc "CurrentURI" with
      | some uri => p.setUri uri ((argument r.doc "CurrentURIMetaData").getD "")
      | none => p
    | .setNextUri =>
      match argument r.doc "NextURI" with
      | some uri => p.setNextUri uri (argument r.doc "NextURIMetaData")
      | none => p
    | .play => p.play r.env
    | .pause => p.pause r.env
    | .stop => p.stop r.env
  else p

end Visible

section Refinement

variable (s : AvTransport) (env : Env) (e : ActionEvent)

theorem visible_startPlaying :
    visible (UpnpTransport.startPlaying env s e).state = (visible s).startPlaying env := by
  unfold UpnpTransport.startPlaying Visible.startPlaying
  by_cases h : (outputSilanPlay env s.silan).2 = 0
  · have hvalues : ∀ t : AvTransport, (replaceCurrentUriAndMeta t.vars (t.vars.getVar .avUri)
        (t.vars.getVar .avUriMeta)).values = trackStarted t.vars.values := fun t =>
      replaceCurrentUriAndMeta_values t.vars _ _ rfl rfl
    simp only [h, ne_eq, not_true, if_false, visible, hvalues, toPlaying,
      changeTransportState_values_eq, changeTransportState_transportState,
      changeTransportState_silan]
  · simp only [h, ne_eq, not_false_iff, if_true, visible]

theorem visible_feedback (fb : PlayFeedback) :
    visible (transitionFromOutput s fb) = (visible s).feedback fb := by
  cases fb with
  | playStopped =>
    simp only [transitionFromOutput, visible, toStopped, changeTransportState_values_eq,
      clearVars_values, changeTransportState_transportState, changeTransportState_silan,
      Visible.feedback]
  | playStartedNextStream =>
    have hstate : (transitionFromOutput s .playStartedNextStream).transportState =
      s.transportState := by simp only [transitionFromOutput]
    simp only [visible, Visible.feedback, transitionFromOutput_silan,
      transitionFromOutput_next_values, hstate]

theorem visible_setUri (doc : Option (List Node))
    (h : (argument doc "InstanceID").isSome = true) :
    visible (setAvtransportUri s (newRequest doc)).state =
      (visible s).act ⟨.setUri, doc, env⟩ := by
  rw [setAvtransportUri, withInstanceid_some _ _ _ h, Visible.act, if_pos h]
  rcases upnpGetString_cases doc "CurrentURI" with ⟨uri, harg, hget⟩ | ⟨harg, e, hget⟩
  · have hvalues : ∀ metadata, (replaceCurrentUriAndMeta
        (replaceTransportUriAndMeta s.vars uri metadata) uri metadata).values =
        trackStarted (uriSet uri metadata s.vars.values) := by
      intro metadata
      rw [replaceCurrentUriAndMeta_values, replaceTransportUriAndMeta_values] <;>
        simp [replaceTransportUriAndMeta_values, uriSet]
    have hmeta : (upnpGetString (newRequest doc) "CurrentURIMetaData").2 =
      argument doc "CurrentURIMetaData" := rfl
    by_cases hplaying : s.transportState = .playing
    · simp only [hget, harg, hmeta, visible, Visible.setUri, hplaying, if_true, hvalues]
    · simp only [hget, harg, hmeta, visible, Visible.setUri, hplaying, if_false,
        replaceTransportUriAndMeta_values]
  · simp only [hget, harg]

theorem visible_setNextUri (doc : Option (List Node))
    (h : (argument doc "InstanceID").isSome = true) :
    visible (setNextAvtransportUri s (newRequest doc)).state =
      (visible s).act ⟨.setNextUri, doc, env⟩ := by
  rw [setNextAvtransportUri, withInstanceid_some _ _ _ h, Visible.act, if_pos h]
  rcases upnpGetString_cases doc "NextURI" with ⟨uri, harg, hget⟩ | ⟨harg, e, hget⟩
  · simp only [hget, harg, visible, Visible.setNextUri]
    rcases upnpGetString_cases doc "NextURIMetaData" with
      ⟨metadata, hmeta, hget'⟩ | ⟨hmeta, e, hget'⟩
    · simp only [hget', hmeta, Visible.mk.injEq, true_and, and_true]
      funext i
      cases i <;> simp [queued]
    · simp only [hget', hmeta, Visible.mk.injEq, true_and, and_true]
      funext i
      cases i <;> simp [queued]
  · simp only [hget, harg]

theorem visible_play (doc : Option (List Node)) (h : (argument doc "InstanceID").isSome = true) :
    visible (UpnpTransport.play env s (newRequest doc)).state = (visible s).play env := by
  rw [UpnpTransport.play, withInstanceid_some _ _ _ h]
  unfold Visible.play
  cases hstate : s.transportState with
  | stopped =>
    simp only [visible_startPlaying]
    simp only [visible, hstate, Store.replaceVar_values]
    rfl
  | pausedPlayback =>
    simp only [visible_startPlaying]
    simp only [visible, hstate]
  | playing | transitioning | pausedRecording | recording | noMediaPresent =>
    simp only [visible, hstate]

theorem visible_pause (doc : Option (List Node))
    (h : (argument doc "InstanceID").isSome = true) :
    visible (pauseStream env s (newRequest doc)).state = (visible s).pause env := by
  rw [pauseStream, withInstanceid_some _ _ _ h]
  unfold Visible.pause
  cases hstate : s.transportState with
  | playing =>
    simp only [visible, hstate, if_true]
    split_ifs with hok
    · rfl
    · simp only [toPausedPlayback, changeTransportState_values_eq,
        changeTransportState_transportState, changeTransportState_silan]
  | stopped | transitioning | pausedRecording | recording | pausedPlayback | noMediaPresent =>
    simp [visible, hstate]

theorem visible_stop (doc : Option (List Node)) (h : (argument doc "InstanceID").isSome = true) :
    visible (UpnpTransport.stop env s (newRequest doc)).state = (visible s).stop env := by
  rw [UpnpTransport.stop, withInstanceid_some _ _ _ h]
  unfold Visible.stop
  cases hstate : s.transportState with
  | stopped | noMediaPresent => simp [visible, hstate]
  | playing | transitioning | pausedRecording | recording | pausedPlayback =>
    simp [visible, hstate, toStopped, changeTransportState_values_eq]

/-- A request does to the values what it does to the service. -/
theorem visible_act (r : Request) : visible (act s r) = (visible s).act r := by
  obtain ⟨action, doc, env⟩ := r
  by_cases h : (argument doc "InstanceID").isSome = true
  · cases action with
    | setUri => exact visible_setUri s env doc h
    | setNextUri => exact visible_setNextUri s env doc h
    | play =>
      rw [Visible.act, if_pos h]
      exact visible_play s env doc h
    | pause =>
      rw [Visible.act, if_pos h]
      exact visible_pause s env doc h
    | stop =>
      rw [Visible.act, if_pos h]
      exact visible_stop s env doc h
  · rw [Visible.act, if_neg h]
    exact congrArg visible (by cases action <;> exact withInstanceid_none s doc _ h)

end Refinement

section Aside

/-- The state and the values with a change that asks nothing about the transport state. -/
def Visible.map (g : Values → Values) (k : SilanData → SilanData) (p : Visible) : Visible :=
  ⟨p.state, g p.values, k p.silan⟩

/-- The changes commute with switching the transport state and with recording a command. -/
structure Aside (g : Values → Values) (k : SilanData → SilanData) : Prop where
  switched : ∀ new v, switched new (g v) = g (switched new v)
  record : ∀ d c, (k d).record c = k (d.record c)

/-- The changes commute with starting to play, too. -/
structure PlayAside (g : Values → Values) (k : SilanData → SilanData) : Prop
    extends Aside g k where
  rewound : ∀ v, rewound (g v) = g (rewound v)
  trackStarted : ∀ v, trackStarted (g v) = g (trackStarted v)
  outputSilanPlay : ∀ env d,
    outputSilanPlay env (k d) = (k (outputSilanPlay env d).1, (outputSilanPlay env d).2)

theorem outputSilanPlay_uriNext (env : Env) (d : SilanData) (next : Option String) :
    outputSilanPlay env { d with uriNext := next } =
      ({ (outputSilanPlay env d).1 with uriNext := next }, (outputSilanPlay env d).2) := by
  rcases Option.eq_none_or_eq_some d.uri with huri | ⟨uri, huri⟩
  · rw [outputSilanPlay_none env d huri, outputSilanPlay_none env { d with uriNext := next } huri]
    by_cases hpause : d.state = slmpStatePause
    · rw [if_pos hpause, if_pos hpause, outputSilanPause_eq, outputSilanPause_eq]
      rfl
    · rw [if_neg hpause, if_neg hpause]
  · rw [outputSilanPlay_some env d uri huri,
      outputSilanPlay_some env { d with uriNext := next } uri huri]
    rfl

/-- Setting the next stream, in the variables and in the output module. -/
theorem playAside_queued (uri : String) (metadata next : Option String) :
    PlayAside (queued uri metadata) (fun d => { d with uriNext := next }) where
  switched := fun new v => switched_queued new v uri metadata
  record := fun _ _ => rfl
  rewound := fun v => rewound_queued v uri metadata
  trackStarted := fun v => trackStarted_queued v uri metadata
  outputSilanPlay := fun env d => outputSilanPlay_uriNext env d next

/-- What the callback for the next stream does. -/
theorem playAside_nextStarted : PlayAside nextStarted id where
  switched := switched_nextStarted
  record := fun _ _ => rfl
  rewound := rewound_nextStarted
  trackStarted := trackStarted_nextStarted
  outputSilanPlay := fun _ _ => rfl

/-- Taking the queued next URI. It does not commute with playing, which gives up the URI. -/
theorem aside_takeNext : Aside id OutputSilan.takeNext where
  switched := fun _ _ => rfl
  record := fun _ _ => rfl

variable {g : Values → Values} {k : SilanData → SilanData} (p : Visible) (env : Env)

theorem Aside.pause (h : Aside g k) : (p.map g k).pause env = (p.pause env).map g k := by
  unfold Visible.pause
  simp only [Visible.map, outputSilanPause_eq, h.switched, h.record]
  split_ifs <;> rfl

theorem Aside.stop (h : Aside g k) : (p.map g k).stop env = (p.stop env).map g k := by
  unfold Visible.stop
  simp only [Visible.map, outputSilanStop_eq, h.switched, h.record]
  split_ifs <;> rfl

theorem PlayAside.startPlaying (h : PlayAside g k) :
    (p.map g k).startPlaying env = (p.startPlaying env).map g k := by
  unfold Visible.startPlaying
  simp only [Visible.map, h.outputSilanPlay, h.switched, h.trackStarted]
  split_ifs <;> rfl

theorem PlayAside.play (h : PlayAside g k) : (p.map g k).play env = (p.play env).map g k := by
  have hstate : (p.map g k).state = p.state := rfl
  unfold Visible.play
  rw [hstate]
  cases p.state with
  | stopped =>
    simp only [Visible.map, h.rewound]
    exact h.startPlaying ⟨.stopped, TransportValues.rewound p.values, p.silan⟩ env
  | pausedPlayback => exact h.startPlaying p env
  | playing | transitioning | pausedRecording | recording | noMediaPresent => rfl

end Aside

section Commuting

variable (p : Visible) (r : Request)

/-- The request has the arguments that its handler needs. -/
def Request.accepted : Bool :=
  (argument r.doc "InstanceID").isSome &&
    match r.action with
    | .setUri => (argument r.doc "CurrentURI").isSome
    | .setNextUri => (argument r.doc "NextURI").isSome
    | _ => true

theorem act_of_not_accepted (h : ¬r.accepted = true) : p.act r = p := by
  obtain ⟨action, doc, env⟩ := r
  unfold Visible.act
  by_cases hdoc : (argument doc "InstanceID").isSome = true
  · rw [if_pos hdoc]
    cases action with
    | setUri =>
      have hnone : argument doc "CurrentURI" = none := by
        simpa [Request.accepted, hdoc] using h
      simp only [hnone]
    | setNextUri =>
      have hnone : argument doc "NextURI" = none := by
        simpa [Request.accepted, hdoc] using h
      simp only [hnone]
    | play | pause | stop => simp [Request.accepted, hdoc] at h
  · rw [if_neg hdoc]

/-- An accepted request for the next URI sets it. -/
theorem act_setNextUri_eq (n : Request) (hn : n.action = .setNextUri) (h : n.accepted = true) :
    ∃ uri metadata, ∀ q : Visible, q.act n = q.setNextUri uri metadata := by
  obtain ⟨action, doc, env⟩ := n
  obtain rfl : action = .setNextUri := hn
  simp only [Request.accepted, Bool.and_eq_true] at h
  obtain ⟨uri, huri⟩ := Option.isSome_iff_exists.mp h.2
  refine ⟨uri, argument doc "NextURIMetaData", fun q => ?_⟩
  simp only [Visible.act, h.1, if_true, huri]

/-- A request that does not set a URI. -/
def Request.KeepsUris (r : Request) : Prop :=
  r.accepted = true → r.action ≠ .setUri ∧ r.action ≠ .setNextUri

/-- A request that does not set a URI, and does not play one. -/
def Request.Quiet (r : Request) (state : TransportState) : Prop :=
  r.KeepsUris ∧
    (r.accepted = true → r.action = .play → state ≠ .stopped ∧ state ≠ .pausedPlayback)

variable {g : Values → Values} {k : SilanData → SilanData}

/-- Where playing commutes with an aside, every request does that sets no URI. -/
theorem Aside.act_of_play (h : Aside g k) (hr : r.KeepsUris)
    (hplay : r.accepted = true → r.action = .play →
      (p.map g k).play r.env = (p.play r.env).map g k) :
    (p.map g k).act r = (p.act r).map g k := by
  by_cases hacc : r.accepted = true
  · obtain ⟨hset, hnext⟩ := hr hacc
    have hplay := hplay hacc
    obtain ⟨action, doc, env⟩ := r
    unfold Visible.act
    split_ifs
    · cases action with
      | setUri => exact absurd rfl hset
      | setNextUri => exact absurd rfl hnext
      | play => exact hplay rfl
      | pause => exact h.pause p env
      | stop => exact h.stop p env
    · rfl
  · rw [act_of_not_accepted p r hacc, act_of_not_accepted _ r hacc]

theorem PlayAside.act (h : PlayAside g k) (hr : r.KeepsUris) :
    (p.map g k).act r = (p.act r).map g k :=
  h.toAside.act_of_play p r hr fun _ _ => h.play p r.env

theorem play_of_state (env : Env) (h : p.state ≠ .stopped ∧ p.state ≠ .pausedPlayback) :
    p.play env = p := by
  unfold Visible.play
  cases hstate : p.state with
  | stopped => exact absurd hstate h.1
  | pausedPlayback => exact absurd hstate h.2
  | playing | transitioning | pausedRecording | recording | noMediaPresent => rfl

theorem Aside.act (h : Aside g k) (hr : r.Quiet p.state) :
    (p.map g k).act r = (p.act r).map g k := by
  refine h.act_of_play p r hr.1 fun hacc hplay => ?_
  have hstate := hr.2 hacc hplay
  rw [play_of_state p r.env hstate]
  exact play_of_state (p.map g k) r.env hstate

/-- The callback for the next stream commutes with the requests that set no URI. -/
theorem act_next (h : r.KeepsUris) : (p.act r).feedback .playStartedNextStream =
    (p.feedback .playStartedNextStream).act r :=
  (playAside_nextStarted.act p r h).symm

/-- Taking the next URI commutes with the quiet requests. -/
theorem act_takeNext (h : r.Quiet p.state) : p.takeNext.act r = (p.act r).takeNext :=
  aside_takeNext.act p r h

/-- Setting the next stream commutes with the other requests. -/
theorem act_queued (uri : String) (metadata next : Option String)
    (h : r.accepted = true → r.action ≠ .setNextUri) :
    (p.map (queued uri metadata) (fun d => { d with uriNext := next })).act r =
      (p.act r).map (queued uri metadata) (fun d => { d with uriNext := next }) := by
  by_cases hset : r.action = .setUri
  · obtain ⟨action, doc, env⟩ := r
    obtain rfl : action = .setUri := hset
    simp only [Visible.act]
    split_ifs
    · cases argument doc "CurrentURI" with
      | none => rfl
      | some uri' =>
        simp only [Visible.setUri, Visible.map, uriSet_queued, trackStarted_queued]
        split_ifs <;> rfl
    · rfl
  · exact (playAside_queued uri metadata next).act p r fun hacc => ⟨hset, h hacc⟩

theorem act_setNextUri (n : Request) (hn : n.action = .setNextUri) (hr : r.action ≠ .setNextUri) :
    (p.act n).act r = (p.act r).act n := by
  by_cases hacc : n.accepted = true
  · obtain ⟨uri, metadata, hset⟩ := act_setNextUri_eq n hn hacc
    rw [hset, hset]
    exact act_queued p r uri metadata (nonEmpty uri) fun _ => hr
  · rw [act_of_not_accepted p n hacc, act_of_not_accepted (p.act r) n hacc]

/-- The callback for the end of playing commutes with setting the next URI. -/
theorem act_stopped (n : Request) (hn : n.action = .setNextUri) :
    (p.act n).feedback .playStopped = (p.feedback .playStopped).act n := by
  by_cases hacc : n.accepted = true
  · obtain ⟨uri, metadata, hset⟩ := act_setNextUri_eq n hn hacc
    rw [hset, hset]
    simp only [Visible.feedback, Visible.setNextUri, cleared_queued, switched_queued]
  · rw [act_of_not_accepted p n hacc, act_of_not_accepted _ n hacc]

/-- Only a request for the next URI changes NextAVTransportURI and the queued next URI: the
others commute with setting them to what they are. -/
theorem act_next_eq (h : r.accepted = true → r.action ≠ .setNextUri) :
    (p.act r).values .nextAvUri = p.values .nextAvUri ∧
      (p.act r).silan.uriNext = p.silan.uriNext := by
  have hself : p.map (queued (p.values .nextAvUri) none)
      (fun d => { d with uriNext := p.silan.uriNext }) = p := by
    have hvalues : queued (p.values .nextAvUri) none p.values = p.values := by
      funext i
      cases i <;> rfl
    simp only [Visible.map, hvalues]
  have hact := act_queued p r (p.values .nextAvUri) none p.silan.uriNext h
  rw [hself] at hact
  have hvalue := congrArg (fun q : Visible => q.values .nextAvUri) hact
  have hqueued := congrArg (fun q : Visible => q.silan.uriNext) hact
  exact ⟨hvalue, hqueued⟩

theorem store_uriNext (m : Message) : (p.store m).silan.uriNext = p.silan.uriNext := by
  unfold Visible.store
  split_ifs
  · unfold storeMessage
    cases m.cmd <;> rfl
  · rfl

theorem endStream_of_none (env : Env) (h : p.silan.uriNext = none) :
    p.endStream env = p.feedback .playStopped := by
  simp only [Visible.endStream, finishStream, h]

/-- The three steps of the receiver, one after the other. -/
theorem endStream_of_some (env : Env) (h : p.silan.uriNext ≠ none) : p.endStream env =
    Visible.feedback { p with silan := (outputSilanSendCmd env p.takeNext.silan .slmpPlayUri 0
      p.takeNext.silan.uri).1 } .playStartedNextStream := by
  obtain ⟨uri, huri⟩ := Option.ne_none_iff_exists'.mp h
  simp only [Visible.endStream, finishStream, huri, Visible.takeNext, OutputSilan.takeNext]

end Commuting

end GMediaRender.TransportValues
