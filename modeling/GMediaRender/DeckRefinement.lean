import GMediaRender.DeckModel
import GMediaRender.RendererSystem
import GMediaRender.SeekTargets

/-!
The renderer refines the deck: every action, key, message and watchdog pass does to the
deck of the renderer what its input does, and sends the deck's commands.
-/
namespace GMediaRender.DeckRefinement

open XmlDoc StateVariables ActionRequest OutputSilan UpnpTransport UpnpControl UpnpTime
open SeekTargets RendererSystem DeckModel Runs

section Abstraction

/-- The deck of a renderer. -/
def deckOf (s : AvTransport) : Deck where
  state := s.transportState
  avUri := s.vars.values .avUri
  nextAvUri := s.vars.values .nextAvUri
  curTrackUri := s.vars.values .curTrackUri
  player := s.silan.state
  uri := s.silan.uri
  uriNext := s.silan.uriNext
  spdifin := s.silan.status .spdifin
  duration := s.silan.duration
  position := s.silan.position

def deck (s : Renderer) : Deck := deckOf s.transport

def sentCommand (c : SentCmd) : Option Command :=
  match c.cmd with
  | .slmpPlayUri => some (.playUri (c.data.getD "") c.delivered)
  | .slmpPause => some (.pause c.delivered)
  | .slmpStop => some (.stop c.delivered)
  | _ => none

/-- The commands of the deck among the commands sent. -/
def commands (l : List SentCmd) : List Command := l.filterMap sentCommand

/-- The input of the deck in an action that reaches its handler's body. -/
def transportInput (doc : Option (List Node)) (env : Env) : TransportCmd → Input
  | .setAvTransportUri =>
    match argument doc "CurrentURI" with
    | some uri => .setUri uri
    | none => .nothing
  | .setNextAvTransportUri =>
    match argument doc "NextURI" with
    | some uri => .setNextUri uri
    | none => .nothing
  | .play => .play (env .slmpPlayUri).msgsnd (env .slmpPause).msgsnd
  | .pause => .pause (env .slmpPause).msgsnd
  | .stop => .stop (env .slmpStop).msgsnd
  | .getPositionInfo => .ofPosition (positionReply env)
  | _ => .nothing

def messageInput (m : Message) (env : Env) : Input :=
  if m.des ≠ swaSignalUi then .nothing
  else match m.cmd with
    | .slmpSetTimePos => .setPosition m.param
    | .slmpSetTotalTime => .setDuration m.param
    | .slmpPlayState => .playState m.param (env .slmpPlayUri).msgsnd
    | _ => .nothing

/-- The watchdog switches to SPDIF-in in this pass. -/
def autoSpdifin (s : Renderer) : Bool :=
  !s.silan.status .spdifin && s.silan.state ≠ slmpStatePlay &&
    s.counters.cntStop = silanAutoSpdifin

/-- What an event of the renderer is to its deck. -/
def input (s : Renderer) : Event → Input
  | .action (.transport cmd) doc env =>
    if (argument doc "InstanceID").isSome then transportInput doc env cmd else .nothing
  | .action (.control _) _ _ => .nothing
  | .key .radio _ => .radio
  | .key _ _ => .nothing
  | .message m env => messageInput m env
  | .idlePass _ _ => if autoSpdifin s then .toSpdifin else .nothing

end Abstraction

/-- The renderer's part goes from `s` to `s'` as its deck does on an input. -/
def Refines (s s' : AvTransport) (i : Input) : Prop :=
  deckOf s' = ((deckOf s).step i).1 ∧
  ∃ new, s'.silan.sent = s.silan.sent ++ new ∧ commands new = ((deckOf s).step i).2

theorem Refines.nothing (s : AvTransport) : Refines s s .nothing :=
  ⟨rfl, [], by simp, rfl⟩

theorem refines_setUri (s : AvTransport) (doc : Option (List Node)) (env : Env)
    (h : (argument doc "InstanceID").isSome = true) :
    Refines s (setAvtransportUri s (newRequest doc)).state
      (transportInput doc env .setAvTransportUri) := by
  rw [setAvtransportUri, withInstanceid_some _ _ _ h]
  rcases upnpGetString_cases doc "CurrentURI" with ⟨uri, harg, hget⟩ | ⟨harg, e, hget⟩
  · simp only [hget, transportInput, harg]
    refine ⟨?_, [], by simp [outputSilanSetUri], rfl⟩
    by_cases hplaying : s.transportState = .playing <;>
      simp [deckOf, Deck.step, Deck.setUri, outputSilanSetUri, hplaying,
        replaceTransportUriAndMeta, replaceCurrentUriAndMeta]
  · simp only [hget, transportInput, harg]
    exact Refines.nothing s

theorem refines_setNextUri (s : AvTransport) (doc : Option (List Node)) (env : Env)
    (h : (argument doc "InstanceID").isSome = true) :
    Refines s (setNextAvtransportUri s (newRequest doc)).state
      (transportInput doc env .setNextAvTransportUri) := by
  rw [setNextAvtransportUri, withInstanceid_some _ _ _ h]
  rcases upnpGetString_cases doc "NextURI" with ⟨uri, harg, hget⟩ | ⟨harg, e, hget⟩
  · simp only [hget, transportInput, harg]
    rcases upnpGetString_cases doc "NextURIMetaData" with ⟨metadata, -, hmeta⟩ | ⟨-, e, hmeta⟩
    · simp only [hmeta]
      exact ⟨by simp [deckOf, Deck.step, outputSilanSetNextUri], [],
        by simp [outputSilanSetNextUri], rfl⟩
    · simp only [hmeta]
      exact ⟨by simp [deckOf, Deck.step, outputSilanSetNextUri], [],
        by simp [outputSilanSetNextUri], rfl⟩
  · simp only [hget, transportInput, harg]
    exact Refines.nothing s

theorem refines_position (s : AvTransport) (doc : Option (List Node)) (env : Env)
    (h : (argument doc "InstanceID").isSome = true) :
    Refines s (getPositionInfo env s (newRequest doc)).state
      (transportInput doc env .getPositionInfo) := by
  rw [getPositionInfo, withInstanceid_some _ _ _ h]
  simp only [updateTrackTime, outputSilanGetPosition, sendCmd_position, transportInput]
  cases positionReply env with
  | none =>
    refine ⟨?_, [⟨.slmpGetTimePos, 0, none, (env .slmpGetTimePos).msgsnd⟩], rfl, rfl⟩
    simp [deckOf, Input.ofPosition, Deck.step, SilanData.record, SilanData.setStatus]
  | some p =>
    refine ⟨?_, [⟨.slmpGetTimePos, 0, none, (env .slmpGetTimePos).msgsnd⟩], rfl, rfl⟩
    simp [deckOf, Input.ofPosition, Deck.step, SilanData.record, SilanData.setStatus,
      SilanData.storeData]

theorem deckOf_changeTransportState (s : AvTransport) (new : TransportState)
    (hnew : new ≠ .noMediaPresent) :
    deckOf (changeTransportState s new hnew) = { deckOf s with state := new } := by
  simp [deckOf, changeTransportState_values]

theorem refines_stop (s : AvTransport) (doc : Option (List Node)) (env : Env)
    (h : (argument doc "InstanceID").isSome = true) :
    Refines s (stop env s (newRequest doc)).state (transportInput doc env .stop) := by
  rw [stop, withInstanceid_some _ _ _ h]
  simp only [outputSilanStop_eq, transportInput]
  cases hstate : s.transportState with
  | stopped =>
    refine ⟨?_, [], by simp, ?_⟩ <;> simp [Deck.step, Deck.stop, deckOf, hstate, commands]
  | noMediaPresent =>
    refine ⟨?_, [], by simp, ?_⟩ <;> simp [Deck.step, Deck.stop, deckOf, hstate, commands]
  | playing | transitioning | pausedRecording | recording | pausedPlayback =>
    refine ⟨?_, [⟨.slmpStop, 0, none, (env .slmpStop).msgsnd⟩], rfl, ?_⟩
    · simp only [toStopped, deckOf_changeTransportState, Deck.step]
      simp [Deck.stop, deckOf, hstate, SilanData.record]
    · simp [Deck.step, Deck.stop, deckOf, hstate, commands, sentCommand]

theorem refines_pause (s : AvTransport) (doc : Option (List Node)) (env : Env)
    (h : (argument doc "InstanceID").isSome = true) :
    Refines s (pauseStream env s (newRequest doc)).state (transportInput doc env .pause) := by
  rw [pauseStream, withInstanceid_some _ _ _ h]
  simp only [outputSilanPause_eq, transportInput]
  cases hstate : s.transportState with
  | playing =>
    refine ⟨?_, [⟨.slmpPause, 0, none, (env .slmpPause).msgsnd⟩], ?_, ?_⟩
    · cases hok : (env .slmpPause).msgsnd
      · simp [Deck.step, Deck.pause, deckOf, hstate, SilanData.record]
      · simp only [if_true, ne_eq, not_true, if_false, toPausedPlayback,
          deckOf_changeTransportState]
        simp [Deck.step, Deck.pause, deckOf, hstate, SilanData.record]
    · cases hok : (env .slmpPause).msgsnd <;> simp [SilanData.record, toPausedPlayback]
    · simp [Deck.step, Deck.pause, deckOf, hstate, commands, sentCommand]
  | stopped | transitioning | pausedRecording | recording | pausedPlayback | noMediaPresent =>
    refine ⟨?_, [], by simp, ?_⟩ <;> simp [Deck.step, Deck.pause, deckOf, hstate, commands]

/-- Starting to play moves the current track to the advertised one. -/
theorem deckOf_startPlaying_ok (s : AvTransport) (env : Env) (e : ActionEvent)
    (h : (outputSilanPlay env s.silan).2 = 0) :
    deckOf (startPlaying env s e).state =
      (deckOf { s with silan := (outputSilanPlay env s.silan).1 }).started := by
  simp [startPlaying, h, toPlaying, deckOf, Deck.started, replaceCurrentUriAndMeta,
    Store.getVar, changeTransportState_values]

theorem startPlaying_failed (s : AvTransport) (env : Env) (e : ActionEvent)
    (h : (outputSilanPlay env s.silan).2 ≠ 0) :
    (startPlaying env s e).state = { s with silan := (outputSilanPlay env s.silan).1 } := by
  simp [startPlaying, h]

theorem startPlaying_silan (s : AvTransport) (env : Env) (e : ActionEvent) :
    (startPlaying env s e).state.silan = (outputSilanPlay env s.silan).1 := by
  simp only [startPlaying]
  split_ifs <;> rfl

theorem refines_startPlaying (s : AvTransport) (env : Env) (e : ActionEvent)
    (hstate : s.transportState = .stopped ∨ s.transportState = .pausedPlayback) :
    Refines s (startPlaying env s e).state
      (.play (env .slmpPlayUri).msgsnd (env .slmpPause).msgsnd) := by
  unfold Refines
  rw [startPlaying_silan]
  cases huri : s.silan.uri with
  | some uri =>
    have hplay := outputSilanPlay_some env s.silan uri huri
    refine ⟨?_, [⟨.slmpPlayUri, 0, some uri, (env .slmpPlayUri).msgsnd⟩], ?_, ?_⟩
    · cases hok : (env .slmpPlayUri).msgsnd with
      | true =>
        rw [deckOf_startPlaying_ok s env e (by simp [hplay, hok]), hplay]
        simp [Deck.step, Deck.play, hstate, Deck.started, Deck.handedOver, deckOf, huri, playedUri,
          SilanData.record, SilanData.setStatus]
      | false =>
        rw [startPlaying_failed s env e (by simp [hplay, hok]), hplay]
        simp [Deck.step, Deck.play, hstate, Deck.handedOver, deckOf, huri, playedUri, SilanData.record,
          SilanData.setStatus]
    · rw [hplay]
      simp [playedUri, SilanData.record, SilanData.setStatus]
    · simp [Deck.step, Deck.play, hstate, deckOf, huri, commands, sentCommand]
  | none =>
    have hplay := outputSilanPlay_none env s.silan huri
    by_cases hpause : s.silan.state = slmpStatePause
    · rw [if_pos hpause, outputSilanPause_eq] at hplay
      refine ⟨?_, [⟨.slmpPause, 0, none, (env .slmpPause).msgsnd⟩], ?_, ?_⟩
      · cases hok : (env .slmpPause).msgsnd with
        | true =>
          rw [deckOf_startPlaying_ok s env e (by simp [hplay, hok]), hplay]
          simp [Deck.step, Deck.play, hstate, Deck.started, deckOf, huri, hpause, SilanData.record]
        | false =>
          rw [startPlaying_failed s env e (by simp [hplay, hok]), hplay]
          simp [Deck.step, Deck.play, hstate, deckOf, huri, hpause, SilanData.record]
      · rw [hplay]
        rfl
      · simp [Deck.step, Deck.play, hstate, deckOf, huri, hpause, commands, sentCommand]
    · rw [if_neg hpause] at hplay
      refine ⟨?_, [], ?_, ?_⟩
      · rw [startPlaying_failed s env e (by simp [hplay]), hplay]
        simp [Deck.step, Deck.play, hstate, deckOf, huri, hpause]
      · simp [hplay]
      · simp [Deck.step, Deck.play, hstate, deckOf, huri, hpause, commands]

/-- Variables that the deck does not show may be replaced. -/
theorem Refines.of_deckOf_eq {s t s' : AvTransport} {i : Input} (h : Refines t s' i)
    (hdeck : deckOf t = deckOf s) (hsilan : t.silan = s.silan) : Refines s s' i := by
  unfold Refines at h ⊢
  rw [← hdeck, ← hsilan]
  exact h

theorem refines_play (s : AvTransport) (doc : Option (List Node)) (env : Env)
    (h : (argument doc "InstanceID").isSome = true) :
    Refines s (play env s (newRequest doc)).state (transportInput doc env .play) := by
  rw [play, withInstanceid_some _ _ _ h]
  simp only [transportInput]
  cases hstate : s.transportState with
  | stopped =>
    refine (refines_startPlaying ⟨.stopped, s.vars.replaceVar .relTimePos kZeroTime, s.silan⟩
      env (newRequest doc) (Or.inl rfl)).of_deckOf_eq ?_ rfl
    simp [deckOf, hstate]
  | pausedPlayback => exact refines_startPlaying s env (newRequest doc) (Or.inr hstate)
  | playing | transitioning | pausedRecording | recording | noMediaPresent =>
    refine ⟨?_, [], by simp, ?_⟩ <;> simp [Deck.step, Deck.play, deckOf, hstate, commands]

theorem refines_seek (s : AvTransport) (doc : Option (List Node)) (env : Env) :
    Refines s (seek env s (newRequest doc)).state .nothing := by
  cases hsought : soughtTarget doc with
  | some target =>
    rw [seek_of_sought env s hsought]
    refine ⟨?_, [seekCmd env (parseUpnpTime target)], rfl, rfl⟩
    split_ifs <;> simp [deckOf, Deck.step, SilanData.record]
  | none =>
    rw [seek_of_not_sought env s hsought]
    exact Refines.nothing s

theorem refines_transportActions (s : AvTransport) (doc : Option (List Node)) (env : Env)
    (cmd : TransportCmd) :
    Refines s (transportActions env s (newRequest doc) cmd).state
      (if (argument doc "InstanceID").isSome then transportInput doc env cmd else .nothing) := by
  by_cases h : (argument doc "InstanceID").isSome = true
  · rw [if_pos h]
    have hreport := reportVariables_state s doc
    cases cmd with
    | getPositionInfo => exact refines_position s doc env h
    | pause => exact refines_pause s doc env h
    | play => exact refines_play s doc env h
    | seek => exact refines_seek s doc env
    | setAvTransportUri => exact refines_setUri s doc env h
    | stop => exact refines_stop s doc env h
    | setNextAvTransportUri => exact refines_setNextUri s doc env h
    | getCurrentTransportActions | getDeviceCapabilities | getMediaInfo | getTransportInfo
    | getTransportSettings =>
      simp only [transportActions, getCurrentTransportactions, getDeviceCaps, getMediaInfo,
        getTransportInfo, getTransportSettings, hreport]
      exact Refines.nothing s
  · rw [if_neg h, transportActions_missing s env cmd h]
    exact Refines.nothing s

/-- The output module changes in nothing that its deck shows. -/
structure Untouched (d d' : SilanData) : Prop where
  state : d'.state = d.state
  uri : d'.uri = d.uri
  uriNext : d'.uriNext = d.uriNext
  spdifin : d'.status .spdifin = d.status .spdifin
  duration : d'.duration = d.duration
  position : d'.position = d.position
  sent : ∃ new, d'.sent = d.sent ++ new ∧ commands new = []

theorem Untouched.refl (d : SilanData) : Untouched d d :=
  ⟨rfl, rfl, rfl, rfl, rfl, rfl, [], by simp, rfl⟩

theorem Untouched.trans {d d' d'' : SilanData} (h : Untouched d d') (h' : Untouched d' d'') :
    Untouched d d'' := by
  obtain ⟨new, hnew, hcmd⟩ := h.sent
  obtain ⟨new', hnew', hcmd'⟩ := h'.sent
  exact ⟨h'.state.trans h.state, h'.uri.trans h.uri, h'.uriNext.trans h.uriNext,
    h'.spdifin.trans h.spdifin, h'.duration.trans h.duration, h'.position.trans h.position,
    new ++ new', by rw [hnew', hnew, List.append_assoc],
    by rw [commands, List.filterMap_append, ← commands, ← commands, hcmd, hcmd']; rfl⟩

theorem Untouched.refines {s : AvTransport} {d : SilanData} (h : Untouched s.silan d) :
    Refines s { s with silan := d } .nothing := by
  refine ⟨?_, h.sent⟩
  simp [deckOf, Deck.step, h.state, h.uri, h.uriNext, h.spdifin, h.duration, h.position]

/-- Setting a bit other than SPDIF-in, writing a pin and sending other commands. -/
theorem untouched_setStatus (d : SilanData) (b : StatusBit) (v : Bool) (hb : b ≠ .spdifin) :
    Untouched d (d.setStatus b v) :=
  ⟨rfl, rfl, rfl, Function.update_of_ne hb.symm _ _, rfl, rfl, [], by simp [SilanData.setStatus],
    rfl⟩

theorem untouched_gpioWrite (d : SilanData) (num : Gpio) (value : ℤ) :
    Untouched d (d.gpioWrite num value) :=
  ⟨rfl, rfl, rfl, rfl, rfl, rfl, [], by simp [SilanData.gpioWrite], rfl⟩

theorem untouched_sendCmd (env : Env) (d : SilanData) (cmd : Cmd) (param : ℤ)
    (data : Option String) (hbit : cmd.bit = none)
    (hcmd : ∀ ok, sentCommand ⟨cmd, param, data, ok⟩ = none) :
    Untouched d (outputSilanSendCmd env d cmd param data).1 := by
  rw [sendCmd_of_bit_none _ _ _ _ _ hbit]
  exact ⟨rfl, rfl, rfl, rfl, rfl, rfl, [⟨cmd, param, data, (env cmd).msgsnd⟩], rfl,
    by simp [commands, hcmd]⟩

theorem untouched_setVolume (env : Env) (d : SilanData) (v : ℤ) :
    Untouched d (outputSilanSetVolume env d v).1 := by
  have hset : Untouched d { d with mute := 0, volume := v } :=
    ⟨rfl, rfl, rfl, rfl, rfl, rfl, [], by simp, rfl⟩
  exact hset.trans (untouched_sendCmd env _ .slmpSetVolume v none rfl fun _ => rfl)

theorem untouched_setMute (env : Env) (d : SilanData) (m : ℤ) :
    Untouched d (outputSilanSetMute env d m).1 := by
  have hset : ∀ d : SilanData, Untouched d { d with mute := m } := fun d =>
    ⟨rfl, rfl, rfl, rfl, rfl, rfl, [], by simp, rfl⟩
  simp only [outputSilanSetMute]
  split_ifs
  · exact (untouched_sendCmd env d .slmpMute m none rfl fun _ => rfl).trans (hset _)
  · exact hset d

theorem untouched_setAmpMute (d : SilanData) (m : Bool) :
    Untouched d (outputSilanSetAmpMute d m) := by
  unfold outputSilanSetAmpMute
  by_cases hm : m ≠ d.status .ampMute
  · rw [if_pos hm]
    exact (untouched_gpioWrite d _ _).trans (untouched_setStatus _ _ _ nofun)
  · rw [if_neg hm]
    exact untouched_setStatus d _ _ nofun

theorem untouched_setAmpPower (d : SilanData) (m : Bool) :
    Untouched d (outputSilanSetAmpPower d m) := by
  unfold outputSilanSetAmpPower
  by_cases hm : m ≠ d.status .ampPower
  · rw [if_pos hm]
    exact ((untouched_setAmpMute d true).trans (untouched_gpioWrite _ _ _)).trans
      (untouched_setStatus _ _ _ nofun)
  · rw [if_neg hm]
    exact untouched_setStatus d _ _ nofun

theorem untouched_controlSetVolume (env : Env) (s : Control) (v : ℤ) :
    Untouched s.silan (upnpControlSetVolume env s v).1.silan :=
  untouched_setVolume env s.silan _

theorem untouched_controlSetMute (env : Env) (s : Control) (v : ℤ) :
    Untouched s.silan (upnpControlSetMute env s v).1.silan :=
  untouched_setMute env s.silan v

theorem untouched_controlActions (env : Env) (s : Control) (e : ActionEvent) (cmd : ControlCmd) :
    Untouched s.silan (controlActions env s e cmd).state.silan := by
  rcases controlActions_state env s e cmd with hstate | ⟨value, hstate⟩ | ⟨value, hstate⟩
  · rw [hstate]
    exact Untouched.refl _
  · rw [hstate]
    exact untouched_controlSetMute env s value
  · rw [hstate]
    exact untouched_controlSetVolume env s value

theorem untouched_volumeKey (env : Env) (s : Control) (dir : ℤ) :
    Untouched s.silan (volumeKey env s dir).silan := by
  unfold volumeKey
  split_ifs
  · have hset : Untouched s.silan { s.silan with volume := volumeChange s.silan.volume dir } :=
      ⟨rfl, rfl, rfl, rfl, rfl, rfl, [], by simp, rfl⟩
    exact hset.trans (untouched_controlSetVolume env
      ⟨s.vars, { s.silan with volume := volumeChange s.silan.volume dir }⟩ _)
  · exact Untouched.refl _

theorem untouched_watchAmpMute (c : Counters) (d : SilanData) :
    Untouched d (watchAmpMute c d).2 := by
  unfold watchAmpMute
  split_ifs
  · exact Untouched.refl d
  · exact untouched_setAmpMute d false
  · exact Untouched.refl d
  · exact Untouched.refl d

theorem untouched_watchSpdifin (c : Counters) (d : SilanData) (lock : Option ℤ) :
    Untouched d (watchSpdifin c d lock).2 := by
  unfold watchSpdifin
  split_ifs
  · exact Untouched.refl d
  · exact untouched_setAmpPower d true
  · exact Untouched.refl d
  · exact untouched_setAmpPower d false
  · exact Untouched.refl d
  · exact Untouched.refl d

/-- Switching to SPDIF-in shows in its bit only. -/
theorem untouched_setSpdifin (env : Env) (d : SilanData) :
    Untouched (d.setStatus .spdifin true) (outputSilanSetSpdifin env d) := by
  unfold outputSilanSetSpdifin
  split_ifs with h
  · have hsame : d.setStatus .spdifin true = d := by
      simp [SilanData.setStatus, ← h]
    rw [hsame]
    exact Untouched.refl d
  · exact (untouched_sendCmd env _ .setPadMux _ none rfl fun _ => rfl).trans
      (untouched_sendCmd env _ .spdifIn 0 none rfl fun _ => rfl)

theorem deckOf_playStopped (s : AvTransport) :
    deckOf (transitionFromOutput s .playStopped) = (deckOf s).cleared := by
  simp only [transitionFromOutput, toStopped, deckOf_changeTransportState]
  simp [deckOf, Deck.cleared, replaceTransportUriAndMeta, replaceCurrentUriAndMeta]

theorem deckOf_playStartedNextStream (s : AvTransport) :
    deckOf (transitionFromOutput s .playStartedNextStream) = { deckOf s with
      avUri := (deckOf s).nextAvUri
      curTrackUri := (deckOf s).nextAvUri
      nextAvUri := "" } := by
  simp [deckOf, transitionFromOutput, replaceTransportUriAndMeta, replaceCurrentUriAndMeta,
    Store.getVar]

theorem refines_radio (env : Env) (s : AvTransport) :
    Refines s (transitionFromOutput { s with silan := outputSilanSetSpdifin env s.silan }
      .playStopped) .radio := by
  have hset := untouched_setSpdifin env s.silan
  refine ⟨?_, ?_⟩
  · rw [deckOf_playStopped]
    simp [deckOf, Deck.step, Deck.cleared, hset.state, hset.uri, hset.uriNext, hset.spdifin,
      hset.duration, hset.position, SilanData.setStatus]
  · obtain ⟨new, hnew, hcmd⟩ := hset.sent
    exact ⟨new, by rw [transitionFromOutput_silan]; exact hnew, hcmd⟩

theorem refines_toSpdifin (env : Env) (s : AvTransport) :
    Refines s { s with silan := outputSilanSetSpdifin env s.silan } .toSpdifin := by
  have hset := untouched_setSpdifin env s.silan
  refine ⟨?_, hset.sent⟩
  simp [deckOf, Deck.step, hset.state, hset.uri, hset.uriNext, hset.spdifin, hset.duration,
    hset.position, SilanData.setStatus]

theorem refines_playState (s : AvTransport) (m : Message) (env : Env)
    (hdes : m.des = swaSignalUi) (hcmd : m.cmd = .slmpPlayState) :
    Refines s (receive s m env) (.playState m.param (env .slmpPlayUri).msgsnd) := by
  have hended : endOfStream { s.silan with state := m.param } =
      ((deckOf s).reported m.param).ended := rfl
  simp only [receive, outputSilanRecvCmd, hdes, hcmd, storeMessage, ne_eq, not_true, if_false,
    hended, decide_true, Bool.true_and]
  unfold Refines
  by_cases hend : ((deckOf s).reported m.param).ended = true
  · rw [if_pos hend]
    cases hnext : s.silan.uriNext with
    | some uri =>
      rw [step_playState_next hend hnext]
      simp only [finishStream, sendCmd_of_bit_none _ _ .slmpPlayUri _ _ rfl,
        deckOf_playStartedNextStream, transitionFromOutput_silan]
      refine ⟨?_, [⟨.slmpPlayUri, 0, some uri, (env .slmpPlayUri).msgsnd⟩], ?_, ?_⟩
      · simp [Deck.advanced, Deck.reported, deckOf, hnext, takeNext, SilanData.record]
      · simp [takeNext, SilanData.record]
      · simp [commands, sentCommand]
    | none =>
      rw [step_playState_last hend hnext]
      simp only [finishStream, deckOf_playStopped, transitionFromOutput_silan]
      exact ⟨by simp [Deck.cleared, Deck.reported, deckOf, hnext], [], by simp, rfl⟩
  · rw [if_neg hend, step_playState_of_not_ended hend]
    exact ⟨rfl, [], by simp, rfl⟩

theorem refines_receive (s : AvTransport) (m : Message) (env : Env) :
    Refines s (receive s m env) (messageInput m env) := by
  unfold messageInput
  by_cases hdes : m.des = swaSignalUi
  · rw [if_neg (not_not.mpr hdes)]
    cases hcmd : m.cmd with
    | slmpPlayState => exact refines_playState s m env hdes hcmd
    | slmpSetTimePos | slmpSetTotalTime | slmpGetMute | slmpGetVolume | other code =>
      refine ⟨?_, [], ?_, rfl⟩
      · simp [receive, outputSilanRecvCmd, hdes, hcmd, storeMessage, SilanData.storeData,
          SilanData.setStatus, deckOf, Deck.step]
      · simp [receive, outputSilanRecvCmd, hdes, hcmd, storeMessage, SilanData.storeData,
          SilanData.setStatus]
  · rw [if_pos hdes]
    have hsame : receive s m env = s := by simp [receive, outputSilanRecvCmd, hdes]
    rw [hsame]
    exact Refines.nothing s

theorem Refines.trans_untouched {s s' : AvTransport} {i : Input} {d : SilanData}
    (h : Refines s s' i) (hd : Untouched s'.silan d) : Refines s { s' with silan := d } i := by
  obtain ⟨hdeck, new, hnew, hcmd⟩ := h
  obtain ⟨new', hnew', hcmd'⟩ := hd.sent
  refine ⟨?_, new ++ new', ?_, ?_⟩
  · rw [← hdeck]
    simp [deckOf, hd.state, hd.uri, hd.uriNext, hd.spdifin, hd.duration, hd.position]
  · rw [← List.append_assoc, ← hnew]
    exact hnew'
  · rw [commands, List.filterMap_append, ← commands, ← commands, hcmd, hcmd', List.append_nil]

theorem refines_watchPlayer (env : Env) (c : Counters) (s : AvTransport) :
    Refines s { s with silan := (watchPlayer env c s.silan).2 }
      (if s.silan.state ≠ slmpStatePlay ∧ c.cntStop = silanAutoSpdifin then .toSpdifin
        else .nothing) := by
  unfold watchPlayer
  by_cases hplay : s.silan.state = slmpStatePlay
  · simp only [hplay, ne_eq, not_true, false_and, if_false, if_true]
    split_ifs
    · exact Refines.nothing s
    · exact (untouched_setAmpPower s.silan true).refines
  · rcases lt_trichotomy c.cntStop silanAutoSpdifin with hlt | heq | hgt
    · simp only [hplay, hlt, hlt.ne, and_false, if_false, if_true]
      exact Refines.nothing s
    · simp only [hplay, heq, lt_irrefl, ne_eq, not_false_iff, and_self, if_false, if_true]
      exact refines_toSpdifin env s
    · simp only [hplay, hgt.ne', hgt.not_gt, and_false, if_false]
      exact Refines.nothing s

theorem refines_idlePass (s : Renderer) (lock : Option ℤ) (env : Env) :
    Refines s.transport (s.handleIdlePass lock env).transport
      (if autoSpdifin s then .toSpdifin else .nothing) := by
  have hmute : ∀ c d, Untouched d (watchAmpMute c d).2 := untouched_watchAmpMute
  simp only [Renderer.handleIdlePass, Renderer.setSilan, idlePass]
  by_cases hspdifin : s.silan.status .spdifin = true
  · have hauto : autoSpdifin s = false := by simp [autoSpdifin, hspdifin]
    rw [hauto, if_pos hspdifin]
    exact ((untouched_watchSpdifin s.counters s.silan lock).refines (s := s.transport)).trans_untouched
      (hmute _ _)
  · have hoff : s.transport.silan.status .spdifin = false := Bool.eq_false_iff.mpr hspdifin
    rw [if_neg hspdifin]
    have hwatch := refines_watchPlayer env s.counters s.transport
    have hauto : (autoSpdifin s = true) ↔
        (s.transport.silan.state ≠ slmpStatePlay ∧ s.counters.cntStop = silanAutoSpdifin) := by
      unfold autoSpdifin Renderer.silan
      simp [hoff]
    simp only [hauto]
    exact hwatch.trans_untouched (hmute _ _)

/-- Every step of the renderer is a step of its deck. -/
theorem refines_step (s : Renderer) (e : Event) :
    Refines s.transport (s.step e).transport (input s e) := by
  cases e with
  | action a doc env =>
    cases a with
    | transport cmd => exact refines_transportActions s.transport doc env cmd
    | control cmd => exact (untouched_controlActions env s.controlPart (newRequest doc) cmd).refines
  | key k env =>
    cases k with
    | radio => exact refines_radio env s.transport
    | volumeUp => exact (untouched_volumeKey env s.controlPart 1).refines
    | volumeDown => exact (untouched_volumeKey env s.controlPart (-1)).refines
    | mute => exact (untouched_controlSetMute env s.controlPart _).refines
  | message m env => exact refines_receive s.transport m env
  | idlePass lock env => exact refines_idlePass s lock env

theorem deck_step (s : Renderer) (e : Event) :
    deck (s.step e) = ((deck s).step (input s e)).1 :=
  (refines_step s e).1

theorem commands_step (s : Renderer) (e : Event) :
    commands (newlySent s (s.step e)) = ((deck s).step (input s e)).2 := by
  obtain ⟨-, new, hnew, hcmd⟩ := refines_step s e
  have hsent : newlySent s (s.step e) = new := by
    unfold newlySent Renderer.silan
    rw [hnew, List.drop_left]
  rw [hsent, hcmd]
  rfl

section Inputs

/-- The commands of the deck that a step sends. -/
def sentCommands (s : Renderer) (e : Event) : List Command := commands (newlySent s (s.step e))

theorem sentCommands_eq (s : Renderer) (e : Event) :
    sentCommands s e = ((deck s).step (input s e)).2 := commands_step s e

/-- The events behind each input. -/
inductive EventInput (s : Renderer) : Event → Input → Prop
  | nothing (e : Event) : EventInput s e .nothing
  | setUri (doc : Option (List Node)) (env : Env) (uri : String)
      (hdoc : (argument doc "InstanceID").isSome = true)
      (harg : argument doc "CurrentURI" = some uri) :
      EventInput s (.action (.transport .setAvTransportUri) doc env) (.setUri uri)
  | setNextUri (doc : Option (List Node)) (env : Env) (uri : String)
      (hdoc : (argument doc "InstanceID").isSome = true)
      (harg : argument doc "NextURI" = some uri) :
      EventInput s (.action (.transport .setNextAvTransportUri) doc env) (.setNextUri uri)
  | play (doc : Option (List Node)) (env : Env)
      (hdoc : (argument doc "InstanceID").isSome = true) :
      EventInput s (.action (.transport .play) doc env)
        (.play (env .slmpPlayUri).msgsnd (env .slmpPause).msgsnd)
  | pause (doc : Option (List Node)) (env : Env)
      (hdoc : (argument doc "InstanceID").isSome = true) :
      EventInput s (.action (.transport .pause) doc env) (.pause (env .slmpPause).msgsnd)
  | stop (doc : Option (List Node)) (env : Env)
      (hdoc : (argument doc "InstanceID").isSome = true) :
      EventInput s (.action (.transport .stop) doc env) (.stop (env .slmpStop).msgsnd)
  | positionReply (doc : Option (List Node)) (env : Env) (p : ℤ)
      (hdoc : (argument doc "InstanceID").isSome = true) (hreply : positionReply env = some p) :
      EventInput s (.action (.transport .getPositionInfo) doc env) (.setPosition p)
  | radio (env : Env) : EventInput s (.key .radio env) .radio
  | timePos (m : Message) (env : Env) (hdes : m.des = swaSignalUi)
      (hcmd : m.cmd = .slmpSetTimePos) :
      EventInput s (.message m env) (.setPosition m.param)
  | totalTime (m : Message) (env : Env) (hdes : m.des = swaSignalUi)
      (hcmd : m.cmd = .slmpSetTotalTime) : EventInput s (.message m env) (.setDuration m.param)
  | playState (m : Message) (env : Env) (hdes : m.des = swaSignalUi)
      (hcmd : m.cmd = .slmpPlayState) :
      EventInput s (.message m env) (.playState m.param (env .slmpPlayUri).msgsnd)
  | toSpdifin (lock : Option ℤ) (env : Env) (hauto : autoSpdifin s = true) :
      EventInput s (.idlePass lock env) .toSpdifin

theorem eventInput_transport (s : Renderer) (doc : Option (List Node)) (env : Env)
    (cmd : TransportCmd) (hdoc : (argument doc "InstanceID").isSome = true) :
    EventInput s (.action (.transport cmd) doc env) (transportInput doc env cmd) := by
  cases cmd with
  | setAvTransportUri =>
    simp only [transportInput]
    split
    · exact .setUri doc env _ hdoc (by assumption)
    · exact .nothing _
  | setNextAvTransportUri =>
    simp only [transportInput]
    split
    · exact .setNextUri doc env _ hdoc (by assumption)
    · exact .nothing _
  | getPositionInfo =>
    cases hp : OutputSilan.positionReply env with
    | some p =>
      simpa only [transportInput, hp, Input.ofPosition] using
        EventInput.positionReply doc env p hdoc hp
    | none => simpa only [transportInput, hp, Input.ofPosition] using EventInput.nothing _
  | pause => exact .pause doc env hdoc
  | play => exact .play doc env hdoc
  | stop => exact .stop doc env hdoc
  | seek | getCurrentTransportActions | getDeviceCapabilities | getMediaInfo | getTransportInfo
  | getTransportSettings => exact .nothing _

theorem eventInput_message (s : Renderer) (m : Message) (env : Env) :
    EventInput s (.message m env) (messageInput m env) := by
  unfold messageInput
  split_ifs with hdes
  · exact .nothing _
  · rw [not_not] at hdes
    split
    · exact .timePos m env hdes (by assumption)
    · exact .totalTime m env hdes (by assumption)
    · exact .playState m env hdes (by assumption)
    · exact .nothing _

theorem eventInput (s : Renderer) (e : Event) : EventInput s e (input s e) := by
  cases e with
  | action act doc env =>
    cases act with
    | transport cmd =>
      simp only [input]
      split_ifs with hdoc
      · exact eventInput_transport s doc env cmd hdoc
      · exact .nothing _
    | control cmd => exact .nothing _
  | key k env =>
    cases k with
    | radio => exact .radio env
    | volumeUp | volumeDown | mute => exact .nothing _
  | message m env => exact eventInput_message s m env
  | idlePass lock env =>
    simp only [input]
    split_ifs with hauto
    · exact .toSpdifin lock env hauto
    · exact .nothing _

variable {s : Renderer} {e : Event}

/-- Only a Play action plays. -/
theorem isPlay_of_input {a b : Bool} (h : input s e = .play a b) : e.isPlay = true := by
  have hi := eventInput s e
  rw [h] at hi
  cases hi
  rfl

/-- Only a message tells the state of the player. -/
theorem input_eq_playState_iff {p : ℤ} {ok : Bool} : input s e = .playState p ok ↔
    ∃ m env, e = .message m env ∧ m.des = swaSignalUi ∧ m.cmd = .slmpPlayState ∧ m.param = p ∧
      (env .slmpPlayUri).msgsnd = ok := by
  constructor
  · intro h
    have hi := eventInput s e
    rw [h] at hi
    cases hi with
    | playState m env hdes hcmd => exact ⟨m, env, rfl, hdes, hcmd, rfl, rfl⟩
  · rintro ⟨m, env, rfl, hdes, hcmd, rfl, rfl⟩
    simp [input, messageInput, hdes, hcmd]

/-- Only the watchdog switches to SPDIF-in without stopping. -/
theorem input_eq_toSpdifin (h : input s e = .toSpdifin) :
    ∃ lock env, e = .idlePass lock env ∧ autoSpdifin s = true := by
  have hi := eventInput s e
  rw [h] at hi
  cases hi with
  | toSpdifin lock env hauto => exact ⟨lock, env, rfl, hauto⟩

end Inputs

section Reachable

variable (env : Env) (padmux volume mute : ℤ)

theorem deck_startUp : deck (startUp env padmux volume mute) =
    ⟨.stopped, "", "", "", slmpStateStop, none, none, true, 0, 0⟩ := by
  let d : SilanData := ⟨slmpStateStop, fun _ => false, none, none, mute, volume, 0, 0, padmux,
    [], []⟩
  have hpower := untouched_setAmpPower d true
  have hset := untouched_setSpdifin env (outputSilanSetAmpPower d true)
  have hinit : outputSilanInit env padmux volume mute =
    outputSilanSetSpdifin env (outputSilanSetAmpPower d true) := rfl
  simp only [deck, deckOf, startUp, hinit, transportDefaultValues]
  rw [hset.state, hset.uri, hset.uriNext, hset.spdifin, hset.duration, hset.position]
  simp only [SilanData.setStatus, Function.update_self]
  rw [hpower.state, hpower.uri, hpower.uriNext, hpower.duration, hpower.position]

theorem consistent_startUp : (deck (startUp env padmux volume mute)).Consistent := by
  rw [deck_startUp]
  exact ⟨nofun, nofun, rfl⟩

theorem consistent_step (s : Renderer) (e : Event) (h : (deck s).Consistent) :
    (deck (s.step e)).Consistent := by
  rw [deck_step]
  exact (stepped _ _).consistent h

/-- The URIs agree, or those of the transport are cleared, in every reachable state. -/
theorem consistent_run (es : List Event) :
    (deck (run Renderer.step (startUp env padmux volume mute) es)).Consistent :=
  run_invariant Renderer.step consistent_step (consistent_startUp env padmux volume mute) es

end Reachable

end GMediaRender.DeckRefinement
