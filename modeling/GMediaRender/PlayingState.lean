import GMediaRender.DeckRefinement

/-!
What the transport state PLAYING promises: a stream is started for the player while the
renderer says that it plays, and the output is not in SPDIF-in mode then. Both are broken
by code that acts without the transport state: the end of a stream with a next one
queued, the watchdog, and the resuming of a paused stream.
-/
namespace GMediaRender.PlayingState

open XmlDoc StateVariables ActionRequest OutputSilan UpnpTransport RendererSystem DeckModel
open DeckRefinement Runs

section Started

/-- At the end of a step that sends a URI, the transport state is PLAYING. -/
def StartsPlaying (s : Renderer) (e : Event) : Prop :=
  ∀ uri, .playUri uri true ∈ sentCommands s e → (s.step e).transport.transportState = .playing

/-- A message that ends the stream, with a next one queued that is then sent. -/
def SwitchesToNext (s : Renderer) : Event → Prop
  | .message m env =>
    m.des = swaSignalUi ∧ m.cmd = .slmpPlayState ∧
    endOfStream { s.silan with state := m.param } = true ∧ s.silan.uriNext ≠ none ∧
    (env .slmpPlayUri).msgsnd = true
  | _ => False

/-- A switch to the next stream comes while the transport state is PLAYING. -/
def SwitchesWhilePlaying (s : Renderer) (e : Event) : Prop :=
  SwitchesToNext s e → s.transport.transportState = .playing

/-- A step that starts no stream. -/
def StartsNothing (s : Renderer) (e : Event) : Prop :=
  ∀ uri, .playUri uri true ∉ sentCommands s e

/-- A Stop action that reaches its handler's body, or KEY_RADIO. -/
def Stops : Event → Prop
  | .action (.transport .stop) doc _ => (argument doc "InstanceID").isSome = true
  | .key .radio _ => True
  | _ => False

variable {s : Renderer} {e : Event}

theorem switchesToNext_iff : SwitchesToNext s e ↔ ∃ p uri, input s e = .playState p true ∧
    ((deck s).reported p).ended = true ∧ (deck s).uriNext = some uri := by
  constructor
  · intro h
    cases e with
    | message m env =>
      obtain ⟨hdes, hcmd, hend, hnext, hsend⟩ := h
      obtain ⟨uri, hnext⟩ := Option.ne_none_iff_exists'.mp hnext
      exact ⟨m.param, uri, input_eq_playState_iff.mpr ⟨m, env, rfl, hdes, hcmd, rfl, hsend⟩, hend,
        hnext⟩
    | action | key | idlePass => exact h.elim
  · rintro ⟨p, uri, hi, hend, hnext⟩
    obtain ⟨m, env, rfl, hdes, hcmd, rfl, hsend⟩ := input_eq_playState_iff.mp hi
    exact ⟨hdes, hcmd, hend, Option.ne_none_iff_exists'.mpr ⟨uri, hnext⟩, hsend⟩

/-- A URI is sent by a Play, which ends in PLAYING, or by a switch, which keeps the state. -/
theorem startsPlaying_iff_step (s : Renderer) (e : Event) :
    StartsPlaying s e ↔ SwitchesWhilePlaying s e := by
  have hstate : (s.step e).transport.transportState = ((deck s).step (input s e)).1.state :=
    congrArg Deck.state (deck_step s e)
  unfold StartsPlaying SwitchesWhilePlaying
  rw [hstate, switchesToNext_iff]
  constructor
  · rintro h ⟨p, uri, hi, hend, hnext⟩
    have hplaying := h uri (by
      rw [sentCommands_eq, mem_playUri_iff]
      exact Or.inr ⟨p, hi, hend, hnext⟩)
    rw [hi, step_playState_next hend hnext] at hplaying
    exact hplaying
  · intro h uri hsent
    rw [sentCommands_eq, mem_playUri_iff] at hsent
    rcases hsent with ⟨b, hi, hstopped, huri⟩ | ⟨p, hi, hend, hnext⟩
    · rw [hi, Deck.step, Deck.play_some hstopped huri]
      rfl
    · rw [hi, step_playState_next hend hnext]
      exact h ⟨p, uri, hi, hend, hnext⟩

/-- Nothing but a Play action moves the transport to PLAYING. -/
theorem not_playing_step (s : Renderer) (e : Event) (hs : s.transport.transportState ≠ .playing)
    (he : e.isPlay = false) : (s.step e).transport.transportState ≠ .playing := by
  have hstate : (s.step e).transport.transportState = ((deck s).step (input s e)).1.state :=
    congrArg Deck.state (deck_step s e)
  rw [hstate]
  apply (stepped (deck s) (input s e)).not_playing hs
  intro a b hi
  rw [isPlay_of_input hi] at he
  cases he

theorem startsNothing_iff_step (s : Renderer) (e : Event)
    (hs : s.transport.transportState ≠ .playing) (he : e.isPlay = false) :
    StartsNothing s e ↔ SwitchesWhilePlaying s e := by
  rw [← startsPlaying_iff_step]
  constructor
  · exact fun h uri hsent => absurd hsent (h uri)
  · exact fun h uri hsent => not_playing_step s e hs he (h uri hsent)

theorem not_playing_of_stops (s : Renderer) (e : Event) (he : Stops e) :
    (s.step e).transport.transportState ≠ .playing := by
  have hstate : (s.step e).transport.transportState = ((deck s).step (input s e)).1.state :=
    congrArg Deck.state (deck_step s e)
  rw [hstate]
  cases e with
  | action a doc env =>
    cases a with
    | transport cmd =>
      cases cmd with
      | stop =>
        have hdoc : (argument doc "InstanceID").isSome = true := he
        simp only [input, hdoc, if_true, transportInput]
        exact stop_not_playing _
      | _ => exact he.elim
    | control cmd => exact he.elim
  | key k env =>
    cases k with
    | radio => simp [input, Deck.step, Deck.cleared]
    | volumeUp | volumeDown | mute => exact he.elim
  | message | idlePass => exact he.elim

variable (env : Env) (padmux volume mute : ℤ) (es : List Event)

/-- In exactly the runs in which a switch to the next stream comes while PLAYING, a stream is
started in PLAYING only; and after Stop or KEY_RADIO nothing is started until the next Play
action, in exactly the runs without a switch. -/
theorem startsPlaying_iff :
    (AllSteps Renderer.step StartsPlaying (startUp env padmux volume mute) es ↔
      AllSteps Renderer.step SwitchesWhilePlaying (startUp env padmux volume mute) es) ∧
    ∀ pre e post, es = pre ++ e :: post → Stops e → (∀ f ∈ post, f.isPlay = false) →
      let s := run Renderer.step (startUp env padmux volume mute) (pre ++ [e])
      (AllSteps Renderer.step StartsNothing s post ↔
        AllSteps Renderer.step SwitchesWhilePlaying s post) := by
  constructor
  · exact allSteps_congr_of_invariant Renderer.step (I := fun _ => True) (fun _ _ _ => trivial)
      (fun s e _ => startsPlaying_iff_step s e) trivial es
  · rintro pre e post - he hpost
    apply allSteps_congr_of_labels Renderer.step not_playing_step startsNothing_iff_step _ hpost
    rw [run_append]
    exact not_playing_of_stops _ e he

/-- A stream that is stopped before its end, with another one queued. -/
theorem startsNothing_stopped :
    AllSteps Renderer.step StartsNothing
      (run Renderer.step (startUp allSent 0 0 0)
        [setUriAction "http://a/1.mp3", setNextUriAction "http://a/2.mp3", playAction, stopAction])
      [playerMessage .slmpPlayState slmpStateStop] :=
  ((startsPlaying_iff allSent 0 0 0
      [setUriAction "http://a/1.mp3", setNextUriAction "http://a/2.mp3", playAction, stopAction,
        playerMessage .slmpPlayState slmpStateStop]).2
    [setUriAction "http://a/1.mp3", setNextUriAction "http://a/2.mp3", playAction] stopAction
    [playerMessage .slmpPlayState slmpStateStop] rfl (by unfold stopAction Stops; decide +kernel)
    (by simp [playerMessage, Event.isPlay])).mpr
    ⟨fun h => absurd h.2.2.1 (by decide +kernel), trivial⟩

/-- The stream is stopped, and its end starts the queued one. -/
theorem not_startsPlaying_stopped :
    ¬AllSteps Renderer.step StartsPlaying (startUp allSent 0 0 0)
      [setUriAction "http://a/1.mp3", setNextUriAction "http://a/2.mp3", playAction,
        playerMessage .slmpSetTotalTime 100, playerMessage .slmpSetTimePos 100, stopAction,
        playerMessage .slmpPlayState slmpStateStop] := by
  rintro ⟨-, -, -, -, -, -, h, -⟩
  exact absurd (h "http://a/2.mp3" (by decide +kernel)) (by decide +kernel)

end Started

section InputMode

/-- While the transport state is PLAYING, the output is not in SPDIF-in mode. -/
def InputModeAgrees (s : Renderer) : Prop :=
  s.transport.transportState = .playing → s.silan.status .spdifin = false

/-- A Play action that resumes the paused player, and whose message is sent. -/
def ResumesPlayer (s : Renderer) (doc : Option (List Node)) (env : Env) : Prop :=
  (argument doc "InstanceID").isSome = true ∧
  (s.transport.transportState = .stopped ∨ s.transport.transportState = .pausedPlayback) ∧
  s.silan.uri = none ∧ s.silan.state = slmpStatePause ∧ (env .slmpPause).msgsnd = true

/-- The watchdog does not switch to SPDIF-in while PLAYING, and Play does not resume while the
output is in SPDIF-in mode. -/
def KeepsInputMode (s : Renderer) : Event → Prop
  | .idlePass _ _ => autoSpdifin s = true → s.transport.transportState ≠ .playing
  | .action (.transport .play) doc env => ResumesPlayer s doc env → s.silan.status .spdifin = false
  | _ => True

theorem inputModeAgrees_iff_step (s : Renderer) (e : Event) (h : InputModeAgrees s) :
    InputModeAgrees (s.step e) ↔ KeepsInputMode s e := by
  have hdeck : InputModeAgrees (s.step e) ↔ ((deck s).step (input s e)).1.ModeAgrees := by
    rw [← deck_step]
    rfl
  rw [hdeck]
  have hs : (deck s).ModeAgrees := h
  by_cases hplay : e.isPlay = true
  · obtain ⟨doc, env, rfl⟩ := Event.isPlay_iff.mp hplay
    by_cases hdoc : (argument doc "InstanceID").isSome = true
    · simp only [input, hdoc, if_true, transportInput, modeAgrees_play_iff hs, KeepsInputMode]
      constructor
      · rintro hmode ⟨-, hstate, huri, hplayer, hsend⟩
        exact hmode ⟨hstate, huri, hplayer⟩ hsend
      · rintro hmode ⟨hstate, huri, hplayer⟩ hsend
        exact hmode ⟨hdoc, hstate, huri, hplayer, hsend⟩
    · simp [input, hdoc, Deck.step, hs, KeepsInputMode, ResumesPlayer]
  · have hnot : ∀ a b, input s e ≠ .play a b := fun a b hi => hplay (isPlay_of_input hi)
    by_cases hto : input s e = .toSpdifin
    · obtain ⟨lock, env, rfl, hauto⟩ := input_eq_toSpdifin hto
      rw [hto]
      simp only [Deck.step, Deck.ModeAgrees, KeepsInputMode, hauto, reduceCtorEq]
      exact ⟨fun hm _ => hm, fun hm => hm trivial⟩
    · have hkeeps : KeepsInputMode s e := by
        cases e with
        | idlePass lock env =>
          intro hauto
          simp [input, hauto] at hto
        | action a doc env =>
          cases a with
          | transport cmd =>
            cases cmd with
            | play => exact absurd rfl hplay
            | _ => trivial
          | control cmd => trivial
        | key | message => trivial
      exact iff_of_true ((stepped _ _).modeAgrees hs hnot hto) hkeeps

/-- The mode agrees with the transport state in exactly the runs in which the watchdog does not
switch it while PLAYING and no Play action resumes the player in SPDIF-in mode. -/
theorem inputModeAgrees_iff (env : Env) (padmux volume mute : ℤ) (es : List Event) :
    AllSteps Renderer.step (fun s e => InputModeAgrees (s.step e)) (startUp env padmux volume mute)
        es ↔
      AllSteps Renderer.step KeepsInputMode (startUp env padmux volume mute) es := by
  apply allSteps_next_iff Renderer.step inputModeAgrees_iff_step
  have hstopped : (startUp env padmux volume mute).transport.transportState = .stopped := rfl
  simp [InputModeAgrees, hstopped]

/-- Playing is paused, the watchdog switches to SPDIF-in, and Play resumes. -/
def resumedAfterSwitch : List Event :=
  [setUriAction "http://a/1.mp3", playAction, playerMessage .slmpPlayState slmpStatePlay,
    pauseAction, playerMessage .slmpPlayState slmpStatePause] ++
  List.replicate 121 (.idlePass none allSent) ++ [playAction]

theorem not_inputModeAgrees_resumed :
    ¬InputModeAgrees (run Renderer.step (startUp allSent 0 0 0) resumedAfterSwitch) := by
  intro h
  exact absurd (h (by decide +kernel)) (by decide +kernel)

end InputMode

end GMediaRender.PlayingState
